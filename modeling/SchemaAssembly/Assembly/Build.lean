import SchemaAssembly.Assembly.Reference
import SchemaAssembly.Graph
import SchemaAssembly.Wiring

/-!
# Building finished types

A type is built from its definition by building, in order, all that the definition refers to, and
by binding the behaviours that the wiring provides. A type built once is kept, for output or for
input or for both, and used again. A type that is referred to while it is still in progress cannot
be used yet; such a reference is left as a placeholder.

The part of the work that concerns a single definition does not know how references are built; it
takes that as an argument. The recursion is tied in `SchemaAssembly.build`, along the names that
are not yet in progress.

## Main definitions

* `SchemaAssembly.fieldResolver`, `typeBinding`, `scalarType` — what a field, an abstract type
  and a scalar are bound to.
* `SchemaAssembly.buildNamed` — one type, given how references are built.
* `SchemaAssembly.Caches` — the types built so far.
* `SchemaAssembly.build` — one reference, with everything that it needs.

## Main results

* `SchemaAssembly.Registry.idle_cons_lt` — a type in progress leaves fewer names to start.
-/

set_option relaxedAutoImplicit false
set_option autoImplicit false

namespace SchemaAssembly

variable {B : Behaviours} {σ τ : Type}

/-! ## Binding behaviours -/

/-- What a field is bound to: the factory's fetcher if the factory claims the field, or else the
fetcher wired for the field, or else the property of the field's name. -/
def fieldResolver (registry : Registry) (wiring : Wiring B) (type : String)
    (field : FieldDefinition) : Except SchemaError (FieldResolver B) :=
  if wiring.factory.claimsField registry field then
    match wiring.factory.fetcherFor registry field with
    | some fetcher => .ok (.fetcher fetcher)
    | none => .error (.brokenClaim .dataFetcher field.name)
  else
    match wiring.fetcher? type field.name with
    | some fetcher => .ok (.fetcher fetcher)
    | none => .ok (.property field.name)

/-- What an interface or a union is bound to: the factory's resolver if the factory claims the
type, or else the resolver wired for it, if there is one. -/
def typeBinding (registry : Registry) (wiring : Wiring B) (type : TypeDefinition) :
    Except SchemaError (TypeResolverBinding B) :=
  if wiring.factory.claimsType registry type then
    match wiring.factory.resolverFor registry type with
    | some resolver => .ok (.wired resolver)
    | none => .error (.brokenClaim .typeResolver type.name)
  else .ok (.ofOption (wiring.resolver? type.name))

/-- The scalar wired for a definition, described as the definition says if it says anything. -/
def scalarType (wiring : Wiring B) (type : TypeDefinition) :
    Except SchemaError (ScalarType B) :=
  match wiring.scalar? type.name with
  | some scalar => .ok { scalar with description := type.description.or scalar.description }
  | none => .error (.missingScalar type.name type.position)

/-! ## One type -/

/-- A step of building: it reads and changes a state, and may stop at an error. -/
abbrev Build (σ : Type) := StateT σ (Except SchemaError)

/-- Builds an argument: its type, and the value of its default. -/
def buildArgument (visit : Reference → Build σ τ) (context : String)
    (argument : ArgumentDefinition) : Build σ (Argument τ) := do
  let type ← visit ⟨argument.type, .input, context, argument.position⟩
  return ⟨argument.name, argument.description, type, argument.default.map Literal.fold⟩

/-- Builds a field: what it is bound to, then its arguments, then its type. -/
def buildField (registry : Registry) (wiring : Wiring B) (visit : Reference → Build σ τ)
    (context : String) (field : FieldDefinition) : Build σ (Field B τ) := do
  let resolver ← fieldResolver registry wiring context field
  let arguments ← field.arguments.mapM (buildArgument visit context)
  let type ← visit ⟨field.type, .output, context, field.position⟩
  return ⟨field.name, field.description, arguments, type, resolver⟩

/-- Builds the parts of a type, except for a scalar. An abstract type is bound before its parts
are built. -/
def buildNamed (registry : Registry) (wiring : Wiring B) (visit : Reference → Build σ τ)
    (type : TypeDefinition) : Build σ (NamedType B τ) :=
  match type.shape with
  | .scalar => do
    let scalar ← scalarType wiring type
    return .ofScalar scalar
  | .object fields interfaces => do
    let fields ← (registry.effectiveFields type.name fields).mapM
      (buildField registry wiring visit type.name)
    let interfaces ← (registry.effectiveInterfaces type interfaces).mapM fun interface =>
      visit ⟨.ofName interface.1, .output, type.name, interface.2⟩
    return ⟨type.name, type.description, .object fields interfaces⟩
  | .interface fields => do
    let resolver ← typeBinding registry wiring type
    let fields ← (registry.effectiveFields type.name fields).mapM
      (buildField registry wiring visit type.name)
    return ⟨type.name, type.description, .interface fields resolver⟩
  | .union members => do
    let resolver ← typeBinding registry wiring type
    let members ← members.mapM fun member =>
      visit ⟨.ofName member, .output, type.name, type.position⟩
    return ⟨type.name, type.description, .union members resolver⟩
  | .enum values =>
    return ⟨type.name, type.description,
      .enum (values.map fun value => ⟨value.name, value.description⟩)⟩
  | .inputObject fields => do
    let fields ← fields.mapM (buildArgument visit type.name)
    return ⟨type.name, type.description, .inputObject fields⟩

/-! ## Types built so far -/

/-- The types built so far, for output and for input. Leaf types are kept on both sides. -/
structure Caches (B : Behaviours) where
  /-- The types that may be the type of a field. -/
  output : NameMap (GraphType B)
  /-- The types that may be the type of an argument. -/
  input : NameMap (GraphType B)

namespace Caches

/-- Nothing has been built. -/
def empty : Caches B := ⟨∅, ∅⟩

/-- The type of a name that was built for a place. -/
def find? (caches : Caches B) (place : Place) (name : String) : Option (GraphType B) :=
  match place with
  | .output => caches.output.get? name
  | .input => caches.input.get? name

/-- Keeps a finished type for every place where it may stand. -/
def keep (caches : Caches B) (type : GraphType B) : Caches B where
  output := if type.isOutput then caches.output.set type.name type else caches.output
  input := if type.isInput then caches.input.set type.name type else caches.input

end Caches

/-! ## Types in progress -/

/-- How many known names are not in progress. -/
def Registry.idle (registry : Registry) (inProgress : List String) : Nat :=
  (registry.knownNames.filter fun name => name ∉ inProgress).length

/-- Starting on a known name that is not in progress leaves fewer names to start. -/
theorem Registry.idle_cons_lt {registry : Registry} {inProgress : List String} {name : String}
    {type : TypeDefinition} (found : registry.find? name = some type)
    (fresh : name ∉ inProgress) : registry.idle (name :: inProgress) < registry.idle inProgress := by
  have hn := mem_knownNames_of_find? found
  unfold idle
  generalize registry.knownNames = known at hn
  have sub : ∀ names : List String,
      (names.filter fun n => n ∉ name :: inProgress).length ≤
        (names.filter fun n => n ∉ inProgress).length := by
    intro names
    rw [← List.countP_eq_length_filter, ← List.countP_eq_length_filter]
    exact List.countP_mono_left fun n _ h => by simp_all
  induction known with
  | nil => simp at hn
  | cons first rest ih =>
    by_cases hf : first = name
    · subst hf
      simpa [fresh, Nat.lt_succ_iff] using sub rest
    · have := ih (by simpa [Ne.symm hf] using hn)
      by_cases hp : first ∈ inProgress <;> simp_all

/-! ## References -/

/-- Builds what a reference refers to while the types `inProgress` are being built, the one
started last first. The reference has to name a known type. That type is taken from the caches if
it is there; else its kind has to suit the place; else it is left as a placeholder if it is in
progress; else it is built now, with itself in progress, and kept. -/
def build (registry : Registry) (wiring : Wiring B) (inProgress : List String)
    (reference : Reference) : Build (Caches B) (Occurrence B) := fun caches =>
  let name := reference.type.innermost
  match _found : registry.find? name with
  | none => .error reference.unknown
  | some type =>
    match caches.find? reference.place name with
    | some built => .ok ((Occurrence.concrete built).wrap reference.type.wrappers, caches)
    | none =>
      if !reference.place.admits type.kind then .error (reference.place.mismatch type)
      else if _fresh : name ∈ inProgress then
        .ok ((Occurrence.placeholder name).wrap reference.type.wrappers, caches)
      else do
        let (built, caches) ←
          buildNamed registry wiring (build registry wiring (name :: inProgress)) type caches
        return ((Occurrence.concrete built).wrap reference.type.wrappers, caches.keep built)
termination_by registry.idle inProgress
decreasing_by exact Registry.idle_cons_lt _found _fresh

end SchemaAssembly
