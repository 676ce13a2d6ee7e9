import SchemaAssembly.Proofs.Keyed
import SchemaAssembly.Proofs.Steps

/-!
# The parts of a built type

Everything that a built type is made of comes from its definition, from the wiring, or from the
references that were followed for it. What it is made of is said once here, for any way of following
references, so that nothing else has to look into the builder.

## Main definitions

* `SchemaAssembly.Argument.Mirrors`, `Field.Mirrors` — a finished argument or field against its
  definition.
* `SchemaAssembly.NamedType.MadeFrom` — a built type against its definition and the wiring.

## Main results

* `SchemaAssembly.yields_buildNamed` — a type that is built is made from its definition.
* `SchemaAssembly.realizes_buildNamed` — a type is built alike if its references are followed alike.
* `SchemaAssembly.ensures_buildNamed` — a type that is built has the name and the kind of its
  definition.
-/

set_option relaxedAutoImplicit false
set_option autoImplicit false

namespace SchemaAssembly

variable {B : Behaviours} {σ τ : Type}

/-! ## Parts against their definitions -/

/-- **A finished argument mirrors its definition**: it has the same name and description, refers to
what is declared, and has a default exactly if a literal is declared, namely the value of that
literal. When a reference is one to what is declared is left open. -/
structure Argument.Mirrors (spells : τ → TypeRef → Prop) (argument : Argument τ)
    (definition : ArgumentDefinition) : Prop where
  /-- The names are the same. -/
  name : argument.name = definition.name
  /-- The descriptions are the same. -/
  description : argument.description = definition.description
  /-- The type is the declared one. -/
  type : spells argument.type definition.type
  /-- The default is the value of the declared literal, if there is one. -/
  default : argument.default = definition.default.map Literal.fold

/-- **A finished field mirrors its definition**: it has the same name and description, arguments that
mirror those declared, one for each and in order, and refers to what is declared. -/
structure Field.Mirrors (spells : τ → TypeRef → Prop) (field : Field B τ)
    (definition : FieldDefinition) : Prop where
  /-- The names are the same. -/
  name : field.name = definition.name
  /-- The descriptions are the same. -/
  description : field.description = definition.description
  /-- The arguments mirror those declared. -/
  arguments : List.Forall₂ (Argument.Mirrors spells) field.arguments definition.arguments
  /-- The type is the declared one. -/
  type : spells field.type definition.type

/-- A field made from its definition mirrors it, and is bound to what the wiring has for it. -/
structure Field.MadeFrom (registry : Registry) (wiring : Wiring B) (spells : τ → TypeRef → Prop)
    (context : String) (field : Field B τ) (definition : FieldDefinition) : Prop
    extends field.Mirrors spells definition where
  /-- The field is bound to what the wiring has for it. -/
  resolver : fieldResolver registry wiring context definition = .ok field.resolver

/-- **What a built type is made of**: its definition, what the wiring has for it, and references to
what is declared, in the order of the effective parts. -/
def NamedType.MadeFrom (registry : Registry) (wiring : Wiring B) (spells : τ → TypeRef → Prop)
    (type : NamedType B τ) (definition : TypeDefinition) : Prop :=
  match definition.shape with
  | .scalar => ∃ scalar, scalarType wiring definition = .ok scalar ∧ type = .ofScalar scalar
  | .object own ownInterfaces => ∃ fields interfaces,
    type = ⟨definition.name, definition.description, .object fields interfaces⟩ ∧
      List.Forall₂ (Field.MadeFrom registry wiring spells definition.name) fields
        (registry.effectiveFields definition.name own) ∧
      List.Forall₂ (fun interface declared => spells interface (.ofName declared.1)) interfaces
        (registry.effectiveInterfaces definition ownInterfaces)
  | .interface own => ∃ fields resolver,
    type = ⟨definition.name, definition.description, .interface fields resolver⟩ ∧
      typeBinding registry wiring definition = .ok resolver ∧
      List.Forall₂ (Field.MadeFrom registry wiring spells definition.name) fields
        (registry.effectiveFields definition.name own)
  | .union declared => ∃ members resolver,
    type = ⟨definition.name, definition.description, .union members resolver⟩ ∧
      typeBinding registry wiring definition = .ok resolver ∧
      List.Forall₂ (fun member name => spells member (.ofName name)) members declared
  | .enum declared =>
    type = ⟨definition.name, definition.description,
      .enum (declared.map fun value => ⟨value.name, value.description⟩)⟩
  | .inputObject declared => ∃ fields,
    type = ⟨definition.name, definition.description, .inputObject fields⟩ ∧
      List.Forall₂ (Argument.Mirrors spells) fields declared

/-! ## What the builders yield -/

section Builders

variable {registry : Registry} {wiring : Wiring B} {sort : σ → Prop}
  {spells : τ → TypeRef → Prop} {visit : Reference → Build σ τ}
  (follows : ∀ reference, Yields sort (visit reference) (spells · reference.type))

include follows

/-- An argument that is built mirrors its definition. -/
theorem yields_buildArgument (context : String) (definition : ArgumentDefinition) :
    Yields sort (buildArgument visit context definition) (·.Mirrors spells definition) := by
  refine (follows _).bind fun type spelled => ?_
  exact yields_pure ⟨rfl, rfl, spelled, rfl⟩

/-- A field that is built is made from its definition. -/
theorem yields_buildField (context : String) (definition : FieldDefinition) :
    Yields sort (buildField registry wiring visit context definition)
      (Field.MadeFrom registry wiring spells context · definition) := by
  have bound : Yields sort
      (liftM (fieldResolver registry wiring context definition) : Build σ (FieldResolver B))
      fun resolver => fieldResolver registry wiring context definition = .ok resolver :=
    yields_liftM fun _ h => h
  refine bound.bind fun resolver found => ?_
  refine (Yields.mapM _ (yields_buildArgument follows context)).bind fun arguments mirrored => ?_
  refine (follows _).bind fun type spelled => ?_
  exact yields_pure ⟨⟨rfl, rfl, mirrored, spelled⟩, found⟩

/-- **A type that is built is made from its definition.**

**Proof sketch.** One case for each kind of definition, along the steps of building it. -/
theorem yields_buildNamed (definition : TypeDefinition) :
    Yields sort (buildNamed registry wiring visit definition)
      (·.MadeFrom registry wiring spells definition) := by
  have fields : ∀ own : List FieldDefinition, Yields sort
      ((registry.effectiveFields definition.name own).mapM
        (buildField registry wiring visit definition.name))
      fun built => List.Forall₂ (Field.MadeFrom registry wiring spells definition.name) built
        (registry.effectiveFields definition.name own) :=
    fun own => Yields.mapM _ (yields_buildField follows definition.name)
  have bound : Yields sort
      (liftM (typeBinding registry wiring definition) : Build σ (TypeResolverBinding B))
      fun resolver => typeBinding registry wiring definition = .ok resolver :=
    yields_liftM fun _ h => h
  unfold buildNamed NamedType.MadeFrom
  cases definition.shape with
  | scalar =>
    have wired : Yields sort (liftM (scalarType wiring definition) : Build σ (ScalarType B))
        fun scalar => scalarType wiring definition = .ok scalar :=
      yields_liftM fun _ h => h
    exact wired.bind fun scalar found => yields_pure ⟨scalar, found, rfl⟩
  | object own ownInterfaces =>
    refine (fields own).bind fun built made => ?_
    refine (Yields.mapM _ fun declared => follows _).bind fun interfaces spelled => ?_
    exact yields_pure ⟨built, interfaces, rfl, made, spelled⟩
  | interface own =>
    refine bound.bind fun resolver found => ?_
    refine (fields own).bind fun built made => ?_
    exact yields_pure ⟨built, resolver, rfl, found, made⟩
  | union declared =>
    refine bound.bind fun resolver found => ?_
    refine (Yields.mapM _ fun name => follows _).bind fun members spelled => ?_
    exact yields_pure ⟨members, resolver, rfl, found, spelled⟩
  | enum declared => exact yields_pure rfl
  | inputObject declared =>
    refine (Yields.mapM _ (yields_buildArgument follows definition.name)).bind
      fun built mirrored => ?_
    exact yields_pure ⟨built, rfl, mirrored⟩

end Builders

/-! ## What the builders realize -/

section Realized

variable {ρ : Type} {registry : Registry} {wiring : Wiring B} {view : σ → ρ} {sort : σ → Prop}
  {visit : Reference → Build σ τ} {plain : Reference → Build ρ τ}
  (follows : ∀ reference, Realizes view sort (visit reference) (plain reference))

include follows

/-- An argument is built alike if its reference is followed alike. -/
theorem realizes_buildArgument (context : String) (definition : ArgumentDefinition) :
    Realizes view sort (buildArgument visit context definition)
      (buildArgument plain context definition) :=
  (follows _).bind fun _ => realizes_pure _

/-- A field is built alike if its references are followed alike. -/
theorem realizes_buildField (context : String) (definition : FieldDefinition) :
    Realizes view sort (buildField registry wiring visit context definition)
      (buildField registry wiring plain context definition) := by
  refine (realizes_liftM _).bind fun resolver => ?_
  refine (Realizes.mapM _ (realizes_buildArgument follows context)).bind fun arguments => ?_
  exact (follows _).bind fun type => realizes_pure _

/-- **A type is built alike if its references are followed alike.** -/
theorem realizes_buildNamed (definition : TypeDefinition) :
    Realizes view sort (buildNamed registry wiring visit definition)
      (buildNamed registry wiring plain definition) := by
  have fields : ∀ own : List FieldDefinition, Realizes view sort
      ((registry.effectiveFields definition.name own).mapM
        (buildField registry wiring visit definition.name))
      ((registry.effectiveFields definition.name own).mapM
        (buildField registry wiring plain definition.name)) :=
    fun own => Realizes.mapM _ (realizes_buildField follows definition.name)
  unfold buildNamed
  cases definition.shape with
  | scalar => exact (realizes_liftM _).bind fun scalar => realizes_pure _
  | object own ownInterfaces =>
    refine (fields own).bind fun built => ?_
    exact (Realizes.mapM _ fun declared => follows _).bind fun interfaces => realizes_pure _
  | interface own =>
    refine (realizes_liftM _).bind fun resolver => ?_
    exact (fields own).bind fun built => realizes_pure _
  | union declared =>
    refine (realizes_liftM _).bind fun resolver => ?_
    exact (Realizes.mapM _ fun name => follows _).bind fun members => realizes_pure _
  | enum declared => exact realizes_pure _
  | inputObject declared =>
    exact (Realizes.mapM _ (realizes_buildArgument follows definition.name)).bind
      fun built => realizes_pure _

end Realized

/-! ## What a built type is called -/

section Called

variable {registry : Registry} {wiring : Wiring B} {spells : τ → TypeRef → Prop}
  {type : NamedType B τ} {definition : TypeDefinition}

/-- A type made from a definition has its name and its kind and, unless it is a scalar, its
description. -/
theorem NamedType.MadeFrom.heading (keyed : wiring.Keyed)
    (made : type.MadeFrom registry wiring spells definition) :
    type.name = definition.name ∧ type.kind = definition.kind ∧
      (definition.kind ≠ .scalar → type.description = definition.description) := by
  unfold NamedType.MadeFrom at made
  unfold TypeDefinition.kind
  cases shape : definition.shape <;> simp only [shape] at made
  case scalar =>
    obtain ⟨scalar, found, rfl⟩ := made
    unfold scalarType at found
    split at found
    · next wired h =>
      cases found
      have own : wired.name = definition.name := keyed.name_of_scalar? h
      exact ⟨own, rfl, fun other => absurd rfl other⟩
    · cases found
  case object =>
    obtain ⟨fields, interfaces, rfl, -⟩ := made
    exact ⟨rfl, rfl, fun _ => rfl⟩
  case interface =>
    obtain ⟨fields, resolver, rfl, -⟩ := made
    exact ⟨rfl, rfl, fun _ => rfl⟩
  case union =>
    obtain ⟨members, resolver, rfl, -⟩ := made
    exact ⟨rfl, rfl, fun _ => rfl⟩
  case enum =>
    rw [made]
    exact ⟨rfl, rfl, fun _ => rfl⟩
  case inputObject =>
    obtain ⟨fields, rfl, -⟩ := made
    exact ⟨rfl, rfl, fun _ => rfl⟩

/-- **A built type has the name and the kind of its definition.** -/
theorem ensures_buildNamed (keyed : wiring.Keyed) (visit : Reference → Build σ τ)
    (definition : TypeDefinition) :
    Ensures (buildNamed registry wiring visit definition) fun built =>
      built.name = definition.name ∧ built.kind = definition.kind := by
  have unspelled : ∀ reference : Reference,
      Yields (fun _ => True) (visit reference) fun _ => True :=
    fun _ _ _ _ _ _ => ⟨trivial, trivial⟩
  have made : Yields (fun _ => True) (buildNamed registry wiring visit definition)
      (·.MadeFrom registry wiring (fun _ _ => True) definition) :=
    yields_buildNamed unspelled definition
  refine ensures_iff_yields.2 (made.mono fun built made => ?_)
  obtain ⟨name, kind, -⟩ := made.heading keyed
  exact ⟨name, kind⟩

end Called

end SchemaAssembly
