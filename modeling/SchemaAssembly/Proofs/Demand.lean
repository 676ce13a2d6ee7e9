import SchemaAssembly.Assembly.Build

/-!
# What a definition demands

Building a type comes down to a list of demands, met one after the other: checks against the
wiring, and references to follow. The list is read off the definition alone. What becomes of the
references is left open, so that one list serves for building types and for merely searching them.

## Main definitions

* `SchemaAssembly.Registry.references` — the references that a definition makes, in order.
* `SchemaAssembly.fieldFault`, `typeFault`, `scalarFault` — what the wiring fails to provide.
* `SchemaAssembly.Demand`, `SchemaAssembly.demands` — the references with the checks between them.
* `SchemaAssembly.perform` — goes through demands, given how references are followed.
* `SchemaAssembly.NamedType.placed` — the references of a finished type with their places.

## Main results

* `SchemaAssembly.placed_buildNamed` — building a type goes through exactly its demands, and what
  it refers to is what following them returned.
-/

set_option relaxedAutoImplicit false
set_option autoImplicit false

namespace SchemaAssembly

variable {B : Behaviours} {σ τ : Type}

/-! ## References of a definition -/

/-- The reference that an argument, or an input field, of the type `context` makes. -/
def ArgumentDefinition.reference (context : String) (argument : ArgumentDefinition) : Reference :=
  ⟨argument.type, .input, context, argument.position⟩

/-- The references that a field of the type `context` makes: those of its arguments, then that of
its own type. -/
def FieldDefinition.references (context : String) (field : FieldDefinition) : List Reference :=
  field.arguments.map (·.reference context) ++ [⟨field.type, .output, context, field.position⟩]

namespace Registry

/-- The effective fields of an object or an interface. Other types have none. -/
def fieldsOf (registry : Registry) (type : TypeDefinition) : List FieldDefinition :=
  match type.shape with
  | .object fields _ | .interface fields => registry.effectiveFields type.name fields
  | _ => []

/-- The references that an object makes to the interfaces it implements, each from where the
interface is named first. -/
def interfaceReferences (registry : Registry) (type : TypeDefinition) (own : List String) :
    List Reference :=
  (registry.effectiveInterfaces type own).map fun interface =>
    ⟨.ofName interface.1, .output, type.name, interface.2⟩

/-- **The references of a definition**, in the order in which they are followed: for each effective
field its arguments and then its own type, then the effective interfaces; or the members of a
union; or the input fields of an input object. -/
def references (registry : Registry) (type : TypeDefinition) : List Reference :=
  match type.shape with
  | .object fields interfaces =>
    (registry.effectiveFields type.name fields).flatMap (·.references type.name) ++
      registry.interfaceReferences type interfaces
  | .interface fields =>
    (registry.effectiveFields type.name fields).flatMap (·.references type.name)
  | .union members => members.map fun member =>
    ⟨.ofName member, .output, type.name, type.position⟩
  | .inputObject fields => fields.map (·.reference type.name)
  | .scalar | .enum _ => []

end Registry

/-! ## Faults of the wiring -/

/-- The fault of a field that the factory claims without providing its fetcher. -/
def fieldFault (registry : Registry) (wiring : Wiring B) (field : FieldDefinition) :
    Option SchemaError :=
  if wiring.factory.claimsField registry field ∧
      wiring.factory.fetcherFor registry field = none then
    some (.brokenClaim .dataFetcher field.name)
  else none

/-- The fault of an interface or a union that the factory claims without providing its resolver. -/
def typeFault (registry : Registry) (wiring : Wiring B) (type : TypeDefinition) :
    Option SchemaError :=
  if wiring.factory.claimsType registry type ∧
      wiring.factory.resolverFor registry type = none then
    some (.brokenClaim .typeResolver type.name)
  else none

/-- The fault of a scalar that is not wired. -/
def scalarFault (wiring : Wiring B) (type : TypeDefinition) : Option SchemaError :=
  if wiring.scalar? type.name = none then some (.missingScalar type.name type.position) else none

/-- A field is bound to something exactly if there is no fault in it. -/
theorem fieldResolver_eq_error_iff {registry : Registry} {wiring : Wiring B} {type : String}
    {field : FieldDefinition} {fault : SchemaError} :
    fieldResolver registry wiring type field = .error fault ↔
      fieldFault registry wiring field = some fault := by
  unfold fieldResolver fieldFault
  cases wiring.factory.claimsField registry field
  · cases wiring.fetcher? type field.name <;> simp
  · cases wiring.factory.fetcherFor registry field <;> simp

/-- An abstract type is bound exactly if there is no fault in it. -/
theorem typeBinding_eq_error_iff {registry : Registry} {wiring : Wiring B}
    {type : TypeDefinition} {fault : SchemaError} :
    typeBinding registry wiring type = .error fault ↔
      typeFault registry wiring type = some fault := by
  unfold typeBinding typeFault
  cases wiring.factory.claimsType registry type
  · simp
  · cases wiring.factory.resolverFor registry type <;> simp

/-- A scalar is found exactly if there is no fault in it. -/
theorem scalarType_eq_error_iff {wiring : Wiring B} {type : TypeDefinition}
    {fault : SchemaError} :
    scalarType wiring type = .error fault ↔ scalarFault wiring type = some fault := by
  unfold scalarType scalarFault
  cases wiring.scalar? type.name <;> simp

/-- There is no fault in a field if its fetcher is provided once it is claimed. -/
theorem fieldFault_eq_none_iff {registry : Registry} {wiring : Wiring B}
    {field : FieldDefinition} :
    fieldFault registry wiring field = none ↔
      (wiring.factory.claimsField registry field = true →
        ∃ fetcher, wiring.factory.fetcherFor registry field = some fetcher) := by
  unfold fieldFault
  cases wiring.factory.claimsField registry field <;>
    cases wiring.factory.fetcherFor registry field <;> simp

/-- There is no fault in an abstract type if its resolver is provided once it is claimed. -/
theorem typeFault_eq_none_iff {registry : Registry} {wiring : Wiring B}
    {type : TypeDefinition} :
    typeFault registry wiring type = none ↔
      (wiring.factory.claimsType registry type = true →
        ∃ resolver, wiring.factory.resolverFor registry type = some resolver) := by
  unfold typeFault
  cases wiring.factory.claimsType registry type <;>
    cases wiring.factory.resolverFor registry type <;> simp

/-- There is no fault in a scalar if it is wired. -/
theorem scalarFault_eq_none_iff {wiring : Wiring B} {type : TypeDefinition} :
    scalarFault wiring type = none ↔ ∃ scalar, wiring.scalar? type.name = some scalar := by
  unfold scalarFault
  cases wiring.scalar? type.name <;> simp

/-! ## Demands -/

/-- One step in building a type. -/
inductive Demand
  /-- Nothing may be wrong with the wiring. -/
  | check (fault : Option SchemaError)
  /-- A reference has to be followed. -/
  | follow (reference : Reference)
deriving DecidableEq, Repr

/-- The demands of a field: it has to be bound, then its references are followed. -/
def FieldDefinition.demands (registry : Registry) (wiring : Wiring B) (context : String)
    (field : FieldDefinition) : List Demand :=
  .check (fieldFault registry wiring field) :: (field.references context).map .follow

/-- **The demands of a definition.** A scalar has to be wired. An abstract type has to be bound
before its parts are looked at, and so does each effective field. -/
def demands (registry : Registry) (wiring : Wiring B) (type : TypeDefinition) : List Demand :=
  match type.shape with
  | .scalar => [.check (scalarFault wiring type)]
  | .object fields interfaces =>
    (registry.effectiveFields type.name fields).flatMap (·.demands registry wiring type.name) ++
      (registry.interfaceReferences type interfaces).map .follow
  | .interface fields =>
    .check (typeFault registry wiring type) ::
      (registry.effectiveFields type.name fields).flatMap (·.demands registry wiring type.name)
  | .union members =>
    .check (typeFault registry wiring type) :: members.map fun member =>
      .follow ⟨.ofName member, .output, type.name, type.position⟩
  | .enum _ => []
  | .inputObject fields => fields.map fun field => .follow (field.reference type.name)

/-- The reference that a demand follows, if it follows one. -/
def Demand.reference? : Demand → Option Reference
  | .check _ => none
  | .follow reference => some reference

/-- The references among the demands of a field are the references of the field. -/
theorem filterMap_fieldDemands (registry : Registry) (wiring : Wiring B) (context : String)
    (field : FieldDefinition) :
    (field.demands registry wiring context).filterMap Demand.reference? =
      field.references context := by
  simp [FieldDefinition.demands, List.filterMap_cons, Demand.reference?, Function.comp_def]

/-- The references among the demands of a definition are the references of the definition. -/
theorem filterMap_demands (registry : Registry) (wiring : Wiring B) (type : TypeDefinition) :
    (demands registry wiring type).filterMap Demand.reference? = registry.references type := by
  unfold demands Registry.references
  cases type.shape <;>
    simp [List.filterMap_cons, List.filterMap_flatMap, filterMap_fieldDemands, Demand.reference?,
      Registry.interfaceReferences, Function.comp_def]

/-- A definition demands to follow exactly its references. -/
theorem follow_mem_demands_iff {registry : Registry} {wiring : Wiring B} {type : TypeDefinition}
    {reference : Reference} :
    .follow reference ∈ demands registry wiring type ↔
      reference ∈ registry.references type := by
  rw [← filterMap_demands registry wiring type, List.mem_filterMap]
  constructor
  · exact fun h => ⟨_, h, rfl⟩
  · rintro ⟨demand, h, hr⟩
    cases demand with
    | check fault => simp [Demand.reference?] at hr
    | follow other => simp_all [Demand.reference?]

/-- What a definition demands of the wiring: a codec for a scalar, a resolver for an abstract type
that is claimed, and a fetcher for every effective field that is claimed. -/
theorem check_mem_demands_iff {registry : Registry} {wiring : Wiring B} {type : TypeDefinition}
    {fault : Option SchemaError} :
    .check fault ∈ demands registry wiring type ↔
      (type.kind = .scalar ∧ fault = scalarFault wiring type) ∨
      ((type.kind = .interface ∨ type.kind = .union) ∧ fault = typeFault registry wiring type) ∨
      ∃ field ∈ registry.fieldsOf type, fault = fieldFault registry wiring field := by
  unfold demands Registry.fieldsOf TypeDefinition.kind
  cases type.shape <;> simp [TypeShape.kind, FieldDefinition.demands]

/-! ## Going through demands -/

/-- **Goes through demands**, one after the other: stops at the first check that fails, and
returns what following the references returned, each with the place of the reference. -/
def perform (visit : Reference → Build σ τ) : List Demand → Build σ (List (Place × τ))
  | [] => return []
  | .check none :: rest => perform visit rest
  | .check (some fault) :: _ => throw fault
  | .follow reference :: rest => do
    let first ← visit reference
    let others ← perform visit rest
    return (reference.place, first) :: others

/-- Going through two lists of demands is going through one and then through the other. -/
theorem perform_append (visit : Reference → Build σ τ) (first second : List Demand) :
    perform visit (first ++ second) = do
      let before ← perform visit first
      let after ← perform visit second
      return before ++ after := by
  induction first with
  | nil => simp [perform]
  | cons demand rest ih =>
    match demand with
    | .check none => simpa [perform] using ih
    | .check (some fault) => simp [perform]; rfl
    | .follow reference => simp [perform, ih]

/-- Going through references alone follows each of them. -/
theorem perform_map_follow (visit : Reference → Build σ τ) {α : Type} (make : α → Reference)
    (items : List α) :
    perform visit (items.map fun item => .follow (make item)) =
      items.mapM fun item => Prod.mk (make item).place <$> visit (make item) := by
  induction items with
  | nil => rfl
  | cons item rest ih => simp [perform, ih]

/-! ## Places of references -/

/-- The references that a finished field makes, with their places. -/
def Field.placed (field : Field B τ) : List (Place × τ) :=
  field.arguments.map (fun argument => (.input, argument.type)) ++ [(.output, field.type)]

/-- The references that a finished type makes, in the same order as `NamedType.references`, with
their places. -/
def NamedType.placed (type : NamedType B τ) : List (Place × τ) :=
  match type.body with
  | .object fields interfaces =>
    fields.flatMap Field.placed ++ interfaces.map fun interface => (.output, interface)
  | .interface fields _ => fields.flatMap Field.placed
  | .union members _ => members.map fun member => (.output, member)
  | .inputObject fields => fields.map fun field => (.input, field.type)
  | .scalar _ | .enum _ => []

/-- Without their places, the references of a field are left. -/
theorem Field.map_snd_placed (field : Field B τ) :
    field.placed.map Prod.snd = field.references := by
  simp [Field.placed, Field.references, Function.comp_def]

/-- Without their places, the references of a type are left. -/
theorem NamedType.map_snd_placed (type : NamedType B τ) :
    type.placed.map Prod.snd = type.references := by
  unfold NamedType.placed NamedType.references
  cases type.body <;> simp [List.map_flatMap, Field.map_snd_placed, Function.comp_def]

/-! ## Building goes through the demands -/

/-- Changing each result of a traversal changes the results together. -/
theorem map_mapM {α β γ : Type} (visit : α → Build σ β) (change : β → γ) (items : List α) :
    List.map change <$> items.mapM visit = items.mapM fun item => change <$> visit item := by
  induction items with
  | nil => simp
  | cons item rest ih => simp [← ih]

/-- Building arguments follows their references. -/
theorem placed_buildArguments (visit : Reference → Build σ τ) (context : String)
    (arguments : List ArgumentDefinition) :
    List.map (fun argument => (Place.input, argument.type)) <$>
        arguments.mapM (buildArgument visit context) =
      perform visit (arguments.map fun argument => .follow (argument.reference context)) := by
  rw [map_mapM, perform_map_follow]
  simp [buildArgument, ArgumentDefinition.reference]

/-- A step that may fail goes through the check of its fault, and then through whatever the rest
of the building goes through. -/
theorem map_lift_bind {α β : Type} {visit : Reference → Build σ τ}
    {outcome : Except SchemaError α} {fault : Option SchemaError} {rest : List Demand}
    {next : α → Build σ β} {change : β → List (Place × τ)}
    (agree : ∀ e, outcome = .error e ↔ fault = some e)
    (onward : ∀ a, change <$> next a = perform visit rest) :
    change <$> ((liftM outcome : Build σ α) >>= next) = perform visit (.check fault :: rest) := by
  cases outcome with
  | error e =>
    rw [(agree e).1 rfl]
    rfl
  | ok a =>
    have hf : fault = none := by
      rw [Option.eq_none_iff_forall_ne_some]
      intro e h
      have := (agree e).2 h
      contradiction
    rw [hf]
    exact onward a

/-- Building a field goes through its demands. -/
theorem placed_buildField (registry : Registry) (wiring : Wiring B)
    (visit : Reference → Build σ τ) (context : String) (field : FieldDefinition) :
    Field.placed <$> buildField registry wiring visit context field =
      perform visit (field.demands registry wiring context) := by
  have ha := placed_buildArguments visit context field.arguments
  refine map_lift_bind (fun e => fieldResolver_eq_error_iff) fun resolver => ?_
  simp only [FieldDefinition.references, List.map_append, List.map_map, perform_append,
    Function.comp_def, ← ha]
  simp [perform, Field.placed]

/-- Building fields goes through their demands. -/
theorem placed_buildFields (registry : Registry) (wiring : Wiring B)
    (visit : Reference → Build σ τ) (context : String) (fields : List FieldDefinition) :
    List.flatMap Field.placed <$> fields.mapM (buildField registry wiring visit context) =
      perform visit (fields.flatMap (·.demands registry wiring context)) := by
  induction fields with
  | nil => simp [perform]
  | cons field rest ih =>
    simp [perform_append, ← ih, ← placed_buildField]

/-- Following references that are all for output. -/
theorem placed_outputs (visit : Reference → Build σ τ) {α : Type} (make : α → Reference)
    (output : ∀ item, (make item).place = .output) (items : List α) :
    List.map (Prod.mk Place.output) <$> items.mapM (fun item => visit (make item)) =
      perform visit (items.map fun item => .follow (make item)) := by
  rw [map_mapM, perform_map_follow]
  simp [output]

/-- **Building a type goes through exactly its demands**: it stops where going through them stops,
leaves the state that going through them leaves, and refers to what following them returned.

**Proof sketch.** One case for each kind of definition. A check of the wiring is either passed, and
drops out of both sides, or it fails and stops both. Fields and arguments are traversals, which
`placed_buildFields` and `placed_buildArguments` take apart. -/
theorem placed_buildNamed (registry : Registry) (wiring : Wiring B)
    (visit : Reference → Build σ τ) (type : TypeDefinition) :
    NamedType.placed <$> buildNamed registry wiring visit type =
      perform visit (demands registry wiring type) := by
  unfold buildNamed demands
  cases type.shape with
  | scalar =>
    refine map_lift_bind (fun e => scalarType_eq_error_iff) fun scalar => ?_
    simp [NamedType.ofScalar, NamedType.placed, perform]
  | object fields interfaces =>
    have hf := placed_buildFields registry wiring visit type.name
      (registry.effectiveFields type.name fields)
    have hi := placed_outputs visit
      (fun interface : String × Position =>
        ⟨.ofName interface.1, .output, type.name, interface.2⟩) (fun _ => rfl)
      (registry.effectiveInterfaces type interfaces)
    simp only [Registry.interfaceReferences, List.map_map, perform_append, Function.comp_def,
      ← hf, ← hi]
    simp [NamedType.placed]
  | interface fields =>
    refine map_lift_bind (fun e => typeBinding_eq_error_iff) fun resolver => ?_
    rw [← placed_buildFields]
    simp [NamedType.placed]
  | union members =>
    have hm := placed_outputs visit
      (fun member => ⟨.ofName member, .output, type.name, type.position⟩) (fun _ => rfl) members
    refine map_lift_bind (fun e => typeBinding_eq_error_iff) fun resolver => ?_
    rw [← hm]
    simp [NamedType.placed]
  | enum values => simp [NamedType.placed, perform]
  | inputObject fields =>
    rw [← placed_buildArguments]
    simp [NamedType.placed]

end SchemaAssembly
