import SchemaAssembly.Proofs.Outcome

/-!
# Two assemblies side by side

Two registries, each with a wiring, are assembled alike if the builder goes through both in step. For
that it need not meet the same definitions. It is enough that the references it follows on one side
and on the other correspond, and that the types they name ask for the same work: they have the same
effective parts and the same behaviours bound, and refer to what corresponds again. What the two
sides report of a reference to an unknown type may differ, by where it says that the reference is.

## Main definitions

* `SchemaAssembly.SameUpTo` — two outcomes that differ at most in how a fault is reported.
* `SchemaAssembly.Parallel` — two steps that come out like that from every state.
* `SchemaAssembly.Registry.effectiveShape` — the effective parts of a definition.
* `SchemaAssembly.Counterparts` — two definitions that ask for the same work.
* `SchemaAssembly.InStep` — a correspondence of references that the builder keeps to.

## Main results

* `SchemaAssembly.Counterparts.parallel_buildNamed` — counterparts are built in parallel, if
  corresponding references are followed in parallel.
* `SchemaAssembly.InStep.parallel_build` — then corresponding references are built in parallel.
* `SchemaAssembly.InStep.sameUpTo_assembleGraph` — so that both sides are assembled alike.
-/

set_option relaxedAutoImplicit false
set_option autoImplicit false

namespace SchemaAssembly

variable {B : Behaviours} {σ τ α β : Type}

/-! ## Steps in parallel -/

/-- Two outcomes are the same, except that they may report a fault differently. -/
inductive SameUpTo {ε α : Type} (faults : ε → ε → Prop) : Except ε α → Except ε α → Prop
  /-- Both are faults. -/
  | error {fault fault' : ε} (h : faults fault fault') :
    SameUpTo faults (.error fault) (.error fault')
  /-- Both have the same result. -/
  | ok (a : α) : SameUpTo faults (.ok a) (.ok a)

/-- Outcomes that are the same up to equal faults are equal. -/
theorem SameUpTo.eq {ε α : Type} {outcome outcome' : Except ε α}
    (same : SameUpTo Eq outcome outcome') : outcome = outcome' := by
  cases same with
  | error h => rw [h]
  | ok a => rfl

/-- **Two steps go in parallel**: from every state they come out the same, with the same state then,
except that they may report a fault differently. -/
def Parallel (faults : SchemaError → SchemaError → Prop) (step step' : Build σ α) : Prop :=
  ∀ state, SameUpTo faults (step state) (step' state)

section Rules

variable {faults : SchemaError → SchemaError → Prop}

/-- Returning the same goes in parallel. -/
theorem parallel_pure (a : α) : Parallel faults (pure a : Build σ α) (pure a) := fun _ => .ok _

/-- Stopping at corresponding faults goes in parallel. -/
theorem parallel_throw {fault fault' : SchemaError} (h : faults fault fault') :
    Parallel faults (throw fault : Build σ α) (throw fault') := fun _ => .error h

/-- Lifting one outcome goes in parallel, if its fault is reported alike. -/
theorem parallel_liftM {outcome : Except SchemaError α}
    (h : ∀ fault, outcome = .error fault → faults fault fault) :
    Parallel faults (liftM outcome : Build σ α) (liftM outcome) := by
  cases outcome with
  | error fault => exact fun _ => .error (h fault rfl)
  | ok a => exact fun _ => .ok _

/-- To go in parallel is to go in tandem, with equal states and equal results. -/
theorem parallel_iff_inTandem {step step' : Build σ α} :
    Parallel faults step step' ↔ InTandem faults Eq Eq step step' := by
  constructor
  · rintro h state - rfl
    have same := h state
    generalize step state = outcome at same ⊢
    generalize step' state = outcome' at same ⊢
    cases same with
    | error related => exact .error related
    | ok result => exact .ok ⟨rfl, rfl⟩
  · intro h state
    have outcome := h state state rfl
    generalize step state = left at outcome ⊢
    generalize step' state = right at outcome ⊢
    cases outcome with
    | error related => exact .error related
    | @ok result result' same =>
      obtain rfl : result = result' := Prod.ext same.1 same.2
      exact .ok result

/-- Two steps one after the other go in parallel if each of them does. -/
theorem Parallel.bind {first first' : Build σ α} {second second' : α → Build σ β}
    (h : Parallel faults first first') (h' : ∀ a, Parallel faults (second a) (second' a)) :
    Parallel faults (first >>= second) (first' >>= second') := by
  rw [parallel_iff_inTandem] at h ⊢
  refine h.bind fun a b same => ?_
  subst same
  exact parallel_iff_inTandem.1 (h' a)

/-- Traversals go in parallel if the steps for corresponding items do. -/
theorem Parallel.mapM {γ : Type} {step : α → Build σ β} {step' : γ → Build σ β} {items : List α}
    {items' : List γ}
    (h : List.Forall₂ (fun item item' => Parallel faults (step item) (step' item')) items items') :
    Parallel faults (items.mapM step) (items'.mapM step') := by
  simp only [parallel_iff_inTandem] at h ⊢
  exact .mapM_eq h

/-- Traversals of the same items go in parallel if the steps for each of them do. -/
theorem Parallel.mapM_same {step step' : α → Build σ β} {items : List α}
    (h : ∀ item ∈ items, Parallel faults (step item) (step' item)) :
    Parallel faults (items.mapM step) (items.mapM step') :=
  .mapM (List.forall₂_same.2 h)

end Rules

/-! ## Faults -/

/-- Whether an error is about a reference to a name that nothing defines. -/
def SchemaError.isUnknownType : SchemaError → Bool
  | .unknownType _ _ _ => true
  | _ => false

/-- A type that does not suit a place is not about an unknown name. -/
theorem Place.isUnknownType_mismatch (place : Place) (type : TypeDefinition) :
    (place.mismatch type).isUnknownType = false := by
  cases place <;> rfl

section Faults

variable {registry : Registry} {wiring : Wiring B} {fault : SchemaError}

/-- What is wrong with the binding of a field is not about an unknown name. -/
theorem isUnknownType_of_fieldResolver {context : String} {field : FieldDefinition}
    (failed : fieldResolver registry wiring context field = .error fault) :
    fault.isUnknownType = false := by
  rw [fieldResolver_eq_error_iff, fieldFault] at failed
  split at failed <;> cases failed
  rfl

/-- What is wrong with the binding of an abstract type is not about an unknown name. -/
theorem isUnknownType_of_typeBinding {type : TypeDefinition}
    (failed : typeBinding registry wiring type = .error fault) : fault.isUnknownType = false := by
  rw [typeBinding_eq_error_iff, typeFault] at failed
  split at failed <;> cases failed
  rfl

/-- What is wrong with a scalar is not about an unknown name. -/
theorem isUnknownType_of_scalarType {type : TypeDefinition}
    (failed : scalarType wiring type = .error fault) : fault.isUnknownType = false := by
  rw [scalarType_eq_error_iff, scalarFault] at failed
  split at failed <;> cases failed
  rfl

end Faults

/-! ## Counterparts -/

/-- **The effective parts of a definition**: the effective fields of an object or an interface, and the
effective interfaces of an object. Other types have the parts that they list. -/
def Registry.effectiveShape (registry : Registry) (type : TypeDefinition) : TypeShape :=
  match type.shape with
  | .object fields interfaces => .object (registry.effectiveFields type.name fields)
    ((registry.effectiveInterfaces type interfaces).map Prod.fst)
  | .interface fields => .interface (registry.effectiveFields type.name fields)
  | shape => shape

/-- Extensions do not change what kind of type is defined. -/
theorem Registry.kind_effectiveShape (registry : Registry) (type : TypeDefinition) :
    (registry.effectiveShape type).kind = type.kind := by
  unfold effectiveShape TypeDefinition.kind
  cases type.shape <;> rfl

/-- **Two definitions ask for the same work**: they say the same, once extensions are merged in, and
the same behaviours are bound for them; and they refer to what corresponds. -/
structure Counterparts (registry registry' : Registry) (wiring wiring' : Wiring B)
    (moves : Reference → Reference → Prop) (type type' : TypeDefinition) : Prop where
  /-- The names are the same. -/
  name : type'.name = type.name
  /-- The descriptions are the same. -/
  description : type'.description = type.description
  /-- The positions are the same. -/
  position : type'.position = type.position
  /-- The effective parts are the same. -/
  shape : registry'.effectiveShape type' = registry.effectiveShape type
  /-- The same scalar is wired, for a scalar. -/
  scalar : type.kind = .scalar → scalarType wiring' type' = scalarType wiring type
  /-- The same resolver is bound, for an abstract type. -/
  binding : type.kind = .interface ∨ type.kind = .union →
    typeBinding registry' wiring' type' = typeBinding registry wiring type
  /-- Every effective field is bound to the same. -/
  fields : ∀ field ∈ registry.fieldsOf type,
    fieldResolver registry' wiring' type.name field = fieldResolver registry wiring type.name field
  /-- The references correspond, one by one. -/
  references : List.Forall₂ moves (registry.references type) (registry'.references type')

/-- Counterparts are of the same kind. -/
theorem Counterparts.kind {registry registry' : Registry} {wiring wiring' : Wiring B}
    {moves : Reference → Reference → Prop} {type type' : TypeDefinition}
    (counterparts : Counterparts registry registry' wiring wiring' moves type type') :
    type'.kind = type.kind := by
  rw [← registry'.kind_effectiveShape, counterparts.shape, registry.kind_effectiveShape]

section Bound

variable {registry registry' : Registry} {wiring wiring' : Wiring B}

/-- A field is bound to the same if the factories answer alike and the same fetcher is wired. -/
theorem fieldResolver_congr {context : String} {field : FieldDefinition}
    (claims : wiring'.factory.claimsField registry' field =
      wiring.factory.claimsField registry field)
    (provides : wiring.factory.claimsField registry field = true →
      wiring'.factory.fetcherFor registry' field = wiring.factory.fetcherFor registry field)
    (wired : wiring'.fetcher? context field.name = wiring.fetcher? context field.name) :
    fieldResolver registry' wiring' context field = fieldResolver registry wiring context field := by
  unfold fieldResolver
  rw [claims]
  cases h : wiring.factory.claimsField registry field with
  | true => simp only [if_true, provides h]
  | false => simp only [Bool.false_eq_true, if_false, wired]

/-- An abstract type is bound to the same if the factories answer alike and the same resolver is
wired. -/
theorem typeBinding_congr {type type' : TypeDefinition} (named : type'.name = type.name)
    (claims : wiring'.factory.claimsType registry' type' =
      wiring.factory.claimsType registry type)
    (provides : wiring.factory.claimsType registry type = true →
      wiring'.factory.resolverFor registry' type' = wiring.factory.resolverFor registry type)
    (wired : wiring'.resolver? type.name = wiring.resolver? type.name) :
    typeBinding registry' wiring' type' = typeBinding registry wiring type := by
  unfold typeBinding
  rw [claims, named]
  cases h : wiring.factory.claimsType registry type with
  | true => simp only [if_true, provides h]
  | false => simp only [Bool.false_eq_true, if_false, wired]

end Bound

/-- Where lists that begin alike correspond, their beginning corresponds to itself and their ends
correspond. -/
theorem forall₂_append_same {related : α → α → Prop} {items rest rest' : List α}
    (h : List.Forall₂ related (items ++ rest) (items ++ rest')) :
    List.Forall₂ related items items ∧ List.Forall₂ related rest rest' := by
  induction items with
  | nil => exact ⟨.nil, h⟩
  | cons item items ih =>
    obtain ⟨head, tail⟩ := List.forall₂_cons.1 h
    exact (ih tail).imp_left (.cons head)

section Builders

variable {registry registry' : Registry} {wiring wiring' : Wiring B}
  {faults : SchemaError → SchemaError → Prop} {visit visit' : Reference → Build σ τ}

/-- An argument is built in parallel if its reference is followed in parallel. -/
theorem parallel_buildArgument {context : String} {argument : ArgumentDefinition}
    (follows : Parallel faults (visit (argument.reference context))
      (visit' (argument.reference context))) :
    Parallel faults (buildArgument visit context argument)
      (buildArgument visit' context argument) :=
  follows.bind fun _ => parallel_pure _

variable (settled : ∀ fault, fault.isUnknownType = false → faults fault fault)

include settled

/-- A field is built in parallel if it is bound to the same and its references are followed in
parallel. -/
theorem parallel_buildField {context : String} {field : FieldDefinition}
    (bound : fieldResolver registry' wiring' context field =
      fieldResolver registry wiring context field)
    (follows : ∀ reference ∈ field.references context,
      Parallel faults (visit reference) (visit' reference)) :
    Parallel faults (buildField registry wiring visit context field)
      (buildField registry' wiring' visit' context field) := by
  unfold buildField
  rw [bound]
  have passed : Parallel faults
      (liftM (fieldResolver registry wiring context field) : Build σ (FieldResolver B)) _ :=
    parallel_liftM fun fault failed => settled fault (isUnknownType_of_fieldResolver failed)
  refine passed.bind fun resolver => ?_
  refine (Parallel.mapM_same fun argument h => ?_).bind fun arguments => ?_
  · exact parallel_buildArgument
      (follows _ (List.mem_append_left _ (List.mem_map_of_mem h)))
  · exact (follows _ (List.mem_append_right _ (.head _))).bind fun type => parallel_pure _

variable {moves : Reference → Reference → Prop}
  (follows : ∀ reference reference', moves reference reference' →
    Parallel faults (visit reference) (visit' reference'))

include follows

omit settled in
/-- Corresponding references are followed in parallel, one after the other. -/
theorem parallel_mapM_visit {γ δ : Type} {make : γ → Reference} {make' : δ → Reference}
    {items : List γ} {items' : List δ}
    (corresponding : List.Forall₂ moves (items.map make) (items'.map make')) :
    Parallel faults (items.mapM fun item => visit (make item))
      (items'.mapM fun item => visit' (make' item)) := by
  rw [List.forall₂_map_left_iff, List.forall₂_map_right_iff] at corresponding
  exact .mapM (corresponding.imp fun _ _ related => follows _ _ related)

/-- Fields are built in parallel, one after the other, if they are bound to the same and their
references correspond to themselves. -/
theorem parallel_mapM_buildField {context : String} {fields : List FieldDefinition}
    (bound : ∀ field ∈ fields, fieldResolver registry' wiring' context field =
      fieldResolver registry wiring context field)
    (corresponding : List.Forall₂ moves (fields.flatMap (·.references context))
      (fields.flatMap (·.references context))) :
    Parallel faults (fields.mapM (buildField registry wiring visit context))
      (fields.mapM (buildField registry' wiring' visit' context)) := by
  refine Parallel.mapM_same fun field h => parallel_buildField settled (bound field h) ?_
  intro reference made
  exact follows _ _ (List.forall₂_same.1 corresponding _ (List.mem_flatMap.2 ⟨field, h, made⟩))

variable {type type' : TypeDefinition}
  (counterparts : Counterparts registry registry' wiring wiring' moves type type')

include counterparts

/-- **Counterparts are built in parallel, if corresponding references are followed in parallel.**

**Proof sketch.** One case for each kind of definition. The effective parts are the same; that of an
object splits the references in those of its fields, which correspond to themselves, and those to its
interfaces. -/
theorem Counterparts.parallel_buildNamed :
    Parallel faults (buildNamed registry wiring visit type)
      (buildNamed registry' wiring' visit' type') := by
  have shape := counterparts.shape
  have references := counterparts.references
  have bound := counterparts.fields
  have binding := counterparts.binding
  have wired := counterparts.scalar
  unfold Registry.effectiveShape at shape
  unfold Registry.references Registry.interfaceReferences at references
  unfold Registry.fieldsOf at bound
  unfold TypeDefinition.kind at binding wired
  unfold buildNamed
  rw [counterparts.name, counterparts.description]
  rw [counterparts.name] at references shape
  have resolved : Parallel faults
      (liftM (typeBinding registry wiring type) : Build σ (TypeResolverBinding B)) _ :=
    parallel_liftM fun fault failed => settled fault (isUnknownType_of_typeBinding failed)
  cases h : type.shape with
  | scalar =>
    cases h' : type'.shape <;> simp only [h, h', reduceCtorEq] at shape
    simp only
    rw [wired (by rw [h]; rfl)]
    have passed : Parallel faults
        (liftM (scalarType wiring type) : Build σ (ScalarType B)) _ :=
      parallel_liftM fun fault failed => settled fault (isUnknownType_of_scalarType failed)
    exact passed.bind fun scalar => parallel_pure _
  | object own ownInterfaces =>
    cases h' : type'.shape <;> simp only [h, h', reduceCtorEq, TypeShape.object.injEq] at shape
    obtain ⟨fields, -⟩ := shape
    simp only [h, h'] at references bound
    simp only
    rw [fields] at references ⊢
    obtain ⟨ofFields, ofInterfaces⟩ := forall₂_append_same references
    refine (parallel_mapM_buildField settled follows bound ofFields).bind fun fields => ?_
    exact (parallel_mapM_visit follows ofInterfaces).bind fun interfaces => parallel_pure _
  | interface own =>
    cases h' : type'.shape <;> simp only [h, h', reduceCtorEq, TypeShape.interface.injEq] at shape
    simp only [h, h'] at references bound
    simp only
    rw [shape] at references ⊢
    rw [binding (by rw [h]; exact .inl rfl)]
    refine resolved.bind fun resolver => ?_
    exact (parallel_mapM_buildField settled follows bound references).bind
      fun fields => parallel_pure _
  | union members =>
    cases h' : type'.shape <;> simp only [h, h', reduceCtorEq, TypeShape.union.injEq] at shape
    simp only [h, h'] at references
    subst shape
    simp only
    rw [binding (by rw [h]; exact .inr rfl)]
    refine resolved.bind fun resolver => ?_
    exact (parallel_mapM_visit follows references).bind fun members => parallel_pure _
  | enum values =>
    cases h' : type'.shape <;> simp only [h, h', reduceCtorEq, TypeShape.enum.injEq] at shape
    subst shape
    exact parallel_pure _
  | inputObject fields =>
    cases h' : type'.shape <;> simp only [h, h', reduceCtorEq, TypeShape.inputObject.injEq] at shape
    simp only [h, h'] at references
    subst shape
    refine (Parallel.mapM_same fun field made => ?_).bind fun fields => parallel_pure _
    exact parallel_buildArgument
      (follows _ _ (List.forall₂_same.1 references _ (List.mem_map_of_mem made)))

end Builders

/-! ## Assembly in step -/

/-- **A correspondence of references that the builder keeps to.** Corresponding references are the
same but for the context and the position. Either both name nothing known, and then this is reported
in corresponding ways; or they name types that ask for the same work. -/
structure InStep (registry registry' : Registry) (wiring wiring' : Wiring B)
    (moves : Reference → Reference → Prop) (faults : SchemaError → SchemaError → Prop) : Prop where
  /-- Whatever is not about an unknown name is reported alike. -/
  settled : ∀ fault, fault.isUnknownType = false → faults fault fault
  /-- Corresponding references are written alike. -/
  type : ∀ reference reference', moves reference reference' → reference'.type = reference.type
  /-- Corresponding references are made from the same place. -/
  place : ∀ reference reference', moves reference reference' → reference'.place = reference.place
  /-- Corresponding references to an unknown name are reported in corresponding ways. -/
  unknown : ∀ reference reference', moves reference reference' →
    registry.find? reference.type.innermost = none →
      registry'.find? reference.type.innermost = none ∧ faults reference.unknown reference'.unknown
  /-- Corresponding references to known names are to types that ask for the same work. -/
  known : ∀ reference reference' type, moves reference reference' →
    registry.find? reference.type.innermost = some type →
      ∃ type', registry'.find? reference.type.innermost = some type' ∧
        Counterparts registry registry' wiring wiring' moves type type'

namespace InStep

variable {registry registry' : Registry} {wiring wiring' : Wiring B}
  {moves : Reference → Reference → Prop} {faults : SchemaError → SchemaError → Prop}
  (inStep : InStep registry registry' wiring wiring' moves faults)

include inStep

/-- **Corresponding references are built in parallel**, whatever is in progress.

**Proof sketch.** By induction on the names not in progress. Both sides are in the same state, so that
they find the same kept and the same in progress; the types they name are of the same kind. A type
that is built is built in parallel with its counterpart (`Counterparts.parallel_buildNamed`). -/
theorem parallel_build (inProgress : List String) {reference reference' : Reference}
    (corresponding : moves reference reference') :
    Parallel faults (build registry wiring inProgress reference)
      (build registry' wiring' inProgress reference') := by
  induction inProgress using registry.inProgress_induction generalizing reference reference' with
  | step inProgress outer =>
  intro caches
  have same : reference'.type = reference.type := inStep.type _ _ corresponding
  have place : reference'.place = reference.place := inStep.place _ _ corresponding
  cases found : registry.find? reference.type.innermost with
  | none =>
    obtain ⟨found', related⟩ := inStep.unknown _ _ corresponding found
    rw [build_unknown found, build_unknown (same ▸ found')]
    exact .error related
  | some type =>
  obtain ⟨type', found', counterparts⟩ := inStep.known _ _ type corresponding found
  rw [← same] at found'
  cases absent : caches.find? reference.place reference.type.innermost with
  | some built =>
    rw [build_kept found absent, build_kept found' (by rw [place, same, absent]), same]
    exact .ok _
  | none =>
  have absent' : caches.find? reference'.place reference'.type.innermost = none := by
    rw [place, same, absent]
  cases placed : reference.place.admits type.kind with
  | false =>
    rw [build_misplaced found absent placed,
      build_misplaced found' absent' (by rw [place, counterparts.kind, placed]), place]
    have report : reference.place.mismatch type' = reference.place.mismatch type := by
      cases reference.place <;>
        simp only [Place.mismatch, counterparts.name, counterparts.kind, counterparts.position]
    rw [report]
    exact .error (inStep.settled _ (reference.place.isUnknownType_mismatch type))
  | true =>
  have placed' : reference'.place.admits type'.kind = true := by
    rw [place, counterparts.kind, placed]
  by_cases begun : reference.type.innermost ∈ inProgress
  · rw [build_begun found absent placed begun,
      build_begun found' absent' placed' (by rw [same]; exact begun), same]
    exact .ok _
  · rw [build_idle found absent placed begun,
      build_idle found' absent' placed' (by rw [same]; exact begun), same]
    have built : Parallel faults
        (buildNamed registry wiring (build registry wiring _) type)
        (buildNamed registry' wiring' (build registry' wiring' _) type') :=
      counterparts.parallel_buildNamed inStep.settled
        fun _ _ corresponding => outer _ type found begun corresponding
    have outcome := built caches
    generalize buildNamed registry wiring _ type caches = left at outcome ⊢
    generalize buildNamed registry' wiring' _ type' caches = right at outcome ⊢
    cases outcome with
    | error related => exact .error related
    | ok result => exact .ok _

/-- The root type of an operation is built in parallel, if the reference to it corresponds to
itself. -/
theorem parallel_buildRoot {root : RootBinding}
    (corresponding : moves root.reference root.reference) :
    Parallel faults (buildRoot registry wiring root) (buildRoot registry' wiring' root) := by
  unfold buildRoot
  have own : (⟨.ofName root.typeName, .output, root.typeName, root.position⟩ : Reference) =
      root.reference := rfl
  have named : root.reference.type.innermost = root.typeName := rfl
  cases found : registry.find? root.typeName with
  | none =>
    obtain ⟨found', related⟩ := inStep.unknown _ _ corresponding (named ▸ found)
    rw [named] at found'
    rw [found']
    exact parallel_throw related
  | some type =>
    obtain ⟨type', found', counterparts⟩ := inStep.known _ _ type corresponding (named ▸ found)
    rw [named] at found'
    rw [found']
    simp only [counterparts.kind, own]
    by_cases object : type.kind = .object
    · simp only [object, ne_eq, not_true_eq_false, if_false]
      refine (inStep.parallel_build [] corresponding).bind fun occurrence => ?_
      cases occurrence with
      | concrete built => exact parallel_pure built
      | placeholder name => exact parallel_throw (inStep.settled _ rfl)
      | list inner => exact parallel_throw (inStep.settled _ rfl)
      | nonNull inner => exact parallel_throw (inStep.settled _ rfl)
    · simp only [object, ne_eq, not_false_eq_true, if_true]
      exact parallel_throw (inStep.settled _ rfl)

/-- The root type of an operation that may not be bound is built in parallel. -/
theorem parallel_optionalRoot {root : Option RootBinding}
    (corresponding : ∀ bound ∈ root, moves bound.reference bound.reference) :
    Parallel faults (root.mapM (buildRoot registry wiring))
      (root.mapM (buildRoot registry' wiring')) := by
  cases root with
  | none => exact parallel_pure none
  | some root =>
    exact (inStep.parallel_buildRoot (corresponding root rfl)).bind fun type => parallel_pure _

/-- The root types of a schema are built in parallel. -/
theorem parallel_buildRoots {schema : SchemaDefinition}
    (corresponding : ∀ root ∈ schema.boundRoots, moves root.reference root.reference) :
    Parallel faults (buildRoots registry wiring schema) (buildRoots registry' wiring' schema) := by
  have bound : ∀ operation, ∀ root ∈ schema.root? operation, moves root.reference root.reference :=
    fun operation root h => corresponding root (mem_boundRoots_iff.2 ⟨operation, h⟩)
  unfold buildRoots
  cases query : schema.root? .query with
  | none => exact parallel_throw (inStep.settled _ rfl)
  | some root =>
    refine (inStep.parallel_buildRoot (bound .query root query)).bind fun query => ?_
    refine (inStep.parallel_optionalRoot (bound .mutation)).bind fun mutation => ?_
    exact (inStep.parallel_optionalRoot (bound .subscription)).bind fun _ => parallel_pure _

/-- **Both sides are assembled alike**, if they have the same schema definition and the references to
its roots correspond to themselves. -/
theorem sameUpTo_assembleGraph (keyed : registry.Keyed) (wired : wiring.Keyed)
    (schema : registry'.schema = registry.schema)
    (corresponding : ∀ schema ∈ registry.schema, ∀ root ∈ schema.boundRoots,
      moves root.reference root.reference) :
    SameUpTo faults (assembleGraph registry wiring) (assembleGraph registry' wiring') := by
  cases defined : registry.schema with
  | none =>
    simp only [assembleGraph, schema, defined]
    exact .error (inStep.settled _ rfl)
  | some definition =>
    have outcome := inStep.parallel_buildRoots (corresponding definition defined) Caches.empty
    unfold assembleGraph
    rw [schema, defined]
    dsimp only
    generalize made : buildRoots registry wiring definition Caches.empty = left at outcome ⊢
    generalize buildRoots registry' wiring' definition Caches.empty = right at outcome ⊢
    cases outcome with
    | error related => exact .error related
    | ok result =>
      -- The graph has nothing dangling, so that no other report is made.
      obtain ⟨graph, last⟩ := result
      have nothing : graph.dangling = [] := by
        cases bound : definition.root? .query with
        | none =>
          simp only [buildRoots, bound] at made
          cases made
        | some query => exact (finished_of_buildRoots keyed wired bound made).2.1.dangling_eq_nil
      simp only [bind, Except.bind, nothing, List.head?_nil]
      exact .ok graph

end InStep

end SchemaAssembly
