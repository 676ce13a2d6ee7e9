import SchemaAssembly.Proofs.Parallel
import SchemaAssembly.Proofs.Registration

/-!
# Assembly looks at nothing but what the roots reach

Two registries may differ in any way outside of what their roots reach, and two wirings may, too:
assembly comes out the same, as a graph or as a fault. Even of a name that is reached not everything
counts. The extensions of an object count whole; those of an interface count for the fields that they
add; those of other types, and of names that nothing defines, do not count at all.

Definitions that cannot matter in this sense are inert, and may be added in any number. That a factory
is handed the whole registry is the one reservation: it has to answer alike before and after.

## Main definitions

* `SchemaAssembly.Registry.SameOnReached` — two registries know the same of what one reaches.
* `SchemaAssembly.WiredAlike` — two wirings bind the same to what a registry reaches.
* `SchemaAssembly.AnswerAlike` — two factories give the same answers for what a registry reaches.
* `SchemaAssembly.Registry.Inert` — definitions that cannot matter.

## Main results

* `SchemaAssembly.Registry.SameOnReached.assemble_eq` — where all three hold, assembly comes out the
  same.
* `SchemaAssembly.Registry.SameOnReached.addAll` — inert definitions leave all that is reached.
* `SchemaAssembly.assemble_local` — assembly depends on nothing but what the roots reach, so that
  inert definitions and the wiring of types that are not reached change nothing.
-/

set_option relaxedAutoImplicit false
set_option autoImplicit false

namespace SchemaAssembly

variable {B : Behaviours} {registry registry' : Registry} {wiring wiring' : Wiring B}

/-! ## Alike on what is reached -/

/-- **Two registries know the same of what the first reaches.** -/
structure Registry.SameOnReached (registry registry' : Registry) : Prop where
  /-- The schema definitions are the same. -/
  schema : registry'.schema = registry.schema
  /-- Every name reached is defined in the same way, or in neither. -/
  definitions : ∀ name, registry.Reachable name → registry'.find? name = registry.find? name
  /-- Every object reached has the same extensions. -/
  objects : ∀ name type, registry.Reachable name → registry.find? name = some type →
    type.kind = .object → registry'.extensionsOf name = registry.extensionsOf name
  /-- The extensions of every interface reached add the same fields in the same order. -/
  interfaces : ∀ name type, registry.Reachable name → registry.find? name = some type →
    type.kind = .interface →
    (registry'.extensionsOf name).flatMap TypeExtension.fields =
      (registry.extensionsOf name).flatMap TypeExtension.fields

/-- **Two wirings bind the same to what a registry reaches**, apart from their factories. -/
structure WiredAlike (registry : Registry) (wiring wiring' : Wiring B) : Prop where
  /-- The same scalar is wired under every name reached. -/
  scalars : ∀ name, registry.Reachable name → wiring'.scalar? name = wiring.scalar? name
  /-- The same fetchers are wired for every name reached. -/
  fetchers : ∀ name, registry.Reachable name →
    ∀ field, wiring'.fetcher? name field = wiring.fetcher? name field
  /-- The same resolver is wired for every name reached. -/
  resolvers : ∀ name, registry.Reachable name → wiring'.resolver? name = wiring.resolver? name

/-- **Two factories give the same answers for what a registry reaches**, each asked about its own
registry: they claim the same, and provide the same for what they claim. -/
structure AnswerAlike (registry registry' : Registry) (factory factory' : WiringFactory B) :
    Prop where
  /-- They give the same answers for every effective field reached. -/
  fields : ∀ name type, registry.Reachable name → registry.find? name = some type →
    ∀ field ∈ registry.fieldsOf type,
      factory'.claimsField registry' field = factory.claimsField registry field ∧
        (factory.claimsField registry field = true →
          factory'.fetcherFor registry' field = factory.fetcherFor registry field)
  /-- They give the same answers for every interface and every union reached. -/
  abstracts : ∀ name type, registry.Reachable name → registry.find? name = some type →
    type.kind = .interface ∨ type.kind = .union →
      factory'.claimsType registry' type = factory.claimsType registry type ∧
        (factory.claimsType registry type = true →
          factory'.resolverFor registry' type = factory.resolverFor registry type)

/-- A wiring binds the same as itself. -/
theorem WiredAlike.refl (registry : Registry) (wiring : Wiring B) :
    WiredAlike registry wiring wiring :=
  ⟨fun _ _ => rfl, fun _ _ _ => rfl, fun _ _ => rfl⟩

/-- A static factory gives the same answers for all registries. -/
theorem StaticFactory.answerAlike (factory : StaticFactory B) (registry registry' : Registry) :
    AnswerAlike registry registry' factory.toFactory factory.toFactory :=
  ⟨fun _ _ _ _ _ _ => ⟨rfl, fun _ => rfl⟩, fun _ _ _ _ _ => ⟨rfl, fun _ => rfl⟩⟩

/-- A factory gives the same answers as itself. -/
theorem AnswerAlike.refl (registry : Registry) (factory : WiringFactory B) :
    AnswerAlike registry registry factory factory :=
  ⟨fun _ _ _ _ _ _ => ⟨rfl, fun _ => rfl⟩, fun _ _ _ _ _ => ⟨rfl, fun _ => rfl⟩⟩

/-! ## Assembled alike -/

/-- A reference to a name that is reached corresponds to itself. -/
structure Registry.Shared (registry : Registry) (reference reference' : Reference) : Prop where
  /-- The references are the same. -/
  same : reference' = reference
  /-- The name is reached. -/
  reached : registry.Reachable reference.type.innermost

namespace Registry.SameOnReached

variable (same : registry.SameOnReached registry')

include same

section Parts

variable (keyed : registry.Keyed) {name : String} {type : TypeDefinition}
  (reached : registry.Reachable name) (found : registry.find? name = some type)

include keyed reached found

/-- The effective fields of an interface or an object reached are the same. -/
theorem effectiveFields_eq (composite : type.kind = .object ∨ type.kind = .interface)
    (own : List FieldDefinition) :
    registry'.effectiveFields type.name own = registry.effectiveFields type.name own := by
  unfold effectiveFields
  rw [keyed.name_of_find? found]
  rcases composite with object | interface
  · rw [same.objects name type reached found object]
  · rw [same.interfaces name type reached found interface]

/-- The effective interfaces of an object reached are the same. -/
theorem effectiveInterfaces_eq (object : type.kind = .object) (own : List String) :
    registry'.effectiveInterfaces type own = registry.effectiveInterfaces type own := by
  unfold effectiveInterfaces
  rw [keyed.name_of_find? found, same.objects name type reached found object]

/-- A definition that is reached has the same effective parts, and refers to the same. -/
theorem parts_eq :
    registry'.effectiveShape type = registry.effectiveShape type ∧
      registry'.references type = registry.references type := by
  have fields := same.effectiveFields_eq keyed reached found
  have interfaces := same.effectiveInterfaces_eq keyed reached found
  unfold effectiveShape references interfaceReferences
  unfold TypeDefinition.kind at fields interfaces
  cases shape : type.shape with
  | object own ownInterfaces =>
    rw [shape] at fields interfaces
    simp only [fields (.inl rfl), interfaces rfl, and_self]
  | interface own =>
    rw [shape] at fields
    simp only [fields (.inr rfl), and_self]
  | scalar | union | enum | inputObject => exact ⟨rfl, rfl⟩

end Parts

variable (wiredAlike : WiredAlike registry wiring wiring')
  (answerAlike : AnswerAlike registry registry' wiring.factory wiring'.factory)
  (keyed : registry.Keyed)

include wiredAlike answerAlike keyed

/-- A definition that is reached asks for the same work on both sides. -/
theorem counterparts {name : String} {type : TypeDefinition} (reached : registry.Reachable name)
    (found : registry.find? name = some type) :
    Counterparts registry registry' wiring wiring' registry.Shared type type := by
  obtain ⟨shape, references⟩ := same.parts_eq keyed reached found
  have own : type.name = name := keyed.name_of_find? found
  refine ⟨rfl, rfl, rfl, shape, fun _ => ?_, fun abstract => ?_, fun field effective => ?_, ?_⟩
  · unfold scalarType
    rw [own, wiredAlike.scalars name reached]
  · obtain ⟨claims, provides⟩ := answerAlike.abstracts name type reached found abstract
    exact typeBinding_congr rfl claims provides (own ▸ wiredAlike.resolvers name reached)
  · obtain ⟨claims, provides⟩ := answerAlike.fields name type reached found field effective
    exact fieldResolver_congr claims provides (own ▸ wiredAlike.fetchers name reached field.name)
  · rw [references]
    exact List.forall₂_same.2 fun reference made => ⟨rfl, reached.reference found made⟩

/-- The builder goes through both sides in step, and follows the same references. -/
theorem inStep :
    InStep registry registry' wiring wiring' registry.Shared Eq where
  settled _ _ := rfl
  type _ _ shared := by rw [shared.same]
  place _ _ shared := by rw [shared.same]
  unknown _ _ shared absent :=
    ⟨same.definitions _ shared.reached ▸ absent, by rw [shared.same]⟩
  known _ _ type shared found :=
    ⟨type, same.definitions _ shared.reached ▸ found,
      same.counterparts wiredAlike answerAlike keyed shared.reached found⟩

/-- **Where registries, wirings and factories are alike on what is reached, assembly comes out the
same.** -/
theorem assemble_eq (wired : wiring.Keyed) :
    assemble registry' wiring' = assemble registry wiring := by
  have outcome := (same.inStep wiredAlike answerAlike keyed).sameUpTo_assembleGraph keyed wired
    same.schema fun schema defined root bound => ⟨rfl, .root defined bound⟩
  unfold assemble
  rw [outcome.eq]

end Registry.SameOnReached

/-! ## Inert definitions -/

/-- **A definition is inert** for a registry if it cannot matter there: it is of a type that is not
reached; or it extends a name that is not reached, or is not defined, or is neither that of an object
nor that of an interface that gets any field from it. -/
def Registry.Inert (registry : Registry) : Definition → Prop
  | .type definition => ¬registry.Reachable definition.name
  | .extension definition => registry.Reachable definition.name →
    ∀ type, registry.find? definition.name = some type →
      type.kind ≠ .object ∧ (type.kind = .interface → definition.fields = [])
  | .schema _ => False

namespace Registry.SameOnReached

/-- A registry knows the same as itself. -/
theorem refl (registry : Registry) : registry.SameOnReached registry :=
  ⟨rfl, fun _ _ => rfl, fun _ _ _ _ _ => rfl, fun _ _ _ _ _ => rfl⟩

variable {current next : Registry} (same : registry.SameOnReached current)

include same

/-- An inert definition that is added leaves all that is reached. -/
theorem add {definition : Definition} (inert : registry.Inert definition)
    (added : current.add definition = .ok next) : registry.SameOnReached next := by
  have kept : next.schema = current.schema := by
    cases definition with
    | schema definition => exact inert.elim
    | type | extension => exact Option.ext fun schema => by simp [schema_add added]
  refine ⟨kept.trans same.schema, fun name reached => ?_, fun name type reached found object => ?_,
    fun name type reached found interface => ?_⟩
  · -- Only a type of the name itself would change what is found, and that is not reached.
    rw [← same.definitions name reached]
    refine find?_congr fun scalar => Option.ext fun type => ?_
    rw [typesOf_add added, or_iff_left]
    rintro ⟨rfl, -, rfl⟩
    exact inert reached
  · rw [extensionsOf_add added, same.objects name type reached found object]
    cases definition with
    | type | schema => simp [Definition.fragment?]
    | extension definition =>
      have other : definition.name ≠ name := by
        rintro rfl
        exact (inert reached type found).1 object
      simp [Definition.fragment?, other]
  · rw [extensionsOf_add added, List.flatMap_append,
      same.interfaces name type reached found interface]
    cases definition with
    | type | schema => simp [Definition.fragment?]
    | extension definition =>
      by_cases own : definition.name = name
      · subst own
        simp [Definition.fragment?, (inert reached type found).2 interface]
      · simp [Definition.fragment?, own]

/-- **Inert definitions, in any number, leave all that is reached**, whether they can be added or
not. -/
theorem addAll {definitions : List Definition}
    (inert : ∀ definition ∈ definitions, registry.Inert definition) :
    registry.SameOnReached (current.addAll definitions).1 := by
  induction definitions generalizing current with
  | nil => exact same
  | cons definition rest ih =>
    obtain ⟨first, others⟩ := List.forall_mem_cons.1 inert
    cases added : current.add definition with
    | ok next =>
      rw [addAll_cons_of_ok added]
      exact ih (same.add first added) others
    | error fault =>
      simp only [Registry.addAll, added]
      exact ih same others

end Registry.SameOnReached

/-! ## Checking that definitions are inert -/

namespace Registry

/-- Whether names contain the roots of a schema and, with each of them, all that it refers to. -/
def encloses (registry : Registry) (names : List String) : Bool :=
  (registry.schema.all fun schema => schema.boundRoots.all fun root => root.typeName ∈ names) &&
    names.all fun name => (registry.find? name).all fun type =>
      (registry.references type).all fun reference => reference.type.innermost ∈ names

/-- Whether a definition is inert, if nothing but the given names is reached. -/
def inertWithin (registry : Registry) (names : List String) : Definition → Bool
  | .type definition => definition.name ∉ names
  | .extension definition => definition.name ∉ names ||
    (registry.find? definition.name).all fun type =>
      type.kind ≠ .object && (type.kind ≠ .interface || definition.fields.isEmpty)
  | .schema _ => false

variable {names : List String}

/-- Nothing is reached outside of names that enclose the roots. -/
theorem mem_of_encloses (enclosed : registry.encloses names = true) {name : String}
    (reached : registry.Reachable name) : name ∈ names := by
  simp only [encloses, Bool.and_eq_true, Option.all_eq_true, List.all_eq_true,
    decide_eq_true_eq] at enclosed
  obtain ⟨roots, closed⟩ := enclosed
  induction reached with
  | root defined bound => exact roots _ defined _ bound
  | reference _ found made ih => exact closed _ ih _ found _ made

/-- Definitions that are inert within names that enclose the roots are inert. -/
theorem inert_of_inertWithin (enclosed : registry.encloses names = true)
    {definitions : List Definition} (passed : definitions.all (registry.inertWithin names) = true) :
    ∀ definition ∈ definitions, registry.Inert definition := by
  intro definition h
  have test := List.all_eq_true.1 passed definition h
  cases definition with
  | type definition =>
    intro reached
    exact of_decide_eq_true test (mem_of_encloses enclosed reached)
  | extension definition =>
    intro reached type found
    have within := mem_of_encloses enclosed reached
    simpa [inertWithin, within, found, or_iff_not_imp_left] using test
  | schema definition => cases test

end Registry

/-! ## Wiring that is not reached -/

/-- Wiring a type that is not reached binds the same to what is. -/
theorem WiredAlike.withType {added : TypeWiring B}
    (unreached : ¬registry.Reachable added.typeName) :
    WiredAlike registry wiring (wiring.withType added) := by
  have other : ∀ name, registry.Reachable name → name ≠ added.typeName := by
    rintro name reached rfl
    exact unreached reached
  refine ⟨fun _ _ => rfl, fun name reached field => ?_, fun name reached => ?_⟩
  · simp [Wiring.fetcher?, Wiring.fetchersOf, Wiring.withType, NameMap.update, other name reached]
  · unfold Wiring.resolver? Wiring.withType
    cases added.resolver <;> simp [other name reached]

/-- Wiring a scalar that is not reached binds the same to what is. -/
theorem WiredAlike.withScalar {scalar : ScalarType B}
    (unreached : ¬registry.Reachable scalar.name) :
    WiredAlike registry wiring (wiring.withScalar scalar) := by
  refine ⟨fun name reached => ?_, fun _ _ _ => rfl, fun _ _ => rfl⟩
  rw [Wiring.scalar?_withScalar, if_neg]
  rintro rfl
  exact unreached reached

/-! ## Locality -/

/-- **Assembly depends on nothing but what the roots reach.** It comes out the same, as a graph or as a
fault, wherever what is reached is the same; in particular if inert definitions are added, or if
something is wired for a type that is not reached, or as a scalar that is not.

**Proof sketch.** The builder goes through both sides in step and follows the same references on both,
each to a name that is reached (`Registry.SameOnReached.inStep`). All it looks up is therefore
something on which both sides agree. -/
theorem assemble_local {registry : Registry} {wiring : Wiring B} (keyed : registry.Keyed)
    (wired : wiring.Keyed) :
    (∀ (registry' : Registry) (wiring' : Wiring B), registry.SameOnReached registry' →
      WiredAlike registry wiring wiring' →
      AnswerAlike registry registry' wiring.factory wiring'.factory →
      assemble registry' wiring' = assemble registry wiring) ∧
    (∀ definitions, (∀ definition ∈ definitions, registry.Inert definition) →
      AnswerAlike registry (registry.addAll definitions).1 wiring.factory wiring.factory →
      assemble (registry.addAll definitions).1 wiring = assemble registry wiring) ∧
    (∀ added : TypeWiring B, ¬registry.Reachable added.typeName →
      assemble registry (wiring.withType added) = assemble registry wiring) ∧
    ∀ scalar : ScalarType B, ¬registry.Reachable scalar.name →
      assemble registry (wiring.withScalar scalar) = assemble registry wiring := by
  refine ⟨fun registry' wiring' same wiredAlike answerAlike => ?_,
    fun definitions inert answerAlike => ?_, fun added unreached => ?_,
    fun scalar unreached => ?_⟩
  · exact same.assemble_eq wiredAlike answerAlike keyed wired
  · exact ((Registry.SameOnReached.refl registry).addAll inert).assemble_eq
      (.refl registry wiring) answerAlike keyed wired
  · exact (Registry.SameOnReached.refl registry).assemble_eq (.withType unreached)
      (.refl registry _) keyed wired
  · exact (Registry.SameOnReached.refl registry).assemble_eq (.withScalar unreached)
      (.refl registry _) keyed wired

/-- Definitions that are not reached in the circle, or extend what takes nothing from extensions. All
of them refer to what nothing defines, and one comes twice. -/
def spareDefinitions : List Definition :=
  let lost : FieldDefinition := ⟨"lost", none, [], .ofName "Nowhere", ⟨9, 20⟩⟩
  [.type ⟨"Spare", none, ⟨9, 1⟩, .object [lost] ["Nowhere"]⟩,
    .type ⟨"Spare", none, ⟨10, 1⟩, .union ["Nowhere"]⟩,
    .extension ⟨"Spare", ["Nowhere"], [lost], ⟨11, 1⟩⟩,
    .extension ⟨"Key", ["Nowhere"], [lost], ⟨12, 1⟩⟩,
    .extension ⟨"ID", ["Nowhere"], [lost], ⟨13, 1⟩⟩,
    .extension ⟨"Node", ["Nowhere"], [], ⟨14, 1⟩⟩]

/-- Everything for a type that is not reached in the circle. -/
def spareWiring : TypeWiring plainBehaviours :=
  ⟨"Spare", .ofList [("lost", ()), ("node", ())], some ()⟩

/-- The spare definitions and the spare wiring change nothing: neither for the circle, which is assembled
to its graph, nor for the broken circle, which is refused for the type that is unknown there. -/
theorem assemble_local_circle :
    circle.Keyed ∧ brokenCircle.Keyed ∧ plainWiring.Keyed ∧
      (∃ graph, graph.outline = circleOutline ∧ assemble circle plainWiring = .ok graph ∧
        assemble (circle.addAll spareDefinitions).1 plainWiring = .ok graph ∧
        assemble circle (plainWiring.withType spareWiring) = .ok graph ∧
        assemble circle (plainWiring.withScalar (.ofCodec "Nowhere" ())) = .ok graph) ∧
      assemble (brokenCircle.addAll spareDefinitions).1 (plainWiring.withType spareWiring) =
        .error (.of (.unknownType "Ghost" "Node" ⟨8, 25⟩)) := by
  have enclosed : circle.encloses ["Query", "Edit", "Node", "Key", "ID"] = true := by
    decide +kernel
  have enclosed' : brokenCircle.encloses ["Query", "Edit", "Node", "Key", "ID", "Ghost"] = true := by
    decide +kernel
  have inert : ∀ definition ∈ spareDefinitions, circle.Inert definition :=
    Registry.inert_of_inertWithin enclosed (by decide +kernel)
  have inert' : ∀ definition ∈ spareDefinitions, brokenCircle.Inert definition :=
    Registry.inert_of_inertWithin enclosed' (by decide +kernel)
  have unreached : ∀ name ∉ ["Query", "Edit", "Node", "Key", "ID"], ¬circle.Reachable name :=
    fun name other reached => other (Registry.mem_of_encloses enclosed reached)
  have unreached' : ¬brokenCircle.Reachable spareWiring.typeName :=
    fun reached => absurd (Registry.mem_of_encloses enclosed' reached) (by decide)
  obtain ⟨-, byDefinitions, byType, byScalar⟩ := assemble_local keyed_circle keyed_plainWiring
  obtain ⟨graph, ok, outline⟩ := exists_assemble_circle
  refine ⟨keyed_circle, keyed_brokenCircle, keyed_plainWiring, ⟨graph, outline, ok, ?_, ?_, ?_⟩, ?_⟩
  · rw [byDefinitions spareDefinitions inert (StaticFactory.answerAlike _ _ _), ok]
  · rw [byType spareWiring (unreached _ (by decide)), ok]
  · rw [byScalar _ (unreached _ (by decide)), ok]
  · rw [← refused_brokenCircle]
    exact (assemble_local keyed_brokenCircle keyed_plainWiring).1 _ _
      ((Registry.SameOnReached.refl brokenCircle).addAll inert')
      (.withType unreached') (StaticFactory.answerAlike _ _ _)

end SchemaAssembly
