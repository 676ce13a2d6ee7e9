import SchemaAssembly.Proofs.Image
import SchemaAssembly.Proofs.Parallel

/-!
# Extensions mean textual merging

Extensions are merged when a type is built, each kind of type in its own way. They could as well be
written into the definitions that they extend, once and for all: assembly comes out the same, unless
the factory looks at the registry or at the parts of abstract types. The one difference is where an
interface is reported that nothing defines. If only extensions name it, it is reported where the first
of them stands; merged, it is reported where the object is defined.

## Main definitions

* `SchemaAssembly.Registry.flatten` — the registry with all extensions merged into definitions.
* `SchemaAssembly.Registry.Moved` — what becomes of references when extensions are merged.
* `SchemaAssembly.Registry.ReportedAs` — what becomes of faults.
* `SchemaAssembly.WiringFactory.ByHeading` — a factory that looks at headings of types only.

## Main results

* `SchemaAssembly.Registry.find?_flatten` — definitions are found merged.
* `SchemaAssembly.Registry.effectiveShape_flatten` — merging leaves the effective parts as they are.
* `SchemaAssembly.Registry.forall₂_moved_references` — and the references, except for being moved.
* `SchemaAssembly.assemble_flatten` — so that merging changes nothing about assembly.
-/

set_option relaxedAutoImplicit false
set_option autoImplicit false

namespace SchemaAssembly

/-! ## Maps -/

namespace NameMap

variable {α β : Type}

/-- Changes what is held under every name. -/
def map (f : α → β) (m : NameMap α) : NameMap β where
  entries := m.entries.map fun entry => (entry.1, f entry.2)
  nodup := by
    have h := m.nodup
    unfold Entries.names at h ⊢
    rwa [List.map_map]

/-- What is held under a name in a map that was changed is what was held, changed. -/
@[simp] theorem get?_map (f : α → β) (m : NameMap α) (name : String) :
    (m.map f).get? name = (m.get? name).map f := by
  unfold get? map
  dsimp only
  induction m.entries with
  | nil => rfl
  | cons entry rest ih =>
    rw [List.map_cons, List.lookup_cons, List.lookup_cons]
    cases name == entry.1
    · exact ih
    · rfl

end NameMap

/-! ## Merging extensions -/

/-- Of items that have different names already, the first of each name are all of them. -/
theorem firstOfEachName_of_nodup {α : Type} {name : α → String} {items : List α}
    (once : (items.map name).Nodup) : firstOfEachName name items = items := by
  induction items with
  | nil => rfl
  | cons item rest ih =>
    rw [List.map_cons, List.nodup_cons] at once
    rw [firstOfEachName, ih once.2, List.filter_eq_self.2]
    intro other h
    exact decide_eq_true fun same => once.1 (same ▸ List.mem_map_of_mem h)

/-- Taking the first of each name twice is taking it once. -/
theorem firstOfEachName_firstOfEachName {α : Type} (name : α → String) (items : List α) :
    firstOfEachName name (firstOfEachName name items) = firstOfEachName name items :=
  firstOfEachName_of_nodup (nodup_firstOfEachName name items)

namespace Registry

/-- **A definition with its extensions merged in**: the fields of an object or an interface, and the
interfaces of an object, are those listed and then those of its extensions, where later ones of a name
are dropped. -/
def flattenType (registry : Registry) (type : TypeDefinition) : TypeDefinition :=
  let extensions := registry.extensionsOf type.name
  { type with
    shape := match type.shape with
      | .object fields interfaces => .object
        (firstOfEachName FieldDefinition.name (fields ++ extensions.flatMap TypeExtension.fields))
        (interfaces ++ extensions.flatMap TypeExtension.interfaces).eraseDups
      | .interface fields => .interface
        (firstOfEachName FieldDefinition.name (fields ++ extensions.flatMap TypeExtension.fields))
      | shape => shape }

/-- **A registry with all extensions merged in.** No extensions are left. -/
def flatten (registry : Registry) : Registry where
  types := registry.types.map registry.flattenType
  declaredScalars := registry.declaredScalars.map registry.flattenType
  extensions := ∅
  schema := registry.schema

variable {registry : Registry} {type : TypeDefinition}

/-- The parts of a merged definition are the effective ones. -/
theorem shape_flattenType (registry : Registry) (type : TypeDefinition) :
    (registry.flattenType type).shape = registry.effectiveShape type := by
  unfold flattenType effectiveShape effectiveFields
  cases type.shape <;> simp only [map_fst_effectiveInterfaces]

/-- Merging extensions in does not change the kind of a type. -/
theorem kind_flattenType (registry : Registry) (type : TypeDefinition) :
    (registry.flattenType type).kind = type.kind :=
  (congrArg TypeShape.kind (registry.shape_flattenType type)).trans
    (registry.kind_effectiveShape type)

/-- **What is found in a merged registry** is what was found before, merged. -/
theorem find?_flatten (registry : Registry) (name : String) :
    registry.flatten.find? name = (registry.find? name).map registry.flattenType := by
  have standard : ∀ scalar : StandardScalar,
      registry.flattenType scalar.definition = scalar.definition := fun scalar => rfl
  simp only [find?, declared?, flatten, NameMap.get?_map, Option.map_or, Option.map_map,
    Function.comp_def, standard]

/-- No name has extensions in a merged registry. -/
theorem extensionsOf_flatten (registry : Registry) (name : String) :
    registry.flatten.extensionsOf name = [] := rfl

/-- In a merged registry the effective fields are the listed ones, if those have different names. -/
theorem effectiveFields_flatten (registry : Registry) (name : String)
    (fields : List FieldDefinition) :
    registry.flatten.effectiveFields name (registry.effectiveFields name fields) =
      registry.effectiveFields name fields := by
  rw [effectiveFields, extensionsOf_flatten, List.flatMap_nil, List.append_nil, effectiveFields,
    firstOfEachName_firstOfEachName]

/-- In a merged registry the effective interfaces of an object are the listed ones, each where the
object is. -/
theorem effectiveInterfaces_flatten (registry : Registry) (type : TypeDefinition)
    (interfaces : List String) :
    registry.flatten.effectiveInterfaces (registry.flattenType type)
        ((registry.effectiveInterfaces type interfaces).map Prod.fst) =
      (registry.effectiveInterfaces type interfaces).map fun interface =>
        (interface.1, type.position) := by
  have once := nodup_firstOfEachName Prod.fst
    (interfaces.map (fun name => (name, type.position)) ++
      (registry.extensionsOf type.name).flatMap fun extension =>
        extension.interfaces.map fun name => (name, extension.position))
  rw [effectiveInterfaces, extensionsOf_flatten, List.flatMap_nil, List.append_nil, List.map_map,
    firstOfEachName_of_nodup]
  · rfl
  · rw [List.map_map]
    exact once

/-- **Merging leaves the effective parts as they are.** -/
theorem effectiveShape_flatten (registry : Registry) (type : TypeDefinition) :
    registry.flatten.effectiveShape (registry.flattenType type) = registry.effectiveShape type := by
  have merged := registry.shape_flattenType type
  have named : (registry.flattenType type).name = type.name := rfl
  unfold effectiveShape at merged ⊢
  cases shape : type.shape <;> simp only [shape] at merged <;> simp only [merged, named]
  case object own ownInterfaces =>
    rw [effectiveFields_flatten, effectiveInterfaces_flatten, List.map_map]
    rfl
  case interface own => rw [effectiveFields_flatten]

/-! ## References -/

/-- **What becomes of references when extensions are merged in.** Each stays as it is, except that a
reference to an interface that only extensions name moves from the first of them to the object. -/
inductive Moved (registry : Registry) : Reference → Reference → Prop
  /-- The reference to a root type stays. -/
  | root {schema : SchemaDefinition} {root : RootBinding} (defined : registry.schema = some schema)
      (bound : root ∈ schema.boundRoots) : Moved registry root.reference root.reference
  /-- The references of a field stay, be it an extension that adds the field. -/
  | field {type : TypeDefinition} {field : FieldDefinition} {reference : Reference}
      (found : registry.find? type.name = some type) (effective : field ∈ registry.fieldsOf type)
      (made : reference ∈ field.references type.name) : Moved registry reference reference
  /-- The references of a union or an input object stay. -/
  | part {type : TypeDefinition} {reference : Reference}
      (found : registry.find? type.name = some type)
      (kind : type.kind = .union ∨ type.kind = .inputObject)
      (made : reference ∈ registry.references type) : Moved registry reference reference
  /-- The reference to an interface that the object itself names stays. -/
  | listed {type : TypeDefinition} {fields : List FieldDefinition} {interfaces : List String}
      {interface : String} (found : registry.find? type.name = some type)
      (shape : type.shape = .object fields interfaces) (listed : interface ∈ interfaces) :
      Moved registry ⟨.ofName interface, .output, type.name, type.position⟩
        ⟨.ofName interface, .output, type.name, type.position⟩
  /-- The reference to an interface that only extensions name moves. -/
  | added {type : TypeDefinition} {fields : List FieldDefinition} {interfaces : List String}
      {interface : String} {extension : TypeExtension}
      (found : registry.find? type.name = some type)
      (shape : type.shape = .object fields interfaces) (unlisted : interface ∉ interfaces)
      (first : (registry.extensionsOf type.name).find? (interface ∈ ·.interfaces) =
        some extension) :
      Moved registry ⟨.ofName interface, .output, type.name, extension.position⟩
        ⟨.ofName interface, .output, type.name, type.position⟩

/-- An effective interface is where the object is, if the object names it, and else where the first
extension is that names it. -/
theorem position_of_mem_effectiveInterfaces {own : List String} {interface : String × Position}
    (h : interface ∈ registry.effectiveInterfaces type own) :
    (interface.1 ∈ own ∧ interface.2 = type.position) ∨
      interface.1 ∉ own ∧ ∃ extension,
        (registry.extensionsOf type.name).find? (interface.1 ∈ ·.interfaces) = some extension ∧
          interface.2 = extension.position := by
  obtain ⟨name, position⟩ := interface
  have first := find?_of_mem_firstOfEachName h
  -- The first of the name is among those that the object lists, or else in one of its extensions.
  rw [List.find?_append, Option.or_eq_some_iff] at first
  rcases first with listed | ⟨unlisted, added⟩
  · obtain ⟨other, own, same⟩ := List.mem_map.1 (List.mem_of_find?_eq_some listed)
    cases same
    exact .inl ⟨own, rfl⟩
  · have unlisted' : name ∉ own := by
      intro listed
      have := List.find?_eq_none.1 unlisted _ (List.mem_map_of_mem listed)
      simp at this
    -- No extension before that one names it, since none before it gives an item of the name.
    rw [List.find?_flatMap, List.findSome?_eq_some_iff] at added
    obtain ⟨before, extension, after, split, found, none⟩ := added
    obtain ⟨other, naming, same⟩ := List.mem_map.1 (List.mem_of_find?_eq_some found)
    cases same
    refine .inr ⟨unlisted', extension, ?_, rfl⟩
    rw [List.find?_eq_some_iff_append]
    refine ⟨decide_eq_true naming, before, after, split, fun earlier h => ?_⟩
    have := none earlier h
    simp only [List.find?_eq_none, List.forall_mem_map, decide_eq_true_eq] at this
    simpa using fun naming => this name naming rfl

/-- The references of an object to its interfaces stay or move. -/
theorem forall₂_moved_interfaceReferences (found : registry.find? type.name = some type)
    {fields : List FieldDefinition} {interfaces : List String}
    (shape : type.shape = .object fields interfaces) :
    List.Forall₂ registry.Moved (registry.interfaceReferences type interfaces)
      (registry.flatten.interfaceReferences (registry.flattenType type)
        ((registry.effectiveInterfaces type interfaces).map Prod.fst)) := by
  unfold interfaceReferences
  rw [effectiveInterfaces_flatten, List.map_map, List.forall₂_map_left_iff,
    List.forall₂_map_right_iff]
  refine List.forall₂_same.2 fun interface h => ?_
  obtain ⟨listed, there⟩ | ⟨unlisted, extension, first, there⟩ :=
    position_of_mem_effectiveInterfaces h
  · rw [there]
    exact .listed found shape listed
  · rw [there]
    exact .added found shape unlisted first

/-- **Merging leaves the references of a definition as they are, except for being moved.** -/
theorem forall₂_moved_references (found : registry.find? type.name = some type) :
    List.Forall₂ registry.Moved (registry.references type)
      (registry.flatten.references (registry.flattenType type)) := by
  have merged := registry.shape_flattenType type
  have named : (registry.flattenType type).name = type.name := rfl
  have stay : ∀ references : List Reference,
      (∀ reference ∈ references, registry.Moved reference reference) →
      List.Forall₂ registry.Moved references references :=
    fun _ => List.forall₂_same.2
  have fields : ∀ reference ∈ (registry.fieldsOf type).flatMap (·.references type.name),
      registry.Moved reference reference := by
    intro reference h
    obtain ⟨field, effective, made⟩ := List.mem_flatMap.1 h
    exact .field found effective made
  have parts : type.kind = .union ∨ type.kind = .inputObject →
      ∀ reference ∈ registry.references type, registry.Moved reference reference :=
    fun kind _ made => .part found kind made
  unfold effectiveShape at merged
  unfold fieldsOf at fields
  unfold TypeDefinition.kind references at parts
  unfold references
  cases shape : type.shape <;> simp only [shape] at merged fields parts <;>
    simp only [merged, named]
  case scalar => exact .nil
  case object own ownInterfaces =>
    rw [effectiveFields_flatten]
    exact List.rel_append (stay _ fields) (forall₂_moved_interfaceReferences found shape)
  case interface own =>
    rw [effectiveFields_flatten]
    exact stay _ fields
  case union members => exact stay _ (parts (.inl rfl))
  case enum values => exact .nil
  case inputObject fields => exact stay _ (parts (.inr rfl))

/-- **What becomes of faults when extensions are merged in.** What is not about an unknown name is
reported as before; and what is about one is reported for the reference, wherever that is then. -/
inductive ReportedAs (registry : Registry) : SchemaError → SchemaError → Prop
  /-- Any other fault is reported as before. -/
  | settled {fault : SchemaError} (other : fault.isUnknownType = false) :
    ReportedAs registry fault fault
  /-- A reference to an unknown name is reported where it is then. -/
  | unknown {reference reference' : Reference} (moved : registry.Moved reference reference') :
    ReportedAs registry reference.unknown reference'.unknown

end Registry

/-! ## Factories that look at headings -/

/-- **A factory looks at headings of types only**: it does not consult the registry, and goes by the
name and the kind of an abstract type. -/
structure WiringFactory.ByHeading {B : Behaviours} (factory : WiringFactory B) : Prop where
  /-- Whether a field is claimed does not depend on the registry. -/
  claimsField : ∀ registry registry' field,
    factory.claimsField registry' field = factory.claimsField registry field
  /-- What is provided for it does not, either. -/
  fetcherFor : ∀ registry registry' field,
    factory.fetcherFor registry' field = factory.fetcherFor registry field
  /-- Whether an abstract type is claimed depends on its name and its kind. -/
  claimsType : ∀ registry registry' (type type' : TypeDefinition), type'.name = type.name →
    type'.kind = type.kind → factory.claimsType registry' type' = factory.claimsType registry type
  /-- What is provided for it does, too. -/
  resolverFor : ∀ registry registry' (type type' : TypeDefinition), type'.name = type.name →
    type'.kind = type.kind → factory.resolverFor registry' type' = factory.resolverFor registry type

variable {B : Behaviours}

/-- A static factory goes by names. -/
theorem StaticFactory.byHeading (factory : StaticFactory B) : factory.toFactory.ByHeading where
  claimsField _ _ _ := rfl
  fetcherFor _ _ _ := rfl
  claimsType _ _ type type' named _ := by simp only [toFactory, named]
  resolverFor _ _ type type' named _ := by simp only [toFactory, named]

/-! ## Assembled alike -/

section Assembled

variable {registry : Registry} {wiring : Wiring B} (byHeading : wiring.factory.ByHeading)

include byHeading

/-- A definition and what it becomes ask for the same work. -/
theorem Registry.counterparts_flattenType {type : TypeDefinition}
    (found : registry.find? type.name = some type) :
    Counterparts registry registry.flatten wiring wiring registry.Moved type
      (registry.flattenType type) where
  name := rfl
  description := rfl
  position := rfl
  shape := registry.effectiveShape_flatten type
  scalar _ := rfl
  binding _ := typeBinding_congr rfl
    (byHeading.claimsType _ _ _ _ rfl (registry.kind_flattenType type))
    (fun _ => byHeading.resolverFor _ _ _ _ rfl (registry.kind_flattenType type)) rfl
  fields field _ := fieldResolver_congr (byHeading.claimsField _ _ field)
    (fun _ => byHeading.fetcherFor _ _ field) rfl
  references := Registry.forall₂_moved_references found

/-- The builder goes through a registry and the merged one in step. -/
theorem Registry.inStep_flatten (keyed : registry.Keyed) :
    InStep registry registry.flatten wiring wiring registry.Moved registry.ReportedAs where
  settled _ := .settled
  type _ _ moved := by cases moved <;> rfl
  place _ _ moved := by cases moved <;> rfl
  unknown _ _ moved absent := ⟨by rw [find?_flatten, absent]; rfl, .unknown moved⟩
  known _ _ type _ found := by
    have own := keyed.name_of_find? found
    exact ⟨registry.flattenType type, by rw [find?_flatten, found]; rfl,
      counterparts_flattenType byHeading (own ▸ found)⟩

/-- **Extensions mean textual merging.** With a factory that looks at headings of types only, a
registry and the merged one are assembled alike: both into the same graph, or both failing with the
same error, except that an unknown interface that only extensions name is reported where the object
is.

**Proof sketch.** The builder goes through both in step: a definition and what it becomes have the same
effective parts and behaviours (`Registry.counterparts_flattenType`), and the same references, except
for those that move (`Registry.forall₂_moved_references`). -/
theorem assemble_flatten (keyed : registry.Keyed) (wired : wiring.Keyed) :
    (∃ graph, assemble registry wiring = .ok graph ∧
      assemble registry.flatten wiring = .ok graph) ∨
    ∃ fault fault', assemble registry wiring = .error (.of fault) ∧
      assemble registry.flatten wiring = .error (.of fault') ∧
      registry.ReportedAs fault fault' := by
  have outcome := (Registry.inStep_flatten byHeading keyed).sameUpTo_assembleGraph keyed wired rfl
    fun schema defined root bound => .root defined bound
  unfold assemble
  generalize assembleGraph registry wiring = left at outcome ⊢
  generalize assembleGraph registry.flatten wiring = right at outcome ⊢
  cases outcome with
  | error reported => exact .inr ⟨_, _, rfl, rfl, reported⟩
  | ok graph => exact .inl ⟨graph, rfl, rfl⟩

end Assembled

/-- The circle with an extension that adds a field which is there already. Its type is unknown, which
does not matter. -/
def shadedCircle : Registry :=
  (circle.addAll [
    .extension ⟨"Edit", ["Node"], [⟨"save", none, [], .ofName "Ghost", ⟨7, 30⟩⟩], ⟨7, 1⟩⟩]).1

/-- The circle with an extension that adds an unknown interface. -/
def hauntedCircle : Registry := (circle.addAll [.extension ⟨"Query", ["Ghost"], [], ⟨8, 1⟩⟩]).1

/-- The one circle leads to the same graph after its extensions were merged in. The other fails before
and after, but at another position. -/
theorem assemble_flatten_circle :
    shadedCircle.Keyed ∧ hauntedCircle.Keyed ∧ plainWiring.Keyed ∧ plainWiring.factory.ByHeading ∧
      (∃ graph, assemble shadedCircle plainWiring = .ok graph ∧
        assemble shadedCircle.flatten plainWiring = .ok graph ∧
        graph.outline = circleOutline.dropLast ++ [("Edit", [("Query", false), ("Node", false)])]) ∧
      ∃ fault fault', assemble hauntedCircle plainWiring = .error (.of fault) ∧
        assemble hauntedCircle.flatten plainWiring = .error (.of fault') ∧
        hauntedCircle.ReportedAs fault fault' ∧
        fault = .unknownType "Ghost" "Query" ⟨8, 1⟩ ∧
        fault' = .unknownType "Ghost" "Query" ⟨2, 1⟩ := by
  have shaded : shadedCircle.Keyed := keyed_circle.addAll _
  have haunted : hauntedCircle.Keyed := keyed_circle.addAll _
  have byHeading : plainWiring.factory.ByHeading := StaticFactory.byHeading _
  obtain ⟨graph, succeeds, outline⟩ : ∃ graph, assemble shadedCircle plainWiring = .ok graph ∧
      graph.outline =
        circleOutline.dropLast ++ [("Edit", [("Query", false), ("Node", false)])] :=
    exists_eq_ok_of_view (by decide +kernel)
  have before : assemble hauntedCircle plainWiring =
      .error (.of (.unknownType "Ghost" "Query" ⟨8, 1⟩)) :=
    error?_eq_some_iff.1 (by decide +kernel)
  have after : assemble hauntedCircle.flatten plainWiring =
      .error (.of (.unknownType "Ghost" "Query" ⟨2, 1⟩)) :=
    error?_eq_some_iff.1 (by decide +kernel)
  refine ⟨shaded, haunted, keyed_plainWiring, byHeading, ?_, ?_⟩
  · obtain ⟨graph', ok, ok'⟩ | ⟨fault, -, failed, -⟩ :=
      assemble_flatten byHeading shaded keyed_plainWiring
    · obtain rfl : graph' = graph := Except.ok.inj (ok.symm.trans succeeds)
      exact ⟨graph', ok, ok', outline⟩
    · rw [failed] at succeeds
      cases succeeds
  · obtain ⟨graph, ok, -⟩ | ⟨fault, fault', failed, failed', reported⟩ :=
      assemble_flatten byHeading haunted keyed_plainWiring
    · rw [before] at ok
      cases ok
    · refine ⟨fault, fault', failed, failed', reported, ?_, ?_⟩
      · rw [before] at failed
        cases failed
        rfl
      · rw [after] at failed'
        cases failed'
        rfl

end SchemaAssembly
