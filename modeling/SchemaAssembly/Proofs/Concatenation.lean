import SchemaAssembly.Proofs.Grouping
import SchemaAssembly.Proofs.Histories

/-!
# Merging registries is concatenating their definitions

Two lists of definitions make a registry each, and the second is merged into the first; or the second
list is put after the first, and both make one registry. These are two ways to the same result. Where
they fail they report the same errors, though not in the same order: concatenating goes by the list, and
merging by the parts of a registry, types that are not scalars first, then scalars, then the schema
definition.

The two are compared by way of the lists. What a registry of definitions holds is said as a list of
definitions, part by part, with the order kept; and what adding reports is said as a list of errors, which
is found by looking at the definitions of the first list only, since those of the second do not conflict
with one another.

## Main definitions

* `SchemaAssembly.typeNamed`, `SchemaAssembly.schemaAmong` — what a name and a schema stand for in a list
  of definitions.
* `SchemaAssembly.clash?` — the error that a definition causes after a list of others.
* `SchemaAssembly.inParts` — definitions in the order of the parts of a registry.
* `SchemaAssembly.Registry.refusal?` — the error that adding a definition fails with.

## Main results

* `SchemaAssembly.Registry.declared?_addAll`, `schema_addAll_eq_or`, `extensions_addAll` — what is known
  after trying to add many definitions, whether or not all of them could be.
* `SchemaAssembly.Registry.entries_addAll`, `toList_schema_addAll` — what is held in which order, if all of
  them could be.
* `SchemaAssembly.Registry.errors_addAll` — what is reported if they do not conflict with one another.
* `SchemaAssembly.Registry.merge_eq_concatenation` — merging is concatenating.
-/

set_option relaxedAutoImplicit false
set_option autoImplicit false

namespace SchemaAssembly

/-! ## Definitions in a list -/

namespace Definition

/-- The type that a definition is, if it is one of the given name. -/
def typeNamed? (name : String) : Definition → Option TypeDefinition
  | type definition => if definition.name = name then some definition else none
  | _ => none

/-- The schema definition that a definition is, if it is one. -/
def schema? : Definition → Option SchemaDefinition
  | schema definition => some definition
  | _ => none

/-- The entry that a definition makes among scalars, or among other types. -/
def entry? (scalar : Bool) : Definition → Option (String × TypeDefinition)
  | type definition =>
    if definition.isScalar = scalar then some (definition.name, definition) else none
  | _ => none

/-- The extension that a definition is, as a map. -/
def fragments : Definition → NameMap (List TypeExtension)
  | extension definition => ⟨[(definition.name, [definition])], List.nodup_singleton _⟩
  | _ => ∅

end Definition

/-- **What a name stands for** in a list of definitions: the first type of that name. -/
def typeNamed (name : String) (definitions : List Definition) : Option TypeDefinition :=
  definitions.findSome? (Definition.typeNamed? name)

/-- **The schema definition** in a list of definitions, the first one. -/
def schemaAmong (definitions : List Definition) : Option SchemaDefinition :=
  definitions.findSome? Definition.schema?

/-- **The error that a definition causes after a list of others**: it gives its own position as that of
what is new, and the position of what was there first. -/
def clash? (before : List Definition) : Definition → Option SchemaError
  | .type new => (typeNamed new.name before).map fun existing =>
      .typeRedefinition new.name new.position existing.position
  | .extension _ => none
  | .schema new => (schemaAmong before).map fun existing =>
      .schemaRedefinition new.position existing.position

/-- **Definitions in the order of the parts of a registry**: types that are not scalars, scalars, schema
definitions. -/
def inParts (definitions : List Definition) : List Definition :=
  definitions.filter (fun definition => (definition.entry? false).isSome) ++
    definitions.filter (fun definition => (definition.entry? true).isSome) ++
    definitions.filter (fun definition => definition.schema?.isSome)

/-- The extensions in a list of definitions, as a map. -/
def fragmentMap : List Definition → NameMap (List TypeExtension)
  | [] => ∅
  | definition :: rest => definition.fragments.appendAll (fragmentMap rest)

namespace Registry

variable {registry next : Registry} {definition : Definition}

/-- The error that adding a definition fails with, if it does. -/
def refusal? (registry : Registry) : Definition → Option SchemaError
  | .type added => (registry.declared? added.name).map fun existing => redefinition existing added
  | .extension _ => none
  | .schema added => registry.schema.map fun existing =>
      .schemaRedefinition added.position existing.position

/-- Adding fails with that error. -/
theorem add_eq_error_iff {error : SchemaError} :
    registry.add definition = .error error ↔ registry.refusal? definition = some error := by
  cases definition with
  | type added =>
    cases declared : registry.declared? added.name with
    | none => cases scalar : added.isScalar <;> simp [add, refusal?, declared, scalar]
    | some existing => simp [add, refusal?, declared]
  | extension added => simp [add, refusal?]
  | schema added => cases held : registry.schema <;> simp [add, refusal?, held]

/-- What can be added is not refused. -/
theorem refusal?_eq_none (added : registry.add definition = .ok next) :
    registry.refusal? definition = none := by
  refine Option.eq_none_iff_forall_ne_some.2 fun error refused => ?_
  rw [add_eq_error_iff.2 refused] at added
  cases added

/-! ## Adding one definition -/

section Added

variable (added : registry.add definition = .ok next)

include added

/-- What is declared after adding a definition was declared before, or is the definition. -/
theorem declared?_add (name : String) :
    next.declared? name = (registry.declared? name).or (definition.typeNamed? name) := by
  obtain ⟨new, rfl, absent, way⟩ | ⟨extension, rfl, rfl⟩ | ⟨schema, rfl, -, rfl⟩ := add_cases added
  · simp only [declared?, Option.or_eq_none_iff] at absent ⊢
    by_cases own : name = new.name
    · obtain ⟨-, rfl⟩ | ⟨-, rfl⟩ := way <;> simp [own, absent, Definition.typeNamed?]
    · obtain ⟨-, rfl⟩ | ⟨-, rfl⟩ := way <;> simp [own, Ne.symm own, Definition.typeNamed?]
  · simp [declared?, Definition.typeNamed?]
  · simp [declared?, Definition.typeNamed?]

/-- The schema definition after adding a definition was there before, or is the definition. -/
theorem schema_add_eq_or : next.schema = registry.schema.or definition.schema? := by
  obtain ⟨new, rfl, -, way⟩ | ⟨extension, rfl, rfl⟩ | ⟨schema, rfl, absent, rfl⟩ := add_cases added
  · obtain ⟨-, rfl⟩ | ⟨-, rfl⟩ := way <;> simp [Definition.schema?]
  · simp [Definition.schema?]
  · simp [Definition.schema?, absent]

/-- As a list, the schema definition after adding one is the one before, and then it. -/
theorem toList_schema_add :
    next.schema.toList = registry.schema.toList ++ definition.schema?.toList := by
  obtain ⟨new, rfl, -, way⟩ | ⟨extension, rfl, rfl⟩ | ⟨schema, rfl, absent, rfl⟩ := add_cases added
  · obtain ⟨-, rfl⟩ | ⟨-, rfl⟩ := way <;> simp [Definition.schema?]
  · simp [Definition.schema?]
  · simp [Definition.schema?, absent]

/-- A definition that is added comes last in its part. -/
theorem entries_add (scalar : Bool) :
    (next.typesOf scalar).entries =
      (registry.typesOf scalar).entries ++ (definition.entry? scalar).toList := by
  obtain ⟨new, rfl, absent, way⟩ | ⟨extension, rfl, rfl⟩ | ⟨schema, rfl, -, rfl⟩ := add_cases added
  · simp only [declared?, Option.or_eq_none_iff] at absent
    have fresh : ∀ m : NameMap TypeDefinition, m.get? new.name = none →
        (m.set new.name new).entries = m.entries ++ [(new.name, new)] := by
      intro m absent
      exact Entries.set_of_not_mem (NameMap.get?_eq_none_iff.1 absent) new
    obtain ⟨kind, rfl⟩ | ⟨kind, rfl⟩ := way <;> cases scalar <;>
      simp [typesOf, Definition.entry?, kind, fresh, absent]
  · simp [typesOf, Definition.entry?]
  · simp [typesOf, Definition.entry?]

/-- An extension that is added comes last among those of its name. -/
theorem extensions_add :
    next.extensions = registry.extensions.appendAll definition.fragments := by
  obtain ⟨new, rfl, -, way⟩ | ⟨extension, rfl, rfl⟩ | ⟨schema, rfl, -, rfl⟩ := add_cases added
  · obtain ⟨-, rfl⟩ | ⟨-, rfl⟩ := way <;> rfl
  · rfl
  · rfl

/-- What another definition conflicts with stays the same, if it claims another slot. -/
theorem refusal?_add {other : Definition}
    (apart : ∀ slot, other.slot? = some slot → definition.slot? ≠ some slot) :
    next.refusal? other = registry.refusal? other := by
  cases other with
  | type new =>
    have absent : definition.typeNamed? new.name = none := by
      have differs := apart (.type new.name) rfl
      cases definition <;> simp_all [Definition.slot?, Definition.typeNamed?]
    simp [refusal?, declared?_add added, absent]
  | extension new => rfl
  | schema new =>
    have absent : definition.schema? = none := by
      have differs := apart .schema rfl
      cases definition <;> simp_all [Definition.slot?, Definition.schema?]
    simp [refusal?, schema_add_eq_or added, absent]

end Added

/-! ## Trying to add definitions -/

/-- A definition that cannot be added declares nothing new, is no first schema definition and no
extension. -/
theorem known_of_add_eq_error {error : SchemaError} (refused : registry.add definition = .error error) :
    (∀ name, (registry.declared? name).or (definition.typeNamed? name) = registry.declared? name) ∧
      registry.schema.or definition.schema? = registry.schema ∧ definition.fragments = ∅ := by
  rw [add_eq_error_iff] at refused
  cases definition with
  | type new =>
    obtain ⟨existing, declared, -⟩ := Option.map_eq_some_iff.1 refused
    refine ⟨fun name => ?_, Option.or_none, rfl⟩
    by_cases own : new.name = name
    · rw [← own, declared, Option.some_or]
    · simp [Definition.typeNamed?, own]
  | extension new => cases refused
  | schema new =>
    obtain ⟨existing, held, -⟩ := Option.map_eq_some_iff.1 refused
    exact ⟨fun name => Option.or_none, by rw [held, Option.some_or], rfl⟩

/-- What is known after trying to add a definition was known before, or is the definition. -/
theorem known_after_adding (registry : Registry) (definition : Definition) :
    (∀ name, ((adding definition).after registry).declared? name =
      (registry.declared? name).or (definition.typeNamed? name)) ∧
    ((adding definition).after registry).schema = registry.schema.or definition.schema? ∧
    ((adding definition).after registry).extensions =
      registry.extensions.appendAll definition.fragments := by
  rcases after_adding registry definition with added | ⟨fault, refused, same⟩
  · exact ⟨declared?_add added, schema_add_eq_or added, extensions_add added⟩
  · obtain ⟨declared, schema, none⟩ := known_of_add_eq_error refused
    rw [same, none, NameMap.appendAll_empty]
    exact ⟨fun name => (declared name).symm, schema.symm, rfl⟩

/-- What is declared after trying to add many definitions was declared before, or is the first among
them. -/
theorem declared?_addAll (registry : Registry) (definitions : List Definition) (name : String) :
    (registry.addAll definitions).1.declared? name =
      (registry.declared? name).or (typeNamed name definitions) := by
  induction definitions generalizing registry with
  | nil => exact Option.or_none.symm
  | cons definition rest ih =>
    rw [addAll_cons_fst, ih, (known_after_adding registry definition).1, Option.or_assoc]
    simp only [typeNamed, List.findSome?_cons]
    cases definition.typeNamed? name <;> rfl

/-- The schema definition after trying to add many definitions was there before, or is the first among
them. -/
theorem schema_addAll_eq_or (registry : Registry) (definitions : List Definition) :
    (registry.addAll definitions).1.schema = registry.schema.or (schemaAmong definitions) := by
  induction definitions generalizing registry with
  | nil => exact Option.or_none.symm
  | cons definition rest ih =>
    rw [addAll_cons_fst, ih, (known_after_adding registry definition).2.1, Option.or_assoc]
    simp only [schemaAmong, List.findSome?_cons]
    cases definition.schema? <;> rfl

/-- All extensions are added, those of a name in order. -/
theorem extensions_addAll (registry : Registry) (definitions : List Definition) :
    (registry.addAll definitions).1.extensions =
      registry.extensions.appendAll (fragmentMap definitions) := by
  induction definitions generalizing registry with
  | nil => rfl
  | cons definition rest ih =>
    rw [addAll_cons_fst, ih, (known_after_adding registry definition).2.2, fragmentMap,
      NameMap.appendAll_assoc]

/-- A definition fails after others as it does after their list. -/
theorem refusal?_addAll_empty (definitions : List Definition) (definition : Definition) :
    (empty.addAll definitions).1.refusal? definition = clash? definitions definition := by
  cases definition with
  | type new => simp only [refusal?, declared?_addAll, clash?]; rfl
  | extension new => rfl
  | schema new => simp only [refusal?, schema_addAll_eq_or, clash?]; rfl

/-- If definitions could all be added, no two of them claim the same slot. -/
theorem nodup_slots_of_addAll {definitions : List Definition}
    (all : (registry.addAll definitions).2 = []) :
    (definitions.filterMap Definition.slot?).Nodup ∧
      ∀ slot ∈ definitions.filterMap Definition.slot?, registry.taken slot = false := by
  induction definitions generalizing registry with
  | nil => exact ⟨List.nodup_nil, fun _ h => absurd h List.not_mem_nil⟩
  | cons definition rest ih =>
    obtain ⟨next, added, all', -⟩ := exists_add_of_addAll all
    obtain ⟨nodup, free⟩ := ih all'
    have own := exists_add_eq_ok_iff.1 ⟨next, added⟩
    have others : ∀ slot ∈ rest.filterMap Definition.slot?,
        registry.taken slot = false ∧ definition.slot? ≠ some slot := by
      intro slot h
      have fresh := free slot h
      rwa [← Bool.not_eq_true, taken_add added, not_or, Bool.not_eq_true] at fresh
    cases claims : definition.slot? with
    | none =>
      rw [List.filterMap_cons_none claims]
      exact ⟨nodup, fun slot h => (others slot h).1⟩
    | some slot =>
      rw [List.filterMap_cons_some claims]
      refine ⟨List.nodup_cons.2 ⟨fun h => (others slot h).2 claims, nodup⟩, ?_⟩
      exact List.forall_mem_cons.2 ⟨own slot claims, fun slot h => (others slot h).1⟩

/-- **What is reported if definitions do not conflict with one another**: for each of them what it
conflicts with in the registry to which they are added.

**Proof sketch.** Along the list. A definition that is added claims a slot that none of the others
claims, so that for them it makes no difference. -/
theorem errors_addAll {definitions : List Definition}
    (distinct : (definitions.filterMap Definition.slot?).Nodup) :
    (registry.addAll definitions).2 = definitions.filterMap registry.refusal? := by
  induction definitions generalizing registry with
  | nil => rfl
  | cons definition rest ih =>
    have distinctRest : (rest.filterMap Definition.slot?).Nodup :=
      distinct.sublist ((List.sublist_cons_self definition rest).filterMap Definition.slot?)
    cases outcome : registry.add definition with
    | error fault =>
      rw [List.filterMap_cons_some (add_eq_error_iff.1 outcome), ← ih distinctRest]
      simp only [addAll, outcome]
    | ok next =>
      rw [addAll_cons_of_ok outcome, ih distinctRest,
        List.filterMap_cons_none (refusal?_eq_none outcome)]
      -- The slot that was free is taken now, but none of the other definitions claims it.
      refine List.filterMap_congr fun other h => refusal?_add outcome fun slot claims own => ?_
      rw [List.filterMap_cons_some own] at distinct
      exact (List.nodup_cons.1 distinct).1 (List.mem_filterMap.2 ⟨other, h, claims⟩)

section All

variable {definitions : List Definition} (all : (registry.addAll definitions).2 = [])

include all

/-- **Definitions that could all be added come last in their parts**, in order. -/
theorem entries_addAll (scalar : Bool) :
    ((registry.addAll definitions).1.typesOf scalar).entries =
      (registry.typesOf scalar).entries ++ definitions.filterMap (Definition.entry? scalar) := by
  induction definitions generalizing registry with
  | nil => exact (List.append_nil _).symm
  | cons definition rest ih =>
    obtain ⟨next, added, all', same⟩ := exists_add_of_addAll all
    rw [same, ih all', entries_add added, List.append_assoc]
    cases h : definition.entry? scalar <;> simp [h]

/-- As a list, the schema definition after definitions could all be added is the one before, and then
those among them. -/
theorem toList_schema_addAll :
    (registry.addAll definitions).1.schema.toList =
      registry.schema.toList ++ definitions.filterMap Definition.schema? := by
  induction definitions generalizing registry with
  | nil => exact (List.append_nil _).symm
  | cons definition rest ih =>
    obtain ⟨next, added, all', same⟩ := exists_add_of_addAll all
    rw [same, ih all', toList_schema_add added, List.append_assoc]
    cases h : definition.schema? <;> simp [h]

end All

/-! ## One list after the other -/

/-- Trying to add two lists of definitions is trying to add the one and then the other. -/
theorem addAll_append (registry : Registry) (first second : List Definition) :
    registry.addAll (first ++ second) =
      (((registry.addAll first).1.addAll second).1,
        (registry.addAll first).2 ++ ((registry.addAll first).1.addAll second).2) := by
  induction first generalizing registry with
  | nil => rfl
  | cons definition rest ih =>
    rw [List.cons_append, addAll, addAll]
    cases registry.add definition with
    | ok next => exact ih next
    | error error => simp only [ih registry, List.cons_append]

/-- A list of definitions makes a registry if all of them can be added. -/
theorem ofDefinitions_eq_ok_iff {definitions : List Definition} :
    ofDefinitions definitions = .ok registry ↔
      (empty.addAll definitions).2 = [] ∧ (empty.addAll definitions).1 = registry := by
  by_cases all : (empty.addAll definitions).2 = []
  · simp [ofDefinitions_of_nil all, all]
  · simp [ofDefinitions_of_ne_nil all, all]

/-- No entries are in the empty registry. -/
theorem entries_typesOf_empty (scalar : Bool) : (empty.typesOf scalar).entries = [] := by
  cases scalar <;> rfl

section Parts

variable {second : List Definition} (all : (empty.addAll second).2 = [])

include all

/-- The conflicts of the types of a registry are those of its definitions. -/
theorem conflicts_typesOf_addAll (scalar : Bool) :
    registry.conflicts ((empty.addAll second).1.typesOf scalar) =
      (second.filter fun definition => (definition.entry? scalar).isSome).filterMap
        registry.refusal? := by
  rw [conflicts, entries_addAll all, entries_typesOf_empty, List.nil_append, List.filterMap_filterMap,
    List.filterMap_filter]
  refine List.filterMap_congr fun definition _ => ?_
  cases definition with
  | type new => by_cases kind : new.isScalar = scalar <;> simp [Definition.entry?, refusal?, kind]
  | extension new => rfl
  | schema new => rfl

/-- The conflict of the schema definition of a registry is that of its definitions. -/
theorem schemaConflict_addAll :
    schemaConflict registry.schema (empty.addAll second).1.schema =
      (second.filter fun definition => definition.schema?.isSome).filterMap registry.refusal? := by
  have listed : ∀ held added : Option SchemaDefinition, schemaConflict held added =
      added.toList.filterMap fun new => held.map fun existing =>
        .schemaRedefinition new.position existing.position := by
    intro held added
    cases held <;> cases added <;> rfl
  rw [listed, toList_schema_addAll all]
  simp only [empty, Option.toList_none, List.nil_append]
  rw [List.filterMap_filterMap, List.filterMap_filter]
  refine List.filterMap_congr fun definition _ => ?_
  cases definition <;> rfl

/-- **The conflicts of a registry are those of its definitions**, part by part. -/
theorem mergeConflicts_addAll :
    registry.mergeConflicts (empty.addAll second).1 =
      (inParts second).filterMap registry.refusal? := by
  rw [mergeConflicts, inParts, List.filterMap_append, List.filterMap_append,
    ← schemaConflict_addAll all, ← conflicts_typesOf_addAll all, ← conflicts_typesOf_addAll all]
  rfl

/-- **If nothing conflicts, joining a registry adds its definitions.** -/
theorem addAll_eq_joined (none : registry.mergeConflicts (empty.addAll second).1 = [])
    (added : (registry.addAll second).2 = []) :
    (registry.addAll second).1 = registry.joined (empty.addAll second).1 := by
  -- The parts are compared entry by entry, so that they agree in their order, too.
  have entries : ∀ scalar, ((registry.addAll second).1.typesOf scalar).entries =
      ((registry.joined (empty.addAll second).1).typesOf scalar).entries := by
    intro scalar
    rw [(mergeConflicts_eq_nil_iff.1 none).entries_joined, entries_addAll added, entries_addAll all,
      entries_typesOf_empty, List.nil_append]
  refine Registry.ext (NameMap.ext (entries false)) (NameMap.ext (entries true)) ?_ ?_
  · rw [extensions_addAll, joined, extensions_addAll]
    exact congrArg registry.extensions.appendAll (NameMap.empty_appendAll _).symm
  · rw [schema_addAll_eq_or, joined, schema_addAll_eq_or]
    rfl

end Parts

end Registry

/-- The order of the parts is another order of the definitions that are no extensions. -/
theorem perm_inParts (definitions : List Definition) :
    (inParts definitions).Perm (definitions.filter fun definition => definition.slot?.isSome) := by
  unfold inParts
  induction definitions with
  | nil => exact .refl _
  | cons definition rest ih =>
    cases definition with
    | type new =>
      cases kind : new.isScalar with
      | false => simpa [Definition.entry?, Definition.schema?, Definition.slot?, kind] using ih
      | true =>
        rw [List.append_assoc] at ih
        have moved := List.perm_middle.trans (ih.cons (.type new))
        simpa [Definition.entry?, Definition.schema?, Definition.slot?, kind] using moved
    | extension new => simpa [Definition.entry?, Definition.schema?, Definition.slot?] using ih
    | schema new =>
      have moved := List.perm_middle.trans (ih.cons (.schema new))
      simpa [Definition.entry?, Definition.schema?, Definition.slot?] using moved

/-- In the order of the parts the same errors are caused, in another order. -/
theorem perm_clashes (before definitions : List Definition) :
    ((inParts definitions).filterMap (clash? before)).Perm
      (definitions.filterMap (clash? before)) := by
  have claiming : definitions.filterMap (clash? before) =
      (definitions.filter fun definition => definition.slot?.isSome).filterMap (clash? before) := by
    rw [List.filterMap_filter]
    refine List.filterMap_congr fun definition _ => ?_
    cases definition <;> rfl
  rw [claiming]
  exact (perm_inParts definitions).filterMap _

namespace Registry

variable {registry other : Registry} {first second : List Definition}

/-- **Merging registries is concatenating their definitions.** Either both succeed and make the same
registry, or both fail and report the same errors, the one in the order of the parts and the other in that
of the definitions.

**Proof sketch.** The conflicts of the second registry with the first are those of its definitions, part
by part (`mergeConflicts_addAll`), and those are what adding them to the first reports (`errors_addAll`),
since they do not conflict with one another (`nodup_slots_of_addAll`). If there are none, adding the
definitions gives the joined registry (`addAll_eq_joined`). -/
theorem merge_eq_concatenation (made : ofDefinitions first = .ok registry)
    (made' : ofDefinitions second = .ok other) :
    (∃ merged, registry.merge other = .ok merged ∧
      ofDefinitions (first ++ second) = .ok merged) ∨
    ∃ problem problem', registry.merge other = .error problem ∧
      ofDefinitions (first ++ second) = .error problem' ∧
      problem.errors.Perm problem'.errors ∧
      problem.errors = (inParts second).filterMap (clash? first) ∧
      problem'.errors = second.filterMap (clash? first) := by
  obtain ⟨all, rfl⟩ := ofDefinitions_eq_ok_iff.1 made
  obtain ⟨all', rfl⟩ := ofDefinitions_eq_ok_iff.1 made'
  have refusals : (empty.addAll first).1.refusal? = clash? first :=
    funext (refusal?_addAll_empty first)
  have conflicts : (empty.addAll first).1.mergeConflicts (empty.addAll second).1 =
      (inParts second).filterMap (clash? first) := by
    rw [mergeConflicts_addAll all', refusals]
  have errors : ((empty.addAll first).1.addAll second).2 = second.filterMap (clash? first) := by
    rw [errors_addAll (nodup_slots_of_addAll all').1, refusals]
  have appended : empty.addAll (first ++ second) = (empty.addAll first).1.addAll second := by
    rw [addAll_append, all, List.nil_append]
  -- Both go by the clashes of the second list with the first, and a permutation is empty if the other is.
  have same := perm_clashes first second
  by_cases none : second.filterMap (clash? first) = []
  · rw [none] at same errors
    rw [same.eq_nil] at conflicts
    refine .inl ⟨_, merge_eq_ok_iff.2 ⟨conflicts, rfl⟩, ofDefinitions_eq_ok_iff.2 ?_⟩
    rw [appended]
    exact ⟨errors, addAll_eq_joined all' conflicts errors⟩
  · have some : (inParts second).filterMap (clash? first) ≠ [] := by
      intro nothing
      rw [nothing] at same
      exact none same.nil_eq.symm
    rw [← conflicts] at some
    rw [← errors, ← appended] at none
    refine .inr ⟨_, _, merge_eq_error_iff.2 ⟨some, rfl⟩, ofDefinitions_of_ne_nil none, ?_⟩
    dsimp only
    rw [conflicts, appended, errors]
    exact ⟨same, rfl, rfl⟩

/-- Merging and concatenating make the same registry where nothing conflicts; and where something does,
the conflict of schema definitions, which is reported last by the one, is reported first by the other, as
it is the first in the list. -/
theorem merge_eq_concatenation_base :
    ofDefinitions baseDefinitions = .ok base ∧ ofDefinitions supplementDefinitions = .ok supplement ∧
    ofDefinitions rivalDefinitions = .ok rival ∧
    (∃ merged, base.merge supplement = .ok merged ∧
      ofDefinitions (baseDefinitions ++ supplementDefinitions) = .ok merged) ∧
    ∃ problem problem', base.merge rival = .error problem ∧
      ofDefinitions (baseDefinitions ++ rivalDefinitions) = .error problem' ∧
      problem.errors = [.typeRedefinition "Date" ⟨7, 1⟩ ⟨3, 1⟩,
        .typeRedefinition "Query" ⟨6, 1⟩ ⟨1, 1⟩, .schemaRedefinition ⟨5, 1⟩ ⟨4, 1⟩] ∧
      problem'.errors = [.schemaRedefinition ⟨5, 1⟩ ⟨4, 1⟩,
        .typeRedefinition "Query" ⟨6, 1⟩ ⟨1, 1⟩, .typeRedefinition "Date" ⟨7, 1⟩ ⟨3, 1⟩] := by
  have made : ofDefinitions baseDefinitions = .ok base :=
    ofDefinitions_eq_ok_iff.2 ⟨by decide +kernel, rfl⟩
  have made' : ofDefinitions supplementDefinitions = .ok supplement :=
    ofDefinitions_eq_ok_iff.2 ⟨by decide +kernel, rfl⟩
  have made'' : ofDefinitions rivalDefinitions = .ok rival :=
    ofDefinitions_eq_ok_iff.2 ⟨by decide +kernel, rfl⟩
  refine ⟨made, made', made'', ?_, ?_⟩
  · have none : base.mergeConflicts supplement = [] := by decide +kernel
    rcases merge_eq_concatenation made made' with success | ⟨problem, problem', failed, -⟩
    · exact success
    · exact absurd none (merge_eq_error_iff.1 failed).1
  · have some : base.mergeConflicts rival ≠ [] := by decide +kernel
    rcases merge_eq_concatenation made made'' with
      ⟨merged, ok, -⟩ | ⟨problem, problem', failed, failed', -, errors, errors'⟩
    · exact absurd (merge_eq_ok_iff.1 ok).1 some
    · exact ⟨problem, problem', failed, failed', errors.trans (by decide +kernel),
        errors'.trans (by decide +kernel)⟩

end Registry

end SchemaAssembly
