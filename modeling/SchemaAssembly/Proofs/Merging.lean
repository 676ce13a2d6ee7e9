import SchemaAssembly.Proofs.Registration

/-!
# What merging registries does

Merging looks for conflicts first: names that are declared on both sides, and two schema definitions.
If there are none, the two registries are joined. The types of the second then come after those of the
first, and so do its extensions, name by name. That is the one operation on maps of lists that is needed
here; adding a single extension is a case of it, and it is associative.

## Main definitions

* `SchemaAssembly.NameMap.appendAll` — the lists of two maps, one after the other.
* `SchemaAssembly.Registry.joined` — two registries that do not conflict, as one.

## Main results

* `SchemaAssembly.NameMap.get?_appendAll`, `names_appendAll`, `appendAll_assoc` — what the appended map
  holds, and under which names; the order of appending does not matter.
* `SchemaAssembly.Registry.merge_eq_ok_iff`, `merge_eq_error_iff` — when merging succeeds and fails, and
  what comes out.
* `SchemaAssembly.Registry.mem_conflicts_iff`, `mem_schemaConflict_iff` — what the conflicts are.
* `SchemaAssembly.Registry.get?_typesOf_joined`, `extensionsOf_joined` — what is known after joining.
-/

set_option relaxedAutoImplicit false
set_option autoImplicit false

namespace SchemaAssembly

/-! ## Maps of lists -/

namespace NameMap

variable {α : Type}

/-- **The lists of two maps, one after the other**, name by name. New names come last. -/
def appendAll (m n : NameMap (List α)) : NameMap (List α) :=
  n.entries.foldl (fun held entry => held.update entry.1 fun present => present.getD [] ++ entry.2) m

/-- Appending nothing changes nothing. -/
@[simp] theorem appendAll_empty (m : NameMap (List α)) : m.appendAll ∅ = m := rfl

/-- The first of the lists that are appended comes before the others. -/
theorem appendAll_cons (m : NameMap (List α)) (key : String) (list : List α)
    (rest : List (String × List α)) (nodup : (Entries.names ((key, list) :: rest)).Nodup) :
    m.appendAll ⟨(key, list) :: rest, nodup⟩ =
      (m.update key fun present => present.getD [] ++ list).appendAll
        ⟨rest, (List.nodup_cons.1 nodup).2⟩ := rfl

/-- Under a name both lists are held, one after the other, or the only one. -/
theorem get?_appendAll (m n : NameMap (List α)) (name : String) :
    (m.appendAll n).get? name = (m.get? name).merge (· ++ ·) (n.get? name) := by
  obtain ⟨entries, nodup⟩ := n
  induction entries generalizing m with
  | nil => exact Option.merge_none_right.symm
  | cons entry rest ih =>
    obtain ⟨key, list⟩ := entry
    obtain ⟨fresh, distinct⟩ := List.nodup_cons.1 nodup
    rw [appendAll_cons, ih _ distinct, get?_cons, update, get?_set]
    by_cases own : name = key
    · subst own
      have absent : (⟨rest, distinct⟩ : NameMap (List α)).get? name = none := get?_of_not_mem fresh
      rw [if_pos rfl, if_pos rfl, absent]
      cases m.get? name <;> simp
    · rw [if_neg own, if_neg own]

/-- The names of the first map come first, then the new ones of the second. -/
theorem names_appendAll (m n : NameMap (List α)) :
    (m.appendAll n).names = m.names ++ n.names.filter (· ∉ m.names) := by
  obtain ⟨entries, nodup⟩ := n
  induction entries generalizing m with
  | nil => exact (List.append_nil _).symm
  | cons entry rest ih =>
    obtain ⟨key, list⟩ := entry
    obtain ⟨fresh, distinct⟩ := List.nodup_cons.1 nodup
    rw [appendAll_cons, ih _ distinct, names_cons, update, names_set]
    by_cases held : key ∈ m.names
    · simp [held]
    · rw [if_neg held, List.filter_cons_of_pos (by simpa using held), List.append_assoc]
      refine congrArg (fun new => m.names ++ key :: new) (List.filter_congr fun name h => ?_)
      have other : name ≠ key := fun own => fresh (own ▸ h)
      simp [other]

/-- It does not matter which lists are appended first. -/
theorem appendAll_assoc (m n p : NameMap (List α)) :
    (m.appendAll n).appendAll p = m.appendAll (n.appendAll p) := by
  refine ext_get? ?_ fun name => ?_
  · simp only [names_appendAll, List.filter_append, List.filter_filter, List.append_assoc]
    congr 2
    refine List.filter_congr fun name _ => ?_
    by_cases first : name ∈ m.names <;> simp [first]
  · simp only [get?_appendAll]
    cases m.get? name <;> cases n.get? name <;> cases p.get? name <;> simp

/-- Appending to nothing gives what is appended. -/
@[simp] theorem empty_appendAll (m : NameMap (List α)) : (∅ : NameMap (List α)).appendAll m = m := by
  have none : ∀ name, (∅ : NameMap (List α)).get? name = .none := fun _ => rfl
  have names : (∅ : NameMap (List α)).names = [] := rfl
  refine ext_get? ?_ fun name => ?_
  · simp [names_appendAll, names]
  · simp [get?_appendAll, none]

/-- Extending nothing by a map gives that map. -/
theorem empty_extend {α : Type} (m : NameMap α) : (∅ : NameMap α).extend m.entries = m :=
  NameMap.ext (entries_extend_of_disjoint fun _ _ => List.not_mem_nil)

end NameMap

namespace Registry

variable {registry other next : Registry}

/-! ## Success and failure -/

/-- **Two registries as one**, if nothing conflicts. -/
def joined (registry other : Registry) : Registry where
  types := registry.types.extend other.types.entries
  declaredScalars := registry.declaredScalars.extend other.declaredScalars.entries
  extensions := registry.extensions.appendAll other.extensions
  schema := registry.schema.or other.schema

/-- Merging succeeds if there is no conflict, and then the registries are joined. -/
theorem merge_eq_ok_iff :
    registry.merge other = .ok next ↔
      registry.mergeConflicts other = [] ∧ registry.joined other = next := by
  unfold merge
  cases registry.mergeConflicts other with
  | nil => simp [joined, NameMap.appendAll]
  | cons first others => simp

/-- Merging fails if there is a conflict, and then all conflicts are reported. -/
theorem merge_eq_error_iff {problem : SchemaProblem} :
    registry.merge other = .error problem ↔
      registry.mergeConflicts other ≠ [] ∧ ⟨registry.mergeConflicts other⟩ = problem := by
  unfold merge
  cases registry.mergeConflicts other <;> simp

/-! ## Conflicts -/

/-- The conflicts of named types are with what is declared under their names. -/
theorem mem_conflicts_iff {added : NameMap TypeDefinition} {error : SchemaError} :
    error ∈ registry.conflicts added ↔ ∃ name new existing, added.get? name = some new ∧
      registry.declared? name = some existing ∧ redefinition existing new = error := by
  simp only [conflicts, List.mem_filterMap, Prod.exists, Option.map_eq_some_iff,
    NameMap.mem_entries_iff, exists_and_left]

/-- Nothing conflicts if and only if no name is declared. -/
theorem conflicts_eq_nil_iff {added : NameMap TypeDefinition} :
    registry.conflicts added = [] ↔ ∀ name ∈ added.names, registry.declared? name = none := by
  simp only [conflicts, List.filterMap_eq_nil_iff, Option.map_eq_none_iff, NameMap.names,
    Entries.names, List.forall_mem_map]

/-- Where no type is declared, none is kept. -/
theorem get?_typesOf_of_declared? {name : String} (absent : registry.declared? name = none)
    (scalar : Bool) : (registry.typesOf scalar).get? name = none := by
  rw [declared?, Option.or_eq_none_iff] at absent
  cases scalar
  · exact absent.1
  · exact absent.2

/-- If nothing conflicts, no type is kept on the one side under a name of the other. -/
theorem get?_typesOf_of_mergeConflicts {name : String} {scalar : Bool} {type : TypeDefinition}
    (none : registry.mergeConflicts other = []) (new : (other.typesOf scalar).get? name = some type)
    (scalar' : Bool) : (registry.typesOf scalar').get? name = .none := by
  rw [mergeConflicts, List.append_eq_nil_iff, List.append_eq_nil_iff] at none
  have held := NameMap.mem_names_of_get? new
  refine get?_typesOf_of_declared? ?_ scalar'
  cases scalar
  · exact conflicts_eq_nil_iff.1 none.1.1 name held
  · exact conflicts_eq_nil_iff.1 none.1.2 name held

/-- The conflict of schema definitions is that there are two. -/
theorem mem_schemaConflict_iff {held added : Option SchemaDefinition} {error : SchemaError} :
    error ∈ schemaConflict held added ↔ ∃ existing new, held = some existing ∧ added = some new ∧
      .schemaRedefinition new.position existing.position = error := by
  cases held <;> cases added <;> simp [schemaConflict, eq_comm]

/-! ## What is known after joining -/

/-- After joining, the types of both registries are known, those of the second first if there are
any of the name. -/
theorem get?_typesOf_joined (scalar : Bool) (name : String) :
    ((registry.joined other).typesOf scalar).get? name =
      ((other.typesOf scalar).get? name).or ((registry.typesOf scalar).get? name) := by
  cases scalar <;> exact NameMap.get?_extend_entries _ _ _

/-- After joining, the extensions of the second registry come after those of the first. -/
theorem extensionsOf_joined (name : String) :
    (registry.joined other).extensionsOf name =
      registry.extensionsOf name ++ other.extensionsOf name := by
  simp only [extensionsOf, joined, NameMap.get?_appendAll]
  cases registry.extensions.get? name <;> cases other.extensions.get? name <;> simp

end Registry

end SchemaAssembly
