import SchemaAssembly.Proofs.Merging

/-!
# Merging registries in either grouping

Three registries are merged by merging the second into the first and then the third, or by merging the
third into the second and then both into the first. The groupings look for different conflicts: the one
compares the first two registries before the third has a say, and the other one the last two. But a name
is declared in a joined registry exactly if it is declared in one of its parts, so that both groupings
come down to the same: no two of the three conflict. And what they join is the same, to the order of
every map, since types are listed one registry after the other and extensions are appended name by name.

Nothing is assumed about the registries, be it a history or that definitions are kept under their own
names.

## Main definitions

* `SchemaAssembly.Registry.Compatible` — two registries do not conflict.

## Main results

* `SchemaAssembly.Registry.merge_eq_ok_iff_compatible` — registries that do not conflict are joined, and
  no others are merged.
* `SchemaAssembly.Registry.compatible_joined_left`, `compatible_joined_right` — what conflicts with
  registries that were joined.
* `SchemaAssembly.Registry.joined_assoc` — the grouping in which registries are joined does not matter.
* `SchemaAssembly.Registry.merge_assoc_and_unit` — merging is associative, and the empty registry is its
  unit.
-/

set_option relaxedAutoImplicit false
set_option autoImplicit false

namespace SchemaAssembly

namespace Registry

variable {registry other next first second third : Registry}

/-! ## Compatible registries -/

/-- **Two registries do not conflict**: no name is declared in both, of whatever kind it is here and
there, and at most one of them has a schema definition. -/
structure Compatible (registry other : Registry) : Prop where
  /-- No name is declared in both. -/
  types : ∀ name, registry.declared? name = none ∨ other.declared? name = none
  /-- Not both have a schema definition. -/
  schema : registry.schema = none ∨ other.schema = none

/-- A name is declared if it is among the types or among the scalars. -/
theorem declared?_eq_none_iff {name : String} :
    registry.declared? name = none ↔
      name ∉ registry.types.names ∧ name ∉ registry.declaredScalars.names := by
  rw [declared?, Option.or_eq_none_iff, NameMap.get?_eq_none_iff, NameMap.get?_eq_none_iff]

/-- Schema definitions conflict if there are two. -/
theorem schemaConflict_eq_nil_iff {held added : Option SchemaDefinition} :
    schemaConflict held added = [] ↔ held = none ∨ added = none := by
  cases held <;> cases added <;> simp [schemaConflict]

/-- Merging finds no conflict if and only if the registries are compatible. -/
theorem mergeConflicts_eq_nil_iff : registry.mergeConflicts other = [] ↔ registry.Compatible other := by
  rw [mergeConflicts, List.append_eq_nil_iff, List.append_eq_nil_iff, conflicts_eq_nil_iff,
    conflicts_eq_nil_iff, schemaConflict_eq_nil_iff]
  simp only [declared?_eq_none_iff]
  constructor
  · rintro ⟨⟨types, scalars⟩, schema⟩
    refine ⟨fun name => ?_, schema⟩
    rw [declared?_eq_none_iff, declared?_eq_none_iff]
    by_cases held : name ∈ other.types.names
    · exact .inl (types name held)
    · by_cases held' : name ∈ other.declaredScalars.names
      · exact .inl (scalars name held')
      · exact .inr ⟨held, held'⟩
  · rintro ⟨types, schema⟩
    simp only [declared?_eq_none_iff] at types
    refine ⟨⟨fun name held => ?_, fun name held => ?_⟩, schema⟩
    · exact (types name).resolve_right fun absent => absent.1 held
    · exact (types name).resolve_right fun absent => absent.2 held

/-- **Registries that do not conflict are joined**, and no others are merged. -/
theorem merge_eq_ok_iff_compatible :
    registry.merge other = .ok next ↔ registry.Compatible other ∧ registry.joined other = next := by
  rw [merge_eq_ok_iff, mergeConflicts_eq_nil_iff]

/-! ## Conflicts with joined registries -/

/-- A name is declared after joining if it is declared in one of the registries. -/
theorem declared?_joined_eq_none_iff {name : String} :
    (registry.joined other).declared? name = none ↔
      registry.declared? name = none ∧ other.declared? name = none := by
  simp only [declared?, joined, NameMap.get?_extend_entries, Option.or_eq_none_iff]
  tauto

/-- There is a schema definition after joining if there is one in one of the registries. -/
theorem schema_joined_eq_none_iff :
    (registry.joined other).schema = none ↔ registry.schema = none ∧ other.schema = none := by
  rw [joined, Option.or_eq_none_iff]

/-- Joined registries conflict with what one of them conflicts with. -/
theorem compatible_joined_left :
    (first.joined second).Compatible third ↔ first.Compatible third ∧ second.Compatible third := by
  constructor
  · rintro ⟨types, schema⟩
    simp only [declared?_joined_eq_none_iff, schema_joined_eq_none_iff, and_or_right] at types schema
    exact ⟨⟨fun name => (types name).1, schema.1⟩, ⟨fun name => (types name).2, schema.2⟩⟩
  · rintro ⟨⟨types, schema⟩, ⟨types', schema'⟩⟩
    refine ⟨fun name => ?_, ?_⟩
    · rw [declared?_joined_eq_none_iff, and_or_right]
      exact ⟨types name, types' name⟩
    · rw [schema_joined_eq_none_iff, and_or_right]
      exact ⟨schema, schema'⟩

/-- It does not matter which of two registries is the one that is merged. -/
theorem Compatible.symm (compatible : registry.Compatible other) : other.Compatible registry :=
  ⟨fun name => (compatible.types name).symm, compatible.schema.symm⟩

/-- What conflicts with one of two joined registries conflicts with them. -/
theorem compatible_joined_right :
    first.Compatible (second.joined third) ↔ first.Compatible second ∧ first.Compatible third := by
  constructor
  · intro compatible
    obtain ⟨left, right⟩ := compatible_joined_left.1 compatible.symm
    exact ⟨left.symm, right.symm⟩
  · rintro ⟨left, right⟩
    exact (compatible_joined_left.2 ⟨left.symm, right.symm⟩).symm

/-! ## Joining -/

/-- Where nothing conflicts the types of the second registry are listed after those of the first. -/
theorem Compatible.entries_joined (compatible : registry.Compatible other) (scalar : Bool) :
    ((registry.joined other).typesOf scalar).entries =
      (registry.typesOf scalar).entries ++ (other.typesOf scalar).entries := by
  have apart : ∀ name ∈ (other.typesOf scalar).names, name ∉ (registry.typesOf scalar).names := by
    intro name h held
    rcases compatible.types name with absent | absent
    · rw [← NameMap.contains_iff, NameMap.contains, get?_typesOf_of_declared? absent] at held
      cases held
    · rw [← NameMap.contains_iff, NameMap.contains, get?_typesOf_of_declared? absent] at h
      cases h
  cases scalar <;> exact NameMap.entries_extend_of_disjoint apart

/-- **The grouping in which registries are joined does not matter**, if no two of them conflict. -/
theorem joined_assoc (start : first.Compatible second) (ends : first.Compatible third)
    (rest : second.Compatible third) :
    (first.joined second).joined third = first.joined (second.joined third) := by
  have entries : ∀ scalar, (((first.joined second).joined third).typesOf scalar).entries =
      ((first.joined (second.joined third)).typesOf scalar).entries := by
    intro scalar
    rw [(compatible_joined_left.2 ⟨ends, rest⟩).entries_joined, start.entries_joined,
      (compatible_joined_right.2 ⟨start, ends⟩).entries_joined, rest.entries_joined,
      List.append_assoc]
  refine Registry.ext (NameMap.ext (entries false)) (NameMap.ext (entries true)) ?_ ?_
  · exact NameMap.appendAll_assoc _ _ _
  · exact Option.or_assoc

/-- Joining the empty registry changes nothing. -/
theorem joined_empty (registry : Registry) : registry.joined .empty = registry :=
  Registry.ext rfl rfl rfl Option.or_none

/-- Joining to the empty registry gives what is joined. -/
theorem empty_joined (registry : Registry) : Registry.empty.joined registry = registry :=
  Registry.ext (NameMap.empty_extend _) (NameMap.empty_extend _) (NameMap.empty_appendAll _) rfl

/-- The empty registry conflicts with nothing. -/
theorem compatible_empty (registry : Registry) : registry.Compatible .empty :=
  ⟨fun _ => .inr rfl, .inr rfl⟩

/-! ## Merging -/

/-- **Merging is associative, and the empty registry is its unit.** Either grouping of three registries
succeeds with a registry if the other one does, with every map in the same order; both succeed exactly if
no two of the three conflict. Merging the empty registry, or merging into it, always succeeds and changes
nothing.

**Proof sketch.** Each grouping succeeds if the registries that it merges are compatible
(`merge_eq_ok_iff_compatible`), and joined registries are compatible with what their parts are compatible
with (`compatible_joined_left`, `compatible_joined_right`). What is joined is the same
(`joined_assoc`). -/
theorem merge_assoc_and_unit (first second third : Registry) :
    (∀ all, (∃ both, first.merge second = .ok both ∧ both.merge third = .ok all) ↔
      ∃ both, second.merge third = .ok both ∧ first.merge both = .ok all) ∧
    ((∃ all both, first.merge second = .ok both ∧ both.merge third = .ok all) ↔
      first.Compatible second ∧ first.Compatible third ∧ second.Compatible third) ∧
    first.merge .empty = .ok first ∧ Registry.empty.merge first = .ok first := by
  -- What either grouping comes to, in terms of the three registries.
  have left : ∀ all, (∃ both, first.merge second = .ok both ∧ both.merge third = .ok all) ↔
      (first.Compatible second ∧ first.Compatible third ∧ second.Compatible third) ∧
        (first.joined second).joined third = all := by
    intro all
    simp only [merge_eq_ok_iff_compatible, and_assoc, exists_and_left, exists_eq_left',
      compatible_joined_left]
  have right : ∀ all, (∃ both, second.merge third = .ok both ∧ first.merge both = .ok all) ↔
      (first.Compatible second ∧ first.Compatible third ∧ second.Compatible third) ∧
        first.joined (second.joined third) = all := by
    intro all
    simp only [merge_eq_ok_iff_compatible, and_assoc, exists_and_left, exists_eq_left',
      compatible_joined_right]
    tauto
  refine ⟨fun all => ?_, ?_, ?_, ?_⟩
  · rw [left, right]
    refine and_congr_right fun ⟨start, ends, rest⟩ => ?_
    rw [joined_assoc start ends rest]
  · simp only [left, exists_and_left, exists_eq', and_true]
  · exact merge_eq_ok_iff_compatible.2 ⟨compatible_empty first, joined_empty first⟩
  · exact merge_eq_ok_iff_compatible.2 ⟨(compatible_empty first).symm, empty_joined first⟩

end Registry

end SchemaAssembly
