import SchemaAssembly.Proofs.Histories

/-!
# Merging is all or nothing

A merge fails exactly if a name is declared on both sides, be it for a scalar here and for another type
there, or if both sides have a schema definition. If it fails the registry in place is as it was, and
each of the conflicts is reported once. If it succeeds the registry in place holds what both sides held.

That nothing is reported twice takes what a history ensures of the registry that is merged: types are
kept under their own names, and no name is both that of a scalar and that of another type. Of the
registry in place it takes nothing.

## Main definitions

* `SchemaAssembly.Registry.Clash` — the errors that two registries cause together.
* `SchemaAssembly.Registry.Unites` — a registry holds what two others held.

## Main results

* `SchemaAssembly.Registry.mem_mergeConflicts_iff`, `nodup_mergeConflicts` — all conflicts are found, and
  each is found once.
* `SchemaAssembly.Registry.merging_all_or_nothing` — when merging in place fails, and what it leaves.
-/

set_option relaxedAutoImplicit false
set_option autoImplicit false

namespace SchemaAssembly

namespace Registry

variable {registry other : Registry}

/-! ## Conflicts -/

/-- **The errors that two registries cause together.** They give the position in the second registry as
that of what is new. -/
inductive Clash (registry other : Registry) : SchemaError → Prop
  /-- A name is declared in both. -/
  | type {name : String} {existing new : TypeDefinition}
    (held : registry.declared? name = some existing) (added : other.declared? name = some new) :
    Clash registry other (.typeRedefinition name new.position existing.position)
  /-- Both have schema definitions. -/
  | schema {existing new : SchemaDefinition} (held : registry.schema = some existing)
    (added : other.schema = some new) :
    Clash registry other (.schemaRedefinition new.position existing.position)

/-- A well-formed registry declares what it keeps on one of its sides. -/
theorem WellFormed.declared?_eq_some_iff (wf : registry.WellFormed) {name : String}
    {type : TypeDefinition} :
    registry.declared? name = some type ↔
      ∃ scalar, (registry.typesOf scalar).get? name = some type := by
  rw [Bool.exists_bool, declared?, Option.or_eq_some_iff]
  refine or_congr_right (and_iff_right_of_imp fun held => ?_)
  exact (wf.apart name).resolve_right (by rw [held]; exact Option.some_ne_none _)

/-- **Every conflict is found, and nothing else.** -/
theorem mem_mergeConflicts_iff (wf : other.WellFormed) {error : SchemaError} :
    error ∈ registry.mergeConflicts other ↔ Clash registry other error := by
  have types : error ∈ registry.conflicts other.types ∨
      error ∈ registry.conflicts other.declaredScalars ↔
      ∃ name new existing, other.declared? name = some new ∧
        registry.declared? name = some existing ∧ redefinition existing new = error := by
    simp only [wf.declared?_eq_some_iff, Bool.exists_bool, mem_conflicts_iff, or_and_right, exists_or]
    rfl
  have named : ∀ {name new}, other.declared? name = some new → new.name = name := by
    intro name new added
    obtain ⟨scalar, held⟩ := wf.declared?_eq_some_iff.1 added
    cases scalar
    · exact wf.keyed.types name new held
    · exact wf.keyed.declaredScalars name new held
  rw [mergeConflicts, List.mem_append, List.mem_append, types, mem_schemaConflict_iff]
  constructor
  · rintro (⟨name, new, existing, added, held, rfl⟩ | ⟨existing, new, held, added, rfl⟩)
    · have clash := Clash.type held added
      rwa [← named added] at clash
    · exact .schema held added
  · rintro (⟨held, added⟩ | ⟨held, added⟩)
    · exact .inl ⟨_, _, _, added, held, by rw [redefinition, named added]⟩
    · exact .inr ⟨_, _, held, added, rfl⟩

/-- There is a conflict if a name is declared on both sides, or both have schema definitions. -/
theorem mergeConflicts_ne_nil_iff (wf : other.WellFormed) :
    registry.mergeConflicts other ≠ [] ↔
      (∃ name, (registry.declared? name).isSome ∧ (other.declared? name).isSome) ∨
        registry.schema.isSome ∧ other.schema.isSome := by
  simp only [Option.isSome_iff_exists]
  constructor
  · intro conflicts
    obtain ⟨error, h⟩ := List.exists_mem_of_ne_nil _ conflicts
    rcases (mem_mergeConflicts_iff wf).1 h with ⟨held, added⟩ | ⟨held, added⟩
    · exact .inl ⟨_, ⟨_, held⟩, ⟨_, added⟩⟩
    · exact .inr ⟨⟨_, held⟩, ⟨_, added⟩⟩
  · rintro (⟨name, ⟨existing, held⟩, ⟨new, added⟩⟩ | ⟨⟨existing, held⟩, ⟨new, added⟩⟩)
    · exact List.ne_nil_of_mem ((mem_mergeConflicts_iff wf).2 (.type held added))
    · exact List.ne_nil_of_mem ((mem_mergeConflicts_iff wf).2 (.schema held added))

/-- No conflict of types that are kept under their own names is found twice. -/
theorem nodup_conflicts {added : NameMap TypeDefinition} (keyed : added.Keyed TypeDefinition.name) :
    (registry.conflicts added).Nodup := by
  have distinct : added.entries.Pairwise fun entry entry' => entry.1 ≠ entry'.1 :=
    List.pairwise_map.1 added.nodup
  rw [List.nodup_iff_pairwise_ne, conflicts, List.pairwise_filterMap]
  refine distinct.imp_of_mem fun {entry entry'} h h' apart error found error' found' same => ?_
  obtain ⟨existing, -, rfl⟩ := Option.map_eq_some_iff.1 found
  obtain ⟨existing', -, rfl⟩ := Option.map_eq_some_iff.1 found'
  have names : entry.2.name = entry'.2.name := (SchemaError.typeRedefinition.inj same).1
  exact apart (by rw [← keyed.name_of_mem h, ← keyed.name_of_mem h', names])

/-- **No conflict is found twice.** -/
theorem nodup_mergeConflicts (wf : other.WellFormed) : (registry.mergeConflicts other).Nodup := by
  -- An error of both parts would name a type that is in both parts of the other registry.
  have scalars : ∀ error ∈ registry.conflicts other.types,
      error ∉ registry.conflicts other.declaredScalars := by
    intro error h h'
    obtain ⟨name, new, existing, added, -, rfl⟩ := mem_conflicts_iff.1 h
    obtain ⟨name', new', existing', added', -, same⟩ := mem_conflicts_iff.1 h'
    have names : new'.name = new.name := (SchemaError.typeRedefinition.inj same).1
    rw [wf.keyed.types name new added, wf.keyed.declaredScalars name' new' added'] at names
    subst names
    rcases wf.apart name' with absent | absent
    · rw [absent] at added
      cases added
    · rw [absent] at added'
      cases added'
  have schemas : ∀ added : NameMap TypeDefinition, ∀ error ∈ registry.conflicts added,
      error ∉ schemaConflict registry.schema other.schema := by
    intro added error h h'
    obtain ⟨name, new, existing, -, -, rfl⟩ := mem_conflicts_iff.1 h
    obtain ⟨existing', new', -, -, same⟩ := mem_schemaConflict_iff.1 h'
    cases same
  have schema : (schemaConflict registry.schema other.schema).Nodup := by
    cases registry.schema <;> cases other.schema <;> simp [schemaConflict]
  have both : (registry.conflicts other.types ++ registry.conflicts other.declaredScalars).Nodup :=
    (nodup_conflicts wf.keyed.types).append (nodup_conflicts wf.keyed.declaredScalars) scalars
  refine both.append schema fun error h => ?_
  exact (List.mem_append.1 h).elim (schemas _ error) (schemas _ error)

/-! ## Merging in place -/

/-- **A registry holds what two others held**, the extensions of the second after those of the first. -/
structure Unites (registry other merged : Registry) : Prop where
  /-- The types are those of both, each with its like. -/
  types : ∀ scalar name type, (merged.typesOf scalar).get? name = some type ↔
    (registry.typesOf scalar).get? name = some type ∨ (other.typesOf scalar).get? name = some type
  /-- The schema definition is that of the one or of the other. -/
  schema : ∀ schema, merged.schema = some schema ↔
    registry.schema = some schema ∨ other.schema = some schema
  /-- The extensions of a name are those of the first, and then those of the second. -/
  extensions : ∀ name, merged.extensionsOf name = registry.extensionsOf name ++ other.extensionsOf name

/-- Where nothing conflicts, joining holds what both registries held. -/
theorem unites_joined (none : registry.mergeConflicts other = []) :
    Unites registry other (registry.joined other) where
  types scalar name type := by
    rw [get?_typesOf_joined]
    cases new : (other.typesOf scalar).get? name with
    | none => simp
    | some added =>
      have absent := get?_typesOf_of_mergeConflicts none new scalar
      simp [absent]
  schema schema := by
    rw [mergeConflicts, List.append_eq_nil_iff] at none
    have apart := none.2
    cases held : registry.schema <;> cases added : other.schema <;>
      simp_all [joined, schemaConflict]
  extensions name := extensionsOf_joined name

/-- **Merging is all or nothing**, and reports everything.

**Proof sketch.** Merging in place comes out as merging does, and leaves the registry if it fails
(`run_merging`). It fails if there are conflicts (`merge_eq_error_iff`), and the conflicts are those names
and schema definitions that are on both sides (`mem_mergeConflicts_iff`). If there are none, the two
registries are joined (`unites_joined`). -/
theorem merging_all_or_nothing (made : other.Made) :
    ((∃ problem left, (merging other).run registry = .error problem left) ↔
      (∃ name, (registry.declared? name).isSome ∧ (other.declared? name).isSome) ∨
        registry.schema.isSome ∧ other.schema.isSome) ∧
    (∀ problem left, (merging other).run registry = .error problem left →
      left = registry ∧ problem.errors.Nodup ∧
        ∀ error, error ∈ problem.errors ↔ Clash registry other error) ∧
    ∀ merged, (merging other).run registry = .ok () merged → Unites registry other merged := by
  have wf := made.wellFormed wellFormed_empty
  simp only [run_merging_eq_error_iff, run_merging_eq_ok_iff]
  refine ⟨?_, ?_, ?_⟩
  · rw [← mergeConflicts_ne_nil_iff wf]
    constructor
    · rintro ⟨problem, left, failed, -⟩
      exact (merge_eq_error_iff.1 failed).1
    · intro conflicts
      exact ⟨_, registry, merge_eq_error_iff.2 ⟨conflicts, rfl⟩, rfl⟩
  · rintro problem left ⟨failed, rfl⟩
    obtain ⟨-, rfl⟩ := merge_eq_error_iff.1 failed
    exact ⟨rfl, nodup_mergeConflicts wf, fun error => mem_mergeConflicts_iff wf⟩
  · intro merged succeeded
    obtain ⟨none, rfl⟩ := merge_eq_ok_iff.1 succeeded
    exact unites_joined none

/-- Three conflicts are reported and nothing is changed, though one type would be new; and where nothing
conflicts everything is taken over. -/
theorem merging_all_or_nothing_base :
    rival.Made ∧ supplement.Made ∧
    (∃ problem, (merging rival).run base = .error problem base ∧ problem.errors.Nodup ∧
      ∀ error, error ∈ problem.errors ↔ error ∈
        [.typeRedefinition "Date" ⟨7, 1⟩ ⟨3, 1⟩, .typeRedefinition "Query" ⟨6, 1⟩ ⟨1, 1⟩,
          .schemaRedefinition ⟨5, 1⟩ ⟨4, 1⟩]) ∧
    ∃ merged, (merging supplement).run base = .ok () merged ∧ Unites base supplement merged := by
  have made : rival.Made := (Later.now .empty).addAll _
  have made' : supplement.Made := (Later.now .empty).addAll _
  have conflicts : base.mergeConflicts rival =
      [.typeRedefinition "Date" ⟨7, 1⟩ ⟨3, 1⟩, .typeRedefinition "Query" ⟨6, 1⟩ ⟨1, 1⟩,
        .schemaRedefinition ⟨5, 1⟩ ⟨4, 1⟩] := by decide +kernel
  have none : base.mergeConflicts supplement = [] := by decide +kernel
  obtain ⟨fails, leaves, -⟩ := @merging_all_or_nothing base rival made
  obtain ⟨problem, left, failed⟩ := fails.2 (.inr ⟨by decide +kernel, by decide +kernel⟩)
  obtain ⟨rfl, once, reported⟩ := leaves problem left failed
  have succeeded : (merging supplement).run base = .ok () (base.joined supplement) :=
    run_merging_eq_ok_iff.2 (merge_eq_ok_iff.2 ⟨none, rfl⟩)
  refine ⟨made, made', ⟨problem, failed, once, fun error => ?_⟩,
    _, succeeded, (merging_all_or_nothing made').2.2 _ succeeded⟩
  rw [reported, ← mem_mergeConflicts_iff (made.wellFormed wellFormed_empty), conflicts]

end Registry

end SchemaAssembly
