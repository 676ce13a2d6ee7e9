import SchemaAssembly.Proofs.InPlace

/-!
# What no history of a registry can break

A registry begins empty, and definitions are added to it and other registries merged into it, in any
order and any number of times. Some of these operations fail, and the history goes on after that. What is
said here holds of every registry that has such a history, and of every stretch of one: names are unique
across scalars and other types, everything is where it belongs, and what is there once stays.

The registry that is merged into another has a history of its own, so histories are defined along with
each other. What is said of a registry at the end of its history and what is said of a stretch are both
proved by induction on that, one case for each operation.

## Main definitions

* `SchemaAssembly.Registry.Later` — a registry is what another has become.
* `SchemaAssembly.Registry.Made` — a registry has become what it is from the empty one.
* `SchemaAssembly.Registry.WellFormed` — everything is where it belongs, and nothing twice.
* `SchemaAssembly.Registry.KeptIn` — what is there stays.

## Main results

* `SchemaAssembly.Registry.WellFormed.add`, `WellFormed.merge` — every operation keeps a registry well
  formed.
* `SchemaAssembly.Registry.keptIn_of_add`, `keptIn_of_merge` — every operation keeps what is there.
* `SchemaAssembly.Registry.wellFormed_and_kept` — a registry with a history is well formed, and keeps what
  is there whatever happens to it.
-/

set_option relaxedAutoImplicit false
set_option autoImplicit false

namespace SchemaAssembly

namespace Registry

variable {registry other next later : Registry} {definition : Definition}

/-! ## Histories -/

/-- **A registry is what another has become**: in place, definitions were added to it and registries with
histories of their own merged into it, with or without success. -/
inductive Later : Registry → Registry → Prop
  /-- Nothing has happened. -/
  | now (registry : Registry) : Later registry registry
  /-- Adding a definition was tried last. -/
  | add {registry before : Registry} (earlier : Later registry before) (definition : Definition) :
    Later registry ((adding definition).after before)
  /-- Merging a registry was tried last. -/
  | merge {registry before other : Registry} (earlier : Later registry before)
    (made : Later .empty other) : Later registry ((merging other).after before)

/-- **A registry has become what it is from the empty one.** -/
def Made (registry : Registry) : Prop := Later .empty registry

/-- Trying to add many definitions is a history. -/
theorem Later.addAll (earlier : registry.Later next) (definitions : List Definition) :
    registry.Later (next.addAll definitions).1 := by
  induction definitions generalizing next with
  | nil => exact earlier
  | cons definition rest ih =>
    rw [addAll_cons_fst]
    exact ih (earlier.add definition)

/-! ## Well-formed registries -/

/-- **Everything is where it belongs, and nothing twice.** -/
structure WellFormed (registry : Registry) : Prop where
  /-- Every definition of a type is kept under its own name. -/
  keyed : registry.Keyed
  /-- No name is both that of a scalar and that of another type. -/
  apart : ∀ name, registry.types.get? name = none ∨ registry.declaredScalars.get? name = none
  /-- Scalars are kept among scalars, and other types are not. -/
  kinds : ∀ scalar name type, (registry.typesOf scalar).get? name = some type →
    type.isScalar = scalar
  /-- There is an extension in every list, and all of them are of the name that the list is kept
  under. -/
  extensions : ∀ name fragments, registry.extensions.get? name = some fragments →
    fragments ≠ [] ∧ ∀ fragment ∈ fragments, fragment.name = name

/-- The empty registry is well formed. -/
theorem wellFormed_empty : empty.WellFormed where
  keyed := keyed_empty
  apart _ := .inl rfl
  kinds scalar _ _ held := by cases scalar <;> cases held
  extensions _ _ held := by cases held

/-- In a well-formed registry all types kept under a name are on one side. -/
theorem WellFormed.side_unique (wf : registry.WellFormed) {name : String} {scalar scalar' : Bool}
    {type type' : TypeDefinition} (held : (registry.typesOf scalar).get? name = some type)
    (held' : (registry.typesOf scalar').get? name = some type') : scalar = scalar' := by
  have apart := wf.apart name
  cases scalar <;> cases scalar' <;> simp_all [typesOf]

/-- If all types kept under a name are on one side, no name is on both. -/
theorem apart_of_side_unique (unique : ∀ name scalar scalar' type type',
      (registry.typesOf scalar).get? name = some type →
      (registry.typesOf scalar').get? name = some type' → scalar = scalar') (name : String) :
    registry.types.get? name = none ∨ registry.declaredScalars.get? name = none := by
  cases held : registry.types.get? name with
  | none => exact .inl rfl
  | some type =>
    cases held' : registry.declaredScalars.get? name with
    | none => exact .inr rfl
    | some type' => cases unique name false true type type' held held'

/-- **Adding a definition keeps a registry well formed.** -/
theorem WellFormed.add (wf : registry.WellFormed) (added : registry.add definition = .ok next) :
    next.WellFormed where
  keyed := wf.keyed.add added
  apart := by
    -- A type that is new under a name is alone there, as nothing was declared.
    have alone : ∀ new name scalar type, definition = .type new → new.name = name →
        (registry.typesOf scalar).get? name ≠ some type := by
      rintro new - scalar type rfl rfl held
      have free := exists_add_eq_ok_iff.1 ⟨next, added⟩ _ rfl
      have absent : registry.declared? new.name = none := by simpa [taken] using free
      rw [get?_typesOf_of_declared? absent] at held
      cases held
    refine apart_of_side_unique fun name scalar scalar' type type' held held' => ?_
    rw [typesOf_add added] at held held'
    rcases held with held | ⟨rfl, kind, own⟩ <;> rcases held' with held' | ⟨same, kind', own'⟩
    · exact wf.side_unique held held'
    · exact absurd held (alone _ _ _ _ same own')
    · exact absurd held' (alone _ _ _ _ rfl own)
    · cases same
      rw [← kind, ← kind']
  kinds scalar name type held := by
    rw [typesOf_add added] at held
    rcases held with held | ⟨-, kind, -⟩
    · exact wf.kinds scalar name type held
    · exact kind
  extensions name fragments held := by
    obtain ⟨type, -, -, way⟩ | ⟨extension, -, rfl⟩ | ⟨schema, -, -, rfl⟩ := add_cases added
    · obtain ⟨-, rfl⟩ | ⟨-, rfl⟩ := way <;> exact wf.extensions name fragments held
    · simp only [NameMap.update, NameMap.get?_set] at held
      split at held
      · next own =>
        obtain rfl := Option.some.inj held
        refine ⟨by simp, fun fragment h => ?_⟩
        rcases List.mem_append.1 h with h | h
        · cases before : registry.extensions.get? extension.name with
          | none => simp [before] at h
          | some fragments =>
            rw [before, Option.getD_some] at h
            exact own ▸ (wf.extensions _ _ before).2 fragment h
        · rw [List.mem_singleton.1 h, own]
      · exact wf.extensions name fragments held
    · exact wf.extensions name fragments held

/-- **Merging keeps a registry well formed**, if the other one is. -/
theorem WellFormed.merge (wf : registry.WellFormed) (wf' : other.WellFormed)
    (merged : registry.merge other = .ok next) : next.WellFormed := by
  have keyed := wf.keyed.merge wf'.keyed merged
  obtain ⟨none, rfl⟩ := merge_eq_ok_iff.1 merged
  refine ⟨keyed, apart_of_side_unique ?_, ?_, ?_⟩
  · -- A name of both registries would have been a conflict, so that both types come from one of them.
    intro name scalar scalar' type type' held held'
    rw [get?_typesOf_joined, Option.or_eq_some_iff] at held held'
    rcases held with held | ⟨-, held⟩ <;> rcases held' with held' | ⟨-, held'⟩
    · exact wf'.side_unique held held'
    · rw [get?_typesOf_of_mergeConflicts none held] at held'
      cases held'
    · rw [get?_typesOf_of_mergeConflicts none held'] at held
      cases held
    · exact wf.side_unique held held'
  · intro scalar name type held
    rw [get?_typesOf_joined, Option.or_eq_some_iff] at held
    rcases held with held | ⟨-, held⟩
    · exact wf'.kinds scalar name type held
    · exact wf.kinds scalar name type held
  · intro name fragments held
    simp only [joined, NameMap.get?_appendAll] at held
    cases before : registry.extensions.get? name with
    | none =>
      rw [before, Option.merge_none_left] at held
      exact wf'.extensions name fragments held
    | some present =>
      rw [before] at held
      have first := wf.extensions name present before
      cases new : other.extensions.get? name with
      | none =>
        rw [new, Option.merge_none_right] at held
        exact Option.some.inj held ▸ first
      | some added =>
        have second := wf'.extensions name added new
        rw [new] at held
        obtain rfl : present ++ added = fragments := Option.some.inj held
        refine ⟨List.append_ne_nil_of_left_ne_nil first.1 _, fun fragment h => ?_⟩
        exact (List.mem_append.1 h).elim (first.2 fragment) (second.2 fragment)

/-- **A registry is well formed throughout its history**, if it is at the beginning.

**Proof sketch.** By induction on the history, along with those of the registries that are merged. An
operation that fails has changed nothing; and if it succeeds, the registry stays well formed. -/
theorem Later.wellFormed (history : registry.Later later) (wf : registry.WellFormed) :
    later.WellFormed := by
  induction history with
  | now => exact wf
  | @add _ before _ definition ih =>
    rcases after_adding before definition with added | ⟨-, -, same⟩
    · exact (ih wf).add added
    · rw [same]
      exact ih wf
  | @merge _ before other _ _ ih ih' =>
    rcases after_merging before other with merged | ⟨-, -, same⟩
    · exact (ih wf).merge (ih' wellFormed_empty) merged
    · rw [same]
      exact ih wf

/-! ## What is there stays -/

/-- **What is there stays**: types and the schema definition are as they were, and lists of extensions
have grown at their ends only. -/
structure KeptIn (registry later : Registry) : Prop where
  /-- Types are kept under their names. -/
  types : ∀ scalar name type, (registry.typesOf scalar).get? name = some type →
    (later.typesOf scalar).get? name = some type
  /-- The schema definition is kept. -/
  schema : ∀ schema, registry.schema = some schema → later.schema = some schema
  /-- Extensions come first that were there before. -/
  extensions : ∀ name, registry.extensionsOf name <+: later.extensionsOf name

/-- What is there is there. -/
theorem KeptIn.refl (registry : Registry) : registry.KeptIn registry :=
  ⟨fun _ _ _ held => held, fun _ held => held, fun _ => List.prefix_rfl⟩

/-- What stays and then stays again stays. -/
theorem KeptIn.trans (kept : registry.KeptIn next) (kept' : next.KeptIn later) :
    registry.KeptIn later where
  types scalar name type held := kept'.types scalar name type (kept.types scalar name type held)
  schema schema held := kept'.schema schema (kept.schema schema held)
  extensions name := (kept.extensions name).trans (kept'.extensions name)

/-- Adding a definition keeps what is there. -/
theorem keptIn_of_add (added : registry.add definition = .ok next) : registry.KeptIn next where
  types scalar name type held := (typesOf_add added scalar name type).2 (.inl held)
  schema schema held := (schema_add added schema).2 (.inl held)
  extensions name := by
    rw [extensionsOf_add added]
    exact List.prefix_append _ _

/-- Merging keeps what is there. -/
theorem keptIn_of_merge (merged : registry.merge other = .ok next) : registry.KeptIn next := by
  obtain ⟨none, rfl⟩ := merge_eq_ok_iff.1 merged
  constructor
  · intro scalar name type held
    rw [get?_typesOf_joined]
    cases new : (other.typesOf scalar).get? name with
    | none => exact held
    | some added =>
      rw [get?_typesOf_of_mergeConflicts none new] at held
      cases held
  · intro schema held
    simp only [joined, held, Option.some_or]
  · intro name
    rw [extensionsOf_joined]
    exact List.prefix_append _ _

/-- What is there stays, whatever happens. -/
theorem Later.keptIn (history : registry.Later later) : registry.KeptIn later := by
  induction history with
  | now registry => exact .refl registry
  | @add _ before _ definition ih =>
    rcases after_adding before definition with added | ⟨-, -, same⟩
    · exact ih.trans (keptIn_of_add added)
    · rw [same]
      exact ih
  | @merge _ before other _ _ ih _ =>
    rcases after_merging before other with merged | ⟨-, -, same⟩
    · exact ih.trans (keptIn_of_merge merged)
    · rw [same]
      exact ih

/-- **A registry with a history is well formed, and keeps what is there**, whatever is done to it.

**Proof sketch.** Every operation that succeeds keeps a registry well formed (`WellFormed.add`,
`WellFormed.merge`) and what is there in place (`keptIn_of_add`, `keptIn_of_merge`); one that fails
changes nothing. Histories are followed by induction (`Later.wellFormed`, `Later.keptIn`). -/
theorem wellFormed_and_kept (made : registry.Made) :
    registry.WellFormed ∧ ∀ later, registry.Later later → registry.KeptIn later :=
  ⟨made.wellFormed wellFormed_empty, fun _ history => history.keptIn⟩

/-- A query type with an extension, a scalar, and a schema definition. -/
def baseDefinitions : List Definition := [
  .type ⟨"Query", none, ⟨1, 1⟩, .object [] []⟩,
  .extension ⟨"Query", ["Node"], [], ⟨2, 1⟩⟩,
  .type ⟨"Date", none, ⟨3, 1⟩, .scalar⟩,
  .schema ⟨[⟨.query, "Query", ⟨4, 10⟩⟩], ⟨4, 1⟩⟩]

/-- Something new, and three conflicts with that: both names, each for the other kind, and one more
schema definition. -/
def rivalDefinitions : List Definition := [
  .schema ⟨[⟨.query, "Query", ⟨5, 10⟩⟩], ⟨5, 1⟩⟩,
  .type ⟨"Query", none, ⟨6, 1⟩, .scalar⟩,
  .type ⟨"Date", none, ⟨7, 1⟩, .object [] []⟩,
  .type ⟨"Node", none, ⟨8, 1⟩, .interface []⟩,
  .extension ⟨"Query", [], [], ⟨9, 1⟩⟩]

/-- What does not conflict: one more type, and one more extension of the query type. -/
def supplementDefinitions : List Definition := [
  .type ⟨"Node", none, ⟨10, 1⟩, .interface []⟩,
  .extension ⟨"Query", ["Entity"], [], ⟨11, 1⟩⟩]

/-- The registry to begin with. -/
def base : Registry := (empty.addAll baseDefinitions).1

/-- The registry that conflicts with it. -/
def rival : Registry := (empty.addAll rivalDefinitions).1

/-- The registry that does not. -/
def supplement : Registry := (empty.addAll supplementDefinitions).1

/-- What becomes of the first if the others are merged into it, one of them in vain, and then a type is
defined again, also in vain. -/
def outgrown : Registry :=
  (adding (.type ⟨"Node", none, ⟨12, 1⟩, .object [] []⟩)).after
    ((merging supplement).after ((merging rival).after base))

/-- Three operations later there is one more type, the same schema definition, and one more extension
after the one before. -/
theorem wellFormed_and_kept_base :
    base.Made ∧ base.WellFormed ∧ base.Later outgrown ∧ base.KeptIn outgrown ∧
    outgrown.types.names = ["Query", "Node"] ∧ outgrown.declaredScalars.names = ["Date"] ∧
    outgrown.schema.map (·.position.line) = some 4 ∧
    (outgrown.extensionsOf "Query").map (·.position.line) = [2, 11] := by
  have made : base.Made := (Later.now .empty).addAll _
  have rivalMade : rival.Made := (Later.now .empty).addAll _
  have supplementMade : supplement.Made := (Later.now .empty).addAll _
  have history : base.Later outgrown :=
    (((Later.now base).merge rivalMade).merge supplementMade).add _
  obtain ⟨wf, kept⟩ := wellFormed_and_kept made
  exact ⟨made, wf, history, kept outgrown history, by decide +kernel⟩

end Registry

end SchemaAssembly
