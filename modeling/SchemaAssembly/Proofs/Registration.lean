import Mathlib.Data.Finset.Card
import Mathlib.Data.Finset.Option
import Mathlib.Tactic.Tauto
import SchemaAssembly.Proofs.Keyed

/-!
# What registering definitions does

A registry is read by looking names up. What it knows after definitions were added is said here in
terms of the definitions: a type is declared if it was before or is among them, the extensions of a
name are those before and then those among them, and so on. Only one definition may have a type name,
and only one may be the schema definition; adding fails for the second one that claims such a slot,
so that the number of failures is that of slots claimed, less that of distinct ones.

## Main definitions

* `SchemaAssembly.Slot`, `SchemaAssembly.Definition.slot?` — what only one definition may have.
* `SchemaAssembly.Registry.taken` — whether a slot is taken.
* `SchemaAssembly.fragmentsOf` — the extensions of a name among definitions.
* `SchemaAssembly.Registry.typesOf` — the types that are scalars, and those that are not.
* `SchemaAssembly.Registry.claimed` — the free slots that definitions claim.

## Main results

* `SchemaAssembly.Registry.add_cases` — the ways in which a definition is added.
* `SchemaAssembly.Registry.typesOf_add`, `extensionsOf_add`, `contains_add`, `schema_add` — what is
  known after a definition was added.
* `SchemaAssembly.Registry.typesOf_addAll`, `extensionsOf_addAll`, `contains_addAll`,
  `schema_addAll` — what is known after many were, if all of them could be.
* `SchemaAssembly.Registry.length_errors_addAll` — how many could not be added.
-/

set_option relaxedAutoImplicit false
set_option autoImplicit false

namespace SchemaAssembly

/-! ## Slots and fragments -/

/-- What only one definition may have. -/
inductive Slot
  /-- The name of a type, of whatever kind. -/
  | type (name : String)
  /-- Being the schema definition. -/
  | schema
deriving DecidableEq

/-- The slot that a definition claims. Extensions claim none. -/
def Definition.slot? : Definition → Option Slot
  | .type definition => some (.type definition.name)
  | .extension _ => none
  | .schema _ => some .schema

/-- The extension that a definition is, if it is one of the given name. -/
def Definition.fragment? (name : String) : Definition → Option TypeExtension
  | .extension definition => if definition.name = name then some definition else none
  | _ => none

/-- **The fragments of a name**: its extensions among definitions, in order. -/
def fragmentsOf (name : String) (definitions : List Definition) : List TypeExtension :=
  definitions.filterMap (Definition.fragment? name)

/-- Where nothing is held under a name, setting it adds what is held under it and nothing else. -/
theorem NameMap.get?_set_eq_some_iff {α : Type} {m : NameMap α} {key : String}
    (absent : m.get? key = none) (a b : α) (name : String) :
    (m.set key a).get? name = some b ↔ m.get? name = some b ∨ a = b ∧ key = name := by
  rw [get?_set]
  by_cases own : name = key
  · simp [own, absent]
  · simp [own, Ne.symm own]

namespace Registry

/-- The types that are scalars, which are kept apart, or those that are not. -/
def typesOf (registry : Registry) (scalar : Bool) : NameMap TypeDefinition :=
  if scalar then registry.declaredScalars else registry.types

/-- A name is found alike where types are kept alike under it. -/
theorem find?_congr {registry registry' : Registry} {name : String}
    (kept : ∀ scalar, (registry'.typesOf scalar).get? name = (registry.typesOf scalar).get? name) :
    registry'.find? name = registry.find? name := by
  have types : registry'.types.get? name = registry.types.get? name := kept false
  have scalars : registry'.declaredScalars.get? name = registry.declaredScalars.get? name := kept true
  rw [find?, find?, declared?, declared?, types, scalars]

/-- Whether a slot is taken. -/
def taken (registry : Registry) : Slot → Bool
  | .type name => (registry.declared? name).isSome
  | .schema => registry.schema.isSome

/-- What is held of the extensions of a name: their list, or nothing if there never were any. -/
theorem get?_extensions (registry : Registry) (name : String) :
    registry.extensions.get? name =
      if registry.extensions.contains name then some (registry.extensionsOf name) else none := by
  unfold NameMap.contains extensionsOf
  cases registry.extensions.get? name <;> rfl

variable {registry next : Registry} {definition : Definition}

/-! ## Adding one definition -/

/-- A definition can be added unless it claims a slot that is taken. -/
theorem exists_add_eq_ok_iff :
    (∃ next, registry.add definition = .ok next) ↔
      ∀ slot, definition.slot? = some slot → registry.taken slot = false := by
  cases definition with
  | type added =>
    cases declared : registry.declared? added.name with
    | none =>
      cases scalar : added.isScalar <;> simp [add, declared, scalar, Definition.slot?, taken]
    | some existing => simp [add, declared, Definition.slot?, taken]
  | extension added => simp [add, Definition.slot?]
  | schema added => cases held : registry.schema <;> simp [add, held, Definition.slot?, taken]

/-- **The ways in which a definition is added.** A type goes to the scalars or to the other types,
and nothing of its name was declared; an extension goes after those of its name; and a schema
definition is the first. -/
theorem add_cases (added : registry.add definition = .ok next) :
    (∃ type, definition = .type type ∧ registry.declared? type.name = none ∧
      ((type.isScalar = true ∧ next = { registry with
          declaredScalars := registry.declaredScalars.set type.name type }) ∨
        type.isScalar = false ∧ next = { registry with
          types := registry.types.set type.name type })) ∨
    (∃ extension, definition = .extension extension ∧ next = { registry with
      extensions := registry.extensions.update extension.name
        fun held => held.getD [] ++ [extension] }) ∨
    ∃ schema, definition = .schema schema ∧ registry.schema = none ∧
      next = { registry with schema := some schema } := by
  cases definition with
  | type type =>
    simp only [add] at added
    split at added
    · cases added
    · next absent =>
      refine .inl ⟨type, rfl, absent, ?_⟩
      cases scalar : type.isScalar <;> simp only [scalar, if_true] at added <;> cases added
      · exact .inr ⟨rfl, rfl⟩
      · exact .inl ⟨rfl, rfl⟩
  | extension extension =>
    cases added
    exact .inr (.inl ⟨extension, rfl, rfl⟩)
  | schema schema =>
    simp only [add] at added
    split at added
    · cases added
    · next absent =>
      cases added
      exact .inr (.inr ⟨schema, rfl, absent, rfl⟩)

section Added

variable (added : registry.add definition = .ok next)

include added

/-- **After a definition was added, those types are kept that were before, and it**, each with its
like. -/
theorem typesOf_add (scalar : Bool) (name : String) (type : TypeDefinition) :
    (next.typesOf scalar).get? name = some type ↔
      (registry.typesOf scalar).get? name = some type ∨
        definition = .type type ∧ type.isScalar = scalar ∧ type.name = name := by
  obtain ⟨new, rfl, absent, way⟩ | ⟨extension, rfl, rfl⟩ | ⟨schema, rfl, -, rfl⟩ := add_cases added
  · simp only [declared?, Option.or_eq_none_iff] at absent
    have set : (next.typesOf scalar).get? name = some type ↔
        (registry.typesOf scalar).get? name = some type ∨
          new.isScalar = scalar ∧ new = type ∧ new.name = name := by
      obtain ⟨kind, rfl⟩ | ⟨kind, rfl⟩ := way <;> cases scalar <;>
        simp [typesOf, kind, NameMap.get?_set_eq_some_iff, absent, -NameMap.get?_set]
    rw [set, Definition.type.injEq]
    refine or_congr_right ⟨?_, ?_⟩
    · rintro ⟨kind, rfl, named⟩
      exact ⟨rfl, kind, named⟩
    · rintro ⟨rfl, kind, named⟩
      exact ⟨kind, rfl, named⟩
  · simp [typesOf]
  · simp [typesOf]

/-- After a definition was added, the extensions of a name are those before, and it if it is one. -/
theorem extensionsOf_add (name : String) :
    next.extensionsOf name =
      registry.extensionsOf name ++ (definition.fragment? name).toList := by
  obtain ⟨new, rfl, -, way⟩ | ⟨extension, rfl, rfl⟩ | ⟨schema, rfl, -, rfl⟩ := add_cases added
  · obtain ⟨-, rfl⟩ | ⟨-, rfl⟩ := way <;> simp [extensionsOf, Definition.fragment?]
  · by_cases own : name = extension.name
    · simp [extensionsOf, NameMap.update, own, Definition.fragment?]
    · simp [extensionsOf, NameMap.update, own, Definition.fragment?, Ne.symm own]
  · simp [extensionsOf, Definition.fragment?]

/-- After a definition was added, a name has extensions if it had before or the definition is one. -/
theorem contains_add (name : String) :
    next.extensions.contains name =
      (registry.extensions.contains name || (definition.fragment? name).isSome) := by
  obtain ⟨new, rfl, -, way⟩ | ⟨extension, rfl, rfl⟩ | ⟨schema, rfl, -, rfl⟩ := add_cases added
  · obtain ⟨-, rfl⟩ | ⟨-, rfl⟩ := way <;> simp [Definition.fragment?]
  · by_cases own : name = extension.name
    · simp [NameMap.contains, NameMap.update, own, Definition.fragment?]
    · simp [NameMap.contains, NameMap.update, own, Definition.fragment?, Ne.symm own]
  · simp [Definition.fragment?]

/-- After a definition was added, the schema definition is the one before, or it. -/
theorem schema_add (schema : SchemaDefinition) :
    next.schema = some schema ↔ registry.schema = some schema ∨ definition = .schema schema := by
  obtain ⟨new, rfl, -, way⟩ | ⟨extension, rfl, rfl⟩ | ⟨schema, rfl, absent, rfl⟩ := add_cases added
  · obtain ⟨-, rfl⟩ | ⟨-, rfl⟩ := way <;> simp
  · simp
  · simp [absent]

/-- After a definition was added, those slots are taken that were before, and the one it claims. -/
theorem taken_add (slot : Slot) :
    next.taken slot = true ↔ registry.taken slot = true ∨ definition.slot? = some slot := by
  cases slot with
  | type name =>
    have held : ∀ registry : Registry, registry.taken (.type name) = true ↔
        ∃ scalar type, (registry.typesOf scalar).get? name = some type := by
      intro registry
      simp [taken, declared?, typesOf, Option.isSome_iff_exists]
    simp only [held, typesOf_add added, exists_or]
    refine or_congr_right ⟨?_, fun claims => ?_⟩
    · rintro ⟨-, type, rfl, -, rfl⟩
      rfl
    · cases definition <;> cases claims
      exact ⟨_, _, rfl, rfl, rfl⟩
  | schema =>
    simp only [taken, Option.isSome_iff_exists, schema_add added, exists_or]
    refine or_congr_right ⟨?_, fun claims => ?_⟩
    · rintro ⟨schema, rfl⟩
      rfl
    · cases definition <;> cases claims
      exact ⟨_, rfl⟩

end Added

/-! ## Adding many definitions -/

/-- A definition that could be added is among those that are tried. -/
theorem addAll_cons_of_ok (added : registry.add definition = .ok next)
    (rest : List Definition) :
    registry.addAll (definition :: rest) = next.addAll rest := by
  simp only [addAll, added]

/-- If many definitions could all be added, the first could, and then the others. -/
theorem exists_add_of_addAll {rest : List Definition}
    (all : (registry.addAll (definition :: rest)).2 = []) :
    ∃ next, registry.add definition = .ok next ∧
      (next.addAll rest).2 = [] ∧ registry.addAll (definition :: rest) = next.addAll rest := by
  cases added : registry.add definition with
  | ok next =>
    rw [addAll_cons_of_ok added] at all
    exact ⟨next, rfl, all, addAll_cons_of_ok added rest⟩
  | error fault =>
    simp only [addAll, added] at all
    cases all

/-- Definitions that can all be added make a registry. -/
theorem ofDefinitions_of_nil {definitions : List Definition}
    (all : (empty.addAll definitions).2 = []) :
    ofDefinitions definitions = .ok (empty.addAll definitions).1 := by
  unfold ofDefinitions
  generalize empty.addAll definitions = outcome at all ⊢
  obtain ⟨registry, errors⟩ := outcome
  obtain rfl : errors = [] := all
  rfl

/-- Definitions that cannot all be added make none, and what is reported is why not. -/
theorem ofDefinitions_of_ne_nil {definitions : List Definition}
    (conflicts : (empty.addAll definitions).2 ≠ []) :
    ofDefinitions definitions = .error ⟨(empty.addAll definitions).2⟩ := by
  unfold ofDefinitions
  generalize empty.addAll definitions = outcome at conflicts ⊢
  obtain ⟨registry, errors⟩ := outcome
  cases errors with
  | nil => exact absurd rfl conflicts
  | cons first others => rfl

section All

variable {definitions : List Definition} (all : (registry.addAll definitions).2 = [])

include all

/-- **After many definitions were added, those types are kept that were before, and those among
them**, each with its like. -/
theorem typesOf_addAll (scalar : Bool) (name : String) (type : TypeDefinition) :
    ((registry.addAll definitions).1.typesOf scalar).get? name = some type ↔
      (registry.typesOf scalar).get? name = some type ∨
        .type type ∈ definitions ∧ type.isScalar = scalar ∧ type.name = name := by
  induction definitions generalizing registry with
  | nil => simp [addAll]
  | cons definition rest ih =>
    obtain ⟨next, added, all', same⟩ := exists_add_of_addAll all
    rw [same, ih all', typesOf_add added, List.mem_cons, or_assoc, ← or_and_right,
      @eq_comm _ definition]

/-- After many definitions were added, the extensions of a name are those before, and then its
fragments among them. -/
theorem extensionsOf_addAll (name : String) :
    (registry.addAll definitions).1.extensionsOf name =
      registry.extensionsOf name ++ fragmentsOf name definitions := by
  induction definitions generalizing registry with
  | nil => simp [addAll, fragmentsOf]
  | cons definition rest ih =>
    obtain ⟨next, added, all', same⟩ := exists_add_of_addAll all
    rw [same, ih all', extensionsOf_add added, List.append_assoc]
    cases h : definition.fragment? name <;> simp [fragmentsOf, h]

/-- After many definitions were added, a name has extensions if it had before or has fragments among
them. -/
theorem contains_addAll (name : String) :
    (registry.addAll definitions).1.extensions.contains name =
      (registry.extensions.contains name || !(fragmentsOf name definitions).isEmpty) := by
  induction definitions generalizing registry with
  | nil => simp [addAll, fragmentsOf]
  | cons definition rest ih =>
    obtain ⟨next, added, all', same⟩ := exists_add_of_addAll all
    rw [same, ih all', contains_add added, Bool.or_assoc]
    cases h : definition.fragment? name <;> simp [fragmentsOf, h]

/-- After many definitions were added, the schema definition is the one before, or among them. -/
theorem schema_addAll (schema : SchemaDefinition) :
    (registry.addAll definitions).1.schema = some schema ↔
      registry.schema = some schema ∨ .schema schema ∈ definitions := by
  induction definitions generalizing registry with
  | nil => simp [addAll]
  | cons definition rest ih =>
    obtain ⟨next, added, all', same⟩ := exists_add_of_addAll all
    rw [same, ih all', schema_add added, List.mem_cons, or_assoc, @eq_comm _ definition]

end All

/-! ## Counting what could not be added -/

/-- The slots that are claimed among definitions and were not taken before. -/
def claimed (registry : Registry) (definitions : List Definition) : Finset Slot :=
  (definitions.filterMap Definition.slot?).toFinset.filter fun slot => registry.taken slot = false

/-- A definition that is added takes its slot, so that this is claimed no more. -/
theorem claimed_cons_of_ok (added : registry.add definition = .ok next)
    (rest : List Definition) :
    registry.claimed (definition :: rest) =
        definition.slot?.toFinset ∪ next.claimed rest ∧
      Disjoint definition.slot?.toFinset (next.claimed rest) := by
  have free := exists_add_eq_ok_iff.1 ⟨next, added⟩
  have taken : ∀ slot, next.taken slot = false ↔
      registry.taken slot = false ∧ definition.slot? ≠ some slot := by
    intro slot
    rw [← Bool.not_eq_true, taken_add added, not_or, Bool.not_eq_true]
  constructor
  · ext slot
    simp only [claimed, Finset.mem_filter, List.mem_toFinset, List.mem_filterMap, List.mem_cons,
      Finset.mem_union, Option.mem_toFinset, Option.mem_def, taken, exists_eq_or_imp]
    have := free slot
    tauto
  · rw [Finset.disjoint_left]
    intro slot own other
    exact ((taken slot).1 (Finset.mem_filter.1 other).2).2 (Option.mem_toFinset.1 own)

/-- **How many definitions could not be added**: as many as claim slots, less the distinct slots
claimed that were not taken before.

**Proof sketch.** Along the list. A definition that claims no slot counts on neither side. One that
claims a slot that is taken fails, and the slot is not counted among the distinct ones. One that claims
a slot that is free is added; the slot is taken from then on, and counted once. -/
theorem length_errors_addAll (registry : Registry) (definitions : List Definition) :
    (registry.addAll definitions).2.length + (registry.claimed definitions).card =
      (definitions.filterMap Definition.slot?).length := by
  induction definitions generalizing registry with
  | nil => rfl
  | cons definition rest ih =>
    cases added : registry.add definition with
    | ok next =>
      obtain ⟨split, disjoint⟩ := claimed_cons_of_ok added rest
      rw [addAll_cons_of_ok added, split, Finset.card_union_of_disjoint disjoint]
      have counted := ih next
      cases claims : definition.slot? with
      | none => simp [claims, counted]
      | some slot =>
        simp only [List.filterMap_cons, claims, List.length_cons, Option.toFinset_some,
          Finset.card_singleton]
        omega
    | error fault =>
      -- The slot is taken, so that it is not among those counted.
      have refused : ¬ ∃ next, registry.add definition = .ok next := by
        rintro ⟨next, h⟩
        rw [added] at h
        cases h
      rw [exists_add_eq_ok_iff] at refused
      push Not at refused
      obtain ⟨slot, claims, taken⟩ := refused
      have same : registry.claimed (definition :: rest) = registry.claimed rest := by
        rw [claimed, List.filterMap_cons, claims]
        simp only [List.toFinset_cons, Finset.filter_insert, if_neg taken]
        rfl
      have counted := ih registry
      rw [same]
      simp only [addAll, added, List.filterMap_cons, claims, List.length_cons]
      omega

end Registry

end SchemaAssembly
