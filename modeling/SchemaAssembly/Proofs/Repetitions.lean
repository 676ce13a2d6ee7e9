import SchemaAssembly.Proofs.AllOrNothing
import SchemaAssembly.Proofs.Conflicts

/-!
# Registries of lists of definitions

A list of definitions makes a registry unless it repeats itself: no two types may have one name, of
whatever kinds they are, and only one schema may be defined. Trying to add goes on after a definition was
refused, so that what counts as being there depends on what was taken before. Said by the list alone it is
simpler. A place of the list is reported if there is an earlier one to repeat, and what it is said to
conflict with is the first such place, which was taken; a place in between was refused itself, and is never
pointed at.

## Main definitions

* `SchemaAssembly.Unrepeated` — no definition of a list repeats another.
* `SchemaAssembly.Repeats` — what is reported of a place that repeats an earlier one.
* `SchemaAssembly.Reported` — the errors of a list, place by place.
* `SchemaAssembly.Registry.Knows` — what a registry knows if it was made of definitions.

## Main results

* `SchemaAssembly.Registry.errors_addAll_empty_eq_nil_iff` — everything is added if nothing is repeated.
* `SchemaAssembly.Registry.reported_addAll` — trying to add reports the places that repeat earlier ones.
* `SchemaAssembly.Registry.knows_addAll` — what is known after everything was added.
* `SchemaAssembly.Registry.ofDefinitions_by_list` — registries of definitions, said by the list.
-/

set_option relaxedAutoImplicit false
set_option autoImplicit false

namespace SchemaAssembly

/-! ## Repetitions in a list -/

/-- The name of the type that a definition is, if it is one. -/
def Definition.typeName? : Definition → Option String
  | .type definition => some definition.name
  | _ => none

/-- **No definition repeats another**: the names of types are distinct, those of scalars included, and
there is at most one schema definition. -/
structure Unrepeated (definitions : List Definition) : Prop where
  /-- No two types have one name. -/
  names : (definitions.filterMap Definition.typeName?).Nodup
  /-- The schema is defined once or not at all. -/
  schema : (definitions.filterMap Definition.schema?).length ≤ 1

/-- **What is reported of a place in a list**, if there is an earlier one that the definition there
repeats. Of several earlier ones the first is pointed at. -/
inductive Repeats (definitions : List Definition) : Nat → SchemaError → Prop
  /-- A type repeats the first type of its name. -/
  | type {place first : Nat} {new existing : TypeDefinition}
    (here : definitions[place]? = some (.type new))
    (there : definitions[first]? = some (.type existing)) (before : first < place)
    (named : existing.name = new.name)
    (foremost : ∀ other type, definitions[other]? = some (.type type) → type.name = new.name →
      first ≤ other) :
    Repeats definitions place (.typeRedefinition new.name new.position existing.position)
  /-- A schema definition repeats the first one. -/
  | schema {place first : Nat} {new existing : SchemaDefinition}
    (here : definitions[place]? = some (.schema new))
    (there : definitions[first]? = some (.schema existing)) (before : first < place)
    (foremost : ∀ other schema, definitions[other]? = some (.schema schema) → first ≤ other) :
    Repeats definitions place (.schemaRedefinition new.position existing.position)

/-- **The errors of a list of definitions**: one for each place that repeats an earlier one, in the order
of the list. -/
def Reported (definitions : List Definition) (errors : List SchemaError) : Prop :=
  ∃ places : List Nat, places.Pairwise (· < ·) ∧
    (∀ place, place ∈ places ↔ ∃ error, Repeats definitions place error) ∧
    List.Forall₂ (Repeats definitions) places errors

/-- What is found first in the beginning of a list is what is found first in the list, if it is found
before that beginning ends. -/
theorem findSome?_take_eq_some_iff {α β : Type} {f : α → Option β} {items : List α} {place : Nat}
    {b : β} : (items.take place).findSome? f = some b ↔
      ∃ first a, first < place ∧ items[first]? = some a ∧ f a = some b ∧
        ∀ other a', items[other]? = some a' → f a' ≠ none → first ≤ other := by
  constructor
  · intro found
    obtain ⟨before, a, after, split, own, none⟩ := List.findSome?_eq_some_iff.1 found
    have at_first : (items.take place)[before.length]? = some a := by simp [split]
    have inside : before.length < place := by
      have h := (List.getElem?_eq_some_iff.1 at_first).1
      rw [List.length_take] at h
      omega
    rw [List.getElem?_take, if_pos inside] at at_first
    refine ⟨before.length, a, inside, at_first, own, fun other a' held some => ?_⟩
    by_contra sooner
    have inBefore : (items.take place)[other]? = before[other]? := by
      rw [split, List.getElem?_append_left (by omega)]
    rw [List.getElem?_take, if_pos (by omega), held] at inBefore
    exact some (none a' (List.mem_of_getElem? inBefore.symm))
  · rintro ⟨first, a, inside, held, own, foremost⟩
    obtain ⟨bound, rfl⟩ := List.getElem?_eq_some_iff.1 held
    have split : items.take place = items.take first ++ items[first] ::
        (items.take place).drop (first + 1) := by
      have h := List.take_append_drop first (items.take place)
      rw [List.take_take, Nat.min_eq_left inside.le, List.drop_eq_getElem_cons (by simp; omega),
        List.getElem_take] at h
      exact h.symm
    refine List.findSome?_eq_some_iff.2 ⟨_, _, _, split, own, fun a' h => ?_⟩
    obtain ⟨other, held'⟩ := List.mem_iff_getElem?.1 h
    rw [List.getElem?_take] at held'
    by_contra some
    split at held'
    · next sooner => exact absurd (foremost other a' held' some) (by omega)
    · cases held'

/-- What a definition is as a type of some name. -/
theorem Definition.typeNamed?_eq_some_iff {definition : Definition} {name : String}
    {type : TypeDefinition} :
    definition.typeNamed? name = some type ↔ definition = .type type ∧ type.name = name := by
  cases definition with
  | type held =>
    simp only [typeNamed?, Option.ite_none_right_eq_some, Option.some.injEq, Definition.type.injEq]
    constructor
    · rintro ⟨named, rfl⟩
      exact ⟨rfl, named⟩
    · rintro ⟨rfl, named⟩
      exact ⟨named, rfl⟩
  | extension held => simp [typeNamed?]
  | schema held => simp [typeNamed?]

/-- What a definition is as an extension of some name. -/
theorem Definition.fragment?_eq_some_iff {definition : Definition} {name : String}
    {extension : TypeExtension} :
    definition.fragment? name = some extension ↔
      definition = .extension extension ∧ extension.name = name := by
  cases definition with
  | type held => simp [fragment?]
  | extension held =>
    simp only [fragment?, Option.ite_none_right_eq_some, Option.some.injEq,
      Definition.extension.injEq]
    constructor
    · rintro ⟨named, rfl⟩
      exact ⟨rfl, named⟩
    · rintro ⟨rfl, named⟩
      exact ⟨named, rfl⟩
  | schema held => simp [fragment?]

/-- What a definition is as a schema definition. -/
theorem Definition.schema?_eq_some_iff {definition : Definition} {schema : SchemaDefinition} :
    definition.schema? = some schema ↔ definition = .schema schema := by
  cases definition <;> simp [schema?]

/-- **A place repeats an earlier one if the definition there conflicts with what comes before it.** -/
theorem repeats_iff {definitions : List Definition} {place : Nat} {error : SchemaError} :
    Repeats definitions place error ↔ ∃ definition, definitions[place]? = some definition ∧
      clash? (definitions.take place) definition = some error := by
  constructor
  · intro repeated
    cases repeated with
    | @type first new existing here there before named foremost =>
      refine ⟨_, here, Option.map_eq_some_iff.2 ⟨existing, ?_, rfl⟩⟩
      refine findSome?_take_eq_some_iff.2 ⟨first, _, before, there,
        Definition.typeNamed?_eq_some_iff.2 ⟨rfl, named⟩, fun other definition held some => ?_⟩
      obtain ⟨type, found⟩ := Option.ne_none_iff_exists'.1 some
      obtain ⟨rfl, named'⟩ := Definition.typeNamed?_eq_some_iff.1 found
      exact foremost other type held named'
    | @schema first new existing here there before foremost =>
      refine ⟨_, here, Option.map_eq_some_iff.2 ⟨existing, ?_, rfl⟩⟩
      refine findSome?_take_eq_some_iff.2 ⟨first, _, before, there, rfl,
        fun other definition held some => ?_⟩
      obtain ⟨schema, found⟩ := Option.ne_none_iff_exists'.1 some
      obtain rfl := Definition.schema?_eq_some_iff.1 found
      exact foremost other schema held
  · rintro ⟨definition, here, clash⟩
    cases definition with
    | type new =>
      obtain ⟨existing, found, rfl⟩ := Option.map_eq_some_iff.1 clash
      obtain ⟨first, a, before, there, own, foremost⟩ := findSome?_take_eq_some_iff.1 found
      obtain ⟨rfl, named⟩ := Definition.typeNamed?_eq_some_iff.1 own
      refine .type here there before named fun other type held named' => foremost other _ held ?_
      rw [Definition.typeNamed?_eq_some_iff.2 ⟨rfl, named'⟩]
      exact Option.some_ne_none _
    | extension new => cases clash
    | schema new =>
      obtain ⟨existing, found, rfl⟩ := Option.map_eq_some_iff.1 clash
      obtain ⟨first, a, before, there, own, foremost⟩ := findSome?_take_eq_some_iff.1 found
      obtain rfl := Definition.schema?_eq_some_iff.1 own
      refine .schema here there before fun other schema held => foremost other _ held ?_
      exact Option.some_ne_none schema

/-- A place that repeats an earlier one is a place of the list. -/
theorem Repeats.lt_length {definitions : List Definition} {place : Nat} {error : SchemaError}
    (h : Repeats definitions place error) : place < definitions.length := by
  obtain ⟨definition, here, -⟩ := repeats_iff.1 h
  exact (List.getElem?_eq_some_iff.1 here).1

/-- With one more definition the same places repeat earlier ones as before, and the last one does if it
conflicts with the others. -/
theorem repeats_append_singleton_iff {definitions : List Definition} {last : Definition} {place : Nat}
    {error : SchemaError} :
    Repeats (definitions ++ [last]) place error ↔
      Repeats definitions place error ∨
        place = definitions.length ∧ clash? definitions last = some error := by
  rcases Nat.lt_trichotomy place definitions.length with inside | rfl | beyond
  · have same : Repeats (definitions ++ [last]) place error ↔ Repeats definitions place error := by
      rw [repeats_iff, repeats_iff, List.getElem?_append_left inside,
        List.take_append_of_le_length inside.le]
    simp [same, inside.ne]
  · have own : ¬ Repeats definitions definitions.length error := fun h => h.lt_length.false
    have whole := @repeats_iff (definitions ++ [last]) definitions.length error
    simp [whole, own]
  · have none : ¬ Repeats (definitions ++ [last]) place error := by
      intro h
      have bound := h.lt_length
      rw [List.length_append, List.length_singleton] at bound
      omega
    have none' : ¬ Repeats definitions place error := fun h => absurd h.lt_length (by omega)
    simp [none, none', beyond.ne']

/-- **The errors of one more definition**: those before, and then what the last one conflicts with. -/
theorem Reported.append_singleton {definitions : List Definition} {errors : List SchemaError}
    (reported : Reported definitions errors) (last : Definition) :
    Reported (definitions ++ [last]) (errors ++ (clash? definitions last).toList) := by
  obtain ⟨places, ascending, all, each⟩ := reported
  have kept : List.Forall₂ (Repeats (definitions ++ [last])) places errors :=
    each.imp fun place error h => repeats_append_singleton_iff.2 (.inl h)
  cases clash : clash? definitions last with
  | none =>
    refine ⟨places, ascending, fun place => ?_, by simpa using kept⟩
    simp [repeats_append_singleton_iff, clash, all]
  | some error =>
    refine ⟨places ++ [definitions.length], ?_, fun place => ?_, ?_⟩
    · refine List.pairwise_append.2 ⟨ascending, List.pairwise_singleton _ _, fun place h _ only => ?_⟩
      obtain ⟨error', h'⟩ := (all place).1 h
      exact List.mem_singleton.1 only ▸ h'.lt_length
    · simp only [List.mem_append, List.mem_singleton, all, repeats_append_singleton_iff, clash,
        exists_or, exists_and_left, Option.some.injEq, exists_eq', and_true]
    · have own : Repeats (definitions ++ [last]) definitions.length error :=
        repeats_append_singleton_iff.2 (.inr ⟨rfl, clash⟩)
      exact List.rel_append kept (.cons own .nil)

/-- The names that are claimed are those of types. -/
theorem type_mem_slots_iff {definitions : List Definition} {name : String} :
    .type name ∈ definitions.filterMap Definition.slot? ↔
      name ∈ definitions.filterMap Definition.typeName? := by
  simp only [List.mem_filterMap]
  refine exists_congr fun definition => and_congr_right fun _ => ?_
  cases definition <;> simp [Definition.slot?, Definition.typeName?]

/-- Being the schema definition is not claimed if there is none. -/
theorem schema_not_mem_slots_iff {definitions : List Definition} :
    .schema ∉ definitions.filterMap Definition.slot? ↔
      definitions.filterMap Definition.schema? = [] := by
  simp only [List.filterMap_eq_nil_iff, List.mem_filterMap, not_exists, not_and]
  refine forall₂_congr fun definition _ => ?_
  cases definition <;> simp [Definition.slot?, Definition.schema?]

/-- **Definitions claim distinct slots if and only if none of them repeats another.** -/
theorem nodup_slots_iff {definitions : List Definition} :
    (definitions.filterMap Definition.slot?).Nodup ↔ Unrepeated definitions := by
  have split : (definitions.filterMap Definition.slot?).Nodup ↔
      (definitions.filterMap Definition.typeName?).Nodup ∧
        (definitions.filterMap Definition.schema?).length ≤ 1 := by
    induction definitions with
    | nil => simp
    | cons definition rest ih =>
      cases definition with
      | type new =>
        have slot : Definition.slot? (.type new) = some (.type new.name) := rfl
        have name : Definition.typeName? (.type new) = some new.name := rfl
        have schema : Definition.schema? (.type new) = none := rfl
        rw [List.filterMap_cons_some slot, List.filterMap_cons_some name,
          List.filterMap_cons_none schema, List.nodup_cons, List.nodup_cons,
          type_mem_slots_iff, ih, and_assoc]
      | extension new => exact ih
      | schema new =>
        have slot : Definition.slot? (.schema new) = some .schema := rfl
        have name : Definition.typeName? (.schema new) = none := rfl
        have schema : Definition.schema? (.schema new) = some new := rfl
        rw [List.filterMap_cons_some slot, List.filterMap_cons_none name,
          List.filterMap_cons_some schema, List.nodup_cons, schema_not_mem_slots_iff, ih,
          List.length_cons, ← List.length_eq_zero_iff]
        constructor
        · rintro ⟨none, names, -⟩
          exact ⟨names, by omega⟩
        · rintro ⟨names, once⟩
          exact ⟨by omega, names, by omega⟩
  exact split.trans ⟨fun ⟨names, schema⟩ => ⟨names, schema⟩, fun h => ⟨h.names, h.schema⟩⟩

/-! ## What is made of a list -/

/-- A standard scalar has a name if that is among their names. -/
theorem StandardScalar.isStandard_iff {name : String} :
    StandardScalar.isStandard name = true ↔ name ∈ StandardScalar.names := by
  simp [isStandard, ofName?, names]

namespace Registry

variable {definitions : List Definition}

/-- **What a registry knows if it was made of definitions** of which none repeats another. -/
structure Knows (registry : Registry) (definitions : List Definition) : Prop where
  /-- A declared name is found with what declares it. -/
  declared : ∀ type, .type type ∈ definitions → registry.find? type.name = some type
  /-- Under a name that is not declared the standard scalar of that name is found, and nothing if there
  is none. -/
  standard : ∀ name, (∀ type, .type type ∈ definitions → type.name ≠ name) →
    registry.find? name = (StandardScalar.ofName? name).map StandardScalar.definition
  /-- The extensions of a name are all its fragments, in order. -/
  extensions : ∀ name, registry.extensionsOf name = fragmentsOf name definitions
  /-- Those names are known that are declared, standard, or extended. -/
  hasType : ∀ reference, registry.hasType reference = true ↔
    (∃ type, .type type ∈ definitions ∧ type.name = reference.innermost) ∨
      reference.innermost ∈ StandardScalar.names ∨
      ∃ extension, .extension extension ∈ definitions ∧ extension.name = reference.innermost

/-- **Everything is added if and only if nothing is repeated.** -/
theorem errors_addAll_empty_eq_nil_iff :
    (empty.addAll definitions).2 = [] ↔ Unrepeated definitions := by
  constructor
  · intro all
    exact nodup_slots_iff.1 (nodup_slots_of_addAll all).1
  · intro unrepeated
    rw [errors_addAll (nodup_slots_iff.2 unrepeated), List.filterMap_eq_nil_iff]
    intro definition _
    cases definition <;> rfl

/-- **Trying to add reports the places that repeat earlier ones**, in the order of the list.

**Proof sketch.** By induction on the definitions from the end of the list. The last one is refused if it
conflicts with those before it in the list (`refusal?_addAll_empty`), and then its place is the greatest of
those that are reported. -/
theorem reported_addAll (definitions : List Definition) :
    Reported definitions (empty.addAll definitions).2 := by
  induction definitions using List.reverseRecOn with
  | nil =>
    have none : ∀ place error, ¬ Repeats [] place error := fun place error h => by
      simpa using h.lt_length
    exact ⟨[], .nil, by simp [none], .nil⟩
  | append_singleton before last ih =>
    have step := ih.append_singleton last
    rw [addAll_append, errors_addAll_singleton, refusal?_addAll_empty]
    exact step

/-- If everything was added, those types are declared that are among the definitions. -/
theorem declared?_addAll_empty_eq_some_iff (all : (empty.addAll definitions).2 = []) {name : String}
    {type : TypeDefinition} :
    (empty.addAll definitions).1.declared? name = some type ↔
      .type type ∈ definitions ∧ type.name = name := by
  have wf : (empty.addAll definitions).1.WellFormed :=
    ((Later.now empty).addAll definitions).wellFormed wellFormed_empty
  have none : ∀ scalar, (empty.typesOf scalar).get? name ≠ some type := by
    intro scalar held
    cases scalar <;> cases held
  rw [wf.declared?_eq_some_iff]
  simp only [typesOf_addAll all, none, false_or]
  constructor
  · rintro ⟨-, h, -, named⟩
    exact ⟨h, named⟩
  · rintro ⟨h, named⟩
    exact ⟨_, h, rfl, named⟩

/-- There is a fragment of a name if and only if there is an extension of that name. -/
theorem fragmentsOf_ne_nil_iff {name : String} :
    fragmentsOf name definitions ≠ [] ↔
      ∃ extension, .extension extension ∈ definitions ∧ extension.name = name := by
  constructor
  · intro some
    obtain ⟨extension, h⟩ := List.exists_mem_of_ne_nil _ some
    obtain ⟨definition, held, own⟩ := List.mem_filterMap.1 h
    obtain ⟨rfl, named⟩ := Definition.fragment?_eq_some_iff.1 own
    exact ⟨extension, held, named⟩
  · rintro ⟨extension, held, named⟩
    have own := Definition.fragment?_eq_some_iff.2 ⟨rfl, named⟩
    exact List.ne_nil_of_mem (List.mem_filterMap.2 ⟨_, held, own⟩)

/-- **What is known after everything was added.** -/
theorem knows_addAll (all : (empty.addAll definitions).2 = []) :
    (empty.addAll definitions).1.Knows definitions where
  declared type h := by
    have declared := (declared?_addAll_empty_eq_some_iff all).2 ⟨h, rfl⟩
    rw [find?, declared, Option.some_or]
  standard name other := by
    have none : (empty.addAll definitions).1.declared? name = .none := by
      refine Option.eq_none_iff_forall_ne_some.2 fun type declared => ?_
      obtain ⟨h, named⟩ := (declared?_addAll_empty_eq_some_iff all).1 declared
      exact other type h named
    rw [find?, none, Option.none_or]
  extensions name := by
    rw [extensionsOf_addAll all]
    rfl
  hasType reference := by
    have declared : ((empty.addAll definitions).1.declared? reference.innermost).isSome = true ↔
        ∃ type, .type type ∈ definitions ∧ type.name = reference.innermost := by
      simp only [Option.isSome_iff_exists, declared?_addAll_empty_eq_some_iff all]
    have extended : (empty.addAll definitions).1.extensions.contains reference.innermost = true ↔
        ∃ extension, .extension extension ∈ definitions ∧ extension.name = reference.innermost := by
      have before : empty.extensions.contains reference.innermost = false := rfl
      rw [contains_addAll all, before, Bool.false_or, ← fragmentsOf_ne_nil_iff]
      simp
    rw [hasType, Bool.or_eq_true, Bool.or_eq_true, declared, StandardScalar.isStandard_iff, extended,
      or_assoc]

/-- **Registries of definitions, said by the list.** A list makes a registry if and only if it repeats
nothing. Otherwise there is one error for each place that repeats an earlier one, in the order of the list,
which points at the first place of the same name or the first schema definition. If it makes a registry,
that finds what is declared and else the standard scalars, holds all extensions in order, and knows a name
if it is declared, standard, or extended.

**Proof sketch.** A list that repeats nothing is one of distinct slots, and what is added then is what is
listed. What is reported of other lists follows by induction (`reported_addAll`). -/
theorem ofDefinitions_by_list (definitions : List Definition) :
    ((∃ registry, ofDefinitions definitions = .ok registry) ↔ Unrepeated definitions) ∧
    (¬ Unrepeated definitions → ∃ problem, ofDefinitions definitions = .error problem ∧
      Reported definitions problem.errors) ∧
    ∀ registry, ofDefinitions definitions = .ok registry → registry.Knows definitions := by
  have made : (∃ registry, ofDefinitions definitions = .ok registry) ↔ Unrepeated definitions := by
    simp only [ofDefinitions_eq_ok_iff, exists_and_left, exists_eq', and_true,
      errors_addAll_empty_eq_nil_iff]
  refine ⟨made, fun repeated => ?_, fun registry ok => ?_⟩
  · have some : (empty.addAll definitions).2 ≠ [] := fun none =>
      repeated (errors_addAll_empty_eq_nil_iff.1 none)
    exact ⟨_, ofDefinitions_of_ne_nil some, reported_addAll definitions⟩
  · obtain ⟨all, rfl⟩ := ofDefinitions_eq_ok_iff.1 ok
    exact knows_addAll all

/-- Three types of one name, each of another kind, and two schema definitions, with extensions between
them. -/
def muddledDefinitions : List Definition := [
  .type ⟨"Date", none, ⟨1, 1⟩, .object [] []⟩,
  .extension ⟨"Date", [], [], ⟨2, 1⟩⟩,
  .schema ⟨[⟨.query, "Query", ⟨3, 10⟩⟩], ⟨3, 1⟩⟩,
  .type ⟨"Date", none, ⟨4, 1⟩, .scalar⟩,
  .schema ⟨[], ⟨5, 1⟩⟩,
  .extension ⟨"Int", ["Node"], [], ⟨6, 1⟩⟩,
  .type ⟨"Date", none, ⟨7, 1⟩, .enum []⟩]

/-- The third type and the second schema definition are reported with the first ones, and the second type
is never pointed at. -/
theorem ofDefinitions_by_list_muddled :
    ¬ Unrepeated muddledDefinitions ∧
    ofDefinitions muddledDefinitions = .error ⟨[.typeRedefinition "Date" ⟨4, 1⟩ ⟨1, 1⟩,
      .schemaRedefinition ⟨5, 1⟩ ⟨3, 1⟩, .typeRedefinition "Date" ⟨7, 1⟩ ⟨1, 1⟩]⟩ ∧
    Reported muddledDefinitions [.typeRedefinition "Date" ⟨4, 1⟩ ⟨1, 1⟩,
      .schemaRedefinition ⟨5, 1⟩ ⟨3, 1⟩, .typeRedefinition "Date" ⟨7, 1⟩ ⟨1, 1⟩] ∧
    Unrepeated baseDefinitions ∧ ofDefinitions baseDefinitions = .ok base ∧
    base.Knows baseDefinitions ∧ (base.extensionsOf "Query").map (·.position.line) = [2] := by
  have failed : ofDefinitions muddledDefinitions = .error ⟨[.typeRedefinition "Date" ⟨4, 1⟩ ⟨1, 1⟩,
      .schemaRedefinition ⟨5, 1⟩ ⟨3, 1⟩, .typeRedefinition "Date" ⟨7, 1⟩ ⟨1, 1⟩]⟩ := rfl
  have made : ofDefinitions baseDefinitions = .ok base := rfl
  obtain ⟨succeeds, otherwise, -⟩ := ofDefinitions_by_list muddledDefinitions
  obtain ⟨succeeds', -, knows⟩ := ofDefinitions_by_list baseDefinitions
  have repeated : ¬ Unrepeated muddledDefinitions := by
    intro unrepeated
    obtain ⟨registry, ok⟩ := succeeds.2 unrepeated
    cases failed.symm.trans ok
  obtain ⟨problem, failed', reported⟩ := otherwise repeated
  obtain rfl := Except.error.inj (failed.symm.trans failed')
  exact ⟨repeated, failed, reported, succeeds'.1 ⟨_, made⟩, made, knows _ made, by decide +kernel⟩

end Registry

end SchemaAssembly
