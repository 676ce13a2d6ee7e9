import SchemaAssembly.Proofs.Concatenation
import SchemaAssembly.Proofs.Folding
import SchemaAssembly.Proofs.Repetitions

/-!
# The scalars that a registry knows

There are two ways to the scalars of a registry. A name can be looked up, first among the types that are
not scalars, then among the scalars that are declared, and at last among the standard ones. Or all scalars
are listed: the standard ones in their fixed order, and the declared ones set after them in the same map,
so that one of a standard name takes the place of that. A type of another kind may be declared under the
name of a standard scalar too; it hides the scalar from the search, but not from the list.

Both are compared with the types that a history has registered, in the order of registration. A registry
does not keep that order, as it keeps scalars apart from other types, so it is carried along with the
history. The entries of either part are then those types that belong there (`Registered.entries`), by
induction on the history, and the rest is about one map that extends another.

## Main definitions

* `SchemaAssembly.Registry.Registered` — the types that a history has registered, in order.
* `SchemaAssembly.scalarNamed?` — the scalar of a name in a list of types.
* `SchemaAssembly.Registry.KnowsScalars` — the scalars that are listed, and those that are found.

## Main results

* `SchemaAssembly.NameMap.entries_extend` — what a map lists that was extended by another.
* `SchemaAssembly.Registry.made_iff` — every history registers types.
* `SchemaAssembly.Registry.Registered.entries` — each part of a registry lists what was registered.
* `SchemaAssembly.Registry.known_scalars` — the list of scalars, and how lookups agree with it.
-/

set_option relaxedAutoImplicit false
set_option autoImplicit false

namespace SchemaAssembly

/-! ## A map that extends another -/

namespace NameMap

variable {α : Type}

/-- A map lists under every name what it holds there. -/
theorem entries_eq_filterMap (m : NameMap α) :
    m.entries = m.names.filterMap fun name => (m.get? name).map fun held => (name, held) := by
  have each : ∀ entry ∈ m.entries,
      ((m.get? entry.1).map fun held => (entry.1, held)) = some (id entry) := by
    intro entry h
    rw [mem_entries_iff.1 h, Option.map_some, id]
  rw [names, Entries.names, List.filterMap_map]
  exact ((List.filterMap_eq_map_iff_forall_eq_some.2 each).trans (List.map_id _)).symm

/-- **What a map lists that was extended by another**: its own names first, each with what the other map
holds there or else with what it held, and then the entries of the other map under new names. -/
theorem entries_extend (m n : NameMap α) :
    (m.extend n.entries).entries =
      m.entries.map (fun entry => (entry.1, (n.get? entry.1).getD entry.2)) ++
        n.entries.filter (fun entry => entry.1 ∉ m.names) := by
  have names : (m.extend n.entries).names = m.names ++ n.names.filter (· ∉ m.names) := by
    have order := Entries.names_setAll m.entries n.entries
    rw [Entries.eraseDups_names_of_nodup n.nodup] at order
    exact order
  rw [entries_eq_filterMap, names, List.filterMap_append]
  congr 1
  · -- Under a name of its own the map keeps what it held, unless the other one holds something.
    have each : ∀ entry ∈ m.entries,
        (((m.extend n.entries).get? entry.1).map fun held => (entry.1, held)) =
          some (entry.1, (n.get? entry.1).getD entry.2) := by
      intro entry h
      rw [get?_extend_entries, mem_entries_iff.1 h]
      cases n.get? entry.1 <;> rfl
    rw [NameMap.names, Entries.names, List.filterMap_map]
    exact List.filterMap_eq_map_iff_forall_eq_some.2 each
  · have each : ∀ entry ∈ n.entries.filter (fun entry => entry.1 ∉ m.names),
        (((m.extend n.entries).get? entry.1).map fun held => (entry.1, held)) = some (id entry) := by
      intro entry h
      rw [get?_extend_entries, mem_entries_iff.1 (List.mem_of_mem_filter h), Option.some_or,
        Option.map_some, id]
    have added : n.names.filter (· ∉ m.names) =
        (n.entries.filter fun entry => entry.1 ∉ m.names).map Prod.fst := List.filter_map
    rw [added, List.filterMap_map]
    exact (List.filterMap_eq_map_iff_forall_eq_some.2 each).trans (List.map_id _)

end NameMap

/-! ## What a history registers -/

/-- The type that a definition is, if it is one. -/
def Definition.type? : Definition → Option TypeDefinition
  | .type definition => some definition
  | _ => none

/-- The scalar of a name in a list of types, the first one. -/
def scalarNamed? (name : String) (types : List TypeDefinition) : Option TypeDefinition :=
  types.find? fun type => type.isScalar && type.name = name

namespace Registry

variable {registry before other next later : Registry} {definition : Definition}
  {types types' : List TypeDefinition}

/-- **The types that a history has registered, in order.** A definition that is added comes last, and the
types of a registry that is merged come after those that were there, in the order of its own history. An
operation that fails registers nothing. -/
inductive Registered : Registry → List TypeDefinition → Prop
  /-- Nothing is registered at the beginning. -/
  | empty : Registered .empty []
  /-- A definition was added last. -/
  | add {before next : Registry} {types : List TypeDefinition} {definition : Definition}
    (earlier : Registered before types) (added : before.add definition = .ok next) :
    Registered next (types ++ definition.type?.toList)
  /-- A registry was merged last. -/
  | merge {before other next : Registry} {types types' : List TypeDefinition}
    (earlier : Registered before types) (made : Registered other types')
    (merged : before.merge other = .ok next) :
    Registered next (types ++ types')

/-- What goes on after types were registered registers types. -/
theorem Later.registered (history : registry.Later later) (start : registry.Registered types) :
    ∃ types', later.Registered types' := by
  induction history generalizing types with
  | now => exact ⟨types, start⟩
  | @add _ before _ definition ih =>
    obtain ⟨earlier, registered⟩ := ih start
    rcases after_adding before definition with added | ⟨-, -, same⟩
    · exact ⟨_, registered.add added⟩
    · rw [same]
      exact ⟨earlier, registered⟩
  | @merge _ before other _ _ ih ih' =>
    obtain ⟨earlier, registered⟩ := ih start
    obtain ⟨others, registered'⟩ := ih' .empty
    rcases after_merging before other with merged | ⟨-, -, same⟩
    · exact ⟨_, registered.merge registered' merged⟩
    · rw [same]
      exact ⟨earlier, registered⟩

/-- What registers types is a history. -/
theorem Registered.made (registered : registry.Registered types) : registry.Made := by
  induction registered with
  | empty => exact .now _
  | @add before next _ definition _ added ih =>
    rcases after_adding before definition with added' | ⟨fault, refused, -⟩
    · obtain rfl := Except.ok.inj (added.symm.trans added')
      exact ih.add definition
    · cases added.symm.trans refused
  | @merge before other next _ _ _ _ merged ih ih' =>
    rcases after_merging before other with merged' | ⟨problem, refused, -⟩
    · obtain rfl := Except.ok.inj (merged.symm.trans merged')
      exact ih.merge ih'
    · cases merged.symm.trans refused

/-- **Every history registers types**, and nothing else does. -/
theorem made_iff : registry.Made ↔ ∃ types, registry.Registered types :=
  ⟨fun made => made.registered .empty, fun ⟨_, registered⟩ => registered.made⟩

/-- If all of many definitions are added, the types among them come last, in order. -/
theorem Registered.addAll (registered : registry.Registered types) {definitions : List Definition}
    (all : (registry.addAll definitions).2 = []) :
    (registry.addAll definitions).1.Registered (types ++ definitions.filterMap Definition.type?) := by
  induction definitions generalizing registry types with
  | nil => simpa [Registry.addAll] using registered
  | cons definition rest ih =>
    obtain ⟨next, added, others, same⟩ := exists_add_of_addAll all
    have step := ih (registered.add added) others
    rw [same, List.filterMap_cons]
    cases own : definition.type? with
    | none => simpa [own] using step
    | some type => simpa [own] using step

/-- What a definition adds to the entries of a part are the types among it that belong there. -/
theorem toList_entry? (definition : Definition) (scalar : Bool) :
    (definition.entry? scalar).toList =
      (definition.type?.toList.filter (·.isScalar == scalar)).map fun type => (type.name, type) := by
  cases definition with
  | type added =>
    by_cases kind : added.isScalar = scalar <;>
      simp [Definition.entry?, Definition.type?, kind]
  | extension added => rfl
  | schema added => rfl

/-- **Each part of a registry lists the types that were registered and belong there**, in order.

**Proof sketch.** By induction on the history. What is added comes last in its part (`entries_add`), and
what is merged comes after what was there, since nothing conflicts (`Compatible.entries_joined`). -/
theorem Registered.entries (registered : registry.Registered types) (scalar : Bool) :
    (registry.typesOf scalar).entries =
      (types.filter (·.isScalar == scalar)).map fun type => (type.name, type) := by
  induction registered with
  | empty => cases scalar <;> rfl
  | add _ added ih => rw [entries_add added, ih, toList_entry?, List.filter_append, List.map_append]
  | merge _ _ merged ih ih' =>
    obtain ⟨compatible, rfl⟩ := merge_eq_ok_iff_compatible.1 merged
    rw [compatible.entries_joined, ih, ih', List.filter_append, List.map_append]

/-- What a part of a registry holds under a name is the type of that name that was registered. -/
theorem Registered.get? (registered : registry.Registered types) (scalar : Bool) (name : String) :
    (registry.typesOf scalar).get? name =
      types.find? fun type => type.isScalar == scalar && type.name = name := by
  rw [NameMap.get?, registered.entries, Entries.lookup_items, List.find?_filter]
  simp [Bool.beq_eq_decide_eq]

/-- A name is declared if a type of that name was registered. -/
theorem Registered.declared?_eq_none_iff (registered : registry.Registered types) {name : String} :
    registry.declared? name = none ↔ ∀ type ∈ types, type.name ≠ name := by
  have others := registered.get? false name
  have scalars := registered.get? true name
  rw [typesOf, if_neg Bool.false_ne_true] at others
  rw [typesOf, if_pos rfl] at scalars
  rw [declared?, others, scalars, Option.or_eq_none_iff, List.find?_eq_none, List.find?_eq_none]
  constructor
  · rintro ⟨none, none'⟩ type h named
    have absent := none type h
    have absent' := none' type h
    cases kind : type.isScalar <;> simp_all
  · intro none
    exact ⟨fun type h => by simp [none type h], fun type h => by simp [none type h]⟩

/-- **No two types are registered under one name.** -/
theorem Registered.nodup (registered : registry.Registered types) :
    (types.map TypeDefinition.name).Nodup := by
  induction registered with
  | empty => exact List.nodup_nil
  | @add before next types definition earlier added ih =>
    obtain ⟨new, rfl, absent, -⟩ | ⟨extension, rfl, -⟩ | ⟨schema, rfl, -⟩ := add_cases added
    · have free := earlier.declared?_eq_none_iff.1 absent
      rw [List.map_append, List.nodup_append]
      refine ⟨ih, List.nodup_singleton _, ?_⟩
      rintro name h _ own rfl
      obtain ⟨type, held, named⟩ := List.mem_map.1 h
      exact free type held (named.trans (List.mem_singleton.1 own))
    · simpa [Definition.type?] using ih
    · simpa [Definition.type?] using ih
  | @merge before other next types types' earlier made merged ih ih' =>
    obtain ⟨compatible, -⟩ := merge_eq_ok_iff_compatible.1 merged
    rw [List.map_append, List.nodup_append]
    refine ⟨ih, ih', ?_⟩
    rintro name h _ h' rfl
    obtain ⟨type, held, rfl⟩ := List.mem_map.1 h
    obtain ⟨type', held', named⟩ := List.mem_map.1 h'
    rcases compatible.types type.name with absent | absent
    · exact earlier.declared?_eq_none_iff.1 absent type held rfl
    · exact made.declared?_eq_none_iff.1 absent type' held' named

/-! ## Scalars -/

/-- **The scalars that are listed, and those that are found**, if these types were registered. -/
structure KnowsScalars (registry : Registry) (types : List TypeDefinition) : Prop where
  /-- First come the standard scalars in their order, each as it was declared or else as it is, and then
  the declared scalars of other names in the order of registration. -/
  listed : registry.scalars.entries =
    StandardScalar.all.map (fun standard =>
      (standard.name, (scalarNamed? standard.name types).getD standard.definition)) ++
    (types.filter fun type => type.isScalar && !StandardScalar.isStandard type.name).map
      fun type => (type.name, type)
  /-- Each name is listed once. -/
  once : registry.scalars.names.Nodup
  /-- Under a name a scalar is found if it is listed there and no type of another kind was registered
  under that name. -/
  found : ∀ name scalar, registry.find? name = some scalar ∧ scalar.isScalar = true ↔
    registry.scalars.get? name = some scalar ∧
      ∀ type ∈ types, type.name = name → type.isScalar = true

/-- The standard scalars, as a map. -/
def standardScalars : NameMap TypeDefinition :=
  ⟨StandardScalar.all.map fun standard => (standard.name, standard.definition), by decide⟩

/-- A standard scalar is held under its name. -/
theorem get?_standardScalars (name : String) :
    standardScalars.get? name = (StandardScalar.ofName? name).map StandardScalar.definition :=
  Entries.lookup_items StandardScalar.name StandardScalar.definition StandardScalar.all name

/-- The names of the standard scalars are those that a standard scalar has. -/
theorem mem_names_standardScalars_iff {name : String} :
    name ∈ standardScalars.names ↔ StandardScalar.isStandard name = true :=
  StandardScalar.isStandard_iff.symm

/-- What is declared as a scalar is listed in the order of registration. -/
theorem Registered.entries_declaredScalars (registered : registry.Registered types) :
    registry.declaredScalars.entries =
      (types.filter TypeDefinition.isScalar).map fun type => (type.name, type) := by
  have listed := registered.entries true
  simpa [typesOf] using listed

/-- The list of all scalars is that of the standard ones, extended by those that are declared. -/
theorem Registered.scalars_eq (registered : registry.Registered types) :
    registry.scalars = standardScalars.extend registry.declaredScalars.entries := by
  have all : registry.declaredScalars.entries.filter (fun entry => entry.2.isScalar) =
      registry.declaredScalars.entries := by
    refine List.filter_eq_self.2 fun entry h => ?_
    rw [registered.entries_declaredScalars] at h
    obtain ⟨type, held, rfl⟩ := List.mem_map.1 h
    exact (List.mem_filter.1 held).2
  rw [scalars, all]
  rfl

/-- **The scalars that are listed.** -/
theorem Registered.listed (registered : registry.Registered types) :
    registry.scalars.entries =
      StandardScalar.all.map (fun standard =>
        (standard.name, (scalarNamed? standard.name types).getD standard.definition)) ++
      (types.filter fun type => type.isScalar && !StandardScalar.isStandard type.name).map
        fun type => (type.name, type) := by
  rw [registered.scalars_eq, NameMap.entries_extend]
  congr 1
  · have held : ∀ name, registry.declaredScalars.get? name = scalarNamed? name types := by
      intro name
      have found := registered.get? true name
      simpa [typesOf, scalarNamed?] using found
    simp only [held]
    rfl
  · rw [registered.entries_declaredScalars, List.filter_map, List.filter_filter]
    refine congrArg (List.map _) (List.filter_congr fun type _ => ?_)
    simp only [Function.comp_apply, mem_names_standardScalars_iff, Bool.not_eq_true, Bool.decide_eq_false]
    exact Bool.and_comm _ _

/-- Only scalars are listed. -/
theorem Registered.isScalar_of_listed (registered : registry.Registered types) {name : String}
    {scalar : TypeDefinition} (listed : registry.scalars.get? name = some scalar) :
    scalar.isScalar = true := by
  have wf : registry.WellFormed := registered.made.wellFormed wellFormed_empty
  rw [registered.scalars_eq, NameMap.get?_extend_entries, get?_standardScalars,
    Option.or_eq_some_iff] at listed
  rcases listed with declared | ⟨-, standard⟩
  · exact wf.kinds true name scalar declared
  · obtain ⟨own, -, rfl⟩ := Option.map_eq_some_iff.1 standard
    rfl

/-- No type but scalars is held under a name if only scalars were registered under it. -/
theorem Registered.get?_types_eq_none_iff (registered : registry.Registered types) {name : String} :
    registry.types.get? name = none ↔ ∀ type ∈ types, type.name = name → type.isScalar = true := by
  have others : registry.types.get? name = _ := registered.get? false name
  rw [others, List.find?_eq_none]
  refine forall₂_congr fun type _ => ?_
  cases type.isScalar <;> simp

/-- **A name finds a scalar that is listed**, unless it is that of a type of another kind. -/
theorem Registered.found (registered : registry.Registered types) (name : String)
    (scalar : TypeDefinition) :
    registry.find? name = some scalar ∧ scalar.isScalar = true ↔
      registry.scalars.get? name = some scalar ∧
        ∀ type ∈ types, type.name = name → type.isScalar = true := by
  have wf : registry.WellFormed := registered.made.wellFormed wellFormed_empty
  rw [← registered.get?_types_eq_none_iff]
  cases other : registry.types.get? name with
  | none =>
    -- The search goes on to the two stages of which the list is made.
    have same : registry.find? name = registry.scalars.get? name := by
      rw [find?, declared?, other, Option.none_or, registered.scalars_eq,
        NameMap.get?_extend_entries, get?_standardScalars]
    rw [same]
    constructor
    · rintro ⟨listed, -⟩
      exact ⟨listed, rfl⟩
    · rintro ⟨listed, -⟩
      exact ⟨listed, registered.isScalar_of_listed listed⟩
  | some type =>
    have first : registry.find? name = some type := by
      rw [find?, declared?, other, Option.some_or, Option.some_or]
    have kind : type.isScalar = false := wf.kinds false name type other
    constructor
    · rintro ⟨found, isScalar⟩
      rw [first] at found
      obtain rfl := Option.some.inj found
      rw [kind] at isScalar
      cases isScalar
    · rintro ⟨-, none⟩
      cases none

/-- **The scalars that a registry knows.** A registry that has become what it is by additions and merges,
with or without success, has registered types in some order, each name once. It lists the five standard
scalars in their order, each as declared if it was, and after them the declared scalars of other names in
the order of registration, each name once. And a name finds a scalar exactly if that is listed under it
and the name is not that of a type of another kind.

**Proof sketch.** Each part of a registry lists what was registered and belongs there
(`Registered.entries`), so that the list of scalars is the map of the standard ones extended by the
declared ones (`NameMap.entries_extend`). The search goes through the same two maps unless it ends before
them. -/
theorem known_scalars (registry : Registry) :
    (registry.Made ↔ ∃ types, registry.Registered types) ∧
    ∀ types, registry.Registered types →
      (types.map TypeDefinition.name).Nodup ∧ registry.KnowsScalars types :=
  ⟨made_iff, fun _ registered =>
    ⟨registered.nodup, registered.listed, registry.scalars.nodup, registered.found⟩⟩

/-- A scalar, and another type under the name of a standard scalar. -/
def calendarDefinitions : List Definition := [
  .type ⟨"Date", none, ⟨1, 1⟩, .scalar⟩,
  .type ⟨"Boolean", none, ⟨2, 1⟩, .enum []⟩]

/-- Two scalars, the second one under the name of a standard scalar. -/
def addressDefinitions : List Definition := [
  .type ⟨"Url", none, ⟨3, 1⟩, .scalar⟩,
  .type ⟨"Int", none, ⟨4, 1⟩, .scalar⟩]

/-- A registry of both, in which a type was defined again in vain. -/
def calendar : Registry :=
  (adding (.type ⟨"Int", none, ⟨5, 1⟩, .object [] []⟩)).after
    ((merging (empty.addAll addressDefinitions).1).after (empty.addAll calendarDefinitions).1)

/-- The types that were registered there. -/
def calendarTypes : List TypeDefinition :=
  (calendarDefinitions ++ addressDefinitions).filterMap Definition.type?

/-- The scalar that was declared under the name of a standard one is listed in its place. The enum hides
the standard scalar of its name from the search, and not from the list. -/
theorem known_scalars_calendar :
    calendar.Made ∧ calendar.Registered calendarTypes ∧ calendar.KnowsScalars calendarTypes ∧
    calendar.scalars.names = ["Int", "Float", "String", "Boolean", "ID", "Date", "Url"] ∧
    (calendar.scalars.get? "Int").map (·.position.line) = some 4 ∧
    (calendar.find? "Boolean").map (·.kind) = some .enum ∧
    (calendar.scalars.get? "Boolean").map (·.kind) = some .scalar := by
  have merged : (empty.addAll calendarDefinitions).1.merge (empty.addAll addressDefinitions).1 =
      .ok calendar := rfl
  have registered : calendar.Registered calendarTypes :=
    (Registered.empty.addAll rfl).merge (Registered.empty.addAll rfl) merged
  obtain ⟨made, knows⟩ := known_scalars calendar
  exact ⟨made.2 ⟨_, registered⟩, registered, (knows _ registered).2, by decide +kernel⟩

end Registry

end SchemaAssembly
