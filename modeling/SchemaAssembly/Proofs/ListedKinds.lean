import SchemaAssembly.Proofs.Image

/-!
# Kinds of interfaces and members

An object lists the interfaces that it implements, and a union lists its members. Both are built like
the type of a field. So what is listed always leads to a type of the graph, and never to an input
object; but nothing else is asked of its kind, which is that of its definition. Whether objects
implement interfaces only, and whether unions are over objects only, is settled by the registry, where
extensions count as well: assembly neither enforces it nor breaks it.

## Main definitions

* `SchemaAssembly.TypeGraph.LeadsTo` — an occurrence leads to a type of some kind.
* `SchemaAssembly.TypeGraph.WellListed` — interfaces lead to interfaces, and members to objects.
* `SchemaAssembly.Registry.WellListed` — the same of what is declared.

## Main results

* `SchemaAssembly.listed_of_assemble` — what is listed has the kind of its definition, and all of it
  is of the right kind if the same holds of what is declared.
* `SchemaAssembly.not_wellListed_misfits` — an object can be implemented, and an interface can be a
  member.
-/

set_option relaxedAutoImplicit false
set_option autoImplicit false

namespace SchemaAssembly

variable {B : Behaviours} {registry : Registry} {wiring : Wiring B} {τ : Type}

/-! ## Kinds of what is listed -/

/-- What an occurrence spells is around the name at the bottom of the occurrence. -/
theorem Occurrence.Spells.innermost {occurrence : Occurrence B} {type : TypeRef}
    (spelled : occurrence.Spells type) : occurrence.innermost = type.innermost := by
  induction spelled with
  | concrete type => rfl
  | placeholder name => rfl
  | list spelled ih => exact ih
  | nonNull nullable spelled ih => rw [TypeRef.innermost_required, ← ih, Occurrence.innermost]

/-- Everything that a type lists by name: the interfaces of an object, the members of a union. -/
def NamedType.listed (type : NamedType B τ) : List τ := type.interfaces ++ type.members

/-- What is listed is referred to as the type of a field would be. -/
theorem NamedType.placed_of_mem_listed {type : NamedType B τ} {occurrence : τ}
    (h : occurrence ∈ type.listed) : (Place.output, occurrence) ∈ type.placed := by
  obtain ⟨name, description, body⟩ := type
  cases body <;> simp_all [NamedType.listed, NamedType.interfaces, NamedType.members,
    NamedType.placed]

/-- **An occurrence leads to a type of some kind** of the graph. -/
def TypeGraph.LeadsTo (graph : TypeGraph B) (occurrence : Occurrence B) (kind : TypeKind) : Prop :=
  ∃ target, graph.target? occurrence = some target ∧ target.kind = kind

/-- The registry defines a name, as a type of some kind. -/
def Registry.DefinesAs (registry : Registry) (name : String) (kind : TypeKind) : Prop :=
  ∃ definition, registry.find? name = some definition ∧ definition.kind = kind

/-- **What a graph lists is of the right kind**: interfaces lead to interfaces, and members to
objects. -/
structure TypeGraph.WellListed (graph : TypeGraph B) : Prop where
  /-- What an object implements is an interface. -/
  interfaces : ∀ type ∈ graph.types.values, ∀ interface ∈ type.interfaces,
    graph.LeadsTo interface .interface
  /-- What a union is over is an object. -/
  members : ∀ type ∈ graph.types.values, ∀ member ∈ type.members, graph.LeadsTo member .object

/-- **What a registry declares is of the right kind**, as far as the roots reach. The interfaces of
an object are those of its definition and of the extensions of its name. -/
structure Registry.WellListed (registry : Registry) : Prop where
  /-- What an object is declared to implement is defined as an interface. -/
  interfaces : ∀ name definition, registry.Reachable name → registry.find? name = some definition →
    ∀ interface ∈ registry.declaredInterfaces definition, registry.DefinesAs interface .interface
  /-- What a union is declared over is defined as an object. -/
  members : ∀ name definition, registry.Reachable name → registry.find? name = some definition →
    ∀ member ∈ definition.members, registry.DefinesAs member .object

/-! ## Assembled graphs -/

section Assembled

variable (keyed : registry.Keyed) (wired : wiring.Keyed) {graph : TypeGraph B}
  (ok : assemble registry wiring = .ok graph) {type : GraphType B}
  (h : type ∈ graph.types.values)

include keyed wired ok h

/-- **What is listed leads to a type of the graph**, of the kind of the definition of its name, and
not to an input object. -/
theorem leadsTo_of_mem_listed {occurrence : Occurrence B} (hl : occurrence ∈ type.listed) :
    ∃ target definition, graph.target? occurrence = some target ∧
      target.name = occurrence.innermost ∧
      registry.find? occurrence.innermost = some definition ∧ target.kind = definition.kind ∧
      target.kind ≠ .inputObject := by
  obtain ⟨last, finished⟩ := finished_of_assemble keyed wired ok
  obtain ⟨target, leads, named, output, -⟩ :=
    finished.exists_target h (NamedType.placed_of_mem_listed hl)
  obtain ⟨place, kept⟩ := finished.exists_find? leads
  obtain ⟨definition, found, kind, -⟩ := finished.sound.known _ _ _ kept
  refine ⟨target, definition, leads, named, found, kind.symm, fun input => ?_⟩
  rw [input] at output
  cases output

/-- What is listed leads to the kind that its name is defined as. -/
theorem leadsTo_iff_definesAs {occurrence : Occurrence B} (hl : occurrence ∈ type.listed)
    (kind : TypeKind) :
    graph.LeadsTo occurrence kind ↔ registry.DefinesAs occurrence.innermost kind := by
  obtain ⟨target, definition, leads, -, found, same, -⟩ :=
    leadsTo_of_mem_listed keyed wired ok h hl
  simp only [TypeGraph.LeadsTo, Registry.DefinesAs, leads, found, Option.some.injEq,
    exists_eq_left', same]

/-- A type lists what its definition declares, extensions included, so that what it lists is of the
right kind if what is declared is. -/
theorem listed_iff_declared {definition : TypeDefinition}
    (found : registry.find? type.name = some definition) :
    ((∀ occurrence ∈ type.interfaces, graph.LeadsTo occurrence .interface) ↔
      ∀ name ∈ registry.declaredInterfaces definition, registry.DefinesAs name .interface) ∧
    ((∀ occurrence ∈ type.members, graph.LeadsTo occurrence .object) ↔
      ∀ name ∈ definition.members, registry.DefinesAs name .object) := by
  obtain ⟨definition', found', made⟩ := madeFrom_of_assemble keyed wired ok h
  obtain rfl : definition' = definition := Option.some.inj (found'.symm.trans found)
  obtain ⟨interfaces, members, -⟩ := made.parts
  have names : ∀ {occurrences : List (Occurrence B)} {declared : List String},
      List.Forall₂ (fun occurrence name => occurrence.Spells (.ofName name)) occurrences declared →
        occurrences.map Occurrence.innermost = declared := by
    intro occurrences declared spelled
    induction spelled with
    | nil => rfl
    | cons head tail ih => rw [List.map_cons, ih, head.innermost, TypeRef.ofName, TypeRef.innermost]
  constructor
  · have same : ∀ name, name ∈ registry.declaredInterfaces definition' ↔
        name ∈ type.interfaces.map Occurrence.innermost := by
      intro name
      rw [names interfaces, List.mem_eraseDups]
    simp only [same, List.forall_mem_map]
    exact forall₂_congr fun occurrence hi =>
      leadsTo_iff_definesAs keyed wired ok h (List.mem_append_left _ hi) .interface
  · rw [← names members, List.forall_mem_map]
    exact forall₂_congr fun occurrence hm =>
      leadsTo_iff_definesAs keyed wired ok h (List.mem_append_right _ hm) .object

end Assembled

/-- **Assembly neither enforces nor breaks the kinds of interfaces and members.** Whatever an object
lists among its interfaces, and whatever a union lists among its members, leads to a type of the
graph, of the name listed and of the kind that the registry defines it as, which can be any kind but
that of an input object. And all interfaces lead to interfaces, and all members to objects, exactly if
the registry declares only such, be it in definitions or in extensions.

**Proof sketch.** Every occurrence of a finished graph leads to a type of a kind that suits its place
(`TypeGraph.Finished.exists_target`), and types have the kinds of their definitions. The types of the
graph are those that the roots reach (`names_of_assemble`), and they list what their definitions and
the extensions declare (`NamedType.MadeFrom.parts`). -/
theorem listed_of_assemble (keyed : registry.Keyed) (wired : wiring.Keyed) {graph : TypeGraph B}
    (ok : assemble registry wiring = .ok graph) :
    (∀ type ∈ graph.types.values, ∀ occurrence ∈ type.interfaces ++ type.members,
      ∃ target definition, graph.target? occurrence = some target ∧
        target.name = occurrence.innermost ∧
        registry.find? occurrence.innermost = some definition ∧ target.kind = definition.kind ∧
        target.kind ≠ .inputObject) ∧
    (graph.WellListed ↔ registry.WellListed) := by
  refine ⟨fun type h occurrence hl => leadsTo_of_mem_listed keyed wired ok h hl, ?_⟩
  obtain ⟨named, -, -, reached⟩ := names_of_assemble keyed wired ok
  -- The definitions reached are those of the types of the graph.
  have listed : ∀ name definition, registry.Reachable name →
      registry.find? name = some definition →
      ∃ type ∈ graph.types.values, registry.find? type.name = some definition := by
    intro name definition reachable found
    rw [← reached, ← named, List.mem_map] at reachable
    obtain ⟨type, h, rfl⟩ := reachable
    exact ⟨type, h, found⟩
  have defined : ∀ type ∈ graph.types.values, registry.Reachable type.name ∧
      ∃ definition, registry.find? type.name = some definition := by
    intro type h
    obtain ⟨definition, found, -⟩ := madeFrom_of_assemble keyed wired ok h
    exact ⟨(reached _).1 (named ▸ List.mem_map_of_mem h), definition, found⟩
  constructor
  · intro well
    constructor
    · intro name definition reachable found
      obtain ⟨type, h, own⟩ := listed name definition reachable found
      exact (listed_iff_declared keyed wired ok h own).1.1 (well.interfaces type h)
    · intro name definition reachable found
      obtain ⟨type, h, own⟩ := listed name definition reachable found
      exact (listed_iff_declared keyed wired ok h own).2.1 (well.members type h)
  · intro well
    constructor
    · intro type h
      obtain ⟨reachable, definition, found⟩ := defined type h
      exact (listed_iff_declared keyed wired ok h found).1.2
        (well.interfaces _ definition reachable found)
    · intro type h
      obtain ⟨reachable, definition, found⟩ := defined type h
      exact (listed_iff_declared keyed wired ok h found).2.2
        (well.members _ definition reachable found)

/-! ## Lists of the right and of the wrong kinds -/

/-- The kinds that occurrences lead to, each with the name listed. -/
def TypeGraph.kindsOf (graph : TypeGraph B) (occurrences : List (Occurrence B)) :
    List (String × Option TypeKind) :=
  occurrences.map fun occurrence =>
    (occurrence.innermost, (graph.target? occurrence).map NamedType.kind)

/-- What a type lists, with the kinds that this leads to. -/
structure Listing where
  /-- The name of the type. -/
  name : String
  /-- The interfaces of an object. -/
  interfaces : List (String × Option TypeKind)
  /-- The members of a union. -/
  members : List (String × Option TypeKind)
deriving DecidableEq

/-- What the types of a graph list. -/
def TypeGraph.listings (graph : TypeGraph B) : List Listing :=
  graph.types.values.map fun type =>
    ⟨type.name, graph.kindsOf type.interfaces, graph.kindsOf type.members⟩

/-- The kinds that all interfaces lead to, or all members, can be read off. -/
theorem TypeGraph.forall_leadsTo_iff (graph : TypeGraph B) (kind : TypeKind) :
    ((∀ type ∈ graph.types.values, ∀ interface ∈ type.interfaces,
        graph.LeadsTo interface kind) ↔
      ∀ listing ∈ graph.listings, ∀ entry ∈ listing.interfaces, entry.2 = some kind) ∧
    ((∀ type ∈ graph.types.values, ∀ member ∈ type.members, graph.LeadsTo member kind) ↔
      ∀ listing ∈ graph.listings, ∀ entry ∈ listing.members, entry.2 = some kind) := by
  simp only [listings, kindsOf, LeadsTo, List.forall_mem_map, Option.map_eq_some_iff, and_self]

/-- What makes a directory of the profile: pets, which are named as well, and a union over the query root
and pets that an extension of the query root refers to. -/
def directoryDefinitions : List Definition := [
  .type ⟨"Pet", none, .unknown, .object [⟨"name", none, [], .ofName "String", .unknown⟩] ["Named"]⟩,
  .type ⟨"Entry", none, .unknown, .union ["Query", "Pet"]⟩,
  .extension ⟨"Query", [], [⟨"find", none, [], .ofName "Entry", .unknown⟩], .unknown⟩]

/-- The registry of the directory. -/
def directory : Registry := (profile.addAll directoryDefinitions).1

/-- The directory is keyed. -/
theorem keyed_directory : directory.Keyed := keyed_profile.addAll directoryDefinitions

/-- In the directory, what an extension makes the query root implement is an interface, and what the union
is over are objects, of which one is in progress when it is listed. All that the registry declares is of
the right kind as well. -/
theorem listed_of_assemble_directory :
    directory.Keyed ∧ plainWiring.Keyed ∧ ∃ graph, assemble directory plainWiring = .ok graph ∧
      graph.listings =
        [⟨"Query", [("Named", some .interface)], []⟩, ⟨"String", [], []⟩, ⟨"Boolean", [], []⟩,
          ⟨"Int", [], []⟩, ⟨"Entry", [], [("Query", some .object), ("Pet", some .object)]⟩,
          ⟨"Pet", [("Named", some .interface)], []⟩, ⟨"Named", [], []⟩] ∧
      graph.WellListed ∧ directory.WellListed := by
  have listed : (assemble directory plainWiring).toOption.map TypeGraph.listings = some
      [⟨"Query", [("Named", some .interface)], []⟩, ⟨"String", [], []⟩, ⟨"Boolean", [], []⟩,
        ⟨"Int", [], []⟩, ⟨"Entry", [], [("Query", some .object), ("Pet", some .object)]⟩,
        ⟨"Pet", [("Named", some .interface)], []⟩, ⟨"Named", [], []⟩] := by
    decide +kernel
  obtain ⟨graph, ok, kinds⟩ := exists_eq_ok_of_view listed
  have well : graph.WellListed := by
    constructor
    · rw [(graph.forall_leadsTo_iff .interface).1, kinds]
      decide
    · rw [(graph.forall_leadsTo_iff .object).2, kinds]
      decide
  exact ⟨keyed_directory, keyed_plainWiring, graph, ok, kinds, well,
    (listed_of_assemble keyed_directory keyed_plainWiring ok).2.1 well⟩

/-- A registry in which an object implements another object, and a union is over an interface. -/
def misfitDefinitions : List Definition := [
  .schema ⟨[⟨.query, "Query", .unknown⟩], .unknown⟩,
  .type ⟨"Query", none, .unknown, .object [⟨"any", none, [], .ofName "Any", .unknown⟩] ["Person"]⟩,
  .type ⟨"Person", none, .unknown, .object [⟨"name", none, [], .ofName "String", .unknown⟩] []⟩,
  .type ⟨"Node", none, .unknown, .interface [⟨"id", none, [], .ofName "ID", .unknown⟩]⟩,
  .type ⟨"Any", none, .unknown, .union ["Node"]⟩]

/-- The registry of the misfits. -/
def misfits : Registry := (Registry.empty.addAll misfitDefinitions).1

/-- The misfits are assembled all the same: in the graph an interface that is listed is an object, and
a member that is listed is an interface. -/
theorem not_wellListed_misfits :
    ∃ graph, assemble misfits plainWiring = .ok graph ∧
      graph.listings =
        [⟨"Query", [("Person", some .object)], []⟩, ⟨"Any", [], [("Node", some .interface)]⟩,
          ⟨"Node", [], []⟩, ⟨"ID", [], []⟩, ⟨"Person", [], []⟩, ⟨"String", [], []⟩] ∧
      (¬ ∀ type ∈ graph.types.values, ∀ interface ∈ type.interfaces,
        graph.LeadsTo interface .interface) ∧
      ¬ ∀ type ∈ graph.types.values, ∀ member ∈ type.members, graph.LeadsTo member .object := by
  have listed : (assemble misfits plainWiring).toOption.map TypeGraph.listings = some
      [⟨"Query", [("Person", some .object)], []⟩, ⟨"Any", [], [("Node", some .interface)]⟩,
        ⟨"Node", [], []⟩, ⟨"ID", [], []⟩, ⟨"Person", [], []⟩, ⟨"String", [], []⟩] := by
    decide +kernel
  obtain ⟨graph, ok, kinds⟩ := exists_eq_ok_of_view listed
  refine ⟨graph, ok, kinds, ?_, ?_⟩
  · rw [(graph.forall_leadsTo_iff .interface).1, kinds]
    decide
  · rw [(graph.forall_leadsTo_iff .object).2, kinds]
    decide

end SchemaAssembly
