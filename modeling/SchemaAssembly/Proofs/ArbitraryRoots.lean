import SchemaAssembly.Proofs.DepthFirst
import SchemaAssembly.Proofs.Outcome

/-!
# Graphs of arbitrary root types

A graph is made of its root types, whatever they are. Roots made by hand need not come from definitions:
several types may have one name, and placeholders may name anything. The graph still holds every name
once, is closed under what its types hold, and takes for every name the type that comes first, depth
first. What it cannot promise is that a placeholder leads anywhere; those that do not are listed.

Of assembled roots all this is known with more precision, since they follow a registry. Here there is
nothing to follow but the types themselves, so that what the graph holds is told by visits along paths,
and what dangles by the indices of types and of their references.

## Main definitions

* `SchemaAssembly.TypeGraph.Dangles`, `TypeGraph.ListsDangling` — the references that dangle, in order.
* `SchemaAssembly.TypeGraph.Collected` — what is true of the graph of arbitrary roots.

## Main results

* `SchemaAssembly.TypeGraph.listsDangling` — what dangles is listed, all of it and in order.
* `SchemaAssembly.TypeGraph.collected_ofRoots` — graphs of arbitrary roots.
-/

set_option relaxedAutoImplicit false
set_option autoImplicit false

namespace SchemaAssembly

variable {B : Behaviours}

/-! ## Dangling placeholders -/

/-- Indices ascend along a list. -/
theorem pairwise_zipIdx {α : Type} (list : List α) :
    list.zipIdx.Pairwise fun entry later => entry.2 < later.2 := by
  have ascending : (list.zipIdx.map Prod.snd).Pairwise (· < ·) := by
    rw [List.zipIdx_map_snd]
    exact List.pairwise_lt_range' 1
  exact List.pairwise_map.1 ascending

namespace TypeGraph

/-- **The references of the types of a graph**, each with the type that makes it, and both with their
indices. -/
def indexed (graph : TypeGraph B) : List ((Nat × Nat) × GraphType B × Occurrence B) :=
  graph.types.values.zipIdx.flatMap fun entry =>
    entry.1.references.zipIdx.map fun entry' => ((entry.2, entry'.2), entry.1, entry'.1)

/-- **A reference dangles**, the one of these indices: it is a placeholder that names no type of the graph.
The pair says where it stands and what it names. -/
def Dangles (graph : TypeGraph B) (spot : Nat × Nat) (pair : String × String) : Prop :=
  ∃ type occurrence, graph.types.values[spot.1]? = some type ∧
    type.references[spot.2]? = some occurrence ∧ occurrence.isPlaceholder = true ∧
    occurrence.innermost ∉ graph.types.names ∧ pair = (type.name, occurrence.innermost)

/-- **The dangling references of a graph**, one pair for each, in the order of the types and then of their
references. -/
def ListsDangling (graph : TypeGraph B) (pairs : List (String × String)) : Prop :=
  ∃ spots : List (Nat × Nat), spots.Pairwise (Prod.Lex (· < ·) (· < ·)) ∧
    (∀ spot, spot ∈ spots ↔ ∃ pair, graph.Dangles spot pair) ∧
    List.Forall₂ graph.Dangles spots pairs

variable {graph : TypeGraph B}

/-- A reference is listed at its indices. -/
theorem mem_indexed_iff {spot : Nat × Nat} {type : GraphType B} {occurrence : Occurrence B} :
    (spot, type, occurrence) ∈ graph.indexed ↔
      graph.types.values[spot.1]? = some type ∧ type.references[spot.2]? = some occurrence := by
  simp only [indexed, List.mem_flatMap, List.mem_map, List.mem_zipIdx_iff_getElem?]
  constructor
  · rintro ⟨⟨type, index⟩, here, ⟨occurrence, index'⟩, here', own⟩
    cases own
    exact ⟨here, here'⟩
  · rintro ⟨here, here'⟩
    exact ⟨(type, spot.1), here, (occurrence, spot.2), here', rfl⟩

/-- References are listed in the order of types and then of references. -/
theorem pairwise_indexed (graph : TypeGraph B) :
    graph.indexed.Pairwise fun entry later => Prod.Lex (· < ·) (· < ·) entry.1 later.1 := by
  refine List.pairwise_flatMap.2 ⟨fun entry _ => ?_, ?_⟩
  · exact List.pairwise_map.2 ((pairwise_zipIdx _).imp fun less => .right _ less)
  · refine (pairwise_zipIdx _).imp fun less spot h later h' => ?_
    obtain ⟨_, -, rfl⟩ := List.mem_map.1 h
    obtain ⟨_, -, rfl⟩ := List.mem_map.1 h'
    exact .left _ _ less

/-- Without their indices they are the references of one type after the other. -/
theorem map_snd_indexed (graph : TypeGraph B) :
    graph.indexed.map Prod.snd =
      graph.types.values.flatMap fun type => type.references.map fun occurrence => (type, occurrence) := by
  have each : ∀ entry : GraphType B × Nat,
      (entry.1.references.zipIdx.map fun entry' => ((entry.2, entry'.2), entry.1, entry'.1)).map
        Prod.snd = entry.1.references.map fun occurrence => (entry.1, occurrence) := by
    intro entry
    conv_rhs => rw [← List.zipIdx_map_fst 0 entry.1.references]
    rw [List.map_map, List.map_map]
    rfl
  conv_rhs => rw [← List.zipIdx_map_fst 0 graph.types.values]
  rw [indexed, List.map_flatMap, List.flatMap_map]
  simp only [each]

/-- The references that dangle, each with the type that makes it and with their indices. -/
def danglingReferences (graph : TypeGraph B) : List ((Nat × Nat) × GraphType B × Occurrence B) :=
  graph.indexed.filter fun entry =>
    entry.2.2.isPlaceholder && !graph.types.contains entry.2.2.innermost

/-- What is said of the references that dangle is all that is said. -/
theorem dangling_eq_map (graph : TypeGraph B) :
    graph.dangling = graph.danglingReferences.map fun entry =>
      (entry.2.1.name, entry.2.2.innermost) := by
  have without : graph.danglingReferences.map Prod.snd = (graph.indexed.map Prod.snd).filter
      fun link => link.2.isPlaceholder && !graph.types.contains link.2.innermost := by
    rw [List.filter_map]
    rfl
  have whole : (graph.danglingReferences.map fun entry => (entry.2.1.name, entry.2.2.innermost)) =
      (graph.danglingReferences.map Prod.snd).map fun link => (link.1.name, link.2.innermost) := by
    rw [List.map_map]
    rfl
  rw [whole, without, map_snd_indexed, List.filter_flatMap, List.map_flatMap]
  refine congrArg (List.flatMap · _) (funext fun type => ?_)
  rw [List.filter_map, List.map_map]
  rfl

/-- A reference that dangles has its indices. -/
theorem dangles_of_mem {entry : (Nat × Nat) × GraphType B × Occurrence B}
    (h : entry ∈ graph.danglingReferences) :
    graph.Dangles entry.1 (entry.2.1.name, entry.2.2.innermost) := by
  obtain ⟨listed, loose⟩ := List.mem_filter.1 h
  obtain ⟨spot, type, occurrence⟩ := entry
  obtain ⟨here, there⟩ := mem_indexed_iff.1 listed
  rw [Bool.and_eq_true, Bool.not_eq_true', ← Bool.not_eq_true, NameMap.contains_iff] at loose
  exact ⟨type, occurrence, here, there, loose.1, loose.2, rfl⟩

/-- **What dangles is listed**, all of it and in order. -/
theorem listsDangling (graph : TypeGraph B) : graph.ListsDangling graph.dangling := by
  refine ⟨graph.danglingReferences.map Prod.fst, ?_, fun spot => ?_, ?_⟩
  · exact List.pairwise_map.2 ((pairwise_indexed graph).filter _)
  · constructor
    · intro h
      obtain ⟨entry, held, rfl⟩ := List.mem_map.1 h
      exact ⟨_, dangles_of_mem held⟩
    · rintro ⟨pair, type, occurrence, here, there, placeholder, absent, -⟩
      refine List.mem_map.2 ⟨(spot, type, occurrence), List.mem_filter.2 ⟨?_, ?_⟩, rfl⟩
      · exact mem_indexed_iff.2 ⟨here, there⟩
      · rw [Bool.and_eq_true, Bool.not_eq_true', ← Bool.not_eq_true, NameMap.contains_iff]
        exact ⟨placeholder, absent⟩
  · rw [dangling_eq_map, List.forall₂_map_left_iff, List.forall₂_map_right_iff, List.forall₂_same]
    exact fun entry h => dangles_of_mem h

/-! ## Graphs -/

/-- **What is true of the graph of arbitrary roots.** -/
structure Collected (graph : TypeGraph B) : Prop where
  /-- Every type is held under its own name. -/
  keyed : graph.types.Keyed NamedType.name
  /-- Every name is held once. -/
  once : graph.types.names.Nodup
  /-- The name of every root is held. -/
  rooted : ∀ root ∈ graph.roots, root.name ∈ graph.types.names
  /-- Every occurrence in a type that is no placeholder has a name that is held. -/
  closed : ∀ type ∈ graph.types.values, ∀ occurrence ∈ type.references,
    occurrence.isPlaceholder = false → occurrence.innermost ∈ graph.types.names
  /-- The types are those of the first visits of their names, depth first from the roots; and there are no
  other first visits. -/
  foremost : ∃ kept, Foremost (visitsBelow [] graph.roots) kept ∧
    kept.map Visit.type = graph.types.values ∧
    ∀ others, Foremost (visitsBelow [] graph.roots) others → others = kept
  /-- What dangles is listed, in order. -/
  dangling : graph.ListsDangling graph.dangling

section Listed

variable {kept : List (Visit B)}
  (collects : Collects [] (visitsBelow [] graph.roots) kept)
  (listed : graph.types.entries = kept.map fun visit => (visit.type.name, visit.type))

include listed

/-- The types of a graph are those of the visits that it lists. -/
theorem map_type_of_listed : kept.map Visit.type = graph.types.values := by
  rw [NameMap.values, listed, List.map_map]
  rfl

/-- A graph that lists visits holds every type under its own name. -/
theorem keyed_of_listed : graph.types.Keyed NamedType.name := by
  intro key type found
  have entry := NameMap.mem_entries_iff.2 found
  rw [listed] at entry
  obtain ⟨visit, -, own⟩ := List.mem_map.1 entry
  cases own
  rfl

include collects

/-- **The name of what is met is held.** -/
theorem mem_names_of_met {visit : Visit B} (met : Met (visitsBelow [] graph.roots) kept visit) :
    visit.type.name ∈ graph.types.names := by
  rcases collects.covered visit met with seen | ⟨other, h, same⟩
  · cases seen
  · rw [NameMap.names, listed, Entries.names, List.map_map]
    exact List.mem_map.2 ⟨other, h, same⟩

/-- Roots are met. -/
theorem mem_names_of_mem_roots {root : GraphType B} (h : root ∈ graph.roots) :
    root.name ∈ graph.types.names := by
  obtain ⟨index, here⟩ := List.mem_iff_getElem?.1 h
  have due : ⟨[index], root⟩ ∈ visitsBelow [] graph.roots := mem_visitsBelow_iff.2 ⟨index, here, rfl⟩
  exact mem_names_of_met collects listed (.inl due)

/-- What a type of the graph holds is met. -/
theorem mem_names_of_held? {type inner : GraphType B} (h : type ∈ graph.types.values)
    {occurrence : Occurrence B} (h' : occurrence ∈ type.references)
    (held : occurrence.held? = some inner) : inner.name ∈ graph.types.names := by
  rw [← map_type_of_listed listed] at h
  obtain ⟨visit, among, rfl⟩ := List.mem_map.1 h
  have below : inner ∈ visit.type.heldTypes := List.mem_filterMap.2 ⟨occurrence, h', held⟩
  obtain ⟨index, here⟩ := List.mem_iff_getElem?.1 below
  have due : ⟨visit.path ++ [index], inner⟩ ∈ visit.below :=
    mem_visitsBelow_iff.2 ⟨index, here, rfl⟩
  exact mem_names_of_met collects listed (.inr ⟨visit, among, due⟩)

end Listed

/-- **Graphs of arbitrary roots.** The graph of any root types holds each name once, with a type of that
name; it holds the names of all roots, and that of every type that one of its types holds. Of the types of
one name that are met it has the one that is met first, depth first from the roots; what the others hold is
not met through them. The placeholders that dangle are exactly those of its types that name none of them,
and are listed in the order of types and then of references.

**Proof sketch.** Collecting from no names gives the visits that are the first ones of their names
(`exists_collects`), and the graph lists these. What a kept visit holds is met, and so are the roots, so
that their names are covered. What dangles is found among the references with their indices
(`dangling_eq_map`). -/
theorem collected_ofRoots (query : GraphType B) (mutation subscription : Option (GraphType B)) :
    (ofRoots query mutation subscription).Collected := by
  obtain ⟨kept, collects, entries⟩ := exists_collects _
    (pairwise_visitsBelow [] (ofRoots query mutation subscription).roots) ∅
  rw [map_type_visitsBelow] at entries
  have listed : (ofRoots query mutation subscription).types.entries =
      kept.map fun visit => (visit.type.name, visit.type) := entries
  refine ⟨keyed_of_listed listed, NameMap.nodup _, fun root => mem_names_of_mem_roots collects listed,
    fun type h occurrence h' concrete => ?_,
    ⟨kept, collects.foremost, map_type_of_listed listed, fun others foremost => ?_⟩, listsDangling _⟩
  · obtain ⟨inner, held⟩ : ∃ inner, occurrence.held? = some inner := by
      rw [← Option.isSome_iff_exists, Option.isSome_iff_ne_none, ne_eq, Occurrence.held?_eq_none_iff,
        concrete]
      exact Bool.false_ne_true
    rw [← Occurrence.name_of_held? held]
    exact mem_names_of_held? collects listed h h' held
  · exact foremost.unique collects.foremost

/-- An object type that refers to others as if they were interfaces. -/
def implementing (name : String) (references : List (Occurrence plainBehaviours)) :
    GraphType plainBehaviours :=
  ⟨name, none, .object [] references⟩

/-- A query type that holds two different types of one name, the second of them around a type that is held
nowhere else, and a placeholder of a name that there is not. -/
def twofold : GraphType plainBehaviours :=
  implementing "Query" [.concrete (implementing "Author" [.placeholder "Query"]),
    .list (.concrete (implementing "Author" [.nonNull (.concrete (implementing "Hidden" []))])),
    .nonNull (.placeholder "Ghost")]

/-- A mutation type that leads to the hidden type by a placeholder only. -/
def misled : GraphType plainBehaviours :=
  implementing "Update" [.concrete (implementing "Post" [.placeholder "Author", .placeholder "Hidden"])]

/-- The second type of the name hides what it holds, so that a placeholder of that name dangles. -/
theorem collected_ofRoots_twofold :
    (ofRoots twofold (some misled) none).Collected ∧
    (ofRoots twofold (some misled) none).types.values.map (fun type =>
      (type.name, type.references.map Occurrence.innermost)) =
        [("Query", ["Author", "Author", "Ghost"]), ("Author", ["Query"]), ("Update", ["Post"]),
          ("Post", ["Author", "Hidden"])] ∧
    (ofRoots twofold (some misled) none).dangling = [("Query", "Ghost"), ("Post", "Hidden")] :=
  ⟨collected_ofRoots twofold (some misled) none, by decide +kernel⟩

end TypeGraph

end SchemaAssembly
