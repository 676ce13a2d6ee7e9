import SchemaAssembly.Proofs.Collection

/-!
# From the roots to the graph

The root types of the operations are built one after the other, each with nothing in progress, so
that none of them is left as a placeholder. Together they are a run through the demands of the
roots, and the graph collected from them lists what the plain search from the roots visits. In such
a graph every occurrence leads to a type of the graph, so that no placeholder is left dangling.

## Main definitions

* `SchemaAssembly.TypeGraph.roots` — the root types of a graph.
* `SchemaAssembly.TypeGraph.Finished` — a graph that lists what is kept, with nothing in progress.

## Main results

* `SchemaAssembly.perform_rootDemands`, `perform_boundRoots` — building root types goes through
  what the roots demand.
* `SchemaAssembly.TypeGraph.Finished.exists_target`, `TypeGraph.Finished.dangling_eq_nil` — in a
  finished graph every occurrence leads to a type, and nothing is left dangling.
* `SchemaAssembly.names_assembleGraph` — as far as names and faults go, assembly is the plain search
  from the roots.
-/

set_option relaxedAutoImplicit false
set_option autoImplicit false

namespace SchemaAssembly

variable {B : Behaviours} {registry : Registry} {wiring : Wiring B}

/-! ## Root types -/

/-- The root types of a graph: that of queries, and those of mutations and of subscriptions where
there are such. -/
def TypeGraph.roots (graph : TypeGraph B) : List (GraphType B) :=
  graph.query :: graph.mutation.toList ++ graph.subscription.toList

/-- The link that an operation has to its root type. -/
def rootLink (type : GraphType B) : Place × Occurrence B := (.output, .concrete type)

/-- **A root type is never left as a placeholder.** It is built with nothing in progress, and the
reference to it is bare. -/
theorem concrete_of_build {root : RootBinding} {caches next : Caches B}
    {occurrence : Occurrence B}
    (ok : build registry wiring [] root.reference caches = .ok (occurrence, next)) :
    ∃ type, occurrence = .concrete type := by
  obtain ⟨type, -, ⟨built, -, rfl, -⟩ | ⟨-, -, ⟨begun, -⟩ | ⟨-, built, -, -, rfl, -⟩⟩⟩ :=
    build_ok_cases ok
  · exact ⟨built, rfl⟩
  · cases begun
  · exact ⟨built, rfl⟩

/-- Building a root type goes through what the operation demands. -/
theorem perform_rootDemands (registry : Registry) (wiring : Wiring B) (root : RootBinding) :
    perform (build registry wiring []) (rootDemands registry root) =
      (fun type => [rootLink type]) <$> buildRoot registry wiring root := by
  funext caches
  rw [Build.map_apply]
  unfold rootDemands rootFault buildRoot
  cases found : registry.find? root.typeName with
  | none => rfl
  | some type =>
  have own : (⟨.ofName root.typeName, .output, root.typeName, root.position⟩ : Reference) =
      root.reference := rfl
  by_cases object : type.kind = .object
  · simp only [object, own, if_true, ne_eq, not_true_eq_false, if_false, perform]
    cases h : build registry wiring [] root.reference caches with
    | error fault =>
      rw [Build.bind_of_error h, Build.bind_of_error h, Except.map]
    | ok result =>
      obtain ⟨occurrence, next⟩ := result
      obtain ⟨built, rfl⟩ := concrete_of_build h
      rw [Build.bind_of_ok h, Build.bind_of_ok h]
      rfl
  · simp only [object, ne_eq, not_false_eq_true, if_true, if_false]
    rfl

/-- Building the root type of an operation that may not be bound goes through what it demands. -/
theorem perform_optionalRoot (registry : Registry) (wiring : Wiring B)
    (root : Option RootBinding) :
    perform (build registry wiring [])
        (root.toList.flatMap fun root => rootDemands registry root) =
      (fun type => type.toList.map rootLink) <$> root.mapM (buildRoot registry wiring) := by
  cases root with
  | none => simp [perform]
  | some root => simp [perform_rootDemands]

/-- The operations bound are the query, then the mutation and the subscription where they are
bound. -/
theorem boundRoots_of_query {schema : SchemaDefinition} {query : RootBinding}
    (bound : schema.root? .query = some query) :
    schema.boundRoots =
      query :: ((schema.root? .mutation).toList ++ (schema.root? .subscription).toList) := by
  unfold SchemaDefinition.boundRoots
  cases hm : schema.root? .mutation <;> cases hs : schema.root? .subscription <;>
    simp [bound, hm, hs]

/-- **Building the root types goes through what the operations bound demand.** -/
theorem perform_boundRoots (registry : Registry) (wiring : Wiring B) {schema : SchemaDefinition}
    {query : RootBinding} (bound : schema.root? .query = some query) :
    perform (build registry wiring [])
        (schema.boundRoots.flatMap fun root => rootDemands registry root) =
      (fun graph => graph.roots.map rootLink) <$> buildRoots registry wiring schema := by
  rw [boundRoots_of_query bound, List.flatMap_cons, List.flatMap_append, perform_append,
    perform_append, perform_rootDemands, perform_optionalRoot, perform_optionalRoot]
  simp [buildRoots, bound, TypeGraph.roots, TypeGraph.ofRoots]

/-- The graph that is built is the one of its root types. -/
theorem ensures_buildRoots (registry : Registry) (wiring : Wiring B) (schema : SchemaDefinition) :
    Ensures (buildRoots registry wiring schema) fun graph =>
      graph.types = Occurrence.collectAll ∅ (graph.roots.map .concrete) := by
  unfold buildRoots
  cases schema.root? .query with
  | none =>
    intro state result next ok
    cases ok
  | some root =>
    refine (ensures_true _).bind fun query _ => (ensures_true _).bind fun mutation _ =>
      (ensures_true _).bind fun subscription _ => ensures_pure ?_
    rw [collectAll_concrete]
    rfl

/-! ## Finished graphs -/

/-- **A finished graph**: it lists what is kept, under the discipline and with nothing in progress,
and its roots are kept. -/
structure TypeGraph.Finished (registry : Registry) (graph : TypeGraph B) (caches : Caches B) :
    Prop where
  /-- The caches keep the discipline. -/
  sound : caches.Sound registry []
  /-- The names of the graph are those kept. -/
  tracks : caches.Tracks [] graph.names
  /-- The types of the graph are those kept. -/
  agrees : caches.Agrees graph.types
  /-- The roots are kept. -/
  rooted : ∀ root ∈ graph.roots, caches.find? .output root.name = some root

namespace TypeGraph.Finished

variable {graph : TypeGraph B} {caches : Caches B} (finished : graph.Finished registry caches)

include finished

/-- A type of the graph is kept. -/
theorem exists_find? {name : String} {type : GraphType B} (h : graph.type? name = some type) :
    ∃ place, caches.find? place name = some type := by
  obtain h' | ⟨place, kept, hk⟩ := (finished.tracks name).1 (NameMap.mem_names_of_get? h)
  · cases h'
  · have := finished.agrees place name kept hk
    obtain rfl : type = kept := Option.some.inj (h.symm.trans this)
    exact ⟨place, hk⟩

/-- A type of the graph is found under its own name. -/
theorem type?_of_mem {type : GraphType B} (h : type ∈ graph.types.values) :
    graph.type? type.name = some type := by
  obtain ⟨⟨name, type⟩, entry, rfl⟩ := List.mem_map.1 h
  have found := NameMap.mem_entries_iff.1 entry
  obtain ⟨place, kept⟩ := finished.exists_find? found
  rw [finished.sound.keyed place name type kept]
  exact found

/-- A type found in the graph is one of its types, under its own name. -/
theorem mem_values_of_type? {name : String} {type : GraphType B}
    (h : graph.type? name = some type) : type ∈ graph.types.values ∧ type.name = name := by
  obtain ⟨place, kept⟩ := finished.exists_find? h
  exact ⟨List.mem_map.2 ⟨(name, type), NameMap.mem_entries_iff.2 h, rfl⟩,
    finished.sound.keyed place name type kept⟩

/-- **Every occurrence in the graph leads to a type of the graph**, of the name at its bottom and of
a kind that suits its place; and that is the type held, if one is held. -/
theorem exists_target {type : GraphType B} (h : type ∈ graph.types.values)
    {link : Place × Occurrence B} (hl : link ∈ type.placed) :
    ∃ target, graph.target? link.2 = some target ∧ target.name = link.2.innermost ∧
      link.1.admits target.kind = true ∧ ∀ held, link.2.held? = some held → held = target := by
  obtain ⟨⟨name, type⟩, entry, rfl⟩ := List.mem_map.1 h
  obtain ⟨place, kept⟩ := finished.exists_find? (NameMap.mem_entries_iff.1 entry)
  have linked := finished.sound.linked place name type kept link hl
  obtain ⟨target, ht⟩ : ∃ target, caches.find? link.1 link.2.innermost = some target := by
    cases held : link.2.held? with
    | some held =>
      rw [← Occurrence.name_of_held? held]
      exact ⟨_, linked.held _ held⟩
    | none =>
      -- Nothing is in progress any more, so what a placeholder names is kept.
      obtain ⟨definition, found, placed⟩ := linked.known held
      have holds := (linked.awaited held).resolve_left (by simp)
      exact finished.sound.find?_of_holds holds found placed
  obtain ⟨-, -, -, admits⟩ := finished.sound.known _ _ _ ht
  refine ⟨target, finished.agrees _ _ _ ht, finished.sound.keyed _ _ _ ht, admits, ?_⟩
  intro held hh
  have := linked.held held hh
  rw [Occurrence.name_of_held? hh, ht] at this
  exact (Option.some.inj this).symm

/-- **No placeholder of the graph is left dangling.** -/
theorem dangling_eq_nil : graph.dangling = [] := by
  unfold TypeGraph.dangling
  rw [List.flatMap_eq_nil_iff]
  intro type h
  rw [List.map_eq_nil_iff, List.filter_eq_nil_iff]
  intro occurrence ho
  rw [← NamedType.map_snd_placed] at ho
  obtain ⟨link, hl, rfl⟩ := List.mem_map.1 ho
  obtain ⟨target, ht, -⟩ := finished.exists_target h hl
  simp [NameMap.contains, show graph.types.get? link.2.innermost = some target from ht]

end TypeGraph.Finished

/-! ## Assembly and the search from the roots -/

section Assemble

variable (keyed : registry.Keyed) (wired : wiring.Keyed) {schema : SchemaDefinition}
  {query : RootBinding} (bound : schema.root? .query = some query)

include keyed wired bound

/-- **The graph of root types that were built is finished**, and it lists the names that the plain
search visits. -/
theorem finished_of_buildRoots {graph : TypeGraph B} {last : Caches B}
    (ok : buildRoots registry wiring schema Caches.empty = .ok (graph, last)) :
    Run registry wiring [] (schema.boundRoots.flatMap fun root => rootDemands registry root)
        Caches.empty (graph.roots.map rootLink) last ∧
      graph.Finished registry last ∧
      search registry wiring [] (schema.boundRoots.flatMap fun root => rootDemands registry root) =
        .ok graph.names := by
  have run : Run registry wiring []
      (schema.boundRoots.flatMap fun root => rootDemands registry root)
      Caches.empty (graph.roots.map rootLink) last := by
    refine run_of_perform ?_
    rw [perform_boundRoots registry wiring bound, Build.map_apply, ok, Except.map]
  have start : (Caches.empty : Caches B).Sound registry [] := Caches.sound_empty registry []
  obtain ⟨sound, -, linked⟩ := run.sound keyed wired start
  have none : (Caches.empty : Caches B).Agrees ∅ := fun _ _ _ h => by simp at h
  obtain ⟨search, tracks, agrees, -⟩ :=
    run.collect keyed wired start Caches.tracks_empty none
  have types : graph.types =
      Occurrence.collectAll ∅ ((graph.roots.map rootLink).map Prod.snd) := by
    rw [List.map_map]
    exact ensures_buildRoots registry wiring schema _ _ _ ok
  rw [← types] at search tracks agrees
  refine ⟨run, ⟨sound, tracks, agrees, fun root h => ?_⟩, search⟩
  exact (linked (rootLink root) (List.mem_map_of_mem h)).held root rfl

/-- Where building the root types fails, the plain search fails at the same fault. -/
theorem search_of_buildRoots_error {fault : SchemaError}
    (failed : buildRoots registry wiring schema Caches.empty = .error fault) :
    search registry wiring [] (schema.boundRoots.flatMap fun root => rootDemands registry root) =
      .error fault := by
  refine search_of_perform_error keyed wired ?_ (Caches.sound_empty registry [])
    Caches.tracks_empty
  rw [perform_boundRoots registry wiring bound, Build.map_apply, failed, Except.map]

end Assemble

/-- Once the root types are built, assembly returns their graph. -/
theorem assembleGraph_of_buildRoots (keyed : registry.Keyed) (wired : wiring.Keyed)
    {schema : SchemaDefinition} (defined : registry.schema = some schema) {query : RootBinding}
    (bound : schema.root? .query = some query) {graph : TypeGraph B} {last : Caches B}
    (ok : buildRoots registry wiring schema Caches.empty = .ok (graph, last)) :
    assembleGraph registry wiring = .ok graph := by
  obtain ⟨-, finished, -⟩ := finished_of_buildRoots keyed wired bound ok
  simp [assembleGraph, defined, ok, finished.dangling_eq_nil, bind, Except.bind, pure, Except.pure]

/-- **Assembly is the plain search from the roots**, as far as names and faults go: it fails where
the search fails, at the same fault, and else its graph lists the names that the search visits. -/
theorem names_assembleGraph (keyed : registry.Keyed) (wired : wiring.Keyed) :
    (assembleGraph registry wiring).map TypeGraph.names = searchRoots registry wiring := by
  unfold searchRoots
  cases defined : registry.schema with
  | none => simp [assembleGraph, defined, throw, throwThe, MonadExceptOf.throw, Except.map]
  | some schema =>
  cases bound : schema.root? .query with
  | none =>
    have failed : buildRoots registry wiring schema Caches.empty =
        .error (.missingQuery schema.position) := by
      simp only [buildRoots, bound]
      rfl
    simp [assembleGraph, defined, failed, bound, bind, Except.bind, Except.map]
  | some query =>
  cases h : buildRoots registry wiring schema Caches.empty with
  | error fault =>
    simp only [bound, search_of_buildRoots_error keyed wired bound h]
    simp [assembleGraph, defined, h, bind, Except.bind, Except.map]
  | ok result =>
    obtain ⟨graph, last⟩ := result
    rw [assembleGraph_of_buildRoots keyed wired defined bound h]
    simp only [bound, (finished_of_buildRoots keyed wired bound h).2.2]
    rfl

end SchemaAssembly
