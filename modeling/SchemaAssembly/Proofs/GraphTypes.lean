import SchemaAssembly.Proofs.Outcome

/-!
# The types of an assembled graph

An assembled graph lists what the roots reach in the registry, each name once and in preorder, even
though it is collected from finished types whose back references have been cut. And it is whole:
every occurrence in it, held or only named, leads to a type of the graph.

## Main results

* `SchemaAssembly.names_of_assemble` — the names of a graph are those reached, in preorder.
* `SchemaAssembly.graph_of_built_roots` — once the root types are built, assembly succeeds with a
  graph in which every occurrence leads to a type.
-/

set_option relaxedAutoImplicit false
set_option autoImplicit false

namespace SchemaAssembly

variable {B : Behaviours} {registry : Registry} {wiring : Wiring B}

/-! ## Names -/

/-- A graph that was assembled is the one of its root types. -/
theorem buildRoots_of_assemble {graph : TypeGraph B} (ok : assemble registry wiring = .ok graph) :
    ∃ schema query last, registry.schema = some schema ∧ schema.root? .query = some query ∧
      buildRoots registry wiring schema Caches.empty = .ok (graph, last) := by
  have ok' := assemble_eq_ok_iff.1 ok
  unfold assembleGraph at ok'
  cases defined : registry.schema with
  | none =>
    simp only [defined] at ok'
    cases ok'
  | some schema =>
  simp only [defined] at ok'
  cases h : buildRoots registry wiring schema Caches.empty with
  | error fault =>
    rw [h] at ok'
    cases ok'
  | ok result =>
  obtain ⟨built, last⟩ := result
  cases bound : schema.root? .query with
  | none =>
    simp only [buildRoots, bound] at h
    cases h
  | some query =>
  refine ⟨schema, query, last, rfl, bound, ?_⟩
  simp only [h, bind, Except.bind] at ok'
  split at ok'
  · cases ok'
  · cases ok'
    exact h

/-- A graph that was assembled is finished. -/
theorem finished_of_assemble (keyed : registry.Keyed) (wired : wiring.Keyed)
    {graph : TypeGraph B} (ok : assemble registry wiring = .ok graph) :
    ∃ last, graph.Finished registry last := by
  obtain ⟨schema, query, last, -, bound, built⟩ := buildRoots_of_assemble ok
  exact ⟨last, (finished_of_buildRoots keyed wired bound built).2.1⟩

/-- Every type of a finished graph is listed under its own name. -/
theorem TypeGraph.Finished.map_name_values {graph : TypeGraph B} {caches : Caches B}
    (finished : graph.Finished registry caches) :
    graph.types.values.map NamedType.name = graph.names := by
  rw [NameMap.values, TypeGraph.names, NameMap.names, Entries.names, List.map_map]
  refine List.map_congr_left fun entry h => ?_
  obtain ⟨name, type⟩ := entry
  obtain ⟨place, kept⟩ := finished.exists_find? (NameMap.mem_entries_iff.1 h)
  exact finished.sound.keyed place name type kept

/-- **The types of an assembled graph are those that the roots reach**, each once and no others, in
the depth-first preorder of the reference graph.

**Proof sketch.** The graph lists the names that the plain search visits (`names_assembleGraph`),
since collecting finished types takes the way of the run that built them (`Run.collect`). The search
visits exactly what the roots reach (`mem_searchRoots_iff`), in preorder
(`preorder_of_searchRoots`). -/
theorem names_of_assemble (keyed : registry.Keyed) (wired : wiring.Keyed) {graph : TypeGraph B}
    (ok : assemble registry wiring = .ok graph) :
    graph.types.values.map NamedType.name = registry.preorder ∧
      graph.names = registry.preorder ∧ registry.preorder.Nodup ∧
      ∀ name, name ∈ registry.preorder ↔ registry.Reachable name := by
  have found := searchRoots_of_assemble keyed wired ok
  obtain ⟨last, finished⟩ := finished_of_assemble keyed wired ok
  rw [finished.map_name_values, preorder_of_searchRoots found]
  exact ⟨rfl, rfl, graph.types.nodup, mem_searchRoots_iff found⟩

/-- The circle is listed in preorder, each name once. -/
theorem names_of_assemble_circle :
    circle.Keyed ∧ plainWiring.Keyed ∧ ∃ graph, assemble circle plainWiring = .ok graph ∧
      graph.names = ["Query", "Key", "ID", "Node", "Edit"] ∧
      circle.preorder = ["Query", "Key", "ID", "Node", "Edit"] := by
  obtain ⟨graph, ok, outline⟩ := exists_assemble_circle
  obtain ⟨values, listed, -⟩ := names_of_assemble keyed_circle keyed_plainWiring ok
  have names : graph.names = circleOutline.map Prod.fst := by
    rw [listed, ← values, ← outline, TypeGraph.outline, List.map_map]
    rfl
  exact ⟨keyed_circle, keyed_plainWiring, graph, ok, names, listed.symm.trans names⟩

/-! ## Roots -/

section Roots

variable (keyed : registry.Keyed) (wired : wiring.Keyed) {schema : SchemaDefinition}
  {query : RootBinding} (bound : schema.root? .query = some query) {graph : TypeGraph B}
  {last : Caches B} (built : buildRoots registry wiring schema Caches.empty = .ok (graph, last))

include keyed wired bound built

/-- The root types are named by the operations bound. -/
theorem map_name_roots :
    graph.roots.map NamedType.name = schema.boundRoots.map RootBinding.typeName := by
  obtain ⟨run, -, -⟩ := finished_of_buildRoots keyed wired bound built
  have named := congrArg (List.map Prod.snd)
    (run.map_innermost keyed wired (Caches.sound_empty registry []))
  rw [← filterMap_rootDemands registry schema.boundRoots]
  simpa [rootLink, Function.comp_def, Occurrence.innermost] using named

/-- The root types are objects, found in the graph under their own names. -/
theorem object_of_mem_roots {root : GraphType B} (h : root ∈ graph.roots) :
    root.kind = .object ∧ graph.type? root.name = some root := by
  obtain ⟨-, finished, ok⟩ := finished_of_buildRoots keyed wired bound built
  have kept := finished.rooted root h
  refine ⟨?_, finished.agrees _ _ _ kept⟩
  have named := List.mem_map_of_mem (f := NamedType.name) h
  rw [map_name_roots keyed wired bound built] at named
  obtain ⟨binding, hb, own⟩ := List.mem_map.1 named
  have passed : rootFault registry binding = none :=
    (settled_of_search ok).2.1 (.check (rootFault registry binding))
      (List.mem_flatMap.2 ⟨binding, hb, .head _⟩)
  obtain ⟨type, found, object⟩ := rootFault_eq_none_iff.1 passed
  obtain ⟨definition, found', kind, -⟩ := finished.sound.known _ _ _ kept
  rw [own, found'] at found
  obtain rfl := Option.some.inj found
  exact kind ▸ object

/-- The root type of queries comes first in the graph. -/
theorem head?_values_eq_query : graph.types.values.head? = some graph.query := by
  obtain ⟨-, -, ok⟩ := finished_of_buildRoots keyed wired bound built
  have own : graph.query.name = query.typeName := by
    have named := map_name_roots keyed wired bound built
    rw [boundRoots_of_query bound] at named
    exact (List.cons.inj named).1
  have object := object_of_mem_roots keyed wired bound built 
    (.head _ : graph.query ∈ graph.roots)
  refine NameMap.head?_values ?_ object.2
  rw [boundRoots_of_query bound, List.flatMap_cons, rootDemands, List.cons_append,
    List.cons_append] at ok
  have passed : rootFault registry query = none :=
    (settled_of_search ok).2.1 (.check (rootFault registry query)) (.head _)
  rw [passed, search] at ok
  rw [own]
  exact head?_of_search ok

end Roots

/-! ## Whole graphs -/

/-- Where the root types are objects, what the roots demand is just to be followed. -/
theorem perform_rootReferences {σ τ : Type} {roots : List RootBinding}
    (objects : ∀ root ∈ roots, rootFault registry root = none)
    (visit : Reference → Build σ τ) :
    perform visit (roots.flatMap fun root => rootDemands registry root) =
      List.map (Prod.mk Place.output) <$> roots.mapM fun root => visit root.reference := by
  rw [placed_outputs visit RootBinding.reference fun _ => rfl]
  induction roots with
  | nil => rfl
  | cons root rest ih =>
    have rest' := ih fun other h => objects other (.tail _ h)
    simp only [List.flatMap_cons, rootDemands, List.cons_append, List.nil_append, List.map_cons,
      objects root (.head _), perform] at rest' ⊢
    rw [rest']

/-- **Once the root types are built, assembly succeeds with a graph that is whole.** If the root
types are objects and are built without an error, one after the other, then each is built as a
finished type, and never left as a placeholder; no placeholder of the graph collected from them is
dangling, so that assembly returns it; every occurrence in it leads to a type of the graph, of the
name at its bottom and of a kind that suits its place, and to the type held if one is held; and the
root types are objects found in it under their own names, that of queries first.

**Proof sketch.** Root types are built with nothing in progress (`concrete_of_build`). What a run
keeps is linked, so that a placeholder names something kept or in progress (`Run.sound`). At the end
nothing is in progress, and what is kept is what the graph lists (`Run.collect`). -/
theorem graph_of_built_roots (keyed : registry.Keyed) (wired : wiring.Keyed)
    {schema : SchemaDefinition} (defined : registry.schema = some schema)
    {query : RootBinding} (bound : schema.root? .query = some query)
    (objects : ∀ root ∈ schema.boundRoots,
      ∃ type, registry.find? root.typeName = some type ∧ type.kind = .object)
    {occurrences : List (Occurrence B)} {last : Caches B}
    (built : schema.boundRoots.mapM (fun root => build registry wiring [] root.reference)
      Caches.empty = .ok (occurrences, last)) :
    ∃ graph, occurrences = graph.roots.map .concrete ∧ graph.dangling = [] ∧
      assemble registry wiring = .ok graph ∧
      (∀ type ∈ graph.types.values, ∀ link ∈ type.placed,
        ∃ target, graph.target? link.2 = some target ∧ target.name = link.2.innermost ∧
          link.1.admits target.kind = true ∧
          ∀ held, link.2.held? = some held → held = target) ∧
      (∀ root ∈ graph.roots, root.kind = .object ∧ graph.type? root.name = some root) ∧
      graph.types.values.head? = some graph.query := by
  have performed : perform (build registry wiring [])
      (schema.boundRoots.flatMap fun root => rootDemands registry root) Caches.empty =
        .ok (occurrences.map (Prod.mk Place.output), last) := by
    rw [perform_rootReferences fun root h => rootFault_eq_none_iff.2 (objects root h),
      Build.map_apply, built, Except.map]
  rw [perform_boundRoots registry wiring bound, Build.map_apply] at performed
  cases h : buildRoots registry wiring schema Caches.empty with
  | error fault =>
    rw [h] at performed
    cases performed
  | ok result =>
  obtain ⟨graph, last'⟩ := result
  rw [h, Except.map, Except.ok.injEq, Prod.mk.injEq] at performed
  obtain ⟨links, rfl⟩ := performed
  have finished := (finished_of_buildRoots keyed wired bound h).2.1
  refine ⟨graph, ?_, finished.dangling_eq_nil,
    assemble_eq_ok_iff.2 (assembleGraph_of_buildRoots keyed wired defined bound h),
    fun type ht link hl => finished.exists_target ht hl,
    fun root hr => object_of_mem_roots keyed wired bound h hr,
    head?_values_eq_query keyed wired bound h⟩
  simpa [rootLink, Function.comp_def] using (congrArg (List.map Prod.snd) links).symm

/-- The root types of the circle are built. -/
theorem exists_built_circle : ∃ occurrences last,
    circleSchema.boundRoots.mapM (fun root => build circle plainWiring [] root.reference)
      Caches.empty = .ok (occurrences, last) := by
  have succeeds : (circleSchema.boundRoots.mapM
      (fun root => build circle plainWiring [] root.reference) Caches.empty).isOk = true := by
    decide +kernel
  cases h : circleSchema.boundRoots.mapM
      (fun root => build circle plainWiring [] root.reference) Caches.empty with
  | ok result => exact ⟨result.1, result.2, rfl⟩
  | error fault =>
    rw [h] at succeeds
    cases succeeds

/-- The circle is whole, although its types refer to each other while they are in progress: the key, the
node and the query root are referred to by placeholders, and all of them are found. -/
theorem graph_of_built_circle :
    circle.Keyed ∧ plainWiring.Keyed ∧ circle.schema = some circleSchema ∧
      (∃ occurrences last, circleSchema.boundRoots.mapM
        (fun root => build circle plainWiring [] root.reference) Caches.empty =
          .ok (occurrences, last)) ∧
      ∃ graph, assemble circle plainWiring = .ok graph ∧ graph.outline = circleOutline ∧
        graph.dangling = [] ∧
        (∀ type ∈ graph.types.values, ∀ link ∈ type.placed,
          ∃ target, graph.target? link.2 = some target ∧ target.name = link.2.innermost) ∧
        graph.types.values.head? = some graph.query := by
  have defined : circle.schema = some circleSchema := rfl
  have faultless : ∀ root ∈ circleSchema.boundRoots, rootFault circle root = none := by
    decide +kernel
  obtain ⟨occurrences, last, built⟩ := exists_built_circle
  obtain ⟨graph, -, dangling, ok, whole, -, first⟩ :=
    graph_of_built_roots keyed_circle keyed_plainWiring defined rfl
      (fun root h => rootFault_eq_none_iff.1 (faultless root h)) built
  obtain ⟨graph', ok', outline⟩ := exists_assemble_circle
  obtain rfl : graph' = graph := Except.ok.inj (ok'.symm.trans ok)
  refine ⟨keyed_circle, keyed_plainWiring, defined, ⟨occurrences, last, built⟩, graph', ok, outline,
    dangling, fun type ht link hl => ?_, first⟩
  obtain ⟨target, found, named, -, -⟩ := whole type ht link hl
  exact ⟨target, found, named⟩

end SchemaAssembly
