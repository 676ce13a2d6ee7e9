import SchemaAssembly.Proofs.Locality

/-!
# The order of definitions does not matter

Definitions may be given in any order, extensions before or after what they extend, as long as those
of one name keep their order among each other. The registries that two such orders lead to may list
names differently, but hold the same under every name; and where one order leads to conflicts the
other leads to as many, though it may be another definition that is refused. Assembly looks up names
and does not list them, so that it comes out the same; unless the factory lists names, which is
excluded.

## Main definitions

* `SchemaAssembly.Registry.LooksLike` — two registries hold the same under every name.
* `SchemaAssembly.WiringFactory.ByLookup` — a factory that cannot tell such registries apart.

## Main results

* `SchemaAssembly.Registry.LooksLike.assemble_eq` — registries that hold the same are assembled alike.
* `SchemaAssembly.looksLike_addAll_of_perm` — reordered definitions lead to registries that hold the
  same.
* `SchemaAssembly.length_errors_addAll_of_perm` — and to as many conflicts.
* `SchemaAssembly.assemble_reordered` — so that the order does not matter.
-/

set_option relaxedAutoImplicit false
set_option autoImplicit false

namespace SchemaAssembly

/-! ## Registries that hold the same -/

/-- **Two registries hold the same under every name**, though they may list names differently. -/
structure Registry.LooksLike (registry registry' : Registry) : Prop where
  /-- They hold the same types. -/
  types : ∀ name, registry'.types.get? name = registry.types.get? name
  /-- They hold the same declared scalars. -/
  declaredScalars : ∀ name,
    registry'.declaredScalars.get? name = registry.declaredScalars.get? name
  /-- They hold the same extensions, in the same order for each name. -/
  extensions : ∀ name, registry'.extensions.get? name = registry.extensions.get? name
  /-- They have the same schema definition. -/
  schema : registry'.schema = registry.schema

/-- **A factory reads registries by looking names up**, so that it gives the same answers for two that
hold the same. -/
structure WiringFactory.ByLookup {B : Behaviours} (factory : WiringFactory B) : Prop where
  /-- It claims the same fields. -/
  claimsField : ∀ registry registry' field, registry.LooksLike registry' →
    factory.claimsField registry' field = factory.claimsField registry field
  /-- It provides the same for them. -/
  fetcherFor : ∀ registry registry' field, registry.LooksLike registry' →
    factory.fetcherFor registry' field = factory.fetcherFor registry field
  /-- It claims the same abstract types. -/
  claimsType : ∀ registry registry' type, registry.LooksLike registry' →
    factory.claimsType registry' type = factory.claimsType registry type
  /-- It provides the same for them. -/
  resolverFor : ∀ registry registry' type, registry.LooksLike registry' →
    factory.resolverFor registry' type = factory.resolverFor registry type

/-- A static factory does not read registries at all. -/
theorem StaticFactory.byLookup {B : Behaviours} (factory : StaticFactory B) :
    factory.toFactory.ByLookup :=
  ⟨fun _ _ _ _ => rfl, fun _ _ _ _ => rfl, fun _ _ _ _ => rfl, fun _ _ _ _ => rfl⟩

namespace Registry.LooksLike

variable {registry registry' : Registry} (alike : registry.LooksLike registry')

include alike

/-- Registries that hold the same know the same of what is reached. -/
theorem sameOnReached : registry.SameOnReached registry' := by
  have extensions : ∀ name, registry'.extensionsOf name = registry.extensionsOf name := by
    intro name
    rw [extensionsOf, extensionsOf, alike.extensions name]
  refine ⟨alike.schema, fun name _ => find?_congr fun scalar => ?_,
    fun name _ _ _ _ => extensions name, fun name _ _ _ _ => by rw [extensions name]⟩
  cases scalar with
  | false => exact alike.types name
  | true => exact alike.declaredScalars name

/-- **Registries that hold the same are assembled alike**, if the factory looks names up. -/
theorem assemble_eq (keyed : registry.Keyed) {B : Behaviours} {wiring : Wiring B}
    (wired : wiring.Keyed) (byLookup : wiring.factory.ByLookup) :
    assemble registry' wiring = assemble registry wiring := by
  refine alike.sameOnReached.assemble_eq (.refl registry wiring) ?_ keyed wired
  exact ⟨fun _ _ _ _ field _ =>
      ⟨byLookup.claimsField _ _ field alike, fun _ => byLookup.fetcherFor _ _ field alike⟩,
    fun _ type _ _ _ =>
      ⟨byLookup.claimsType _ _ type alike, fun _ => byLookup.resolverFor _ _ type alike⟩⟩

end Registry.LooksLike

/-! ## Reordered definitions -/

section Reordered

variable {definitions reordered : List Definition} (perm : reordered.Perm definitions)

include perm

/-- **Reordered definitions lead to registries that hold the same**, if all of them can be added in
either order and extensions of one name keep theirs. -/
theorem looksLike_addAll_of_perm
    (fragments : ∀ name, fragmentsOf name reordered = fragmentsOf name definitions)
    (all : (Registry.empty.addAll definitions).2 = [])
    (all' : (Registry.empty.addAll reordered).2 = []) :
    (Registry.empty.addAll definitions).1.LooksLike (Registry.empty.addAll reordered).1 := by
  have types : ∀ scalar name,
      ((Registry.empty.addAll reordered).1.typesOf scalar).get? name =
        ((Registry.empty.addAll definitions).1.typesOf scalar).get? name := by
    intro scalar name
    refine Option.ext fun type => ?_
    rw [Registry.typesOf_addAll all, Registry.typesOf_addAll all', perm.mem_iff]
  refine ⟨types false, types true, fun name => ?_, Option.ext fun schema => ?_⟩
  · rw [Registry.get?_extensions, Registry.get?_extensions, Registry.contains_addAll all,
      Registry.contains_addAll all', Registry.extensionsOf_addAll all,
      Registry.extensionsOf_addAll all', fragments name]
  · rw [Registry.schema_addAll all, Registry.schema_addAll all', perm.mem_iff]

/-- **Reordered definitions lead to as many conflicts.** -/
theorem length_errors_addAll_of_perm :
    (Registry.empty.addAll reordered).2.length = (Registry.empty.addAll definitions).2.length := by
  have slots : (reordered.filterMap Definition.slot?).Perm (definitions.filterMap Definition.slot?) :=
    perm.filterMap _
  have claimed : Registry.empty.claimed reordered = Registry.empty.claimed definitions := by
    unfold Registry.claimed
    rw [List.toFinset_eq_of_perm _ _ slots]
  have counted := Registry.length_errors_addAll .empty definitions
  have counted' := Registry.length_errors_addAll .empty reordered
  rw [claimed, slots.length_eq] at counted'
  omega

/-- **The order of definitions does not matter**, as long as the extensions of one name keep theirs.
Either the definitions make a registry in both orders, and the registries are assembled alike with
every wiring whose factory looks names up; or they conflict in both orders, equally often.

**Proof sketch.** Conflicts are counted by the slots that definitions claim, in whatever order
(`length_errors_addAll_of_perm`). Where there are none, the two registries hold the same under every
name (`looksLike_addAll_of_perm`), and assembly looks up nothing else. -/
theorem assemble_reordered
    (fragments : ∀ name, fragmentsOf name reordered = fragmentsOf name definitions) :
    (∃ registry registry', Registry.ofDefinitions definitions = .ok registry ∧
      Registry.ofDefinitions reordered = .ok registry' ∧
      ∀ (B : Behaviours) (wiring : Wiring B), wiring.Keyed → wiring.factory.ByLookup →
        assemble registry' wiring = assemble registry wiring) ∨
    ∃ problem problem', Registry.ofDefinitions definitions = .error problem ∧
      Registry.ofDefinitions reordered = .error problem' ∧
      problem'.errors.length = problem.errors.length := by
  have conflicts := length_errors_addAll_of_perm perm
  by_cases all : (Registry.empty.addAll definitions).2 = []
  · have all' : (Registry.empty.addAll reordered).2 = [] :=
      List.length_eq_zero_iff.1 (by rw [conflicts, all]; rfl)
    refine .inl ⟨_, _, Registry.ofDefinitions_of_nil all, Registry.ofDefinitions_of_nil all', ?_⟩
    intro B wiring wired byLookup
    exact (looksLike_addAll_of_perm perm fragments all all').assemble_eq
      (Registry.keyed_empty.addAll definitions) wired byLookup
  · have all' : (Registry.empty.addAll reordered).2 ≠ [] := by
      intro all'
      rw [all', eq_comm] at conflicts
      exact all (List.length_eq_zero_iff.1 conflicts)
    exact .inr ⟨_, _, Registry.ofDefinitions_of_ne_nil all, Registry.ofDefinitions_of_ne_nil all',
      conflicts⟩

end Reordered

/-- Two extensions of one type of the circle. They add a field of one name; what the second says of it
does not count. -/
def circleAdditions : List Definition := [
  .extension ⟨"Edit", [], [⟨"undo", none, [], .ofName "Query", ⟨7, 20⟩⟩], ⟨7, 1⟩⟩,
  .extension ⟨"Edit", ["Node"], [⟨"undo", none, [], .ofName "Ghost", ⟨8, 36⟩⟩], ⟨8, 1⟩⟩]

/-- Two types of names that the circle has. -/
def circleRepetitions : List Definition := [
  .type ⟨"Node", none, ⟨9, 1⟩, .scalar⟩, .type ⟨"Key", none, ⟨10, 1⟩, .union ["Node"]⟩]

/-- The extensions may come before the schema definition and the type that they extend: the graph is the
same, in which the mutation root refers to the query root once more, and to the node. And where the types
of the same names come first it is two types of the circle that are refused, as many as else. -/
theorem assemble_reordered_circle :
    (∃ registry registry' graph,
      Registry.ofDefinitions (circleDefinitions ++ circleAdditions) = .ok registry ∧
      Registry.ofDefinitions (circleAdditions ++ circleDefinitions) = .ok registry' ∧
      assemble registry plainWiring = .ok graph ∧ assemble registry' plainWiring = .ok graph ∧
      graph.outline = circleOutline.dropLast ++
        [("Edit", [("Query", false), ("Query", false), ("Node", false)])]) ∧
    ∃ problem problem',
      Registry.ofDefinitions (circleDefinitions ++ circleRepetitions) = .error problem ∧
      Registry.ofDefinitions (circleRepetitions ++ circleDefinitions) = .error problem' ∧
      problem.errors.length = 2 ∧ problem'.errors.length = 2 := by
  have additions : ∀ name, fragmentsOf name (circleAdditions ++ circleDefinitions) =
      fragmentsOf name (circleDefinitions ++ circleAdditions) := by
    intro name
    by_cases edit : name = "Edit"
    · subst edit
      rfl
    · simp [fragmentsOf, circleAdditions, Definition.fragment?, Ne.symm edit]
  have repetitions : ∀ name, fragmentsOf name (circleRepetitions ++ circleDefinitions) =
      fragmentsOf name (circleDefinitions ++ circleRepetitions) := by
    intro name
    have none : circleRepetitions.filterMap (Definition.fragment? name) = [] := rfl
    rw [fragmentsOf, fragmentsOf, List.filterMap_append, List.filterMap_append, none,
      List.nil_append, List.append_nil]
  have made : (Registry.ofDefinitions (circleDefinitions ++ circleAdditions)).toOption.map
      (fun registry => (assemble registry plainWiring).toOption.map TypeGraph.outline) =
        some (some (circleOutline.dropLast ++
          [("Edit", [("Query", false), ("Query", false), ("Node", false)])])) := by
    decide +kernel
  have refused : (error? (Registry.ofDefinitions (circleDefinitions ++ circleRepetitions))).map
      (fun problem => problem.errors.length) = some 2 := by
    decide +kernel
  constructor
  · obtain ⟨registry, registry', ok, ok', alike⟩ | ⟨problem, -, error, -⟩ :=
      assemble_reordered List.perm_append_comm additions
    · rw [ok] at made
      obtain ⟨graph, assembled, outline⟩ := exists_eq_ok_of_view (Option.some.inj made)
      refine ⟨registry, registry', graph, ok, ok', assembled, ?_, outline⟩
      rw [alike plainBehaviours plainWiring keyed_plainWiring (StaticFactory.byLookup _), assembled]
    · rw [error] at made
      cases made
  · obtain ⟨registry, -, ok, -⟩ | ⟨problem, problem', error, error', counted⟩ :=
      assemble_reordered List.perm_append_comm repetitions
    · rw [ok] at refused
      cases refused
    · rw [error] at refused
      have two : problem.errors.length = 2 := Option.some.inj refused
      exact ⟨problem, problem', error, error', two, counted.trans two⟩

end SchemaAssembly
