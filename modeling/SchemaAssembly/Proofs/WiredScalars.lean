import SchemaAssembly.Proofs.Image

/-!
# Scalars and their descriptions

A wiring is made by one call after the other, and the scalar that counts under a name is the one that
was registered last, a standard one only if none was. Every scalar of an assembled graph has the name
and the codec of the scalar that counts. Its description is that of its definition, if there is one,
and else that of the scalar wired. For a declared scalar the definition is the declaration. But a
standard name that is not declared has a definition too, and it is described: so a scalar that is
registered under a standard name replaces the codec, and not the description.

## Main definitions

* `SchemaAssembly.WiringStep` — one call; `SchemaAssembly.Wiring.ofSteps` — the wiring that calls make.
* `SchemaAssembly.registered?` — the scalar registered last under a name.
* `SchemaAssembly.Registry.describe` — the description by the declaration, or else by the scalar.

## Main results

* `SchemaAssembly.Wiring.scalar?_ofSteps` — what is wired is what was registered last.
* `SchemaAssembly.scalars_of_assemble` — the scalars of an assembled graph.
* `SchemaAssembly.description_integers` — an undeclared standard name keeps its description.
-/

set_option relaxedAutoImplicit false
set_option autoImplicit false

namespace SchemaAssembly

variable {B : Behaviours} {registry : Registry}

/-! ## Calls that make a wiring -/

/-- One call that adds to a wiring. -/
inductive WiringStep (B : Behaviours)
  /-- Sets the factory. -/
  | factory (factory : WiringFactory B)
  /-- Registers a scalar under its name. -/
  | scalar (scalar : ScalarType B)
  /-- Adds the wiring of one type. -/
  | type (added : TypeWiring B)

/-- What a wiring is after one more call. -/
def Wiring.after (wiring : Wiring B) : WiringStep B → Wiring B
  | .factory factory => wiring.withFactory factory
  | .scalar scalar => wiring.withScalar scalar
  | .type added => wiring.withType added

/-- The wiring that calls make, beginning with that of the standard scalars. -/
def Wiring.ofSteps (steps : List (WiringStep B)) : Wiring B :=
  steps.foldl Wiring.after (.standard B)

/-- The scalar that a call registers under a name, if it does. -/
def WiringStep.scalar? (name : String) : WiringStep B → Option (ScalarType B)
  | .scalar added => if name = added.name then some added else none
  | .factory _ | .type _ => none

/-- **The scalar registered last under a name**, or else the standard scalar of that name. -/
def registered? (steps : List (WiringStep B)) (name : String) : Option (ScalarType B) :=
  (steps.reverse.findSome? (WiringStep.scalar? name)).or
    ((StandardScalar.ofName? name).map (StandardScalar.type B))

/-- The map of items under different names holds each item under its name, and nothing else. -/
theorem NameMap.get?_ofList_map {α β : Type} {name : α → String} (f : α → β) {items : List α}
    (once : (items.map name).Nodup) (key : String) :
    (NameMap.ofList (items.map fun item => (name item, f item))).get? key =
      (items.find? (name · = key)).map f := by
  have nodup : (Entries.names (items.map fun item => (name item, f item))).Nodup := by
    rwa [Entries.names, List.map_map]
  have whole := get?_extend_entries (empty : NameMap β) ⟨_, nodup⟩ key
  rw [get?_empty, Option.or_none] at whole
  exact whole.trans (Entries.lookup_items name f items key)

namespace Wiring

/-- Before any call the standard scalars are wired. -/
theorem scalar?_standard (name : String) :
    (standard B).scalar? name =
      (StandardScalar.ofName? name).map (StandardScalar.type B) :=
  NameMap.get?_ofList_map (StandardScalar.type B) (by decide) name

/-- A call puts the scalar that it registers before the one wired so far. -/
theorem scalar?_after (wiring : Wiring B) (step : WiringStep B) (name : String) :
    (wiring.after step).scalar? name = (step.scalar? name).or (wiring.scalar? name) := by
  cases step with
  | factory factory => rfl
  | type added => rfl
  | scalar scalar =>
    rw [after, scalar?_withScalar, WiringStep.scalar?]
    split <;> rfl

/-- **What is wired under a name is the scalar registered last.**

**Proof sketch.** By induction on the calls, from any wiring that they begin with: the first call
comes before what was wired, and after all calls that follow it. -/
theorem scalar?_ofSteps (steps : List (WiringStep B)) (name : String) :
    (ofSteps steps).scalar? name = registered? steps name := by
  have later : ∀ wiring : Wiring B, (steps.foldl after wiring).scalar? name =
      (steps.reverse.findSome? (WiringStep.scalar? name)).or (wiring.scalar? name) := by
    induction steps with
    | nil => exact fun wiring => rfl
    | cons step rest ih =>
      intro wiring
      rw [List.foldl_cons, ih, scalar?_after, ← Option.or_assoc, List.reverse_cons,
        List.findSome?_append, List.findSome?_singleton]
  rw [ofSteps, later, scalar?_standard, registered?]

/-- Every wiring that calls make is keyed. -/
theorem keyed_ofSteps (steps : List (WiringStep B)) : (ofSteps steps).Keyed := by
  have kept : ∀ wiring : Wiring B, wiring.Keyed → (steps.foldl after wiring).Keyed := by
    induction steps with
    | nil => exact fun wiring keyed => keyed
    | cons step rest ih =>
      intro wiring keyed
      refine ih _ ?_
      cases step with
      | factory factory => exact keyed.withFactory factory
      | scalar scalar => exact keyed.withScalar scalar
      | type added => exact keyed.withType added
  exact kept _ (keyed_standard B)

end Wiring

/-! ## Scalars of assembled graphs -/

/-- **What the description of a scalar should be**: that of the declaration, if it gives one, and else
that of the scalar itself. -/
def Registry.describe (registry : Registry) (scalar : ScalarType B) : Option String :=
  ((registry.declared? scalar.name).bind TypeDefinition.description).or scalar.description

/-- What is found under a name is declared, or else it is the definition of a standard scalar. -/
theorem Registry.find?_cases {name : String} {definition : TypeDefinition}
    (found : registry.find? name = some definition) :
    registry.declared? name = some definition ∨
      registry.declared? name = none ∧
        ∃ standard : StandardScalar, standard.name = name ∧ standard.definition = definition := by
  rw [find?, Option.or_eq_some_iff, Option.map_eq_some_iff] at found
  refine found.imp_right (And.imp_right ?_)
  rintro ⟨standard, held, same⟩
  have own := List.find?_some held
  exact ⟨standard, of_decide_eq_true own, same⟩

/-- What the definition of a scalar makes of its description is what it should be exactly if the name
is declared, or if it should be that of the standard scalar anyway. -/
theorem Registry.description_eq_describe_iff {scalar : ScalarType B} {definition : TypeDefinition}
    (found : registry.find? scalar.name = some definition) :
    definition.description.or scalar.description = registry.describe scalar ↔
      (registry.declared? scalar.name).isSome = true ∨
        scalar.description = some ("Built-in " ++ scalar.name) := by
  obtain declared | ⟨undeclared, standard, own, rfl⟩ := Registry.find?_cases found
  · simp [describe, declared]
  · have described : standard.definition.description = some ("Built-in " ++ scalar.name) :=
      congrArg (fun name => some ("Built-in " ++ name)) own
    simp [describe, undeclared, described, eq_comm]

/-- A scalar made from its definition is the one wired, described by the definition if it can be. -/
theorem NamedType.MadeFrom.eq_ofScalar {wiring : Wiring B} {τ : Type} {type : NamedType B τ}
    {definition : TypeDefinition} {spells : τ → TypeRef → Prop} (wired : wiring.Keyed)
    (made : type.MadeFrom registry wiring spells definition) (kind : type.kind = .scalar) :
    ∃ scalar, wiring.scalar? type.name = some scalar ∧ type.name = scalar.name ∧
      type = .ofScalar { scalar with
        description := definition.description.or scalar.description } := by
  obtain ⟨own, same, -⟩ := made.heading wired
  rw [kind, TypeDefinition.kind] at same
  cases shape : definition.shape <;> rw [shape] at same <;> try cases same
  simp only [MadeFrom, shape] at made
  obtain ⟨scalar, bound, rfl⟩ := made
  rw [scalarType, ← own] at bound
  split at bound
  · next registered found =>
    obtain rfl := Except.ok.inj bound
    exact ⟨registered, found, rfl, rfl⟩
  · cases bound

/-- **Every scalar of an assembled graph is the one registered last under its name**: it has that
name and that codec. Its description is the one of its definition, if that gives one, and else that of
the scalar registered. This is as it should be exactly if the name is declared, or if what is
registered is described like the standard scalar.

**Proof sketch.** A scalar of the graph is made from the definition of its name and from what is
wired for it (`madeFrom_of_assemble`), which is what was registered last (`Wiring.scalar?_ofSteps`).
A definition that is found but not declared is that of a standard scalar (`Registry.find?_cases`),
which is described. -/
theorem scalars_of_assemble (keyed : registry.Keyed) {steps : List (WiringStep B)}
    {graph : TypeGraph B} (ok : assemble registry (.ofSteps steps) = .ok graph) :
    ∀ type ∈ graph.types.values, type.kind = .scalar → ∃ registered,
      registered? steps type.name = some registered ∧ type.name = registered.name ∧
      type.body = .scalar registered.codec ∧
      type.description = ((registry.find? type.name).bind TypeDefinition.description).or
        registered.description ∧
      (type.description = registry.describe registered ↔
        (registry.declared? type.name).isSome = true ∨
          registered.description = some ("Built-in " ++ type.name)) := by
  intro type h kind
  have wired := Wiring.keyed_ofSteps steps
  obtain ⟨definition, found, made⟩ := madeFrom_of_assemble keyed wired ok h
  obtain ⟨registered, last, own, whole⟩ := made.eq_ofScalar wired kind
  have described : type.description = definition.description.or registered.description :=
    congrArg NamedType.description whole
  rw [Wiring.scalar?_ofSteps] at last
  refine ⟨registered, last, own, congrArg NamedType.body whole, ?_, ?_⟩
  · rw [described, found]
    rfl
  · rw [described]
    rw [own] at found ⊢
    exact registry.description_eq_describe_iff found

/-- Scalars that are declared with a description and without, and one that is not declared. -/
def stampDefinitions : List Definition := [
  .schema ⟨[⟨.query, "Query", ⟨1, 10⟩⟩], ⟨1, 1⟩⟩,
  .type ⟨"Query", none, ⟨2, 1⟩, .object
    [⟨"day", none, [], .ofName "Day", ⟨3, 3⟩⟩, ⟨"time", none, [], .ofName "Time", ⟨4, 3⟩⟩,
      ⟨"id", none, [], .ofName "ID", ⟨5, 3⟩⟩, ⟨"count", none, [], .ofName "Int", ⟨6, 3⟩⟩] []⟩,
  .type ⟨"Day", some "declared", ⟨7, 1⟩, .scalar⟩,
  .type ⟨"Time", none, ⟨8, 1⟩, .scalar⟩,
  .type ⟨"ID", none, ⟨9, 1⟩, .scalar⟩]

/-- The registry of the stamps. -/
def stamps : Registry := (Registry.empty.addAll stampDefinitions).1

/-- The stamps are keyed. -/
theorem keyed_stamps : stamps.Keyed := Registry.keyed_empty.addAll stampDefinitions

/-- Scalars for the stamps, one of them registered twice, and one under the name of a standard scalar
that the stamps declare. -/
def stampSteps : List (WiringStep plainBehaviours) := [
  .scalar ⟨"Time", some "early", .custom ()⟩,
  .scalar ⟨"Day", some "wired", .custom ()⟩,
  .factory (.silent plainBehaviours),
  .scalar ⟨"Time", some "late", .custom ()⟩,
  .scalar ⟨"ID", some "wired", .custom ()⟩]

/-- A type is a scalar exactly if it is the finished type of that scalar. -/
theorem NamedType.scalar?_eq_some_iff {τ : Type} {type : NamedType B τ} {scalar : ScalarType B} :
    type.scalar? = some scalar ↔ type = .ofScalar scalar := by
  obtain ⟨name, description, body⟩ := type
  obtain ⟨own, described, codec⟩ := scalar
  cases body <;> simp [scalar?, ofScalar]

/-- The scalars of a graph, each with its description and with whether its codec is custom. -/
def TypeGraph.scalarRows (graph : TypeGraph B) : List (String × Option String × Bool) :=
  graph.types.values.filterMap fun type => type.scalar?.map fun scalar =>
    (scalar.name, scalar.description, match scalar.codec with
      | .standard _ => false
      | .custom _ => true)

/-- Among the stamps the declaration describes `Day`, what was registered last describes `Time` and
`ID`, and the standard scalar `Int` describes itself. -/
theorem scalars_of_assemble_stamps :
    stamps.Keyed ∧ ∃ graph, assemble stamps (.ofSteps stampSteps) = .ok graph ∧
      graph.scalarRows =
        [("Day", some "declared", true), ("Time", some "late", true), ("ID", some "wired", true),
          ("Int", some "Built-in Int", false)] ∧
      ∀ type ∈ graph.types.values, type.kind = .scalar → ∃ registered,
        registered? stampSteps type.name = some registered ∧
          type.body = .scalar registered.codec := by
  have listed : (assemble stamps (.ofSteps stampSteps)).toOption.map TypeGraph.scalarRows = some
      [("Day", some "declared", true), ("Time", some "late", true), ("ID", some "wired", true),
        ("Int", some "Built-in Int", false)] := by
    decide +kernel
  obtain ⟨graph, ok, rows⟩ := exists_eq_ok_of_view listed
  refine ⟨keyed_stamps, graph, ok, rows, fun type h kind => ?_⟩
  obtain ⟨registered, last, -, codec, -⟩ := scalars_of_assemble keyed_stamps ok type h kind
  exact ⟨registered, last, codec⟩

/-! ## A replaced scalar -/

/-- A query for an integer. -/
def integerDefinitions : List Definition := [
  .schema ⟨[⟨.query, "Query", .unknown⟩], .unknown⟩,
  .type ⟨"Query", none, .unknown, .object [⟨"n", none, [], .ofName "Int", .unknown⟩] []⟩]

/-- The registry of the integers, which does not declare their scalar. -/
def integers : Registry := (Registry.empty.addAll integerDefinitions).1

/-- A scalar that is registered in the place of the standard integers. -/
def customIntegers : ScalarType plainBehaviours := ⟨"Int", some "Custom integers", .custom ()⟩

/-- Integers that were replaced have the codec that replaced them, and the description of those that
they replaced, although nothing declares them. -/
theorem description_integers :
    integers.declared? "Int" = none ∧
    registered? [.scalar customIntegers] "Int" = some customIntegers ∧
    ∃ graph, assemble integers (.ofSteps [.scalar customIntegers]) = .ok graph ∧
      graph.scalarRows = [("Int", some "Built-in Int", true)] ∧
      ¬ ∀ type ∈ graph.types.values, type.kind = .scalar → ∃ registered,
        registered? [.scalar customIntegers] type.name = some registered ∧
          type.description = integers.describe registered := by
  have undeclared : integers.declared? "Int" = none := by decide +kernel
  have last : registered? [.scalar customIntegers] "Int" = some customIntegers := rfl
  have listed : (assemble integers (.ofSteps [.scalar customIntegers])).toOption.map
      TypeGraph.scalarRows = some [("Int", some "Built-in Int", true)] := by
    decide +kernel
  obtain ⟨graph, ok, rows⟩ := exists_eq_ok_of_view listed
  refine ⟨undeclared, last, graph, ok, rows, fun promised => ?_⟩
  have replaced : ("Int", some "Built-in Int", true) ∈ graph.scalarRows := by simp [rows]
  obtain ⟨type, h, shown⟩ := List.mem_filterMap.1 replaced
  obtain ⟨scalar, own, row⟩ := Option.map_eq_some_iff.1 shown
  obtain rfl := NamedType.scalar?_eq_some_iff.1 own
  have name : scalar.name = "Int" := congrArg Prod.fst row
  have given : scalar.description = some "Built-in Int" := congrArg (·.2.1) row
  have wanted : integers.describe customIntegers = some "Custom integers" := by
    simp [Registry.describe, customIntegers, undeclared]
  obtain ⟨registered, found, described⟩ := promised _ h rfl
  rw [NamedType.ofScalar, name, last] at found
  obtain rfl := Option.some.inj found
  have described' : some "Built-in Int" = some "Custom integers" :=
    given.symm.trans (described.trans wanted)
  exact absurd described' (by decide)

end SchemaAssembly
