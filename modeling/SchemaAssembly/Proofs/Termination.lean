import SchemaAssembly.Proofs.Calls

/-!
# Building ends, with few types in progress

A builder that has the types in progress on a stack in its state follows names through the registry.
Nothing in its text gets smaller from a call to the calls that it makes: references may run in
circles, and a call may leave any stack behind. What bounds it is that a type is started only when it
is not on the stack. So the names on the stack are distinct names that the registry knows, and no more
calls are nested than there are such names, and one.

That the recursion ends is stated as follows. The builder is cut off at some depth, and what it does
there is left open, be it a failure, a wrong answer or any other change of the state. If the depth is
greater than the number of names known, assembly comes out all the same.

## Main definitions

* `SchemaAssembly.assembleBy` — assembly, given how references are built.
* `SchemaAssembly.InProgress` — the types in progress at some moment.

## Main results

* `SchemaAssembly.assembleBy_congr` — assembly comes out the same if references are built alike.
* `SchemaAssembly.InProgress.stacked` — the types in progress are known, and none is there twice.
* `SchemaAssembly.assembly_ends` — assembly needs no more depth than there are names, and no more
  types are ever in progress.
-/

set_option relaxedAutoImplicit false
set_option autoImplicit false

namespace SchemaAssembly

variable {B : Behaviours} {registry : Registry} {wiring : Wiring B} {σ ρ : Type}

/-! ## Assembly by any builder -/

/-- Builds the root type of an operation, given how references are built. -/
def rootBy (registry : Registry) (visit : Reference → Build σ (Occurrence B)) (root : RootBinding) :
    Build σ (GraphType B) := do
  match registry.find? root.typeName with
  | none => throw root.reference.unknown
  | some type =>
    if type.kind ≠ .object then
      throw (.notAnObject root.operation root.typeName type.kind)
    match ← visit root.reference with
    | .concrete built => return built
    | _ => throw (.notAnObject root.operation root.typeName type.kind)

/-- Builds the root types of the operations that a schema binds, given how references are built. -/
def rootsBy (registry : Registry) (visit : Reference → Build σ (Occurrence B))
    (schema : SchemaDefinition) : Build σ (TypeGraph B) := do
  match schema.root? .query with
  | none => throw (.missingQuery schema.position)
  | some root =>
    let query ← rootBy registry visit root
    let mutation ← (schema.root? .mutation).mapM (rootBy registry visit)
    let subscription ← (schema.root? .subscription).mapM (rootBy registry visit)
    return .ofRoots query mutation subscription

/-- The graph of a registry or the first error met, given how references are built. -/
def graphBy (registry : Registry) (visit : Reference → Build σ (Occurrence B)) (start : σ) :
    Except SchemaError (TypeGraph B) := do
  match registry.schema with
  | none => throw .missingSchema
  | some schema =>
    let (graph, _) ← rootsBy registry visit schema start
    match graph.dangling.head? with
    | some placeholder => throw (danglingError registry placeholder)
    | none => return graph

/-- **Assembly, given how references are built**, from some state at the start. -/
def assembleBy (registry : Registry) (visit : Reference → Build σ (Occurrence B)) (start : σ) :
    Except SchemaProblem (TypeGraph B) :=
  (graphBy registry visit start).mapError SchemaProblem.of

/-- Assembly builds references by the builder, with nothing in progress and nothing kept. -/
theorem assembleBy_build (registry : Registry) (wiring : Wiring B) :
    assembleBy registry (build registry wiring []) Caches.empty = assemble registry wiring := rfl

section Realized

variable {view : σ → ρ} {sort : σ → Prop} {visit : Reference → Build σ (Occurrence B)}
  {plain : Reference → Build ρ (Occurrence B)}
  (follows : ∀ reference, Realizes view sort (visit reference) (plain reference))

include follows

/-- A root type is built alike if references are. -/
theorem realizes_rootBy (registry : Registry) (root : RootBinding) :
    Realizes view sort (rootBy registry visit root) (rootBy registry plain root) := by
  unfold rootBy
  cases registry.find? root.typeName with
  | none => exact realizes_throw _
  | some type =>
    by_cases object : type.kind = .object
    · simp only [object, ne_eq, not_true_eq_false, if_false]
      refine (follows root.reference).bind fun occurrence => ?_
      cases occurrence with
      | concrete built => exact realizes_pure built
      | placeholder name => exact realizes_throw _
      | list inner => exact realizes_throw _
      | nonNull inner => exact realizes_throw _
    · simp only [object, ne_eq, not_false_eq_true, if_true]
      exact realizes_throw _

/-- The root type of an operation that may not be bound is built alike if references are. -/
theorem realizes_optionalRoot (registry : Registry) (root : Option RootBinding) :
    Realizes view sort (root.mapM (rootBy registry visit)) (root.mapM (rootBy registry plain)) := by
  cases root with
  | none => exact realizes_pure none
  | some root => exact (realizes_rootBy follows registry root).bind fun type => realizes_pure _

/-- The root types of a schema are built alike if references are. -/
theorem realizes_rootsBy (registry : Registry) (schema : SchemaDefinition) :
    Realizes view sort (rootsBy registry visit schema) (rootsBy registry plain schema) := by
  unfold rootsBy
  cases schema.root? .query with
  | none => exact realizes_throw _
  | some root =>
    refine (realizes_rootBy follows registry root).bind fun query => ?_
    refine (realizes_optionalRoot follows registry _).bind fun mutation => ?_
    exact (realizes_optionalRoot follows registry _).bind fun subscription => realizes_pure _

/-- Assembly comes out the same if references are built alike. -/
theorem assembleBy_congr (registry : Registry) {start : σ} (begins : sort start) :
    assembleBy registry visit start = assembleBy registry plain (view start) := by
  unfold assembleBy graphBy
  cases registry.schema with
  | none => rfl
  | some schema =>
    have alike := realizes_rootsBy follows registry schema start begins
    dsimp only
    generalize rootsBy registry visit schema start = outcome at alike ⊢
    generalize rootsBy registry plain schema (view start) = outcome' at alike ⊢
    cases alike <;> rfl

end Realized

/-! ## Types in progress -/

/-- **The types in progress at some moment** while the roots of a registry are built: those on the
stack at a call of the builder, or those when the call has started one more. A call that succeeds
leaves the stack as it was, so that no other stacks occur. -/
inductive InProgress (registry : Registry) (wiring : Wiring B) : List String → Prop
  /-- The builder is called. -/
  | call {depth : Nat} {context : Context B} {reference : Reference}
      (called : Called registry wiring depth context reference) :
    InProgress registry wiring context.stack
  /-- The call starts a type. -/
  | start {depth : Nat} {context : Context B} {reference : Reference} {type : TypeDefinition}
      (called : Called registry wiring depth context reference)
      (found : registry.find? reference.type.innermost = some type)
      (absent : context.caches.find? reference.place reference.type.innermost = none)
      (placed : reference.place.admits type.kind = true)
      (idle : reference.type.innermost ∉ context.stack) :
    InProgress registry wiring (context.start reference.type.innermost).stack

/-- Going through demands with enough depth leaves the stack as it was. -/
theorem stack_of_perform {depth : Nat} {context next : Context B} {agenda : List Demand}
    {links : List (Place × Occurrence B)} (stacked : registry.Stacked context.stack)
    (enough : registry.nameCount < depth + context.stack.length)
    (performed : perform (buildOn registry wiring depth) agenda context = .ok (links, next)) :
    next.stack = context.stack := by
  have follows : ∀ reference, Realizes Context.caches (fun next => next.stack = context.stack)
      (buildOn registry wiring depth reference) (build registry wiring context.stack reference) :=
    realizes_cutOff _ stacked enough
  exact ((realizes_perform follows agenda).of_ok rfl performed).2

/-- **At every call the stack has known names, none twice, and there is enough depth.**

**Proof sketch.** By induction on the calls. What came before a call on the same agenda left the stack
as it was: empty for the roots, and for the parts of a type that of the outer call with the type on
top, which was not there. -/
theorem Called.stacked {depth : Nat} {context : Context B} {reference : Reference}
    (called : Called registry wiring depth context reference) :
    registry.Stacked context.stack ∧ registry.nameCount < depth + context.stack.length := by
  induction called with
  | @root depth _ _ _ _ _ _ _ declared bound deep split performed =>
    have enough : registry.nameCount < depth + (Context.empty : Context B).stack.length :=
      Nat.lt_of_le_of_lt registry.knownNames.toFinset_card_le deep
    rw [stack_of_perform registry.stacked_nil enough performed]
    exact ⟨registry.stacked_nil, enough⟩
  | @part depth context _ reference _ _ _ _ _ called found absent placed idle split performed ih =>
    obtain ⟨stacked, enough⟩ := ih
    have stacked' : registry.Stacked (context.start reference.type.innermost).stack :=
      stacked.push found idle
    have enough' : registry.nameCount <
        depth + (context.start reference.type.innermost).stack.length := by
      rw [Context.start, List.length_cons]
      omega
    rw [stack_of_perform stacked' enough' performed]
    exact ⟨stacked', enough'⟩

/-- **The types in progress are known, and none of them is in progress twice.** -/
theorem InProgress.stacked {stack : List String} (h : InProgress registry wiring stack) :
    registry.Stacked stack := by
  cases h with
  | call called => exact called.stacked.1
  | start called found absent placed idle => exact called.stacked.1.push found idle

/-- **Assembly ends, and keeps few types in progress.** For every registry and every wiring, the
builder needs no more depth than there are distinct names known, and one: cut off beyond that, in
whatever way, it assembles the same. And there are never more types in progress than there are such
names, at any of the calls that the builder makes; that these are all of its calls is part of the
statement.

**Proof sketch.** With enough depth the builder that is cut off is the builder (`realizes_cutOff`),
for the roots with an empty stack. At every moment the types in progress are distinct known names
(`InProgress.stacked`). What the calls are calls of is gone through exactly (`placed_buildNamed`,
`perform_boundRoots_on`). -/
theorem assembly_ends (registry : Registry) (wiring : Wiring B) :
    (∀ (beyond : Reference → Build (Context B) (Occurrence B)) (depth : Nat),
      registry.nameCount < depth →
        assembleBy registry (cutOff registry wiring beyond depth) Context.empty =
          assemble registry wiring) ∧
    (∀ stack, InProgress registry wiring stack → stack.length ≤ registry.nameCount) ∧
    CallsExact registry wiring := by
  refine ⟨?_, fun stack h => h.stacked.length_le, callsExact registry wiring⟩
  intro beyond depth deep
  have enough : registry.nameCount < depth + ([] : List String).length := deep
  have follows : ∀ reference, Realizes Context.caches (fun context => context.stack = [])
      (cutOff registry wiring beyond depth reference) (build registry wiring [] reference) :=
    realizes_cutOff beyond registry.stacked_nil enough
  rw [assembleBy_congr follows registry (rfl : (Context.empty : Context B).stack = []),
    ← assembleBy_build]
  rfl

/-- In the circle nine names are known, so that a depth of ten is enough to assemble its graph, whatever
is done beyond; and two types are in progress at some moment. -/
theorem assembly_ends_circle :
    circle.nameCount = 9 ∧
    (∃ graph, graph.outline = circleOutline ∧
      ∀ beyond : Reference → Build (Context plainBehaviours) (Occurrence plainBehaviours),
        assembleBy circle (cutOff circle plainWiring beyond 10) Context.empty = .ok graph) ∧
    InProgress circle plainWiring ["Key", "Query"] ∧
    ["Key", "Query"].length ≤ circle.nameCount := by
  have count : circle.nameCount = 9 := by decide +kernel
  obtain ⟨ends, few, -⟩ := assembly_ends circle plainWiring
  obtain ⟨graph, ok, outline⟩ := exists_assemble_circle
  obtain ⟨context, called, stack, -⟩ := called_circle
  have moment : InProgress circle plainWiring ["Key", "Query"] := stack ▸ .call called
  refine ⟨count, ⟨graph, outline, fun beyond => ?_⟩, moment, few _ moment⟩
  rw [ends beyond 10 (by rw [count]; decide), ok]

end SchemaAssembly
