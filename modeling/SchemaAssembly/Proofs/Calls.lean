import SchemaAssembly.Proofs.BackReferences
import SchemaAssembly.Proofs.Context

/-!
# The discipline of every call

The builder calls itself for every reference that a type in progress makes, until it succeeds with
the roots or stops at an error. What it calls itself with is described here for all of its calls, and
thus also for those of a run that stops at an error later on: the stack, the caches and the log keep
their discipline, and a call that succeeds leaves the stack and all that was kept before as they were.

## Main definitions

* `SchemaAssembly.Called` — the calls made when the roots of a registry are built.
* `SchemaAssembly.CallsExact` — these are the calls that the builder makes.
* `SchemaAssembly.Context.Disciplined` — what there is to say of the context of a call.

## Main results

* `SchemaAssembly.Called.orderly` — everything is in order at every call, and there is depth left.
* `SchemaAssembly.perform_boundRoots_on`, `callsExact` — the calls are those of a run that builds what
  assembly builds.
* `SchemaAssembly.disciplined_of_called` — the discipline at every call, and after it.
-/

set_option relaxedAutoImplicit false
set_option autoImplicit false

namespace SchemaAssembly

open Relation

variable {B : Behaviours} {registry : Registry} {wiring : Wiring B}

/-! ## Calls -/

/-- **The calls of the builder** when the roots of a registry are built: the depth left, the context,
and the reference. A call is reached when all that comes before it, on the same agenda, succeeded. -/
inductive Called (registry : Registry) (wiring : Wiring B) :
    Nat → Context B → Reference → Prop
  /-- The root types are built one after the other, with nothing in progress, and with more depth
  than there are names. -/
  | root {depth : Nat} {schema : SchemaDefinition} {query : RootBinding}
      {before after : List Demand} {reference : Reference} {links : List (Place × Occurrence B)}
      {context : Context B} (declared : registry.schema = some schema)
      (bound : schema.root? .query = some query) (deep : registry.knownNames.length < depth)
      (split : (schema.boundRoots.flatMap fun root => rootDemands registry root) =
        before ++ .follow reference :: after)
      (performed : perform (buildOn registry wiring depth) before Context.empty =
        .ok (links, context)) :
    Called registry wiring depth context reference
  /-- A call that has to build a type calls the builder for what the type refers to. -/
  | part {depth : Nat} {context between : Context B} {reference part : Reference}
      {type : TypeDefinition} {before after : List Demand} {links : List (Place × Occurrence B)}
      (called : Called registry wiring (depth + 1) context reference)
      (found : registry.find? reference.type.innermost = some type)
      (absent : context.caches.find? reference.place reference.type.innermost = none)
      (placed : reference.place.admits type.kind = true)
      (idle : reference.type.innermost ∉ context.stack)
      (split : demands registry wiring type = before ++ .follow part :: after)
      (performed : perform (buildOn registry wiring depth) before
        (context.start reference.type.innermost) = .ok (links, between)) :
    Called registry wiring depth between part

/-- **At every call everything is in order, and there is depth left** for all names that are not on
the stack.

**Proof sketch.** By induction on the calls. What came before a call, on the same agenda, kept the
discipline of the context in which the agenda began (`realizes_buildOn`): the empty one for the roots,
and the one of the outer call, with the type started, for the parts of a type. -/
theorem Called.orderly (keyed : registry.Keyed) (wired : wiring.Keyed) {depth : Nat}
    {context : Context B} {reference : Reference}
    (called : Called registry wiring depth context reference) :
    context.Orderly registry ∧ registry.idle context.stack < depth := by
  induction called with
  | root declared bound deep split performed =>
    have enough : registry.idle [] < _ := Nat.lt_of_le_of_lt (List.length_filter_le _ _) deep
    have steady := (Context.orderly_empty registry).steady_of_perform keyed wired enough performed
    exact ⟨steady.orderly, steady.stack ▸ enough⟩
  | @part depth context _ reference _ _ _ _ _ called found absent placed idle split performed ih =>
    obtain ⟨orderly, enough⟩ := ih
    have new := orderly.sound.not_holds found placed absent
    have enough' : registry.idle (context.start reference.type.innermost).stack < depth :=
      Nat.lt_of_lt_of_le (Registry.idle_cons_lt found idle) (Nat.le_of_lt_succ enough)
    have steady :=
      (orderly.start found idle new).steady_of_perform keyed wired enough' performed
    exact ⟨steady.orderly, steady.stack ▸ enough'⟩

/-! ## What the calls are calls of -/

/-- **On a stack the roots are built as assembly builds them**, whether this succeeds or not. -/
theorem perform_boundRoots_on (registry : Registry) (wiring : Wiring B) {depth : Nat}
    {schema : SchemaDefinition} {query : RootBinding} (bound : schema.root? .query = some query)
    (deep : registry.nameCount < depth) :
    (perform (buildOn registry wiring depth)
        (schema.boundRoots.flatMap fun root => rootDemands registry root) Context.empty).map
          (fun result => (result.1, result.2.caches)) =
      (buildRoots registry wiring schema Caches.empty).map
        fun result => (result.1.roots.map rootLink, result.2) := by
  have follows : ∀ reference, Realizes Context.caches (fun context => context.stack = [])
      (buildOn registry wiring depth reference) (build registry wiring [] reference) :=
    realizes_cutOff _ registry.stacked_nil deep
  rw [(realizes_perform follows _).map_view rfl, perform_boundRoots registry wiring bound,
    Build.map_apply]
  rfl

/-- **The calls are those of the builder**: the agendas on which calls are reached are exactly what it
goes through, demand by demand, when it builds the roots, and when it builds the parts of a type. -/
structure CallsExact (registry : Registry) (wiring : Wiring B) : Prop where
  /-- The roots are built, or fail to be built, by going through what the operations bound demand. -/
  roots : ∀ depth schema query, schema.root? .query = some query → registry.nameCount < depth →
    (perform (buildOn registry wiring depth)
        (schema.boundRoots.flatMap fun root => rootDemands registry root) Context.empty).map
          (fun result => (result.1, result.2.caches)) =
      (buildRoots registry wiring schema Caches.empty).map
        fun result => (result.1.roots.map rootLink, result.2)
  /-- The parts of a type are built, or fail to be built, by going through what its definition demands;
  what the type refers to is what following the references returned. -/
  parts : ∀ depth type, NamedType.placed <$>
      buildNamed registry wiring (buildOn registry wiring depth) type =
    perform (buildOn registry wiring depth) (demands registry wiring type)

/-- For every registry and every wiring the calls are those of the builder. -/
theorem callsExact (registry : Registry) (wiring : Wiring B) : CallsExact registry wiring where
  roots _ _ _ bound deep := perform_boundRoots_on registry wiring bound deep
  parts _ type := placed_buildNamed registry wiring _ type

/-! ## What there is to say of a context -/

/-- **The discipline of a context**, in terms of its stack, its two caches and its log. -/
structure Context.Disciplined (registry : Registry) (context : Context B) : Prop where
  /-- Nothing is on the stack twice. -/
  stackOnce : context.stack.Nodup
  /-- Nothing on the stack is kept. -/
  apart : ∀ name ∈ context.stack,
    context.caches.output.get? name = none ∧ context.caches.input.get? name = none
  /-- Every type kept for output has the name that it is kept under, the kind that the definition of
  the name says, and a kind for output. -/
  output : ∀ name type, context.caches.output.get? name = some type → type.name = name ∧
    (registry.find? name).map TypeDefinition.kind = some type.kind ∧ type.kind.isOutput = true
  /-- Every type kept for input has the name that it is kept under, the kind that the definition of
  the name says, and a kind for input. -/
  input : ∀ name type, context.caches.input.get? name = some type → type.name = name ∧
    (registry.find? name).map TypeDefinition.kind = some type.kind ∧ type.kind.isInput = true
  /-- An enum or a scalar is the same type on both sides, or missing on both. -/
  leaves : ∀ name definition, registry.find? name = some definition →
    definition.kind = .enum ∨ definition.kind = .scalar →
      context.caches.output.get? name = context.caches.input.get? name
  /-- Whatever a placeholder names that stands in a type kept, or in one held by it at any depth, is
  on the stack or kept. -/
  awaited : ∀ place name type inner, context.caches.find? place name = some type →
    ReflTransGen NamedType.Holds type inner →
      ∀ occurrence ∈ inner.references, occurrence.isPlaceholder = true →
        occurrence.innermost ∈ context.stack ∨ context.caches.Holds occurrence.innermost
  /-- Nothing was started twice. -/
  once : context.started.Nodup
  /-- What was started is on the stack or kept, and nothing else is. -/
  accounted : ∀ name, name ∈ context.started ↔ name ∈ context.stack ∨ context.caches.Holds name

/-- What a type kept holds, at any depth, is kept. -/
theorem Caches.Sound.find?_of_holdsIn {caches : Caches B} {inProgress : List String}
    (sound : caches.Sound registry inProgress) {place : Place} {name : String}
    {type inner : GraphType B} (kept : caches.find? place name = some type)
    (path : ReflTransGen NamedType.Holds type inner) :
    ∃ place, caches.find? place inner.name = some inner := by
  induction path with
  | refl => exact ⟨place, sound.keyed _ _ _ kept ▸ kept⟩
  | tail path holds ih =>
    obtain ⟨place, kept⟩ := ih
    obtain ⟨occurrence, made, held⟩ := holds
    obtain ⟨other, placed⟩ := NamedType.exists_placed made
    exact ⟨other, (sound.linked _ _ _ kept _ placed).held _ held⟩

/-- A context in order is disciplined. -/
theorem Context.Orderly.disciplined {context : Context B} (orderly : context.Orderly registry) :
    context.Disciplined registry where
  stackOnce := orderly.stackOnce
  apart name h := by
    have absent : ∀ place, context.caches.find? place name = none := by
      intro place
      refine Option.eq_none_iff_forall_ne_some.2 fun type kept => ?_
      exact orderly.sound.finished name ⟨place, type, kept⟩ h
    exact ⟨absent .output, absent .input⟩
  output name type kept := by
    obtain ⟨definition, found, kind, admits⟩ := orderly.sound.known .output name type kept
    exact ⟨orderly.sound.keyed .output name type kept, by rw [found, Option.map_some, kind], admits⟩
  input name type kept := by
    obtain ⟨definition, found, kind, admits⟩ := orderly.sound.known .input name type kept
    exact ⟨orderly.sound.keyed .input name type kept, by rw [found, Option.map_some, kind], admits⟩
  leaves name definition found leaf := by
    obtain ⟨forInput, forOutput⟩ := definition.kind.isInput_and_isOutput_iff.2 leaf.symm
    have both : ∀ place : Place, place.admits definition.kind = true := by
      intro place
      cases place with
      | output => exact forOutput
      | input => exact forInput
    have same : ∀ place other type, context.caches.find? place name = some type →
        context.caches.find? other name = some type := by
      intro place other type kept
      obtain ⟨definition', found', kind, -⟩ := orderly.sound.known place name type kept
      obtain rfl : definition = definition' := Option.some.inj (found.symm.trans found')
      exact orderly.sound.shared place other name type kept (kind ▸ both other)
    exact Option.ext fun type => ⟨same .output .input type, same .input .output type⟩
  awaited place name type inner kept path occurrence made named := by
    obtain ⟨place, kept⟩ := orderly.sound.find?_of_holdsIn kept path
    obtain ⟨other, placed⟩ := NamedType.exists_placed made
    exact (orderly.sound.linked _ _ _ kept _ placed).awaited
      ((Occurrence.held?_eq_none_iff _).2 named)
  once := orderly.once
  accounted := orderly.accounted

/-- **Every call of the builder finds the discipline kept, and keeps it.** The calls considered are those
that the builder makes, on the agendas that it goes through. At each of them the builder on a stack does
what the builder does; and where it succeeds it leaves the stack as it was, changes nothing that was kept
before, and starts nothing a second time.

**Proof sketch.** Agendas are gone through exactly (`placed_buildNamed`, `perform_boundRoots_on`).
Everything is in order at every call (`Called.orderly`), and from there the call comes out as the builder
does (`realizes_buildOn`), which is a run and changes nothing that was kept before (`Run.sound`). -/
theorem disciplined_of_called (keyed : registry.Keyed) (wired : wiring.Keyed) {depth : Nat}
    {context : Context B} {reference : Reference}
    (called : Called registry wiring depth context reference) :
    CallsExact registry wiring ∧ context.Disciplined registry ∧
    (buildOn registry wiring depth reference context).map
        (fun result => (result.1, result.2.caches)) =
      build registry wiring context.stack reference context.caches ∧
    ∀ occurrence next,
      buildOn registry wiring depth reference context = .ok (occurrence, next) →
        next.stack = context.stack ∧
        (∀ place name type, context.caches.find? place name = some type →
          next.caches.find? place name = some type) ∧
        context.started <:+ next.started ∧ next.Disciplined registry := by
  obtain ⟨orderly, enough⟩ := called.orderly keyed wired
  have same := realizes_buildOn keyed wired enough context.started reference
  refine ⟨callsExact registry wiring, orderly.disciplined, same.map_view orderly.steady,
    fun occurrence next ok => ?_⟩
  obtain ⟨plain, steady⟩ := same.of_ok orderly.steady ok
  obtain ⟨-, within, -⟩ := (run_of_build plain).sound keyed wired orderly.sound
  exact ⟨steady.stack, within, steady.since, steady.orderly.disciplined⟩

/-- An agenda that begins with some demands and a reference goes on after the reference. -/
theorem exists_split_of_take (agenda before : List Demand) (reference : Reference)
    (h : agenda.take (before.length + 1) = before ++ [.follow reference]) :
    ∃ after, agenda = before ++ .follow reference :: after := by
  refine ⟨agenda.drop (before.length + 1), ?_⟩
  conv_lhs => rw [← List.take_append_drop (before.length + 1) agenda, h]
  simp

/-- The reference to the query root of the circle. -/
def circleToQuery : Reference := ⟨.ofName "Query", .output, "Query", ⟨1, 10⟩⟩

/-- The first reference that the query root of the circle makes. -/
def circleToKey : Reference := ⟨.named "Key" true, .input, "Query", ⟨2, 19⟩⟩

/-- The first reference that the key of the circle makes. -/
def circleToId : Reference := ⟨.ofName "ID", .input, "Key", ⟨4, 13⟩⟩

/-- The second reference that the key of the circle makes, to itself. -/
def circleKeyToKey : Reference := ⟨.listOf (.ofName "Key"), .input, "Key", ⟨4, 20⟩⟩

/-- In the circle the builder is called for the reference that the key makes to itself, while both
the key and the query root are in progress and the type of the key's other field is kept. -/
theorem called_circle : ∃ context, Called circle plainWiring 10 context circleKeyToKey ∧
    context.stack = ["Key", "Query"] ∧ context.started = ["ID", "Key", "Query"] ∧
    context.caches.output.names = ["ID"] ∧ context.caches.input.names = ["ID"] := by
  obtain ⟨_, split⟩ := exists_split_of_take
    (circleSchema.boundRoots.flatMap fun root => rootDemands circle root) [.check none]
    circleToQuery (by decide +kernel)
  have root : Called circle plainWiring 12 Context.empty circleToQuery :=
    .root rfl rfl (by decide +kernel) split rfl
  have query : (circle.find? "Query").map (fun type =>
      (type.kind, (demands circle plainWiring type).take 2)) =
        some (.object, [.check none, .follow circleToKey]) := by decide +kernel
  obtain ⟨type, found, view⟩ := Option.map_eq_some_iff.1 query
  obtain ⟨kind, first⟩ := Prod.mk.inj view
  obtain ⟨_, split⟩ := exists_split_of_take _ [.check none] circleToKey first
  have outer : Called circle plainWiring 11 (Context.empty.start "Query") circleToKey :=
    root.part found rfl (by rw [kind]; rfl) (by decide) split rfl
  have key : (circle.find? "Key").map (fun type =>
      (type.kind, (demands circle plainWiring type).take 2)) =
        some (.inputObject, [.follow circleToId, .follow circleKeyToKey]) := by decide +kernel
  obtain ⟨type, found, view⟩ := Option.map_eq_some_iff.1 key
  obtain ⟨kind, first⟩ := Prod.mk.inj view
  obtain ⟨_, split⟩ := exists_split_of_take _ [.follow circleToId] circleKeyToKey first
  have built : (perform (buildOn circle plainWiring 10) [.follow circleToId]
      ((Context.empty.start "Query").start "Key")).toOption.map (fun result =>
        (result.2.stack, result.2.started, result.2.caches.output.names,
          result.2.caches.input.names)) =
      some (["Key", "Query"], ["ID", "Key", "Query"], ["ID"], ["ID"]) := by
    decide +kernel
  obtain ⟨⟨links, context⟩, performed, view⟩ := exists_eq_ok_of_view built
  obtain ⟨stack, started, output, input⟩ := by simpa using view
  exact ⟨context, outer.part found rfl (by rw [kind]; rfl) (by decide) split performed, stack,
    started, output, input⟩

/-- The discipline is kept at that call, where two names are on the stack and one is kept. -/
theorem disciplined_of_called_circle :
    circle.Keyed ∧ plainWiring.Keyed ∧ ∃ context,
      Called circle plainWiring 10 context circleKeyToKey ∧
      context.stack = ["Key", "Query"] ∧ context.started = ["ID", "Key", "Query"] ∧
      context.caches.output.names = ["ID"] ∧ context.caches.input.names = ["ID"] ∧
      context.Disciplined circle := by
  obtain ⟨context, called, stack, started, output, input⟩ := called_circle
  obtain ⟨-, disciplined, -, -⟩ := disciplined_of_called keyed_circle keyed_plainWiring called
  exact ⟨keyed_circle, keyed_plainWiring, context, called, stack, started, output, input,
    disciplined⟩

end SchemaAssembly
