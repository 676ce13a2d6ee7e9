import Mathlib.Data.Finset.Card
import Mathlib.Logic.Function.Iterate
import SchemaAssembly.Proofs.Discipline

/-!
# Building on a stack

The builder is given the types in progress, and it calls itself with one more of them. A builder may
as well have them in its state, on a stack on which a name is put when its type is started and from
which it is taken when the type is finished. Such a builder is defined here, with a log of all that
was ever started, and it is shown to be the same builder: whatever the stack, it comes out as the
builder does that is given the names on the stack.

The recursion of a builder on a stack has no argument that gets smaller, since a call may leave any
stack behind as far as its definition goes. It is cut off at some depth instead: by an error, or by
anything else that may be done there. Depth never runs out if there is more of it than there are names
that can be started.

## Main definitions

* `SchemaAssembly.Context` — a stack, caches and a log.
* `SchemaAssembly.buildStep` — one call of the builder on a stack, given how the calls that it makes
  come out.
* `SchemaAssembly.Registry.nameCount` — the number of distinct names known.
* `SchemaAssembly.Registry.Stacked` — a stack of known names, none of which is there twice.
* `SchemaAssembly.cutOff` — the builder on a stack, cut off at some depth.
* `SchemaAssembly.buildOn` — the same, cut off by an error.
* `SchemaAssembly.Context.Orderly` — the discipline of the stack, the caches and the log.
* `SchemaAssembly.Context.Steady` — the same, with a given stack and at least a given log.

## Main results

* `SchemaAssembly.alike_buildStep` — one call comes out as a call of the builder does, if its parts do.
* `SchemaAssembly.realizes_cutOff` — with enough depth, the builder that is cut off is the builder.
* `SchemaAssembly.Context.Orderly.start`, `Context.Orderly.finish` — starting on a type and finishing
  it keep the discipline.
* `SchemaAssembly.realizes_buildOn` — the builder on a stack is the builder, keeps the discipline, and
  leaves the stack as it was.
* `SchemaAssembly.Context.Orderly.steady_of_perform` — so does going through demands with it.
-/

set_option relaxedAutoImplicit false
set_option autoImplicit false

namespace SchemaAssembly

variable {B : Behaviours} {registry : Registry} {wiring : Wiring B}

/-! ## Contexts -/

/-- The state of a builder on a stack. -/
structure Context (B : Behaviours) where
  /-- The names of the types in progress, the one started last first. -/
  stack : List String
  /-- The types built so far. -/
  caches : Caches B
  /-- The names of all types ever started, the one started last first. -/
  started : List String

namespace Context

/-- Nothing was started. -/
def empty : Context B := ⟨[], .empty, []⟩

/-- Starts on a type. -/
def start (context : Context B) (name : String) : Context B where
  stack := name :: context.stack
  caches := context.caches
  started := name :: context.started

/-- Keeps a finished type, which is the one started last. -/
def finish (context : Context B) (built : GraphType B) : Context B where
  stack := context.stack.tail
  caches := context.caches.keep built
  started := context.started

/-- Finishing a type keeps it. -/
@[simp] theorem finish_caches (context : Context B) (built : GraphType B) :
    (context.finish built).caches = context.caches.keep built := rfl

/-- Finishing a type starts nothing. -/
@[simp] theorem finish_started (context : Context B) (built : GraphType B) :
    (context.finish built).started = context.started := rfl

end Context

/-! ## One call -/

/-- **One call of the builder on a stack**, given how the calls that it makes come out: what a reference
refers to is built as `build` does it, while the types on the stack are being built. A type that has to
be built is started before its parts are built, and finished afterwards. -/
def buildStep (registry : Registry) (wiring : Wiring B)
    (again : Reference → Build (Context B) (Occurrence B)) (reference : Reference) :
    Build (Context B) (Occurrence B) := fun context =>
  let name := reference.type.innermost
  match registry.find? name with
  | none => .error reference.unknown
  | some type =>
    match context.caches.find? reference.place name with
    | some built => .ok ((Occurrence.concrete built).wrap reference.type.wrappers, context)
    | none =>
      if !reference.place.admits type.kind then .error (reference.place.mismatch type)
      else if name ∈ context.stack then
        .ok ((Occurrence.placeholder name).wrap reference.type.wrappers, context)
      else do
        let (built, context) ← buildNamed registry wiring again type (context.start name)
        return ((Occurrence.concrete built).wrap reference.type.wrappers, context.finish built)

/-- **One call on a stack comes out as the builder does** that is given the names on the stack, if the
parts of a type that is started do. That the type can be finished may rest on how it was built.

**Proof sketch.** By the ways in which a reference is built, which are the same on both sides. -/
theorem alike_buildStep {again : Reference → Build (Context B) (Occurrence B)}
    {sort : Context B → Prop} {context : Context B} {reference : Reference} (held : sort context)
    (parts : ∀ type, registry.find? reference.type.innermost = some type →
      context.caches.find? reference.place reference.type.innermost = none →
      reference.place.admits type.kind = true → reference.type.innermost ∉ context.stack →
      ∃ below : Context B → Prop,
        Alike Context.caches below
          (buildNamed registry wiring again type (context.start reference.type.innermost))
          (buildNamed registry wiring
            (build registry wiring (reference.type.innermost :: context.stack)) type
            context.caches) ∧
        ∀ built between, below between →
          buildNamed registry wiring
            (build registry wiring (reference.type.innermost :: context.stack)) type
            context.caches = .ok (built, between.caches) →
          sort (between.finish built)) :
    Alike Context.caches sort (buildStep registry wiring again reference context)
      (build registry wiring context.stack reference context.caches) := by
  cases found : registry.find? reference.type.innermost with
  | none =>
    rw [build_unknown found]
    simp only [buildStep, found]
    exact .error _
  | some type =>
  cases absent : context.caches.find? reference.place reference.type.innermost with
  | some built =>
    rw [build_kept found absent]
    simp only [buildStep, found, absent]
    exact .ok _ held
  | none =>
  cases placed : reference.place.admits type.kind with
  | false =>
    rw [build_misplaced found absent placed]
    simp only [buildStep, found, absent, placed, Bool.not_false, if_true]
    exact .error _
  | true =>
  by_cases begun : reference.type.innermost ∈ context.stack
  · rw [build_begun found absent placed begun]
    simp only [buildStep, found, absent, placed, begun, Bool.not_true, Bool.false_eq_true, if_false,
      if_true]
    exact .ok _ held
  · obtain ⟨below, alike, finished⟩ := parts type found absent placed begun
    rw [build_idle found absent placed begun]
    simp only [buildStep, found, absent, placed, begun, Bool.not_true, Bool.false_eq_true, if_false]
    generalize buildNamed registry wiring again type _ = outcome at alike ⊢
    generalize buildNamed registry wiring (build registry wiring _) type _ = outcome'
      at alike finished ⊢
    cases alike with
    | error fault => exact .error fault
    | ok built h => exact .ok _ (finished built _ h rfl)

/-! ## Names on a stack -/

namespace Registry

/-- **The number of distinct names known**: those of standard scalars, of declared types and of
declared scalars. -/
def nameCount (registry : Registry) : Nat := registry.knownNames.toFinset.card

/-- A stack of known names, none of which is there twice. -/
structure Stacked (registry : Registry) (stack : List String) : Prop where
  /-- Every name is known. -/
  known : ∀ name ∈ stack, name ∈ registry.knownNames
  /-- No name is there twice. -/
  once : stack.Nodup

/-- The empty stack has no names. -/
theorem stacked_nil (registry : Registry) : registry.Stacked [] := ⟨nofun, .nil⟩

variable {stack : List String}

/-- A name that is found and not on the stack may be put there. -/
theorem Stacked.push (stacked : registry.Stacked stack) {name : String} {type : TypeDefinition}
    (found : registry.find? name = some type) (idle : name ∉ stack) :
    registry.Stacked (name :: stack) where
  known := List.forall_mem_cons.2 ⟨mem_knownNames_of_find? found, stacked.known⟩
  once := List.nodup_cons.2 ⟨idle, stacked.once⟩

/-- There are no more names on a stack than there are distinct names known. -/
theorem Stacked.length_le (stacked : registry.Stacked stack) :
    stack.length ≤ registry.nameCount := by
  rw [← List.toFinset_card_of_nodup stacked.once]
  refine Finset.card_le_card fun name h => ?_
  exact List.mem_toFinset.2 (stacked.known name (List.mem_toFinset.1 h))

end Registry

/-! ## A builder that is cut off -/

/-- **The builder, cut off at some depth**: calls are nested no deeper than that, and what would be
done `beyond` is done instead. -/
def cutOff (registry : Registry) (wiring : Wiring B)
    (beyond : Reference → Build (Context B) (Occurrence B)) (depth : Nat) :
    Reference → Build (Context B) (Occurrence B) :=
  (buildStep registry wiring)^[depth] beyond

/-- With one more level of depth there is one more call. -/
theorem cutOff_succ (beyond : Reference → Build (Context B) (Occurrence B)) (depth : Nat) :
    cutOff registry wiring beyond (depth + 1) =
      buildStep registry wiring (cutOff registry wiring beyond depth) :=
  Function.iterate_succ_apply' _ _ _

/-- **The builder on a stack**, cut off by an error. No more than `depth` calls are nested. -/
def buildOn (registry : Registry) (wiring : Wiring B) (depth : Nat) :
    Reference → Build (Context B) (Occurrence B) :=
  cutOff registry wiring (fun reference => throw reference.unknown) depth

/-- **With enough depth, the builder that is cut off is the builder**, and leaves the stack as it was.
Enough is what exceeds the number of names known, where the names on the stack count as used up.

**Proof sketch.** By induction on the depth. A call with no depth left would need as many names on the
stack as are known, and more. A call that starts a type puts one more name on the stack, so that the
calls that it makes have enough depth too. -/
theorem realizes_cutOff (beyond : Reference → Build (Context B) (Occurrence B)) {depth : Nat}
    {stack : List String} (stacked : registry.Stacked stack)
    (enough : registry.nameCount < depth + stack.length) (reference : Reference) :
    Realizes Context.caches (fun context => context.stack = stack)
      (cutOff registry wiring beyond depth reference) (build registry wiring stack reference) := by
  induction depth generalizing stack reference with
  | zero =>
    have := stacked.length_le
    omega
  | succ depth ih =>
  rintro context rfl
  rw [cutOff_succ]
  refine alike_buildStep rfl fun type found _ _ idle => ?_
  -- The type is started: there is one more name on the stack, and one level less of depth.
  have deep : registry.nameCount <
      depth + (reference.type.innermost :: context.stack).length := by
    rw [List.length_cons]
    omega
  refine ⟨_, realizes_buildNamed (ih (stacked.push found idle) deep) type _ rfl,
    fun built between below _ => ?_⟩
  exact congrArg List.tail below

/-! ## The discipline of a context -/

/-- **The discipline of a context**: that of the caches while what is on the stack is in progress,
and of the log, which has everything that is or was in progress once. -/
structure Context.Orderly (registry : Registry) (context : Context B) : Prop where
  /-- The caches keep the discipline while the types on the stack are in progress. -/
  sound : context.caches.Sound registry context.stack
  /-- What is on the stack is known. -/
  known : ∀ name ∈ context.stack, ∃ type, registry.find? name = some type
  /-- Nothing was started twice. -/
  once : context.started.Nodup
  /-- What was started is in progress or kept, and nothing else is. -/
  accounted : ∀ name, name ∈ context.started ↔ name ∈ context.stack ∨ context.caches.Holds name
  /-- Nothing is on the stack twice. -/
  stackOnce : context.stack.Nodup

namespace Context

variable {context : Context B} {name : String}

/-- Where nothing was started, everything is in order. -/
theorem orderly_empty (registry : Registry) : (empty : Context B).Orderly registry where
  sound := Caches.sound_empty registry []
  known := by simp [empty]
  once := .nil
  accounted name := by simp [empty, Caches.Holds]
  stackOnce := .nil

/-- Starting on a type that is neither in progress nor kept leaves everything in order. -/
theorem Orderly.start (orderly : context.Orderly registry) {type : TypeDefinition}
    (found : registry.find? name = some type) (idle : name ∉ context.stack)
    (new : ¬ context.caches.Holds name) : (context.start name).Orderly registry where
  sound := orderly.sound.begin new
  known other h := by
    rcases List.mem_cons.1 h with rfl | h
    · exact ⟨type, found⟩
    · exact orderly.known other h
  once := by
    refine List.nodup_cons.2 ⟨fun h => ?_, orderly.once⟩
    exact ((orderly.accounted name).1 h).elim idle new
  accounted other := by
    simp only [Context.start, List.mem_cons, orderly.accounted other, or_assoc]
  stackOnce := List.nodup_cons.2 ⟨idle, orderly.stackOnce⟩

/-- Finishing the type started last leaves everything in order, if its caches do. -/
theorem Orderly.finish (orderly : context.Orderly registry) {rest : List String}
    (top : context.stack = name :: rest) {built : GraphType B} (own : built.name = name)
    (sound : (context.caches.keep built).Sound registry rest) :
    (context.finish built).Orderly registry := by
  have below : (context.finish built).stack = rest := congrArg List.tail top
  refine ⟨below ▸ sound, fun other h => ?_, orderly.once, fun other => ?_, ?_⟩
  · rw [below] at h
    exact orderly.known other (top ▸ .tail _ h)
  · rw [below, finish_started, finish_caches, orderly.accounted, top, Caches.holds_keep_iff, own,
      List.mem_cons, or_assoc, or_left_comm]
  · rw [below]
    exact (List.nodup_cons.1 (top ▸ orderly.stackOnce)).2

/-- A context in order, with a given stack, in which everything was started that was started at some
time before. -/
structure Steady (registry : Registry) (stack before : List String) (context : Context B) :
    Prop where
  /-- Everything is in order. -/
  orderly : context.Orderly registry
  /-- The stack is the given one. -/
  stack : context.stack = stack
  /-- The log goes on from what was started before. -/
  since : before <:+ context.started

/-- A context in order has the stack and the log that it has. -/
theorem Orderly.steady (orderly : context.Orderly registry) :
    context.Steady registry context.stack context.started :=
  ⟨orderly, rfl, List.suffix_refl _⟩

end Context

/-! ## The same builder -/

/-- Going through demands comes out alike if references are followed alike. -/
theorem realizes_perform {σ ρ τ : Type} {view : σ → ρ} {sort : σ → Prop}
    {visit : Reference → Build σ τ} {plain : Reference → Build ρ τ}
    (follows : ∀ reference, Realizes view sort (visit reference) (plain reference))
    (agenda : List Demand) :
    Realizes view sort (perform visit agenda) (perform plain agenda) := by
  induction agenda with
  | nil => exact realizes_pure []
  | cons demand rest ih =>
    match demand with
    | .check none => exact ih
    | .check (some fault) => exact realizes_throw fault
    | .follow reference =>
      exact (follows reference).bind fun first => ih.bind fun others => realizes_pure _

/-- **The builder on a stack is the builder.** With enough depth it comes out as the builder does
that is given the names on the stack. If it succeeds the stack is as it was, and everything is in
order if it was before.

**Proof sketch.** By induction on the depth, one call at a time (`alike_buildStep`). A type that has to
be built is started, so that the stack names what is in progress then, and finished, so that it names
what was in progress before. That the caches are in order at the end is what is known of runs of the
builder (`Run.sound`). -/
theorem realizes_buildOn (keyed : registry.Keyed) (wired : wiring.Keyed) {depth : Nat}
    {stack : List String} (enough : registry.idle stack < depth) (before : List String)
    (reference : Reference) :
    Realizes Context.caches (Context.Steady registry stack before)
      (buildOn registry wiring depth reference) (build registry wiring stack reference) := by
  induction depth generalizing stack before reference with
  | zero => cases enough
  | succ depth ih =>
  rintro context ⟨orderly, rfl, since⟩
  rw [buildOn, cutOff_succ]
  refine alike_buildStep ⟨orderly, rfl, since⟩ fun type found absent placed idle => ?_
  -- The type is built now: start, build its parts, finish.
  have new := orderly.sound.not_holds found placed absent
  have fewer := Registry.idle_cons_lt found idle
  have follows := ih (Nat.lt_of_lt_of_le fewer (Nat.le_of_lt_succ enough))
    (reference.type.innermost :: context.started)
  refine ⟨_, realizes_buildNamed follows type _ (orderly.start found idle new).steady,
    fun built between steady made => ?_⟩
  obtain ⟨-, -, -, own, sound⟩ := orderly.sound.built keyed wired found absent placed idle made
    (run_of_buildNamed made)
  refine ⟨steady.orderly.finish steady.stack own sound, ?_, ?_⟩
  · exact congrArg List.tail steady.stack
  · exact since.trans ((List.suffix_cons _ _).trans steady.since)

/-- Going through demands with enough depth leaves everything in order, and the stack as it was. -/
theorem Context.Orderly.steady_of_perform (keyed : registry.Keyed) (wired : wiring.Keyed)
    {depth : Nat} {context next : Context B} {agenda : List Demand}
    {links : List (Place × Occurrence B)} (orderly : context.Orderly registry)
    (enough : registry.idle context.stack < depth)
    (performed : perform (buildOn registry wiring depth) agenda context = .ok (links, next)) :
    next.Steady registry context.stack context.started := by
  have follows := realizes_buildOn keyed wired enough context.started
  exact ((realizes_perform follows agenda).of_ok orderly.steady performed).2

end SchemaAssembly
