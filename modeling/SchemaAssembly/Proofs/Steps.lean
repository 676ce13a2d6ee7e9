import Mathlib.Data.List.Forall2
import SchemaAssembly.Assembly.Build

/-!
# Steps of building

A step of building reads and changes a state, and may stop at an error. What a composite step does is
read off here from what its parts do: that it keeps the states of some sort, what holds of its
result if it succeeds, and that it comes out like another step, be it one with another kind of result
on another kind of state.

## Main definitions

* `SchemaAssembly.Yields` — what holds of the result of a step, from states of some sort that the
  step keeps.
* `SchemaAssembly.Ensures` — what holds of the result of a step, whatever the state.
* `SchemaAssembly.InTandem` — two steps come out in ways that correspond, from states that do.
* `SchemaAssembly.Realizes` — a step comes out like another, on what is in view of its states.

## Main results

* `SchemaAssembly.Build.map_apply` — changing a result changes nothing about the state.
* `SchemaAssembly.Yields.bind`, `Yields.mapM` — what two steps and what a traversal yield.
* `SchemaAssembly.InTandem.bind`, `InTandem.mapM` — they go in tandem if their parts do.
* `SchemaAssembly.Realizes.bind`, `Realizes.mapM` — what they realize.
-/

set_option relaxedAutoImplicit false
set_option autoImplicit false

namespace SchemaAssembly

variable {σ α β : Type}

/-! ## One step after another -/

namespace Build

variable {step : Build σ α} {state state' : σ}

/-- Where the first of two steps fails, both of them fail. -/
theorem bind_of_error {fault : SchemaError} (failed : step state = .error fault)
    (next : α → Build σ β) : (step >>= next) state = .error fault := by
  simp only [bind, StateT.bind, failed, Except.bind]

/-- Where the first of two steps succeeds, the second goes on from there. -/
theorem bind_of_ok {a : α} (ok : step state = .ok (a, state')) (next : α → Build σ β) :
    (step >>= next) state = next a state' := by
  simp only [bind, StateT.bind, ok, Except.bind]

/-- Changing what a step returns changes its outcome, and nothing about the state. -/
theorem map_apply (change : α → β) (step : Build σ α) (state : σ) :
    (change <$> step) state = (step state).map fun result => (change result.1, result.2) := by
  rw [map_eq_pure_bind]
  cases h : step state with
  | error fault => rw [bind_of_error h, Except.map]
  | ok result => rw [bind_of_ok h, Except.map]; rfl

end Build

/-! ## What a step yields -/

/-- From a state of some sort, a step that succeeds returns something with the property and leaves a
state of that sort. -/
def Yields (sort : σ → Prop) (step : Build σ α) (property : α → Prop) : Prop :=
  ∀ state result next, sort state → step state = .ok (result, next) →
    property result ∧ sort next

section Yields

variable {sort : σ → Prop} {property : α → Prop} {property' : β → Prop}

/-- Returning something yields what holds of it. -/
theorem yields_pure {a : α} (h : property a) : Yields sort (pure a : Build σ α) property := by
  intro state result next hs ok
  cases ok
  exact ⟨h, hs⟩

/-- Two steps yield what the second does, given what the first does. -/
theorem Yields.bind {first : Build σ α} {second : α → Build σ β}
    (h : Yields sort first property)
    (h' : ∀ a, property a → Yields sort (second a) property') :
    Yields sort (first >>= second) property' := by
  intro state result next hs ok
  cases h₁ : first state with
  | error fault =>
    rw [Build.bind_of_error h₁] at ok
    cases ok
  | ok between =>
    obtain ⟨a, between⟩ := between
    rw [Build.bind_of_ok h₁] at ok
    obtain ⟨ha, hb⟩ := h state a between hs h₁
    exact h' a ha between result next hb ok

/-- Lifting an outcome yields what holds of it, and leaves the state alone. -/
theorem yields_liftM {outcome : Except SchemaError α} (h : ∀ a, outcome = .ok a → property a) :
    Yields sort (liftM outcome : Build σ α) property := by
  intro state result next hs ok
  cases outcome with
  | error fault => cases ok
  | ok a =>
    cases ok
    exact ⟨h _ rfl, hs⟩

/-- A step that yields something yields whatever follows from it. -/
theorem Yields.mono {step : Build σ α} {weaker : α → Prop} (h : Yields sort step property)
    (imp : ∀ a, property a → weaker a) : Yields sort step weaker := by
  intro state result next hs ok
  exact (h state result next hs ok).imp_left (imp result)

/-- A traversal yields, for each of its items, what the step for that item yields. -/
theorem Yields.mapM {step : α → Build σ β} {related : β → α → Prop} (items : List α)
    (h : ∀ item, Yields sort (step item) (related · item)) :
    Yields sort (items.mapM step) fun results => List.Forall₂ related results items := by
  induction items with
  | nil =>
    rw [List.mapM_nil]
    exact yields_pure .nil
  | cons item rest ih =>
    rw [List.mapM_cons]
    refine (h item).bind fun first hf => ?_
    refine ih.bind fun others ho => ?_
    exact yields_pure (.cons hf ho)

end Yields

/-! ## What a step ensures -/

/-- Whatever the state, a step that succeeds returns something with the property. -/
def Ensures (step : Build σ α) (property : α → Prop) : Prop :=
  ∀ state result next, step state = .ok (result, next) → property result

/-- To ensure something is to yield it from every state. -/
theorem ensures_iff_yields {step : Build σ α} {property : α → Prop} :
    Ensures step property ↔ Yields (fun _ => True) step property := by
  constructor
  · intro h state result next _ ok
    exact ⟨h state result next ok, trivial⟩
  · intro h state result next ok
    exact (h state result next trivial ok).1

/-- Returning something ensures what holds of it. -/
theorem ensures_pure {a : α} {property : α → Prop} (h : property a) :
    Ensures (pure a : Build σ α) property :=
  ensures_iff_yields.2 (yields_pure h)

/-- Two steps ensure what the second does, given what the first does. -/
theorem Ensures.bind {first : Build σ α} {second : α → Build σ β}
    {property : α → Prop} {property' : β → Prop} (h : Ensures first property)
    (h' : ∀ a, property a → Ensures (second a) property') :
    Ensures (first >>= second) property' :=
  ensures_iff_yields.2 ((ensures_iff_yields.1 h).bind fun a ha => ensures_iff_yields.1 (h' a ha))

/-- Every step ensures nothing in particular. -/
theorem ensures_true (step : Build σ α) : Ensures step fun _ => True :=
  fun _ _ _ _ => trivial

/-! ## Steps in tandem -/

/-- **Two outcomes correspond**: both are faults that correspond, or both have results that do. -/
inductive Corresponds {ε α β : Type} (faults : ε → ε → Prop) (results : α → β → Prop) :
    Except ε α → Except ε β → Prop
  /-- Both are faults. -/
  | error {fault fault' : ε} (h : faults fault fault') :
    Corresponds faults results (.error fault) (.error fault')
  /-- Both have results. -/
  | ok {a : α} {b : β} (h : results a b) : Corresponds faults results (.ok a) (.ok b)

/-- **Two steps go in tandem**: from states that correspond they come out in ways that correspond,
with states then that correspond again. -/
def InTandem {ρ : Type} (faults : SchemaError → SchemaError → Prop) (states : σ → ρ → Prop)
    (results : α → β → Prop) (step : Build σ α) (step' : Build ρ β) : Prop :=
  ∀ state state', states state state' →
    Corresponds faults (fun result result' => results result.1 result'.1 ∧ states result.2 result'.2)
      (step state) (step' state')

section InTandem

variable {ρ γ δ : Type} {faults : SchemaError → SchemaError → Prop} {states : σ → ρ → Prop}
  {results : α → β → Prop} {results' : γ → δ → Prop}

/-- Returning what corresponds goes in tandem. -/
theorem inTandem_pure {a : α} {b : β} (h : results a b) :
    InTandem faults states results (pure a) (pure b) :=
  fun _ _ hs => .ok ⟨h, hs⟩

/-- Stopping at corresponding faults goes in tandem. -/
theorem inTandem_throw {fault fault' : SchemaError} (h : faults fault fault') :
    InTandem faults states results (throw fault) (throw fault') :=
  fun _ _ _ => .error h

/-- Lifting corresponding outcomes goes in tandem. -/
theorem inTandem_liftM {outcome : Except SchemaError α} {outcome' : Except SchemaError β}
    (h : Corresponds faults results outcome outcome') :
    InTandem faults states results (liftM outcome) (liftM outcome') := by
  intro state state' hs
  cases h with
  | error related => exact .error related
  | ok related => exact .ok ⟨related, hs⟩

/-- Two steps one after the other go in tandem if each of them does. -/
theorem InTandem.bind {first : Build σ α} {first' : Build ρ β} {second : α → Build σ γ}
    {second' : β → Build ρ δ} (h : InTandem faults states results first first')
    (h' : ∀ a b, results a b → InTandem faults states results' (second a) (second' b)) :
    InTandem faults states results' (first >>= second) (first' >>= second') := by
  intro state state' hs
  have outcome := h state state' hs
  generalize h₁ : first state = left at outcome
  generalize h₂ : first' state' = right at outcome
  cases outcome with
  | error related =>
    rw [Build.bind_of_error h₁, Build.bind_of_error h₂]
    exact .error related
  | ok related =>
    rw [Build.bind_of_ok h₁, Build.bind_of_ok h₂]
    exact h' _ _ related.1 _ _ related.2

/-- Traversals go in tandem if the steps for corresponding items do. -/
theorem InTandem.mapM {step : α → Build σ γ} {step' : β → Build ρ δ} {items : List α}
    {items' : List β}
    (h : List.Forall₂ (fun item item' => InTandem faults states results' (step item) (step' item'))
      items items') :
    InTandem faults states (List.Forall₂ results') (items.mapM step) (items'.mapM step') := by
  induction h with
  | nil =>
    rw [List.mapM_nil, List.mapM_nil]
    exact inTandem_pure .nil
  | cons head tail ih =>
    rw [List.mapM_cons, List.mapM_cons]
    refine head.bind fun first first' hf => ?_
    refine ih.bind fun others others' ho => ?_
    exact inTandem_pure (.cons hf ho)

/-- Traversals of the same items go in tandem if the steps for each of them do. -/
theorem InTandem.mapM_same {step : α → Build σ γ} {step' : α → Build ρ δ} {items : List α}
    (h : ∀ item ∈ items, InTandem faults states results' (step item) (step' item)) :
    InTandem faults states (List.Forall₂ results') (items.mapM step) (items.mapM step') :=
  .mapM (List.forall₂_same.2 h)

/-- Traversals of the same items with the same results go in tandem, if the steps do. -/
theorem InTandem.mapM_eq {step : α → Build σ γ} {step' : β → Build ρ γ} {items : List α}
    {items' : List β}
    (h : List.Forall₂ (fun item item' => InTandem faults states Eq (step item) (step' item'))
      items items') : InTandem faults states Eq (items.mapM step) (items'.mapM step') := by
  have each := InTandem.mapM h
  rwa [List.forall₂_eq_eq_eq] at each

end InTandem

/-! ## Steps that come out alike -/

/-- Two outcomes are alike: the same error, or the same result, with a state of some sort on one side
and what is in view of it on the other. -/
inductive Alike {ρ : Type} (view : σ → ρ) (sort : σ → Prop) :
    Except SchemaError (α × σ) → Except SchemaError (α × ρ) → Prop
  /-- The same error. -/
  | error (fault : SchemaError) : Alike view sort (.error fault) (.error fault)
  /-- The same result. -/
  | ok (a : α) {state : σ} (h : sort state) : Alike view sort (.ok (a, state)) (.ok (a, view state))

/-- **A step realizes another** on what is in view of its states: from every state of some sort it
comes out like the other, and leaves a state of that sort. -/
def Realizes {ρ : Type} (view : σ → ρ) (sort : σ → Prop) (step : Build σ α) (plain : Build ρ α) :
    Prop :=
  ∀ state, sort state → Alike view sort (step state) (plain (view state))

section Realizes

variable {ρ : Type} {view : σ → ρ} {sort : σ → Prop}

/-- Returning something realizes returning it. -/
theorem realizes_pure (a : α) : Realizes view sort (pure a) (pure a) :=
  fun _ hs => .ok a hs

/-- Stopping at an error realizes stopping there. -/
theorem realizes_throw (fault : SchemaError) :
    Realizes view sort (throw fault : Build σ α) (throw fault) :=
  fun _ _ => .error fault

/-- To realize a step is to go in tandem with it, in states that it is on view of. -/
theorem realizes_iff_inTandem {step : Build σ α} {plain : Build ρ α} :
    Realizes view sort step plain ↔
      InTandem Eq (fun state seen => sort state ∧ view state = seen) Eq step plain := by
  constructor
  · rintro h state - ⟨hs, rfl⟩
    have alike := h state hs
    generalize step state = outcome at alike ⊢
    generalize plain (view state) = outcome' at alike ⊢
    cases alike with
    | error fault => exact .error rfl
    | ok a hn => exact .ok ⟨rfl, hn, rfl⟩
  · intro h state hs
    have outcome := h state (view state) ⟨hs, rfl⟩
    generalize step state = left at outcome ⊢
    generalize plain (view state) = right at outcome ⊢
    cases outcome with
    | @error fault _ same => exact same ▸ .error fault
    | @ok result result' related =>
      obtain ⟨a, next⟩ := result
      obtain ⟨a', seen⟩ := result'
      obtain ⟨rfl, hn, rfl⟩ : a = a' ∧ sort next ∧ view next = seen := related
      exact .ok a hn

/-- Two steps realize what they realize one after the other. -/
theorem Realizes.bind {first : Build σ α} {plain : Build ρ α} {second : α → Build σ β}
    {plain' : α → Build ρ β} (h : Realizes view sort first plain)
    (h' : ∀ a, Realizes view sort (second a) (plain' a)) :
    Realizes view sort (first >>= second) (plain >>= plain') := by
  rw [realizes_iff_inTandem] at h ⊢
  refine h.bind fun a b same => ?_
  subst same
  exact realizes_iff_inTandem.1 (h' a)

/-- Lifting an outcome realizes lifting it. -/
theorem realizes_liftM (outcome : Except SchemaError α) :
    Realizes view sort (liftM outcome : Build σ α) (liftM outcome) := by
  cases outcome with
  | error fault => exact fun _ _ => .error fault
  | ok a => exact fun _ hs => .ok a hs

/-- A traversal realizes, for each of its items, what the step for that item realizes. -/
theorem Realizes.mapM {step : α → Build σ β} {plain : α → Build ρ β} (items : List α)
    (h : ∀ item, Realizes view sort (step item) (plain item)) :
    Realizes view sort (items.mapM step) (items.mapM plain) := by
  rw [realizes_iff_inTandem]
  exact .mapM_eq (List.forall₂_same.2 fun item _ => realizes_iff_inTandem.1 (h item))

variable {step : Build σ α} {plain : Build ρ α} {state : σ}

/-- As far as results and what is in view go, a step that realizes another is that other. -/
theorem Realizes.map_view (h : Realizes view sort step plain) (hs : sort state) :
    (step state).map (fun result => (result.1, view result.2)) = plain (view state) := by
  have alike := h state hs
  generalize step state = outcome at alike ⊢
  generalize plain (view state) = outcome' at alike ⊢
  cases alike <;> rfl

/-- Where a step that realizes another succeeds, so does the other, with what is in view. -/
theorem Realizes.of_ok {a : α} {next : σ} (h : Realizes view sort step plain) (hs : sort state)
    (ok : step state = .ok (a, next)) : plain (view state) = .ok (a, view next) ∧ sort next := by
  have alike := h state hs
  rw [ok] at alike
  generalize plain (view state) = outcome at alike ⊢
  cases alike with
  | ok _ hn => exact ⟨rfl, hn⟩

end Realizes

end SchemaAssembly
