import Mathlib.Data.List.Basic

/-!
# Reports of the first breach

A reader goes through a tree in depth-first order and stops at the first thing that is wrong. What can
be wrong, and where, is said as a relation between paths and errors, without any order; that the reader
is right is then one statement, that it succeeds if nothing is wrong anywhere, and else reports what is
wrong at the first path. Paths are ordered step by step, items of lists by their places and entries of
objects by their names. The statement goes through traversals of any depth by one rule.

## Main definitions

* `SchemaAssembly.PathStep`, `SchemaAssembly.Precedes` — paths into a tree, and their order.
* `SchemaAssembly.First` — what is wrong at the first path.
* `SchemaAssembly.Reports` — an outcome is a success, or a report of the first breach.
* `SchemaAssembly.AtItem`, `SchemaAssembly.AtEntry` — breaches inside of lists and of objects.

## Main results

* `SchemaAssembly.First.unique` — there is only one first breach.
* `SchemaAssembly.Reports.mapM_items`, `SchemaAssembly.Reports.mapM_entries` — traversals report the first
  breach if what is done with each item does.
-/

set_option relaxedAutoImplicit false
set_option autoImplicit false

namespace SchemaAssembly

/-! ## Paths -/

/-- One step into a tree. -/
inductive PathStep
  /-- To the item of a list at some place. -/
  | item (index : Nat)
  /-- To the entry of an object of some name. -/
  | entry (name : String)

/-- One step comes before another that could be taken from the same place: items are in the order of
their places, and entries in ascending order of their names. -/
inductive PathStep.Before : PathStep → PathStep → Prop
  /-- An item comes before the items that follow it. -/
  | item {i j : Nat} (less : i < j) : Before (.item i) (.item j)
  /-- An entry comes before the entries of greater names. -/
  | entry {a b : String} (less : a < b) : Before (.entry a) (.entry b)

/-- No step comes before itself. -/
theorem PathStep.Before.irrefl (step : PathStep) : ¬ step.Before step := by
  rintro (⟨less⟩ | ⟨less⟩)
  · exact Nat.lt_irrefl _ less
  · exact String.lt_irrefl _ less

/-- Steps that come before others are passed on to what these come before. -/
theorem PathStep.Before.trans {a b c : PathStep} (first : a.Before b) (second : b.Before c) :
    a.Before c := by
  cases first with
  | item less =>
    cases second with
    | item less' => exact .item (Nat.lt_trans less less')
  | entry less =>
    cases second with
    | entry less' => exact .entry (String.lt_trans less less')

/-- **One path comes before another** in depth-first order: it is a beginning of it, or it takes a step
that comes before where the two part. -/
def Precedes : List PathStep → List PathStep → Prop := List.Lex PathStep.Before

/-! ## Breaches -/

variable {ε α β : Type}

/-- **The first breach**: nothing else is wrong at its path, and everything that is wrong elsewhere
comes after it. -/
def First (breach : List PathStep → ε → Prop) (path : List PathStep) (error : ε) : Prop :=
  breach path error ∧ ∀ path' error', breach path' error' →
    path' = path ∧ error' = error ∨ Precedes path path'

/-- **An outcome reports breaches**: it is a success if there are none, and else the error of the
first. -/
def Reports (breach : List PathStep → ε → Prop) : Except ε α → Prop
  | .ok _ => ∀ path error, ¬ breach path error
  | .error error => ∃ path, First breach path error

/-- No path comes before itself. -/
theorem Precedes.irrefl (path : List PathStep) : ¬ Precedes path path :=
  List.lex_irrefl PathStep.Before.irrefl path

/-- Paths that come before others come before what those come before. -/
theorem Precedes.trans {first second third : List PathStep} (before : Precedes first second)
    (onward : Precedes second third) : Precedes first third :=
  List.lex_trans PathStep.Before.trans before onward

/-- **There is only one first breach.** -/
theorem First.unique {breach : List PathStep → ε → Prop} {path path' : List PathStep}
    {error error' : ε} (first : First breach path error) (first' : First breach path' error') :
    path = path' ∧ error = error' := by
  obtain ⟨rfl, rfl⟩ | before := first'.2 _ _ first.1
  · exact ⟨rfl, rfl⟩
  · obtain ⟨rfl, rfl⟩ | after := first.2 _ _ first'.1
    · exact ⟨rfl, rfl⟩
    · exact absurd (before.trans after) (Precedes.irrefl _)

/-! ## Rules of reporting -/

variable {breach breach' : List PathStep → ε → Prop} {outcome : Except ε α}

/-- Where nothing is wrong a success reports it. -/
theorem reports_ok {a : α} (clean : ∀ path error, ¬ breach path error) :
    Reports breach (.ok a : Except ε α) := clean

/-- What is wrong before everything else is reported at once. -/
theorem reports_error {error : ε} (own : breach [] error)
    (only : ∀ error', breach [] error' → error' = error) :
    Reports breach (.error error : Except ε α) := by
  refine ⟨[], own, fun path error' wrong => ?_⟩
  cases path with
  | nil => exact .inl ⟨rfl, only error' wrong⟩
  | cons step rest => exact .inr .nil

/-- What is wrong can be said in other words. -/
theorem Reports.congr (reports : Reports breach outcome)
    (same : ∀ path error, breach path error ↔ breach' path error) : Reports breach' outcome := by
  obtain rfl : breach = breach' := funext fun path => funext fun error => propext (same path error)
  exact reports

/-- Changing what a success returns does not change what is reported. -/
theorem Reports.map (reports : Reports breach outcome) (change : α → β) :
    Reports breach (outcome.map change) := by
  cases outcome <;> exact reports

/-- Returning something that is made from the result does not change what is reported. -/
theorem Reports.bind_pure (reports : Reports breach outcome) (change : α → β) :
    Reports breach (do let a ← outcome; return change a) := by
  cases outcome <;> exact reports

/-- There is an error exactly if something is wrong. -/
theorem Reports.exists_error_iff (reports : Reports breach outcome) :
    (∃ error, outcome = .error error) ↔ ∃ path error, breach path error := by
  cases outcome with
  | ok a => exact ⟨nofun, fun ⟨path, error, wrong⟩ => absurd wrong (reports path error)⟩
  | error error =>
    obtain ⟨path, first⟩ := reports
    exact ⟨fun _ => ⟨path, error, first.1⟩, fun _ => ⟨error, rfl⟩⟩

/-- The error is that of the first breach. -/
theorem Reports.eq_error_iff (reports : Reports breach outcome) (error : ε) :
    outcome = .error error ↔ ∃ path, First breach path error := by
  cases outcome with
  | ok a => exact ⟨nofun, fun ⟨path, first⟩ => absurd first.1 (reports path error)⟩
  | error error' =>
    obtain ⟨path, first⟩ := reports
    constructor
    · rintro ⟨⟩
      exact ⟨path, first⟩
    · rintro ⟨path', first'⟩
      rw [(first.unique first').2]

/-! ## Traversals -/

/-- What is wrong inside of one of many items, each of which is reached by a step of its own. -/
def Inside (step : α → PathStep) (items : List α) (breach : α → List PathStep → ε → Prop)
    (path : List PathStep) (error : ε) : Prop :=
  ∃ item ∈ items, ∃ rest, path = step item :: rest ∧ breach item rest error

/-- **What is wrong inside of an item of a list.** -/
def AtItem (items : List α) (breach : α → List PathStep → ε → Prop) (path : List PathStep)
    (error : ε) : Prop :=
  ∃ index item rest, items[index]? = some item ∧ path = .item index :: rest ∧ breach item rest error

/-- **What is wrong inside of an entry of an object.** -/
def AtEntry (entries : List (String × α)) (breach : α → List PathStep → ε → Prop)
    (path : List PathStep) (error : ε) : Prop :=
  ∃ entry ∈ entries, ∃ rest, path = .entry entry.1 :: rest ∧ breach entry.2 rest error

/-- Something is wrong inside of a list if something is wrong inside of an item. -/
theorem exists_atItem_iff {items : List α} {breach : α → List PathStep → ε → Prop} :
    (∃ path error, AtItem items breach path error) ↔
      ∃ item ∈ items, ∃ path error, breach item path error := by
  constructor
  · rintro ⟨-, error, index, item, rest, held, -, wrong⟩
    exact ⟨item, List.mem_of_getElem? held, rest, error, wrong⟩
  · rintro ⟨item, h, rest, error, wrong⟩
    obtain ⟨index, held⟩ := List.mem_iff_getElem?.1 h
    exact ⟨_, error, index, item, rest, held, rfl, wrong⟩

/-- What a breach in any item implies, a breach in the list implies. -/
theorem AtItem.elim {items : List α} {breach : α → List PathStep → ε → Prop} {path : List PathStep}
    {error : ε} {p : Prop} (wrong : AtItem items breach path error)
    (each : ∀ item path, breach item path error → p) : p :=
  have ⟨_, item, rest, _, _, inner⟩ := wrong
  each item rest inner

section Traversals

variable {f : α → Except ε β} {breach : α → List PathStep → ε → Prop}

/-- **A traversal reports the first breach** if the items are visited in the order of the steps to
them, and if what is done with each of them reports.

**Proof sketch.** By induction on the items. If the first item fails, it fails at its first breach, and
everything in other items comes after it by the first step. If it succeeds, nothing is wrong in it. -/
theorem Reports.mapM {step : α → PathStep} {items : List α}
    (ordered : items.Pairwise fun a b => (step a).Before (step b))
    (each : ∀ item ∈ items, Reports (breach item) (f item)) :
    Reports (Inside step items breach) (items.mapM f) := by
  induction items with
  | nil =>
    rintro path error ⟨item, h, -⟩
    cases h
  | cons item rest ih =>
    obtain ⟨before, orderedRest⟩ := List.pairwise_cons.1 ordered
    obtain ⟨first, others⟩ := List.forall_mem_cons.1 each
    have later := ih orderedRest others
    rw [List.mapM_cons]
    cases own : f item with
    | error error =>
      rw [own] at first
      obtain ⟨path, wrong, least⟩ := first
      refine ⟨step item :: path, ⟨item, .head _, path, rfl, wrong⟩, ?_⟩
      rintro - error' ⟨other, h, path', rfl, wrong'⟩
      rcases List.mem_cons.1 h with rfl | h
      · obtain ⟨rfl, rfl⟩ | onward := least path' error' wrong'
        · exact .inl ⟨rfl, rfl⟩
        · exact .inr (.cons onward)
      · exact .inr (.rel (before other h))
    | ok b =>
      rw [own] at first
      refine Reports.congr (later.bind_pure (b :: ·)) fun path error => ?_
      constructor
      · rintro ⟨other, h, wrong⟩
        exact ⟨other, .tail _ h, wrong⟩
      · rintro ⟨other, h, path', rfl, wrong⟩
        rcases List.mem_cons.1 h with rfl | h
        · exact absurd wrong (first path' error)
        · exact ⟨other, h, path', rfl, wrong⟩

/-- **Going through a list reports the first breach** if what is done with each item does. -/
theorem Reports.mapM_items {items : List α} (each : ∀ item ∈ items, Reports (breach item) (f item)) :
    Reports (AtItem items breach) (items.mapM f) := by
  have ordered : items.zipIdx.Pairwise fun a b =>
      (PathStep.item a.2).Before (PathStep.item b.2) := by
    have indices : (List.range' 0 items.length).Pairwise (· < ·) := List.pairwise_lt_range'
    rw [← List.zipIdx_map_snd 0 items, List.pairwise_map] at indices
    exact indices.imp PathStep.Before.item
  have numbered : Reports (Inside (fun entry => .item entry.2) items.zipIdx fun entry => breach entry.1)
      (items.zipIdx.mapM (f ∘ Prod.fst)) :=
    Reports.mapM ordered fun entry h => each entry.1 (List.fst_mem_of_mem_zipIdx h)
  rw [← List.mapM_map, List.zipIdx_map_fst] at numbered
  refine numbered.congr fun path error => ?_
  constructor
  · rintro ⟨⟨item, index⟩, h, rest, rfl, wrong⟩
    exact ⟨index, item, rest, List.mem_zipIdx_iff_getElem?.1 h, rfl, wrong⟩
  · rintro ⟨index, item, rest, held, rfl, wrong⟩
    exact ⟨(item, index), List.mem_zipIdx_iff_getElem?.2 held, rest, rfl, wrong⟩

/-- **Going through an object reports the first breach**, if the entries are in ascending order of
their names and if what is done with each of them reports. -/
theorem Reports.mapM_entries {entries : List (String × α)} {g : String × α → Except ε β}
    (ascending : (entries.map Prod.fst).Pairwise (· < ·))
    (each : ∀ entry ∈ entries, Reports (breach entry.2) (g entry)) :
    Reports (AtEntry entries breach) (entries.mapM g) := by
  rw [List.pairwise_map] at ascending
  exact Reports.mapM (ascending.imp PathStep.Before.entry) each

end Traversals

end SchemaAssembly
