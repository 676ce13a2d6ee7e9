import Mathlib
import SchemaAssembly.Proofs.Folding

/-!
# Equal values

Two objects are compared by their sizes, and then from one side only: what the left one holds is looked up
in the right one. That this compares them as maps, and gives the same from either side, is a matter of
counting. No name is held twice, so that an object that has all names of another, and as many, has no
further ones. After that lists and objects are alike: two values are equal if they show the same by
themselves, and if at every step into them there is something in both, and equal, or in neither. All laws
are proved from this form, by induction on the parts of values.

Floating-point numbers are compared by what they stand for. What is not a number stands for nothing and
equals nothing, not even itself, and both zeros stand for the same.

## Main definitions

* `SchemaAssembly.number?` — the number that a floating-point number stands for.
* `SchemaAssembly.Value.part?` — what is at one step into a value.
* `SchemaAssembly.Value.head` — what a value shows by itself.
* `SchemaAssembly.Value.Rearranged` — objects hold the same in another order, at any depth.

## Main results

* `SchemaAssembly.beq_iff_number?` — equality of floating-point numbers.
* `SchemaAssembly.NameMap.size_eq_and_iff` — comparing maps from one side, and their sizes.
* `SchemaAssembly.Value.same_iff` — equality of values, part by part.
* `SchemaAssembly.Value.equality_laws` — the laws of equality.
-/

set_option relaxedAutoImplicit false
set_option autoImplicit false

namespace SchemaAssembly

/-! ## Equal numbers -/

section Numbers

variable {x y : Float}

/-- **The number that a floating-point number stands for**, if it stands for one. Both zeros stand for the
same. -/
def number? (x : Float) : Option Float :=
  if x.isNaN then none else some (if x = -0 then 0 else x)

/-- What is not a number stands for none, and everything else for one. -/
theorem number?_eq_none_iff : number? x = none ↔ x.isNaN = true := by
  rw [number?]
  split
  · next nan => exact iff_of_true rfl nan
  · next number => exact iff_of_false (Option.some_ne_none _) number

/-- **Floating-point numbers are equal if they stand for the same number**, and for one at all. -/
theorem beq_iff_number? :
    (x == y) = true ↔ number? x ≠ none ∧ number? x = number? y := by
  have zeros : ¬ (-0 : Float) = 0 := by decide
  rw [Float.beq_iff_ne_nan_and_eq, number?, number?]
  simp only [Float.isNaN_eq_decide_eq_nan, decide_eq_true_eq]
  by_cases nan : x = Float.nan
  · simp [nan]
  · by_cases nan' : y = Float.nan
    · simp [nan, nan']
    · -- The zeros are told apart as floating-point numbers, and not as what they stand for.
      by_cases zero : x = -0
      · by_cases zero' : y = -0
        · simp [zero, zero']
        · have differs : ¬ -0 = y := Ne.symm zero'
          simp [nan', zero, zero', zeros, differs, eq_comm (a := y)]
      · by_cases zero' : y = -0 <;> simp [nan, nan', zero, zero', zeros]

end Numbers

/-! ## In both or in neither -/

section Rel

variable {α β γ : Type} {R : α → β → Prop} {a? : Option α} {b? : Option β} {c? : Option γ}

/-- There is something in one exactly if there is in the other. -/
theorem isSome_of_rel (rel : Option.Rel R a? b?) : a?.isSome = b?.isSome := by
  cases rel <;> rfl

/-- If there is something in one exactly if there is in the other, it is enough to relate what is in
both. -/
theorem rel_of_isSome (present : a?.isSome = true ↔ b?.isSome = true)
    (related : ∀ a b, a? = some a → b? = some b → R a b) : Option.Rel R a? b? := by
  cases a? with
  | none =>
    cases b? with
    | none => exact .none
    | some b => simp at present
  | some a =>
    cases b? with
    | none => simp at present
    | some b => exact .some (related a b rfl rfl)

/-- What is in both and related, or in neither, is so related from the other side too. -/
theorem rel_swap {S : β → α → Prop} (rel : Option.Rel R a? b?)
    (swap : ∀ a b, a? = some a → b? = some b → R a b → S b a) : Option.Rel S b? a? := by
  cases rel with
  | some related => exact .some (swap _ _ rfl rfl related)
  | none => exact .none

/-- What is in two and related, or in neither, and likewise in the second and a third, is so related in the
first and the third. -/
theorem rel_trans {S : β → γ → Prop} {T : α → γ → Prop} (rel : Option.Rel R a? b?)
    (rel' : Option.Rel S b? c?)
    (trans : ∀ a b c, a? = some a → b? = some b → c? = some c → R a b → S b c → T a c) :
    Option.Rel T a? c? := by
  cases rel with
  | some related =>
    cases rel' with
    | some related' => exact .some (trans _ _ _ rfl rfl rfl related related')
  | none =>
    cases rel'
    exact .none

/-- In entries of the same names, with something related under each, something related is found. -/
theorem rel_lookup {entries : List (String × α)} {entries' : List (String × β)}
    (each : List.Forall₂ (fun a b => a.1 = b.1 ∧ R a.2 b.2) entries entries') (name : String) :
    Option.Rel R (entries.lookup name) (entries'.lookup name) := by
  induction each with
  | nil => exact .none
  | @cons entry entry' rest rest' own _ ih =>
    obtain ⟨named, related⟩ := own
    rw [List.lookup_cons, List.lookup_cons, named]
    cases name == entry'.1 with
    | true => exact .some related
    | false => exact ih

end Rel

/-- **Maps that are compared from one side, and by their sizes, are compared from both sides.** If the right
map holds something related under each name of the left one, and no more names, then it holds nothing where
the left one holds nothing. -/
theorem NameMap.size_eq_and_iff {α : Type} {R : α → α → Prop} {m n : NameMap α} :
    (m.size = n.size ∧ ∀ name a, m.get? name = some a → ∃ b, n.get? name = some b ∧ R a b) ↔
      ∀ name, Option.Rel R (m.get? name) (n.get? name) := by
  have lengths : ∀ m : NameMap α, m.size = m.names.length := fun m => (List.length_map _).symm
  constructor
  · rintro ⟨sizes, held⟩ name
    have inside : m.names ⊆ n.names := by
      intro name h
      obtain ⟨a, found⟩ := Option.isSome_iff_exists.1 (contains_iff.2 h)
      obtain ⟨b, found', -⟩ := held name a found
      exact mem_names_of_get? found'
    -- As no name is there twice, names inside of as many names are all of them.
    have all : m.names.Perm n.names := by
      refine (List.subperm_of_subset m.nodup inside).perm_of_length_le ?_
      exact Nat.le_of_eq (lengths m ▸ lengths n ▸ sizes).symm
    cases found : m.get? name with
    | some a =>
      obtain ⟨b, found', related⟩ := held name a found
      rw [found']
      exact .some related
    | none =>
      have absent : name ∉ n.names := fun h => get?_eq_none_iff.1 found (all.mem_iff.2 h)
      rw [get?_eq_none_iff.2 absent]
      exact .none
  · intro rel
    constructor
    · have same : ∀ name, name ∈ m.names ↔ name ∈ n.names := fun name => by
        rw [← contains_iff, ← contains_iff, contains, contains, isSome_of_rel (rel name)]
      have all := (List.perm_ext_iff_of_nodup m.nodup n.nodup).2 same
      rw [lengths, lengths]
      exact all.length_eq
    · intro name a found
      have related := rel name
      rw [found] at related
      cases other : n.get? name with
      | some b =>
        rw [other, Option.rel_some_some] at related
        exact ⟨b, rfl, related⟩
      | none =>
        rw [other] at related
        cases related

/-! ## Parts of values -/

namespace Value

/-- **What is at one step into a value**, if anything is: an item of a list, or what an object holds. -/
def part? : Value → PathStep → Option Value
  | .list items, .item index => items[index]?
  | .object entries, .entry name => entries.lookup name
  | _, _ => none

/-- A step into a value leads to what is there. -/
theorem step_iff {value inner : Value} {step : PathStep} :
    value.Step step inner ↔ value.part? step = some inner := by
  constructor
  · rintro (held | held) <;> exact held
  · intro held
    cases value with
    | list items =>
      cases step with
      | item index => exact .item held
      | entry name => cases held
    | object entries =>
      cases step with
      | item index => cases held
      | entry name => exact .entry held
    | _ => cases step <;> cases held

/-- A property is what is at the step of its name. -/
theorem property?_eq (value : Value) (name : String) :
    value.property? name = value.part? (.entry name) := by
  cases value <;> rfl

/-- **Induction on the parts of values.** -/
theorem parts_induction {motive : Value → Prop}
    (whole : ∀ value, (∀ step inner, value.part? step = some inner → motive inner) → motive value)
    (value : Value) : motive value := by
  induction value using Value.induction with
  | list items ih =>
    refine whole _ fun step inner held => ?_
    cases step with
    | item index => exact ih inner (List.mem_of_getElem? held)
    | entry name => cases held
  | object entries ih =>
    refine whole _ fun step inner held => ?_
    cases step with
    | item index => cases held
    | entry name => exact ih (name, inner) (Entries.mem_of_lookup held)
  | _ =>
    refine whole _ fun step inner held => ?_
    cases step <;> cases held

/-- What is inside of a value of distinct names has distinct names. -/
theorem Distinct.part {value inner : Value} {step : PathStep} (distinct : value.Distinct)
    (held : value.part? step = some inner) : inner.Distinct := by
  rcases step_iff.2 held with held | held
  · exact (distinctItems_iff _).1 distinct inner (List.mem_of_getElem? held)
  · exact (distinctEntries_iff _).1 distinct.2 _ (Entries.mem_of_lookup held)

/-! ## Equality, part by part -/

/-- **What a value shows by itself**, without its parts. -/
inductive Head
  /-- Null. -/
  | null
  /-- A whole number. -/
  | int (value : Int64)
  /-- What a floating-point number stands for, if anything. -/
  | number (value : Option Float)
  /-- A text. -/
  | string (value : String)
  /-- A truth value. -/
  | boolean (value : Bool)
  /-- An enum value. -/
  | enum (name : String)
  /-- That there is a list. -/
  | list
  /-- That there is an object. -/
  | object

/-- **What a value shows by itself.** -/
def head : Value → Head
  | .null => .null
  | .int value => .int value
  | .float value => .number (number? value)
  | .string value => .string value
  | .boolean value => .boolean value
  | .enum name => .enum name
  | .list _ => .list
  | .object _ => .object

/-- Nothing but what is not a number stands for no number. -/
theorem head_ne_iff {value : Value} :
    value.head ≠ .number none ↔ ∀ x, value = .float x → x.isNaN = false := by
  cases value <;> simp [head, number?_eq_none_iff]

/-- Values are equal. -/
abbrev Equal (v w : Value) : Prop := v.same w = true

/-- **Values agree part by part**: they show the same by themselves, and at every step there is something in
both, and related, or in neither. -/
structure Agree (related : Value → Value → Prop) (v w : Value) : Prop where
  /-- The first is not what should be a number and is none. -/
  number : v.head ≠ .number none
  /-- Both show the same. -/
  head : v.head = w.head
  /-- At every step there is something in both or in neither. -/
  parts : ∀ step, Option.Rel related (v.part? step) (w.part? step)

/-- Lists are compared item by item. -/
theorem sameItems_iff {as bs : List Value} :
    sameItems as bs = true ↔ ∀ index : Nat, Option.Rel Equal as[index]? bs[index]? := by
  induction as generalizing bs with
  | nil =>
    cases bs with
    | nil => simp [sameItems]
    | cons b bs =>
      refine iff_of_false (by simp [sameItems]) fun rel => ?_
      cases rel 0
  | cons a as ih =>
    cases bs with
    | nil =>
      refine iff_of_false (by simp [sameItems]) fun rel => ?_
      cases rel 0
    | cons b bs =>
      rw [sameItems, Bool.and_eq_true, ih]
      constructor
      · rintro ⟨first, rest⟩ (_ | index)
        · exact .some first
        · exact rest index
      · intro rel
        exact ⟨(Option.rel_some_some (r := Equal)).1 (rel 0), fun index => rel (index + 1)⟩

/-- What is held in an object is looked up entry by entry. -/
theorem heldIn_iff {as bs : List (String × Value)} :
    heldIn as bs = true ↔
      ∀ entry ∈ as, ∃ other, bs.lookup entry.1 = some other ∧ entry.2.Equal other := by
  induction as with
  | nil => simp [heldIn]
  | cons entry rest ih =>
    obtain ⟨name, value⟩ := entry
    rw [heldIn, Bool.and_eq_true, ih, List.forall_mem_cons]
    refine and_congr_left' ?_
    cases bs.lookup name <;> simp

/-- **Objects are compared name by name**, if they hold no name twice. -/
theorem same_object_iff {as bs : List (String × Value)} (nodup : (Entries.names as).Nodup)
    (nodup' : (Entries.names bs).Nodup) :
    (object as).same (object bs) = true ↔
      ∀ name, Option.Rel Equal (as.lookup name) (bs.lookup name) := by
  have maps := NameMap.size_eq_and_iff (R := Equal) (m := ⟨as, nodup⟩) (n := ⟨bs, nodup'⟩)
  rw [same, Bool.and_eq_true, beq_iff_eq, heldIn_iff]
  refine Iff.trans (and_congr_right' ?_) maps
  constructor
  · intro held name a found
    exact held (name, a) (Entries.mem_of_lookup found)
  · rintro held ⟨name, a⟩ inside
    exact held name a ((NameMap.mem_entries_iff (m := ⟨as, nodup⟩)).1 inside)

/-- Agreement, spelled out. -/
theorem agree_iff {related : Value → Value → Prop} {v w : Value} :
    v.Agree related w ↔ v.head ≠ .number none ∧ v.head = w.head ∧
      ∀ step, Option.Rel related (v.part? step) (w.part? step) :=
  ⟨fun agree => ⟨agree.number, agree.head, agree.parts⟩, fun ⟨number, head, parts⟩ =>
    ⟨number, head, parts⟩⟩

/-- **Values are equal if they agree part by part**, and parts are equal. -/
theorem same_iff {v w : Value} (distinct : v.Distinct) (distinct' : w.Distinct) :
    v.same w = true ↔ v.Agree Equal w := by
  rw [agree_iff]
  cases v with
  | list as =>
    cases w with
    | list bs =>
      rw [same, sameItems_iff]
      constructor
      · intro rel
        refine ⟨nofun, rfl, fun step => ?_⟩
        cases step with
        | item index => exact rel index
        | entry name => exact .none
      · rintro ⟨-, -, rel⟩ index
        exact rel (.item index)
    | _ => simp [same, head]
  | object as =>
    cases w with
    | object bs =>
      rw [same_object_iff distinct.1 distinct'.1]
      constructor
      · intro rel
        refine ⟨nofun, rfl, fun step => ?_⟩
        cases step with
        | item index => exact .none
        | entry name => exact rel name
      · rintro ⟨-, -, rel⟩ name
        exact rel (.entry name)
    | _ => simp [same, head]
  | float x => cases w <;> simp [same, head, part?, beq_iff_number?]
  | _ => cases w <;> simp [same, head, part?]

/-! ## Laws of equality -/

section Laws

variable {u v w : Value}

/-- **Equality is symmetric.** -/
theorem same_symm (distinct : v.Distinct) (distinct' : w.Distinct) (same : v.same w = true) :
    w.same v = true := by
  induction v using parts_induction generalizing w with
  | whole v ih =>
    obtain ⟨number, head, parts⟩ := (same_iff distinct distinct').1 same
    refine (same_iff distinct' distinct).2 ⟨head ▸ number, head.symm, fun step => ?_⟩
    refine rel_swap (parts step) fun a b held held' equal => ?_
    exact ih step a held (distinct.part held) (distinct'.part held') equal

/-- Equality is the same from either side. -/
theorem same_comm (distinct : v.Distinct) (distinct' : w.Distinct) : v.same w = w.same v :=
  Bool.eq_iff_iff.2 ⟨same_symm distinct distinct', same_symm distinct' distinct⟩

/-- **Equality is transitive.** -/
theorem same_trans (distinct : u.Distinct) (distinct' : v.Distinct) (distinct'' : w.Distinct)
    (same : u.same v = true) (same' : v.same w = true) : u.same w = true := by
  induction u using parts_induction generalizing v w with
  | whole u ih =>
    obtain ⟨number, head, parts⟩ := (same_iff distinct distinct').1 same
    obtain ⟨-, head', parts'⟩ := (same_iff distinct' distinct'').1 same'
    refine (same_iff distinct distinct'').2 ⟨number, head.trans head', fun step => ?_⟩
    refine rel_trans (parts step) (parts' step) fun a b c held held' held'' equal equal' => ?_
    exact ih step a held (distinct.part held) (distinct'.part held') (distinct''.part held'')
      equal equal'

/-- **A value is equal to itself if and only if there is no NaN in it**, at any depth. -/
theorem same_self_iff (distinct : v.Distinct) :
    v.same v = true ↔ ∀ path x, v.At path (.float x) → x.isNaN = false := by
  induction v using parts_induction with
  | whole v ih =>
    rw [same_iff distinct distinct, agree_iff, head_ne_iff]
    constructor
    · rintro ⟨number, -, parts⟩ path x inside
      cases path with
      | nil => exact number x (along_nil_iff.1 inside)
      | cons step rest =>
        obtain ⟨inner, taken, onward⟩ := along_cons_iff.1 inside
        have held := step_iff.1 taken
        have equal := parts step
        rw [held, Option.rel_some_some] at equal
        exact (ih step inner held (distinct.part held)).1 equal rest x onward
    · intro numbers
      refine ⟨fun x own => numbers [] x (along_nil_iff.2 own), rfl, fun step => ?_⟩
      cases held : v.part? step with
      | none => exact .none
      | some inner =>
        refine .some ((ih step inner held (distinct.part held)).2 fun path x inside => ?_)
        exact numbers (step :: path) x (.onward (step_iff.2 held) inside)

/-- Equal values have equal properties, of the same names. -/
theorem rel_property? (distinct : v.Distinct) (distinct' : w.Distinct) (same : v.same w = true)
    (name : String) : Option.Rel Equal (v.property? name) (w.property? name) := by
  rw [property?_eq, property?_eq]
  exact ((same_iff distinct distinct').1 same).parts (.entry name)

end Laws

/-! ## Objects in other orders -/

/-- **The same value, with objects in other orders**, at all depths at once. -/
inductive Rearranged : Value → Value → Prop
  /-- Nothing has moved. -/
  | refl (value : Value) : Rearranged value value
  /-- Items stay at their places, and something may have moved in each of them. -/
  | list {items items' : List Value} (length : items.length = items'.length)
    (inside : ∀ (index : Nat) item item', items[index]? = some item →
      items'[index]? = some item' → Rearranged item item') :
    Rearranged (.list items) (.list items')
  /-- The names of an object may be in another order, and something may have moved in what is held under
  each of them. -/
  | object {entries entries' : List (String × Value)}
    (names : (Entries.names entries).Perm (Entries.names entries'))
    (inside : ∀ name value value', entries.lookup name = some value →
      entries'.lookup name = some value' → Rearranged value value') :
    Rearranged (.object entries) (.object entries')

section Rearranged

variable {v v' w : Value}

/-- What was rearranged can be rearranged back. -/
theorem Rearranged.symm (moved : v.Rearranged v') : v'.Rearranged v := by
  induction moved with
  | refl value => exact .refl value
  | list length _ ih =>
    exact .list length.symm fun index item item' held held' => ih index item' item held' held
  | object names _ ih =>
    exact .object names.symm fun name value value' held held' => ih name value' value held' held

/-- What is rearranged shows the same, and at every step there is something in both, and rearranged, or in
neither. -/
theorem Rearranged.parts (moved : v.Rearranged v') (distinct : v.Distinct) (distinct' : v'.Distinct) :
    v.head = v'.head ∧ ∀ step, Option.Rel Rearranged (v.part? step) (v'.part? step) := by
  cases moved with
  | refl =>
    refine ⟨rfl, fun step => ?_⟩
    cases v.part? step with
    | none => exact .none
    | some inner => exact .some (.refl inner)
  | @list items items' length inside =>
    refine ⟨rfl, fun step => ?_⟩
    cases step with
    | entry name => exact .none
    | item index =>
      have present : items[index]?.isSome = true ↔ items'[index]?.isSome = true := by
        rw [isSome_getElem?, isSome_getElem?, length]
      exact rel_of_isSome present (inside index)
  | @object entries entries' names inside =>
    refine ⟨rfl, fun step => ?_⟩
    cases step with
    | item index => exact .none
    | entry name =>
      have contained := @NameMap.contains_iff _ ⟨entries, distinct.1⟩ name
      have contained' := @NameMap.contains_iff _ ⟨entries', distinct'.1⟩ name
      exact rel_of_isSome (contained.trans (names.mem_iff.trans contained'.symm)) (inside name)

/-- What is equal to a value is equal to it after the value was rearranged. -/
theorem Rearranged.same (moved : v.Rearranged v') (distinct : v.Distinct) (distinct' : v'.Distinct)
    (distinct'' : w.Distinct) (same : v.same w = true) : v'.same w = true := by
  induction v using parts_induction generalizing v' w with
  | whole v ih =>
    obtain ⟨number, head, parts⟩ := (same_iff distinct distinct'').1 same
    obtain ⟨head', parts'⟩ := moved.parts distinct distinct'
    refine (same_iff distinct' distinct'').2 ⟨head' ▸ number, head' ▸ head, fun step => ?_⟩
    have back := rel_swap (S := fun b a => Rearranged a b) (parts' step) fun _ _ _ _ moved => moved
    refine rel_trans back (parts step) fun b a c held' held held'' moved equal => ?_
    exact ih step a held moved (distinct.part held) (distinct'.part held') (distinct''.part held'')
      equal

/-- **Equality does not depend on the order of names**, on either side. -/
theorem Rearranged.same_eq (moved : v.Rearranged v') (distinct : v.Distinct)
    (distinct' : v'.Distinct) (distinct'' : w.Distinct) :
    v.same w = v'.same w ∧ w.same v = w.same v' := by
  have left : v.same w = v'.same w := Bool.eq_iff_iff.2
    ⟨moved.same distinct distinct' distinct'', moved.symm.same distinct' distinct distinct''⟩
  refine ⟨left, ?_⟩
  rw [same_comm distinct'' distinct, same_comm distinct'' distinct', left]

end Rearranged

end Value

/-! ## Equal literals -/

namespace Literal

/-- Equal lists of literals fold to equal lists, if their items do. -/
theorem sameItems_fold {as bs : List Literal}
    (each : ∀ a ∈ as, ∀ b, a.same b = true → a.fold.same b.fold = true)
    (same : sameItems as bs = true) : Value.sameItems (foldItems as) (foldItems bs) = true := by
  induction as generalizing bs with
  | nil =>
    cases bs with
    | nil => rfl
    | cons b bs => cases same
  | cons a as ih =>
    cases bs with
    | nil => cases same
    | cons b bs =>
      rw [sameItems, Bool.and_eq_true] at same
      obtain ⟨first, others⟩ := List.forall_mem_cons.1 each
      rw [foldItems, foldItems, Value.sameItems, Bool.and_eq_true]
      exact ⟨first b same.1, ih others same.2⟩

/-- Equal lists of entries fold to equal values under the same names, if what they hold does. -/
theorem forall₂_of_sameEntries {as bs : List (String × Literal)}
    (each : ∀ a ∈ as, ∀ b, a.2.same b = true → a.2.fold.same b.fold = true)
    (same : sameEntries as bs = true) :
    List.Forall₂ (fun a b => a.1 = b.1 ∧ a.2.Equal b.2) (foldEntries as) (foldEntries bs) := by
  induction as generalizing bs with
  | nil =>
    cases bs with
    | nil => exact .nil
    | cons b bs => cases same
  | cons a as ih =>
    cases bs with
    | nil => cases same
    | cons b bs =>
      obtain ⟨name, a⟩ := a
      obtain ⟨name', b⟩ := b
      rw [sameEntries, Bool.and_eq_true, Bool.and_eq_true, beq_iff_eq] at same
      obtain ⟨⟨named, first⟩, rest⟩ := same
      obtain ⟨own, others⟩ := List.forall_mem_cons.1 each
      exact .cons ⟨named, own b first⟩ (ih others rest)

/-- **Equal literals fold to equal values.**

**Proof sketch.** By induction on the literal. Of the entries of a name the last ones count on both sides,
and these stand at the same places. -/
theorem same_fold {literal other : Literal} (same : literal.same other = true) :
    literal.fold.same other.fold = true := by
  induction literal using Literal.induction generalizing other with
  | list items ih =>
    cases other with
    | list items' =>
      exact sameItems_fold (fun a h b => ih a h) same
    | _ => cases same
  | object entries ih =>
    cases other with
    | object entries' =>
      have each := forall₂_of_sameEntries (fun a h b => ih a h) same
      refine (Value.same_object_iff (Entries.nodup_ofList _) (Entries.nodup_ofList _)).2 fun name => ?_
      rw [Entries.lookup_ofList, Entries.lookup_ofList]
      exact rel_lookup (List.forall₂_reverse_iff.2 each) name
    | _ => cases same
  | _ => cases other <;> exact same

end Literal

/-! ## All laws -/

namespace Value

/-- **The laws of equality.** On values whose objects hold no name twice it is symmetric and transitive, and
holds between a value and itself exactly if no NaN occurs in it, at any depth. The order of the names of
objects makes no difference, at any depth and on either side. Equal values have properties of the same names,
with equal values; and equal literals fold to equal values.

**Proof sketch.** Values are equal if they agree part by part (`same_iff`), for objects because names are
counted (`NameMap.size_eq_and_iff`). The laws of what is shown at one level are those of being the same, and
the rest is by induction on parts. -/
theorem equality_laws :
    (∀ v w : Value, v.Distinct → w.Distinct → v.same w = w.same v) ∧
    (∀ u v w : Value, u.Distinct → v.Distinct → w.Distinct →
      u.same v = true → v.same w = true → u.same w = true) ∧
    (∀ v : Value, v.Distinct →
      (v.same v = true ↔ ∀ path x, v.At path (.float x) → x.isNaN = false)) ∧
    (∀ v v' w : Value, v.Distinct → v'.Distinct → w.Distinct → v.Rearranged v' →
      v.same w = v'.same w ∧ w.same v = w.same v') ∧
    (∀ v w : Value, v.Distinct → w.Distinct → v.same w = true →
      ∀ name, Option.Rel Equal (v.property? name) (w.property? name)) ∧
    ∀ l l' : Literal, l.same l' = true → l.fold.same l'.fold = true := by
  refine ⟨?_, ?_, ?_, ?_, ?_, ?_⟩
  · exact fun v w distinct distinct' => same_comm distinct distinct'
  · exact fun u v w distinct distinct' distinct'' => same_trans distinct distinct' distinct''
  · exact fun v distinct => same_self_iff distinct
  · exact fun v v' w distinct distinct' distinct'' moved =>
      moved.same_eq distinct distinct' distinct''
  · exact fun v w distinct distinct' same => rel_property? distinct distinct' same
  · exact fun l l' same => l.same_fold same

/-- A number beside a list with an object in it. -/
def measured (delta : Float) : Value :=
  .object [("delta", .float delta), ("tags", .list [.object [("x", .int 1), ("y", .null)]])]

/-- The same with both objects the other way round. -/
def measuredTurned (delta : Float) : Value :=
  .object [("tags", .list [.object [("y", .null), ("x", .int 1)]]), ("delta", .float delta)]

/-- Both hold no name twice. -/
theorem distinct_measured (delta : Float) :
    (measured delta).Distinct ∧ (measuredTurned delta).Distinct := by
  simp [measured, measuredTurned, Distinct, DistinctEntries, DistinctItems, Entries.names]

/-- What is under a name of two is that of the first or that of the second. -/
theorem lookup_pair {name first second : String} {a b value : Value}
    (held : [(first, a), (second, b)].lookup name = some value) :
    name = first ∧ value = a ∨ name = second ∧ value = b := by
  simpa using Entries.mem_of_lookup held

/-- The one is the other in another order, at both depths. -/
theorem rearranged_measured (delta : Float) :
    (measured delta).Rearranged (measuredTurned delta) := by
  refine .object (List.Perm.swap _ _ _) fun name value value' held held' => ?_
  obtain ⟨rfl, rfl⟩ | ⟨rfl, rfl⟩ := lookup_pair held
  · obtain rfl := Option.some.inj held'
    exact .refl _
  · obtain rfl := Option.some.inj held'
    refine .list rfl fun index item item' held held' => ?_
    obtain rfl : index = 0 := by
      have := (List.getElem?_eq_some_iff.1 held).1
      simpa using this
    obtain rfl := Option.some.inj held
    obtain rfl := Option.some.inj held'
    refine .object (List.Perm.swap _ _ _) fun name value value' held held' => ?_
    obtain ⟨rfl, rfl⟩ | ⟨rfl, rfl⟩ := lookup_pair held <;>
      obtain rfl := Option.some.inj held' <;> exact .refl _

/-- The two zeros are equal, whatever the order of names, so that what is under a name is equal. With NaN
nothing is equal, not even to itself. A literal that repeats names is equal to itself, and so is its fold. -/
theorem equality_laws_measured :
    (measured 0).same (measured (-0)) = true ∧ (measuredTurned (-0)).same (measured 0) = true ∧
    Option.Rel Equal ((measured 0).property? "delta") ((measuredTurned (-0)).property? "delta") ∧
    (measuredTurned 0).same (measuredTurned 0) = true ∧
    (∀ path x, (measured 0).At path (.float x) → x.isNaN = false) ∧
    (measured (0 / 0)).same (measured (0 / 0)) = false ∧
    Literal.repeatedNames.fold.same Literal.repeatedNames.fold = true := by
  obtain ⟨comm, trans, self, order, properties, literals⟩ := equality_laws
  obtain ⟨distinct, distinctTurned⟩ := distinct_measured 0
  obtain ⟨distinct', distinctTurned'⟩ := distinct_measured (-0)
  obtain ⟨distinctNaN, -⟩ := distinct_measured (0 / 0)
  have zeros : (measured 0).same (measured (-0)) = true := by decide
  have turned : (measured 0).same (measuredTurned (-0)) = true :=
    (order _ _ _ distinct' distinctTurned' distinct (rearranged_measured _)).2 ▸ zeros
  have back : (measuredTurned (-0)).same (measured 0) = true :=
    comm _ _ distinct distinctTurned' ▸ turned
  have whole : (measured 0).same (measured 0) = true :=
    trans _ _ _ distinct distinctTurned' distinct turned back
  have moved := order _ _ _ distinct distinctTurned distinctTurned (rearranged_measured 0)
  have moved' := order _ _ _ distinct distinctTurned distinct (rearranged_measured 0)
  have nan : ¬ (measured (0 / 0)).same (measured (0 / 0)) = true := fun same =>
    absurd ((self _ distinctNaN).1 same [.entry "delta"] (0 / 0) (.onward (.entry rfl) (.here _)))
      (by decide)
  exact ⟨zeros, back, properties _ _ distinct distinctTurned' turned "delta",
    moved.1 ▸ moved'.2 ▸ whole, (self _ distinct).1 whole, by simpa using nan,
    literals _ _ (by decide)⟩

end Value

end SchemaAssembly
