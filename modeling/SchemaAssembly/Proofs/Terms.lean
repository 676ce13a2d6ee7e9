import Mathlib.Data.List.Forall2
import SchemaAssembly.Document.Definitions
import SchemaAssembly.Proofs.FirstBreach

/-!
# Terms and literals

A literal is a term without variables: every literal is written as one term, and a term becomes a
literal exactly if it is how that literal is written. A term that does not become a literal has a
variable somewhere, and the first of them is reported, where objects are gone through in ascending order
of their names.

## Main definitions

* `SchemaAssembly.Term.At` — what stands where in a term.
* `SchemaAssembly.Term.Sorted` — at every depth objects are in ascending order of their names.
* `SchemaAssembly.Literal.asTerm` — how a literal is written.

## Main results

* `SchemaAssembly.Term.induction` — induction on terms.
* `SchemaAssembly.Term.toLiteral_eq_ok_iff` — terms become the literals that are written like them.
* `SchemaAssembly.Term.reports_toLiteral` — the first variable is reported.
-/

set_option relaxedAutoImplicit false
set_option autoImplicit false

namespace SchemaAssembly

/-- What a changed outcome returns is the change of what was returned. -/
theorem map_eq_ok_iff {ε α β : Type} {outcome : Except ε α} {change : α → β} {b : β} :
    outcome.map change = .ok b ↔ ∃ a, outcome = .ok a ∧ change a = b := by
  cases outcome <;> simp [Except.map]

/-- A traversal succeeds with the results of its steps, one for each item. -/
theorem mapM_eq_ok_iff {ε α β : Type} {f : α → Except ε β} {items : List α} {results : List β} :
    items.mapM f = .ok results ↔
      List.Forall₂ (fun item result => f item = .ok result) items results := by
  induction items generalizing results with
  | nil =>
    rw [List.forall₂_nil_left_iff]
    exact ⟨fun h => (Except.ok.inj h).symm, fun h => congrArg Except.ok h.symm⟩
  | cons item rest ih =>
    rw [List.mapM_cons, List.forall₂_cons_left_iff]
    cases own : f item with
    | error e => exact ⟨nofun, fun ⟨_, _, h, _⟩ => nomatch h⟩
    | ok b =>
      cases others : rest.mapM f with
      | error e =>
        refine ⟨nofun, fun ⟨_, tail, _, related, _⟩ => ?_⟩
        rw [ih.2 related] at others
        cases others
      | ok bs =>
        constructor
        · intro h
          obtain rfl := Except.ok.inj h
          exact ⟨b, bs, rfl, ih.1 others, rfl⟩
        · rintro ⟨b', bs', h, related, rfl⟩
          obtain rfl := Except.ok.inj h
          obtain rfl := Except.ok.inj (others.symm.trans (ih.2 related))
          rfl

/-- A traversal of what can be undone step by step succeeds with what the items are made from. -/
theorem mapM_eq_ok_iff_eq_map {ε α β : Type} {f : α → Except ε β} {g : β → α} {items : List α}
    {results : List β} (undone : ∀ item ∈ items, ∀ b, f item = .ok b ↔ item = g b) :
    items.mapM f = .ok results ↔ items = results.map g := by
  rw [mapM_eq_ok_iff]
  induction items generalizing results with
  | nil => cases results <;> simp
  | cons item rest ih =>
    obtain ⟨own, others⟩ := List.forall_mem_cons.1 undone
    cases results with
    | nil => simp
    | cons b bs => rw [List.forall₂_cons, own, ih others, List.map_cons, List.cons.injEq]

namespace Term

/-- **Induction on terms**, with the assumption for every item of a list and for every entry of an
object. -/
@[elab_as_elim]
theorem induction {motive : Term → Prop} (var : ∀ name, motive (.variable name))
    (null : motive .null) (int : ∀ value, motive (.int value))
    (float : ∀ value, motive (.float value)) (string : ∀ value, motive (.string value))
    (boolean : ∀ value, motive (.boolean value)) (enum : ∀ name, motive (.enum name))
    (list : ∀ items, (∀ item ∈ items, motive item) → motive (.list items))
    (object : ∀ entries, (∀ entry ∈ entries, motive entry.2) → motive (.object entries))
    (term : Term) : motive term :=
  Term.rec (motive_1 := motive) (motive_2 := fun items => ∀ item ∈ items, motive item)
    (motive_3 := fun entries => ∀ entry ∈ entries, motive entry.2)
    (motive_4 := fun entry => motive entry.2) var null int float string boolean enum list object
    (fun _ h => nomatch h) (fun _ _ head tail => List.forall_mem_cons.2 ⟨head, tail⟩)
    (fun _ h => nomatch h) (fun _ _ head tail => List.forall_mem_cons.2 ⟨head, tail⟩)
    (fun _ _ h => h) term

/-! ## Inside of terms -/

/-- **What stands where in a term**: the term itself at the end of the path that takes no step, and what
stands inside of an item or an entry behind the step to it. -/
inductive At : Term → List PathStep → Term → Prop
  /-- A term stands in its own place. -/
  | here (term : Term) : At term [] term
  /-- What stands in an item of a list stands in the list. -/
  | item {items : List Term} {index : Nat} {item inner : Term} {path : List PathStep}
    (held : items[index]? = some item) (inside : At item path inner) :
    At (.list items) (.item index :: path) inner
  /-- What stands in an entry of an object stands in the object. -/
  | entry {entries : List (String × Term)} {entry : String × Term} {inner : Term}
    {path : List PathStep} (held : entry ∈ entries) (inside : At entry.2 path inner) :
    At (.object entries) (.entry entry.1 :: path) inner

/-- **At every depth objects are in ascending order of their names**, so that no name occurs twice in
one object. That is how objects are made, entry by entry (`sorted_insertEntry`). -/
def Sorted (term : Term) : Prop :=
  ∀ path entries, term.At path (.object entries) → SortedEntries entries

/-- A list is sorted if its items are. -/
theorem sorted_list_iff {items : List Term} :
    Sorted (.list items) ↔ ∀ item ∈ items, item.Sorted := by
  constructor
  · intro sorted item h path entries inside
    obtain ⟨index, held⟩ := List.mem_iff_getElem?.1 h
    exact sorted _ entries (.item held inside)
  · intro sorted path entries inside
    cases inside with
    | item held inside => exact sorted _ (List.mem_of_getElem? held) _ entries inside

/-- An object is sorted if its entries stand in ascending order of their names, and are sorted. -/
theorem sorted_object_iff {entries : List (String × Term)} :
    Sorted (.object entries) ↔ SortedEntries entries ∧ ∀ entry ∈ entries, entry.2.Sorted := by
  constructor
  · intro sorted
    exact ⟨sorted [] entries (.here _), fun _ held _ inner inside => sorted _ inner (.entry held inside)⟩
  · rintro ⟨ascending, sorted⟩ path inner inside
    cases inside with
    | here => exact ascending
    | entry held inside => exact sorted _ held _ inner inside

/-- A list becomes a literal item by item. -/
theorem toLiterals_eq_mapM (position : Position) (items : List Term) :
    toLiterals position items = items.mapM (toLiteral position) := by
  induction items with
  | nil => rfl
  | cons item rest ih => rw [toLiterals, ih, List.mapM_cons]

/-- An object becomes a literal entry by entry, each under its name. -/
theorem toEntries_eq_mapM (position : Position) (entries : List (String × Term)) :
    toEntries position entries =
      entries.mapM fun entry => (toLiteral position entry.2).map (Prod.mk entry.1) := by
  induction entries with
  | nil => rfl
  | cons entry rest ih =>
    rw [toEntries, ih, List.mapM_cons]
    cases toLiteral position entry.2 <;> rfl

/-! ## The first variable -/

/-- What is wrong in a term, for an argument that begins at some position: the variables in it. -/
def Breach (position : Position) (term : Term) (path : List PathStep) (error : DocumentError) :
    Prop :=
  ∃ name, term.At path (.variable name) ∧ error = .variableInDefault name position

/-- **A term becomes a literal unless there is a variable in it**, and the first variable is reported.

**Proof sketch.** By induction on the term. Lists and objects are traversals, to which
`Reports.mapM_items` and `Reports.mapM_entries` apply. -/
theorem reports_toLiteral (position : Position) {term : Term} (sorted : term.Sorted) :
    Reports (term.Breach position) (term.toLiteral position) := by
  induction term using Term.induction with
  | var name =>
    refine reports_error ⟨name, .here _, rfl⟩ ?_
    rintro - ⟨other, inside, rfl⟩
    cases inside
    rfl
  | list items ih =>
    rw [toLiteral, toLiterals_eq_mapM]
    have reports := Reports.mapM_items fun item h => ih item h (sorted_list_iff.1 sorted item h)
    refine (reports.map _).congr fun path error => ?_
    constructor
    · rintro ⟨index, item, rest, held, rfl, name, inside, rfl⟩
      exact ⟨name, .item held inside, rfl⟩
    · rintro ⟨name, inside, rfl⟩
      cases inside with
      | item held inside => exact ⟨_, _, _, held, rfl, name, inside, rfl⟩
  | object entries ih =>
    rw [toLiteral, toEntries_eq_mapM]
    obtain ⟨ascending, inner⟩ := sorted_object_iff.1 sorted
    have reports := Reports.mapM_entries ascending fun entry h =>
      (ih entry h (inner entry h)).map (Prod.mk entry.1)
    refine (reports.map _).congr fun path error => ?_
    constructor
    · rintro ⟨entry, held, rest, rfl, name, inside, rfl⟩
      exact ⟨name, .entry held inside, rfl⟩
    · rintro ⟨name, inside, rfl⟩
      cases inside with
      | entry held inside => exact ⟨_, held, _, rfl, name, inside, rfl⟩
  | _ =>
    rintro path error ⟨name, inside, -⟩
    cases inside

end Term

/-! ## How literals are written -/

mutual

/-- **How a literal is written**: as the term of the same form. -/
def Literal.asTerm : Literal → Term
  | .null => .null
  | .int value => .int value
  | .float value => .float value
  | .string value => .string value
  | .boolean value => .boolean value
  | .enum name => .enum name
  | .list items => .list (asTerms items)
  | .object entries => .object (asEntries entries)

/-- How the items of a list are written. -/
def Literal.asTerms : List Literal → List Term
  | [] => []
  | item :: rest => item.asTerm :: asTerms rest

/-- How the entries of an object are written. -/
def Literal.asEntries : List (String × Literal) → List (String × Term)
  | [] => []
  | (name, item) :: rest => (name, item.asTerm) :: asEntries rest

end

/-- Items are written one by one. -/
theorem Literal.asTerms_eq_map (items : List Literal) :
    Literal.asTerms items = items.map Literal.asTerm := by
  induction items with
  | nil => rfl
  | cons item rest ih => rw [asTerms, ih, List.map_cons]

/-- Entries are written one by one, each under its name. -/
theorem Literal.asEntries_eq_map (entries : List (String × Literal)) :
    Literal.asEntries entries = entries.map fun entry => (entry.1, entry.2.asTerm) := by
  induction entries with
  | nil => rfl
  | cons entry rest ih => rw [asEntries, ih, List.map_cons]

namespace Term

/-- **A term becomes a literal exactly if it is how that literal is written.**

**Proof sketch.** By induction on the term, where lists and objects become literals item by item. -/
theorem toLiteral_eq_ok_iff {position : Position} {term : Term} {literal : Literal} :
    term.toLiteral position = .ok literal ↔ term = literal.asTerm := by
  induction term using Term.induction generalizing literal with
  | var name => cases literal <;> simp [toLiteral, Literal.asTerm]
  | list items ih =>
    have each : ∀ literals, items.mapM (toLiteral position) = .ok literals ↔
        items = Literal.asTerms literals := by
      intro literals
      rw [Literal.asTerms_eq_map]
      exact mapM_eq_ok_iff_eq_map fun item h literal => ih item h
    rw [toLiteral, toLiterals_eq_mapM, map_eq_ok_iff]
    cases literal <;> simp [Literal.asTerm, each]
  | object entries ih =>
    have each : ∀ written,
        entries.mapM (fun entry => (toLiteral position entry.2).map (Prod.mk entry.1)) =
            .ok written ↔
          entries = Literal.asEntries written := by
      intro written
      rw [Literal.asEntries_eq_map]
      refine mapM_eq_ok_iff_eq_map fun entry h literal => ?_
      simp only [map_eq_ok_iff, ih entry h, Prod.ext_iff]
      constructor
      · rintro ⟨inner, value, name, rfl⟩
        exact ⟨name, value⟩
      · rintro ⟨name, value⟩
        exact ⟨literal.2, value, name, rfl⟩
    rw [toLiteral, toEntries_eq_mapM, map_eq_ok_iff]
    cases literal <;> simp [Literal.asTerm, each]
  | _ => cases literal <;> simp [toLiteral, Literal.asTerm]

end Term

end SchemaAssembly
