import SchemaAssembly.Proofs.Folding
import SchemaAssembly.Proofs.Parts
import SchemaAssembly.Proofs.Terms

/-!
# Defaults from a document to the graph

The default of an argument is written as a term, becomes a literal, and is folded into the value that the
graph has for it. Three kinds of trees are passed through, and at each passage two different terms might
come out alike. They do not. Objects of terms are maps, so that their literals repeat no name, and for such
literals folding can be undone. With that, names stay where they are: the objects of the value have the
names of the objects of the term, at the same paths and in ascending order.

## Main definitions

* `SchemaAssembly.Term.Constant` — no variable stands in a term.
* `SchemaAssembly.Term.Arrives` — the value that a term is in the graph.

## Main results

* `SchemaAssembly.Term.exists_asTerm` — a term without variables is how some literal is written.
* `SchemaAssembly.Literal.at_asTerm_iff` — what stands where in a literal that is written.
* `SchemaAssembly.Term.arrives_asTerm`, `namedAlike_asTerm` — a written literal arrives as its fold, with
  its names in order.
* `SchemaAssembly.Term.arrives_told_apart` — different terms arrive as different values.
-/

set_option relaxedAutoImplicit false
set_option autoImplicit false

namespace SchemaAssembly

/-! ## Terms without variables -/

namespace Term

/-- **No variable stands in a term**, at any depth. -/
def Constant (term : Term) : Prop := ∀ path name, ¬ term.At path (.variable name)

/-- **A term without variables is how some literal is written.** -/
theorem exists_asTerm {term : Term} (constant : term.Constant) (sorted : term.Sorted) :
    ∃ literal : Literal, term = literal.asTerm := by
  have reports := reports_toLiteral .unknown sorted
  cases outcome : term.toLiteral .unknown with
  | ok literal => exact ⟨literal, toLiteral_eq_ok_iff.1 outcome⟩
  | error error =>
    rw [outcome] at reports
    obtain ⟨path, ⟨name, inside, -⟩, -⟩ := reports
    exact absurd inside (constant path name)

/-! ## Paths into what is written -/

/-- What stands in the place of a term is the term. -/
theorem at_nil_iff {term inner : Term} : term.At [] inner ↔ term = inner := by
  constructor
  · intro here
    cases here
    rfl
  · rintro rfl
    exact .here term

/-- A path into a term is a first step and a path into what it leads to. -/
theorem at_cons_iff {term inner : Term} {first : PathStep} {path : List PathStep} :
    term.At (first :: path) inner ↔ ∃ between, term.At [first] between ∧ between.At path inner := by
  constructor
  · intro inside
    cases inside with
    | item held inside => exact ⟨_, .item held (.here _), inside⟩
    | entry held inside => exact ⟨_, .entry held (.here _), inside⟩
  · rintro ⟨between, taken, inside⟩
    cases taken with
    | item held here =>
      obtain rfl := at_nil_iff.1 here
      exact .item held inside
    | entry held here =>
      obtain rfl := at_nil_iff.1 here
      exact .entry held inside

/-- What stands where in a term is found step by step. -/
theorem at_iff_along {term inner : Term} {path : List PathStep} :
    term.At path inner ↔ Along (fun term first => term.At [first]) term path inner := by
  induction path generalizing term with
  | nil => rw [at_nil_iff, along_nil_iff]
  | cons first rest ih =>
    rw [at_cons_iff, along_cons_iff]
    simp only [ih]

end Term

namespace Literal

/-- A step into a written literal is a step to what is written for an item or an entry. -/
theorem step_asTerm_iff (literal : Literal) (first : PathStep) (term : Term) :
    literal.asTerm.At [first] term ↔ ∃ inner, literal.Step first inner ∧ inner.asTerm = term := by
  constructor
  · intro taken
    cases literal with
    | list items =>
      rw [asTerm, asTerms_eq_map] at taken
      cases taken with
      | item held here =>
        obtain rfl := Term.at_nil_iff.1 here
        rw [List.getElem?_map, Option.map_eq_some_iff] at held
        obtain ⟨inner, held, rfl⟩ := held
        exact ⟨inner, .item held, rfl⟩
    | object entries =>
      rw [asTerm, asEntries_eq_map] at taken
      cases taken with
      | entry held here =>
        obtain rfl := Term.at_nil_iff.1 here
        obtain ⟨entry, own, rfl⟩ := List.mem_map.1 held
        exact ⟨entry.2, .entry own, rfl⟩
    | _ => cases taken
  · rintro ⟨inner, taken, rfl⟩
    cases taken with
    | item held =>
      rw [asTerm, asTerms_eq_map]
      exact .item (by rw [List.getElem?_map, held]; rfl) (.here _)
    | entry held =>
      rw [asTerm, asEntries_eq_map]
      exact .entry (List.mem_map_of_mem held) (.here _)

/-- **What stands where in a written literal** is what is written for what stands there. -/
theorem at_asTerm_iff {literal : Literal} {path : List PathStep} {term : Term} :
    literal.asTerm.At path term ↔ ∃ inner, literal.At path inner ∧ inner.asTerm = term :=
  Term.at_iff_along.trans (along_image_iff step_asTerm_iff)

/-- What stands in a literal that repeats no name repeats none. -/
theorem Distinct.at {literal inner : Literal} {path : List PathStep} (distinct : literal.Distinct)
    (inside : literal.At path inner) : inner.Distinct := by
  induction inside with
  | here literal => exact distinct
  | onward taken _ ih => exact ih fun path entries inside => distinct _ entries (.onward taken inside)

/-- A literal that repeats no name is folded to an object of the same names as it is written with, if it
is an object. -/
theorem exists_fold_eq_object_iff {literal : Literal} (distinct : literal.Distinct)
    {names : List String} :
    (∃ held, literal.fold = .object held ∧ Entries.names held = names) ↔
      ∃ entries, literal.asTerm = .object entries ∧ entries.map Prod.fst = names := by
  have written : (∃ entries, literal.asTerm = .object entries ∧ entries.map Prod.fst = names) ↔
      ∃ entries, literal = .object entries ∧ Entries.names entries = names := by
    cases literal with
    | object entries => simp [asTerm, asEntries_eq_map, Entries.names, Function.comp_def]
    | _ => simp [asTerm]
  rw [written]
  constructor
  · rintro ⟨held, folded, rfl⟩
    obtain ⟨entries, rfl, settles⟩ := fold_eq_object_iff.1 folded
    have nodup := (distinct_object_iff.1 distinct).1
    exact ⟨entries, rfl, ((settles.order).trans (Entries.eraseDups_names_of_nodup nodup)).symm⟩
  · rintro ⟨entries, rfl, rfl⟩
    have nodup := (distinct_object_iff.1 distinct).1
    have settles : Settles entries _ := settles_iff.2 rfl
    exact ⟨_, rfl, settles.order.trans (Entries.eraseDups_names_of_nodup nodup)⟩

/-- No variable stands in a written literal. -/
theorem constant_asTerm (literal : Literal) : literal.asTerm.Constant := by
  intro path name inside
  obtain ⟨inner, -, written⟩ := at_asTerm_iff.1 inside
  cases inner <;> cases written

/-- A literal repeats no name if it is written in ascending order. -/
theorem distinct_of_sorted {literal : Literal} (sorted : literal.asTerm.Sorted) :
    literal.Distinct := by
  intro path entries inside
  have written := sorted path _ (at_asTerm_iff.2 ⟨_, inside, rfl⟩)
  rw [Term.SortedEntries, asEntries_eq_map, List.map_map] at written
  refine written.imp fun {name other} less same => ?_
  rw [same] at less
  exact String.lt_irrefl other less

/-- What stands where in a literal that repeats no name is what counts there. -/
theorem counts_iff_at {literal inner : Literal} (distinct : literal.Distinct) {path : List PathStep} :
    literal.Counts path inner ↔ literal.At path inner := by
  refine ⟨Counts.at, fun inside => ?_⟩
  induction inside with
  | here literal => exact .here literal
  | @onward literal _ _ first _ taken rest ih =>
    have next := ih fun path entries inside => distinct _ entries (.onward taken inside)
    cases taken with
    | item held => exact .onward (.item held) next
    | @entry entries name _ held =>
      have nodup := distinct [] entries (.here _)
      have found : entries.lookup name = some _ :=
        (NameMap.mem_entries_iff (m := ⟨entries, nodup⟩)).1 held
      rw [← Entries.ofList_of_nodup nodup, Entries.lookup_ofList] at found
      exact .onward (.entry found) next

end Literal

namespace Term

/-! ## Arriving in the graph -/

/-- **The value that a term is in the graph.** It becomes a literal, wherever the argument begins, and is
the fold of that; and whatever the references of an argument lead to, the argument that is built with it as
its default has this value. -/
structure Arrives (term : Term) (value : Value) : Prop where
  /-- The value is the fold of the literal. -/
  folded : ∀ position, (term.toLiteral position).map Literal.fold = .ok value
  /-- The value is the default of the argument. -/
  built : ∀ node : ArgumentNode, node.default = some term → ∃ definition,
    node.toDefinition = .ok definition ∧
      ∀ {σ τ : Type} (visit : Reference → Build σ τ) (context : String) (state next : σ)
        (argument : Argument τ),
        buildArgument visit context definition state = .ok (argument, next) →
          argument.default = some value

/-- **A value has the names of a term**: there are objects at the same paths, with the same names, and
these are in ascending order. -/
structure NamedAlike (term : Term) (value : Value) : Prop where
  /-- Objects at the same paths have the same names in the same order. -/
  same : ∀ path names, (∃ held, value.At path (.object held) ∧ Entries.names held = names) ↔
    ∃ entries, term.At path (.object entries) ∧ entries.map Prod.fst = names
  /-- Names are in ascending order. -/
  ascending : ∀ path held, value.At path (.object held) → (Entries.names held).Pairwise (· < ·)

/-- A built argument has the fold of its literal as its default. -/
theorem default_of_buildArgument {σ τ : Type} {visit : Reference → Build σ τ} {context : String}
    {definition : ArgumentDefinition} {state next : σ} {argument : Argument τ}
    (built : buildArgument visit context definition state = .ok (argument, next)) :
    argument.default = definition.default.map Literal.fold := by
  have follows : ∀ reference,
      Yields (fun _ => True) (visit reference) (fun _ => True) :=
    fun _ _ _ _ _ _ => ⟨trivial, trivial⟩
  -- What references lead to does not matter, so that nothing is asked of it.
  have mirrors : Yields (fun _ => True) (buildArgument visit context definition)
      (·.Mirrors (fun _ _ => True) definition) :=
    yields_buildArgument follows context definition
  exact (mirrors state argument next trivial built).1.default

/-- What is written for a literal arrives as the fold of that literal. -/
theorem arrives_asTerm (literal : Literal) : literal.asTerm.Arrives literal.fold where
  folded position := by
    rw [toLiteral_eq_ok_iff.2 rfl]
    rfl
  built node written := by
    have default : node.default.mapM (toLiteral node.position) = .ok (some literal) := by
      rw [written, Option.mapM_some, toLiteral_eq_ok_iff.2 rfl]
      rfl
    refine ⟨⟨node.name, node.description, node.type.toRef, some literal, node.position⟩, ?_, ?_⟩
    · rw [ArgumentNode.toDefinition, default]
      rfl
    · intro σ τ visit context state next argument built
      exact default_of_buildArgument built

/-- **The names of what is folded are those of what is written**, if it is written in ascending order. -/
theorem namedAlike_asTerm {literal : Literal} (sorted : literal.asTerm.Sorted) :
    literal.asTerm.NamedAlike literal.fold := by
  have distinct := Literal.distinct_of_sorted sorted
  have same : ∀ path names,
      (∃ held, literal.fold.At path (.object held) ∧ Entries.names held = names) ↔
        ∃ entries, literal.asTerm.At path (.object entries) ∧ entries.map Prod.fst = names := by
    intro path names
    simp only [Literal.at_fold_iff, Literal.counts_iff_at distinct, Literal.at_asTerm_iff]
    constructor
    · rintro ⟨held, ⟨inner, inside, folded⟩, named⟩
      obtain ⟨entries, written, named'⟩ :=
        (Literal.exists_fold_eq_object_iff (distinct.at inside)).1 ⟨held, folded, named⟩
      exact ⟨entries, ⟨inner, inside, written⟩, named'⟩
    · rintro ⟨entries, ⟨inner, inside, written⟩, named⟩
      obtain ⟨held, folded, named'⟩ :=
        (Literal.exists_fold_eq_object_iff (distinct.at inside)).2 ⟨entries, written, named⟩
      exact ⟨held, ⟨inner, inside, folded⟩, named'⟩
  refine ⟨same, fun path held inside => ?_⟩
  obtain ⟨entries, inside', names⟩ := (same path _).1 ⟨held, inside, rfl⟩
  rw [← names]
  exact sorted path entries inside'

/-- **No default is lost or confused with another on its way into the graph.** Two terms without variables
arrive as values that are the same only if the terms are; and each value has objects where its term has
them, with the same names in ascending order.

Numbers are the same here if they have the same bits (`toBits_inj`), so that zeros of different signs are
told apart. But all NaNs are one number here: nothing is said of the payloads of NaNs.

**Proof sketch.** Each term is how some literal is written (`exists_asTerm`), and arrives as its fold. The
names of a term are in ascending order, so that its literal repeats none; and such a literal is read back
from its fold. -/
theorem arrives_told_apart {one other : Term} (constant : one.Constant) (constant' : other.Constant)
    (sorted : one.Sorted) (sorted' : other.Sorted) :
    ∃ value value', one.Arrives value ∧ other.Arrives value' ∧ (value = value' ↔ one = other) ∧
      one.NamedAlike value ∧ other.NamedAlike value' := by
  obtain ⟨literal, rfl⟩ := exists_asTerm constant sorted
  obtain ⟨literal', rfl⟩ := exists_asTerm constant' sorted'
  refine ⟨literal.fold, literal'.fold, arrives_asTerm literal, arrives_asTerm literal', ?_,
    namedAlike_asTerm sorted, namedAlike_asTerm sorted'⟩
  have back := Literal.asLiteral_fold (Literal.distinct_of_sorted sorted)
  have back' := Literal.asLiteral_fold (Literal.distinct_of_sorted sorted')
  constructor
  · intro same
    have literals : literal = literal' := by rw [← back, same, back']
    rw [literals]
  · intro same
    have folded := (arrives_asTerm literal).folded .unknown
    rw [same, (arrives_asTerm literal').folded .unknown] at folded
    exact (Except.ok.inj folded).symm

/-- An object with a number under the first of two names, and an object inside of a list under the
second. -/
def numbered (number : Float) : Literal :=
  .object [("a", .float number), ("b", .list [.object [("c", .null)]])]

/-- An object of this form is written in ascending order. -/
theorem sorted_numbered (number : Float) : (numbered number).asTerm.Sorted := by
  have leaf : (Term.float number).Sorted ∧ Term.null.Sorted := by
    constructor <;> rintro path entries ⟨⟩
  have inner : (Term.object [("c", .null)]).Sorted :=
    sorted_object_iff.2 ⟨List.pairwise_singleton _ _, by simp [leaf]⟩
  have written : (numbered number).asTerm =
      .object [("a", .float number), ("b", .list [.object [("c", .null)]])] := rfl
  rw [written, sorted_object_iff]
  constructor
  · show ["a", "b"].Pairwise (· < ·)
    decide
  · simp [sorted_list_iff, leaf, inner]

/-- Zeros of different signs are told apart, though they are equal as numbers. -/
theorem arrives_told_apart_numbered :
    (numbered 0.0).asTerm.Constant ∧ (numbered (-0.0)).asTerm.Constant ∧
    (numbered 0.0).asTerm.Sorted ∧ (numbered (-0.0)).asTerm.Sorted ∧
    (0.0 == (-0.0 : Float)) = true ∧
    ∃ value value', (numbered 0.0).asTerm.Arrives value ∧ (numbered (-0.0)).asTerm.Arrives value' ∧
      value ≠ value' ∧ (numbered 0.0).asTerm.NamedAlike value := by
  have constant := Literal.constant_asTerm (numbered 0.0)
  have constant' := Literal.constant_asTerm (numbered (-0.0))
  have sorted := sorted_numbered 0.0
  have sorted' := sorted_numbered (-0.0)
  obtain ⟨value, value', arrives, arrives', same, named, -⟩ :=
    arrives_told_apart constant constant' sorted sorted'
  have apart : (numbered 0.0).asTerm ≠ (numbered (-0.0)).asTerm := by
    intro equal
    have numbers : (0.0 : Float) = -0.0 := by
      simpa [numbered, Literal.asTerm, Literal.asEntries] using equal
    exact absurd (toBits_inj.2 numbers) (by decide)
  exact ⟨constant, constant', sorted, sorted', by decide, value, value', arrives, arrives',
    fun equal => apart (same.1 equal), named⟩

end Term

end SchemaAssembly
