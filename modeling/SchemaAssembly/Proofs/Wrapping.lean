import SchemaAssembly.Document.Definitions
import SchemaAssembly.Proofs.Image

/-!
# Lists and non-null marks from a document to the graph

A type is written with lists and non-null marks in three ways. A document nests them as it likes, also
marks in marks; a reference has a mark or none at each level; and an occurrence of the graph is built from
the wrappers of a reference, innermost first, around what stands at the bottom. All three are compared by
what they show at each level, where a level is told by the number of lists around it. Nothing is lost from
one to the other, but for marks that are repeated at one level.

## Main definitions

* `SchemaAssembly.TypeExpr.HasLayer` — what a written type shows at a level.
* `SchemaAssembly.Occurrence.written`, `SchemaAssembly.Occurrence.bottom` — the wrapping of an occurrence,
  and what is wrapped.
* `SchemaAssembly.TypeRef.renamed` — a reference with another name at the bottom.
* `SchemaAssembly.Occurrence.Follows` — an occurrence is wrapped as a type is written.

## Main results

* `SchemaAssembly.Occurrence.Spells.text`, `Spells.unique` — an occurrence that spells a reference has the
  text of that reference, and spells no other.
* `SchemaAssembly.TypeRef.eq_of_wrappers` — a reference is told by its name and its wrappers.
* `SchemaAssembly.Occurrence.wrap_follows` — wrapping an occurrence as a type is written.
-/

set_option relaxedAutoImplicit false
set_option autoImplicit false

namespace SchemaAssembly

/-! ## Layers of written types -/

/-- What a written type is made of. -/
inductive Layer
  /-- The name at the bottom. -/
  | named
  /-- A list. -/
  | list
  /-- A non-null mark. -/
  | nonNull
deriving DecidableEq

namespace TypeExpr

/-- **What a written type shows at a level**, which is told by the number of lists around it. A mark
belongs to the level of what it marks. -/
inductive HasLayer : TypeExpr → Nat → Layer → Prop
  /-- A name is at the level of the type. -/
  | named (name : String) : HasLayer (.named name) 0 .named
  /-- A list is at the level of the type. -/
  | list (item : TypeExpr) : HasLayer (.list item) 0 .list
  /-- A mark is at the level of the type. -/
  | nonNull (inner : TypeExpr) : HasLayer (.nonNull inner) 0 .nonNull
  /-- What items show is one level further inside of the list. -/
  | ofItem {item : TypeExpr} {level : Nat} {layer : Layer} (shown : HasLayer item level layer) :
    HasLayer (.list item) (level + 1) layer
  /-- What is marked shows what it shows at the same level. -/
  | ofInner {inner : TypeExpr} {level : Nat} {layer : Layer} (shown : HasLayer inner level layer) :
    HasLayer (.nonNull inner) level layer

/-- **No mark stands directly inside of another.** -/
def Reduced : TypeExpr → Prop
  | named _ => True
  | list item => item.Reduced
  | nonNull (nonNull _) => False
  | nonNull inner => inner.Reduced

/-- A list shows itself, and further inside what its items show. -/
theorem hasLayer_list_iff {item : TypeExpr} {level : Nat} {layer : Layer} :
    (list item).HasLayer level layer ↔
      level = 0 ∧ layer = .list ∨ ∃ below, level = below + 1 ∧ item.HasLayer below layer := by
  constructor
  · intro shown
    cases shown with
    | list => exact .inl ⟨rfl, rfl⟩
    | ofItem shown => exact .inr ⟨_, rfl, shown⟩
  · rintro (⟨rfl, rfl⟩ | ⟨below, rfl, shown⟩)
    · exact .list item
    · exact .ofItem shown

/-- A mark shows itself, and what it marks at the same level. -/
theorem hasLayer_nonNull_iff {inner : TypeExpr} {level : Nat} {layer : Layer} :
    (nonNull inner).HasLayer level layer ↔
      level = 0 ∧ layer = .nonNull ∨ inner.HasLayer level layer := by
  constructor
  · intro shown
    cases shown with
    | nonNull => exact .inl ⟨rfl, rfl⟩
    | ofInner shown => exact .inr shown
  · rintro (⟨rfl, rfl⟩ | shown)
    · exact .nonNull inner
    · exact .ofInner shown

end TypeExpr

/-! ## References -/

namespace TypeRef

/-- The same reference with another name at the bottom. -/
def renamed (bottom : String) : TypeRef → TypeRef
  | named _ nonNull => named bottom nonNull
  | list item nonNull => list (item.renamed bottom) nonNull

variable {type : TypeRef} {bottom : String}

/-- The name at the bottom is the new one. -/
@[simp] theorem innermost_renamed : (type.renamed bottom).innermost = bottom := by
  induction type with
  | named name nonNull => rfl
  | list item nonNull ih => exact ih

/-- Another name does not change the wrappers. -/
@[simp] theorem wrappers_renamed : (type.renamed bottom).wrappers = type.wrappers := by
  induction type with
  | named name nonNull => rfl
  | list item nonNull ih => rw [renamed, wrappers, wrappers, ih]

/-- Another name does not change whether null is ruled out. -/
@[simp] theorem isNonNull_renamed : (type.renamed bottom).isNonNull = type.isNonNull := by
  cases type <;> rfl

/-- Another name does not change whether this is a list. -/
@[simp] theorem isList_renamed : (type.renamed bottom).isList = type.isList := by
  cases type <;> rfl

/-- The text of a reference that is made required has a mark at its end. -/
theorem text_required (nullable : type.isNonNull = false) :
    type.required.text = type.text ++ "!" := by
  cases type with
  | named name nonNull =>
    obtain rfl : nonNull = false := nullable
    simp [required, text]
  | list item nonNull =>
    obtain rfl : nonNull = false := nullable
    have closed : s!"[{item.text}]!" = s!"[{item.text}]" ++ "!" := by
      simp only [String.append_assoc]
      rfl
    simpa [required, text] using closed

/-- Ruling out null does not change whether this is a list. -/
@[simp] theorem isList_required : type.required.isList = type.isList := by
  cases type <;> rfl

end TypeRef

/-! ## Occurrences -/

namespace Occurrence

variable {B : Behaviours} {occurrence : Occurrence B}

/-- **The wrapping of an occurrence**, as a type that is written alike. -/
def written : Occurrence B → TypeExpr
  | concrete type => .named type.name
  | placeholder name => .named name
  | list inner => .list inner.written
  | nonNull inner => .nonNull inner.written

/-- What stands at the bottom, without anything around it. -/
def bottom : Occurrence B → Occurrence B
  | concrete type => concrete type
  | placeholder name => placeholder name
  | list inner | nonNull inner => inner.bottom

/-- Ruling out null shows a mark, and otherwise what was shown before. -/
theorem hasLayer_written_required_iff {level : Nat} {layer : Layer} :
    occurrence.required.written.HasLayer level layer ↔
      level = 0 ∧ layer = .nonNull ∨ occurrence.written.HasLayer level layer := by
  cases occurrence with
  | nonNull inner =>
    -- There is a mark already, which shows what one more mark would.
    rw [required, written, TypeExpr.hasLayer_nonNull_iff, ← or_assoc, or_self]
  | concrete type => exact TypeExpr.hasLayer_nonNull_iff
  | placeholder name => exact TypeExpr.hasLayer_nonNull_iff
  | list inner => exact TypeExpr.hasLayer_nonNull_iff

/-- Ruling out null puts no mark into another. -/
theorem reduced_written_required (reduced : occurrence.written.Reduced) :
    occurrence.required.written.Reduced := by
  cases occurrence <;> exact reduced

/-- Ruling out null changes nothing about the bottom. -/
@[simp] theorem bottom_required : occurrence.required.bottom = occurrence.bottom := by
  cases occurrence <;> rfl

/-- Wrapping in a list, after everything else, makes a list. -/
theorem wrap_listOf (type : TypeRef) :
    occurrence.wrap type.listOf.wrappers = .list (occurrence.wrap type.wrappers) := by
  simp [wrap, TypeRef.listOf, TypeRef.wrappers, TypeRef.marks, wrapOne]

/-- Wrapping as a required type is ruling out null after everything else. -/
theorem wrap_required (type : TypeRef) :
    occurrence.wrap type.required.wrappers = (occurrence.wrap type.wrappers).required := by
  cases type with
  | named name nonNull =>
    cases nonNull <;> simp [wrap, TypeRef.required, TypeRef.wrappers, TypeRef.marks, wrapOne]
  | list item nonNull =>
    cases nonNull <;> simp [wrap, TypeRef.required, TypeRef.wrappers, TypeRef.marks, wrapOne]

/-! ## What is spelled -/

/-- **An occurrence that spells a reference has its text.** -/
theorem Spells.text {type : TypeRef} (spelled : occurrence.Spells type) :
    occurrence.text = type.text := by
  induction spelled with
  | concrete type => rfl
  | placeholder name => rfl
  | list spelled ih => simp [Occurrence.text, TypeRef.text, ih]
  | nonNull nullable spelled ih => rw [Occurrence.text, ih, TypeRef.text_required nullable]

/-- An occurrence that spells a reference rules out null if the reference does. -/
theorem Spells.isNonNull {type : TypeRef} (spelled : occurrence.Spells type) :
    occurrence.isNonNull = type.isNonNull := by
  cases spelled with
  | nonNull nullable spelled => exact (TypeRef.isNonNull_required _).symm
  | _ => rfl

/-- An occurrence that spells a reference is a list if the reference is one. -/
theorem Spells.isList {type : TypeRef} (spelled : occurrence.Spells type) :
    occurrence.isList = type.isList := by
  induction spelled with
  | nonNull nullable spelled ih => rw [Occurrence.isList, ih, TypeRef.isList_required]
  | _ => rfl

/-- **An occurrence spells one reference only.** -/
theorem Spells.unique {type type' : TypeRef} (spelled : occurrence.Spells type)
    (spelled' : occurrence.Spells type') : type = type' := by
  induction spelled generalizing type' with
  | concrete type =>
    cases spelled'
    rfl
  | placeholder name =>
    cases spelled'
    rfl
  | list spelled ih =>
    cases spelled' with
    | list spelled' => rw [ih spelled']
  | nonNull nullable spelled ih =>
    cases spelled' with
    | nonNull nullable' spelled' => rw [ih spelled']

/-- What has nothing around it spells its name. -/
theorem spells_bare (bare : occurrence.inner? = none) :
    occurrence.Spells (.ofName occurrence.innermost) := by
  cases occurrence with
  | concrete type => exact .concrete type
  | placeholder name => exact .placeholder name
  | list inner => cases bare
  | nonNull inner => cases bare

/-- **Wrapping spells the reference**, with the name of what is wrapped at the bottom. -/
theorem spells_wrap_renamed (bare : occurrence.inner? = none) (type : TypeRef) :
    (occurrence.wrap type.wrappers).Spells (type.renamed occurrence.innermost) := by
  have bottom : occurrence.Spells (.ofName (type.renamed occurrence.innermost).innermost) := by
    rw [TypeRef.innermost_renamed]
    exact spells_bare bare
  simpa using spells_wrap _ bottom

end Occurrence

/-- **A reference is told by its name and its wrappers.**

**Proof sketch.** A placeholder of that name, wrapped in those wrappers, spells each of two such
references, and an occurrence spells one reference only. -/
theorem TypeRef.eq_of_wrappers {one other : TypeRef} (names : one.innermost = other.innermost)
    (same : one.wrappers = other.wrappers) : one = other := by
  have spelled : ∀ type : TypeRef,
      ((Occurrence.placeholder type.innermost : Occurrence plainBehaviours).wrap
        type.wrappers).Spells type := by
    intro type
    exact Occurrence.spells_wrap type (.placeholder type.innermost)
  have spelled' := spelled other
  rw [← names, ← same] at spelled'
  exact (spelled one).unique spelled'

/-! ## From a document to the graph -/

namespace Occurrence

variable {B : Behaviours}

/-- **An occurrence is wrapped as a type is written**, around another occurrence: it has lists and marks
at the same levels, and is what the reference of the written type says. -/
structure Follows (occurrence : Occurrence B) (type : TypeExpr) (bare : Occurrence B) : Prop where
  /-- At each level there is a list, a mark, a name if and only if one is written there. -/
  layers : ∀ level layer, occurrence.written.HasLayer level layer ↔ type.HasLayer level layer
  /-- Marks that are repeated in writing are there once. -/
  reduced : occurrence.written.Reduced
  /-- What is wrapped stands at the bottom. -/
  bottom : occurrence.bottom = bare
  /-- The text is that of the reference, with the name of what is wrapped. -/
  text : occurrence.text = (type.toRef.renamed bare.innermost).text
  /-- Null is ruled out if the reference rules it out. -/
  isNonNull : occurrence.isNonNull = type.toRef.isNonNull
  /-- This is a list if the reference is one. -/
  isList : occurrence.isList = type.toRef.isList

/-- An occurrence without anything around it is its own bottom. -/
theorem bottom_of_bare {bare : Occurrence B} (h : bare.inner? = none) : bare.bottom = bare := by
  cases bare with
  | concrete type => rfl
  | placeholder name => rfl
  | list inner => cases h
  | nonNull inner => cases h

/-- What has nothing around it is written as a name. -/
theorem exists_written_of_bare {bare : Occurrence B} (h : bare.inner? = none) :
    ∃ name, bare.written = .named name := by
  cases bare with
  | concrete type => exact ⟨_, rfl⟩
  | placeholder name => exact ⟨_, rfl⟩
  | list inner => cases h
  | nonNull inner => cases h

/-- **Wrapping shows what is written, level by level**, and marks are not repeated.

**Proof sketch.** By induction on the written type. A list comes after all that is around its items
(`wrap_listOf`), and so does a mark after all that is around what it marks (`wrap_required`); if that ends
in a mark already, one more shows nothing new. -/
theorem layers_wrap {bare : Occurrence B} (h : bare.inner? = none) (type : TypeExpr) :
    (∀ level layer, (bare.wrap type.toRef.wrappers).written.HasLayer level layer ↔
      type.HasLayer level layer) ∧
    (bare.wrap type.toRef.wrappers).written.Reduced ∧
    (bare.wrap type.toRef.wrappers).bottom = bare := by
  induction type with
  | named name =>
    obtain ⟨name', own⟩ := exists_written_of_bare h
    have unwrapped : bare.wrap (TypeExpr.named name).toRef.wrappers = bare := rfl
    rw [unwrapped, own]
    refine ⟨fun level layer => ?_, trivial, bottom_of_bare h⟩
    constructor
    · rintro ⟨⟩
      exact .named name
    · rintro ⟨⟩
      exact .named name'
  | list item ih =>
    obtain ⟨layers, reduced, bottom⟩ := ih
    rw [TypeExpr.toRef, wrap_listOf]
    refine ⟨fun level layer => ?_, reduced, bottom⟩
    rw [written, TypeExpr.hasLayer_list_iff, TypeExpr.hasLayer_list_iff]
    simp only [layers]
  | nonNull inner ih =>
    obtain ⟨layers, reduced, bottom⟩ := ih
    rw [TypeExpr.toRef, wrap_required]
    refine ⟨fun level layer => ?_, reduced_written_required reduced, bottom_required.trans bottom⟩
    rw [hasLayer_written_required_iff, TypeExpr.hasLayer_nonNull_iff, layers]

/-- **Wrapping survives from a document to the graph.** Any occurrence that has nothing around it becomes,
in the wrappers of what is written, an occurrence that is wrapped as it is written; and references are the
same if their names and their wrappers are.

**Proof sketch.** What stands at which level is followed through the wrappers (`layers_wrap`). For the rest
it is enough that the occurrence spells the reference (`spells_wrap_renamed`). -/
theorem wrap_follows (type : TypeExpr) (bare : Occurrence B) (h : bare.inner? = none) :
    (bare.wrap type.toRef.wrappers).Follows type bare ∧
    ∀ one other : TypeRef, one.innermost = other.innermost → one.wrappers = other.wrappers →
      one = other := by
  obtain ⟨layers, reduced, bottom⟩ := layers_wrap h type
  have spelled := spells_wrap_renamed h type.toRef
  refine ⟨?_, fun one other names same => TypeRef.eq_of_wrappers names same⟩
  exact {
    layers := layers
    reduced := reduced
    bottom := bottom
    text := spelled.text
    isNonNull := spelled.isNonNull.trans TypeRef.isNonNull_renamed
    isList := spelled.isList.trans TypeRef.isList_renamed }

/-- A type with two marks at its outermost level, none at the next, and one at the innermost. -/
def piledUp : TypeExpr := .nonNull (.nonNull (.list (.list (.nonNull (.named "Date")))))

/-- A placeholder that is wrapped as it is written has one mark where there are two, and its own name;
two references that differ at one level have different wrappers. -/
theorem wrap_follows_piledUp :
    (placeholder "Time" : Occurrence plainBehaviours).inner? = none ∧
    ((placeholder "Time" : Occurrence plainBehaviours).wrap piledUp.toRef.wrappers).Follows piledUp
      (placeholder "Time") ∧
    (placeholder "Time" : Occurrence plainBehaviours).wrap piledUp.toRef.wrappers =
      .nonNull (.list (.list (.nonNull (.placeholder "Time")))) ∧
    (piledUp.toRef.renamed "Time").text = "[[Time!]]!" ∧
    TypeRef.listOf (.named "Date" true) ≠ .list (.ofName "Date") true ∧
    (TypeRef.listOf (.named "Date" true)).wrappers ≠ (TypeRef.list (.ofName "Date") true).wrappers := by
  have bare : (placeholder "Time" : Occurrence plainBehaviours).inner? = none := rfl
  obtain ⟨follows, told⟩ := wrap_follows piledUp _ bare
  have differ : TypeRef.listOf (.named "Date" true) ≠ .list (.ofName "Date") true := by decide
  exact ⟨bare, follows, rfl, by decide +kernel, differ, fun same => differ (told _ _ rfl same)⟩

end Occurrence

end SchemaAssembly
