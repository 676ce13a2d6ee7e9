/-!
# References to types

A reference names a type and says how it is wrapped: in lists, and with or without null at each
level. It carries no meaning of its own and may name a type that does not exist.

## Main definitions

* `SchemaAssembly.TypeRef` — a reference; each level is nullable or required.
* `SchemaAssembly.TypeRef.required` — the same reference without null at its outermost level.
* `SchemaAssembly.TypeRef.innermost` — the name at the bottom.
* `SchemaAssembly.TypeRef.wrappers` — the lists and non-null marks around it, innermost first.
* `SchemaAssembly.TypeRef.text` — the reference as it is written in a schema.

## Main results

* `SchemaAssembly.TypeRef.required_required` — asking twice for a required type changes nothing.
-/

set_option relaxedAutoImplicit false
set_option autoImplicit false

namespace SchemaAssembly

/-- A reference to a type. At every level `nonNull` says whether null is ruled out. -/
inductive TypeRef
  /-- A named type. -/
  | named (name : String) (nonNull : Bool)
  /-- A list of some type. The mark concerns the list itself, not its items. -/
  | list (item : TypeRef) (nonNull : Bool)
deriving DecidableEq, Repr

/-- One step of wrapping around a named type. -/
inductive Wrapper
  /-- A list of what is inside. -/
  | list
  /-- What is inside, without null. -/
  | nonNull
deriving DecidableEq, Repr

namespace TypeRef

instance : Inhabited TypeRef := ⟨named "" false⟩

/-- A nullable reference to the type `name`. -/
def ofName (name : String) : TypeRef := named name false

/-- A nullable list of `item`. -/
def listOf (item : TypeRef) : TypeRef := list item false

/-- The same reference, with null ruled out at its outermost level. -/
def required : TypeRef → TypeRef
  | named name _ => named name true
  | list item _ => list item true

/-- Whether null is ruled out at the outermost level. -/
def isNonNull : TypeRef → Bool
  | named _ nonNull => nonNull
  | list _ nonNull => nonNull

/-- Whether this is a list at its outermost level. -/
def isList : TypeRef → Bool
  | named _ _ => false
  | list _ _ => true

/-- The name referred to, if there is no list around it. -/
def name? : TypeRef → Option String
  | named name _ => some name
  | list _ _ => none

/-- The name at the bottom of all lists. -/
def innermost : TypeRef → String
  | named name _ => name
  | list item _ => item.innermost

/-- The mark of a level as a wrapper. -/
def marks (nonNull : Bool) : List Wrapper := if nonNull then [.nonNull] else []

/-- The wrappers around the innermost name, innermost first. -/
def wrappers : TypeRef → List Wrapper
  | named _ nonNull => marks nonNull
  | list item nonNull => item.wrappers ++ Wrapper.list :: marks nonNull

/-- The reference as it is written in a schema. -/
def text : TypeRef → String
  | named name nonNull => if nonNull then name ++ "!" else name
  | list item nonNull => if nonNull then s!"[{item.text}]!" else s!"[{item.text}]"

/-- Asking twice for a required type changes nothing. -/
@[simp] theorem required_required (t : TypeRef) : t.required.required = t.required := by
  cases t <;> rfl

/-- A required reference rules null out. -/
@[simp] theorem isNonNull_required (t : TypeRef) : t.required.isNonNull = true := by
  cases t <;> rfl

/-- Ruling null out changes nothing about the name referred to. -/
@[simp] theorem innermost_required (t : TypeRef) : t.required.innermost = t.innermost := by
  cases t <;> rfl

end TypeRef

end SchemaAssembly
