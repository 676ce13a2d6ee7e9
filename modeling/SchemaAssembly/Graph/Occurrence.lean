import SchemaAssembly.Graph.NamedType

/-!
# Occurrences of types

An occurrence is what a finished type refers to another by: a named type inside lists and
non-null marks. The named type is either held, finished, or only named by a placeholder, which is
left where the type was still being built.

## Main definitions

* `SchemaAssembly.Occurrence` — the occurrences.
* `SchemaAssembly.GraphType` — a finished type whose references are occurrences.
* `SchemaAssembly.Occurrence.wrap` — puts the wrappers of a reference around an occurrence.
* `SchemaAssembly.Occurrence.innermost` — the name at the bottom.
* `SchemaAssembly.Occurrence.held?` — the finished type at the bottom, unless it is only named.

## Main results

* `SchemaAssembly.Occurrence.required_required` — ruling out null twice changes nothing.
* `SchemaAssembly.Occurrence.held?_wrap`, `innermost_wrap` — wrapping leaves the bottom alone.
* `SchemaAssembly.Occurrence.sizeOf_held?_lt` — what an occurrence holds is smaller than it.
-/

set_option relaxedAutoImplicit false
set_option autoImplicit false

namespace SchemaAssembly

/-- An occurrence of a type. -/
inductive Occurrence (B : Behaviours)
  /-- A finished type. -/
  | concrete (type : NamedType B (Occurrence B))
  /-- A type that is only named. -/
  | placeholder (name : String)
  /-- A list of what is inside. -/
  | list (inner : Occurrence B)
  /-- What is inside, without null. -/
  | nonNull (inner : Occurrence B)

/-- A finished type whose references hold other finished types. -/
abbrev GraphType (B : Behaviours) := NamedType B (Occurrence B)

namespace Occurrence

variable {B : Behaviours}

/-! ## Wrapping -/

/-- The same occurrence with null ruled out, unless it is already. -/
def required : Occurrence B → Occurrence B
  | nonNull inner => nonNull inner
  | occurrence => nonNull occurrence

/-- Puts one wrapper around an occurrence. -/
def wrapOne (occurrence : Occurrence B) : Wrapper → Occurrence B
  | .list => list occurrence
  | .nonNull => occurrence.required

/-- Puts wrappers around an occurrence, the first one innermost. -/
def wrap (occurrence : Occurrence B) (wrappers : List Wrapper) : Occurrence B :=
  wrappers.foldl wrapOne occurrence

/-! ## Looking inside -/

/-- The name at the bottom. -/
def innermost : Occurrence B → String
  | concrete type => type.name
  | placeholder name => name
  | list inner | nonNull inner => inner.innermost

/-- What is directly inside a list or a non-null mark. -/
def inner? : Occurrence B → Option (Occurrence B)
  | list inner | nonNull inner => some inner
  | concrete _ | placeholder _ => none

/-- The finished type, if there is nothing around it. -/
def bare? : Occurrence B → Option (GraphType B)
  | concrete type => some type
  | _ => none

/-- The finished type at the bottom, unless it is only named. -/
def held? : Occurrence B → Option (GraphType B)
  | concrete type => some type
  | placeholder _ => none
  | list inner | nonNull inner => inner.held?

/-- Whether the type at the bottom is only named. -/
def isPlaceholder : Occurrence B → Bool
  | placeholder _ => true
  | concrete _ => false
  | list inner | nonNull inner => inner.isPlaceholder

/-- Whether null is ruled out. -/
def isNonNull : Occurrence B → Bool
  | nonNull _ => true
  | _ => false

/-- Whether this is a list, possibly with null ruled out. -/
def isList : Occurrence B → Bool
  | list _ => true
  | nonNull inner => inner.isList
  | concrete _ | placeholder _ => false

/-! ## Text -/

/-- The occurrence as its reference is written in a schema. -/
def text : Occurrence B → String
  | concrete type => type.name
  | placeholder name => name
  | list inner => s!"[{inner.text}]"
  | nonNull inner => inner.text ++ "!"

/-- The form shown for inspection, which tells placeholders from finished types. -/
def inspect : Occurrence B → String
  | concrete type => s!"Concrete({Text.inspect type.name})"
  | placeholder name => s!"Placeholder({Text.inspect name})"
  | list inner => s!"List({inner.inspect})"
  | nonNull inner => s!"NonNull({inner.inspect})"

/-! ## Laws -/

/-- Ruling out null twice changes nothing. -/
@[simp] theorem required_required (o : Occurrence B) : o.required.required = o.required := by
  cases o <;> rfl

/-- Ruling out null changes nothing about what is held. -/
@[simp] theorem held?_required (o : Occurrence B) : o.required.held? = o.held? := by
  cases o <;> rfl

/-- Ruling out null changes nothing about the name at the bottom. -/
@[simp] theorem innermost_required (o : Occurrence B) : o.required.innermost = o.innermost := by
  cases o <;> rfl

/-- Wrapping changes nothing about what is held. -/
@[simp] theorem held?_wrap (o : Occurrence B) (wrappers : List Wrapper) :
    (o.wrap wrappers).held? = o.held? := by
  induction wrappers generalizing o with
  | nil => rfl
  | cons wrapper rest ih =>
    cases wrapper with
    | list => exact ih o.list
    | nonNull => exact (ih o.required).trans (held?_required o)

/-- Wrapping changes nothing about the name at the bottom. -/
@[simp] theorem innermost_wrap (o : Occurrence B) (wrappers : List Wrapper) :
    (o.wrap wrappers).innermost = o.innermost := by
  induction wrappers generalizing o with
  | nil => rfl
  | cons wrapper rest ih =>
    cases wrapper with
    | list => exact ih o.list
    | nonNull => exact (ih o.required).trans (innermost_required o)

/-- A placeholder at the bottom and a finished type there exclude each other. -/
theorem held?_eq_none_iff (o : Occurrence B) : o.held? = none ↔ o.isPlaceholder = true := by
  fun_induction held? o <;> simp_all [isPlaceholder]

/-- The finished type held has the innermost name. -/
theorem name_of_held? {o : Occurrence B} {type : GraphType B} (h : o.held? = some type) :
    type.name = o.innermost := by
  fun_induction held? o <;> simp_all [innermost]

/-- What an occurrence holds is smaller than the occurrence. -/
theorem sizeOf_held?_lt {o : Occurrence B} {type : GraphType B} (h : o.held? = some type) :
    sizeOf type < sizeOf o := by
  fun_induction held? o <;> simp_all <;> omega

end Occurrence

end SchemaAssembly
