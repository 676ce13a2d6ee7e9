import SchemaAssembly.Scalar.Type

/-!
# Finished named types

A finished type carries everything that its definition said, with behaviours bound and defaults
folded. How it refers to other types is left open: the type `τ` of references is a parameter, so
the same shape serves for types that hold one another and for types that only name one another.

## Main definitions

* `SchemaAssembly.Argument`, `Field`, `EnumValue` — the parts of finished types.
* `SchemaAssembly.NamedType` — a finished type; `SchemaAssembly.TypeBody` tells kinds apart.
* `SchemaAssembly.NamedType.references` — every reference that a type makes, in order.

## Main results

* `SchemaAssembly.NamedType.sizeOf_references_lt` — the references of a type are smaller than the
  type, so that recursion may go through them.
-/

set_option relaxedAutoImplicit false
set_option autoImplicit false

namespace SchemaAssembly

/-- An argument of a finished field, or a field of a finished input object. -/
structure Argument (τ : Type) where
  /-- The name of the argument. -/
  name : String
  /-- What the argument is for, if anything is said. -/
  description : Option String
  /-- The type of the argument. -/
  type : τ
  /-- The value taken when the argument is left out, if there is one. -/
  default : Option Value

/-- A finished field of an object or an interface. -/
structure Field (B : Behaviours) (τ : Type) where
  /-- The name of the field. -/
  name : String
  /-- What the field is for, if anything is said. -/
  description : Option String
  /-- The arguments that the field takes. -/
  arguments : List (Argument τ)
  /-- The type of the field. -/
  type : τ
  /-- What the field is bound to. -/
  resolver : FieldResolver B

/-- A value of a finished enum. -/
structure EnumValue where
  /-- The name of the value. -/
  name : String
  /-- What the value stands for, if anything is said. -/
  description : Option String
deriving DecidableEq, Repr

/-- What sets the kinds of finished types apart. -/
inductive TypeBody (B : Behaviours) (τ : Type)
  /-- A scalar has a codec. -/
  | scalar (codec : Codec B)
  /-- An object has fields and implements interfaces. -/
  | object (fields : List (Field B τ)) (interfaces : List τ)
  /-- An interface has fields, and possibly a resolver. -/
  | interface (fields : List (Field B τ)) (resolver : TypeResolverBinding B)
  /-- A union has members, and possibly a resolver. -/
  | union (members : List τ) (resolver : TypeResolverBinding B)
  /-- An enum has values. -/
  | enum (values : List EnumValue)
  /-- An input object has input fields. -/
  | inputObject (fields : List (Argument τ))

/-- A finished type. -/
structure NamedType (B : Behaviours) (τ : Type) where
  /-- The name of the type. -/
  name : String
  /-- What the type is for, if anything is said. -/
  description : Option String
  /-- The kind of the type, with its parts. -/
  body : TypeBody B τ

variable {B : Behaviours} {τ : Type}

/-- The kind of a body. -/
def TypeBody.kind : TypeBody B τ → TypeKind
  | scalar _ => .scalar
  | object _ _ => .object
  | interface _ _ => .interface
  | union _ _ => .union
  | enum _ => .enum
  | inputObject _ => .inputObject

namespace Field

/-- The references that a field makes: those of its arguments, then that of its own type. -/
def references (field : Field B τ) : List τ := field.arguments.map (·.type) ++ [field.type]

/-- The first argument of a name. -/
def argument? (field : Field B τ) (name : String) : Option (Argument τ) :=
  field.arguments.find? (·.name = name)

end Field

namespace NamedType

/-! ## Parts -/

/-- The kind of a type. -/
def kind (type : NamedType B τ) : TypeKind := type.body.kind

/-- The finished type of a scalar. -/
def ofScalar (scalar : ScalarType B) : NamedType B τ :=
  ⟨scalar.name, scalar.description, .scalar scalar.codec⟩

/-- The scalar that a type is, if it is one. -/
def scalar? (type : NamedType B τ) : Option (ScalarType B) :=
  match type.body with
  | .scalar codec => some ⟨type.name, type.description, codec⟩
  | _ => none

/-- The fields of an object or an interface. Other types have none. -/
def fields (type : NamedType B τ) : List (Field B τ) :=
  match type.body with
  | .object fields _ | .interface fields _ => fields
  | _ => []

/-- The first field of a name. -/
def field? (type : NamedType B τ) (name : String) : Option (Field B τ) :=
  type.fields.find? (·.name = name)

/-- The fields of an input object. Other types have none. -/
def inputFields (type : NamedType B τ) : List (Argument τ) :=
  match type.body with
  | .inputObject fields => fields
  | _ => []

/-- The first input field of a name. -/
def inputField? (type : NamedType B τ) (name : String) : Option (Argument τ) :=
  type.inputFields.find? (·.name = name)

/-- The interfaces that an object implements. Other types implement none. -/
def interfaces (type : NamedType B τ) : List τ :=
  match type.body with
  | .object _ interfaces => interfaces
  | _ => []

/-- The members of a union. Other types have none. -/
def members (type : NamedType B τ) : List τ :=
  match type.body with
  | .union members _ => members
  | _ => []

/-- What an interface or a union is bound to. Other types are not bound. -/
def binding? (type : NamedType B τ) : Option (TypeResolverBinding B) :=
  match type.body with
  | .interface _ resolver | .union _ resolver => some resolver
  | _ => none

/-- Every reference that a type makes: those of its fields, then its interfaces; its members; or
those of its input fields. -/
def references (type : NamedType B τ) : List τ :=
  match type.body with
  | .object fields interfaces => fields.flatMap Field.references ++ interfaces
  | .interface fields _ => fields.flatMap Field.references
  | .union members _ => members
  | .inputObject fields => fields.map (·.type)
  | .scalar _ | .enum _ => []

/-! ## Kinds -/

/-- Whether values of the type have parts to select: objects, interfaces and unions. -/
def isComposite (type : NamedType B τ) : Bool :=
  type.kind = .object || type.kind = .interface || type.kind = .union

/-- Whether values of the type have no parts: scalars and enums. -/
def isLeaf (type : NamedType B τ) : Bool := type.kind = .scalar || type.kind = .enum

/-- Whether the type stands for several others: interfaces and unions. -/
def isAbstract (type : NamedType B τ) : Bool := type.kind = .interface || type.kind = .union

/-- Whether the type may be the type of an argument. -/
def isInput (type : NamedType B τ) : Bool := type.kind.isInput

/-- Whether the type may be the type of a field. -/
def isOutput (type : NamedType B τ) : Bool := type.kind.isOutput

/-! ## Sizes -/

/-- Lists that are put together are as large as both, but for one end. -/
theorem sizeOf_append [SizeOf τ] (as bs : List τ) :
    sizeOf (as ++ bs) + 1 = sizeOf as + sizeOf bs := by
  induction as with
  | nil => simp; omega
  | cons a as ih => simp; omega

private theorem sizeOf_argumentTypes_le [SizeOf τ] (arguments : List (Argument τ)) :
    sizeOf (arguments.map (·.type)) ≤ sizeOf arguments := by
  induction arguments with
  | nil => simp
  | cons argument rest ih => cases argument; simp at ih ⊢; omega

private theorem sizeOf_fieldReferences_le [SizeOf τ] (fields : List (Field B τ)) :
    sizeOf (fields.flatMap Field.references) ≤ sizeOf fields := by
  induction fields with
  | nil => simp
  | cons field rest ih =>
    have ha := sizeOf_argumentTypes_le field.arguments
    have h₁ := sizeOf_append (Field.references field) (rest.flatMap Field.references)
    have h₂ := sizeOf_append (field.arguments.map (·.type)) [field.type]
    cases field
    simp [Field.references] at ih ha h₁ h₂ ⊢
    omega

/-- The references of a type are smaller than the type. -/
theorem sizeOf_references_lt [SizeOf τ] (type : NamedType B τ) :
    sizeOf type.references < sizeOf type := by
  obtain ⟨name, description, body⟩ := type
  cases body with
  | object fields interfaces =>
    have h := sizeOf_fieldReferences_le fields
    have ha := sizeOf_append (fields.flatMap Field.references) interfaces
    simp [references]
    omega
  | interface fields resolver =>
    have h := sizeOf_fieldReferences_le fields
    simp [references]
    omega
  | union members resolver => simp [references]; omega
  | inputObject fields =>
    have h := sizeOf_argumentTypes_le fields
    simp [references]
    omega
  | scalar codec => simp [references]; omega
  | enum values => simp [references]; omega

end NamedType

end SchemaAssembly
