import SchemaAssembly.Literal
import SchemaAssembly.Position
import SchemaAssembly.TypeRef

/-!
# Definitions

What a schema is made of before anything is assembled: named types of six kinds, extensions that
add to a named type, and the binding of operations to their root types. Definitions refer to
each other by name only.

## Main definitions

* `SchemaAssembly.TypeKind` — the six kinds, and where a type of each may stand.
* `SchemaAssembly.ArgumentDefinition`, `FieldDefinition`, `EnumValueDefinition` — the parts.
* `SchemaAssembly.TypeDefinition` — a named type; `SchemaAssembly.TypeShape` tells kinds apart.
* `SchemaAssembly.TypeExtension` — fields and interfaces added to a named type.
* `SchemaAssembly.SchemaDefinition` — the root type of each operation.
* `SchemaAssembly.Definition` — any of the three.
-/

set_option relaxedAutoImplicit false
set_option autoImplicit false

namespace SchemaAssembly

/-! ## Kinds -/

/-- The kinds of named types. -/
inductive TypeKind
  /-- A leaf with a codec. -/
  | scalar
  /-- A composite with fields. -/
  | object
  /-- An abstract type with fields. -/
  | interface
  /-- An abstract type over a set of members. -/
  | union
  /-- A leaf with a fixed set of values. -/
  | enum
  /-- A composite for input. -/
  | inputObject
deriving DecidableEq, Repr

namespace TypeKind

/-- The name of a kind in messages. -/
def text : TypeKind → String
  | scalar => "scalar"
  | object => "object"
  | interface => "interface"
  | union => "union"
  | enum => "enum"
  | inputObject => "input object"

/-- Whether a type of this kind may be the type of an argument or of an input field. -/
def isInput : TypeKind → Bool
  | scalar | enum | inputObject => true
  | object | interface | union => false

/-- Whether a type of this kind may be the type of a field. -/
def isOutput : TypeKind → Bool
  | inputObject => false
  | scalar | object | interface | union | enum => true

/-- Exactly the leaf kinds may stand on both sides. -/
theorem isInput_and_isOutput_iff (kind : TypeKind) :
    (kind.isInput = true ∧ kind.isOutput = true) ↔ kind = scalar ∨ kind = enum := by
  cases kind <;> simp [isInput, isOutput]

end TypeKind

/-! ## Parts of definitions -/

/-- An argument of a field, or a field of an input object. -/
structure ArgumentDefinition where
  /-- The name of the argument. -/
  name : String
  /-- What the argument is for, if anything is said. -/
  description : Option String
  /-- The type of the argument. -/
  type : TypeRef
  /-- The literal taken when the argument is left out, if there is one. -/
  default : Option Literal
  /-- Where the argument is defined. -/
  position : Position
deriving BEq

/-- A field of an object, of an interface or of an extension. -/
structure FieldDefinition where
  /-- The name of the field. -/
  name : String
  /-- What the field is for, if anything is said. -/
  description : Option String
  /-- The arguments that the field takes. -/
  arguments : List ArgumentDefinition
  /-- The type of the field. -/
  type : TypeRef
  /-- Where the field is defined. -/
  position : Position
deriving BEq

/-- One value of an enum. -/
structure EnumValueDefinition where
  /-- The name of the value. -/
  name : String
  /-- What the value stands for, if anything is said. -/
  description : Option String
  /-- Where the value is defined. -/
  position : Position
deriving BEq

/-! ## Types -/

/-- What sets the kinds of type definitions apart. -/
inductive TypeShape
  /-- A scalar has no parts. -/
  | scalar
  /-- An object has fields and names the interfaces that it implements. -/
  | object (fields : List FieldDefinition) (interfaces : List String)
  /-- An interface has fields. -/
  | interface (fields : List FieldDefinition)
  /-- A union names its members. -/
  | union (members : List String)
  /-- An enum lists its values. -/
  | enum (values : List EnumValueDefinition)
  /-- An input object has input fields. -/
  | inputObject (fields : List ArgumentDefinition)
deriving BEq

/-- The definition of a named type. -/
structure TypeDefinition where
  /-- The name defined. -/
  name : String
  /-- What the type is for, if anything is said. -/
  description : Option String
  /-- Where the type is defined. -/
  position : Position
  /-- The kind of the type, with its parts. -/
  shape : TypeShape
deriving BEq

/-- The kind of a shape. -/
def TypeShape.kind : TypeShape → TypeKind
  | scalar => .scalar
  | object _ _ => .object
  | interface _ => .interface
  | union _ => .union
  | enum _ => .enum
  | inputObject _ => .inputObject

namespace TypeDefinition

/-- The kind of the defined type. -/
def kind (definition : TypeDefinition) : TypeKind := definition.shape.kind

/-- Whether a scalar is defined. -/
def isScalar (definition : TypeDefinition) : Bool := definition.kind = .scalar

/-- The same definition at another position. -/
def placedAt (definition : TypeDefinition) (position : Position) : TypeDefinition :=
  { definition with position }

/-- The same definition with another description. -/
def describedAs (definition : TypeDefinition) (description : String) : TypeDefinition :=
  { definition with description := some description }

end TypeDefinition

/-- Fields and interfaces added to the type of some name. Extensions pile up; they never
conflict with anything. -/
structure TypeExtension where
  /-- The name of the extended type. -/
  name : String
  /-- The interfaces added. -/
  interfaces : List String
  /-- The fields added. -/
  fields : List FieldDefinition
  /-- Where the extension stands. -/
  position : Position
deriving BEq

/-! ## Operations -/

/-- The operations that a schema may have a root type for. -/
inductive Operation
  /-- Reading. -/
  | query
  /-- Writing. -/
  | mutation
  /-- Listening. -/
  | subscription
deriving DecidableEq, Repr

/-- The name of an operation in messages. -/
def Operation.text : Operation → String
  | .query => "query"
  | .mutation => "mutation"
  | .subscription => "subscription"

/-- The binding of an operation to its root type. -/
structure RootBinding where
  /-- The operation bound. -/
  operation : Operation
  /-- The name of its root type. -/
  typeName : String
  /-- Where the binding stands. -/
  position : Position
deriving BEq

/-- The definition of the roots of a schema. -/
structure SchemaDefinition where
  /-- The bindings, in the order in which they are written. -/
  roots : List RootBinding
  /-- Where the schema is defined. -/
  position : Position
deriving BEq

/-- The binding of an operation. Where it is bound more than once, the first binding counts. -/
def SchemaDefinition.root? (schema : SchemaDefinition) (operation : Operation) :
    Option RootBinding :=
  schema.roots.find? (·.operation = operation)

/-! ## Definitions -/

/-- Anything that can be defined. -/
inductive Definition
  /-- A named type. -/
  | type (definition : TypeDefinition)
  /-- An extension of a named type. -/
  | extension (definition : TypeExtension)
  /-- The roots of the schema. -/
  | schema (definition : SchemaDefinition)
deriving BEq

end SchemaAssembly
