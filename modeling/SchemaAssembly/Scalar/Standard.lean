import SchemaAssembly.Definition

/-!
# The standard scalars

Five scalars are known to every schema without being declared. They are listed in a fixed order,
and each comes with the definition that it would have if it were declared.

## Main definitions

* `SchemaAssembly.StandardScalar` — the five scalars; `SchemaAssembly.StandardScalar.all` lists
  them.
* `SchemaAssembly.StandardScalar.ofName?` — the standard scalar of a name.
* `SchemaAssembly.StandardScalar.definition` — the definition of a standard scalar.
-/

set_option relaxedAutoImplicit false
set_option autoImplicit false

namespace SchemaAssembly

/-- The scalars that every schema knows. -/
inductive StandardScalar
  /-- Whole numbers of 32 bits. -/
  | int
  /-- Floating-point numbers. -/
  | float
  /-- Texts. -/
  | string
  /-- Truth values. -/
  | boolean
  /-- Identifiers: texts, or whole numbers standing for their digits. -/
  | id
deriving DecidableEq, Repr

namespace StandardScalar

/-- The standard scalars in their fixed order. -/
def all : List StandardScalar := [int, float, string, boolean, id]

/-- The name of a standard scalar. -/
def name : StandardScalar → String
  | int => "Int"
  | float => "Float"
  | string => "String"
  | boolean => "Boolean"
  | id => "ID"

/-- The description of a standard scalar. -/
def description (scalar : StandardScalar) : String := "Built-in " ++ scalar.name

/-- The names of the standard scalars in their fixed order. -/
def names : List String := all.map name

/-- The standard scalar of a name, if there is one. -/
def ofName? (name : String) : Option StandardScalar := all.find? (·.name = name)

/-- Whether a standard scalar has this name. -/
def isStandard (name : String) : Bool := (ofName? name).isSome

/-- The definition of a standard scalar, as if it had been declared. -/
def definition (scalar : StandardScalar) : TypeDefinition where
  name := scalar.name
  description := some scalar.description
  position := .unknown
  shape := .scalar

end StandardScalar

end SchemaAssembly
