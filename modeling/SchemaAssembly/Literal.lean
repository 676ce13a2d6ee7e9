import SchemaAssembly.Decimal.Style
import SchemaAssembly.Text.Quoted

/-!
# Literals

A literal is a constant as it is written in a schema, for instance as the default of an argument.
Its objects are lists of entries, in the order in which they were written and with repetitions.

## Main definitions

* `SchemaAssembly.Literal` — the literals.
* `SchemaAssembly.Literal.same` — equality, with numbers compared as numbers.
* `SchemaAssembly.Literal.inspect` — the form in which a refused literal is reported.
-/

set_option relaxedAutoImplicit false
set_option autoImplicit false

namespace SchemaAssembly

/-- A constant as it is written in a schema. -/
inductive Literal
  /-- The null literal. -/
  | null
  /-- A whole number. -/
  | int (value : Int64)
  /-- A number with a fraction or an exponent. -/
  | float (value : Float)
  /-- A text in quotes. -/
  | string (value : String)
  /-- One of the two truth values. -/
  | boolean (value : Bool)
  /-- The bare name of an enum value. -/
  | enum (name : String)
  /-- A list. -/
  | list (items : List Literal)
  /-- An object, as the list of its entries. -/
  | object (entries : List (String × Literal))

namespace Literal

/-! ## Equality -/

mutual

/-- Equality of literals. Objects are compared as lists of entries, and floating-point numbers as
numbers: the two zeros are equal, and what is not a number differs from itself. -/
def same : Literal → Literal → Bool
  | .null, .null => true
  | .int a, .int b => a == b
  | .float a, .float b => a == b
  | .string a, .string b => a == b
  | .boolean a, .boolean b => a == b
  | .enum a, .enum b => a == b
  | .list as, .list bs => sameItems as bs
  | .object as, .object bs => sameEntries as bs
  | _, _ => false

/-- Equality of lists of literals, item by item. -/
def sameItems : List Literal → List Literal → Bool
  | [], [] => true
  | a :: as, b :: bs => same a b && sameItems as bs
  | _, _ => false

/-- Equality of lists of entries, entry by entry. -/
def sameEntries : List (String × Literal) → List (String × Literal) → Bool
  | [], [] => true
  | (j, a) :: as, (k, b) :: bs => j == k && same a b && sameEntries as bs
  | _, _ => false

end

instance : BEq Literal := ⟨same⟩

/-! ## Reports -/

/-- How numbers are written in a report: a whole number keeps its point, and the scientific form
is used below `10 ^ -4` and from `10 ^ 16` on. -/
def inspectStyle : DecimalStyle where
  tie := .up
  plain := some (-4, 15)
  keepsPoint := true
  notANumber := "NaN"
  infinity := "inf"
  negativeInfinity := "-inf"

mutual

/-- The report of a literal, with the kind of every part spelled out. -/
def inspect : Literal → String
  | .null => "Null"
  | .int value => s!"Int({value.toInt})"
  | .float value => s!"Float({inspectStyle.text value})"
  | .string value => s!"String({Text.inspect value})"
  | .boolean value => s!"Boolean({value})"
  | .enum name => s!"Enum({Text.inspect name})"
  | .list items => s!"List([{Text.commaSeparated (inspectItems items)}])"
  | .object entries => s!"Object([{Text.commaSeparated (inspectEntries entries)}])"

/-- The reports of the items of a list. -/
def inspectItems : List Literal → List String
  | [] => []
  | item :: rest => inspect item :: inspectItems rest

/-- The reports of the entries of an object. -/
def inspectEntries : List (String × Literal) → List String
  | [] => []
  | (name, value) :: rest => s!"({Text.inspect name}, {inspect value})" :: inspectEntries rest

end

end Literal

end SchemaAssembly
