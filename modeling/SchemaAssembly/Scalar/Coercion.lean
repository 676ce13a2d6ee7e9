import SchemaAssembly.Scalar.Standard
import SchemaAssembly.Value

/-!
# Scalar codecs

A codec converts between runtime values and the form in which they travel, and reads literals.
It refuses what does not fit its scalar, and then reports what it was given.

## Main definitions

* `SchemaAssembly.Coercing` — the three conversions of a codec.
* `SchemaAssembly.CoercionError` — a refusal, with the report of what was refused.
* `SchemaAssembly.StandardScalar.coerce?` — the conversion that a standard scalar applies in
  either direction.
-/

set_option relaxedAutoImplicit false
set_option autoImplicit false

namespace SchemaAssembly

/-- The refusal of a value by a codec. -/
structure CoercionError where
  /-- The name of the scalar that refused. -/
  typeName : String
  /-- The report of what was refused. -/
  found : String
deriving DecidableEq, Repr

/-- The sentence that a refusal is reported with. -/
def CoercionError.message (error : CoercionError) : String :=
  "Expected `" ++ error.typeName ++ "`, found: " ++ error.found

/-- The conversions of a codec. -/
class Coercing (κ : Type) where
  /-- Converts a runtime value into its outgoing form. -/
  serialize : κ → Value → Except CoercionError Value
  /-- Converts an incoming value into its runtime form. -/
  parseValue : κ → Value → Except CoercionError Value
  /-- Converts a literal into its runtime form. -/
  parseLiteral : κ → Literal → Except CoercionError Value

namespace StandardScalar

/-- Whether a whole number fits into 32 bits. -/
def fits32 (i : Int64) : Bool := Int32.minValue.toInt ≤ i.toInt && i.toInt ≤ Int32.maxValue.toInt

/-- What a standard scalar makes of a value, if it takes it. Whole numbers are taken as
floating-point numbers, and as identifiers by their digits. -/
def coerce? : StandardScalar → Value → Option Value
  | int, .int i => if fits32 i then some (.int i) else none
  | float, .float x => some (.float x)
  | float, .int i => some (.float (Float.ofInt i.toInt))
  | string, .string s => some (.string s)
  | boolean, .boolean b => some (.boolean b)
  | id, .string s => some (.string s)
  | id, .int i => some (.string (toString i.toInt))
  | _, _ => none

/-- The conversion of values, in either direction. -/
def coerce (scalar : StandardScalar) (value : Value) : Except CoercionError Value :=
  match scalar.coerce? value with
  | some converted => .ok converted
  | none => .error ⟨scalar.name, value.text⟩

/-- The reading of literals. Only numbers, texts and truth values are considered; anything else
is refused with the report of the literal. -/
def readLiteral (scalar : StandardScalar) : Literal → Except CoercionError Value
  | .int i => scalar.coerce (.int i)
  | .float x => scalar.coerce (.float x)
  | .string s => scalar.coerce (.string s)
  | .boolean b => scalar.coerce (.boolean b)
  | refused => .error ⟨scalar.name, refused.inspect⟩

instance : Coercing StandardScalar := ⟨coerce, coerce, readLiteral⟩

end StandardScalar

end SchemaAssembly
