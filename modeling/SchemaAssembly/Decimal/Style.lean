import SchemaAssembly.Decimal.Shortest

/-!
# Written forms of floating-point numbers

The digits of a number are the shortest that single it out; how they are laid out is a matter of
style. A style says from which size on the scientific form is used, whether a whole number
keeps `.0`, and how the values without digits are spelled.

## Main definitions

* `SchemaAssembly.DecimalStyle` — the decisions of one written form.
* `SchemaAssembly.DecimalStyle.text` — the written form of a floating-point number.
-/

set_option relaxedAutoImplicit false
set_option autoImplicit false

namespace SchemaAssembly

/-- The decisions that fix one written form of floating-point numbers. -/
structure DecimalStyle where
  /-- The neighbour taken when two shortest forms are equally near. -/
  tie : TieRule
  /-- The range of sizes, as powers of ten of the first digit, that are written without an
  exponent; without a range all are. -/
  plain : Option (Int × Int)
  /-- Whether a whole number written without an exponent keeps `.0`. -/
  keepsPoint : Bool
  /-- How a value that is not a number is spelled. -/
  notANumber : String
  /-- How positive infinity is spelled. -/
  infinity : String
  /-- How negative infinity is spelled. -/
  negativeInfinity : String

namespace DecimalStyle

/-- Whether a number whose first digit stands for `10 ^ size` is written without exponent. -/
def isPlain (style : DecimalStyle) (size : Int) : Bool :=
  match style.plain with
  | none => true
  | some (least, greatest) => least ≤ size && size ≤ greatest

/-- The digits `digits · 10 ^ exponent` written without an exponent. -/
def plainLayout (style : DecimalStyle) (digits : List Char) (exponent : Int) : List Char :=
  let point := (digits.length : Int) + exponent
  if 0 ≤ exponent then
    digits ++ List.replicate exponent.toNat '0' ++ if style.keepsPoint then ['.', '0'] else []
  else if 0 < point then
    digits.take point.toNat ++ '.' :: digits.drop point.toNat
  else
    '0' :: '.' :: (List.replicate (-point).toNat '0' ++ digits)

/-- The digits with a point after the first one, followed by the power of ten of that digit. -/
def scientificLayout (digits : List Char) (size : Int) : List Char :=
  let mantissa := match digits with
    | first :: next :: rest => first :: '.' :: next :: rest
    | short => short
  mantissa ++ 'e' :: (toString size).toList

/-- The digits of a coefficient without trailing zeros, and how many were left off. -/
def significant (coefficient : Nat) : List Char × Nat :=
  let digits := Nat.toDigits 10 coefficient
  let kept := (digits.reverse.dropWhile (· = '0')).reverse
  (kept, digits.length - kept.length)

/-- A nonzero decimal laid out in the style. -/
def layout (style : DecimalStyle) (d : Decimal) : List Char :=
  let (digits, dropped) := significant d.coefficient
  let exponent := d.exponent + dropped
  let size := (digits.length : Int) + exponent - 1
  if style.isPlain size then style.plainLayout digits exponent
  else scientificLayout digits size

/-- The mark of a negative number. -/
def signed (sign : Float.Model.UnpackedFloat.Sign) (digits : List Char) : List Char :=
  match sign with
  | .positive => digits
  | .negative => '-' :: digits

/-- Whether the step below a mantissa is half the step above it: at a power of two, unless the
exponent is already the least one. -/
def stepNarrows (mantissa : Nat) (exponent : Int) : Bool :=
  mantissa = Nat.pow 2 52 && -1074 < exponent

/-- The written form of a floating-point number. -/
def text (style : DecimalStyle) (x : Float) : String :=
  match x.toModel.unpack with
  | .notANumber => style.notANumber
  | .infinity .positive => style.infinity
  | .infinity .negative => style.negativeInfinity
  | .zero sign => String.ofList (signed sign (style.plainLayout ['0'] 0))
  | .finite sign mantissa exponent _ =>
    let interval := RoundingInterval.ofBinary mantissa exponent (stepNarrows mantissa exponent)
    String.ofList (signed sign (style.layout (interval.shortest style.tie)))

end DecimalStyle

end SchemaAssembly
