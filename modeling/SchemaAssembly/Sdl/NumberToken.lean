import SchemaAssembly.Decimal.Shortest
import SchemaAssembly.Sdl.Token

/-!
# Numbers of the schema language

A number is a run of characters up to the next delimiter. A whole number has no superfluous zeros
and fits into 64 bits. A number with a fraction or an exponent is the nearest floating-point
number; one that is too large is infinite.

## Main definitions

* `SchemaAssembly.Sdl.wholeDigits?` — the sign and the digits of a whole number.
* `SchemaAssembly.Sdl.exponent?` — the digits of an exponent, with their sign.
* `SchemaAssembly.Sdl.nearestFloat` — the floating-point number of a decimal.
* `SchemaAssembly.Sdl.numberToken?` — the token of a run of characters.
-/

set_option relaxedAutoImplicit false
set_option autoImplicit false

namespace SchemaAssembly

namespace Sdl

/-- The value of a list of decimal digits. -/
def digitsValue (digits : List Char) : Nat :=
  digits.foldl (fun value c => 10 * value + (c.toNat - '0'.toNat)) 0

/-- The sign and the digits of a whole number: a minus or nothing, and then either a single zero
or digits that do not begin with zero. -/
def wholeDigits? (text : List Char) : Option (Bool × List Char) :=
  let (negative, digits) := match text with
    | '-' :: rest => (true, rest)
    | _ => (false, text)
  match digits with
  | [] => none
  | ['0'] => some (negative, digits)
  | first :: rest =>
    if first.isDigit && first ≠ '0' && rest.all Char.isDigit then some (negative, digits)
    else none

/-- The digits of an exponent, with whether they are negative. The sign may be left out if the
first digit is one to eight. -/
def exponent? (text : List Char) : Option (Bool × List Char) :=
  match text with
  | [] => none
  | first :: rest =>
    if first = '-' || first = '+' then
      if !rest.isEmpty && rest.all Char.isDigit then some (first = '-', rest) else none
    else if '1' ≤ first && first ≤ '8' && rest.all Char.isDigit then some (false, text)
    else none

/-- A whole number of 64 bits. -/
def intToken? (text : List Char) : Option Token := do
  let (negative, digits) ← wholeDigits? text
  let size := digitsValue digits
  if negative then
    if size ≤ Nat.pow 2 63 then some (.int (Int64.ofInt (-(size : Int)))) else none
  else
    if size < Nat.pow 2 63 then some (.int (Int64.ofInt size)) else none

/-- The floating-point number nearest to `coefficient · 10 ^ exponent`. Sizes far outside the
range of floating-point numbers are told by the number of digits alone. -/
def nearestFloat (coefficient : Nat) (exponent : Int) : Float :=
  let size := (decimalLength coefficient : Int) + exponent
  if coefficient = 0 || size < -400 then 0
  else if 400 < size then Float.ofScientific 1 false 400
  else Float.ofScientific coefficient (exponent < 0) exponent.natAbs

/-- The token of a number with a fraction, or an exponent, or both. -/
def floatToken? (whole fraction power : List Char) : Option Token := do
  let (negative, digits) ← wholeDigits? whole
  let (shrinks, powerDigits) ← if power.isEmpty then some (false, []) else exponent? power
  let power : Int := if shrinks then -(digitsValue powerDigits : Int) else digitsValue powerDigits
  let size := nearestFloat (digitsValue (digits ++ fraction)) (power - fraction.length)
  some (.float (if negative then -size else size))

/-- Whether a character announces an exponent. -/
def isExponentMark (c : Char) : Bool := c = 'e' || c = 'E'

/-- The token of a run of characters that begins like a number. -/
def numberToken? (text : List Char) : Option Token :=
  let mantissa := text.takeWhile fun c => !isExponentMark c
  let whole := mantissa.takeWhile (· ≠ '.')
  match mantissa.drop whole.length, text.drop mantissa.length with
  | [], [] => intToken? whole
  | [], _ :: power => if power.isEmpty then none else floatToken? whole [] power
  | _ :: fraction, tail =>
    if fraction.isEmpty || !fraction.all Char.isDigit then none
    else match tail with
      | [] => floatToken? whole fraction []
      | _ :: power => if power.isEmpty then none else floatToken? whole fraction power

end Sdl

end SchemaAssembly
