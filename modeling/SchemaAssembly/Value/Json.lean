import SchemaAssembly.Value

/-!
# Values as JSON

The compact JSON text of a value: no blanks, objects in their own order, enum values as plain
texts of their names, and null where a number has no digits.

## Main definitions

* `SchemaAssembly.Value.jsonString` — a text between quotes, with the escapes of JSON.
* `SchemaAssembly.Value.jsonChars` — the characters of a value's JSON text.
* `SchemaAssembly.Value.json` — the JSON text.
-/

set_option relaxedAutoImplicit false
set_option autoImplicit false

namespace SchemaAssembly

namespace Value

/-- How numbers are written in JSON: a whole number keeps its point, and the scientific form is
used below `10 ^ -5` and from `10 ^ 16` on. What has no digits is null. -/
def jsonStyle : DecimalStyle where
  tie := .even
  plain := some (-5, 15)
  keepsPoint := true
  notANumber := "null"
  infinity := "null"
  negativeInfinity := "null"

/-- One character of a JSON text. Quotes, backslashes and controls are escaped, nothing else. -/
def jsonChar (c : Char) : List Char :=
  if c = '"' || c = '\\' then ['\\', c]
  else if c = '\x08' then ['\\', 'b']
  else if c = '\t' then ['\\', 't']
  else if c = '\n' then ['\\', 'n']
  else if c = '\x0c' then ['\\', 'f']
  else if c = '\r' then ['\\', 'r']
  else if c.toNat < 0x20 then
    ['\\', 'u', '0', '0', Nat.digitChar (c.toNat / 16), Nat.digitChar (c.toNat % 16)]
  else [c]

/-- A text between quotes, with the escapes of JSON. -/
def jsonString (s : String) : List Char := '"' :: (s.toList.flatMap jsonChar ++ ['"'])

mutual

/-- The characters of a value's JSON text. -/
def jsonChars : Value → List Char
  | .null => "null".toList
  | .int value => (toString value.toInt).toList
  | .float value => (jsonStyle.text value).toList
  | .string value => jsonString value
  | .boolean value => (toString value).toList
  | .enum name => jsonString name
  | .list items => '[' :: (separated [','] (jsonItems items) ++ [']'])
  | .object entries => '\x7b' :: (separated [','] (jsonEntries entries) ++ ['\x7d'])

/-- The JSON texts of the items of a list. -/
def jsonItems : List Value → List (List Char)
  | [] => []
  | item :: rest => jsonChars item :: jsonItems rest

/-- The JSON texts of the entries of an object. -/
def jsonEntries : List (String × Value) → List (List Char)
  | [] => []
  | (name, value) :: rest => (jsonString name ++ ':' :: jsonChars value) :: jsonEntries rest

end

/-- The compact JSON text of a value. -/
def json (value : Value) : String := String.ofList value.jsonChars

end Value

end SchemaAssembly
