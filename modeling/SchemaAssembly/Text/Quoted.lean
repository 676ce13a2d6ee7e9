import SchemaAssembly.Text.Printable

/-!
# Texts shown in quotes

Two ways to put a text between double quotes. The *inspected* form spells out every character
that a reader could not see; the *bare* form only keeps the quotes inside the text apart from
those around it.

## Main definitions

* `SchemaAssembly.Text.inspect` — the inspected form.
* `SchemaAssembly.Text.inspectOption` — the same for a text that may be missing.
* `SchemaAssembly.Text.inspectList` — the same for a list of texts.
* `SchemaAssembly.Text.bareQuoted` — the bare form.
-/

set_option relaxedAutoImplicit false
set_option autoImplicit false

namespace SchemaAssembly

namespace Text

/-! ## The inspected form -/

/-- One character of an inspected text. -/
def inspectChar (c : Char) : List Char :=
  if c = '"' || c = '\\' then ['\\', c]
  else if c = '\n' then ['\\', 'n']
  else if c = '\r' then ['\\', 'r']
  else if c = '\t' then ['\\', 't']
  else if c = '\x00' then ['\\', '0']
  else if isPrintable c then [c]
  else '\\' :: 'u' :: '\x7b' :: (Nat.toDigits 16 c.toNat ++ ['\x7d'])

/-- A text in quotes, with everything spelled out that a reader could not see. -/
def inspect (s : String) : String :=
  String.ofList ('"' :: (s.toList.flatMap inspectChar ++ ['"']))

/-- A text that may be missing: `Some` of its inspected form, or `None`. -/
def inspectOption : Option String → String
  | none => "None"
  | some s => s!"Some({inspect s})"

/-- Items separated by commas. -/
def commaSeparated (items : List String) : String := ", ".intercalate items

/-- A list of texts between brackets, each in its inspected form. -/
def inspectList (items : List String) : String :=
  s!"[{commaSeparated (items.map inspect)}]"

/-! ## The bare form -/

/-- One character of a bare quoted text: only the quote is marked. -/
def bareChar (c : Char) : List Char := if c = '"' then ['\\', '"'] else [c]

/-- A text in quotes in which only quotes are marked. -/
def bareQuoted (s : String) : List Char := '"' :: (s.toList.flatMap bareChar ++ ['"'])

end Text

end SchemaAssembly
