import SchemaAssembly.Position
import SchemaAssembly.Text.Name

/-!
# Tokens of the schema language

A text of the schema language is a sequence of tokens with blanks between them. Blanks are spaces,
tabs, line ends, commas, byte order marks and comments.

## Main definitions

* `SchemaAssembly.Sdl.Token` — the tokens; `SchemaAssembly.Sdl.Placed` is a token at a position.
* `SchemaAssembly.Sdl.isDelimiter` — the characters that end a number.
* `SchemaAssembly.Position.past` — the position after a piece of text.
* `SchemaAssembly.Position.afterBlank` — the position after a blank.
-/

set_option relaxedAutoImplicit false
set_option autoImplicit false

namespace SchemaAssembly

namespace Sdl

/-- A token of the schema language. -/
inductive Token
  /-- A punctuator other than a bracket. -/
  | mark (character : Char)
  /-- An opening bracket. -/
  | opening (character : Char)
  /-- A closing bracket. -/
  | closing (character : Char)
  /-- A name. Keywords are names. -/
  | name (text : String)
  /-- A whole number. -/
  | int (value : Int64)
  /-- A number with a fraction or an exponent. -/
  | float (value : Float)
  /-- A text in quotes, with its escapes resolved. -/
  | string (text : String)
deriving DecidableEq

/-- A token at the position of its first character. -/
structure Placed where
  /-- The token. -/
  token : Token
  /-- Where it begins. -/
  position : Position

/-! ## Characters -/

/-- Whether a character is a punctuator other than a bracket. -/
def isMark (c : Char) : Bool := "!$:=@|&".toList.contains c

/-- Whether a character is an opening bracket. -/
def isOpening (c : Char) : Bool := c = '(' || c = '[' || c = '\x7b'

/-- Whether a character is a closing bracket. -/
def isClosing (c : Char) : Bool := c = ')' || c = ']' || c = '\x7d'

/-- Whether a character ends a number. -/
def isDelimiter (c : Char) : Bool :=
  " \n\r\t,#".toList.contains c || isMark c || isOpening c || isClosing c

/-- Whether a character is a blank by itself. -/
def isBlank (c : Char) : Bool := " \n\r\t,\ufeff".toList.contains c

/-- Whether a character ends a comment. -/
def endsComment (c : Char) : Bool := c = '\n' || c = '\r'

end Sdl

/-! ## Positions -/

namespace Position

/-- The position of the first character of a text. -/
def start : Position := ⟨1, 1⟩

/-- The beginning of the next line. -/
def nextLine (p : Position) : Position := ⟨p.line + 1, 1⟩

/-- The position after a piece of text inside a token. -/
def past (p : Position) (text : List Char) : Position :=
  text.foldl (fun q c => if c = '\n' then q.nextLine else { q with column := q.column + 1 }) p

/-- The position after a blank character between tokens. A tab counts as eight columns, and a
carriage return or a byte order mark as none. -/
def afterBlank (p : Position) (c : Char) : Position :=
  if c = '\n' then p.nextLine
  else if c = '\t' then { p with column := p.column + 8 }
  else if c = '\r' || c = '\ufeff' then p
  else { p with column := p.column + 1 }

end Position

end SchemaAssembly
