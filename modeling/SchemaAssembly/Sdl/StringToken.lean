import SchemaAssembly.Sdl.Token

/-!
# Texts of the schema language

A text stands between quotes on one line, with escapes, or between triple quotes over any number
of lines. In the second form the common indentation is removed, blank lines at either end are
dropped, and only the triple quote can be escaped.

## Main definitions

* `SchemaAssembly.Sdl.plainEnd?` — how far a text on one line reaches.
* `SchemaAssembly.Sdl.unescape?` — the text with its escapes resolved.
* `SchemaAssembly.Sdl.blockEnd?` — how far a text between triple quotes reaches.
* `SchemaAssembly.Sdl.dedent` — the text of its lines.
-/

set_option relaxedAutoImplicit false
set_option autoImplicit false

namespace SchemaAssembly

namespace Sdl

/-! ## Texts on one line -/

/-- How many characters stand before the closing quote of a text on one line. A quote after a
backslash does not close it, unless that backslash is itself escaped. -/
def plainEnd? (escaped : Bool) : List Char → Option Nat
  | [] => none
  | c :: rest =>
    if c = '"' && !escaped then some 0
    else if c = '\n' then none
    else (plainEnd? (!escaped && c = '\\') rest).map (· + 1)

/-- The value of a hexadecimal digit. -/
def hexValue? (c : Char) : Option Nat :=
  if c.isDigit then some (c.toNat - '0'.toNat)
  else if 'a' ≤ c && c ≤ 'f' then some (c.toNat - 'a'.toNat + 10)
  else if 'A' ≤ c && c ≤ 'F' then some (c.toNat - 'A'.toNat + 10)
  else none

/-- The value of hexadecimal digits. -/
def hexDigits? (digits : List Char) : Option Nat :=
  digits.foldlM (fun value c => (hexValue? c).map (16 * value + ·)) 0

/-- The character of four places behind a code mark: hexadecimal digits, the first of which may
give way to a plus sign. A surrogate is no character. -/
def codeChar? (places : List Char) : Option Char := do
  let digits := match places with
    | '+' :: rest => rest
    | _ => places
  let code ← hexDigits? digits
  if code.isValidChar then some (Char.ofNat code) else none

/-- The character that a letter behind a backslash stands for. -/
def escapedChar? (c : Char) : Option Char :=
  match c with
  | '"' | '\\' | '/' => some c
  | 'b' => some '\x10'
  | 'f' => some '\x0c'
  | 'n' => some '\n'
  | 'r' => some '\r'
  | 't' => some '\t'
  | _ => none

/-- A text on one line with its escapes resolved. -/
def unescape? : List Char → Option (List Char)
  | [] => some []
  | '\\' :: 'u' :: a :: b :: c :: d :: rest => do
    let first ← codeChar? [a, b, c, d]
    let others ← unescape? rest
    return first :: others
  | '\\' :: c :: rest => do
    let first ← escapedChar? c
    let others ← unescape? rest
    return first :: others
  | c :: rest => if c = '\\' then none else (unescape? rest).map (c :: ·)

/-! ## Texts between triple quotes -/

/-- How many characters stand before the closing triple quote. A triple quote after a backslash
does not close the text. -/
def blockEnd? (afterBackslash : Bool) : List Char → Option Nat
  | '"' :: '"' :: '"' :: rest =>
    if afterBackslash then (blockEnd? false rest).map (· + 3) else some 0
  | c :: rest => (blockEnd? (c = '\\') rest).map (· + 1)
  | [] => none

/-- Whether a character is white space. -/
def isWhite (c : Char) : Bool :=
  let code := c.toNat
  (9 ≤ code && code ≤ 13) || code = 0x20 || code = 0x85 || code = 0xA0 || code = 0x1680 ||
    (0x2000 ≤ code && code ≤ 0x200A) || code = 0x2028 || code = 0x2029 || code = 0x202F ||
    code = 0x205F || code = 0x3000

/-- The lines of a text. A line ends with a line feed, which may follow a carriage return; the
last line need not end so. -/
def lines : List Char → List (List Char)
  | [] => []
  | c :: rest =>
    if c = '\n' then [] :: lines rest
    else match rest, lines rest with
      | '\n' :: _, first :: others => (if c = '\r' then first else c :: first) :: others
      | _, first :: others => (c :: first) :: others
      | _, [] => [[c]]

/-- The number of bytes in which a text is stored. -/
def byteSize (text : List Char) : Nat := text.foldl (fun size c => size + c.utf8Size) 0

/-- The white space that a line begins with, by its size in bytes. -/
def indentOf (line : List Char) : Nat := byteSize (line.takeWhile isWhite)

/-- Whether a line holds white space only. -/
def isWhiteLine (line : List Char) : Bool := line.all isWhite

/-- Drops the first `indent` bytes of a line. -/
def dropIndent (indent : Nat) : List Char → List Char
  | [] => []
  | c :: rest => if indent = 0 then c :: rest else dropIndent (indent - c.utf8Size) rest

/-- The least indentation of the lines after the first that are not white. -/
def commonIndent? (laterLines : List (List Char)) : Option Nat :=
  ((laterLines.filter fun line => !isWhiteLine line).map indentOf).min?

/-- A line without the common indentation. A line that is too short for it is left as it is. -/
def dedentLine (indent : Option Nat) (line : List Char) : List Char :=
  match indent with
  | some indent => if indent ≤ byteSize line then dropIndent indent line else line
  | none => line

/-- A text in which escaped triple quotes stand for themselves. -/
def unescapeQuotes : List Char → List Char
  | '\\' :: '"' :: '"' :: '"' :: rest => '"' :: '"' :: '"' :: unescapeQuotes rest
  | c :: rest => c :: unescapeQuotes rest
  | [] => []

/-- The text between triple quotes: its lines without their common indentation, from the first to
the last that is not white. The first line keeps the white space that it begins with. -/
def dedent (text : List Char) : List Char :=
  match lines text with
  | [] => []
  | first :: later =>
    let dedented := first :: later.map (dedentLine (commonIndent? later))
    let marked := dedented.zip ((first :: later).map isWhiteLine)
    let kept := ((marked.dropWhile (·.2)).reverse.dropWhile (·.2)).reverse
    ['\n'].intercalate (kept.map fun line => unescapeQuotes line.1)

end Sdl

end SchemaAssembly
