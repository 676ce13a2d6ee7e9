import SchemaAssembly.Sdl.Token

/-!
# Nested tokens

Brackets come in pairs. Once they are paired up, a text is a list of trees: a token by itself, or
what stands between two brackets. Brackets nest only so deep.

## Main definitions

* `SchemaAssembly.Sdl.Tree` — a token, or a group in brackets.
* `SchemaAssembly.Sdl.maxDepth` — how many brackets may be open at once.
* `SchemaAssembly.Sdl.nest?` — the trees of a list of tokens.
-/

set_option relaxedAutoImplicit false
set_option autoImplicit false

namespace SchemaAssembly

namespace Sdl

/-- A pair of brackets. -/
inductive Bracket
  /-- Parentheses. -/
  | round
  /-- Square brackets. -/
  | square
  /-- Braces. -/
  | curly
deriving DecidableEq, Repr

namespace Bracket

/-- The pair that an opening bracket belongs to. -/
def ofOpening (c : Char) : Bracket := if c = '(' then round else if c = '[' then square else curly

/-- The pair that a closing bracket belongs to. -/
def ofClosing (c : Char) : Bracket := if c = ')' then round else if c = ']' then square else curly

end Bracket

/-- A token that is no bracket, or what stands between two brackets. -/
inductive Tree
  /-- A token. -/
  | leaf (token : Token) (position : Position)
  /-- What stands between two brackets, the first of which has the given position. -/
  | group (bracket : Bracket) (position : Position) (children : List Tree)

/-- The position at which a tree begins. -/
def Tree.position : Tree → Position
  | leaf _ position => position
  | group _ position _ => position

/-- How many brackets may be open at once. -/
def maxDepth : Nat := 50

/-- A bracket that is still open, with the trees that stand before it, last one first. -/
structure OpenBracket where
  /-- The bracket. -/
  bracket : Bracket
  /-- Where it was opened. -/
  position : Position
  /-- The trees before it on the same level, last one first. -/
  before : List Tree

/-- Pairs up the brackets of the tokens that are left, given the brackets still open, the
innermost one first, and the trees since then, last one first. -/
def nestFrom? (stillOpen : List OpenBracket) (current : List Tree) :
    List Placed → Option (List Tree)
  | [] => if stillOpen.isEmpty then some current.reverse else none
  | ⟨.opening c, position⟩ :: rest =>
    if stillOpen.length < maxDepth then
      nestFrom? (⟨.ofOpening c, position, current⟩ :: stillOpen) [] rest
    else none
  | ⟨.closing c, _⟩ :: rest =>
    match stillOpen with
    | [] => none
    | innermost :: others =>
      if innermost.bracket = .ofClosing c then
        nestFrom? others
          (.group innermost.bracket innermost.position current.reverse :: innermost.before) rest
      else none
  | ⟨token, position⟩ :: rest => nestFrom? stillOpen (.leaf token position :: current) rest

/-- The trees of a list of tokens, if their brackets pair up. -/
def nest? (tokens : List Placed) : Option (List Tree) := nestFrom? [] [] tokens

end Sdl

end SchemaAssembly
