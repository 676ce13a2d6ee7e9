import SchemaAssembly.Sdl.NumberToken
import SchemaAssembly.Sdl.StringToken

/-!
# Splitting a text into tokens

The tokens of a text, each with the position at which it begins. A text that is not made of
tokens and blanks has none.

## Main definitions

* `SchemaAssembly.Sdl.firstToken?` — the token that a text begins with, and its size.
* `SchemaAssembly.Sdl.tokens?` — all tokens of a text.
-/

set_option relaxedAutoImplicit false
set_option autoImplicit false

namespace SchemaAssembly

namespace Sdl

/-- The token that a text begins with, and how many characters it takes. -/
def firstToken? : List Char → Option (Token × Nat)
  | [] => none
  | '"' :: '"' :: '"' :: rest => do
    let size ← blockEnd? false rest
    return (.string (String.ofList (dedent (rest.take size))), size + 6)
  | '"' :: rest => do
    let size ← plainEnd? false rest
    let text ← unescape? (rest.take size)
    return (.string (String.ofList text), size + 2)
  | c :: rest =>
    if Text.isNameStart c then
      let others := rest.takeWhile Text.isNamePart
      some (.name (String.ofList (c :: others)), others.length + 1)
    else if c = '-' || c.isDigit then
      let others := rest.takeWhile fun d => !isDelimiter d
      (numberToken? (c :: others)).map fun token => (token, others.length + 1)
    else if isMark c then some (.mark c, 1)
    else if isOpening c then some (.opening c, 1)
    else if isClosing c then some (.closing c, 1)
    else none

/-- The tokens of a text that begins at a position. -/
def tokens? (position : Position) : List Char → Option (List Placed)
  | [] => some []
  | c :: rest =>
    if isBlank c then tokens? (position.afterBlank c) rest
    else if c = '#' then
      tokens? position.nextLine (rest.dropWhile fun d => !endsComment d).tail
    else
      match firstToken? (c :: rest) with
      | none => none
      | some (token, size) =>
        (tokens? (position.past ((c :: rest).take size)) (rest.drop (size - 1))).map
          (⟨token, position⟩ :: ·)
termination_by text => text.length
decreasing_by
  · simp
  · have := (List.dropWhile_suffix (fun d => !endsComment d) : _ <:+ rest).length_le
    simp only [List.length_tail, List.length_cons]
    omega
  · simp only [List.length_drop, List.length_cons]
    omega

end Sdl

end SchemaAssembly
