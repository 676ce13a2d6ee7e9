import SchemaAssembly.Sdl.Tree

/-!
# Reading trees in order

A reader takes trees from the front of a list and gives what they stand for, or fails. What comes
next always tells which way to go on, so that a reader that fails need not go back.

## Main definitions

* `SchemaAssembly.Sdl.Reader` — the readers.
* `SchemaAssembly.Sdl.Reader.whileStarts` — reads one item after the other.
* `SchemaAssembly.Sdl.Reader.whole` — reads one item or more, with nothing left over.
* `SchemaAssembly.Sdl.Reader.separated` — reads one item or more with a mark between them.
-/

set_option relaxedAutoImplicit false
set_option autoImplicit false

namespace SchemaAssembly

namespace Sdl

/-- Reads something from the front of a list of trees. -/
abbrev Reader := StateT (List Tree) Option

namespace Reader

variable {α : Type}

/-- The reader that fails. -/
def fail : Reader α := fun _ => none

/-- The tree that comes next, without taking it. -/
def next? : Reader (Option Tree) := fun trees => some (trees.head?, trees)

/-- Takes the next tree. -/
def take : Reader Tree
  | tree :: rest => some (tree, rest)
  | [] => none

/-- The position of the next tree. -/
def position : Reader Position := do
  let some tree ← next? | fail
  return tree.position

/-- Whether a tree is the mark `c`. -/
def isMarkTree (c : Char) : Tree → Bool
  | .leaf (.mark d) _ => c = d
  | _ => false

/-- Whether a tree is the name `text`. -/
def isNameTree (text : String) : Tree → Bool
  | .leaf (.name other) _ => text = other
  | _ => false

/-- Whether a tree is a name. -/
def isAnyName : Tree → Bool
  | .leaf (.name _) _ => true
  | _ => false

/-- Whether a tree is a text in quotes. -/
def isStringTree : Tree → Bool
  | .leaf (.string _) _ => true
  | _ => false

/-- Whether a tree is a group in brackets of some kind. -/
def isGroup (bracket : Bracket) : Tree → Bool
  | .group other _ _ => bracket = other
  | _ => false

/-- Takes the mark `c`. -/
def mark (c : Char) : Reader Unit := do
  let tree ← take
  if isMarkTree c tree then return else fail

/-- Takes the name `text`. -/
def keyword (text : String) : Reader Unit := do
  let tree ← take
  if isNameTree text tree then return else fail

/-- Takes a name. -/
def name : Reader String := do
  let .leaf (.name text) _ ← take | fail
  return text

/-- Takes a group in brackets of some kind, and gives what stands inside. -/
def group (bracket : Bracket) : Reader (List Tree) := do
  let .group other _ children ← take | fail
  if bracket = other then return children else fail

/-- Reads an item if the next tree looks like its beginning. -/
def optionally (starts : Tree → Bool) (item : Reader α) : Reader (Option α) := do
  match ← next? with
  | some tree => if starts tree then some <$> item else return none
  | none => return none

/-- Takes the mark `c` if it comes next, and says whether it did. -/
def mark? (c : Char) : Reader Bool := Option.isSome <$> optionally (isMarkTree c) take

/-- Reads items for as long as the next tree looks like the beginning of one. -/
def whileStarts (starts : Tree → Bool) (item : Reader α) : Reader (List α)
  | [] => some ([], [])
  | tree :: trees =>
    if starts tree then
      match item (tree :: trees) with
      | some (first, rest) =>
        if rest.length < (tree :: trees).length then
          (whileStarts starts item rest).map fun (others, rest) => (first :: others, rest)
        else none
      | none => none
    else some ([], tree :: trees)
termination_by trees => trees.length
decreasing_by assumption

/-- Reads one item or more from a list of trees, with nothing left over. -/
def whole (item : Reader α) (trees : List Tree) : Option (List α) :=
  match whileStarts (fun _ => true) item trees with
  | some (items, []) => if items.isEmpty then none else some items
  | _ => none

/-- Reads a group with one item or more inside, if the next tree is one. -/
def optionalGroup (bracket : Bracket) (item : Reader α) : Reader (List α) := do
  match ← optionally (isGroup bracket) (group bracket) with
  | some children => liftM (whole item children)
  | none => return []

/-- Reads one item or more with the mark `c` between them. -/
def separated (c : Char) (item : Reader α) : Reader (List α) := do
  let first ← item
  let others ← whileStarts (isMarkTree c) do
    mark c
    item
  return first :: others

/-- Reads an item that a mark may stand before, and more with the mark between them. -/
def listing (c : Char) (item : Reader α) : Reader (List α) := do
  let _ ← mark? c
  separated c item

end Reader

end Sdl

end SchemaAssembly
