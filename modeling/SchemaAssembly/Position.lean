/-!
# Places in a source text

Every definition remembers where it was read, so that a conflict can point back at both of its
sides. A definition made in memory has no place; it carries the unknown position.

## Main definitions

* `SchemaAssembly.Position` — a line and a column, both counted from one.
* `SchemaAssembly.Position.text` — the form in which messages quote a position.
-/

set_option relaxedAutoImplicit false
set_option autoImplicit false

namespace SchemaAssembly

/-- A place in a source text. Line and column count from one; line zero with column zero stands
for a definition that was not read from a text. -/
structure Position where
  /-- The line, counted from one. -/
  line : Nat
  /-- The column, counted from one. -/
  column : Nat
deriving DecidableEq, Repr

namespace Position

/-- The position of a definition that was not read from a text. -/
def unknown : Position := ⟨0, 0⟩

instance : Inhabited Position := ⟨unknown⟩

/-- Whether the position points into a text. Only line zero with column zero does not. -/
def isKnown (p : Position) : Bool := p.line != 0 || p.column != 0

/-- The form quoted in messages: line and column, or the mark of an unknown position. -/
def text (p : Position) : String :=
  if p.isKnown then s!"[@{p.line}:{p.column}]" else "[@unknown]"

/-- Positions are ordered by line, and by column within a line. -/
instance : Ord Position :=
  ⟨fun p q => (compare p.line q.line).then (compare p.column q.column)⟩

end Position

end SchemaAssembly
