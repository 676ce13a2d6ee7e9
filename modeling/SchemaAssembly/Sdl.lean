import SchemaAssembly.Document.Definitions
import SchemaAssembly.Sdl.Grammar
import SchemaAssembly.Sdl.Lexer

/-!
# Reading the schema language

A text is split into tokens, its brackets are paired up, and the resulting trees are read as a
document; the document then becomes a registry.

## Main definitions

* `SchemaAssembly.Sdl.parse?` — the document of a text.
* `SchemaAssembly.Registry.ofText` — the registry of a text.
-/

set_option relaxedAutoImplicit false
set_option autoImplicit false

namespace SchemaAssembly

/-- The document that a text is written for, if it is one. -/
def Sdl.parse? (text : String) : Option Document := do
  let tokens ← tokens? .start text.toList
  let trees ← nest? tokens
  document? trees

/-- The registry that a text is written for. -/
def Registry.ofText (text : String) : Except DocumentError Registry :=
  match Sdl.parse? text with
  | some document => Registry.ofDocument document
  | none => .error .malformed

end SchemaAssembly
