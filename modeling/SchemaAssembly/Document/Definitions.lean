import SchemaAssembly.Document
import SchemaAssembly.Registry

/-!
# The definitions of a document

Only what assembly understands is carried over from a document: directives and their declarations
are left out, and so are the interfaces that an interface names. Only objects and interfaces can
be extended, and the default of an argument may not depend on a variable. The first breach of
these rules, in the order of the document, is reported.

## Main definitions

* `SchemaAssembly.DocumentError` — what keeps a document from becoming a registry.
* `SchemaAssembly.TypeExpr.toRef` — a written type as a reference.
* `SchemaAssembly.Term.toLiteral` — a written term as a literal.
* `SchemaAssembly.Document.definitions` — the definitions of a document.
* `SchemaAssembly.Registry.ofDocument` — the registry of a document.
-/

set_option relaxedAutoImplicit false
set_option autoImplicit false

namespace SchemaAssembly

/-! ## Errors -/

/-- What keeps a text or a document from becoming a registry. -/
inductive DocumentError
  /-- The text is not a document. -/
  | malformed
  /-- An extension, at `position`, of a type of a kind that takes no extensions. -/
  | unsupportedExtension (kind : TypeKind) (name : String) (position : Position)
  /-- A variable in the default of an argument, which begins at `position`. -/
  | variableInDefault (name : String) (position : Position)
  /-- The definitions conflict with each other. -/
  | conflict (problem : SchemaProblem)
deriving DecidableEq, Repr

/-- The sentence that an error is reported with. What is wrong with a malformed text is for the
reader of the text to say. -/
def DocumentError.message : DocumentError → String
  | .malformed => "The text is not a schema document"
  | .unsupportedExtension kind name position =>
    s!"Cannot extend {kind.text} type '{name}' {position.text}, only objects and interfaces"
  | .variableInDefault name position =>
    s!"Variable '${name}' is not allowed in a default value {position.text}"
  | .conflict problem => problem.message

/-! ## Types and terms -/

/-- A written type as a reference. Marks that pile up on one level count once. -/
def TypeExpr.toRef : TypeExpr → TypeRef
  | named name => .ofName name
  | list item => .listOf item.toRef
  | nonNull inner => inner.toRef.required

namespace Term

mutual

/-- A written term as a literal, for an argument that begins at `position`. Fails at the first
variable. -/
def toLiteral (position : Position) : Term → Except DocumentError Literal
  | .variable name => .error (.variableInDefault name position)
  | .null => .ok .null
  | .int value => .ok (.int value)
  | .float value => .ok (.float value)
  | .string value => .ok (.string value)
  | .boolean value => .ok (.boolean value)
  | .enum name => .ok (.enum name)
  | .list items => (toLiterals position items).map .list
  | .object entries => (toEntries position entries).map .object

/-- Written items as literals. -/
def toLiterals (position : Position) : List Term → Except DocumentError (List Literal)
  | [] => .ok []
  | item :: rest => do
    let literal ← toLiteral position item
    let literals ← toLiterals position rest
    return literal :: literals

/-- Written entries as entries of a literal. -/
def toEntries (position : Position) :
    List (String × Term) → Except DocumentError (List (String × Literal))
  | [] => .ok []
  | (name, term) :: rest => do
    let literal ← toLiteral position term
    let entries ← toEntries position rest
    return (name, literal) :: entries

end

end Term

/-! ## Nodes -/

/-- The definition of an argument. -/
def ArgumentNode.toDefinition (node : ArgumentNode) :
    Except DocumentError ArgumentDefinition := do
  let default ← node.default.mapM (Term.toLiteral node.position)
  return ⟨node.name, node.description, node.type.toRef, default, node.position⟩

/-- The definition of a field. -/
def FieldNode.toDefinition (node : FieldNode) : Except DocumentError FieldDefinition := do
  let arguments ← node.arguments.mapM ArgumentNode.toDefinition
  return ⟨node.name, node.description, arguments, node.type.toRef, node.position⟩

/-- The definition of an enum value. -/
def EnumValueNode.toDefinition (node : EnumValueNode) : EnumValueDefinition :=
  ⟨node.name, node.description, node.position⟩

/-- The shape that a form defines. -/
def TypeForm.toShape : TypeForm → Except DocumentError TypeShape
  | .scalar => .ok .scalar
  | .object interfaces fields => do
    let fields ← fields.mapM FieldNode.toDefinition
    return .object fields interfaces
  | .interface _ fields => do
    let fields ← fields.mapM FieldNode.toDefinition
    return .interface fields
  | .union members => .ok (.union members)
  | .enum values => .ok (.enum (values.map EnumValueNode.toDefinition))
  | .inputObject fields => do
    let fields ← fields.mapM ArgumentNode.toDefinition
    return .inputObject fields

/-- The definition of a type. -/
def TypeNode.toDefinition (node : TypeNode) : Except DocumentError TypeDefinition := do
  let shape ← node.form.toShape
  return ⟨node.name, node.description, node.position, shape⟩

/-- The extension that a node makes. Interfaces take fields only, and other types than objects
and interfaces take nothing. -/
def ExtensionNode.toExtension (node : ExtensionNode) : Except DocumentError TypeExtension :=
  match node.form with
  | .object interfaces fields => do
    let fields ← fields.mapM FieldNode.toDefinition
    return ⟨node.name, interfaces, fields, node.position⟩
  | .interface _ fields => do
    let fields ← fields.mapM FieldNode.toDefinition
    return ⟨node.name, [], fields, node.position⟩
  | form => .error (.unsupportedExtension form.kind node.name node.position)

/-- The definition of the roots: queries first, then mutations, then subscriptions, each where
the schema is defined. -/
def SchemaNode.toDefinition (node : SchemaNode) : SchemaDefinition where
  roots :=
    (node.query.map fun name => ⟨.query, name, node.position⟩).toList ++
      (node.mutation.map fun name => ⟨.mutation, name, node.position⟩).toList ++
      (node.subscription.map fun name => ⟨.subscription, name, node.position⟩).toList
  position := node.position

/-- The definition that a node makes. The declaration of a directive makes none. -/
def Node.toDefinition? : Node → Except DocumentError (Option Definition)
  | .schema node => .ok (some (.schema node.toDefinition))
  | .type node => node.toDefinition.map fun type => some (.type type)
  | .extension node => node.toExtension.map fun extension => some (.extension extension)
  | .directive _ => .ok none

/-! ## Documents -/

/-- The definitions of a document, in its order. -/
def Document.definitions (document : Document) : Except DocumentError (List Definition) := do
  let definitions ← document.mapM Node.toDefinition?
  return definitions.filterMap id

/-- The registry of a document. Conflicts between definitions are only looked for once all of
the document has become definitions. -/
def Registry.ofDocument (document : Document) : Except DocumentError Registry := do
  let definitions ← document.definitions
  (Registry.ofDefinitions definitions).mapError .conflict

end SchemaAssembly
