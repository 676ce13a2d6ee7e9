import SchemaAssembly.Document.Definitions

/-!
# Directives do not matter

A document may declare directives, put them on its parts and give them arguments, in which variables may
stand. Nothing of this is looked at when the document becomes definitions: without its directives it
becomes the same definitions, or fails in the same way.

## Main definitions

* `SchemaAssembly.Document.bare` — a document without directives.

## Main results

* `SchemaAssembly.Document.definitions_bare` — the definitions are the same without directives.
-/

set_option relaxedAutoImplicit false
set_option autoImplicit false

namespace SchemaAssembly

/-! ## Dropping directives -/

/-- An argument without directives. -/
def ArgumentNode.bare (node : ArgumentNode) : ArgumentNode := { node with directives := [] }

/-- A field without directives, be it on the field or on its arguments. -/
def FieldNode.bare (node : FieldNode) : FieldNode :=
  { node with arguments := node.arguments.map ArgumentNode.bare, directives := [] }

/-- An enum value without directives. -/
def EnumValueNode.bare (node : EnumValueNode) : EnumValueNode := { node with directives := [] }

/-- A form without directives on its parts. -/
def TypeForm.bare : TypeForm → TypeForm
  | .object interfaces fields => .object interfaces (fields.map FieldNode.bare)
  | .interface interfaces fields => .interface interfaces (fields.map FieldNode.bare)
  | .enum values => .enum (values.map EnumValueNode.bare)
  | .inputObject fields => .inputObject (fields.map ArgumentNode.bare)
  | .scalar => .scalar
  | .union members => .union members

/-- A type without directives, be it on the type or on its parts. -/
def TypeNode.bare (node : TypeNode) : TypeNode := { node with directives := [], form := node.form.bare }

/-- An extension without directives, be it that it adds them or that they are put on its parts. -/
def ExtensionNode.bare (node : ExtensionNode) : ExtensionNode :=
  { node with directives := [], form := node.form.bare }

/-- The roots of a schema without directives. -/
def SchemaNode.bare (node : SchemaNode) : SchemaNode := { node with directives := [] }

/-- An item without directives. Nothing is left of the declaration of a directive. -/
def Node.bare? : Node → Option Node
  | .schema node => some (.schema node.bare)
  | .type node => some (.type node.bare)
  | .extension node => some (.extension node.bare)
  | .directive _ => none

/-- **A document without directives**, be it that they are declared or that they are put on
something. -/
def Document.bare (document : Document) : Document := document.filterMap Node.bare?

/-! ## The same definitions -/

/-- A traversal is the same if the items become the same without directives. -/
theorem mapM_bare {ε α β : Type} {f : α → Except ε β} {bare : α → α} (same : ∀ a, f (bare a) = f a)
    (items : List α) : (items.map bare).mapM f = items.mapM f := by
  rw [List.mapM_map]
  exact congrArg (items.mapM ·) (funext same)

/-- An argument becomes the same without directives. -/
theorem ArgumentNode.toDefinition_bare (node : ArgumentNode) :
    node.bare.toDefinition = node.toDefinition := rfl

/-- A field becomes the same without directives. -/
theorem FieldNode.toDefinition_bare (node : FieldNode) :
    node.bare.toDefinition = node.toDefinition := by
  simp only [toDefinition, bare, mapM_bare ArgumentNode.toDefinition_bare]

/-- A form becomes the same shape without directives. -/
theorem TypeForm.toShape_bare (form : TypeForm) : form.bare.toShape = form.toShape := by
  cases form with
  | object interfaces fields | interface interfaces fields =>
    simp only [toShape, bare, mapM_bare FieldNode.toDefinition_bare]
  | inputObject fields => simp only [toShape, bare, mapM_bare ArgumentNode.toDefinition_bare]
  | enum values => simp [toShape, bare, EnumValueNode.bare, EnumValueNode.toDefinition]
  | scalar | union members => rfl

/-- A type becomes the same without directives. -/
theorem TypeNode.toDefinition_bare (node : TypeNode) : node.bare.toDefinition = node.toDefinition := by
  simp only [toDefinition, bare, TypeForm.toShape_bare]

/-- An extension becomes the same without directives. -/
theorem ExtensionNode.toExtension_bare (node : ExtensionNode) :
    node.bare.toExtension = node.toExtension := by
  obtain ⟨position, name, directives, form⟩ := node
  cases form with
  | object interfaces fields | interface interfaces fields =>
    simp only [toExtension, bare, TypeForm.bare, mapM_bare FieldNode.toDefinition_bare]
  | scalar | union members | enum values | inputObject fields => rfl

/-- An item becomes the same without directives, and where nothing is left of it, it becomes
nothing. -/
theorem Node.toDefinition?_bare (node : Node) :
    (∀ bare, node.bare? = some bare → bare.toDefinition? = node.toDefinition?) ∧
      (node.bare? = none → node.toDefinition? = .ok none) := by
  cases node with
  | schema node =>
    refine ⟨?_, nofun⟩
    rintro bare ⟨⟩
    rfl
  | type node =>
    refine ⟨?_, nofun⟩
    rintro bare ⟨⟩
    rw [toDefinition?, TypeNode.toDefinition_bare, toDefinition?]
  | extension node =>
    refine ⟨?_, nofun⟩
    rintro bare ⟨⟩
    rw [toDefinition?, ExtensionNode.toExtension_bare, toDefinition?]
  | directive node => exact ⟨nofun, fun _ => rfl⟩

/-- The definitions of a document are what its first item becomes and then those of the others. -/
theorem Document.definitions_cons (node : Node) (rest : Document) :
    Document.definitions (node :: rest) = (do
      let first ← node.toDefinition?
      let others ← rest.definitions
      return first.toList ++ others) := by
  unfold Document.definitions
  rw [List.mapM_cons]
  cases node.toDefinition? with
  | error error => rfl
  | ok first =>
    cases rest.mapM Node.toDefinition? with
    | error error => rfl
    | ok others => cases first <;> rfl

/-- **Without its directives a document becomes the same definitions**, or fails in the same way.

**Proof sketch.** Item by item. An item of which nothing is left without directives declares one, and
becomes no definition. -/
theorem Document.definitions_bare (document : Document) :
    document.bare.definitions = document.definitions := by
  induction document with
  | nil => rfl
  | cons node rest ih =>
    obtain ⟨same, nothing⟩ := node.toDefinition?_bare
    unfold Document.bare at ih ⊢
    cases left : node.bare? with
    | none =>
      rw [List.filterMap_cons_none left, ih, Document.definitions_cons, nothing left]
      cases Document.definitions rest <;> rfl
    | some bare =>
      rw [List.filterMap_cons_some left, Document.definitions_cons, Document.definitions_cons,
        same bare left, ih]

end SchemaAssembly
