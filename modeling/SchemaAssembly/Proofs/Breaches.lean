import SchemaAssembly.Proofs.Terms

/-!
# What is wrong in a document

Two things keep a document from becoming definitions: an extension of a type that takes no extensions,
and a variable in the default of an argument or an input field. Where they are is said part by part, as
paths into the document; directives are no part of it, be it that they are declared or that they are put
on something. The definitions of a document are looked for in its order, so that what is reported is the
first thing that is wrong.

## Main definitions

* `SchemaAssembly.Document.Breach` — what is wrong where in a document.
* `SchemaAssembly.Document.arguments` — all arguments and input fields of a document.
* `SchemaAssembly.Document.Sorted` — defaults are in ascending order of names.
* `SchemaAssembly.Document.Unfit` — something is wrong somewhere in a document.

## Main results

* `SchemaAssembly.Document.exists_breach_iff` — something is wrong exactly if a document is unfit.
* `SchemaAssembly.Document.reports_definitions` — what is wrong first is reported.
-/

set_option relaxedAutoImplicit false
set_option autoImplicit false

namespace SchemaAssembly

/-! ## Breaches -/

/-- What is wrong in an argument: the variables in its default. They are reported where the argument
begins. -/
def ArgumentNode.Breach (node : ArgumentNode) (path : List PathStep) (error : DocumentError) : Prop :=
  ∃ term, node.default = some term ∧ term.Breach node.position path error

/-- What is wrong in a field is wrong in one of its arguments. -/
def FieldNode.Breach (node : FieldNode) : List PathStep → DocumentError → Prop :=
  AtItem node.arguments ArgumentNode.Breach

/-- What is wrong in a form is wrong in one of its fields. -/
def TypeForm.Breach : TypeForm → List PathStep → DocumentError → Prop
  | .object _ fields | .interface _ fields => AtItem fields FieldNode.Breach
  | .inputObject fields => AtItem fields ArgumentNode.Breach
  | .scalar | .union _ | .enum _ => fun _ _ => False

/-- Whether a type of the kind of a form takes extensions: only objects and interfaces do. -/
def TypeForm.TakesExtensions (form : TypeForm) : Prop := form.kind = .object ∨ form.kind = .interface

/-- What is wrong with an extension: that there is one, if the extended type takes none, and what is
wrong in its parts. -/
def ExtensionNode.Breach (node : ExtensionNode) (path : List PathStep) (error : DocumentError) : Prop :=
  ¬ node.form.TakesExtensions ∧ path = [] ∧
      error = .unsupportedExtension node.form.kind node.name node.position ∨
    node.form.Breach path error

/-- What is wrong in an item of a document. Nothing can be wrong with the roots of a schema, nor with
the declaration of a directive. -/
def Node.Breach : Node → List PathStep → DocumentError → Prop
  | .type node => node.form.Breach
  | .extension node => node.Breach
  | .schema _ | .directive _ => fun _ _ => False

/-- **What is wrong where in a document.** A path leads from an item to a field, to an argument, and
into its default; or from an item to an input field, and into its default. -/
def Document.Breach (document : Document) : List PathStep → DocumentError → Prop :=
  AtItem document Node.Breach

/-! ## Where something is wrong -/

/-- The arguments of the fields of a form, or its input fields. -/
def TypeForm.arguments : TypeForm → List ArgumentNode
  | .object _ fields | .interface _ fields => fields.flatMap FieldNode.arguments
  | .inputObject fields => fields
  | .scalar | .union _ | .enum _ => []

/-- The arguments of the fields, or the input fields, of a type or an extension. -/
def Node.arguments : Node → List ArgumentNode
  | .type node => node.form.arguments
  | .extension node => node.form.arguments
  | .schema _ | .directive _ => []

/-- **All arguments and input fields** of the types and the extensions of a document. -/
def Document.arguments (document : Document) : List ArgumentNode := document.flatMap Node.arguments

/-- A variable stands somewhere in the default of an argument. -/
def ArgumentNode.Varies (node : ArgumentNode) : Prop :=
  ∃ term path name, node.default = some term ∧ term.At path (.variable name)

/-- The objects in the default of an argument are in ascending order of their names. -/
def ArgumentNode.Sorted (node : ArgumentNode) : Prop :=
  ∀ term, node.default = some term → term.Sorted

/-- **The objects in defaults are in ascending order of their names**, as a reader makes them. -/
def Document.Sorted (document : Document) : Prop := ∀ node ∈ document.arguments, node.Sorted

/-- Something is wrong in an argument if there is a variable in its default. -/
theorem ArgumentNode.exists_breach_iff (node : ArgumentNode) :
    (∃ path error, node.Breach path error) ↔ node.Varies := by
  constructor
  · rintro ⟨path, -, term, written, name, inside, rfl⟩
    exact ⟨term, path, name, written, inside⟩
  · rintro ⟨term, path, name, written, inside⟩
    exact ⟨path, _, term, written, name, inside, rfl⟩

/-- Something is wrong in a form if there is a variable in the default of an argument. -/
theorem TypeForm.exists_breach_iff (form : TypeForm) :
    (∃ path error, form.Breach path error) ↔ ∃ node ∈ form.arguments, node.Varies := by
  cases form with
  | object interfaces fields | interface interfaces fields =>
    simp only [Breach, FieldNode.Breach, exists_atItem_iff, ArgumentNode.exists_breach_iff, arguments,
      List.mem_flatMap]
    grind
  | inputObject fields =>
    simp only [Breach, exists_atItem_iff, ArgumentNode.exists_breach_iff, arguments]
  | scalar | union members | enum values => simp [Breach, arguments]

/-- Something is wrong in an item if it extends a type that takes no extensions, or if there is a
variable in the default of an argument. -/
theorem Node.exists_breach_iff (node : Node) :
    (∃ path error, node.Breach path error) ↔
      (∃ extension, node = .extension extension ∧ ¬ extension.form.TakesExtensions) ∨
        ∃ argument ∈ node.arguments, argument.Varies := by
  cases node with
  | type node => simp [Breach, arguments, TypeForm.exists_breach_iff]
  | extension node =>
    simp only [Breach, ExtensionNode.Breach, exists_or, TypeForm.exists_breach_iff, arguments,
      extension.injEq, exists_eq_left', exists_and_left, exists_eq, and_true]
  | schema node | directive node => simp [Breach, arguments]

/-- **A document is unfit** if it extends a type that takes no extensions, or if a variable stands
somewhere in the default of an argument or an input field. -/
def Document.Unfit (document : Document) : Prop :=
  (∃ node, .extension node ∈ document ∧ ¬ node.form.TakesExtensions) ∨
    ∃ argument ∈ document.arguments, argument.Varies

/-- **Something is wrong somewhere in a document exactly if it is unfit.** -/
theorem Document.exists_breach_iff (document : Document) :
    (∃ path error, document.Breach path error) ↔ document.Unfit := by
  rw [Breach, exists_atItem_iff]
  simp only [Node.exists_breach_iff, Unfit, arguments, List.mem_flatMap]
  constructor
  · rintro ⟨_, h, ⟨node, rfl, refused⟩ | ⟨argument, held, varies⟩⟩
    · exact .inl ⟨node, h, refused⟩
    · exact .inr ⟨argument, ⟨_, h, held⟩, varies⟩
  · rintro (⟨node, h, refused⟩ | ⟨argument, ⟨node, h, held⟩, varies⟩)
    · exact ⟨_, h, .inl ⟨node, rfl, refused⟩⟩
    · exact ⟨node, h, .inr ⟨argument, held, varies⟩⟩

/-! ## Errors of breaches -/

/-- An error that is about a document, as opposed to one about the definitions made from it. -/
def DocumentError.OfBreach : DocumentError → Prop
  | .unsupportedExtension _ _ _ | .variableInDefault _ _ => True
  | .malformed | .conflict _ => False

/-- What is wrong in an argument is about the document. -/
theorem ArgumentNode.Breach.ofBreach {node : ArgumentNode} {path : List PathStep}
    {error : DocumentError} (wrong : node.Breach path error) : error.OfBreach := by
  obtain ⟨term, -, name, -, rfl⟩ := wrong
  trivial

/-- What is wrong in a form is about the document. -/
theorem TypeForm.Breach.ofBreach {form : TypeForm} {path : List PathStep} {error : DocumentError}
    (wrong : form.Breach path error) : error.OfBreach := by
  cases form with
  | object interfaces fields | interface interfaces fields =>
    exact AtItem.elim wrong fun field path inner =>
      AtItem.elim inner fun argument path => ArgumentNode.Breach.ofBreach
  | inputObject fields => exact AtItem.elim wrong fun field path => ArgumentNode.Breach.ofBreach
  | scalar | union members | enum values => exact wrong.elim

/-- What is wrong in a document is about it. -/
theorem Document.Breach.ofBreach {document : Document} {path : List PathStep} {error : DocumentError}
    (wrong : document.Breach path error) : error.OfBreach := by
  refine AtItem.elim wrong fun node path inner => ?_
  cases node with
  | type node => exact TypeForm.Breach.ofBreach inner
  | extension node =>
    obtain ⟨-, -, rfl⟩ | parts := inner
    · trivial
    · exact parts.ofBreach
  | schema node | directive node => exact inner.elim

/-! ## Reports -/

/-- An argument becomes a definition unless there is a variable in its default. -/
theorem ArgumentNode.reports_toDefinition {node : ArgumentNode} (sorted : node.Sorted) :
    Reports node.Breach node.toDefinition := by
  refine Reports.bind_pure ?_ _
  cases written : node.default with
  | none =>
    rintro path error ⟨term, given, -⟩
    rw [written] at given
    cases given
  | some term =>
    refine ((term.reports_toLiteral node.position (sorted term written)).map some).congr
      fun path error => ?_
    simp [Breach, written]

/-- A field becomes a definition unless something is wrong in one of its arguments. -/
theorem FieldNode.reports_toDefinition {node : FieldNode}
    (sorted : ∀ argument ∈ node.arguments, argument.Sorted) :
    Reports node.Breach node.toDefinition :=
  (Reports.mapM_items fun argument h =>
    ArgumentNode.reports_toDefinition (sorted argument h)).bind_pure _

/-- Fields become definitions unless something is wrong in one of them. -/
theorem reports_fields {fields : List FieldNode}
    (sorted : ∀ argument ∈ fields.flatMap FieldNode.arguments, argument.Sorted) :
    Reports (AtItem fields FieldNode.Breach) (fields.mapM FieldNode.toDefinition) :=
  Reports.mapM_items fun field h => FieldNode.reports_toDefinition fun argument held =>
    sorted argument (List.mem_flatMap.2 ⟨field, h, held⟩)

/-- A form becomes a shape unless something is wrong in it. -/
theorem TypeForm.reports_toShape {form : TypeForm}
    (sorted : ∀ argument ∈ form.arguments, argument.Sorted) : Reports form.Breach form.toShape := by
  cases form with
  | object interfaces fields | interface interfaces fields => exact (reports_fields sorted).bind_pure _
  | inputObject fields =>
    exact (Reports.mapM_items fun field h =>
      ArgumentNode.reports_toDefinition (sorted field h)).bind_pure _
  | scalar | union members | enum values => exact reports_ok fun _ _ => id

/-- Nothing is wrong in a form itself, only in its fields. -/
theorem TypeForm.not_breach_nil (form : TypeForm) (error : DocumentError) : ¬ form.Breach [] error := by
  cases form <;> rintro ⟨index, item, rest, held, path, wrong⟩ <;> cases path

/-- An extension is taken unless the type takes none, or something is wrong in its parts. -/
theorem ExtensionNode.reports_toExtension {node : ExtensionNode}
    (sorted : ∀ argument ∈ node.form.arguments, argument.Sorted) :
    Reports node.Breach node.toExtension := by
  obtain ⟨position, name, directives, form⟩ := node
  cases form with
  | object interfaces fields | interface interfaces fields =>
    refine ((reports_fields sorted).bind_pure _).congr fun path error => ?_
    simp [Breach, TypeForm.TakesExtensions, TypeForm.kind, TypeForm.Breach]
  | scalar | union members | enum values | inputObject fields =>
    refine reports_error (.inl ⟨by simp [TypeForm.TakesExtensions, TypeForm.kind], rfl, rfl⟩) ?_
    rintro error (⟨-, -, rfl⟩ | inner)
    · rfl
    · exact absurd inner (TypeForm.not_breach_nil _ error)

/-- An item becomes a definition, or drops out, unless something is wrong in it. -/
theorem Node.reports_toDefinition? {node : Node} (sorted : ∀ argument ∈ node.arguments, argument.Sorted) :
    Reports node.Breach node.toDefinition? := by
  cases node with
  | type node => exact ((TypeForm.reports_toShape sorted).bind_pure _).map _
  | extension node => exact (ExtensionNode.reports_toExtension sorted).map _
  | schema node | directive node => exact reports_ok fun _ _ => id

/-- **A document becomes definitions unless something is wrong in it, and what is wrong first is
reported.**

**Proof sketch.** Part by part. Items, fields, arguments and the insides of defaults are all gone through
in order, by traversals of which each reports what is wrong first if its steps do
(`Reports.mapM_items`, `Term.reports_toLiteral`). An extension of a type that takes none is refused
before its parts are looked at, and its path is a beginning of theirs. -/
theorem Document.reports_definitions {document : Document} (sorted : document.Sorted) :
    Reports document.Breach document.definitions :=
  (Reports.mapM_items fun node h => Node.reports_toDefinition? fun argument held =>
    sorted argument (List.mem_flatMap.2 ⟨node, h, held⟩)).bind_pure _

end SchemaAssembly
