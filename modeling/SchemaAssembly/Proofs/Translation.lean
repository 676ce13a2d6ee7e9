import SchemaAssembly.Proofs.Breaches
import SchemaAssembly.Proofs.Conflicts
import SchemaAssembly.Proofs.Directives

/-!
# From documents to registries

A document becomes a registry in two stages. In the first every item becomes a definition, one by one
and part by part, or drops out if it declares a directive. In the second the definitions are added to an
empty registry. The first stage stops at the first thing that is wrong; the second goes on to the end and
reports all conflicts, but is not even begun if the first has failed. Directives are for neither of them:
documents that differ in directives only become the same registry.

## Main definitions

* `SchemaAssembly.Node.Becomes` — an item of a document against its definition, part by part.

## Main results

* `SchemaAssembly.Document.becomes_of_definitions` — everything is carried over.
* `SchemaAssembly.Registry.ofDocument_exact` — what a document becomes, and how it fails.
-/

set_option relaxedAutoImplicit false
set_option autoImplicit false

namespace SchemaAssembly

/-! ## Items against their definitions -/

/-- What an argument becomes: nothing is lost but its directives, and its default is the literal that is
written like that. -/
structure ArgumentNode.Becomes (node : ArgumentNode) (definition : ArgumentDefinition) : Prop where
  /-- The names are the same. -/
  name : definition.name = node.name
  /-- The descriptions are the same. -/
  description : definition.description = node.description
  /-- The type is the one written. -/
  type : definition.type = node.type.toRef
  /-- There is a default if one is written, and it is written like that. -/
  default : definition.default.map Literal.asTerm = node.default
  /-- The positions are the same. -/
  position : definition.position = node.position

/-- What a field becomes, with its arguments one by one. -/
structure FieldNode.Becomes (node : FieldNode) (definition : FieldDefinition) : Prop where
  /-- The names are the same. -/
  name : definition.name = node.name
  /-- The descriptions are the same. -/
  description : definition.description = node.description
  /-- The arguments are those written. -/
  arguments : List.Forall₂ ArgumentNode.Becomes node.arguments definition.arguments
  /-- The type is the one written. -/
  type : definition.type = node.type.toRef
  /-- The positions are the same. -/
  position : definition.position = node.position

/-- What an enum value becomes. -/
structure EnumValueNode.Becomes (node : EnumValueNode) (definition : EnumValueDefinition) : Prop where
  /-- The names are the same. -/
  name : definition.name = node.name
  /-- The descriptions are the same. -/
  description : definition.description = node.description
  /-- The positions are the same. -/
  position : definition.position = node.position

/-- What a form becomes, with its parts one by one. The interfaces that an interface names are
dropped. -/
inductive TypeForm.Becomes : TypeForm → TypeShape → Prop
  /-- A scalar has no parts. -/
  | scalar : Becomes .scalar .scalar
  /-- An object keeps its fields and its interfaces. -/
  | object {interfaces : List String} {fields : List FieldNode} {definitions : List FieldDefinition}
    (become : List.Forall₂ FieldNode.Becomes fields definitions) :
    Becomes (.object interfaces fields) (.object definitions interfaces)
  /-- An interface keeps its fields. -/
  | interface {interfaces : List String} {fields : List FieldNode}
    {definitions : List FieldDefinition}
    (become : List.Forall₂ FieldNode.Becomes fields definitions) :
    Becomes (.interface interfaces fields) (.interface definitions)
  /-- A union keeps its members. -/
  | union {members : List String} : Becomes (.union members) (.union members)
  /-- An enum keeps its values. -/
  | enum {values : List EnumValueNode} {definitions : List EnumValueDefinition}
    (become : List.Forall₂ EnumValueNode.Becomes values definitions) :
    Becomes (.enum values) (.enum definitions)
  /-- An input object keeps its fields. -/
  | inputObject {fields : List ArgumentNode} {definitions : List ArgumentDefinition}
    (become : List.Forall₂ ArgumentNode.Becomes fields definitions) :
    Becomes (.inputObject fields) (.inputObject definitions)

/-- What a type becomes. -/
structure TypeNode.Becomes (node : TypeNode) (definition : TypeDefinition) : Prop where
  /-- The names are the same. -/
  name : definition.name = node.name
  /-- The descriptions are the same. -/
  description : definition.description = node.description
  /-- The positions are the same. -/
  position : definition.position = node.position
  /-- The parts are those written. -/
  form : node.form.Becomes definition.shape

/-- What a form adds to the type that it extends: the fields of an object or an interface, and the
interfaces of an object. -/
inductive TypeForm.Adds : TypeForm → List String → List FieldDefinition → Prop
  /-- To an object both can be added. -/
  | object {interfaces : List String} {fields : List FieldNode} {definitions : List FieldDefinition}
    (become : List.Forall₂ FieldNode.Becomes fields definitions) :
    Adds (.object interfaces fields) interfaces definitions
  /-- To an interface fields can be added. -/
  | interface {interfaces : List String} {fields : List FieldNode}
    {definitions : List FieldDefinition}
    (become : List.Forall₂ FieldNode.Becomes fields definitions) :
    Adds (.interface interfaces fields) [] definitions

/-- What an extension becomes. -/
structure ExtensionNode.Becomes (node : ExtensionNode) (definition : TypeExtension) : Prop where
  /-- The names are the same. -/
  name : definition.name = node.name
  /-- The positions are the same. -/
  position : definition.position = node.position
  /-- The parts are those written. -/
  form : node.form.Adds definition.interfaces definition.fields

/-- The root type of an operation, as it is written. -/
def SchemaNode.root? (node : SchemaNode) : Operation → Option String
  | .query => node.query
  | .mutation => node.mutation
  | .subscription => node.subscription

/-- What the roots of a schema become. -/
structure SchemaNode.Becomes (node : SchemaNode) (definition : SchemaDefinition) : Prop where
  /-- The operations bound are those written, in a fixed order. -/
  operations : definition.roots.map RootBinding.operation =
    [Operation.query, .mutation, .subscription].filter fun operation => (node.root? operation).isSome
  /-- Each is bound to the root type written. -/
  bound : ∀ operation, (definition.root? operation).map RootBinding.typeName = node.root? operation
  /-- All are where the schema is. -/
  placed : ∀ root ∈ definition.roots, root.position = node.position
  /-- The positions are the same. -/
  position : definition.position = node.position

/-- **What an item of a document becomes.** -/
inductive Node.Becomes : Node → Definition → Prop
  /-- The roots of a schema become its definition. -/
  | schema {node : SchemaNode} {definition : SchemaDefinition} (become : node.Becomes definition) :
    Becomes (.schema node) (.schema definition)
  /-- A type becomes its definition. -/
  | type {node : TypeNode} {definition : TypeDefinition} (become : node.Becomes definition) :
    Becomes (.type node) (.type definition)
  /-- An extension becomes its definition. -/
  | extension {node : ExtensionNode} {definition : TypeExtension} (become : node.Becomes definition) :
    Becomes (.extension node) (.extension definition)

/-- Whether an item declares a directive. -/
def Node.isDirective : Node → Bool
  | .directive _ => true
  | .schema _ | .type _ | .extension _ => false

/-- What is returned after a step is made from what the step returned. -/
theorem bind_pure_eq_ok_iff {ε α β : Type} {outcome : Except ε α} {change : α → β} {b : β} :
    (do let a ← outcome; return change a) = .ok b ↔ ∃ a, outcome = .ok a ∧ change a = b :=
  map_eq_ok_iff

/-- What the steps of a traversal return corresponds to the items, if it does step by step. -/
theorem forall₂_of_mapM {ε α β : Type} {f : α → Except ε β} {related : α → β → Prop}
    (each : ∀ a b, f a = .ok b → related a b) {items : List α} {results : List β}
    (ok : items.mapM f = .ok results) : List.Forall₂ related items results :=
  (mapM_eq_ok_iff.1 ok).imp each

/-- An argument becomes its definition. -/
theorem ArgumentNode.becomes_of_toDefinition (node : ArgumentNode) (definition : ArgumentDefinition)
    (ok : node.toDefinition = .ok definition) : node.Becomes definition := by
  obtain ⟨default, written, rfl⟩ := bind_pure_eq_ok_iff.1 ok
  refine ⟨rfl, rfl, rfl, ?_, rfl⟩
  cases given : node.default with
  | none =>
    rw [given] at written
    obtain rfl := Except.ok.inj written
    rfl
  | some term =>
    rw [given] at written
    obtain ⟨literal, own, rfl⟩ := map_eq_ok_iff.1 written
    rw [Option.map_some, Term.toLiteral_eq_ok_iff.1 own]

/-- A field becomes its definition. -/
theorem FieldNode.becomes_of_toDefinition (node : FieldNode) (definition : FieldDefinition)
    (ok : node.toDefinition = .ok definition) : node.Becomes definition := by
  obtain ⟨arguments, each, rfl⟩ := bind_pure_eq_ok_iff.1 ok
  exact ⟨rfl, rfl, forall₂_of_mapM ArgumentNode.becomes_of_toDefinition each, rfl, rfl⟩

/-- A form becomes its shape. -/
theorem TypeForm.becomes_of_toShape {form : TypeForm} {shape : TypeShape}
    (ok : form.toShape = .ok shape) : form.Becomes shape := by
  cases form with
  | scalar =>
    cases ok
    exact .scalar
  | object interfaces fields =>
    obtain ⟨definitions, each, rfl⟩ := bind_pure_eq_ok_iff.1 ok
    exact .object (forall₂_of_mapM FieldNode.becomes_of_toDefinition each)
  | interface interfaces fields =>
    obtain ⟨definitions, each, rfl⟩ := bind_pure_eq_ok_iff.1 ok
    exact .interface (forall₂_of_mapM FieldNode.becomes_of_toDefinition each)
  | union members =>
    cases ok
    exact .union
  | enum values =>
    cases ok
    exact .enum (List.forall₂_map_right_iff.2 (List.forall₂_same.2 fun _ _ => ⟨rfl, rfl, rfl⟩))
  | inputObject fields =>
    obtain ⟨definitions, each, rfl⟩ := bind_pure_eq_ok_iff.1 ok
    exact .inputObject (forall₂_of_mapM ArgumentNode.becomes_of_toDefinition each)

/-- An extension becomes its definition. -/
theorem ExtensionNode.becomes_of_toExtension {node : ExtensionNode} {definition : TypeExtension}
    (ok : node.toExtension = .ok definition) : node.Becomes definition := by
  obtain ⟨position, name, directives, form⟩ := node
  cases form with
  | object interfaces fields =>
    obtain ⟨definitions, each, rfl⟩ := bind_pure_eq_ok_iff.1 ok
    exact ⟨rfl, rfl, .object (forall₂_of_mapM FieldNode.becomes_of_toDefinition each)⟩
  | interface interfaces fields =>
    obtain ⟨definitions, each, rfl⟩ := bind_pure_eq_ok_iff.1 ok
    exact ⟨rfl, rfl, .interface (forall₂_of_mapM FieldNode.becomes_of_toDefinition each)⟩
  | scalar | union members | enum values | inputObject fields => cases ok

/-- The roots of a schema become its definition. -/
theorem SchemaNode.becomes_toDefinition (node : SchemaNode) : node.Becomes node.toDefinition := by
  obtain ⟨position, directives, query, mutation, subscription⟩ := node
  refine ⟨?_, fun operation => ?_, ?_, rfl⟩
  · cases query <;> cases mutation <;> cases subscription <;> rfl
  · cases operation <;> cases query <;> cases mutation <;> cases subscription <;> rfl
  · simp only [toDefinition, List.mem_append, Option.mem_toList, Option.map_eq_some_iff]
    rintro root ((⟨name, -, rfl⟩ | ⟨name, -, rfl⟩) | ⟨name, -, rfl⟩) <;> rfl

/-- An item becomes a definition, unless it declares a directive. -/
theorem Node.becomes_of_toDefinition? {node : Node} {outcome : Option Definition}
    (ok : node.toDefinition? = .ok outcome) :
    node.isDirective = true ∧ outcome = none ∨
      node.isDirective = false ∧ ∃ definition, outcome = some definition ∧ node.Becomes definition := by
  cases node with
  | schema node =>
    cases ok
    exact .inr ⟨rfl, _, rfl, .schema node.becomes_toDefinition⟩
  | type node =>
    obtain ⟨definition, made, rfl⟩ := map_eq_ok_iff.1 ok
    obtain ⟨shape, own, rfl⟩ := bind_pure_eq_ok_iff.1 made
    exact .inr ⟨rfl, _, rfl, .type ⟨rfl, rfl, rfl, TypeForm.becomes_of_toShape own⟩⟩
  | extension node =>
    obtain ⟨definition, made, rfl⟩ := map_eq_ok_iff.1 ok
    exact .inr ⟨rfl, _, rfl, .extension (ExtensionNode.becomes_of_toExtension made)⟩
  | directive node =>
    cases ok
    exact .inl ⟨rfl, rfl⟩

/-- **Everything in a document is carried over**: there is one definition for every item that does not
declare a directive, in order. -/
theorem Document.becomes_of_definitions {document : Document} {definitions : List Definition}
    (ok : document.definitions = .ok definitions) :
    List.Forall₂ Node.Becomes (document.filter fun node => !node.isDirective) definitions := by
  obtain ⟨outcomes, each, rfl⟩ := bind_pure_eq_ok_iff.1 ok
  have related := mapM_eq_ok_iff.1 each
  clear ok each
  induction related with
  | nil => exact .nil
  | @cons node outcome rest outcomes own others ih =>
    obtain ⟨directive, rfl⟩ | ⟨directive, definition, rfl, become⟩ :=
      Node.becomes_of_toDefinition? own
    · rw [List.filter_cons_of_neg (by simp [directive])]
      exact ih
    · rw [List.filter_cons_of_pos (by simp [directive])]
      exact .cons become ih

/-! ## Registries of documents -/

namespace Registry

variable {document : Document} {definitions : List Definition}

/-- Where the first stage fails the second is not begun. -/
theorem ofDocument_of_error {error : DocumentError} (failed : document.definitions = .error error) :
    ofDocument document = .error error := by
  rw [ofDocument, failed]
  rfl

/-- Where the first stage succeeds its definitions make the registry, or their conflicts are
reported. -/
theorem ofDocument_of_ok (made : document.definitions = .ok definitions) :
    (∀ registry, ofDocument document = .ok registry ↔ ofDefinitions definitions = .ok registry) ∧
      ∀ error, ofDocument document = .error error ↔
        ∃ problem, error = .conflict problem ∧ ofDefinitions definitions = .error problem := by
  have whole : ofDocument document = (ofDefinitions definitions).mapError .conflict := by
    rw [ofDocument, made]
    rfl
  rw [whole]
  cases ofDefinitions definitions <;> simp [Except.mapError, eq_comm]

/-- What is reported about the document itself is what the first stage fails with. -/
theorem ofDocument_eq_error_iff (sorted : document.Sorted) {error : DocumentError} :
    (error.OfBreach ∧ ofDocument document = .error error) ↔ document.definitions = .error error := by
  cases outcome : document.definitions with
  | error error' =>
    rw [ofDocument_of_error outcome]
    obtain ⟨path, first⟩ := ((Document.reports_definitions sorted).eq_error_iff error').1 outcome
    constructor
    · rintro ⟨-, ⟨⟩⟩
      rfl
    · rintro ⟨⟩
      exact ⟨first.1.ofBreach, rfl⟩
  | ok definitions =>
    rw [(ofDocument_of_ok outcome).2]
    refine ⟨?_, nofun⟩
    rintro ⟨about, problem, rfl, -⟩
    exact about.elim

/-- **What a document becomes, and how it fails.** It fails with an error of its own exactly if it is
unfit, and the error is that of the first breach. If it is fit, there is one definition for every item
but declared directives, in order, and these definitions make the registry; if they conflict, all
conflicts are reported, in order. Documents that differ in directives only become the same.

**Proof sketch.** The first stage reports the first breach (`Document.reports_definitions`), and there
is one exactly if the document is unfit (`Document.exists_breach_iff`). What it returns is related to
the document item by item (`Document.becomes_of_definitions`). The second stage reports the conflicts of
each definition with those before it (`errors_addAll_empty`). -/
theorem ofDocument_exact (document : Document) (sorted : document.Sorted) :
    ((∃ error, error.OfBreach ∧ ofDocument document = .error error) ↔ document.Unfit) ∧
    (∀ error, (error.OfBreach ∧ ofDocument document = .error error) ↔
      ∃ path, First document.Breach path error) ∧
    (¬ document.Unfit → ∃ definitions,
      document.definitions = .ok definitions ∧
      List.Forall₂ Node.Becomes (document.filter fun node => !node.isDirective) definitions ∧
      (∀ registry, ofDocument document = .ok registry ↔
        clashesAfter [] definitions = [] ∧ (empty.addAll definitions).1 = registry) ∧
      ∀ problem, ofDocument document = .error (.conflict problem) ↔
        problem.errors = clashesAfter [] definitions ∧ clashesAfter [] definitions ≠ []) ∧
    ∀ other : Document, other.bare = document.bare → ofDocument other = ofDocument document := by
  have reports := Document.reports_definitions sorted
  have unfit : (∃ error, document.definitions = .error error) ↔ document.Unfit :=
    reports.exists_error_iff.trans document.exists_breach_iff
  simp only [ofDocument_eq_error_iff sorted]
  refine ⟨unfit, reports.eq_error_iff, fun fit => ?_, fun other same => ?_⟩
  · cases outcome : document.definitions with
    | error error => exact absurd (unfit.1 ⟨error, outcome⟩) fit
    | ok definitions =>
      obtain ⟨made, failed⟩ := ofDocument_of_ok outcome
      refine ⟨definitions, rfl, Document.becomes_of_definitions outcome, fun registry => ?_,
        fun problem => ?_⟩
      · rw [made, ofDefinitions_eq_ok_iff, errors_addAll_empty]
      · simp only [failed, DocumentError.conflict.injEq, exists_eq_left', ofDefinitions_eq_error_iff]
  · rw [ofDocument, ofDocument, ← other.definitions_bare, same, document.definitions_bare]

/-- An argument with a default, on which a directive is put that is given a variable. -/
def draftArgument (term : Term) : ArgumentNode :=
  ⟨⟨4, 8⟩, none, "by", .named "Filter", some term, [⟨"cost", [("of", .variable "given")]⟩]⟩

/-- A document that declares a directive, with a variable for the default of its argument, and two types
of one name. Left open are the default of an argument and the form of an extension. -/
def draft (term : Term) (form : TypeForm) : Document := [
  .directive ⟨⟨1, 1⟩, none, "cost",
    [⟨⟨1, 17⟩, none, "of", .named "Int", some (.variable "declared"), []⟩], false, ["ARGUMENT"]⟩,
  .schema ⟨⟨2, 1⟩, [], some "Query", none, none⟩,
  .type ⟨⟨3, 1⟩, none, "Query", [],
    .object [] [⟨⟨4, 3⟩, none, "find", [draftArgument term], .named "String", []⟩]⟩,
  .extension ⟨⟨5, 1⟩, "Filter", [], form⟩,
  .type ⟨⟨6, 1⟩, none, "Query", [], .enum []⟩]

/-- An object with a variable inside of a list, and with another one in an entry of a greater name. -/
def variableTerm : Term :=
  .object [("a", .list [.int 1, .variable "deep"]), ("b", .variable "later")]

/-- The object with variables is in ascending order of its names. -/
theorem sorted_variableTerm : variableTerm.Sorted := by
  have leaf : ∀ name, (Term.variable name).Sorted := by
    rintro name path entries ⟨⟩
  have number : (Term.int 1).Sorted := by
    rintro path entries ⟨⟩
  refine Term.sorted_object_iff.2 ⟨by unfold Term.SortedEntries; decide, ?_⟩
  simp [Term.sorted_list_iff, leaf, number]

/-- A draft is sorted if the default is, where the extension has no arguments. -/
theorem sorted_draft {term : Term} {form : TypeForm} (sorted : term.Sorted)
    (none : form.arguments = []) : (draft term form).Sorted := by
  have all : (draft term form).arguments = draftArgument term :: (form.arguments ++ []) := rfl
  intro node h other written
  rw [all, none, List.append_nil, List.mem_singleton] at h
  rw [h] at written
  exact Option.some.inj written ▸ sorted

/-- The draft with variables and with an extension of a scalar fails at the variable that is first in
the order of the document, whatever directives are given, and the two types of one name are not looked
for. Without variables and with an extension of an object they are reported. -/
theorem ofDocument_exact_draft :
    (draft variableTerm .scalar).Sorted ∧ (draft .null (.object [] [])).Sorted ∧
    ofDocument (draft variableTerm .scalar) = .error (.variableInDefault "deep" ⟨4, 8⟩) ∧
    (∃ path, First (draft variableTerm .scalar).Breach path (.variableInDefault "deep" ⟨4, 8⟩)) ∧
    ofDocument (draft .null (.object [] [])) =
      .error (.conflict ⟨[.typeRedefinition "Query" ⟨6, 1⟩ ⟨3, 1⟩]⟩) ∧
    ¬ (draft .null (.object [] [])).Unfit ∧
    ∃ definitions, (draft .null (.object [] [])).definitions = .ok definitions ∧
      clashesAfter [] definitions = [.typeRedefinition "Query" ⟨6, 1⟩ ⟨3, 1⟩] := by
  have sorted : (draft variableTerm .scalar).Sorted := sorted_draft sorted_variableTerm rfl
  have sorted' : (draft .null (.object [] [])).Sorted := by
    refine sorted_draft ?_ rfl
    rintro path entries ⟨⟩
  have failed : ofDocument (draft variableTerm .scalar) = .error (.variableInDefault "deep" ⟨4, 8⟩) :=
    rfl
  have conflicted : ofDocument (draft .null (.object [] [])) =
      .error (.conflict ⟨[.typeRedefinition "Query" ⟨6, 1⟩ ⟨3, 1⟩]⟩) := rfl
  obtain ⟨-, first, -⟩ := ofDocument_exact _ sorted
  obtain ⟨unfit, -, become, -⟩ := ofDocument_exact _ sorted'
  have fit : ¬ (draft .null (.object [] [])).Unfit := by
    intro wrong
    obtain ⟨error, about, same⟩ := unfit.2 wrong
    cases conflicted.symm.trans same
    exact about
  obtain ⟨definitions, made, -, -, conflicts⟩ := become fit
  exact ⟨sorted, sorted', failed, (first _).1 ⟨trivial, failed⟩, conflicted, fit, definitions, made,
    ((conflicts _).1 conflicted).1.symm⟩

end Registry

end SchemaAssembly
