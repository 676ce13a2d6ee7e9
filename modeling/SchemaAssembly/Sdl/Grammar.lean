import SchemaAssembly.Document
import SchemaAssembly.Sdl.Parser

/-!
# The grammar of the schema language

The readers for every part of a document, from terms and types up to whole definitions.

## Main definitions

* `SchemaAssembly.Sdl.term?` — a term, in which variables may or may not stand.
* `SchemaAssembly.Sdl.bareType?` — a type without a mark at its outermost level.
* `SchemaAssembly.Sdl.node` — one item of a document.
* `SchemaAssembly.Sdl.document?` — a document.
-/

set_option relaxedAutoImplicit false
set_option autoImplicit false

namespace SchemaAssembly

namespace Sdl

open Reader

/-! ## Terms and types -/

/-- The term of a name: one of the three keywords, or an enum value. -/
def nameTerm (name : String) : Term :=
  if name = "true" then .boolean true
  else if name = "false" then .boolean false
  else if name = "null" then .null
  else .enum name

mutual

/-- The term of a single tree. A variable takes two trees and is not read here. -/
def term? (withVariables : Bool) : Tree → Option Term
  | .leaf (.name name) _ => some (nameTerm name)
  | .leaf (.int value) _ => some (.int value)
  | .leaf (.float value) _ => some (.float value)
  | .leaf (.string text) _ => some (.string text)
  | .group .square _ items => (items? withVariables items).map .list
  | .group .curly _ entries => (entries? withVariables entries).map Term.ofEntries
  | _ => none

/-- The terms of the items of a list. -/
def items? (withVariables : Bool) : List Tree → Option (List Term)
  | [] => some []
  | .leaf (.mark '$') _ :: .leaf (.name name) _ :: rest =>
    if withVariables then (items? withVariables rest).map (.variable name :: ·) else none
  | tree :: rest => do
    let item ← term? withVariables tree
    let items ← items? withVariables rest
    return item :: items

/-- The entries of an object. -/
def entries? (withVariables : Bool) : List Tree → Option (List (String × Term))
  | [] => some []
  | .leaf (.name key) _ :: .leaf (.mark ':') _ :: .leaf (.mark '$') _ :: .leaf (.name name) _ ::
      rest =>
    if withVariables then (entries? withVariables rest).map ((key, .variable name) :: ·) else none
  | .leaf (.name key) _ :: .leaf (.mark ':') _ :: tree :: rest => do
    let term ← term? withVariables tree
    let entries ← entries? withVariables rest
    return (key, term) :: entries
  | _ => none

end

/-- A type without a mark at its outermost level. -/
def bareType? : Tree → Option TypeExpr
  | .leaf (.name name) _ => some (.named name)
  | .group .square _ [item] => (bareType? item).map .list
  | .group .square _ [item, .leaf (.mark '!') _] =>
    (bareType? item).map fun type => .list (.nonNull type)
  | _ => none

/-- A type. -/
def typeExpr : Reader TypeExpr := do
  let tree ← take
  let some type := bareType? tree | fail
  if ← mark? '!' then return .nonNull type else return type

/-- A constant term. -/
def constant : Reader Term := do
  let tree ← take
  let some term := term? false tree | fail
  return term

/-! ## Parts of definitions -/

/-- A description, if there is one. -/
def description : Reader (Option String) := do
  match ← optionally isStringTree take with
  | some (.leaf (.string text) _) => return some text
  | _ => return none

/-- The directives put on a part of the document. -/
def directives : Reader (List DirectiveUse) :=
  whileStarts (isMarkTree '@') do
    mark '@'
    let name ← name
    match ← optionally (isGroup .round) (group .round) with
    | none => return ⟨name, []⟩
    | some children =>
      let some arguments := entries? true children | fail
      if arguments.isEmpty then fail else return ⟨name, arguments⟩

/-- An argument of a field or of a directive, or a field of an input object. -/
def argument : Reader ArgumentNode := do
  let position ← position
  let description ← description
  let name ← name
  mark ':'
  let type ← typeExpr
  let default ← optionally (isMarkTree '=') do
    mark '='
    constant
  let directives ← directives
  return { position, description, name, type, default, directives }

/-- A field of an object or an interface. -/
def field : Reader FieldNode := do
  let position ← position
  let description ← description
  let name ← name
  let arguments ← optionalGroup .round argument
  mark ':'
  let type ← typeExpr
  let directives ← directives
  return { position, description, name, arguments, type, directives }

/-- A value of an enum. Any name will do. -/
def enumValue : Reader EnumValueNode := do
  let position ← position
  let description ← description
  let name ← name
  let directives ← directives
  return { position, description, name, directives }

/-- The interfaces that a type names. -/
def implemented : Reader (List String) := do
  let interfaces ← optionally (isNameTree "implements") do
    keyword "implements"
    listing '&' name
  return interfaces.getD []

/-- The members that a union names. -/
def members : Reader (List String) := do
  let members ← optionally (isMarkTree '=') do
    mark '='
    listing '|' name
  return members.getD []

/-! ## Types -/

/-- The kind of type that a keyword announces. -/
def kindOfKeyword? (keyword : String) : Option TypeKind :=
  [("scalar", .scalar), ("type", .object), ("interface", .interface), ("union", .union),
    ("enum", .enum), ("input", .inputObject)].lookup keyword

/-- What follows the keyword of a type: its name, its directives and its parts. -/
def typeBody (kind : TypeKind) : Reader (String × List DirectiveUse × TypeForm) := do
  let name ← name
  match kind with
  | .scalar =>
    let directives ← directives
    return (name, directives, .scalar)
  | .object =>
    let interfaces ← implemented
    let directives ← directives
    let fields ← optionalGroup .curly field
    return (name, directives, .object interfaces fields)
  | .interface =>
    let interfaces ← implemented
    let directives ← directives
    let fields ← optionalGroup .curly field
    return (name, directives, .interface interfaces fields)
  | .union =>
    let directives ← directives
    let members ← members
    return (name, directives, .union members)
  | .enum =>
    let directives ← directives
    let values ← optionalGroup .curly enumValue
    return (name, directives, .enum values)
  | .inputObject =>
    let directives ← directives
    let fields ← optionalGroup .curly argument
    return (name, directives, .inputObject fields)

/-- Whether a form adds something to the type that it extends. The interfaces of an interface
do not count. -/
def addsParts : TypeForm → Bool
  | .scalar => false
  | .object interfaces fields => !interfaces.isEmpty || !fields.isEmpty
  | .interface _ fields => !fields.isEmpty
  | .union members => !members.isEmpty
  | .enum values => !values.isEmpty
  | .inputObject fields => !fields.isEmpty

/-- A named type, after its description. -/
def typeNode (description : Option String) : Reader TypeNode := do
  let position ← position
  let some kind := kindOfKeyword? (← name) | fail
  let (name, directives, form) ← typeBody kind
  return { position, description, name, directives, form }

/-- An extension, after its keyword. It has to add something. -/
def extensionNode : Reader ExtensionNode := do
  let position ← position
  let some kind := kindOfKeyword? (← name) | fail
  let (name, directives, form) ← typeBody kind
  if directives.isEmpty && !addsParts form then fail
  else return { position, name, directives, form }

/-! ## Directives and roots -/

/-- The names of the kinds of parts that a directive may be put on. -/
def directiveLocations : List String :=
  ["QUERY", "MUTATION", "SUBSCRIPTION", "FIELD", "FRAGMENT_DEFINITION", "FRAGMENT_SPREAD",
    "INLINE_FRAGMENT", "VARIABLE_DEFINITION", "SCHEMA", "SCALAR", "OBJECT", "FIELD_DEFINITION",
    "ARGUMENT_DEFINITION", "INTERFACE", "UNION", "ENUM", "ENUM_VALUE", "INPUT_OBJECT",
    "INPUT_FIELD_DEFINITION"]

/-- The name of a kind of part that a directive may be put on. -/
def directiveLocation : Reader String := do
  let name ← name
  if directiveLocations.contains name then return name else fail

/-- The kinds of parts that a directive may be put on. None need be named, but a mark is always
followed by one. -/
def directiveLocationList : Reader (List String) := do
  let starts tree := isAnyName tree || isMarkTree '|' tree
  let locations ← optionally starts (listing '|' directiveLocation)
  return locations.getD []

/-- The declaration of a directive, after its description. -/
def directiveNode (description : Option String) : Reader DirectiveNode := do
  let position ← position
  keyword "directive"
  mark '@'
  let name ← name
  let arguments ← optionalGroup .round argument
  let repeatable ← optionally (isNameTree "repeatable") take
  keyword "on"
  let locations ← directiveLocationList
  return { position, description, name, arguments, repeatable := repeatable.isSome, locations }

/-- One binding of an operation. -/
def rootPair : Reader (String × String) := do
  let operation ← name
  mark ':'
  let type ← name
  return (operation, type)

/-- The type bound to an operation among the bindings of a schema. -/
def boundType (pairs : List (String × String)) (operation : String) : Option String :=
  pairs.lookup operation

/-- The roots of a schema. No operation may be bound twice. -/
def schemaNode : Reader SchemaNode := do
  let position ← position
  keyword "schema"
  let directives ← directives
  let children ← group .curly
  let some (pairs, []) := whileStarts (fun _ => true) rootPair children | fail
  let operations := pairs.map Prod.fst
  if !operations.all ["query", "mutation", "subscription"].contains then fail
  if operations.eraseDups.length ≠ operations.length then fail
  return {
    position, directives
    query := boundType pairs "query"
    mutation := boundType pairs "mutation"
    subscription := boundType pairs "subscription" }

/-! ## Documents -/

/-- One item of a document. -/
def node : Reader Node := do
  let some first ← next? | fail
  if isNameTree "schema" first then .schema <$> schemaNode
  else if isNameTree "extend" first then
    keyword "extend"
    .extension <$> extensionNode
  else
    let description ← description
    let some first ← next? | fail
    if isNameTree "directive" first then .directive <$> directiveNode description
    else .type <$> typeNode description

/-- A document: one item or more. -/
def document? (trees : List Tree) : Option Document := whole node trees

end Sdl

end SchemaAssembly
