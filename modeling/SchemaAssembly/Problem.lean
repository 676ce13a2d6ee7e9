import SchemaAssembly.Definition

/-!
# Problems

Everything that can be wrong with a set of definitions or with their assembly, as data, and the
sentence that each is reported with. Adding definitions reports every conflict that it finds;
assembly stops at its first problem.

## Main definitions

* `SchemaAssembly.SchemaError` — one problem; `SchemaAssembly.SchemaError.message` — its report.
* `SchemaAssembly.SchemaProblem` — the problems that stopped an operation, as found.
-/

set_option relaxedAutoImplicit false
set_option autoImplicit false

namespace SchemaAssembly

/-- What a wiring factory can offer. -/
inductive WiringCapability
  /-- The resolver of a field. -/
  | dataFetcher
  /-- The resolver of an interface or a union. -/
  | typeResolver
deriving DecidableEq, Repr

/-- The name of a capability in messages. -/
def WiringCapability.text : WiringCapability → String
  | .dataFetcher => "data fetcher"
  | .typeResolver => "type resolver"

/-- One thing that is wrong with a set of definitions or with their assembly. -/
inductive SchemaError
  /-- Two type definitions share a name. -/
  | typeRedefinition (name : String) (position existing : Position)
  /-- There are two schema definitions. -/
  | schemaRedefinition (position existing : Position)
  /-- A field refers to a type, defined at `position`, that is for input only. -/
  | notAnOutputType (name : String) (kind : TypeKind) (position : Position)
  /-- An argument refers to a type, defined at `position`, that is for output only. -/
  | notAnInputType (name : String) (kind : TypeKind) (position : Position)
  /-- A wiring factory claimed to provide something and then did not. -/
  | brokenClaim (capability : WiringCapability) (name : String)
  /-- The definition of `context` refers, at `position`, to a name that nothing defines. -/
  | unknownType (name context : String) (position : Position)
  /-- A scalar, declared at `position`, has no codec. -/
  | missingScalar (name : String) (position : Position)
  /-- There is no schema definition. -/
  | missingSchema
  /-- The schema definition, at `position`, binds no query. -/
  | missingQuery (position : Position)
  /-- The root type of an operation is not an object. -/
  | notAnObject (operation : Operation) (name : String) (kind : TypeKind)
deriving DecidableEq, Repr

/-- The sentence that an error is reported with. -/
def SchemaError.message : SchemaError → String
  | .typeRedefinition name position existing =>
    s!"'{name}' type {position.text} tried to redefine existing '{name}' type {existing.text}"
  | .schemaRedefinition position existing =>
    s!"There is already a schema defined {existing.text}. " ++
      s!"The offending new one is here {position.text}"
  | .notAnOutputType name kind position =>
    s!"expected OutputType, but found {kind.text} type '{name}' {position.text}"
  | .notAnInputType name kind position =>
    s!"expected InputType, but found {kind.text} type '{name}' {position.text}"
  | .brokenClaim capability name =>
    s!"The WiringFactory indicated it provides a {capability.text} for '{name}' " ++
      "but then returned none"
  | .unknownType name context position =>
    s!"The type '{name}' {position.text} is not present when resolving type '{context}'"
  | .missingScalar name position =>
    s!"There is no scalar implementation for the named '{name}' scalar type {position.text}"
  | .missingSchema => "A schema definition is required to assemble a schema"
  | .missingQuery position => s!"A schema MUST have a 'query' operation defined {position.text}"
  | .notAnObject operation name kind =>
    s!"The operation type '{operation.text}' must be an object type, " ++
      s!"but '{name}' is a {kind.text}"

/-- The problems that stopped an operation, in the order in which they were found. -/
structure SchemaProblem where
  /-- The problems. -/
  errors : List SchemaError
deriving DecidableEq, Repr

namespace SchemaProblem

/-- The problem of a single error. -/
def of (error : SchemaError) : SchemaProblem := ⟨[error]⟩

/-- The report of all errors together. -/
def message (problem : SchemaProblem) : String :=
  s!"SchemaProblem\x7berrors=[{Text.commaSeparated (problem.errors.map SchemaError.message)}]\x7d"

end SchemaProblem

end SchemaAssembly
