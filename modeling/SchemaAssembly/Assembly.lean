import SchemaAssembly.Assembly.Build

/-!
# Assembly

Assembly puts definitions and behaviours together: it builds the root type of each operation, with
everything that the roots reach, and collects the result into a graph. Every call starts from
nothing, and stops at the first problem met.

## Main definitions

* `SchemaAssembly.buildRoot` — the root type of an operation.
* `SchemaAssembly.assembleGraph` — the graph of a registry and a wiring, or the first error.
* `SchemaAssembly.assemble` — the same, with the error as a problem.
-/

set_option relaxedAutoImplicit false
set_option autoImplicit false

namespace SchemaAssembly

variable {B : Behaviours}

/-- Builds the root type of an operation. It has to be known, and to be an object. -/
def buildRoot (registry : Registry) (wiring : Wiring B) (root : RootBinding) :
    Build (Caches B) (GraphType B) := do
  let reference : Reference := ⟨.ofName root.typeName, .output, root.typeName, root.position⟩
  match registry.find? root.typeName with
  | none => throw reference.unknown
  | some type =>
    if type.kind ≠ .object then
      throw (.notAnObject root.operation root.typeName type.kind)
    match ← build registry wiring [] reference with
    | .concrete built => return built
    | _ => throw (.notAnObject root.operation root.typeName type.kind)

/-- Builds the root types of the operations that a schema binds. Only queries have to be
bound. -/
def buildRoots (registry : Registry) (wiring : Wiring B) (schema : SchemaDefinition) :
    Build (Caches B) (TypeGraph B) := do
  match schema.root? .query with
  | none => throw (.missingQuery schema.position)
  | some root =>
    let query ← buildRoot registry wiring root
    let mutation ← (schema.root? .mutation).mapM (buildRoot registry wiring)
    let subscription ← (schema.root? .subscription).mapM (buildRoot registry wiring)
    return .ofRoots query mutation subscription

/-- The error of a placeholder that names no type of the graph. It points at the type in which
the placeholder stands. -/
def danglingError (registry : Registry) (placeholder : String × String) : SchemaError :=
  .unknownType placeholder.2 placeholder.1
    (((registry.find? placeholder.1).map TypeDefinition.position).getD .unknown)

/-- The graph of a registry and a wiring, or the first error met. -/
def assembleGraph (registry : Registry) (wiring : Wiring B) :
    Except SchemaError (TypeGraph B) := do
  match registry.schema with
  | none => throw .missingSchema
  | some schema =>
    let (graph, _) ← buildRoots registry wiring schema Caches.empty
    match graph.dangling.head? with
    | some placeholder => throw (danglingError registry placeholder)
    | none => return graph

/-- Assembles a registry and a wiring into the graph of an executable schema. -/
def assemble (registry : Registry) (wiring : Wiring B) : Except SchemaProblem (TypeGraph B) :=
  (assembleGraph registry wiring).mapError SchemaProblem.of

end SchemaAssembly
