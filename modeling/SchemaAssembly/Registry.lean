import SchemaAssembly.NameMap
import SchemaAssembly.Problem
import SchemaAssembly.Scalar.Standard

/-!
# The registry of definitions

A registry collects the definitions of one schema, read from one text or from many. The name of a
type is unique across all kinds. Extensions are kept apart, as an ordered list for each extended
name, and never conflict with anything. There is at most one schema definition.

## Main definitions

* `SchemaAssembly.Registry` — the definitions collected so far.
* `SchemaAssembly.Registry.add` — one more definition, unless it conflicts.
* `SchemaAssembly.Registry.ofDefinitions` — many definitions; every conflict is reported.
* `SchemaAssembly.Registry.merge` — two registries together, entirely or not at all.
* `SchemaAssembly.Registry.declared?`, `find?`, `hasType`, `extensionsOf`, `scalars` — what a
  registry knows.

## Main results

* `SchemaAssembly.Registry.mem_knownNames_of_find?` — only known names are found.
-/

set_option relaxedAutoImplicit false
set_option autoImplicit false

namespace SchemaAssembly

/-- The definitions of one schema. -/
@[ext]
structure Registry where
  /-- The types that are not scalars. -/
  types : NameMap TypeDefinition
  /-- The scalars that are declared, as opposed to the standard ones. -/
  declaredScalars : NameMap TypeDefinition
  /-- The extensions of each name, first registered first. -/
  extensions : NameMap (List TypeExtension)
  /-- The schema definition, if there is one. -/
  schema : Option SchemaDefinition
deriving BEq

namespace Registry

/-- The registry without definitions. -/
def empty : Registry := ⟨∅, ∅, ∅, none⟩

instance : Inhabited Registry := ⟨empty⟩

instance : EmptyCollection Registry := ⟨empty⟩

/-! ## Looking up -/

/-- The declared type of a name, of whatever kind. -/
def declared? (registry : Registry) (name : String) : Option TypeDefinition :=
  (registry.types.get? name).or (registry.declaredScalars.get? name)

/-- The type of a name: the declared one, or else the standard scalar of that name. -/
def find? (registry : Registry) (name : String) : Option TypeDefinition :=
  (registry.declared? name).or ((StandardScalar.ofName? name).map StandardScalar.definition)

/-- The type that a reference refers to. -/
def resolve? (registry : Registry) (type : TypeRef) : Option TypeDefinition :=
  registry.find? type.innermost

/-- Whether anything is known under the name that a reference refers to, be it an extension. -/
def hasType (registry : Registry) (type : TypeRef) : Bool :=
  (registry.declared? type.innermost).isSome || StandardScalar.isStandard type.innermost ||
    registry.extensions.contains type.innermost

/-- The extensions of a name, first registered first. -/
def extensionsOf (registry : Registry) (name : String) : List TypeExtension :=
  (registry.extensions.get? name).getD []

/-- All scalars: the standard ones, then the declared ones. A scalar declared under the name of a
standard one stands in its place. -/
def scalars (registry : Registry) : NameMap TypeDefinition :=
  (NameMap.ofList (StandardScalar.all.map fun scalar => (scalar.name, scalar.definition))).extend
    (registry.declaredScalars.entries.filter fun entry => entry.2.isScalar)

/-- Every name that a type can be found under. -/
def knownNames (registry : Registry) : List String :=
  StandardScalar.names ++ registry.types.names ++ registry.declaredScalars.names

/-! ## Adding -/

/-- The error of defining a name again. -/
def redefinition (existing added : TypeDefinition) : SchemaError :=
  .typeRedefinition added.name added.position existing.position

/-- Adds a definition. A type is refused if its name is declared already, and a schema
definition if there is one; an extension is always taken. -/
def add (registry : Registry) : Definition → Except SchemaError Registry
  | .extension added =>
    .ok { registry with
      extensions := registry.extensions.update added.name fun held => held.getD [] ++ [added] }
  | .type added =>
    match registry.declared? added.name with
    | some existing => .error (redefinition existing added)
    | none =>
      if added.isScalar then
        .ok { registry with declaredScalars := registry.declaredScalars.set added.name added }
      else
        .ok { registry with types := registry.types.set added.name added }
  | .schema added =>
    match registry.schema with
    | some existing => .error (.schemaRedefinition added.position existing.position)
    | none => .ok { registry with schema := some added }

/-- Tries to add each of many definitions. Returns the registry of those taken, together with
the errors of those refused. -/
def addAll (registry : Registry) : List Definition → Registry × List SchemaError
  | [] => (registry, [])
  | definition :: rest =>
    match registry.add definition with
    | .ok next => next.addAll rest
    | .error error =>
      let (last, errors) := registry.addAll rest
      (last, error :: errors)

/-- The registry of a list of definitions. Every definition is tried, and all conflicts are
reported together. -/
def ofDefinitions (definitions : List Definition) : Except SchemaProblem Registry :=
  match empty.addAll definitions with
  | (registry, []) => .ok registry
  | (_, errors) => .error ⟨errors⟩

/-! ## Merging -/

/-- The conflicts of many named types with what is declared. -/
def conflicts (registry : Registry) (added : NameMap TypeDefinition) : List SchemaError :=
  added.entries.filterMap fun entry =>
    (registry.declared? entry.1).map fun existing => redefinition existing entry.2

/-- The conflict of two schema definitions, if there are two. -/
def schemaConflict : Option SchemaDefinition → Option SchemaDefinition → List SchemaError
  | some existing, some added => [.schemaRedefinition added.position existing.position]
  | _, _ => []

/-- Every conflict that merging `other` would meet: those of types, of scalars, of schemas. -/
def mergeConflicts (registry other : Registry) : List SchemaError :=
  registry.conflicts other.types ++ registry.conflicts other.declaredScalars ++
    schemaConflict registry.schema other.schema

/-- Takes over everything of `other`. Either nothing conflicts and all is taken, with the
extensions of `other` after those present, or nothing is taken and every conflict reported. -/
def merge (registry other : Registry) : Except SchemaProblem Registry :=
  match registry.mergeConflicts other with
  | [] =>
    .ok {
      types := registry.types.extend other.types.entries
      declaredScalars := registry.declaredScalars.extend other.declaredScalars.entries
      extensions := other.extensions.entries.foldl
        (fun held entry => held.update entry.1 fun present => present.getD [] ++ entry.2)
        registry.extensions
      schema := registry.schema.or other.schema }
  | errors => .error ⟨errors⟩

/-! ## Known names -/

/-- A type is only found under a known name. -/
theorem mem_knownNames_of_find? {registry : Registry} {name : String} {d : TypeDefinition}
    (h : registry.find? name = some d) : name ∈ registry.knownNames := by
  simp only [find?, declared?, Option.or_eq_some_iff, Option.or_eq_none_iff,
    Option.map_eq_some_iff] at h
  simp only [knownNames, List.mem_append]
  rcases h with (h | ⟨-, h⟩) | ⟨-, scalar, h, -⟩
  · exact .inl (.inr (NameMap.mem_names_of_get? h))
  · exact .inr (NameMap.mem_names_of_get? h)
  · have hn := List.find?_some h
    simp only [decide_eq_true_eq] at hn
    exact .inl (.inl (List.mem_map.2 ⟨scalar, List.mem_of_find?_eq_some h, hn⟩))

end Registry

end SchemaAssembly
