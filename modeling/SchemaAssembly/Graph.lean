import SchemaAssembly.Graph.Occurrence

/-!
# Type graphs

An assembled schema is a graph: every named type that the root types reach, once, in the order in
which they were first reached. It is collected from the root types by going depth first through
what their occurrences hold; a placeholder is not followed, and a name is not visited twice.

## Main definitions

* `SchemaAssembly.TypeGraph` — the graph of an assembled schema.
* `SchemaAssembly.NamedType.collect` — adds what a type reaches to what was collected before.
* `SchemaAssembly.TypeGraph.ofRoots` — the graph of given root types.
* `SchemaAssembly.TypeGraph.target?` — the finished type that an occurrence refers to.
* `SchemaAssembly.TypeGraph.dangling` — the placeholders that name no type of the graph.
-/

set_option relaxedAutoImplicit false
set_option autoImplicit false

namespace SchemaAssembly

variable {B : Behaviours}

/-! ## Collecting -/

mutual

/-- Collects a type and all that it reaches, unless its name has been collected before. -/
def NamedType.collect (found : NameMap (GraphType B)) (type : GraphType B) :
    NameMap (GraphType B) :=
  if found.contains type.name then found
  else Occurrence.collectAll (found.set type.name type) type.references
termination_by sizeOf type
decreasing_by exact type.sizeOf_references_lt

/-- Collects what each of many occurrences holds, one after the other. -/
def Occurrence.collectAll (found : NameMap (GraphType B)) :
    List (Occurrence B) → NameMap (GraphType B)
  | [] => found
  | occurrence :: rest =>
    match _h : occurrence.held? with
    | some type => Occurrence.collectAll (NamedType.collect found type) rest
    | none => Occurrence.collectAll found rest
termination_by occurrences => sizeOf occurrences
decreasing_by
  · have := Occurrence.sizeOf_held?_lt _h
    rw [List.cons.sizeOf_spec]
    omega
  · rw [List.cons.sizeOf_spec]
    omega
  · rw [List.cons.sizeOf_spec]
    omega

end

/-! ## Graphs -/

/-- The graph of an assembled schema. -/
structure TypeGraph (B : Behaviours) where
  /-- The types, in the order in which they were first reached. -/
  types : NameMap (GraphType B)
  /-- The root type of queries. -/
  query : GraphType B
  /-- The root type of mutations, if there is one. -/
  mutation : Option (GraphType B)
  /-- The root type of subscriptions, if there is one. -/
  subscription : Option (GraphType B)

namespace TypeGraph

/-- The graph of given root types: what queries reach comes first, then what mutations add, then
what subscriptions add. -/
def ofRoots (query : GraphType B) (mutation subscription : Option (GraphType B)) :
    TypeGraph B where
  types := (query :: mutation.toList ++ subscription.toList).foldl NamedType.collect ∅
  query := query
  mutation := mutation
  subscription := subscription

/-- The type of a name. -/
def type? (graph : TypeGraph B) (name : String) : Option (GraphType B) := graph.types.get? name

/-- The names of the types, in order. -/
def names (graph : TypeGraph B) : List String := graph.types.names

/-- The finished type that an occurrence refers to, through wrappers and placeholders alike. -/
def target? (graph : TypeGraph B) (occurrence : Occurrence B) : Option (GraphType B) :=
  graph.type? occurrence.innermost

/-- The placeholders that name no type of the graph, each with the name of the type in which it
stands, in the order of types and of their references. -/
def dangling (graph : TypeGraph B) : List (String × String) :=
  graph.types.values.flatMap fun type =>
    (type.references.filter fun reference =>
      reference.isPlaceholder && !graph.types.contains reference.innermost).map
        fun reference => (type.name, reference.innermost)

/-- The form shown for inspection. -/
def text (graph : TypeGraph B) : String :=
  s!"TypeGraph \x7b query_type: {Text.inspect graph.query.name}, " ++
    s!"mutation_type: {Text.inspectOption (graph.mutation.map NamedType.name)}, " ++
    s!"subscription_type: {Text.inspectOption (graph.subscription.map NamedType.name)}, " ++
    s!"types: {Text.inspectList graph.names} \x7d"

end TypeGraph

end SchemaAssembly
