import SchemaAssembly.Scalar.Type
import SchemaAssembly.Wiring.Factory

/-!
# Runtime wirings

A wiring says which behaviours go with which definitions: fetchers by type and field, resolvers
by abstract type, codecs by scalar, and a factory that is asked first. The standard scalars are
always wired; a scalar wired under the name of a standard one replaces it.

## Main definitions

* `SchemaAssembly.TypeWiringDraft` — the wiring of one type, before it need have a name.
* `SchemaAssembly.TypeWiring` — the wiring of one named type.
* `SchemaAssembly.Wiring` — the wiring of a schema.
* `SchemaAssembly.Wiring.fetcher?`, `resolver?`, `scalar?` — what is wired.

## Main results

* `SchemaAssembly.Wiring.scalar?_withScalar` — a scalar just wired is found under its name, and
  wiring it hides no other.
* `SchemaAssembly.Wiring.fetcher?_withType`, `resolver?_withType` — what is wired for a type just
  added comes before what was wired for it, and for other types nothing changes.
-/

set_option relaxedAutoImplicit false
set_option autoImplicit false

namespace SchemaAssembly

variable {B : Behaviours}

/-! ## The wiring of one type -/

/-- The wiring of one type. -/
structure TypeWiring (B : Behaviours) where
  /-- The name of the type. -/
  typeName : String
  /-- The fetchers, by field name. -/
  fetchers : NameMap B.Fetcher
  /-- The resolver of an interface or a union. -/
  resolver : Option B.Resolver

/-- The form of a type wiring shown for inspection. -/
def TypeWiring.text (wiring : TypeWiring B) : String :=
  s!"TypeRuntimeWiring \x7b type_name: {Text.inspect wiring.typeName}, " ++
    s!"data_fetchers: {Text.inspectList wiring.fetchers.names}, " ++
    s!"type_resolver: {wiring.resolver.isSome} \x7d"

/-- The only fault of a draft: the type it is for has no name yet. -/
inductive TypeWiringError
  /-- No name was given. -/
  | missingTypeName
deriving DecidableEq, Repr

/-- The sentence that the fault is reported with. -/
def TypeWiringError.message : TypeWiringError → String
  | .missingTypeName => "you must provide a type name"

/-- The wiring of a type whose name may still be given. -/
structure TypeWiringDraft (B : Behaviours) where
  /-- The name of the type, once it is given. -/
  typeName : Option String
  /-- The fetchers so far, by field name. -/
  fetchers : NameMap B.Fetcher
  /-- The resolver, once it is given. -/
  resolver : Option B.Resolver

namespace TypeWiringDraft

/-- The draft in which nothing is given. -/
def empty : TypeWiringDraft B := ⟨none, ∅, none⟩

/-- Names the type. A later name replaces an earlier one. -/
def named (draft : TypeWiringDraft B) (name : String) : TypeWiringDraft B :=
  { draft with typeName := some name }

/-- Wires a fetcher. A later fetcher of a field replaces an earlier one. -/
def withFetcher (draft : TypeWiringDraft B) (field : String) (fetcher : B.Fetcher) :
    TypeWiringDraft B :=
  { draft with fetchers := draft.fetchers.set field fetcher }

/-- Wires many fetchers, one after the other. -/
def withFetchers (draft : TypeWiringDraft B) (fetchers : NameMap B.Fetcher) :
    TypeWiringDraft B :=
  { draft with fetchers := draft.fetchers.extend fetchers.entries }

/-- Sets the resolver. A later one replaces an earlier one. -/
def withResolver (draft : TypeWiringDraft B) (resolver : B.Resolver) : TypeWiringDraft B :=
  { draft with resolver := some resolver }

/-- Finishes a draft, which takes a name. -/
def finish (draft : TypeWiringDraft B) : Except TypeWiringError (TypeWiring B) :=
  match draft.typeName with
  | some typeName => .ok ⟨typeName, draft.fetchers, draft.resolver⟩
  | none => .error .missingTypeName

end TypeWiringDraft

/-! ## The wiring of a schema -/

/-- The wiring of a schema. -/
structure Wiring (B : Behaviours) where
  /-- The fetchers, by type name and then by field name. -/
  fetchers : NameMap (NameMap B.Fetcher)
  /-- The scalars, by their names. -/
  scalars : NameMap (ScalarType B)
  /-- The resolvers of interfaces and unions, by type name. -/
  resolvers : NameMap B.Resolver
  /-- The factory that is asked before the rest of the wiring. -/
  factory : WiringFactory B

namespace Wiring

/-- The wiring of the standard scalars and of nothing else. -/
def standard (B : Behaviours) : Wiring B where
  fetchers := ∅
  scalars := .ofList (StandardScalar.all.map fun scalar => (scalar.name, scalar.type B))
  resolvers := ∅
  factory := .silent B

/-- Sets the factory. -/
def withFactory (wiring : Wiring B) (factory : WiringFactory B) : Wiring B :=
  { wiring with factory }

/-- Wires a scalar under its name. -/
def withScalar (wiring : Wiring B) (scalar : ScalarType B) : Wiring B :=
  { wiring with scalars := wiring.scalars.set scalar.name scalar }

/-- Adds the wiring of one type. Its fetchers join those wired for the type before, the later one
counting for each field. Its resolver, if it has one, replaces the one wired before. -/
def withType (wiring : Wiring B) (added : TypeWiring B) : Wiring B :=
  { wiring with
    fetchers := wiring.fetchers.update added.typeName fun held =>
      (held.getD ∅).extend added.fetchers.entries
    resolvers := match added.resolver with
      | some resolver => wiring.resolvers.set added.typeName resolver
      | none => wiring.resolvers }

/-- The fetchers wired for a type. -/
def fetchersOf (wiring : Wiring B) (type : String) : NameMap B.Fetcher :=
  (wiring.fetchers.get? type).getD ∅

/-- The fetcher wired for a field of a type. -/
def fetcher? (wiring : Wiring B) (type field : String) : Option B.Fetcher :=
  (wiring.fetchersOf type).get? field

/-- The resolver wired for an interface or a union. -/
def resolver? (wiring : Wiring B) (type : String) : Option B.Resolver :=
  wiring.resolvers.get? type

/-- The scalar wired under a name. -/
def scalar? (wiring : Wiring B) (name : String) : Option (ScalarType B) :=
  wiring.scalars.get? name

/-- The form shown for inspection. -/
def text (wiring : Wiring B) : String :=
  let fetchers := wiring.fetchers.entries.map fun entry =>
    s!"({Text.inspect entry.1}, {Text.inspectList entry.2.names})"
  s!"RuntimeWiring \x7b data_fetchers: [{Text.commaSeparated fetchers}], " ++
    s!"scalars: {Text.inspectList wiring.scalars.names}, " ++
    s!"type_resolvers: {Text.inspectList wiring.resolvers.names}, .. \x7d"

/-- A scalar just wired is found under its name, and wiring it hides no other. -/
theorem scalar?_withScalar (wiring : Wiring B) (scalar : ScalarType B) (name : String) :
    (wiring.withScalar scalar).scalar? name =
      if name = scalar.name then some scalar else wiring.scalar? name :=
  NameMap.get?_set wiring.scalars scalar.name name scalar

/-- A fetcher just wired comes before the one wired before for the field, and hides no other. -/
theorem fetcher?_withType (wiring : Wiring B) (added : TypeWiring B) (type field : String) :
    (wiring.withType added).fetcher? type field =
      if type = added.typeName then (added.fetchers.get? field).or (wiring.fetcher? type field)
      else wiring.fetcher? type field := by
  unfold fetcher? fetchersOf withType NameMap.update
  by_cases own : type = added.typeName
  · simp [own, NameMap.get?_extend_entries]
  · simp [own]

/-- A resolver just wired comes before the one wired before for the type, and hides no other. -/
theorem resolver?_withType (wiring : Wiring B) (added : TypeWiring B) (type : String) :
    (wiring.withType added).resolver? type =
      if type = added.typeName then added.resolver.or (wiring.resolver? type)
      else wiring.resolver? type := by
  unfold resolver? withType
  cases added.resolver <;> simp

end Wiring

end SchemaAssembly
