import SchemaAssembly.Behaviour
import SchemaAssembly.Registry

/-!
# Wiring factories

A wiring factory hands out behaviours by looking at definitions. It is asked before the explicit
wiring, first whether it claims a field or an abstract type, and only then for the behaviour. A
factory that claims what it does not provide breaks its contract.

## Main definitions

* `SchemaAssembly.WiringFactory` — claims and behaviours, by definition.
* `SchemaAssembly.WiringFactory.silent` — the factory that claims nothing.
* `SchemaAssembly.StaticFactory` — a factory that goes by bare names.

## Main results

* `SchemaAssembly.StaticFactory.fetcherFor_isSome`, `resolverFor_isSome` — a static factory
  provides what it claims.
-/

set_option relaxedAutoImplicit false
set_option autoImplicit false

namespace SchemaAssembly

/-- A source of behaviours that goes by definitions. -/
structure WiringFactory (B : Behaviours) where
  /-- Whether the resolver of a field is provided. -/
  claimsField : Registry → FieldDefinition → Bool := fun _ _ => false
  /-- The resolver of a field. -/
  fetcherFor : Registry → FieldDefinition → Option B.Fetcher := fun _ _ => none
  /-- Whether the resolver of an interface or a union is provided. -/
  claimsType : Registry → TypeDefinition → Bool := fun _ _ => false
  /-- The resolver of an interface or a union. -/
  resolverFor : Registry → TypeDefinition → Option B.Resolver := fun _ _ => none

/-- The factory that claims nothing. -/
def WiringFactory.silent (B : Behaviours) : WiringFactory B := {}

/-- A factory that serves fixed behaviours: fetchers by the bare name of a field, whichever type
declares it, and resolvers by the name of the abstract type. -/
structure StaticFactory (B : Behaviours) where
  /-- The fetchers served, by field name. -/
  fetchers : NameMap B.Fetcher
  /-- The resolvers served, by type name. -/
  resolvers : NameMap B.Resolver

namespace StaticFactory

variable {B : Behaviours}

/-- The static factory that serves nothing. -/
def empty : StaticFactory B := ⟨∅, ∅⟩

/-- Serves a fetcher for every field of a name. -/
def withFetcher (factory : StaticFactory B) (field : String) (fetcher : B.Fetcher) :
    StaticFactory B :=
  { factory with fetchers := factory.fetchers.set field fetcher }

/-- Serves a resolver for the interface or union of a name. -/
def withResolver (factory : StaticFactory B) (type : String) (resolver : B.Resolver) :
    StaticFactory B :=
  { factory with resolvers := factory.resolvers.set type resolver }

/-- The factory that claims exactly the names served. -/
def toFactory (factory : StaticFactory B) : WiringFactory B where
  claimsField _ field := factory.fetchers.contains field.name
  fetcherFor _ field := factory.fetchers.get? field.name
  claimsType _ type := factory.resolvers.contains type.name
  resolverFor _ type := factory.resolvers.get? type.name

/-- The form shown for inspection. The names served are listed in the order in which they were first
registered, where a hash table would list them in the order of their hashes. Nothing else depends on that
order, as behaviours are looked up by name. -/
def text (factory : StaticFactory B) : String :=
  s!"StaticWiringFactory \x7b data_fetchers: {Text.inspectList factory.fetchers.names}, " ++
    s!"type_resolvers: {Text.inspectList factory.resolvers.names} \x7d"

/-- A static factory provides the resolver of each field that it claims. -/
theorem fetcherFor_isSome (factory : StaticFactory B) (registry : Registry)
    (field : FieldDefinition) :
    (factory.toFactory.fetcherFor registry field).isSome =
      factory.toFactory.claimsField registry field := rfl

/-- A static factory provides the resolver of each abstract type that it claims. -/
theorem resolverFor_isSome (factory : StaticFactory B) (registry : Registry)
    (type : TypeDefinition) :
    (factory.toFactory.resolverFor registry type).isSome =
      factory.toFactory.claimsType registry type := rfl

end StaticFactory

end SchemaAssembly
