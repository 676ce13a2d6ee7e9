import SchemaAssembly.Proofs.Blindness
import SchemaAssembly.Proofs.WiringHistory

/-!
# What a static factory serves

A static factory is made by calls, each of which serves a fetcher under a field name or a resolver under
a type name; of several calls for one name the last counts. Such a factory keeps its promises, so that
assembly never finds it at fault: with the factory it fails where it fails without any, and for the same
reason. Where it succeeds, the factory wins wherever it serves a name, whatever else is wired there, and
everywhere else things are bound as if there were no factory.

The graphs with and without the factory are compared type by type. Both are made from the same
definitions, in the same order, so that nothing has to be known of how they are built.

## Main definitions

* `SchemaAssembly.FactoryCall` — a call on a static factory; `SchemaAssembly.StaticFactory.ofCalls`.
* `SchemaAssembly.FactoryCall.fetcher?`, `resolver?` — what calls serve under a name.
* `SchemaAssembly.WiringFactory.Honest` — a factory provides what it claims.
* `SchemaAssembly.NamedType.ServedBy` — a type is bound like another, except for what calls serve.

## Main results

* `SchemaAssembly.StaticFactory.ofCalls_eq` — the factory that calls make.
* `SchemaAssembly.search_congr`, `SchemaAssembly.fault_of_search` — the search goes by demands alone, and
  stops at a fault of one of them or of a reference.
* `SchemaAssembly.demands_withFactory` — an honest factory is never at fault.
* `SchemaAssembly.assemble_served` — assembly with a static factory, compared with assembly without.
-/

set_option relaxedAutoImplicit false
set_option autoImplicit false

namespace SchemaAssembly

variable {B : Behaviours} {registry : Registry} {wiring wiring' : Wiring B}

/-! ## The calls that make a factory -/

/-- One call on a static factory. -/
inductive FactoryCall (B : Behaviours)
  /-- Serves a fetcher for every field of a name. -/
  | fetcher (field : String) (fetcher : B.Fetcher)
  /-- Serves a resolver for the interface or union of a name. -/
  | resolver (type : String) (resolver : B.Resolver)

namespace FactoryCall

/-- The fetchers that a call serves, by field name. -/
def fetchers : FactoryCall B → List (String × B.Fetcher)
  | .fetcher field served => [(field, served)]
  | .resolver .. => []

/-- The resolvers that a call serves, by type name. -/
def resolvers : FactoryCall B → List (String × B.Resolver)
  | .resolver type served => [(type, served)]
  | .fetcher .. => []

/-- **The fetcher that calls serve under a field name**: that of the last call for it. -/
def fetcher? (calls : List (FactoryCall B)) (field : String) : Option B.Fetcher :=
  (calls.flatMap fetchers).reverse.lookup field

/-- **The resolver that calls serve under a type name**: that of the last call for it. -/
def resolver? (calls : List (FactoryCall B)) (type : String) : Option B.Resolver :=
  (calls.flatMap resolvers).reverse.lookup type

end FactoryCall

namespace StaticFactory

/-- What a static factory is after one more call. -/
def after (factory : StaticFactory B) : FactoryCall B → StaticFactory B
  | .fetcher field fetcher => factory.withFetcher field fetcher
  | .resolver type resolver => factory.withResolver type resolver

/-- **The static factory that calls make**, beginning with the empty one. -/
def ofCalls (calls : List (FactoryCall B)) : StaticFactory B := calls.foldl after empty

/-- The factory that calls make serves all that they serve, one after the other. -/
theorem ofCalls_eq (calls : List (FactoryCall B)) :
    ofCalls calls = ⟨.ofList (calls.flatMap FactoryCall.fetchers),
      .ofList (calls.flatMap FactoryCall.resolvers)⟩ := by
  have step : ∀ (factory : StaticFactory B) (call : FactoryCall B), factory.after call =
      ⟨factory.fetchers.extend call.fetchers, factory.resolvers.extend call.resolvers⟩ := by
    intro factory call
    cases call <;> rfl
  have later : ∀ factory : StaticFactory B, calls.foldl after factory =
      ⟨factory.fetchers.extend (calls.flatMap FactoryCall.fetchers),
        factory.resolvers.extend (calls.flatMap FactoryCall.resolvers)⟩ := by
    induction calls with
    | nil => exact fun factory => rfl
    | cons call rest ih =>
      intro factory
      rw [List.foldl_cons, ih, step, List.flatMap_cons, List.flatMap_cons, NameMap.extend_append,
        NameMap.extend_append]
  exact later empty

/-- Under a field name the last fetcher served is found. -/
theorem get?_fetchers_ofCalls (calls : List (FactoryCall B)) (field : String) :
    (ofCalls calls).fetchers.get? field = FactoryCall.fetcher? calls field := by
  rw [ofCalls_eq, NameMap.get?_ofList, FactoryCall.fetcher?]

/-- Under a type name the last resolver served is found. -/
theorem get?_resolvers_ofCalls (calls : List (FactoryCall B)) (type : String) :
    (ofCalls calls).resolvers.get? type = FactoryCall.resolver? calls type := by
  rw [ofCalls_eq, NameMap.get?_ofList, FactoryCall.resolver?]

end StaticFactory

/-! ## Honest factories -/

/-- **A factory is honest** if it provides what it claims. -/
structure WiringFactory.Honest (registry : Registry) (factory : WiringFactory B) : Prop where
  /-- Whatever field is claimed, its fetcher is provided. -/
  fetcher : ∀ field, factory.claimsField registry field = true →
    ∃ fetcher, factory.fetcherFor registry field = some fetcher
  /-- Whatever abstract type is claimed, its resolver is provided. -/
  resolver : ∀ type, factory.claimsType registry type = true →
    ∃ resolver, factory.resolverFor registry type = some resolver

/-- A static factory is honest. -/
theorem StaticFactory.honest (factory : StaticFactory B) (registry : Registry) :
    factory.toFactory.Honest registry where
  fetcher field claimed :=
    Option.isSome_iff_exists.1 ((factory.fetcherFor_isSome registry field).trans claimed)
  resolver type claimed :=
    Option.isSome_iff_exists.1 ((factory.resolverFor_isSome registry type).trans claimed)

/-- The factory that claims nothing is honest. -/
theorem WiringFactory.honest_silent (registry : Registry) :
    (WiringFactory.silent B).Honest registry := ⟨nofun, nofun⟩

section Honest

variable (honest : wiring.factory.Honest registry)

include honest

/-- With an honest factory there is no fault in a field. -/
theorem fieldFault_of_honest (field : FieldDefinition) :
    fieldFault registry wiring field = none :=
  fieldFault_eq_none_iff.2 (honest.fetcher field)

/-- With an honest factory there is no fault in an abstract type. -/
theorem typeFault_of_honest (type : TypeDefinition) : typeFault registry wiring type = none :=
  typeFault_eq_none_iff.2 (honest.resolver type)

/-- With an honest factory no demand of a definition can fail but that for a scalar. -/
theorem check_mem_demands_of_honest {type : TypeDefinition} {fault : SchemaError}
    (demanded : .check (some fault) ∈ demands registry wiring type) :
    fault = .missingScalar type.name type.position := by
  rcases check_mem_demands_iff.1 demanded with ⟨-, h⟩ | ⟨-, h⟩ | ⟨field, -, h⟩
  · unfold scalarFault at h
    split at h
    · exact Option.some.inj h
    · cases h
  · rw [typeFault_of_honest honest] at h
    cases h
  · rw [fieldFault_of_honest honest] at h
    cases h

end Honest

/-- **What a definition demands does not depend on an honest factory.** -/
theorem demands_withFactory (wiring : Wiring B) {factory factory' : WiringFactory B}
    (honest : factory.Honest registry) (honest' : factory'.Honest registry) (type : TypeDefinition) :
    demands registry (wiring.withFactory factory) type =
      demands registry (wiring.withFactory factory') type := by
  have field : ∀ context (field : FieldDefinition),
      field.demands registry (wiring.withFactory factory) context =
        field.demands registry (wiring.withFactory factory') context := by
    intro context field
    rw [FieldDefinition.demands, FieldDefinition.demands, fieldFault_of_honest honest,
      fieldFault_of_honest honest']
  unfold demands
  rw [typeFault_of_honest honest, typeFault_of_honest honest']
  simp only [field]
  rfl

/-! ## Searching with different wirings -/

/-- Whether an error says that a factory broke its promise. -/
def SchemaError.isBrokenClaim : SchemaError → Bool
  | .brokenClaim .. => true
  | _ => false

/-- What is wrong with a root type is never a broken claim. -/
theorem isBrokenClaim_of_rootFault {root : RootBinding} {fault : SchemaError}
    (wrong : rootFault registry root = some fault) : fault.isBrokenClaim = false := by
  unfold rootFault at wrong
  split at wrong
  · rw [← Option.some.inj wrong]
    rfl
  · split at wrong
    · cases wrong
    · rw [← Option.some.inj wrong]
      rfl

/-- **The search goes by demands alone.** -/
theorem search_congr (same : ∀ type, demands registry wiring type = demands registry wiring' type)
    (visited : List String) (agenda : List Demand) :
    search registry wiring visited agenda = search registry wiring' visited agenda := by
  fun_induction search registry wiring visited agenda with
  | case1 visited => rw [search]
  | case2 visited rest ih => rw [ih, search]
  | case3 visited fault rest => rw [search]
  | case4 visited reference rest unknown => rw [search_unknown unknown]
  | case5 visited reference rest type found misplaced =>
    rw [search_misplaced found (by simpa using misplaced)]
  | case6 visited reference rest type found placed seen ih =>
    rw [ih, search_seen found (by simpa using placed) seen]
  | case7 visited reference rest type found placed fresh ih =>
    rw [ih, search_fresh found (by simpa using placed) fresh, same]

/-- The search from the roots goes by demands alone. -/
theorem searchRoots_congr
    (same : ∀ type, demands registry wiring type = demands registry wiring' type) :
    searchRoots registry wiring = searchRoots registry wiring' := by
  simp only [searchRoots, search_congr same]

/-- **Where the search stops**: at a check that fails, on the agenda or among the demands of a
definition, or at a reference that does not resolve. -/
theorem fault_of_search (blamed : SchemaError → Prop)
    (unknown : ∀ reference : Reference, blamed reference.unknown)
    (misplaced : ∀ (place : Place) (type : TypeDefinition), blamed (place.mismatch type))
    (demanded : ∀ type fault, .check (some fault) ∈ demands registry wiring type → blamed fault)
    {visited : List String} {agenda : List Demand} {fault : SchemaError}
    (asked : ∀ fault, .check (some fault) ∈ agenda → blamed fault)
    (failed : search registry wiring visited agenda = .error fault) : blamed fault := by
  fun_induction search registry wiring visited agenda with
  | case1 visited => cases failed
  | case2 visited rest ih => exact ih (fun fault h => asked fault (.tail _ h)) failed
  | case3 visited first rest =>
    cases failed
    exact asked _ (.head _)
  | case4 visited reference rest =>
    cases failed
    exact unknown reference
  | case5 visited reference rest type =>
    cases failed
    exact misplaced reference.place type
  | case6 visited reference rest type found placed seen ih =>
    exact ih (fun fault h => asked fault (.tail _ h)) failed
  | case7 visited reference rest type found placed fresh ih =>
    refine ih (fun fault h => ?_) failed
    rcases List.mem_append.1 h with h | h
    · exact demanded type fault h
    · exact asked fault (.tail _ h)

/-- With an honest factory the search from the roots never stops at a broken claim. -/
theorem isBrokenClaim_of_searchRoots (honest : wiring.factory.Honest registry) {fault : SchemaError}
    (failed : searchRoots registry wiring = .error fault) : fault.isBrokenClaim = false := by
  unfold searchRoots at failed
  split at failed
  · obtain rfl := Except.error.inj failed
    rfl
  split at failed
  · obtain rfl := Except.error.inj failed
    rfl
  refine fault_of_search (·.isBrokenClaim = false) (fun _ => rfl) ?_ ?_ ?_ failed
  · intro place type
    cases place <;> rfl
  · intro type fault demanded
    rw [check_mem_demands_of_honest honest demanded]
    rfl
  · intro fault asked
    obtain ⟨root, -, h⟩ := List.mem_flatMap.1 asked
    simp only [rootDemands, List.mem_cons, Demand.check.injEq, List.not_mem_nil, or_false,
      reduceCtorEq] at h
    exact isBrokenClaim_of_rootFault h.symm

/-! ## Bound with and without the factory -/

/-- A field is bound to the fetcher served under its name, or else as if there were no factory. -/
theorem fieldResolver_ofCalls (registry : Registry) (wiring : Wiring B)
    (calls : List (FactoryCall B)) (type : String) (field : FieldDefinition) :
    fieldResolver registry (wiring.withFactory (StaticFactory.ofCalls calls).toFactory) type field =
      match FactoryCall.fetcher? calls field.name with
      | some served => .ok (.fetcher served)
      | none => fieldResolver registry (wiring.withFactory (.silent B)) type field := by
  have served := StaticFactory.get?_fetchers_ofCalls calls field.name
  simp only [fieldResolver, Wiring.withFactory, StaticFactory.toFactory, NameMap.contains, served]
  cases FactoryCall.fetcher? calls field.name <;> rfl

/-- An abstract type is bound to the resolver served under its name, or else as if there were no
factory. -/
theorem typeBinding_ofCalls (registry : Registry) (wiring : Wiring B)
    (calls : List (FactoryCall B)) (type : TypeDefinition) :
    typeBinding registry (wiring.withFactory (StaticFactory.ofCalls calls).toFactory) type =
      match FactoryCall.resolver? calls type.name with
      | some served => .ok (.wired served)
      | none => typeBinding registry (wiring.withFactory (.silent B)) type := by
  have served := StaticFactory.get?_resolvers_ofCalls calls type.name
  simp only [typeBinding, Wiring.withFactory, StaticFactory.toFactory, NameMap.contains, served]
  cases FactoryCall.resolver? calls type.name <;> rfl

/-- **A field is bound like another, except for what calls serve**: to the fetcher served under its
name, or else to what the other is bound to. -/
structure Field.ServedBy {τ : Type} (calls : List (FactoryCall B)) (field other : Field B τ) :
    Prop where
  /-- The names are the same. -/
  name : field.name = other.name
  /-- The field is bound to the fetcher served under its name, or else like the other. -/
  resolver : field.resolver =
    ((FactoryCall.fetcher? calls field.name).map .fetcher).getD other.resolver

/-- **A type is bound like another, except for what calls serve**: it has fields of the same names, which
are bound like those of the other, and if it is abstract it is bound to the resolver served under its
name, or else like the other. -/
structure NamedType.ServedBy {τ : Type} (calls : List (FactoryCall B)) (type other : NamedType B τ) :
    Prop where
  /-- The names are the same. -/
  name : type.name = other.name
  /-- The kinds are the same. -/
  kind : type.kind = other.kind
  /-- The fields are bound like those of the other, except for what calls serve. -/
  fields : List.Forall₂ (Field.ServedBy calls) type.fields other.fields
  /-- An abstract type is bound to the resolver served under its name, or else like the other. -/
  binding : type.binding? = other.binding?.map fun bound =>
    ((FactoryCall.resolver? calls type.name).map .wired).getD bound

/-- Lists that give the same names correspond, if items of the same name do. -/
theorem forall₂_of_map_eq {α β γ : Type} {f : α → γ} {g : β → γ} {related : α → β → Prop}
    {as : List α} {bs : List β} (named : as.map f = bs.map g)
    (each : ∀ a ∈ as, ∀ b ∈ bs, f a = g b → related a b) : List.Forall₂ related as bs := by
  induction as generalizing bs with
  | nil =>
    cases bs with
    | nil => exact .nil
    | cons b bs => cases named
  | cons a as ih =>
    cases bs with
    | nil => cases named
    | cons b bs =>
      obtain ⟨first, others⟩ := List.cons.inj named
      exact .cons (each a (.head _) b (.head _) first)
        (ih others fun a ha b hb => each a (.tail _ ha) b (.tail _ hb))

section MadeFrom

variable {calls : List (FactoryCall B)} {spells : Occurrence B → TypeRef → Prop}

/-- Fields that are made from the same definition with and without the factory. -/
theorem Field.MadeFrom.servedBy {context : String} {field other : Field B (Occurrence B)}
    {first : FieldDefinition}
    (made : field.MadeFrom registry (wiring.withFactory (StaticFactory.ofCalls calls).toFactory)
      spells context first)
    (made' : other.MadeFrom registry (wiring.withFactory (.silent B)) spells context first) :
    field.ServedBy calls other where
  name := made.name.trans made'.name.symm
  resolver := by
    have bound := made.resolver
    rw [fieldResolver_ofCalls, made'.resolver, ← made.name] at bound
    cases served : FactoryCall.fetcher? calls field.name <;> rw [served] at bound <;>
      exact (Except.ok.inj bound).symm

variable {type other : GraphType B} {definition : TypeDefinition}
  (made : type.MadeFrom registry (wiring.withFactory (StaticFactory.ofCalls calls).toFactory)
    Occurrence.Spells definition)
  (made' : other.MadeFrom registry (wiring.withFactory (.silent B)) Occurrence.Spells definition)

include made made'

/-- Abstract types that are made from the same definition with and without the factory. -/
theorem NamedType.MadeFrom.binding?_servedBy :
    type.binding? = other.binding?.map fun bound =>
      ((FactoryCall.resolver? calls type.name).map .wired).getD bound := by
  obtain ⟨name, description, position, shape⟩ := definition
  have served : ∀ {resolver resolver' : TypeResolverBinding B},
      typeBinding registry (wiring.withFactory (StaticFactory.ofCalls calls).toFactory)
        ⟨name, description, position, shape⟩ = .ok resolver →
      typeBinding registry (wiring.withFactory (.silent B)) ⟨name, description, position, shape⟩ =
        .ok resolver' →
      some resolver = some (((FactoryCall.resolver? calls name).map .wired).getD resolver') := by
    intro resolver resolver' bound bound'
    rw [typeBinding_ofCalls, bound'] at bound
    cases served : FactoryCall.resolver? calls name <;> simp only [served] at bound <;>
      cases bound <;> rfl
  cases shape with
  | scalar =>
    obtain ⟨scalar, -, rfl⟩ := made
    obtain ⟨scalar', -, rfl⟩ := made'
    rfl
  | object own ownInterfaces =>
    obtain ⟨fields, interfaces, rfl, -⟩ := made
    obtain ⟨fields', interfaces', rfl, -⟩ := made'
    rfl
  | interface own =>
    obtain ⟨fields, resolver, rfl, bound, -⟩ := made
    obtain ⟨fields', resolver', rfl, bound', -⟩ := made'
    exact served bound bound'
  | union members =>
    obtain ⟨members, resolver, rfl, bound, -⟩ := made
    obtain ⟨members', resolver', rfl, bound', -⟩ := made'
    exact served bound bound'
  | enum values =>
    obtain rfl := made
    obtain rfl := made'
    rfl
  | inputObject fields =>
    obtain ⟨fields, rfl, -⟩ := made
    obtain ⟨fields', rfl, -⟩ := made'
    rfl

/-- **Types that are made from the same definition with and without the factory** are bound alike,
except for what calls serve. -/
theorem NamedType.MadeFrom.servedBy (wired : wiring.Keyed) : type.ServedBy calls other := by
  obtain ⟨name, kind, -⟩ := made.heading (wired.withFactory _)
  obtain ⟨name', kind', -⟩ := made'.heading (wired.withFactory _)
  obtain ⟨fieldNames, fields⟩ := made.fields
  obtain ⟨fieldNames', fields'⟩ := made'.fields
  refine ⟨name.trans name'.symm, kind.trans kind'.symm, ?_, made.binding?_servedBy made'⟩
  refine forall₂_of_map_eq (fieldNames.trans fieldNames'.symm) fun field h field' h' same => ?_
  obtain ⟨first, declared, madeFrom⟩ := fields field h
  obtain ⟨first', declared', madeFrom'⟩ := fields' field' h'
  rw [same, declared'] at declared
  obtain rfl := Option.some.inj declared
  exact madeFrom.servedBy madeFrom'

end MadeFrom

/-! ## Assembling -/

/-- Assembly with honest factories comes to the same names, or stops at the same fault. -/
theorem names_assembleGraph_withFactory (keyed : registry.Keyed) (wired : wiring.Keyed)
    {factory factory' : WiringFactory B} (honest : factory.Honest registry)
    (honest' : factory'.Honest registry) :
    (assembleGraph registry (wiring.withFactory factory)).map TypeGraph.names =
      (assembleGraph registry (wiring.withFactory factory')).map TypeGraph.names := by
  rw [names_assembleGraph keyed (wired.withFactory _), names_assembleGraph keyed (wired.withFactory _)]
  exact searchRoots_congr (demands_withFactory wiring honest honest')

/-- With an honest factory assembly never stops at a broken claim. -/
theorem isBrokenClaim_of_assembleGraph (keyed : registry.Keyed) (wired : wiring.Keyed)
    (honest : wiring.factory.Honest registry) {fault : SchemaError}
    (failed : assembleGraph registry wiring = .error fault) : fault.isBrokenClaim = false := by
  refine isBrokenClaim_of_searchRoots honest ?_
  rw [← names_assembleGraph keyed wired, failed]
  rfl

/-- Graphs that are assembled with and without the factory and list the same names are bound alike, type
by type, except for what calls serve. -/
theorem servedBy_of_assemble (keyed : registry.Keyed) (wired : wiring.Keyed)
    {calls : List (FactoryCall B)} {graph other : TypeGraph B}
    (ok : assemble registry (wiring.withFactory (StaticFactory.ofCalls calls).toFactory) = .ok graph)
    (ok' : assemble registry (wiring.withFactory (.silent B)) = .ok other)
    (names : graph.names = other.names) :
    List.Forall₂ (NamedType.ServedBy calls) graph.types.values other.types.values := by
  obtain ⟨last, finished⟩ := finished_of_assemble keyed (wired.withFactory _) ok
  obtain ⟨last', finished'⟩ := finished_of_assemble keyed (wired.withFactory _) ok'
  rw [← finished.map_name_values, ← finished'.map_name_values] at names
  refine forall₂_of_map_eq names fun type h type' h' same => ?_
  obtain ⟨definition, found, made⟩ := madeFrom_of_assemble keyed (wired.withFactory _) ok h
  obtain ⟨definition', found', made'⟩ := madeFrom_of_assemble keyed (wired.withFactory _) ok' h'
  rw [same, found'] at found
  obtain rfl := Option.some.inj found
  exact made.servedBy made' wired

/-- **A static factory is never at fault, and always wins.** With a factory that calls make, assembly
stops at the same problem as without any factory, which is never a broken claim, or it succeeds as it
does without. Then the graphs list types of the same names in the same order. Every field whose name is
served, in whatever type, is bound to the fetcher served last, and every interface or union to the
resolver served last, whatever is wired; everything else is bound as without the factory.

**Proof sketch.** A static factory provides what it claims, so that what is demanded is the same with and
without it (`demands_withFactory`), and so is what the search finds or stops at (`search_congr`); and it
does not stop at a broken claim (`isBrokenClaim_of_searchRoots`). A type is made from the definition of its
name on both sides (`madeFrom_of_assemble`), where binding differs just in what is served. -/
theorem assemble_served (keyed : registry.Keyed) (wired : wiring.Keyed)
    (calls : List (FactoryCall B)) :
    (∃ problem,
      assemble registry (wiring.withFactory (StaticFactory.ofCalls calls).toFactory) =
        .error problem ∧
      assemble registry (wiring.withFactory (.silent B)) = .error problem ∧
      ∀ capability name, .brokenClaim capability name ∉ problem.errors) ∨
    ∃ graph other,
      assemble registry (wiring.withFactory (StaticFactory.ofCalls calls).toFactory) = .ok graph ∧
      assemble registry (wiring.withFactory (.silent B)) = .ok other ∧
      List.Forall₂ (NamedType.ServedBy calls) graph.types.values other.types.values := by
  have honest := (StaticFactory.ofCalls calls).honest registry
  have names := names_assembleGraph_withFactory keyed wired honest
    (WiringFactory.honest_silent registry)
  cases ok : assembleGraph registry
      (wiring.withFactory (StaticFactory.ofCalls calls).toFactory) with
  | error fault =>
    cases ok' : assembleGraph registry (wiring.withFactory (.silent B)) with
    | ok other =>
      rw [ok, ok'] at names
      cases names
    | error fault' =>
      obtain rfl : fault = fault' := by
        rw [ok, ok'] at names
        exact Except.error.inj names
      refine .inl ⟨.of fault, by rw [assemble, ok]; rfl, by rw [assemble, ok']; rfl, ?_⟩
      intro capability name broken
      have kept := isBrokenClaim_of_assembleGraph keyed (wired.withFactory _) honest ok
      rw [← List.mem_singleton.1 broken] at kept
      cases kept
  | ok graph =>
    cases ok' : assembleGraph registry (wiring.withFactory (.silent B)) with
    | error fault' =>
      rw [ok, ok'] at names
      cases names
    | ok other =>
      rw [ok, ok'] at names
      refine .inr ⟨graph, other, assemble_eq_ok_iff.2 ok, assemble_eq_ok_iff.2 ok', ?_⟩
      exact servedBy_of_assemble keyed wired (assemble_eq_ok_iff.2 ok) (assemble_eq_ok_iff.2 ok')
        (Except.ok.inj names)

/-- Calls that serve a field of several types and an interface, both of them more than once. -/
def greetingCalls : List (FactoryCall labelledBehaviours) := [
  .fetcher "label" "early", .resolver "Item" "early", .fetcher "greet" "served",
  .fetcher "label" "served", .resolver "Thing" "unasked", .resolver "Item" "served"]

/-- What calls serve counts before what is wired, for fields in every type that has them, also where an
extension declares them, and for the interface; everything else is bound as it is without a factory. -/
theorem assemble_served_greetings :
    greetings.Keyed ∧ labelledWiring.Keyed ∧ ∃ graph other,
      assemble greetings
        (labelledWiring.withFactory (StaticFactory.ofCalls greetingCalls).toFactory) = .ok graph ∧
      assemble greetings (labelledWiring.withFactory (.silent _)) = .ok other ∧
      graph.origins =
        [("Query", .object, ["found: property found", "item: property item", "greet: served",
            "wave: wired"]),
          ("Found", .union, ["wired"]), ("Thing", .object, ["label: served"]),
          ("String", .scalar, []), ("Item", .interface, ["label: served", "served"])] ∧
      other.origins =
        [("Query", .object, ["found: property found", "item: property item", "greet: wired",
            "wave: wired"]),
          ("Found", .union, ["wired"]), ("Thing", .object, ["label: property label"]),
          ("String", .scalar, []), ("Item", .interface, ["label: wired", "wired"])] ∧
      List.Forall₂ (NamedType.ServedBy greetingCalls) graph.types.values other.types.values := by
  have listed : (assemble greetings
      (labelledWiring.withFactory (StaticFactory.ofCalls greetingCalls).toFactory)).toOption.map
        TypeGraph.origins = some
      [("Query", .object, ["found: property found", "item: property item", "greet: served",
          "wave: wired"]),
        ("Found", .union, ["wired"]), ("Thing", .object, ["label: served"]),
        ("String", .scalar, []), ("Item", .interface, ["label: served", "served"])] := by
    decide +kernel
  have listed' : (assemble greetings (labelledWiring.withFactory (.silent _))).toOption.map
        TypeGraph.origins = some
      [("Query", .object, ["found: property found", "item: property item", "greet: wired",
          "wave: wired"]),
        ("Found", .union, ["wired"]), ("Thing", .object, ["label: property label"]),
        ("String", .scalar, []), ("Item", .interface, ["label: wired", "wired"])] := by
    decide +kernel
  obtain ⟨graph, ok, origins⟩ := exists_eq_ok_of_view listed
  obtain ⟨other, ok', origins'⟩ := exists_eq_ok_of_view listed'
  refine ⟨keyed_greetings, keyed_labelledWiring, graph, other, ok, ok', origins, origins', ?_⟩
  obtain ⟨problem, failed, -⟩ | ⟨graph', other', same, same', served⟩ :=
    assemble_served keyed_greetings keyed_labelledWiring greetingCalls
  · rw [ok] at failed
    cases failed
  · rw [ok] at same
    rw [ok'] at same'
    cases same
    cases same'
    exact served

end SchemaAssembly
