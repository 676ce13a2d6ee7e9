import SchemaAssembly.Proofs.Image

/-!
# What assembled fields and types are bound to

Behaviours come from three sources, and one rule says which of them counts. If the factory claims a
field or an abstract type it is the factory's answer; if not, it is what is wired for exactly that
field of that type, or for that type; and if there is nothing, a field reads the property of its own
name, and an abstract type is left unresolved. The field that the factory is asked about is the
first declaration of the name, be it in the definition or in an extension.

## Main definitions

* `SchemaAssembly.Chosen` — the rule.
* `SchemaAssembly.Field.BoundBy`, `TypeResolverBinding.BoundBy` — the rule for fields and for
  abstract types.

## Main results

* `SchemaAssembly.bound_of_assemble` — every field and every abstract type of an assembled graph is
  bound by the rule.
-/

set_option relaxedAutoImplicit false
set_option autoImplicit false

namespace SchemaAssembly

variable {B : Behaviours} {registry : Registry} {wiring : Wiring B} {τ : Type}

/-! ## The rule -/

/-- **Which of three sources counts.** If there is a claim, what is bound is the answer to it; if
not, it is what is wired; and if nothing is wired, it is the fallback. -/
structure Chosen {α β : Type} (claims : Bool) (answer wired : Option α) (embed : α → β)
    (fallback bound : β) : Prop where
  /-- What is claimed is bound to the answer, which there is. -/
  of_claim : claims = true → ∃ a, answer = some a ∧ bound = embed a
  /-- Anything else is bound to what is wired. -/
  of_wired : claims = false → ∀ a, wired = some a → bound = embed a
  /-- If nothing is wired either, the fallback is bound. -/
  of_none : claims = false → wired = none → bound = fallback
  /-- Nothing comes from anywhere else; in particular no answer counts without a claim. -/
  source : ∀ a, bound = embed a →
    (claims = true ∧ answer = some a) ∨ (claims = false ∧ wired = some a)

/-- **The rule for a field**, as a field of the type of some name that is first declared by
`first`. -/
def Field.BoundBy (registry : Registry) (wiring : Wiring B) (type : String)
    (first : FieldDefinition) (field : Field B τ) : Prop :=
  Chosen (wiring.factory.claimsField registry first) (wiring.factory.fetcherFor registry first)
    (wiring.fetcher? type field.name) .fetcher (.property field.name) field.resolver

/-- **The rule for an interface or a union.** -/
def TypeResolverBinding.BoundBy (registry : Registry) (wiring : Wiring B)
    (definition : TypeDefinition) (binding : TypeResolverBinding B) : Prop :=
  Chosen (wiring.factory.claimsType registry definition)
    (wiring.factory.resolverFor registry definition) (wiring.resolver? definition.name) .wired
    .unresolved binding

section Chosen

variable {α β : Type} {answer wired : Option α} {embed : α → β} {fallback : β}
  (injective : ∀ a a', embed a = embed a' → a = a') (apart : ∀ a, fallback ≠ embed a)

include injective

/-- The answer to a claim is chosen. -/
theorem chosen_of_claim {a : α} (answered : answer = some a) :
    Chosen true answer wired embed fallback (embed a) := by
  refine ⟨fun _ => ⟨a, answered, rfl⟩, nofun, nofun, fun a' same => .inl ⟨rfl, ?_⟩⟩
  rw [answered, injective a a' same]

include apart

/-- Without a claim it is chosen what is wired, or else the fallback. -/
theorem chosen_of_no_claim :
    Chosen false answer wired embed fallback ((wired.map embed).getD fallback) := by
  cases wired with
  | none => exact ⟨nofun, fun _ => nofun, fun _ _ => rfl, fun a same => absurd same (apart a)⟩
  | some a =>
    refine ⟨nofun, fun _ a' same => ?_, fun _ => nofun, fun a' same => .inr ⟨rfl, ?_⟩⟩
    · rw [← Option.some.inj same]
      rfl
    · rw [injective a a' same]

end Chosen

/-- A field made from its definition is bound by the rule. -/
theorem Field.MadeFrom.boundBy {spells : τ → TypeRef → Prop} {type : String} {field : Field B τ}
    {first : FieldDefinition} (made : field.MadeFrom registry wiring spells type first) :
    field.BoundBy registry wiring type first := by
  have injective : ∀ fetcher fetcher' : B.Fetcher,
      FieldResolver.fetcher fetcher = .fetcher fetcher' → fetcher = fetcher' :=
    fun _ _ => FieldResolver.fetcher.inj
  have bound := made.resolver
  unfold fieldResolver at bound
  unfold Field.BoundBy
  rw [made.name]
  split at bound
  · next claims =>
    rw [claims]
    split at bound
    · next fetcher answered =>
      rw [← Except.ok.inj bound]
      exact chosen_of_claim injective answered
    · cases bound
  · next claims =>
    rw [Bool.not_eq_true] at claims
    rw [claims]
    have chosen : field.resolver =
        ((wiring.fetcher? type first.name).map .fetcher).getD (.property first.name) := by
      split at bound <;> next wired => rw [wired, ← Except.ok.inj bound]; rfl
    rw [chosen]
    exact chosen_of_no_claim injective nofun

/-- An abstract type whose binding was found is bound by the rule. -/
theorem boundBy_of_typeBinding {definition : TypeDefinition} {binding : TypeResolverBinding B}
    (bound : typeBinding registry wiring definition = .ok binding) :
    binding.BoundBy registry wiring definition := by
  have injective : ∀ resolver resolver' : B.Resolver,
      TypeResolverBinding.wired resolver = .wired resolver' → resolver = resolver' :=
    fun _ _ => TypeResolverBinding.wired.inj
  unfold typeBinding at bound
  unfold TypeResolverBinding.BoundBy
  split at bound
  · next claims =>
    rw [claims]
    split at bound
    · next resolver answered =>
      rw [← Except.ok.inj bound]
      exact chosen_of_claim injective answered
    · cases bound
  · next claims =>
    rw [Bool.not_eq_true] at claims
    rw [claims]
    have chosen : binding =
        ((wiring.resolver? definition.name).map .wired).getD .unresolved := by
      rw [← Except.ok.inj bound]
      cases wiring.resolver? definition.name <;> rfl
    rw [chosen]
    exact chosen_of_no_claim injective nofun

/-- A type made from the definition of an interface or a union is bound by the rule. -/
theorem NamedType.MadeFrom.exists_binding {spells : τ → TypeRef → Prop} {type : NamedType B τ}
    {definition : TypeDefinition} (made : type.MadeFrom registry wiring spells definition)
    (abstract : type.kind = .interface ∨ type.kind = .union) :
    ∃ binding, type.binding? = some binding ∧ binding.BoundBy registry wiring definition := by
  obtain ⟨name, description, position, shape⟩ := definition
  cases shape with
  | scalar =>
    obtain ⟨scalar, -, rfl⟩ := made
    rcases abstract with h | h <;> cases h
  | object own ownInterfaces =>
    obtain ⟨fields, interfaces, rfl, -⟩ := made
    rcases abstract with h | h <;> cases h
  | interface own =>
    obtain ⟨fields, resolver, rfl, bound, -⟩ := made
    exact ⟨resolver, rfl, boundBy_of_typeBinding bound⟩
  | union members =>
    obtain ⟨members, resolver, rfl, bound, -⟩ := made
    exact ⟨resolver, rfl, boundBy_of_typeBinding bound⟩
  | enum values =>
    obtain rfl := made
    rcases abstract with h | h <;> cases h
  | inputObject fields =>
    obtain ⟨fields, rfl, -⟩ := made
    rcases abstract with h | h <;> cases h

/-! ## Assembled graphs -/

/-- **Every field and every abstract type of an assembled graph is bound by the rule.** A field is
bound as its first declaration says, among those of the definition of its type and of the extensions
of that name.

**Proof sketch.** A type of the graph is made from the definition of its name
(`madeFrom_of_assemble`), its fields from the first declarations (`NamedType.MadeFrom.fields`), and
what is made is bound to what was found for it. -/
theorem bound_of_assemble (keyed : registry.Keyed) (wired : wiring.Keyed) {graph : TypeGraph B}
    (ok : assemble registry wiring = .ok graph) :
    (∀ type ∈ graph.types.values, ∀ field ∈ type.fields, ∃ definition first,
      registry.find? type.name = some definition ∧
      (registry.declaredFields definition).find? (fun other => other.name = field.name) =
        some first ∧
      field.BoundBy registry wiring type.name first) ∧
    ∀ type ∈ graph.types.values, type.kind = .interface ∨ type.kind = .union →
      ∃ definition binding, registry.find? type.name = some definition ∧
        type.binding? = some binding ∧ binding.BoundBy registry wiring definition := by
  constructor
  · intro type h field hf
    obtain ⟨definition, found, made⟩ := madeFrom_of_assemble keyed wired ok h
    obtain ⟨first, declared, made'⟩ := made.fields.2 field hf
    have own := (made.heading wired).1
    exact ⟨definition, first, found, declared, own ▸ made'.boundBy⟩
  · intro type h abstract
    obtain ⟨definition, found, made⟩ := madeFrom_of_assemble keyed wired ok h
    obtain ⟨binding, bound, boundBy⟩ := made.exists_binding abstract
    exact ⟨definition, binding, found, bound, boundBy⟩

/-- Behaviours that say where they come from. -/
def labelledBehaviours : Behaviours := ⟨String, String, Unit⟩

/-- A factory that has an answer for everything, and claims the fields named `greet` and the type
`Item` only. Its answers for fields give the line of the declaration that it is asked about. -/
def labelledFactory : WiringFactory labelledBehaviours where
  claimsField _ field := field.name = "greet"
  fetcherFor _ field := some ("factory for line " ++ toString field.position.line)
  claimsType _ type := type.name = "Item"
  resolverFor _ type := some ("factory for " ++ type.name)

/-- A wiring that wires some of what the factory claims, and some of what it does not. -/
def labelledWiring : Wiring labelledBehaviours :=
  (Wiring.standard labelledBehaviours).withFactory labelledFactory
    |>.withType ⟨"Query", .ofList [("greet", "wired"), ("wave", "wired")], none⟩
    |>.withType ⟨"Item", .ofList [("label", "wired")], some "wired"⟩
    |>.withType ⟨"Found", ∅, some "wired"⟩

/-- Fields that are declared in several places, and an interface with a type that implements it. -/
def greetingsDefinitions : List Definition := [
  .schema ⟨[⟨.query, "Query", ⟨1, 10⟩⟩], ⟨1, 1⟩⟩,
  .type ⟨"Query", none, ⟨2, 1⟩, .object
    [⟨"found", none, [], .ofName "Found", ⟨3, 3⟩⟩, ⟨"item", none, [], .ofName "Item", ⟨4, 3⟩⟩] []⟩,
  .extension ⟨"Query", [], [⟨"greet", none, [], .ofName "String", ⟨5, 20⟩⟩], ⟨5, 1⟩⟩,
  .extension ⟨"Query", [],
    [⟨"greet", none, [], .ofName "String", ⟨6, 20⟩⟩, ⟨"wave", none, [], .ofName "String", ⟨7, 3⟩⟩],
    ⟨6, 1⟩⟩,
  .type ⟨"Item", none, ⟨8, 1⟩, .interface [⟨"label", none, [], .ofName "String", ⟨8, 20⟩⟩]⟩,
  .type ⟨"Thing", none, ⟨9, 1⟩, .object
    [⟨"label", none, [], .ofName "String", ⟨9, 30⟩⟩] ["Item"]⟩,
  .type ⟨"Found", none, ⟨10, 1⟩, .union ["Thing"]⟩]

/-- The registry of the greetings. -/
def greetings : Registry := (Registry.empty.addAll greetingsDefinitions).1

/-- The greetings are keyed. -/
theorem keyed_greetings : greetings.Keyed := Registry.keyed_empty.addAll greetingsDefinitions

/-- The wiring that labels is keyed. -/
theorem keyed_labelledWiring : labelledWiring.Keyed :=
  ((((Wiring.keyed_standard labelledBehaviours).withFactory _).withType _).withType _).withType _

/-- Where the behaviour of a field comes from. -/
def FieldResolver.origin : FieldResolver labelledBehaviours → String
  | property name => "property " ++ name
  | fetcher bound => bound

/-- The types of a graph with their kinds, each with the origins of what its fields are bound to and
of what it is bound to itself. -/
def TypeGraph.origins (graph : TypeGraph labelledBehaviours) :
    List (String × TypeKind × List String) :=
  graph.types.values.map fun type => (type.name, type.kind,
    type.fields.map (fun field => field.name ++ ": " ++ field.resolver.origin) ++
      (type.binding?.bind TypeResolverBinding.resolver?).toList)

/-- The factory counts before the wiring where it claims, and is asked about the declaration that
counts; elsewhere it does not count, and neither does what is wired for an interface of the type. -/
theorem bound_of_assemble_greetings :
    greetings.Keyed ∧ labelledWiring.Keyed ∧ ∃ graph,
      assemble greetings labelledWiring = .ok graph ∧
      graph.origins =
        [("Query", .object, ["found: property found", "item: property item",
            "greet: factory for line 5", "wave: wired"]),
          ("Found", .union, ["wired"]), ("Thing", .object, ["label: property label"]),
          ("String", .scalar, []), ("Item", .interface, ["label: wired", "factory for Item"])] ∧
      ∃ type ∈ graph.types.values, type.name = "Item" ∧ ∃ definition binding,
        greetings.find? "Item" = some definition ∧ type.binding? = some binding ∧
          binding.BoundBy greetings labelledWiring definition := by
  have listed : (assemble greetings labelledWiring).toOption.map TypeGraph.origins = some
      [("Query", .object, ["found: property found", "item: property item",
          "greet: factory for line 5", "wave: wired"]),
        ("Found", .union, ["wired"]), ("Thing", .object, ["label: property label"]),
        ("String", .scalar, []), ("Item", .interface, ["label: wired", "factory for Item"])] := by
    decide +kernel
  obtain ⟨graph, ok, origins⟩ := exists_eq_ok_of_view listed
  obtain ⟨-, bound⟩ := bound_of_assemble keyed_greetings keyed_labelledWiring ok
  have item : ("Item", TypeKind.interface, ["label: wired", "factory for Item"]) ∈
      graph.origins := by simp [origins]
  obtain ⟨type, h, own⟩ := List.mem_map.1 item
  obtain ⟨name, kind, -⟩ : type.name = "Item" ∧ type.kind = .interface ∧ _ := by simpa using own
  obtain ⟨definition, binding, found, answer, boundBy⟩ := bound type h (.inl kind)
  exact ⟨keyed_greetings, keyed_labelledWiring, graph, ok, origins, type, h, name, definition,
    binding, name ▸ found, answer, boundBy⟩

end SchemaAssembly
