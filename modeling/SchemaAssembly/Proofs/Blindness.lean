import SchemaAssembly.Proofs.Bindings
import SchemaAssembly.Proofs.Exchange

/-!
# Assembly does not look into behaviours

What fetchers, resolvers and codecs do has no influence on assembly. Two wirings that bind something
in the same places, whatever it is and whatever types it has, lead to the same fault, or to graphs
that are the same but for the behaviours; and in each place of the two graphs stands what the two
wirings bind there.

Whether something is bound in a place is all that assembly learns of it. Of a factory these are its
claims, and whether there is an answer; of a scalar it is the description, too, as it goes into the
graph.

## Main definitions

* `SchemaAssembly.WiringFactory.SameAnswers` — two factories claim the same, and have answers for the
  same.
* `SchemaAssembly.Wiring.SamePlaces` — two wirings bind something in the same places.
* `SchemaAssembly.FromOneSource` — two behaviours come from the same of two sources.
* `SchemaAssembly.Wiring.inPlace` — which behaviours two wirings bind in the same place.
* `SchemaAssembly.choose` — the rule by which a behaviour is chosen.

## Main results

* `SchemaAssembly.Wiring.SamePlaces.binds` — what the wirings bind for a definition corresponds.
* `SchemaAssembly.assemble_blind` — wirings that bind something in the same places lead to the same but
  for the behaviours.
-/

set_option relaxedAutoImplicit false
set_option autoImplicit false

namespace SchemaAssembly

variable {B B' : Behaviours} {registry : Registry} {wiring : Wiring B} {wiring' : Wiring B'}

/-! ## The same places -/

/-- **Two factories claim the same, and have answers for the same**, when they are asked about a
registry. What the answers are is left open. -/
structure WiringFactory.SameAnswers (registry : Registry) (factory : WiringFactory B)
    (factory' : WiringFactory B') : Prop where
  /-- They claim the same fields. -/
  claimsField : ∀ field, factory'.claimsField registry field = factory.claimsField registry field
  /-- They have fetchers for the same fields. -/
  fetcherFor : ∀ field,
    (factory'.fetcherFor registry field).isSome = (factory.fetcherFor registry field).isSome
  /-- They claim the same abstract types. -/
  claimsType : ∀ type, factory'.claimsType registry type = factory.claimsType registry type
  /-- They have resolvers for the same abstract types. -/
  resolverFor : ∀ type,
    (factory'.resolverFor registry type).isSome = (factory.resolverFor registry type).isSome

/-- **Two wirings bind something in the same places.** What they bind there is left open, except for
the descriptions of scalars. -/
structure Wiring.SamePlaces (registry : Registry) (wiring : Wiring B) (wiring' : Wiring B') :
    Prop where
  /-- Fetchers are wired for the same fields of the same types. -/
  fetchers : ∀ type field, (wiring'.fetcher? type field).isSome = (wiring.fetcher? type field).isSome
  /-- Resolvers are wired for the same types. -/
  resolvers : ∀ type, (wiring'.resolver? type).isSome = (wiring.resolver? type).isSome
  /-- Scalars are wired under the same names, with the same descriptions. -/
  scalars : ∀ name, (wiring'.scalar? name).map ScalarType.description =
    (wiring.scalar? name).map ScalarType.description
  /-- The factories claim the same, and have answers for the same. -/
  factory : wiring.factory.SameAnswers registry wiring'.factory

namespace Wiring.SamePlaces

/-- The standard wirings bind something in the same places. -/
theorem standard (registry : Registry) (B B' : Behaviours) :
    SamePlaces registry (Wiring.standard B) (Wiring.standard B') where
  fetchers _ _ := rfl
  resolvers _ := rfl
  scalars name := by
    have each : (Wiring.standard B).scalars.Matches
        (fun scalar scalar' => scalar'.description = scalar.description)
        (Wiring.standard B').scalars := by
      refine NameMap.matches_empty.extend ?_
      rw [List.forall₂_map_left_iff, List.forall₂_map_right_iff, List.forall₂_same]
      exact fun scalar _ => ⟨rfl, rfl⟩
    have held := each.get? name
    unfold Wiring.scalar?
    generalize (Wiring.standard B).scalars.get? name = left at held ⊢
    generalize (Wiring.standard B').scalars.get? name = right at held ⊢
    cases held with
    | none => rfl
    | some described => exact congrArg some described
  factory := ⟨fun _ => rfl, fun _ => rfl, fun _ => rfl, fun _ => rfl⟩

variable (same : SamePlaces registry wiring wiring')

include same

/-- Factories that have answers for the same keep it so. -/
theorem withFactory {factory : WiringFactory B} {factory' : WiringFactory B'}
    (answers : factory.SameAnswers registry factory') :
    SamePlaces registry (wiring.withFactory factory) (wiring'.withFactory factory') :=
  ⟨same.fetchers, same.resolvers, same.scalars, answers⟩

/-- Scalars of one name and one description keep it so. -/
theorem withScalar {scalar : ScalarType B} {scalar' : ScalarType B'}
    (named : scalar'.name = scalar.name) (described : scalar'.description = scalar.description) :
    SamePlaces registry (wiring.withScalar scalar) (wiring'.withScalar scalar') := by
  refine ⟨same.fetchers, same.resolvers, fun name => ?_, same.factory⟩
  rw [scalar?_withScalar, scalar?_withScalar, named]
  split
  · rw [Option.map_some, Option.map_some, described]
  · exact same.scalars name

/-- Wirings of one type keep it so, if they have fetchers for the same fields and both have a resolver
or none. -/
theorem withType {added : TypeWiring B} {added' : TypeWiring B'}
    (named : added'.typeName = added.typeName) (fields : added'.fetchers.names = added.fetchers.names)
    (resolver : added'.resolver.isSome = added.resolver.isSome) :
    SamePlaces registry (wiring.withType added) (wiring'.withType added') := by
  refine ⟨fun type field => ?_, fun type => ?_, same.scalars, same.factory⟩
  · have wired : (added'.fetchers.get? field).isSome = (added.fetchers.get? field).isSome := by
      rw [Bool.eq_iff_iff]
      exact NameMap.contains_iff.trans (fields ▸ NameMap.contains_iff.symm)
    rw [fetcher?_withType, fetcher?_withType, named]
    split
    · rw [Option.isSome_or, Option.isSome_or, wired, same.fetchers]
    · exact same.fetchers type field
  · rw [resolver?_withType, resolver?_withType, named]
    split
    · rw [Option.isSome_or, Option.isSome_or, resolver, same.resolvers]
    · exact same.resolvers type

end Wiring.SamePlaces

/-! ## What stands in a place -/

/-- **Two behaviours come from the same of two sources**: if there is a claim, both are the answers to
it, and if not, both are wired. -/
inductive FromOneSource {α β : Type} (claims : Bool) (answer wired : Option α)
    (answer' wired' : Option β) : α → β → Prop
  /-- Both are the answers to a claim. -/
  | answered {a : α} {b : β} (claimed : claims = true) (h : answer = some a)
      (h' : answer' = some b) : FromOneSource claims answer wired answer' wired' a b
  /-- Both are wired, and there is no claim. -/
  | wired {a : α} {b : β} (unclaimed : claims = false) (h : wired = some a)
      (h' : wired' = some b) : FromOneSource claims answer wired answer' wired' a b

/-- **Which behaviours two wirings bind in the same place.** Fetchers go by the first declaration of the
field, in the definition of its type or in an extension. -/
def Wiring.inPlace (registry : Registry) (wiring : Wiring B) (wiring' : Wiring B') :
    Exchange B B' where
  fetcher type field fetcher fetcher' := ∃ definition first,
    registry.find? type = some definition ∧
    (registry.declaredFields definition).find? (fun other => other.name = field) = some first ∧
    FromOneSource (wiring.factory.claimsField registry first)
      (wiring.factory.fetcherFor registry first) (wiring.fetcher? type field)
      (wiring'.factory.fetcherFor registry first) (wiring'.fetcher? type field) fetcher fetcher'
  resolver type resolver resolver' := ∃ definition,
    registry.find? type = some definition ∧
    FromOneSource (wiring.factory.claimsType registry definition)
      (wiring.factory.resolverFor registry definition) (wiring.resolver? type)
      (wiring'.factory.resolverFor registry definition) (wiring'.resolver? type) resolver resolver'
  codec name codec codec' := ∃ scalar scalar',
    wiring.scalar? name = some scalar ∧ wiring'.scalar? name = some scalar' ∧
      scalar.codec = codec ∧ scalar'.codec = codec'

/-- An effective field is the first declaration of its name. -/
theorem Registry.first_of_mem_fieldsOf {type : TypeDefinition} {field : FieldDefinition}
    (effective : field ∈ registry.fieldsOf type) :
    (registry.declaredFields type).find? (fun other => other.name = field.name) = some field := by
  unfold fieldsOf at effective
  unfold declaredFields
  cases h : type.shape <;> simp only [h] at effective ⊢
  case object | interface => exact find?_of_mem_firstOfEachName effective
  all_goals cases effective

/-! ## What is bound corresponds -/

/-- **The rule by which a behaviour is chosen**: the answer to a claim, or a fault if there is none, and
without a claim what is wired, or else a fallback. -/
def choose {α β : Type} (fault : SchemaError) (claims : Bool) (answer wired : Option α) (embed : α → β)
    (fallback : β) : Except SchemaError β :=
  if claims then
    match answer with
    | some a => .ok (embed a)
    | none => .error fault
  else .ok ((wired.map embed).getD fallback)

/-- A field is bound by the rule. -/
theorem fieldResolver_eq_choose (registry : Registry) (wiring : Wiring B) (type : String)
    (field : FieldDefinition) : fieldResolver registry wiring type field =
      choose (.brokenClaim .dataFetcher field.name) (wiring.factory.claimsField registry field)
        (wiring.factory.fetcherFor registry field) (wiring.fetcher? type field.name) .fetcher
        (.property field.name) := by
  unfold fieldResolver choose
  split
  · cases wiring.factory.fetcherFor registry field <;> rfl
  · cases wiring.fetcher? type field.name <;> rfl

/-- An abstract type is bound by the rule. -/
theorem typeBinding_eq_choose (registry : Registry) (wiring : Wiring B) (type : TypeDefinition) :
    typeBinding registry wiring type =
      choose (.brokenClaim .typeResolver type.name) (wiring.factory.claimsType registry type)
        (wiring.factory.resolverFor registry type) (wiring.resolver? type.name) .wired
        .unresolved := by
  unfold typeBinding choose
  split
  · cases wiring.factory.resolverFor registry type <;> rfl
  · cases wiring.resolver? type.name <;> rfl

/-- By the rule behaviours are chosen that come from the same of two sources, or the fallbacks, if the
sources on both sides have something or nothing. -/
theorem corresponds_choose {α β γ δ : Type} {fault : SchemaError} {claims : Bool}
    {answer wired : Option α} {answer' wired' : Option β} {embed : α → γ} {embed' : β → δ}
    {fallback : γ} {fallback' : δ} {related : γ → δ → Prop}
    (answers : answer'.isSome = answer.isSome) (wirings : wired'.isSome = wired.isSome)
    (source : ∀ a b, FromOneSource claims answer wired answer' wired' a b →
      related (embed a) (embed' b))
    (rest : related fallback fallback') :
    Corresponds Eq related (choose fault claims answer wired embed fallback)
      (choose fault claims answer' wired' embed' fallback') := by
  unfold choose
  cases claims with
  | true =>
    cases answer <;> cases answer' <;> cases answers
    · exact .error rfl
    · exact .ok (source _ _ (.answered rfl rfl rfl))
  | false =>
    cases wired <;> cases wired' <;> cases wirings
    · exact .ok rest
    · exact .ok (source _ _ (.wired rfl rfl rfl))

/-- What two wirings wire for a definition of a scalar corresponds. -/
theorem corresponds_scalarType (wired : wiring.Keyed) (wired' : wiring'.Keyed)
    (same : wiring.SamePlaces registry wiring') (type : TypeDefinition) :
    Corresponds Eq (ScalarType.Exchanged (wiring.inPlace registry wiring'))
      (scalarType wiring type) (scalarType wiring' type) := by
  have described := same.scalars type.name
  unfold scalarType
  cases found : wiring.scalar? type.name with
  | none =>
    rw [found, Option.map_none, Option.map_eq_none_iff] at described
    rw [described]
    exact .error rfl
  | some scalar =>
    rw [found, Option.map_some, Option.map_eq_some_iff] at described
    obtain ⟨scalar', found', described⟩ := described
    have own := wired.name_of_scalar? found
    have own' := wired'.name_of_scalar? found'
    rw [found']
    simp only [described, own, own']
    exact .ok (.intro _ _ ⟨scalar, scalar', found, found', rfl, rfl⟩)

/-- **What two wirings bind for a definition corresponds**, if they bind something in the same places. -/
theorem Wiring.SamePlaces.binds (wired : wiring.Keyed) (wired' : wiring'.Keyed)
    (same : wiring.SamePlaces registry wiring') {type : TypeDefinition}
    (found : registry.find? type.name = some type) :
    (wiring.inPlace registry wiring').Binds registry wiring wiring' type where
  scalar _ := corresponds_scalarType wired wired' same type
  binding _ := by
    rw [typeBinding_eq_choose, typeBinding_eq_choose, same.factory.claimsType]
    exact corresponds_choose (same.factory.resolverFor type) (same.resolvers type.name)
      (fun _ _ source => .wired ⟨type, found, source⟩) .unresolved
  fields field effective := by
    have first := Registry.first_of_mem_fieldsOf effective
    rw [fieldResolver_eq_choose, fieldResolver_eq_choose, same.factory.claimsField]
    exact corresponds_choose (same.factory.fetcherFor field) (same.fetchers type.name field.name)
      (fun _ _ source => .fetcher ⟨type, field, found, first, source⟩) (.property field.name)

/-! ## Assembling -/

/-- **Assembly does not look into behaviours.** With two wirings that bind something in the same places,
whatever it is, assembly stops at the same fault, or it succeeds with graphs that are the same but for
the behaviours, and these are what the two wirings bind in one place.

**Proof sketch.** What the wirings bind for a definition corresponds (`Wiring.SamePlaces.binds`), since
what is chosen goes by whether there is something to choose. Then so do the graphs
(`corresponds_assembleGraph`). -/
theorem assemble_blind (keyed : registry.Keyed) (wired : wiring.Keyed) (wired' : wiring'.Keyed)
    (same : wiring.SamePlaces registry wiring') :
    (∃ problem, assemble registry wiring = .error problem ∧
      assemble registry wiring' = .error problem) ∨
    ∃ graph graph', assemble registry wiring = .ok graph ∧ assemble registry wiring' = .ok graph' ∧
      graph.Exchanged (wiring.inPlace registry wiring') graph' := by
  have outcome : Corresponds Eq (TypeGraph.Exchanged (wiring.inPlace registry wiring'))
      (assembleGraph registry wiring) (assembleGraph registry wiring') := by
    refine corresponds_assembleGraph fun name type found => ?_
    have own := keyed.name_of_find? found
    exact same.binds wired wired' (own ▸ found)
  unfold assemble
  generalize assembleGraph registry wiring = left at outcome
  generalize assembleGraph registry wiring' = right at outcome
  cases outcome with
  | @error fault _ same => exact .inl ⟨.of fault, rfl, same ▸ rfl⟩
  | @ok graph graph' exchanged => exact .inr ⟨graph, graph', rfl, rfl, exchanged⟩

/-- The wiring that labels, with the standard scalar of texts wired once more. -/
def labelledTexts : Wiring labelledBehaviours :=
  labelledWiring.withScalar (StandardScalar.string.type labelledBehaviours)

/-- A factory that claims the same as the one that labels, and labels nothing. -/
def unlabelledFactory : WiringFactory plainBehaviours where
  claimsField := labelledFactory.claimsField
  fetcherFor _ _ := some ()
  claimsType := labelledFactory.claimsType
  resolverFor _ _ := some ()

/-- A wiring that binds something in the same places, but labels nothing, and has a codec of its own
for texts. -/
def unlabelledTexts : Wiring plainBehaviours :=
  (Wiring.standard plainBehaviours).withFactory unlabelledFactory
    |>.withType ⟨"Query", .ofList [("greet", ()), ("wave", ())], none⟩
    |>.withType ⟨"Item", .ofList [("label", ())], some ()⟩
    |>.withType ⟨"Found", ∅, some ()⟩
    |>.withScalar ⟨"String", some "Built-in String", .custom ()⟩

/-- The two wirings bind something in the same places, whatever the registry. -/
theorem samePlaces_labelledTexts (registry : Registry) :
    labelledTexts.SamePlaces registry unlabelledTexts := by
  have answers : labelledFactory.SameAnswers registry unlabelledFactory :=
    ⟨fun _ => rfl, fun _ => rfl, fun _ => rfl, fun _ => rfl⟩
  have factories := (Wiring.SamePlaces.standard registry _ _).withFactory answers
  exact (((factories.withType rfl rfl rfl).withType rfl rfl rfl).withType rfl rfl rfl).withScalar rfl rfl

/-- The greetings with a field of a scalar that is not wired. -/
def datedGreetings : Registry := (greetings.addAll [
  .type ⟨"Date", none, ⟨11, 1⟩, .scalar⟩,
  .extension ⟨"Query", [], [⟨"today", none, [], .ofName "Date", ⟨12, 20⟩⟩], ⟨12, 1⟩⟩]).1

/-- With labels and without, the greetings are assembled into graphs that are the same but for the
behaviours; and if a scalar is missing, it is missing with labels and without. -/
theorem assemble_blind_greetings :
    labelledTexts.Keyed ∧ unlabelledTexts.Keyed ∧ greetings.Keyed ∧ datedGreetings.Keyed ∧
    labelledTexts.SamePlaces greetings unlabelledTexts ∧
    labelledTexts.SamePlaces datedGreetings unlabelledTexts ∧
    (∃ graph graph', assemble greetings labelledTexts = .ok graph ∧
      assemble greetings unlabelledTexts = .ok graph' ∧
      graph.Exchanged (labelledTexts.inPlace greetings unlabelledTexts) graph') ∧
    ∃ problem, assemble datedGreetings labelledTexts = .error problem ∧
      assemble datedGreetings unlabelledTexts = .error problem := by
  have wired : labelledTexts.Keyed := keyed_labelledWiring.withScalar _
  have wired' : unlabelledTexts.Keyed :=
    (((((Wiring.keyed_standard plainBehaviours).withFactory _).withType _).withType _).withType
      _).withScalar _
  have dated : datedGreetings.Keyed := keyed_greetings.addAll _
  refine ⟨wired, wired', keyed_greetings, dated, samePlaces_labelledTexts _,
    samePlaces_labelledTexts _, ?_, ?_⟩
  · have succeeds : (assemble greetings labelledTexts).isOk = true := by decide +kernel
    rcases assemble_blind keyed_greetings wired wired' (samePlaces_labelledTexts greetings) with
      ⟨problem, failed, -⟩ | success
    · rw [failed] at succeeds
      cases succeeds
    · exact success
  · have fails : (assemble datedGreetings labelledTexts).isOk = false := by decide +kernel
    rcases assemble_blind dated wired wired' (samePlaces_labelledTexts datedGreetings) with
      failure | ⟨graph, graph', ok, -⟩
    · exact failure
    · rw [ok] at fails
      cases fails

end SchemaAssembly
