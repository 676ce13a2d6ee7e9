import SchemaAssembly.Proofs.Collection
import SchemaAssembly.Proofs.Steps

/-!
# Exchanging behaviours

Two wirings, possibly over different types of behaviours, are put to work on the same registry. Which
behaviours of the one stand for which of the other is left open; it is given place by place, as the
same behaviour may be bound in many places. If what the wirings bind corresponds in this sense, then
so does all that the builder makes of it: the caches after every step, the finished types with all
that they hold, and the graph that is collected from them. Everything but the behaviours is the same
on both sides.

That places are given by names explains the form of the definitions: a field is looked at together with
the name of its type, and a list of fields with the one name for all of them.

## Main definitions

* `SchemaAssembly.Exchange` — which behaviours stand for which, place by place.
* `SchemaAssembly.Field.Exchanged`, `NamedType.Exchanged`, `Occurrence.Exchanged`,
  `TypeGraph.Exchanged` — the same but for behaviours, which stand for each other.
* `SchemaAssembly.Exchange.Binds` — what two wirings bind for a definition corresponds.

## Main results

* `SchemaAssembly.inTandem_buildNamed` — a type is built in tandem if what is bound for it corresponds
  and its references are followed in tandem.
* `SchemaAssembly.inTandem_build` — then all references are built in tandem.
* `SchemaAssembly.exchanged_collectAll` — from types that correspond the same is collected.
* `SchemaAssembly.corresponds_assembleGraph` — both sides are assembled into graphs that correspond, or
  fail alike.
-/

set_option relaxedAutoImplicit false
set_option autoImplicit false

namespace SchemaAssembly

variable {B B' : Behaviours} {σ ρ τ τ' : Type}

/-! ## Lists and maps, item by item -/

/-- Two lists correspond item by item, in a way that depends on something that they have in common. -/
inductive EachIn {α β ι : Type} (related : α → β → ι → Prop) : List α → List β → ι → Prop
  /-- Nothing corresponds to nothing. -/
  | nil {i : ι} : EachIn related [] [] i
  /-- The first items correspond, and so do the others. -/
  | cons {a : α} {b : β} {as : List α} {bs : List β} {i : ι} (head : related a b i)
      (tail : EachIn related as bs i) : EachIn related (a :: as) (b :: bs) i

/-- Lists that correspond item by item in a fixed way do so in one that depends on something. -/
theorem eachIn_iff {α β ι : Type} {related : α → β → ι → Prop} {as : List α} {bs : List β} {i : ι} :
    EachIn related as bs i ↔ List.Forall₂ (related · · i) as bs := by
  constructor
  · intro each
    induction each with
    | nil => exact .nil
    | cons head tail ih => exact .cons head ih
  · intro each
    induction each with
    | nil => exact .nil
    | cons head tail ih => exact .cons head ih

/-- Lists that correspond item by item give the same, if corresponding items do. -/
theorem flatMap_eq_of_forall₂ {α β γ : Type} {related : α → β → Prop} {f : α → List γ}
    {g : β → List γ} (same : ∀ a b, related a b → f a = g b) {as : List α} {bs : List β}
    (each : List.Forall₂ related as bs) : as.flatMap f = bs.flatMap g := by
  induction each with
  | nil => rfl
  | cons head tail ih => rw [List.flatMap_cons, List.flatMap_cons, same _ _ head, ih]

/-- Lists that correspond item by item are flattened into lists that do. -/
theorem forall₂_flatMap {α β γ δ : Type} {related : α → β → Prop} {related' : γ → δ → Prop}
    {f : α → List γ} {g : β → List δ}
    (step : ∀ a b, related a b → List.Forall₂ related' (f a) (g b)) {as : List α} {bs : List β}
    (each : List.Forall₂ related as bs) :
    List.Forall₂ related' (as.flatMap f) (bs.flatMap g) := by
  induction each with
  | nil => exact .nil
  | cons head tail ih => exact List.rel_append (step _ _ head) ih

namespace NameMap

variable {α β : Type} {related : α → β → Prop} {m : NameMap α} {m' : NameMap β}

/-- **Two maps match**: they list the same names in the same order, and what they hold under each name
corresponds. -/
def Matches (related : α → β → Prop) (m : NameMap α) (m' : NameMap β) : Prop :=
  List.Forall₂ (fun entry entry' => entry.1 = entry'.1 ∧ related entry.2 entry'.2)
    m.entries m'.entries

/-- Maps that hold nothing match. -/
theorem matches_empty : Matches related (∅ : NameMap α) (∅ : NameMap β) := .nil

/-- Maps that match list the same names. -/
theorem Matches.names (each : Matches related m m') : m.names = m'.names := by
  have same : List.Forall₂ Eq m.names m'.names := by
    unfold NameMap.names Entries.names
    rw [List.forall₂_map_left_iff, List.forall₂_map_right_iff]
    exact each.imp fun _ _ h => h.1
  exact List.forall₂_eq_eq_eq ▸ same

/-- What maps that match hold corresponds, in order. -/
theorem Matches.values (each : Matches related m m') : List.Forall₂ related m.values m'.values := by
  unfold NameMap.values
  rw [List.forall₂_map_left_iff, List.forall₂_map_right_iff]
  exact each.imp fun _ _ h => h.2

/-- What maps that match hold under a name corresponds, if they hold anything. -/
theorem Matches.get? (each : Matches related m m') (name : String) :
    Option.Rel related (m.get? name) (m'.get? name) := by
  obtain ⟨entries, nodup⟩ := m
  obtain ⟨entries', nodup'⟩ := m'
  dsimp only [Matches, NameMap.get?] at each ⊢
  induction each with
  | nil => exact .none
  | @cons entry entry' _ _ head tail ih =>
    obtain ⟨key, held⟩ := entry
    obtain ⟨key', held'⟩ := entry'
    obtain ⟨rfl, h⟩ : key = key' ∧ related held held' := head
    simp only [List.lookup_cons]
    cases name == key with
    | true => exact .some h
    | false => exact ih (List.nodup_cons.1 nodup).2 (List.nodup_cons.1 nodup').2

/-- Setting what corresponds under one name keeps maps matching. -/
theorem Matches.set (each : Matches related m m') (name : String) {a : α} {b : β}
    (h : related a b) : Matches related (m.set name a) (m'.set name b) := by
  obtain ⟨entries, nodup⟩ := m
  obtain ⟨entries', nodup'⟩ := m'
  dsimp only [Matches, NameMap.set] at each ⊢
  induction each with
  | nil => exact .cons ⟨rfl, h⟩ .nil
  | @cons entry entry' _ _ head tail ih =>
    obtain ⟨key, held⟩ := entry
    obtain ⟨key', held'⟩ := entry'
    obtain ⟨rfl, h'⟩ : key = key' ∧ related held held' := head
    simp only [Entries.set]
    split
    · exact .cons ⟨rfl, h⟩ tail
    · exact .cons ⟨rfl, h'⟩ (ih (List.nodup_cons.1 nodup).2 (List.nodup_cons.1 nodup').2)

/-- Setting what corresponds under many names keeps maps matching. -/
theorem Matches.extend (each : Matches related m m') {added : List (String × α)}
    {added' : List (String × β)}
    (h : List.Forall₂ (fun entry entry' => entry.1 = entry'.1 ∧ related entry.2 entry'.2)
      added added') : Matches related (m.extend added) (m'.extend added') := by
  induction h generalizing m m' with
  | nil => exact each
  | @cons entry entry' _ _ head tail ih =>
    have first : Matches related (m.set entry.1 entry.2) (m'.set entry'.1 entry'.2) :=
      head.1 ▸ each.set entry.1 head.2
    exact ih first

end NameMap

/-! ## The same but for behaviours -/

/-- **Which behaviours stand for which**, place by place. -/
structure Exchange (B B' : Behaviours) where
  /-- Fetchers, in the place of a field: by the name of its type and its own. -/
  fetcher : String → String → B.Fetcher → B'.Fetcher → Prop
  /-- Resolvers, in the place of an interface or a union: by its name. -/
  resolver : String → B.Resolver → B'.Resolver → Prop
  /-- Codecs, in the place of a scalar: by its name. -/
  codec : String → Codec B → Codec B' → Prop

/-- Both read the same property, or both are bound to fetchers, which stand for each other. -/
inductive FieldResolver.Exchanged (fetchers : B.Fetcher → B'.Fetcher → Prop) :
    FieldResolver B → FieldResolver B' → Prop
  /-- Both read the same property. -/
  | property (name : String) : Exchanged fetchers (.property name) (.property name)
  /-- Both are bound to fetchers. -/
  | fetcher {bound : B.Fetcher} {bound' : B'.Fetcher} (h : fetchers bound bound') :
    Exchanged fetchers (.fetcher bound) (.fetcher bound')

/-- Both are left unresolved, or both are bound to resolvers, which stand for each other. -/
inductive TypeResolverBinding.Exchanged (resolvers : B.Resolver → B'.Resolver → Prop) :
    TypeResolverBinding B → TypeResolverBinding B' → Prop
  /-- Both are left unresolved. -/
  | unresolved : Exchanged resolvers .unresolved .unresolved
  /-- Both are bound to resolvers. -/
  | wired {bound : B.Resolver} {bound' : B'.Resolver} (h : resolvers bound bound') :
    Exchanged resolvers (.wired bound) (.wired bound')

/-- Scalars are the same but for their codecs, which stand for each other. -/
inductive ScalarType.Exchanged (exchange : Exchange B B') : ScalarType B → ScalarType B' → Prop
  /-- Name and description are the same. -/
  | intro (name : String) (description : Option String) {codec : Codec B} {codec' : Codec B'}
      (h : exchange.codec name codec codec') :
    Exchanged exchange ⟨name, description, codec⟩ ⟨name, description, codec'⟩

/-- Arguments are the same but for their types, which correspond. -/
inductive Argument.Exchanged (types : τ → τ' → Prop) : Argument τ → Argument τ' → Prop
  /-- Name, description and default are the same. -/
  | intro (name : String) (description : Option String) (default : Option Value) {type : τ}
      {type' : τ'} (h : types type type') :
    Exchanged types ⟨name, description, type, default⟩ ⟨name, description, type', default⟩

/-- Fields of a type of some name are the same but for what they are bound to and for the types that
they refer to. -/
inductive Field.Exchanged (exchange : Exchange B B') (types : τ → τ' → Prop) :
    Field B τ → Field B' τ' → String → Prop
  /-- Name and description are the same. -/
  | intro {context : String} (name : String) (description : Option String)
      {arguments : List (Argument τ)} {arguments' : List (Argument τ')} {type : τ} {type' : τ'}
      {resolver : FieldResolver B} {resolver' : FieldResolver B'}
      (args : List.Forall₂ (Argument.Exchanged types) arguments arguments')
      (h : types type type')
      (bound : resolver.Exchanged (exchange.fetcher context name) resolver') :
    Exchanged exchange types ⟨name, description, arguments, type, resolver⟩
      ⟨name, description, arguments', type', resolver'⟩ context

/-- **Finished types are the same but for behaviours**, in their own parts; the types that they refer
to correspond. -/
inductive NamedType.Exchanged (exchange : Exchange B B') (types : τ → τ' → Prop) :
    NamedType B τ → NamedType B' τ' → Prop
  /-- Scalars differ in their codecs. -/
  | scalar (name : String) (description : Option String) {codec : Codec B} {codec' : Codec B'}
      (h : exchange.codec name codec codec') :
    Exchanged exchange types ⟨name, description, .scalar codec⟩ ⟨name, description, .scalar codec'⟩
  /-- Objects differ in their fields. -/
  | object (name : String) (description : Option String) {fields : List (Field B τ)}
      {fields' : List (Field B' τ')} {interfaces : List τ} {interfaces' : List τ'}
      (each : EachIn (Field.Exchanged exchange types) fields fields' name)
      (implemented : List.Forall₂ types interfaces interfaces') :
    Exchanged exchange types ⟨name, description, .object fields interfaces⟩
      ⟨name, description, .object fields' interfaces'⟩
  /-- Interfaces differ in their fields and in what they are bound to. -/
  | interface (name : String) (description : Option String) {fields : List (Field B τ)}
      {fields' : List (Field B' τ')} {resolver : TypeResolverBinding B}
      {resolver' : TypeResolverBinding B'}
      (each : EachIn (Field.Exchanged exchange types) fields fields' name)
      (bound : resolver.Exchanged (exchange.resolver name) resolver') :
    Exchanged exchange types ⟨name, description, .interface fields resolver⟩
      ⟨name, description, .interface fields' resolver'⟩
  /-- Unions differ in what they are bound to. -/
  | union (name : String) (description : Option String) {members : List τ} {members' : List τ'}
      {resolver : TypeResolverBinding B} {resolver' : TypeResolverBinding B'}
      (each : List.Forall₂ types members members')
      (bound : resolver.Exchanged (exchange.resolver name) resolver') :
    Exchanged exchange types ⟨name, description, .union members resolver⟩
      ⟨name, description, .union members' resolver'⟩
  /-- Enums do not differ. -/
  | enum (name : String) (description : Option String) (values : List EnumValue) :
    Exchanged exchange types ⟨name, description, .enum values⟩ ⟨name, description, .enum values⟩
  /-- Input objects differ in nothing but the types that they refer to. -/
  | inputObject (name : String) (description : Option String) {fields : List (Argument τ)}
      {fields' : List (Argument τ')}
      (each : List.Forall₂ (Argument.Exchanged types) fields fields') :
    Exchanged exchange types ⟨name, description, .inputObject fields⟩
      ⟨name, description, .inputObject fields'⟩

/-- **Occurrences are the same but for behaviours**: in the same wrappers they hold types that are the
same but for behaviours, all the way down, or name the same type in a placeholder. -/
inductive Occurrence.Exchanged (exchange : Exchange B B') : Occurrence B → Occurrence B' → Prop
  /-- Both hold a type. -/
  | concrete {type : GraphType B} {type' : GraphType B'}
      (h : type.Exchanged exchange (Exchanged exchange) type') :
    Exchanged exchange (.concrete type) (.concrete type')
  /-- Both name the same type. -/
  | placeholder (name : String) : Exchanged exchange (.placeholder name) (.placeholder name)
  /-- Both are lists. -/
  | list {inner : Occurrence B} {inner' : Occurrence B'} (h : Exchanged exchange inner inner') :
    Exchanged exchange (.list inner) (.list inner')
  /-- Both rule null out. -/
  | nonNull {inner : Occurrence B} {inner' : Occurrence B'} (h : Exchanged exchange inner inner') :
    Exchanged exchange (.nonNull inner) (.nonNull inner')

/-- **Finished types are the same but for behaviours, all the way down.** -/
abbrev Exchange.Types (exchange : Exchange B B') (type : GraphType B) (type' : GraphType B') : Prop :=
  type.Exchanged exchange (Occurrence.Exchanged exchange) type'

/-- **Graphs are the same but for behaviours**: they list types of the same names in the same order,
which are the same but for behaviours, and so are their roots. -/
structure TypeGraph.Exchanged (exchange : Exchange B B') (graph : TypeGraph B)
    (graph' : TypeGraph B') : Prop where
  /-- The types correspond, in order. -/
  types : graph.types.Matches exchange.Types graph'.types
  /-- The root types of queries correspond. -/
  query : exchange.Types graph.query graph'.query
  /-- The root types of mutations correspond, if there are any. -/
  mutation : Option.Rel exchange.Types graph.mutation graph'.mutation
  /-- The root types of subscriptions correspond, if there are any. -/
  subscription : Option.Rel exchange.Types graph.subscription graph'.subscription

variable {exchange : Exchange B B'}

/-! ## What shows of types and occurrences -/

namespace NamedType.Exchanged

variable {types : τ → τ' → Prop} {type : NamedType B τ} {type' : NamedType B' τ'}
  (h : type.Exchanged exchange types type')

include h

/-- The name is the same. -/
theorem name : type.name = type'.name := by
  cases h <;> rfl

/-- The kind is the same. -/
theorem kind : type.kind = type'.kind := by
  cases h <;> rfl

/-- The references correspond, one by one. -/
theorem references : List.Forall₂ types type.references type'.references := by
  have ofArguments : ∀ {arguments arguments'},
      List.Forall₂ (Argument.Exchanged types) arguments arguments' →
      List.Forall₂ types (arguments.map (·.type)) (arguments'.map (·.type)) := by
    intro arguments arguments' each
    rw [List.forall₂_map_left_iff, List.forall₂_map_right_iff]
    refine each.imp ?_
    rintro - - ⟨-, -, -, h⟩
    exact h
  have ofFields : ∀ {fields fields' name},
      EachIn (Field.Exchanged exchange types) fields fields' name →
      List.Forall₂ types (fields.flatMap Field.references)
        (fields'.flatMap Field.references) := by
    intro fields fields' name each
    refine forall₂_flatMap ?_ (eachIn_iff.1 each)
    rintro - - ⟨-, -, args, h, -⟩
    exact List.rel_append (ofArguments args) (.cons h .nil)
  cases h with
  | scalar => exact .nil
  | object _ _ each implemented => exact List.rel_append (ofFields each) implemented
  | interface _ _ each => exact ofFields each
  | union _ _ each => exact each
  | enum => exact .nil
  | inputObject _ _ each => exact ofArguments each

end NamedType.Exchanged

namespace Occurrence.Exchanged

variable {occurrence : Occurrence B} {occurrence' : Occurrence B'}

/-- Wrapping keeps occurrences the same but for behaviours. -/
theorem wrap (h : occurrence.Exchanged exchange occurrence') (wrappers : List Wrapper) :
    (occurrence.wrap wrappers).Exchanged exchange (occurrence'.wrap wrappers) := by
  have required : ∀ {o : Occurrence B} {o' : Occurrence B'}, o.Exchanged exchange o' →
      o.required.Exchanged exchange o'.required := by
    intro o o' h
    cases h with
    | concrete h => exact .nonNull (.concrete h)
    | placeholder name => exact .nonNull (.placeholder name)
    | list h => exact .nonNull (.list h)
    | nonNull h => exact .nonNull h
  induction wrappers generalizing occurrence occurrence' with
  | nil => exact h
  | cons wrapper rest ih =>
    cases wrapper with
    | list => exact ih h.list
    | nonNull => exact ih (required h)

/-- What is held is the same but for behaviours. -/
theorem held? : ∀ {occurrence : Occurrence B} {occurrence' : Occurrence B'},
    occurrence.Exchanged exchange occurrence' →
      Option.Rel exchange.Types occurrence.held? occurrence'.held?
  | _, _, .concrete h => .some h
  | _, _, .placeholder _ => .none
  | _, _, .list h => (held? h :)
  | _, _, .nonNull h => (held? h :)

/-- The name at the bottom is the same. -/
theorem innermost : ∀ {occurrence : Occurrence B} {occurrence' : Occurrence B'},
    occurrence.Exchanged exchange occurrence' → occurrence.innermost = occurrence'.innermost
  | _, _, .concrete h => h.name
  | _, _, .placeholder _ => rfl
  | _, _, .list h => (innermost h :)
  | _, _, .nonNull h => (innermost h :)

/-- Both are placeholders, or none of them is. -/
theorem isPlaceholder (h : occurrence.Exchanged exchange occurrence') :
    occurrence.isPlaceholder = occurrence'.isPlaceholder := by
  rw [Bool.eq_iff_iff, ← Occurrence.held?_eq_none_iff, ← Occurrence.held?_eq_none_iff]
  have held := h.held?
  generalize occurrence.held? = left at held ⊢
  generalize occurrence'.held? = right at held ⊢
  cases held <;> simp

end Occurrence.Exchanged

/-! ## Building in tandem -/

/-- **What two wirings bind for a definition corresponds.** -/
structure Exchange.Binds (exchange : Exchange B B') (registry : Registry) (wiring : Wiring B)
    (wiring' : Wiring B') (type : TypeDefinition) : Prop where
  /-- What is bound for a scalar corresponds. -/
  scalar : type.kind = .scalar →
    Corresponds Eq (ScalarType.Exchanged exchange) (scalarType wiring type) (scalarType wiring' type)
  /-- What is bound for an abstract type corresponds. -/
  binding : type.kind = .interface ∨ type.kind = .union →
    Corresponds Eq (TypeResolverBinding.Exchanged (exchange.resolver type.name))
      (typeBinding registry wiring type) (typeBinding registry wiring' type)
  /-- What is bound for every effective field corresponds. -/
  fields : ∀ field ∈ registry.fieldsOf type,
    Corresponds Eq (FieldResolver.Exchanged (exchange.fetcher type.name field.name))
      (fieldResolver registry wiring type.name field)
      (fieldResolver registry wiring' type.name field)

section Builders

variable {registry : Registry} {wiring : Wiring B} {wiring' : Wiring B'} {states : σ → ρ → Prop}
  {types : τ → τ' → Prop} {visit : Reference → Build σ τ} {visit' : Reference → Build ρ τ'}
  (follows : ∀ reference, InTandem Eq states types (visit reference) (visit' reference))

include follows

/-- An argument is built in tandem if its reference is followed in tandem. -/
theorem inTandem_buildArgument (context : String) (argument : ArgumentDefinition) :
    InTandem Eq states (Argument.Exchanged types) (buildArgument visit context argument)
      (buildArgument visit' context argument) :=
  (follows _).bind fun _ _ h => inTandem_pure (.intro _ _ _ h)

/-- A field is built in tandem if what it is bound to corresponds and its references are followed in
tandem. -/
theorem inTandem_buildField {context : String} {field : FieldDefinition}
    (bound : Corresponds Eq (FieldResolver.Exchanged (exchange.fetcher context field.name))
      (fieldResolver registry wiring context field)
      (fieldResolver registry wiring' context field)) :
    InTandem Eq states (Field.Exchanged exchange types · · context)
      (buildField registry wiring visit context field)
      (buildField registry wiring' visit' context field) := by
  refine (inTandem_liftM bound).bind fun resolver resolver' hr => ?_
  have arguments : InTandem Eq states (List.Forall₂ (Argument.Exchanged types))
      (field.arguments.mapM (buildArgument visit context))
      (field.arguments.mapM (buildArgument visit' context)) :=
    .mapM_same fun argument _ => inTandem_buildArgument follows context argument
  refine arguments.bind fun arguments arguments' ha => ?_
  exact (follows _).bind fun type type' h => inTandem_pure (.intro _ _ ha h hr)

/-- **A type is built in tandem if what is bound for it corresponds and its references are followed in
tandem.**

**Proof sketch.** One case for each kind of definition, along the steps of building it. -/
theorem inTandem_buildNamed {type : TypeDefinition}
    (binds : exchange.Binds registry wiring wiring' type) :
    InTandem Eq states (NamedType.Exchanged exchange types)
      (buildNamed registry wiring visit type) (buildNamed registry wiring' visit' type) := by
  have scalar := binds.scalar
  have binding := binds.binding
  have fields := binds.fields
  have eachField : ∀ {own : List FieldDefinition},
      (∀ field ∈ own, Corresponds Eq
        (FieldResolver.Exchanged (exchange.fetcher type.name field.name))
        (fieldResolver registry wiring type.name field)
        (fieldResolver registry wiring' type.name field)) →
      InTandem Eq states (EachIn (Field.Exchanged exchange types) · · type.name)
        (own.mapM (buildField registry wiring visit type.name))
        (own.mapM (buildField registry wiring' visit' type.name)) := by
    intro own bound
    simp only [eachIn_iff]
    exact .mapM_same fun field h => inTandem_buildField follows (bound field h)
  unfold TypeDefinition.kind at scalar binding
  unfold Registry.fieldsOf at fields
  unfold buildNamed
  cases shape : type.shape <;> simp only [shape] at scalar binding fields <;> simp only
  case scalar =>
    refine (inTandem_liftM (scalar rfl)).bind fun built built' h => ?_
    obtain ⟨name, description, h⟩ := h
    exact inTandem_pure (.scalar name description h)
  case object own ownInterfaces =>
    refine (eachField fields).bind fun built built' hf => ?_
    have interfaces : InTandem Eq states (List.Forall₂ types)
        ((registry.effectiveInterfaces type ownInterfaces).mapM fun interface =>
          visit ⟨.ofName interface.1, .output, type.name, interface.2⟩)
        ((registry.effectiveInterfaces type ownInterfaces).mapM fun interface =>
          visit' ⟨.ofName interface.1, .output, type.name, interface.2⟩) :=
      .mapM_same fun interface _ => follows _
    exact interfaces.bind fun interfaces interfaces' hi => inTandem_pure (.object _ _ hf hi)
  case interface own =>
    refine (inTandem_liftM (binding (.inl rfl))).bind fun resolver resolver' hr => ?_
    exact (eachField fields).bind fun built built' hf => inTandem_pure (.interface _ _ hf hr)
  case union members =>
    refine (inTandem_liftM (binding (.inr rfl))).bind fun resolver resolver' hr => ?_
    have each : InTandem Eq states (List.Forall₂ types)
        (members.mapM fun member => visit ⟨.ofName member, .output, type.name, type.position⟩)
        (members.mapM fun member => visit' ⟨.ofName member, .output, type.name, type.position⟩) :=
      .mapM_same fun member _ => follows _
    exact each.bind fun members members' hm => inTandem_pure (.union _ _ hm hr)
  case enum values => exact inTandem_pure (.enum _ _ _)
  case inputObject declared =>
    have each : InTandem Eq states (List.Forall₂ (Argument.Exchanged types))
        (declared.mapM (buildArgument visit type.name))
        (declared.mapM (buildArgument visit' type.name)) :=
      .mapM_same fun field _ => inTandem_buildArgument follows type.name field
    exact each.bind fun fields fields' hf => inTandem_pure (.inputObject _ _ hf)

end Builders

/-- **Caches keep the same but for behaviours.** -/
structure Caches.Exchanged (exchange : Exchange B B') (caches : Caches B) (caches' : Caches B') :
    Prop where
  /-- What is kept for output corresponds. -/
  output : caches.output.Matches exchange.Types caches'.output
  /-- What is kept for input corresponds. -/
  input : caches.input.Matches exchange.Types caches'.input

namespace Caches.Exchanged

variable {caches : Caches B} {caches' : Caches B'}

/-- What is found corresponds. -/
theorem find? (h : caches.Exchanged exchange caches') (place : Place) (name : String) :
    Option.Rel exchange.Types (caches.find? place name) (caches'.find? place name) := by
  cases place with
  | output => exact h.output.get? name
  | input => exact h.input.get? name

/-- Keeping types that correspond keeps caches the same but for behaviours. -/
theorem keep (h : caches.Exchanged exchange caches') {type : GraphType B} {type' : GraphType B'}
    (ht : exchange.Types type type') : (caches.keep type).Exchanged exchange (caches'.keep type') := by
  have output : type.isOutput = type'.isOutput := congrArg TypeKind.isOutput ht.kind
  have input : type.isInput = type'.isInput := congrArg TypeKind.isInput ht.kind
  constructor
  · simp only [Caches.keep, output, ht.name]
    split
    · exact h.output.set _ ht
    · exact h.output
  · simp only [Caches.keep, input, ht.name]
    split
    · exact h.input.set _ ht
    · exact h.input

end Caches.Exchanged

section Assembly

variable {registry : Registry} {wiring : Wiring B} {wiring' : Wiring B'}
  (binds : ∀ name type, registry.find? name = some type →
    exchange.Binds registry wiring wiring' type)

include binds

/-- **Every reference is built in tandem**, whatever is in progress.

**Proof sketch.** By induction on the names not in progress. Both sides look up the same definition and
find something kept for it or not; only where a type is built do behaviours come in, and that is done
in tandem (`inTandem_buildNamed`). -/
theorem inTandem_build (inProgress : List String) (reference : Reference) :
    InTandem Eq (Caches.Exchanged exchange) (Occurrence.Exchanged exchange)
      (build registry wiring inProgress reference)
      (build registry wiring' inProgress reference) := by
  induction inProgress using registry.inProgress_induction generalizing reference with
  | step inProgress outer =>
  intro caches caches' hc
  cases found : registry.find? reference.type.innermost with
  | none =>
    rw [build_unknown found, build_unknown found]
    exact .error rfl
  | some type =>
  -- The caches keep something for the reference on both sides or on none.
  have kept := hc.find? reference.place reference.type.innermost
  generalize absent : caches.find? reference.place reference.type.innermost = left at kept
  generalize absent' : caches'.find? reference.place reference.type.innermost = right at kept
  cases kept with
  | some ht =>
    rw [build_kept found absent, build_kept found absent']
    exact .ok ⟨(Occurrence.Exchanged.concrete ht).wrap _, hc⟩
  | none =>
  cases placed : reference.place.admits type.kind with
  | false =>
    rw [build_misplaced found absent placed, build_misplaced found absent' placed]
    exact .error rfl
  | true =>
  by_cases begun : reference.type.innermost ∈ inProgress
  · rw [build_begun found absent placed begun, build_begun found absent' placed begun]
    exact .ok ⟨(Occurrence.Exchanged.placeholder _).wrap _, hc⟩
  · rw [build_idle found absent placed begun, build_idle found absent' placed begun]
    have outcome := inTandem_buildNamed (outer _ type found begun) (binds _ type found) _ _ hc
    generalize buildNamed registry wiring _ type caches = left at outcome ⊢
    generalize buildNamed registry wiring' _ type caches' = right at outcome ⊢
    cases outcome with
    | error same => exact .error same
    | ok h => exact .ok ⟨(Occurrence.Exchanged.concrete h.1).wrap _, h.2.keep h.1⟩

/-- The root type of an operation is built in tandem. -/
theorem inTandem_buildRoot (root : RootBinding) :
    InTandem Eq (Caches.Exchanged exchange) exchange.Types
      (buildRoot registry wiring root) (buildRoot registry wiring' root) := by
  unfold buildRoot
  cases registry.find? root.typeName with
  | none => exact inTandem_throw rfl
  | some type =>
    simp only
    split
    · exact inTandem_throw rfl
    · refine (inTandem_build binds [] _).bind fun occurrence occurrence' h => ?_
      cases h with
      | concrete ht => exact inTandem_pure ht
      | placeholder | list | nonNull => exact inTandem_throw rfl

/-- The root type of an operation that may not be bound is built in tandem. -/
theorem inTandem_optionalRoot (root : Option RootBinding) :
    InTandem Eq (Caches.Exchanged exchange) (Option.Rel exchange.Types)
      (root.mapM (buildRoot registry wiring)) (root.mapM (buildRoot registry wiring')) := by
  cases root with
  | none => exact inTandem_pure .none
  | some root => exact (inTandem_buildRoot binds root).bind fun _ _ h => inTandem_pure (.some h)

end Assembly

/-! ## Collecting -/

/-- **From occurrences that are the same but for behaviours the same is collected**, but for
behaviours.

**Proof sketch.** By recursion on what is still to be collected, along the way in which it is: a type
held is passed over on both sides, since its name is the same, or it is set on both sides and then what
it refers to is collected, which is smaller. -/
theorem exchanged_collectAll {found : NameMap (GraphType B)} {found' : NameMap (GraphType B')}
    (hf : found.Matches exchange.Types found') :
    ∀ {occurrences : List (Occurrence B)} {occurrences' : List (Occurrence B')},
      List.Forall₂ (Occurrence.Exchanged exchange) occurrences occurrences' →
      (Occurrence.collectAll found occurrences).Matches exchange.Types
        (Occurrence.collectAll found' occurrences')
  | [], [], _ => by
    rw [collectAll_nil, collectAll_nil]
    exact hf
  | occurrence :: rest, occurrence' :: rest', h => by
    obtain ⟨first, others⟩ := List.forall₂_cons.1 h
    have bottom := first.held?
    generalize held : occurrence.held? = left at bottom
    generalize held' : occurrence'.held? = right at bottom
    cases bottom with
    | none =>
      rw [collectAll_cons_of_named held, collectAll_cons_of_named held']
      exact exchanged_collectAll hf others
    | @some type type' ht =>
      rw [collectAll_cons_of_held held, collectAll_cons_of_held held']
      refine exchanged_collectAll ?_ others
      -- The names are the same, so that the type is passed over on both sides or set on both.
      by_cases seen : type.name ∈ found.names
      · have seen' : type'.name ∈ found'.names := by rwa [← ht.name, ← hf.names]
        rw [collect_of_mem seen, collect_of_mem seen']
        exact hf
      · have seen' : type'.name ∉ found'.names := by rwa [← ht.name, ← hf.names]
        rw [collect_of_not_mem seen, collect_of_not_mem seen', NamedType.map_snd_placed,
          NamedType.map_snd_placed, ← ht.name]
        exact exchanged_collectAll (hf.set _ ht) ht.references
termination_by occurrences => sizeOf occurrences
decreasing_by
  -- What a type refers to is smaller than the occurrence that holds it.
  · have smaller := type.sizeOf_references_lt
    have within := Occurrence.sizeOf_held?_lt held
    rw [List.cons.sizeOf_spec]
    omega
  · rw [List.cons.sizeOf_spec]
    omega
  · rw [List.cons.sizeOf_spec]
    omega

/-- The graphs of root types that are the same but for behaviours are so, too. -/
theorem exchanged_ofRoots {query : GraphType B} {query' : GraphType B'}
    {mutation subscription : Option (GraphType B)} {mutation' subscription' : Option (GraphType B')}
    (hq : exchange.Types query query') (hm : Option.Rel exchange.Types mutation mutation')
    (hs : Option.Rel exchange.Types subscription subscription') :
    (TypeGraph.ofRoots query mutation subscription).Exchanged exchange
      (.ofRoots query' mutation' subscription') := by
  refine ⟨?_, hq, hm, hs⟩
  have optional : ∀ {root root'}, Option.Rel exchange.Types root root' →
      List.Forall₂ exchange.Types root.toList root'.toList := by
    intro root root' h
    cases h with
    | none => exact .nil
    | some h => exact .cons h .nil
  have roots : List.Forall₂ exchange.Types (query :: mutation.toList ++ subscription.toList)
      (query' :: mutation'.toList ++ subscription'.toList) :=
    List.rel_append (.cons hq (optional hm)) (optional hs)
  simp only [TypeGraph.ofRoots, ← collectAll_concrete]
  refine exchanged_collectAll NameMap.matches_empty ?_
  rw [List.forall₂_map_left_iff, List.forall₂_map_right_iff]
  exact roots.imp fun _ _ => .concrete

/-- Graphs that are the same but for behaviours have the same placeholders dangling. -/
theorem TypeGraph.Exchanged.dangling {graph : TypeGraph B} {graph' : TypeGraph B'}
    (h : graph.Exchanged exchange graph') : graph.dangling = graph'.dangling := by
  have known : ∀ name, graph.types.contains name = graph'.types.contains name := by
    intro name
    rw [Bool.eq_iff_iff, NameMap.contains_iff, NameMap.contains_iff, h.types.names]
  refine flatMap_eq_of_forall₂ (fun type type' ht => ?_) h.types.values
  rw [← ht.name]
  have references := ht.references
  generalize type.references = left at references ⊢
  generalize type'.references = right at references ⊢
  induction references with
  | nil => rfl
  | cons head tail ih =>
    rw [List.filter_cons, List.filter_cons, head.isPlaceholder, head.innermost, known]
    split
    · rw [List.map_cons, List.map_cons, head.innermost, ih]
    · exact ih

/-! ## Assembling -/

section Assembly

variable {registry : Registry} {wiring : Wiring B} {wiring' : Wiring B'}
  (binds : ∀ name type, registry.find? name = some type →
    exchange.Binds registry wiring wiring' type)

include binds

/-- The root types of a schema are built in tandem. -/
theorem inTandem_buildRoots (schema : SchemaDefinition) :
    InTandem Eq (Caches.Exchanged exchange) (TypeGraph.Exchanged exchange)
      (buildRoots registry wiring schema) (buildRoots registry wiring' schema) := by
  unfold buildRoots
  cases schema.root? .query with
  | none => exact inTandem_throw rfl
  | some root =>
    refine (inTandem_buildRoot binds root).bind fun _ _ hq => ?_
    refine (inTandem_optionalRoot binds _).bind fun _ _ hm => ?_
    refine (inTandem_optionalRoot binds _).bind fun _ _ hs => ?_
    exact inTandem_pure (exchanged_ofRoots hq hm hs)

/-- **Both sides are assembled into graphs that are the same but for behaviours, or fail alike.** -/
theorem corresponds_assembleGraph :
    Corresponds Eq (TypeGraph.Exchanged exchange) (assembleGraph registry wiring)
      (assembleGraph registry wiring') := by
  unfold assembleGraph
  cases registry.schema with
  | none => exact .error rfl
  | some schema =>
    have outcome := inTandem_buildRoots binds schema .empty .empty
      ⟨NameMap.matches_empty, NameMap.matches_empty⟩
    simp only [bind, Except.bind]
    generalize buildRoots registry wiring schema Caches.empty = left at outcome ⊢
    generalize buildRoots registry wiring' schema Caches.empty = right at outcome ⊢
    cases outcome with
    | error same => exact .error same
    | @ok built built' h =>
      obtain ⟨graph, last⟩ := built
      obtain ⟨graph', last'⟩ := built'
      simp only [h.1.dangling]
      cases graph'.dangling.head? with
      | none => exact .ok h.1
      | some placeholder => exact .error rfl

end Assembly

end SchemaAssembly
