import SchemaAssembly.Proofs.GraphTypes

/-!
# Assembled types are images of their definitions

Every type of an assembled graph is the image of the definition of its name. Types are built at
different moments, some of them are taken from caches, and some references are left as placeholders;
none of this shows in what a type says. Fields and interfaces that are declared more than once count
where they are declared first, in the definition or in the extensions that follow it; members,
values, arguments and input fields are taken over one by one.

## Main definitions

* `SchemaAssembly.Occurrence.Spells` — an occurrence is wrapped as a reference is written.
* `SchemaAssembly.Registry.declaredFields`, `declaredInterfaces` — what a definition and the
  extensions of its name declare, with repetitions.
* `SchemaAssembly.NamedType.Mirrors` — a finished type is the image of a definition.

## Main results

* `SchemaAssembly.Occurrence.spells_wrap` — wrapping spells the reference.
* `SchemaAssembly.Run.made` — along a run, what is kept is made from its definition.
* `SchemaAssembly.mirrors_of_assemble` — every type of an assembled graph is the image of its
  definition.
-/

set_option relaxedAutoImplicit false
set_option autoImplicit false

namespace SchemaAssembly

variable {B : Behaviours} {registry : Registry} {wiring : Wiring B} {τ : Type}

/-! ## Occurrences that spell a reference -/

/-- **An occurrence spells a reference**: it has the same lists and the same non-null marks, at the
same levels, around the same name. -/
inductive Occurrence.Spells : Occurrence B → TypeRef → Prop
  /-- A finished type spells its name. -/
  | concrete (type : GraphType B) : Spells (.concrete type) (.named type.name false)
  /-- A placeholder spells its name. -/
  | placeholder (name : String) : Spells (.placeholder name) (.named name false)
  /-- A list spells a list of what its items spell. -/
  | list {inner : Occurrence B} {item : TypeRef} (spelled : Spells inner item) :
    Spells (.list inner) (.list item false)
  /-- A non-null mark spells the mark that the reference inside does not have. -/
  | nonNull {inner : Occurrence B} {type : TypeRef} (nullable : type.isNonNull = false)
    (spelled : Spells inner type) : Spells (.nonNull inner) type.required

namespace Occurrence

/-- Ruling out null spells the mark, if there is none yet. -/
theorem Spells.required {occurrence : Occurrence B} {type : TypeRef}
    (spelled : occurrence.Spells type) (nullable : type.isNonNull = false) :
    occurrence.required.Spells type.required := by
  cases spelled with
  | concrete type => exact .nonNull rfl (.concrete type)
  | placeholder name => exact .nonNull rfl (.placeholder name)
  | list spelled => exact .nonNull rfl (.list spelled)
  | nonNull _ spelled => simp at nullable

/-- **Wrapping spells the reference**, around anything that spells the name at its bottom. -/
theorem spells_wrap {occurrence : Occurrence B} (type : TypeRef)
    (spelled : occurrence.Spells (.ofName type.innermost)) :
    (occurrence.wrap type.wrappers).Spells type := by
  induction type with
  | named name nonNull =>
    cases nonNull with
    | false => exact spelled
    | true => exact spelled.required rfl
  | list item nonNull ih =>
    have inner := (ih spelled).list
    cases nonNull with
    | false =>
      rw [TypeRef.wrappers, wrap, List.foldl_append]
      exact inner
    | true =>
      rw [TypeRef.wrappers, wrap, List.foldl_append]
      exact inner.required rfl

end Occurrence

/-! ## What is kept is made from its definition -/

/-- What building a reference returns spells the reference, and the caches keep the discipline. -/
theorem yields_build (keyed : registry.Keyed) (wired : wiring.Keyed) (inProgress : List String)
    (reference : Reference) :
    Yields (Caches.Sound registry inProgress) (build registry wiring inProgress reference)
      (·.Spells reference.type) := by
  intro caches occurrence next sound ok
  have run := run_of_build ok
  refine ⟨?_, (run.sound keyed wired sound).1⟩
  have named := run.map_innermost keyed wired sound
  obtain ⟨type, -, ⟨built, -, rfl, -⟩ | ⟨-, -, ⟨-, rfl, -⟩ | ⟨-, built, -, -, rfl, -⟩⟩⟩ :=
    build_ok_cases ok
  · have own : built.name = reference.type.innermost := by
      simpa [Demand.reference?, Occurrence.innermost] using named
    exact Occurrence.spells_wrap _ (own ▸ .concrete built)
  · exact Occurrence.spells_wrap _ (.placeholder _)
  · have own : built.name = reference.type.innermost := by
      simpa [Demand.reference?, Occurrence.innermost] using named
    exact Occurrence.spells_wrap _ (own ▸ .concrete built)

/-- Every type kept is made from the definition of its name. -/
def Caches.Made (registry : Registry) (wiring : Wiring B) (caches : Caches B) : Prop :=
  ∀ place name type, caches.find? place name = some type →
    ∃ definition, registry.find? name = some definition ∧
      type.MadeFrom registry wiring Occurrence.Spells definition

/-- **Along a run, what is kept is made from its definition.** -/
theorem Run.made (keyed : registry.Keyed) (wired : wiring.Keyed) {inProgress : List String}
    {agenda : List Demand} {caches last : Caches B} {links : List (Place × Occurrence B)}
    (run : Run registry wiring inProgress agenda caches links last)
    (sound : caches.Sound registry inProgress) (made : caches.Made registry wiring) :
    last.Made registry wiring := by
  induction run with
  | done => exact made
  | passed onward ih => exact ih sound made
  | kept found kept onward ih => exact ih sound made
  | begun found absent placed begun onward ih => exact ih sound made
  | @built inProgress reference _ _ between _ _ definition built found absent placed idle now parts
      onward ihParts ih =>
    obtain ⟨-, start, -, own, finished⟩ :=
      sound.built keyed wired found absent placed idle now parts
    refine ih finished fun place name type kept => ?_
    rw [Caches.find?_keep] at kept
    split at kept
    · next named =>
      obtain rfl := Option.some.inj kept
      refine ⟨definition, ?_, ?_⟩
      · rw [named.1, own, found]
      · exact (yields_buildNamed (yields_build keyed wired _) definition _ _ _ start now).1
    · exact ihParts start made place name type kept

/-- Every type of an assembled graph is made from the definition of its name. -/
theorem madeFrom_of_assemble (keyed : registry.Keyed) (wired : wiring.Keyed)
    {graph : TypeGraph B} (ok : assemble registry wiring = .ok graph) {type : GraphType B}
    (h : type ∈ graph.types.values) :
    ∃ definition, registry.find? type.name = some definition ∧
      type.MadeFrom registry wiring Occurrence.Spells definition := by
  obtain ⟨schema, query, last, -, bound, built⟩ := buildRoots_of_assemble ok
  obtain ⟨run, finished, -⟩ := finished_of_buildRoots keyed wired bound built
  have start : (Caches.empty : Caches B).Made registry wiring := fun _ _ _ kept => by simp at kept
  have made := run.made keyed wired (Caches.sound_empty registry []) start
  obtain ⟨place, kept⟩ := finished.exists_find? (finished.type?_of_mem h)
  exact made place type.name type kept

/-! ## Declared parts -/

/-- The members of a union, as declared. Other types have none. -/
def TypeDefinition.members (definition : TypeDefinition) : List String :=
  match definition.shape with
  | .union members => members
  | _ => []

/-- The values of an enum, as declared. Other types have none. -/
def TypeDefinition.values (definition : TypeDefinition) : List EnumValueDefinition :=
  match definition.shape with
  | .enum values => values
  | _ => []

/-- The fields of an input object, as declared. Other types have none. -/
def TypeDefinition.inputFields (definition : TypeDefinition) : List ArgumentDefinition :=
  match definition.shape with
  | .inputObject fields => fields
  | _ => []

/-- The values of a finished enum. Other types have none. -/
def NamedType.values (type : NamedType B τ) : List EnumValue :=
  match type.body with
  | .enum values => values
  | _ => []

namespace Registry

/-- Every declaration of a field of an object or an interface, repetitions included: first those of
the definition, then those of the extensions as they were registered. -/
def declaredFields (registry : Registry) (definition : TypeDefinition) : List FieldDefinition :=
  match definition.shape with
  | .object own _ | .interface own =>
    own ++ (registry.extensionsOf definition.name).flatMap TypeExtension.fields
  | _ => []

/-- Every mention of an interface that an object implements, repetitions included: first those of
the definition, then those of the extensions as they were registered. What extends an interface
does not make it implement others. -/
def declaredInterfaces (registry : Registry) (definition : TypeDefinition) : List String :=
  match definition.shape with
  | .object _ own => own ++ (registry.extensionsOf definition.name).flatMap TypeExtension.interfaces
  | _ => []

/-- The effective interfaces are those mentioned, each where it is mentioned first. -/
theorem map_fst_effectiveInterfaces (registry : Registry) (definition : TypeDefinition)
    (own : List String) :
    (registry.effectiveInterfaces definition own).map Prod.fst =
      (own ++ (registry.extensionsOf definition.name).flatMap
        TypeExtension.interfaces).eraseDups := by
  rw [effectiveInterfaces, map_firstOfEachName, List.map_append, List.map_flatMap]
  simp [Function.comp_def]

end Registry

/-! ## Images of definitions -/

/-- **A finished type is the image of a definition.** Parts that its kind does not have are empty on
both sides. -/
structure NamedType.Mirrors (registry : Registry) (type : GraphType B)
    (definition : TypeDefinition) : Prop where
  /-- The names are the same. -/
  name : type.name = definition.name
  /-- The kinds are the same. -/
  kind : type.kind = definition.kind
  /-- The descriptions are the same. -/
  description : type.description = definition.description
  /-- The fields are those declared, in the order in which their names are declared first. -/
  fieldNames : type.fields.map Field.name =
    ((registry.declaredFields definition).map FieldDefinition.name).eraseDups
  /-- No field name occurs twice. -/
  fieldsOnce : (type.fields.map Field.name).Nodup
  /-- Each field mirrors the first declaration of its name. -/
  fields : ∀ field ∈ type.fields, ∃ first,
    (registry.declaredFields definition).find? (fun other => other.name = field.name) =
        some first ∧
      field.Mirrors Occurrence.Spells first
  /-- The interfaces are those mentioned, in the order in which they are mentioned first. -/
  interfaces : List.Forall₂ (fun interface name => interface.Spells (.ofName name))
    type.interfaces (registry.declaredInterfaces definition).eraseDups
  /-- The members are those declared, one by one. -/
  members : List.Forall₂ (fun member name => member.Spells (.ofName name))
    type.members definition.members
  /-- The values are those declared, one by one. -/
  values : List.Forall₂
    (fun value declared => value.name = declared.name ∧ value.description = declared.description)
    type.values definition.values
  /-- The input fields mirror those declared, one by one. -/
  inputFields : List.Forall₂ (Argument.Mirrors Occurrence.Spells)
    type.inputFields definition.inputFields

/-- What corresponds to a list, one by one, corresponds to members of it. -/
theorem exists_of_forall₂ {α β : Type} {related : β → α → Prop} {results : List β}
    {items : List α} (h : List.Forall₂ related results items) :
    ∀ b ∈ results, ∃ a ∈ items, related b a := by
  induction h with
  | nil => simp
  | cons head tail ih =>
    rintro b (_ | ⟨_, hb⟩)
    · exact ⟨_, .head _, head⟩
    · obtain ⟨a, ha, hr⟩ := ih b hb
      exact ⟨a, .tail _ ha, hr⟩

/-- What corresponds, one by one, to the first of each name has these names in order, and each of
its items corresponds to the first item of its name. -/
theorem forall₂_firstOfEachName {α β : Type} {name : α → String} {name' : β → String}
    {related : β → α → Prop} (named : ∀ b a, related b a → name' b = name a) {results : List β}
    {items : List α} (h : List.Forall₂ related results (firstOfEachName name items)) :
    results.map name' = (items.map name).eraseDups ∧
      ∀ b ∈ results, ∃ first, items.find? (fun other => name other = name' b) = some first ∧
        related b first := by
  constructor
  · rw [← map_firstOfEachName]
    generalize firstOfEachName name items = chosen at h ⊢
    induction h with
    | nil => rfl
    | cons head tail ih => rw [List.map_cons, List.map_cons, named _ _ head, ih]
  · intro b hb
    obtain ⟨a, ha, hr⟩ := exists_of_forall₂ h b hb
    refine ⟨a, ?_, hr⟩
    rw [named b a hr]
    exact find?_of_mem_firstOfEachName ha

section MadeFrom

variable {type : GraphType B} {definition : TypeDefinition}
  (made : type.MadeFrom registry wiring Occurrence.Spells definition)

include made

/-- **The fields of a type made from a definition** are those declared, in the order in which their
names are declared first, each made from the first declaration of its name. -/
theorem NamedType.MadeFrom.fields :
    type.fields.map Field.name =
        ((registry.declaredFields definition).map FieldDefinition.name).eraseDups ∧
      ∀ field ∈ type.fields, ∃ first,
        (registry.declaredFields definition).find? (fun other => other.name = field.name) =
            some first ∧
          field.MadeFrom registry wiring Occurrence.Spells definition.name first := by
  obtain ⟨name, description, position, shape⟩ := definition
  cases shape with
  | scalar =>
    obtain ⟨scalar, -, rfl⟩ := made
    exact ⟨rfl, nofun⟩
  | object own ownInterfaces =>
    obtain ⟨fields, interfaces, rfl, mirrored, -⟩ := made
    exact forall₂_firstOfEachName (fun _ _ h => h.name) mirrored
  | interface own =>
    obtain ⟨fields, resolver, rfl, -, mirrored⟩ := made
    exact forall₂_firstOfEachName (fun _ _ h => h.name) mirrored
  | union members =>
    obtain ⟨members, resolver, rfl, -⟩ := made
    exact ⟨rfl, nofun⟩
  | enum values =>
    obtain rfl := made
    exact ⟨rfl, nofun⟩
  | inputObject fields =>
    obtain ⟨fields, rfl, -⟩ := made
    exact ⟨rfl, nofun⟩

/-- The other parts of a type made from a definition: interfaces as they are mentioned first, and
members, values and input fields one by one. -/
theorem NamedType.MadeFrom.parts :
    List.Forall₂ (fun interface name => interface.Spells (.ofName name)) type.interfaces
        (registry.declaredInterfaces definition).eraseDups ∧
      List.Forall₂ (fun member name => member.Spells (.ofName name)) type.members
        definition.members ∧
      List.Forall₂
        (fun value declared => value.name = declared.name ∧
          value.description = declared.description) type.values definition.values ∧
      List.Forall₂ (Argument.Mirrors Occurrence.Spells) type.inputFields
        definition.inputFields := by
  obtain ⟨name, description, position, shape⟩ := definition
  cases shape with
  | scalar =>
    obtain ⟨scalar, -, rfl⟩ := made
    exact ⟨.nil, .nil, .nil, .nil⟩
  | object own ownInterfaces =>
    obtain ⟨fields, interfaces, rfl, -, spelled⟩ := made
    refine ⟨?_, .nil, .nil, .nil⟩
    rw [Registry.declaredInterfaces, ← registry.map_fst_effectiveInterfaces,
      List.forall₂_map_right_iff]
    exact spelled
  | interface own =>
    obtain ⟨fields, resolver, rfl, -⟩ := made
    exact ⟨.nil, .nil, .nil, .nil⟩
  | union members =>
    obtain ⟨members, resolver, rfl, -, spelled⟩ := made
    exact ⟨.nil, spelled, .nil, .nil⟩
  | enum values =>
    obtain rfl := made
    refine ⟨.nil, .nil, ?_, .nil⟩
    exact List.forall₂_map_left_iff.2 (List.forall₂_same.2 fun _ _ => ⟨rfl, rfl⟩)
  | inputObject fields =>
    obtain ⟨fields, rfl, mirrored⟩ := made
    exact ⟨.nil, .nil, .nil, mirrored⟩

/-- A type made from a definition is its image, unless it is a scalar. -/
theorem NamedType.MadeFrom.mirrors (wired : wiring.Keyed) (kind : type.kind ≠ .scalar) :
    type.Mirrors registry definition := by
  obtain ⟨name, kind', description⟩ := made.heading wired
  obtain ⟨fieldNames, fields⟩ := made.fields
  obtain ⟨interfaces, members, values, inputFields⟩ := made.parts
  refine ⟨name, kind', description (kind' ▸ kind), fieldNames, ?_, ?_, interfaces, members, values,
    inputFields⟩
  · rw [fieldNames, ← map_firstOfEachName]
    exact nodup_firstOfEachName _ _
  · intro field h
    obtain ⟨first, found, mirrored⟩ := fields field h
    exact ⟨first, found, mirrored.toMirrors⟩

end MadeFrom

/-- **Every type of an assembled graph is the image of the definition of its name**: every object,
interface, union, enum and input object.

**Proof sketch.** A type is kept when it is built, and it is built from the definition of the name
that was followed (`Run.made`). What is built consists of the parts of that definition
(`yields_buildNamed`), with references that spell what was followed for them (`yields_build`). -/
theorem mirrors_of_assemble (keyed : registry.Keyed) (wired : wiring.Keyed)
    {graph : TypeGraph B} (ok : assemble registry wiring = .ok graph) :
    ∀ type ∈ graph.types.values, type.kind ≠ .scalar →
      ∃ definition, registry.find? type.name = some definition ∧
        type.Mirrors registry definition := by
  intro type h kind
  obtain ⟨definition, found, made⟩ := madeFrom_of_assemble keyed wired ok h
  exact ⟨definition, found, made.mirrors wired kind⟩

/-- A profile whose fields and interfaces are declared in several places, some of them twice, and
with defaults. What extends the interface names an interface that nothing defines. -/
def profileDefinitions : List Definition := [
  .schema ⟨[⟨.query, "Query", ⟨1, 10⟩⟩], ⟨1, 1⟩⟩,
  .type ⟨"Query", some "who is asked for", ⟨2, 1⟩, .object
    [⟨"name", some "from the base",
      [⟨"title", none, .ofName "String", some (.string "Dr"), ⟨3, 8⟩⟩,
        ⟨"short", none, .ofName "Boolean", none, ⟨3, 30⟩⟩], .ofName "String", ⟨3, 3⟩⟩] []⟩,
  .type ⟨"Named", none, ⟨5, 1⟩, .interface [⟨"name", none, [], .ofName "String", ⟨5, 19⟩⟩]⟩,
  .extension ⟨"Query", ["Named"],
    [⟨"name", some "ignored", [], .ofName "Ghost", ⟨6, 40⟩⟩,
      ⟨"ages", none, [], .list (.named "Int" true) true, ⟨6, 50⟩⟩], ⟨6, 1⟩⟩,
  .extension ⟨"Query", ["Named"], [], ⟨7, 1⟩⟩,
  .extension ⟨"Named", ["Ghost"], [⟨"nick", none, [], .ofName "String", ⟨8, 30⟩⟩], ⟨8, 1⟩⟩]

/-- The registry of the profile. -/
def profile : Registry := (Registry.empty.addAll profileDefinitions).1

/-- The profile is keyed. -/
theorem keyed_profile : profile.Keyed := Registry.keyed_empty.addAll profileDefinitions

/-- The types of a graph with their kinds, each with what it says of its fields and interfaces. -/
def TypeGraph.digest (graph : TypeGraph B) : List (String × TypeKind × List String) :=
  graph.types.values.map fun type => (type.name, type.kind,
    type.fields.map (fun field => field.name ++ ": " ++ field.type.text) ++
      type.interfaces.map Occurrence.text)

/-- In the profile the fields and interfaces that count are those declared first, and those that do
not count are not even looked up. -/
theorem mirrors_of_assemble_profile :
    profile.Keyed ∧ plainWiring.Keyed ∧ ∃ graph, assemble profile plainWiring = .ok graph ∧
      graph.digest =
        [("Query", .object, ["name: String", "ages: [Int!]!", "Named"]), ("String", .scalar, []),
          ("Boolean", .scalar, []), ("Int", .scalar, []),
          ("Named", .interface, ["name: String", "nick: String"])] ∧
      ∃ type ∈ graph.types.values, type.name = "Query" ∧ type.kind ≠ .scalar ∧
        ∃ definition, profile.find? "Query" = some definition ∧
          type.Mirrors profile definition := by
  have listed : (assemble profile plainWiring).toOption.map TypeGraph.digest = some
      [("Query", .object, ["name: String", "ages: [Int!]!", "Named"]), ("String", .scalar, []),
        ("Boolean", .scalar, []), ("Int", .scalar, []),
        ("Named", .interface, ["name: String", "nick: String"])] := by
    decide +kernel
  obtain ⟨graph, ok, digest⟩ := exists_eq_ok_of_view listed
  have first : ("Query", TypeKind.object, ["name: String", "ages: [Int!]!", "Named"]) ∈
      graph.digest := by
    rw [digest]
    exact .head _
  obtain ⟨type, h, own⟩ := List.mem_map.1 first
  simp only [Prod.mk.injEq] at own
  have kind : type.kind ≠ .scalar := by
    rw [own.2.1]
    decide
  obtain ⟨definition, found, mirrors⟩ :=
    mirrors_of_assemble keyed_profile keyed_plainWiring ok type h kind
  exact ⟨keyed_profile, keyed_plainWiring, graph, ok, digest, type, h, own.1, kind, definition,
    own.1 ▸ found, mirrors⟩

end SchemaAssembly
