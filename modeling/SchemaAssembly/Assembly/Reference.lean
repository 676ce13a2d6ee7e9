import SchemaAssembly.Registry

/-!
# What a definition refers to

Assembly follows the references that definitions make. A reference is made from a place, for
output or for input, and only types of some kinds may stand there. The references of a type are
those of its *effective* parts: what its definition lists comes first, then what extensions add in
the order in which they were registered, and of several parts of one name only the first counts.

## Main definitions

* `SchemaAssembly.Place` — output or input; `SchemaAssembly.Place.admits` the kinds allowed.
* `SchemaAssembly.Reference` — a reference, with what a report on it has to say.
* `SchemaAssembly.firstOfEachName` — of several parts of one name, the first.
* `SchemaAssembly.Registry.effectiveFields`, `effectiveInterfaces` — the parts that count.

## Main results

* `SchemaAssembly.nodup_firstOfEachName` — no name is left twice.
* `SchemaAssembly.map_firstOfEachName`, `find?_of_mem_firstOfEachName` — names are left in the order
  in which they come first, each with the first item of that name.
-/

set_option relaxedAutoImplicit false
set_option autoImplicit false

namespace SchemaAssembly

/-! ## Places -/

/-- Where a type may be referred to from. -/
inductive Place
  /-- The type of a field, an interface, a member, a root. -/
  | output
  /-- The type of an argument or of an input field. -/
  | input
deriving DecidableEq, Repr

/-- Whether a type of some kind may stand at a place. -/
def Place.admits : Place → TypeKind → Bool
  | .output => TypeKind.isOutput
  | .input => TypeKind.isInput

/-- The error of a type that may not stand at a place. It points at the type. -/
def Place.mismatch : Place → TypeDefinition → SchemaError
  | .output, found => .notAnOutputType found.name found.kind found.position
  | .input, found => .notAnInputType found.name found.kind found.position

/-- A reference to a type, made by a definition. -/
structure Reference where
  /-- The type referred to. -/
  type : TypeRef
  /-- Where the type is to stand. -/
  place : Place
  /-- The name of the type whose definition makes the reference. -/
  context : String
  /-- Where the reference is made. -/
  position : Position
deriving DecidableEq, Repr

/-- The error of a reference to a name that nothing defines. -/
def Reference.unknown (reference : Reference) : SchemaError :=
  .unknownType reference.type.innermost reference.context reference.position

/-! ## The first of each name -/

/-- Of several items of one name, only the first. -/
def firstOfEachName {α : Type} (name : α → String) : List α → List α
  | [] => []
  | item :: rest => item :: (firstOfEachName name rest).filter fun other => name other ≠ name item

/-- No name is left twice. -/
theorem nodup_firstOfEachName {α : Type} (name : α → String) (items : List α) :
    ((firstOfEachName name items).map name).Nodup := by
  induction items with
  | nil => simp [firstOfEachName]
  | cons item rest ih =>
    simp only [firstOfEachName, List.map_cons, List.nodup_cons]
    refine ⟨by simp, ?_⟩
    rw [List.nodup_iff_pairwise_ne, List.pairwise_map] at ih ⊢
    exact ih.filter _

/-- Dropping repetitions commutes with dropping what fails a test. -/
theorem eraseDups_filter (test : String → Bool) (names : List String) :
    (names.filter test).eraseDups = names.eraseDups.filter test := by
  induction h : names.length using Nat.strongRecOn generalizing names with
  | ind count ih =>
    subst h
    cases names with
    | nil => rfl
    | cons name rest =>
      have fewer : (rest.filter fun other => !other == name).length < (name :: rest).length :=
        Nat.lt_succ_of_le (List.length_filter_le _ _)
      rw [List.eraseDups_cons, List.filter_cons, List.filter_cons]
      split
      · rw [List.eraseDups_cons, ← ih _ fewer _ rfl, List.filter_filter, List.filter_filter]
        simp only [Bool.and_comm]
      · next fails =>
        -- The first name fails the test, so that dropping its repetitions changes nothing.
        rw [← ih _ fewer _ rfl, List.filter_filter]
        congr 1
        refine List.filter_congr fun other _ => ?_
        cases same : other == name
        · simp
        · rw [eq_of_beq same]
          simpa using fails

/-- Names are left in the order in which they come first. -/
theorem map_firstOfEachName {α : Type} (name : α → String) (items : List α) :
    (firstOfEachName name items).map name = (items.map name).eraseDups := by
  induction items with
  | nil => rfl
  | cons item rest ih =>
    rw [firstOfEachName, List.map_cons, List.map_cons, List.eraseDups_cons, eraseDups_filter, ← ih,
      List.filter_map]
    congr 3
    funext other
    rw [Function.comp_apply, decide_not]
    rfl

/-- What is left under a name is the first item of that name. -/
theorem find?_of_mem_firstOfEachName {α : Type} {name : α → String} {items : List α} {item : α}
    (h : item ∈ firstOfEachName name items) :
    items.find? (fun other => name other = name item) = some item := by
  induction items with
  | nil => cases h
  | cons first rest ih =>
    rw [firstOfEachName, List.mem_cons, List.mem_filter, decide_eq_true_eq] at h
    rcases h with rfl | ⟨h, other⟩
    · simp
    · rw [List.find?_cons, decide_eq_false (Ne.symm other)]
      exact ih h

/-! ## Effective parts -/

namespace Registry

/-- The fields of a type that lists `own` fields. -/
def effectiveFields (registry : Registry) (type : String) (own : List FieldDefinition) :
    List FieldDefinition :=
  firstOfEachName FieldDefinition.name
    (own ++ (registry.extensionsOf type).flatMap TypeExtension.fields)

/-- The interfaces of a type that names `own` ones, each with the position that stands for the
reference: that of the type, or that of the extension. -/
def effectiveInterfaces (registry : Registry) (type : TypeDefinition) (own : List String) :
    List (String × Position) :=
  firstOfEachName Prod.fst
    (own.map (fun name => (name, type.position)) ++
      (registry.extensionsOf type.name).flatMap fun extension =>
        extension.interfaces.map fun name => (name, extension.position))

end Registry

end SchemaAssembly
