import SchemaAssembly.Assembly.Reference
import SchemaAssembly.Proofs.FirstBreach
import SchemaAssembly.Value

/-!
# Folding literals into values

A literal is folded into a value part by part. The only place where something may change is an object that
repeats a name, and there may be such objects at any depth, also inside of what is dropped. What is folded
is therefore described along paths. From an object literal a path goes on through the last entry of a name,
whereas from the object of the value there is only one way on; and what stands at the end of the one path
is the fold of what stands at the end of the other.

Read back as literals, values are the literals without repetitions.

## Main definitions

* `SchemaAssembly.Along` — what stands at the end of a path.
* `SchemaAssembly.Value.At`, `SchemaAssembly.Literal.At` — what stands where in a value or a literal.
* `SchemaAssembly.Literal.Counts` — what stands where in a literal, if last entries count.
* `SchemaAssembly.Literal.Distinct` — no object repeats a name, at any depth.
* `SchemaAssembly.Literal.Settles` — the entries of an object, with repetitions settled.
* `SchemaAssembly.Value.asLiteral` — a value as the literal of the same form.

## Main results

* `SchemaAssembly.Entries.names_ofList`, `lookup_ofList`, `ofList_of_nodup` — setting one entry after the
  other keeps first places and last values.
* `SchemaAssembly.Literal.at_fold_iff` — what stands where in a folded literal.
* `SchemaAssembly.Literal.fold_asLiteral`, `asLiteral_fold_iff` — folding what is read back, and reading
  back what is folded.
* `SchemaAssembly.Literal.fold_settles` — folding, said along paths and by what is read back.
-/

set_option relaxedAutoImplicit false
set_option autoImplicit false

namespace SchemaAssembly

/-! ## Entries set one after the other -/

namespace Entries

variable {α β : Type}

/-- After many names were set, the names before come first, and then the new ones in the order in which
they come first. -/
theorem names_setAll (entries added : List (String × α)) :
    names (setAll entries added) =
      names entries ++ (names added).eraseDups.filter (· ∉ names entries) := by
  induction added generalizing entries with
  | nil => simp [setAll]
  | cons entry rest ih =>
    have step : setAll entries (entry :: rest) = setAll (set entry.1 entry.2 entries) rest := rfl
    rw [step, ih, names_set, names_cons, List.eraseDups_cons, eraseDups_filter]
    by_cases held : entry.1 ∈ names entries
    · -- The name keeps its place, so that leaving it out of what follows changes nothing.
      rw [if_pos held, List.filter_cons_of_neg (by simpa using held), List.filter_filter]
      refine congrArg (names entries ++ ·) (List.filter_congr fun name _ => ?_)
      by_cases own : name = entry.1
      · simp [own, held]
      · simp [own]
    · rw [if_neg held, List.filter_cons_of_pos (by simpa using held), List.filter_filter,
        List.append_assoc, List.singleton_append]
      refine congrArg (fun new => names entries ++ entry.1 :: new) (List.filter_congr fun name _ => ?_)
      by_cases own : name = entry.1
      · simp [own]
      · simp [own]

/-- **Names stand in the order in which they come first**, each once. -/
theorem names_ofList (entries : List (String × α)) :
    names (ofList entries) = (names entries).eraseDups := by
  rw [ofList, names_setAll]
  simp

/-- **Under a name stands its last value.** -/
theorem lookup_ofList (entries : List (String × α)) (name : String) :
    (ofList entries).lookup name = entries.reverse.lookup name := by
  have last := NameMap.get?_extend (NameMap.empty : NameMap α) entries name
  rw [NameMap.get?_empty, Option.or_none] at last
  exact last

/-- **Entries of distinct names stay as they are.** -/
theorem ofList_of_nodup {entries : List (String × α)} (nodup : (names entries).Nodup) :
    ofList entries = entries :=
  NameMap.entries_extend_of_disjoint (m := NameMap.empty) (n := ⟨entries, nodup⟩)
    fun _ _ => List.not_mem_nil

/-- Distinct names stand in the order in which they come first. -/
theorem eraseDups_names_of_nodup {entries : List (String × α)} (nodup : (names entries).Nodup) :
    (names entries).eraseDups = names entries := by
  rw [← names_ofList, ofList_of_nodup nodup]

/-- Entries that list the same names, each once, with the same under each, are the same. -/
theorem eq_of_lookup {entries entries' : List (String × α)} (nodup : (names entries).Nodup)
    (order : names entries = names entries')
    (held : ∀ name, entries.lookup name = entries'.lookup name) : entries = entries' :=
  congrArg NameMap.entries (NameMap.ext_get? (m := ⟨entries, nodup⟩) (n := ⟨entries', order ▸ nodup⟩)
    order held)

/-- Changing what is held changes what is found under a name. -/
theorem lookup_map (change : α → β) (entries : List (String × α)) (name : String) :
    (entries.map fun entry => (entry.1, change entry.2)).lookup name =
      (entries.lookup name).map change := by
  induction entries with
  | nil => rfl
  | cons entry rest ih =>
    rw [List.map_cons, List.lookup_cons, List.lookup_cons, ih]
    cases name == entry.1 <;> rfl

/-- Changing what is held does not change names. -/
theorem names_map (change : α → β) (entries : List (String × α)) :
    names (entries.map fun entry => (entry.1, change entry.2)) = names entries := by
  simp [names]

end Entries

/-! ## Paths -/

/-- **What stands at the end of a path**, for a way of taking single steps. -/
inductive Along {α : Type} (step : α → PathStep → α → Prop) : α → List PathStep → α → Prop
  /-- Without a step one stays. -/
  | here (a : α) : Along step a [] a
  /-- After the first step the path goes on. -/
  | onward {a b c : α} {first : PathStep} {path : List PathStep} (taken : step a first b)
    (rest : Along step b path c) : Along step a (first :: path) c

/-- Without a step one stays. -/
theorem along_nil_iff {α : Type} {step : α → PathStep → α → Prop} {a b : α} :
    Along step a [] b ↔ a = b := by
  constructor
  · rintro ⟨⟩
    rfl
  · rintro rfl
    exact .here a

/-- After the first step the path goes on. -/
theorem along_cons_iff {α : Type} {step : α → PathStep → α → Prop} {a c : α} {first : PathStep}
    {path : List PathStep} :
    Along step a (first :: path) c ↔ ∃ b, step a first b ∧ Along step b path c := by
  constructor
  · rintro ⟨⟩
    exact ⟨_, ‹_›, ‹_›⟩
  · rintro ⟨b, taken, rest⟩
    exact .onward taken rest

/-- **If images have the images of what one gets to by a step, they have the images of what one gets to
along a path.** -/
theorem along_image_iff {α β : Type} {step : α → PathStep → α → Prop}
    {step' : β → PathStep → β → Prop} {image : α → β}
    (steps : ∀ a first b', step' (image a) first b' ↔ ∃ b, step a first b ∧ image b = b') {a : α}
    {path : List PathStep} {c' : β} :
    Along step' (image a) path c' ↔ ∃ c, Along step a path c ∧ image c = c' := by
  induction path generalizing a with
  | nil => simp [along_nil_iff]
  | cons first rest ih =>
    simp only [along_cons_iff, steps]
    constructor
    · rintro ⟨-, ⟨b, taken, rfl⟩, onward⟩
      obtain ⟨c, onward', rfl⟩ := ih.1 onward
      exact ⟨c, ⟨b, taken, onward'⟩, rfl⟩
    · rintro ⟨c, ⟨b, taken, onward⟩, rfl⟩
      exact ⟨image b, ⟨b, taken, rfl⟩, ih.2 ⟨c, onward, rfl⟩⟩

/-- More steps lead to more. -/
theorem Along.mono {α : Type} {step step' : α → PathStep → α → Prop}
    (more : ∀ a first b, step a first b → step' a first b) {a c : α} {path : List PathStep}
    (along : Along step a path c) : Along step' a path c := by
  induction along with
  | here => exact .here _
  | onward taken _ ih => exact .onward (more _ _ _ taken) ih

/-! ## Inside of values -/

namespace Value

/-- **Induction on values**, with the assumption for every item of a list and for every entry of an
object. -/
@[elab_as_elim]
theorem induction {motive : Value → Prop} (null : motive .null) (int : ∀ value, motive (.int value))
    (float : ∀ value, motive (.float value)) (string : ∀ value, motive (.string value))
    (boolean : ∀ value, motive (.boolean value)) (enum : ∀ name, motive (.enum name))
    (list : ∀ items, (∀ item ∈ items, motive item) → motive (.list items))
    (object : ∀ entries, (∀ entry ∈ entries, motive entry.2) → motive (.object entries))
    (value : Value) : motive value :=
  Value.rec (motive_1 := motive) (motive_2 := fun items => ∀ item ∈ items, motive item)
    (motive_3 := fun entries => ∀ entry ∈ entries, motive entry.2)
    (motive_4 := fun entry => motive entry.2) null int float string boolean enum list object
    (fun _ h => nomatch h) (fun _ _ head tail => List.forall_mem_cons.2 ⟨head, tail⟩)
    (fun _ h => nomatch h) (fun _ _ head tail => List.forall_mem_cons.2 ⟨head, tail⟩)
    (fun _ _ h => h) value

/-- One step into a value. -/
inductive Step : Value → PathStep → Value → Prop
  /-- To an item of a list. -/
  | item {items : List Value} {index : Nat} {item : Value} (held : items[index]? = some item) :
    Step (.list items) (.item index) item
  /-- To what an object holds under a name. -/
  | entry {entries : List (String × Value)} {name : String} {value : Value}
    (held : entries.lookup name = some value) : Step (.object entries) (.entry name) value

/-- **What stands where in a value.** -/
abbrev At : Value → List PathStep → Value → Prop := Along Step

end Value

/-! ## Inside of literals -/

namespace Literal

/-- **Induction on literals**, with the assumption for every item of a list and for every entry of an
object. -/
@[elab_as_elim]
theorem induction {motive : Literal → Prop} (null : motive .null) (int : ∀ value, motive (.int value))
    (float : ∀ value, motive (.float value)) (string : ∀ value, motive (.string value))
    (boolean : ∀ value, motive (.boolean value)) (enum : ∀ name, motive (.enum name))
    (list : ∀ items, (∀ item ∈ items, motive item) → motive (.list items))
    (object : ∀ entries, (∀ entry ∈ entries, motive entry.2) → motive (.object entries))
    (literal : Literal) : motive literal :=
  Literal.rec (motive_1 := motive) (motive_2 := fun items => ∀ item ∈ items, motive item)
    (motive_3 := fun entries => ∀ entry ∈ entries, motive entry.2)
    (motive_4 := fun entry => motive entry.2) null int float string boolean enum list object
    (fun _ h => nomatch h) (fun _ _ head tail => List.forall_mem_cons.2 ⟨head, tail⟩)
    (fun _ h => nomatch h) (fun _ _ head tail => List.forall_mem_cons.2 ⟨head, tail⟩)
    (fun _ _ h => h) literal

/-- One step into a literal. To a name that an object repeats there are several. -/
inductive Step : Literal → PathStep → Literal → Prop
  /-- To an item of a list. -/
  | item {items : List Literal} {index : Nat} {item : Literal} (held : items[index]? = some item) :
    Step (.list items) (.item index) item
  /-- To an entry of an object. -/
  | entry {entries : List (String × Literal)} {name : String} {literal : Literal}
    (held : (name, literal) ∈ entries) : Step (.object entries) (.entry name) literal

/-- One step into a literal, where the last entry of a name counts. -/
inductive LastStep : Literal → PathStep → Literal → Prop
  /-- To an item of a list. -/
  | item {items : List Literal} {index : Nat} {item : Literal} (held : items[index]? = some item) :
    LastStep (.list items) (.item index) item
  /-- To the last entry of a name. -/
  | entry {entries : List (String × Literal)} {name : String} {literal : Literal}
    (last : entries.reverse.lookup name = some literal) :
    LastStep (.object entries) (.entry name) literal

/-- **What stands where in a literal.** -/
abbrev At : Literal → List PathStep → Literal → Prop := Along Step

/-- **What stands where in a literal, if last entries count**: what is repeated later is left out, with
everything in it. -/
abbrev Counts : Literal → List PathStep → Literal → Prop := Along LastStep

/-- **No object repeats a name**, at any depth. -/
def Distinct (literal : Literal) : Prop :=
  ∀ path entries, literal.At path (.object entries) → (Entries.names entries).Nodup

/-- What counts is there. -/
theorem Counts.at {literal inner : Literal} {path : List PathStep} (h : literal.Counts path inner) :
    literal.At path inner := by
  refine h.mono fun a first b taken => ?_
  cases taken with
  | item held => exact .item held
  | entry last => exact .entry (List.mem_reverse.1 (Entries.mem_of_lookup last))

/-- A list repeats no name if its items repeat none. -/
theorem distinct_list_iff {items : List Literal} :
    Distinct (.list items) ↔ ∀ item ∈ items, item.Distinct := by
  constructor
  · intro distinct item h path entries inside
    obtain ⟨index, held⟩ := List.mem_iff_getElem?.1 h
    exact distinct _ entries (.onward (.item held) inside)
  · intro distinct path entries inside
    cases inside with
    | onward taken rest =>
      cases taken with
      | item held => exact distinct _ (List.mem_of_getElem? held) _ entries rest

/-- An object repeats no name if its names are distinct, and its entries repeat none. -/
theorem distinct_object_iff {entries : List (String × Literal)} :
    Distinct (.object entries) ↔
      (Entries.names entries).Nodup ∧ ∀ entry ∈ entries, entry.2.Distinct := by
  constructor
  · intro distinct
    refine ⟨distinct [] entries (.here _), fun entry h path inner inside => ?_⟩
    have taken : (object entries).Step (.entry entry.1) entry.2 := .entry h
    exact distinct _ inner (.onward taken inside)
  · rintro ⟨nodup, distinct⟩ path inner inside
    cases inside with
    | here => exact nodup
    | onward taken rest =>
      cases taken with
      | entry held => exact distinct _ held _ inner rest

/-! ## What is folded -/

/-- Items are folded one by one. -/
theorem foldItems_eq_map (items : List Literal) : foldItems items = items.map fold := by
  induction items with
  | nil => rfl
  | cons item rest ih => rw [foldItems, ih, List.map_cons]

/-- Entries are folded one by one, each under its name. -/
theorem foldEntries_eq_map (entries : List (String × Literal)) :
    foldEntries entries = entries.map fun entry => (entry.1, entry.2.fold) := by
  induction entries with
  | nil => rfl
  | cons entry rest ih => rw [foldEntries, ih, List.map_cons]

/-- **The entries of an object, with repetitions settled**: each name is there once, where it comes first,
and holds the fold of its last entry. -/
structure Settles (entries : List (String × Literal)) (held : List (String × Value)) : Prop where
  /-- No name is there twice. -/
  distinct : (Entries.names held).Nodup
  /-- Names are in the order in which they come first. -/
  order : Entries.names held = (Entries.names entries).eraseDups
  /-- Under a name is the fold of its last entry. -/
  last : ∀ name, held.lookup name = (entries.reverse.lookup name).map fold

/-- What is found under a name of a folded object is the fold of its last entry. -/
theorem lookup_foldEntries (entries : List (String × Literal)) (name : String) :
    (Entries.ofList (foldEntries entries)).lookup name =
      (entries.reverse.lookup name).map fold := by
  rw [Entries.lookup_ofList, foldEntries_eq_map, ← List.map_reverse, Entries.lookup_map]

/-- **Folding an object settles its repetitions**, in one way. -/
theorem settles_iff {entries : List (String × Literal)} {held : List (String × Value)} :
    Settles entries held ↔ Entries.ofList (foldEntries entries) = held := by
  have order : Entries.names (Entries.ofList (foldEntries entries)) =
      (Entries.names entries).eraseDups := by
    rw [Entries.names_ofList, foldEntries_eq_map, Entries.names_map]
  have distinct := Entries.nodup_ofList (foldEntries entries)
  constructor
  · intro settles
    exact Entries.eq_of_lookup distinct (order.trans settles.order.symm) fun name =>
      (lookup_foldEntries entries name).trans (settles.last name).symm
  · rintro rfl
    exact ⟨distinct, order, lookup_foldEntries entries⟩

/-- A literal folds to an object if and only if it is one. -/
theorem fold_eq_object_iff {literal : Literal} {held : List (String × Value)} :
    literal.fold = .object held ↔ ∃ entries, literal = .object entries ∧ Settles entries held := by
  cases literal <;> simp [fold, Value.ofEntries, settles_iff]

/-- A step into a folded literal is a step to the fold of what counts. -/
theorem step_fold_iff (literal : Literal) (first : PathStep) (value : Value) :
    literal.fold.Step first value ↔ ∃ inner, literal.LastStep first inner ∧ inner.fold = value := by
  constructor
  · intro taken
    cases literal with
    | list items =>
      rw [fold, foldItems_eq_map] at taken
      cases taken with
      | item held =>
        rw [List.getElem?_map, Option.map_eq_some_iff] at held
        obtain ⟨inner, held, rfl⟩ := held
        exact ⟨inner, .item held, rfl⟩
    | object entries =>
      cases taken with
      | entry held =>
        rw [lookup_foldEntries, Option.map_eq_some_iff] at held
        obtain ⟨inner, last, rfl⟩ := held
        exact ⟨inner, .entry last, rfl⟩
    | _ => cases taken
  · rintro ⟨inner, taken, rfl⟩
    cases taken with
    | item held =>
      rw [fold, foldItems_eq_map]
      exact .item (by rw [List.getElem?_map, held]; rfl)
    | entry last => exact .entry (by rw [lookup_foldEntries, last]; rfl)

/-- **What stands where in a folded literal** is the fold of what counts there. -/
theorem at_fold_iff {literal : Literal} {path : List PathStep} {value : Value} :
    literal.fold.At path value ↔ ∃ inner, literal.Counts path inner ∧ inner.fold = value :=
  along_image_iff step_fold_iff

end Literal

/-! ## Reading values back -/

namespace Value

mutual

/-- **A value as the literal of the same form.** -/
def asLiteral : Value → Literal
  | .null => .null
  | .int value => .int value
  | .float value => .float value
  | .string value => .string value
  | .boolean value => .boolean value
  | .enum name => .enum name
  | .list items => .list (asLiterals items)
  | .object entries => .object (asLiteralEntries entries)

/-- Items as literals. -/
def asLiterals : List Value → List Literal
  | [] => []
  | item :: rest => item.asLiteral :: asLiterals rest

/-- Entries with literals. -/
def asLiteralEntries : List (String × Value) → List (String × Literal)
  | [] => []
  | (name, value) :: rest => (name, value.asLiteral) :: asLiteralEntries rest

end

/-- Items are read back one by one. -/
theorem asLiterals_eq_map (items : List Value) : asLiterals items = items.map asLiteral := by
  induction items with
  | nil => rfl
  | cons item rest ih => rw [asLiterals, ih, List.map_cons]

/-- Entries are read back one by one, each under its name. -/
theorem asLiteralEntries_eq_map (entries : List (String × Value)) :
    asLiteralEntries entries = entries.map fun entry => (entry.1, entry.2.asLiteral) := by
  induction entries with
  | nil => rfl
  | cons entry rest ih => rw [asLiteralEntries, ih, List.map_cons]

/-- A value of distinct names is read back as a literal of distinct names. -/
theorem distinct_asLiteral {value : Value} (distinct : value.Distinct) :
    value.asLiteral.Distinct := by
  induction value using Value.induction with
  | list items ih =>
    have inner := (distinctItems_iff items).1 distinct
    rw [asLiteral, asLiterals_eq_map, Literal.distinct_list_iff, List.forall_mem_map]
    exact fun item h => ih item h (inner item h)
  | object entries ih =>
    have inner := (distinctEntries_iff entries).1 distinct.2
    rw [asLiteral, asLiteralEntries_eq_map, Literal.distinct_object_iff, Entries.names_map,
      List.forall_mem_map]
    exact ⟨distinct.1, fun entry h => ih entry h (inner entry h)⟩
  | _ =>
    intro path entries inside
    cases inside with
    | onward taken _ => cases taken

end Value

/-- **Numbers are the same if they have the same bits.** All that are not numbers are one here. -/
theorem toBits_inj {number other : Float} : number.toBits = other.toBits ↔ number = other := by
  refine ⟨fun bits => ?_, congrArg Float.toBits⟩
  obtain ⟨⟨held, valid⟩⟩ := number
  obtain ⟨⟨held', valid'⟩⟩ := other
  obtain rfl : held = held' := bits
  rfl

/-- A list stays as it is if each of its items does. -/
theorem map_eq_self {α : Type} {change : α → α} {items : List α}
    (same : ∀ item ∈ items, change item = item) : items.map change = items :=
  (List.map_congr_left same).trans (List.map_id items)

namespace Literal

/-- **Folding what is read back gives the value.** -/
theorem fold_asLiteral {value : Value} (distinct : value.Distinct) : value.asLiteral.fold = value := by
  induction value using Value.induction with
  | list items ih =>
    have inner := (Value.distinctItems_iff items).1 distinct
    have each : (items.map Value.asLiteral).map fold = items := by
      rw [List.map_map]
      exact map_eq_self fun item h => ih item h (inner item h)
    rw [Value.asLiteral, fold, foldItems_eq_map, Value.asLiterals_eq_map, each]
  | object entries ih =>
    obtain ⟨nodup, held⟩ := distinct
    have inner := (Value.distinctEntries_iff entries).1 held
    have each : foldEntries (Value.asLiteralEntries entries) = entries := by
      rw [foldEntries_eq_map, Value.asLiteralEntries_eq_map, List.map_map]
      exact map_eq_self fun entry h => Prod.ext rfl (ih entry h (inner entry h))
    rw [Value.asLiteral, fold, each, Value.ofEntries, Entries.ofList_of_nodup nodup]
  | _ => rfl

/-- **Reading back what is folded gives the literal, if no object repeats a name.** -/
theorem asLiteral_fold {literal : Literal} (distinct : literal.Distinct) :
    literal.fold.asLiteral = literal := by
  induction literal using Literal.induction with
  | list items ih =>
    have inner := distinct_list_iff.1 distinct
    have each : (items.map fold).map Value.asLiteral = items := by
      rw [List.map_map]
      exact map_eq_self fun item h => ih item h (inner item h)
    rw [fold, Value.asLiteral, foldItems_eq_map, Value.asLiterals_eq_map, each]
  | object entries ih =>
    obtain ⟨nodup, inner⟩ := distinct_object_iff.1 distinct
    have each : Value.asLiteralEntries (foldEntries entries) = entries := by
      rw [foldEntries_eq_map, Value.asLiteralEntries_eq_map, List.map_map]
      exact map_eq_self fun entry h => Prod.ext rfl (ih entry h (inner entry h))
    have kept : (Entries.names (foldEntries entries)).Nodup := by
      rwa [foldEntries_eq_map, Entries.names_map]
    rw [fold, Value.ofEntries, Entries.ofList_of_nodup kept, Value.asLiteral, each]
  | _ => rfl

/-- **What is folded and read back is the literal if and only if no object repeats a name.** -/
theorem asLiteral_fold_iff {literal : Literal} :
    literal.fold.asLiteral = literal ↔ literal.Distinct := by
  constructor
  · intro same
    rw [← same]
    exact Value.distinct_asLiteral literal.fold_distinct
  · exact asLiteral_fold

/-! ## Folding as a whole -/

/-- **Folding settles repetitions, and does nothing else.** Wherever there is an object in a folded
literal, it comes from the object literal that counts there: names are there once and in the order in which
they come first, each with the fold of its last entry. Folding what is read back from a value gives that
value, and reading back what is folded gives the literal exactly if no object repeats a name at any depth.

Numbers are the same here if they have the same bits (`toBits_inj`), so that zeros of different signs are
told apart. But all NaNs are one number here: nothing is said of the payloads of NaNs.

**Proof sketch.** Paths into the value are followed by paths into the literal that take last entries
(`at_fold_iff`), at the ends of which an object settles an object literal (`fold_eq_object_iff`). The rest
is by induction on values and on literals. -/
theorem fold_settles :
    (∀ (literal : Literal) path held, literal.fold.At path (.object held) ↔
      ∃ entries, literal.Counts path (.object entries) ∧ Settles entries held) ∧
    (∀ value : Value, value.Distinct → value.asLiteral.fold = value) ∧
    ∀ literal : Literal, literal.fold.asLiteral = literal ↔ literal.Distinct := by
  refine ⟨fun literal path held => ?_, fun value => fold_asLiteral, fun literal => asLiteral_fold_iff⟩
  rw [at_fold_iff]
  simp only [fold_eq_object_iff]
  constructor
  · rintro ⟨-, counts, entries, rfl, settles⟩
    exact ⟨entries, counts, settles⟩
  · rintro ⟨entries, counts, settles⟩
    exact ⟨.object entries, counts, entries, rfl, settles⟩

/-- An object that repeats a name, in what is repeated and in what is not. -/
def repeatedNames : Literal :=
  .object [("a", .object [("x", .int 1), ("x", .int 2)]), ("b", .list [.object [("y", .null),
    ("z", .enum "RED"), ("y", .boolean true)]]), ("a", .int 3)]

/-- What it is folded to. -/
def settledNames : Value :=
  .object [("a", .int 3), ("b", .list [.object [("y", .boolean true), ("z", .enum "RED")]])]

/-- Names that are repeated inside of a list are settled there, and what is dropped with its repetitions
is not there at all. The value is read back as another literal, which is folded to it again. -/
theorem fold_settles_repeatedNames :
    repeatedNames.fold = settledNames ∧ settledNames.Distinct ∧
    (∃ entries, repeatedNames.Counts [.entry "b", .item 0] (.object entries) ∧
      Settles entries [("y", .boolean true), ("z", .enum "RED")]) ∧
    settledNames.asLiteral.fold = settledNames ∧ ¬ repeatedNames.Distinct ∧
    repeatedNames.fold.asLiteral ≠ repeatedNames := by
  obtain ⟨settles, back, whole⟩ := fold_settles
  have folded : repeatedNames.fold = settledNames := rfl
  have distinct : settledNames.Distinct := folded ▸ fold_distinct repeatedNames
  have inside : repeatedNames.fold.At [.entry "b", .item 0]
      (.object [("y", .boolean true), ("z", .enum "RED")]) :=
    .onward (.entry rfl) (.onward (.item rfl) (.here _))
  have repeated : ¬ repeatedNames.Distinct := by
    intro once
    have names := once [] _ (.here _)
    exact absurd names (by decide)
  exact ⟨folded, distinct, (settles _ _ _).1 inside, back _ distinct, repeated,
    fun same => repeated ((whole _).1 same)⟩

end Literal

end SchemaAssembly
