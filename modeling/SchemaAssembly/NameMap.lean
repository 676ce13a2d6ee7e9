/-!
# Maps from names, in the order of first insertion

Definitions, wirings and objects are all looked up by name and all listed in the order in which
their names first appeared. Both halves are one type here. Setting a name again keeps its place
and replaces what is held under it.

## Main definitions

* `SchemaAssembly.Entries.set` — sets a name in a plain list of entries.
* `SchemaAssembly.NameMap` — a list of entries in which no name occurs twice.
* `SchemaAssembly.NameMap.set`, `update`, `extend`, `get?`, `contains` — the operations on it.
* `SchemaAssembly.NameMap.same` — equality up to the order of names.

## Main results

* `SchemaAssembly.Entries.names_set`, `lookup_set`, `nodup_set` — setting a name adds it at the
  end unless it is there, is seen by exactly that name, and keeps names distinct.
* `SchemaAssembly.NameMap.get?_set`, `names_set` — the same, for maps.
* `SchemaAssembly.NameMap.mem_entries_iff`, `contains_iff` — entries, lookups and names agree.
* `SchemaAssembly.NameMap.get?_extend` — the last entry added under a name counts.
* `SchemaAssembly.NameMap.get?_extend_entries`, `entries_extend_of_disjoint` — what a map holds that
  was extended by another.
* `SchemaAssembly.NameMap.ext_get?` — maps that list the same names and hold the same under each are
  the same.
-/

set_option relaxedAutoImplicit false
set_option autoImplicit false

namespace SchemaAssembly

/-! ## Lists of entries -/

namespace Entries

variable {α : Type}

/-- The names of a list of entries, in order. -/
def names (entries : List (String × α)) : List String := entries.map Prod.fst

/-- Sets `name` to `value`: in place where the name is held, at the end where it is not. -/
def set (name : String) (value : α) : List (String × α) → List (String × α)
  | [] => [(name, value)]
  | (other, held) :: rest =>
    if name = other then (other, value) :: rest else (other, held) :: set name value rest

/-- Sets all of `added`, one after the other. -/
def setAll (entries added : List (String × α)) : List (String × α) :=
  added.foldl (fun acc entry => set entry.1 entry.2 acc) entries

/-- The entries of a list in which a repeated name keeps its first place and its last value. -/
def ofList (entries : List (String × α)) : List (String × α) := setAll [] entries

@[simp] theorem names_nil : names ([] : List (String × α)) = [] := rfl

@[simp] theorem names_cons (entry : String × α) (rest : List (String × α)) :
    names (entry :: rest) = entry.1 :: names rest := rfl

/-- Setting a name leaves the names as they are if it is among them, and else puts it last. -/
theorem names_set (name : String) (value : α) (entries : List (String × α)) :
    names (set name value entries) =
      if name ∈ names entries then names entries else names entries ++ [name] := by
  induction entries with
  | nil => simp [set]
  | cons entry rest ih =>
    obtain ⟨other, held⟩ := entry
    by_cases h : name = other
    · simp [set, h]
    · by_cases hr : name ∈ names rest <;> simp [set, h, hr, ih]

/-- A name that was just set holds the new value, and every other name what it held. -/
theorem lookup_set (name other : String) (value : α) (entries : List (String × α)) :
    (set name value entries).lookup other =
      if other = name then some value else entries.lookup other := by
  induction entries with
  | nil =>
    cases h : other == name
    · simp [set, List.lookup_cons, h, ne_of_beq_false h]
    · simp [set, eq_of_beq h]
  | cons entry rest ih =>
    obtain ⟨key, held⟩ := entry
    by_cases h : name = key
    · subst h
      cases ho : other == name
      · simp [set, List.lookup_cons, ho, ne_of_beq_false ho]
      · simp [set, eq_of_beq ho]
    · cases hk : other == key
      · simp [set, h, List.lookup_cons, hk, ih]
      · have hn : ¬ other = name := fun e => h (e ▸ eq_of_beq hk)
        simp [set, h, List.lookup_cons, hk, hn]

/-- Setting a name that is not held puts it last. -/
theorem set_of_not_mem {name : String} {entries : List (String × α)} (h : name ∉ names entries)
    (value : α) : set name value entries = entries ++ [(name, value)] := by
  induction entries with
  | nil => rfl
  | cons entry rest ih =>
    obtain ⟨other, ofRest⟩ := not_or.1 (mt List.mem_cons.2 h)
    rw [set, if_neg other, ih ofRest, List.cons_append]

/-- Setting a name keeps names distinct. -/
theorem nodup_set {name : String} {value : α} {entries : List (String × α)}
    (h : (names entries).Nodup) : (names (set name value entries)).Nodup := by
  rw [names_set]
  split
  · exact h
  · next hn => exact List.nodup_append.2 ⟨h, by simp, by rintro a ha b hb rfl; simp_all⟩

/-- Setting many names keeps names distinct. -/
theorem nodup_setAll {entries : List (String × α)} (h : (names entries).Nodup)
    (added : List (String × α)) : (names (setAll entries added)).Nodup := by
  induction added generalizing entries with
  | nil => exact h
  | cons entry rest ih => exact ih (nodup_set h)

/-- The names of `ofList` are distinct. -/
theorem nodup_ofList (entries : List (String × α)) : (names (ofList entries)).Nodup :=
  nodup_setAll (show (names ([] : List (String × α))).Nodup from List.nodup_nil) entries

/-- What is found under a name is an entry. -/
theorem mem_of_lookup {entries : List (String × α)} {name : String} {a : α}
    (found : entries.lookup name = some a) : (name, a) ∈ entries := by
  obtain ⟨before, after, split, -⟩ := List.lookup_eq_some_iff.1 found
  simp [split]

/-- In the entries made of items, a name finds what was made of the first item of that name. -/
theorem lookup_items {β : Type} (name : β → String) (f : β → α) (items : List β) (key : String) :
    (items.map fun item => (name item, f item)).lookup key =
      (items.find? (name · = key)).map f := by
  induction items with
  | nil => rfl
  | cons item rest ih =>
    rw [List.map_cons, List.lookup_cons, List.find?_cons, ih]
    by_cases own : key = name item
    · simp [own]
    · simp [beq_false_of_ne own, Ne.symm own]

end Entries

/-! ## Maps -/

/-- A map from names that lists its entries in the order of first insertion. -/
@[ext]
structure NameMap (α : Type) where
  /-- The entries, first inserted first. -/
  entries : List (String × α)
  /-- No name is held twice. -/
  nodup : (Entries.names entries).Nodup

namespace NameMap

variable {α β : Type}

/-- The map that holds nothing. -/
def empty : NameMap α := ⟨[], List.nodup_nil⟩

instance : Inhabited (NameMap α) := ⟨empty⟩

instance : EmptyCollection (NameMap α) := ⟨empty⟩

/-- The names held, in order. -/
def names (m : NameMap α) : List String := Entries.names m.entries

/-- What is held, in the order of the names. -/
def values (m : NameMap α) : List α := m.entries.map Prod.snd

/-- The number of names held. -/
def size (m : NameMap α) : Nat := m.entries.length

/-- What is held under `name`. -/
def get? (m : NameMap α) (name : String) : Option α := m.entries.lookup name

/-- Whether something is held under `name`. -/
def contains (m : NameMap α) (name : String) : Bool := (m.get? name).isSome

/-- Sets `name` to `value`; a name already held keeps its place. -/
def set (m : NameMap α) (name : String) (value : α) : NameMap α :=
  ⟨Entries.set name value m.entries, Entries.nodup_set m.nodup⟩

/-- Sets `name` to `change` of what it holds, if anything. -/
def update (m : NameMap α) (name : String) (change : Option α → α) : NameMap α :=
  m.set name (change (m.get? name))

/-- Sets every entry of `added`, one after the other. -/
def extend (m : NameMap α) (added : List (String × α)) : NameMap α :=
  ⟨Entries.setAll m.entries added, Entries.nodup_setAll m.nodup added⟩

/-- The map of a list of entries: a repeated name keeps its first place and its last value. -/
def ofList (entries : List (String × α)) : NameMap α := empty.extend entries

/-- Equality up to the order of names: as many names, and what the left map holds under a name
the right map holds under it too. -/
def same [BEq α] (m n : NameMap α) : Bool :=
  m.size == n.size &&
    m.entries.all fun entry => (n.get? entry.1).any fun held => entry.2 == held

instance [BEq α] : BEq (NameMap α) := ⟨same⟩

@[simp] theorem get?_empty (name : String) : (empty : NameMap α).get? name = none := rfl

@[simp] theorem names_empty : (empty : NameMap α).names = [] := rfl

/-- Under the name of the first entry that entry is held, and under others what the others hold. -/
theorem get?_cons {key : String} {a : α} {rest : List (String × α)}
    (nodup : (Entries.names ((key, a) :: rest)).Nodup) (name : String) :
    (⟨(key, a) :: rest, nodup⟩ : NameMap α).get? name =
      if name = key then some a
      else (⟨rest, (List.nodup_cons.1 nodup).2⟩ : NameMap α).get? name := by
  by_cases own : name = key
  · simp [get?, own]
  · simp [get?, own, List.lookup_cons, beq_false_of_ne own]

/-- The name of the first entry comes first. -/
theorem names_cons {key : String} {a : α} {rest : List (String × α)}
    (nodup : (Entries.names ((key, a) :: rest)).Nodup) :
    (⟨(key, a) :: rest, nodup⟩ : NameMap α).names =
      key :: (⟨rest, (List.nodup_cons.1 nodup).2⟩ : NameMap α).names := rfl

/-- A name that was just set holds the new value, and every other name what it held. -/
@[simp] theorem get?_set (m : NameMap α) (name other : String) (value : α) :
    (m.set name value).get? other = if other = name then some value else m.get? other :=
  Entries.lookup_set name other value m.entries

/-- Setting a name leaves the names as they are if it is among them, and else puts it last. -/
theorem names_set (m : NameMap α) (name : String) (value : α) :
    (m.set name value).names = if name ∈ m.names then m.names else m.names ++ [name] :=
  Entries.names_set name value m.entries

/-- A name under which something is held is among the names. -/
theorem mem_names_of_get? {m : NameMap α} {name : String} {a : α}
    (h : m.get? name = some a) : name ∈ m.names :=
  List.mem_map_of_mem (Entries.mem_of_lookup h)

/-- Nothing is held under a name that is not among the names. -/
theorem get?_of_not_mem {m : NameMap α} {name : String} (h : name ∉ m.names) :
    m.get? name = none :=
  Option.eq_none_iff_forall_ne_some.2 fun _ held => h (mem_names_of_get? held)

/-- What is held under a name is an entry, and the other way round. -/
theorem mem_entries_iff {m : NameMap α} {key : String} {a : α} :
    (key, a) ∈ m.entries ↔ m.get? key = some a := by
  obtain ⟨entries, nodup⟩ := m
  simp only [get?]
  induction entries with
  | nil => simp
  | cons entry rest ih =>
    obtain ⟨other, held⟩ := entry
    have hn := List.nodup_cons.1 nodup
    rw [List.mem_cons, ih hn.2, List.lookup_cons]
    cases hk : key == other with
    | false => simp [ne_of_beq_false hk]
    | true =>
      obtain rfl := eq_of_beq hk
      have : rest.lookup key ≠ some a := fun h =>
        hn.1 (List.mem_map.2 ⟨(key, a), (ih hn.2).2 h, rfl⟩)
      simp [this, eq_comm]

/-- A map that was extended holds the last entry added under a name, or else what it held. -/
theorem get?_extend (m : NameMap α) (added : List (String × α)) (key : String) :
    (m.extend added).get? key = (added.reverse.lookup key).or (m.get? key) := by
  simp only [get?, extend]
  generalize m.entries = entries
  induction added generalizing entries with
  | nil => simp [Entries.setAll]
  | cons entry rest ih =>
    have hs : Entries.setAll entries (entry :: rest) =
        Entries.setAll (Entries.set entry.1 entry.2 entries) rest := rfl
    obtain ⟨added, value⟩ := entry
    rw [hs, ih, Entries.lookup_set, List.reverse_cons, List.lookup_append, Option.or_assoc]
    by_cases hk : key = added
    · simp [hk]
    · simp [hk, List.lookup_cons, beq_false_of_ne hk]

/-- A map that was extended by another holds what that holds under a name, or else what it held. -/
theorem get?_extend_entries (m n : NameMap α) (key : String) :
    (m.extend n.entries).get? key = (n.get? key).or (m.get? key) := by
  have nodup : (Entries.names n.entries.reverse).Nodup := by
    unfold Entries.names
    rw [List.map_reverse]
    exact (List.reverse_perm _).nodup_iff.2 n.nodup
  have turned : n.entries.reverse.lookup key = n.get? key := by
    refine Option.ext fun a => ?_
    rw [← mem_entries_iff, ← List.mem_reverse]
    exact (mem_entries_iff (m := ⟨n.entries.reverse, nodup⟩)).symm
  rw [get?_extend, turned]

/-- A map that was extended by another of other names lists the entries of both. -/
theorem entries_extend_of_disjoint {m n : NameMap α} (apart : ∀ name ∈ n.names, name ∉ m.names) :
    (m.extend n.entries).entries = m.entries ++ n.entries := by
  obtain ⟨entries, nodup⟩ := m
  obtain ⟨added, distinct⟩ := n
  dsimp only [extend, names] at *
  induction added generalizing entries with
  | nil => simp [Entries.setAll]
  | cons entry rest ih =>
    obtain ⟨first, others⟩ := List.nodup_cons.1 distinct
    obtain ⟨new, newRest⟩ := List.forall_mem_cons.1 apart
    have step : Entries.setAll entries (entry :: rest) =
        Entries.setAll (entries ++ [entry]) rest := by
      rw [← Entries.set_of_not_mem new]
      rfl
    rw [step, ih _ (Entries.set_of_not_mem new entry.2 ▸ Entries.nodup_set nodup) others,
      List.append_assoc, List.singleton_append]
    intro name h
    simp only [Entries.names, List.map_append, List.mem_append, List.map_cons, List.map_nil,
      List.mem_singleton, not_or]
    exact ⟨newRest name h, fun own => first (own ▸ h)⟩

/-- Maps that list the same names and hold the same under each are the same. -/
theorem ext_get? {m n : NameMap α} (names : m.names = n.names)
    (held : ∀ name, m.get? name = n.get? name) : m = n := by
  obtain ⟨entries, nodup⟩ := m
  obtain ⟨entries', nodup'⟩ := n
  refine NameMap.ext ?_
  dsimp only [NameMap.names, NameMap.get?, Entries.names] at *
  induction entries generalizing entries' with
  | nil => exact (List.map_eq_nil_iff.1 names.symm).symm
  | cons entry rest ih =>
    obtain ⟨⟨key, a⟩, rest', rfl, same, others⟩ := List.map_eq_cons_iff.1 names.symm
    obtain ⟨key', b⟩ := entry
    obtain rfl : key = key' := same
    obtain ⟨fresh, distinct⟩ := List.nodup_cons.1 nodup
    obtain ⟨fresh', distinct'⟩ := List.nodup_cons.1 nodup'
    have first := held key
    rw [List.lookup_cons_self, List.lookup_cons_self, Option.some.injEq] at first
    rw [first, ih distinct _ distinct' others.symm fun name => ?_]
    by_cases own : name = key
    · subst own
      have absent : rest.lookup name = none := get?_of_not_mem (m := ⟨rest, distinct⟩) fresh
      have absent' : rest'.lookup name = none := get?_of_not_mem (m := ⟨rest', distinct'⟩) fresh'
      rw [absent, absent']
    · simpa [List.lookup_cons, beq_false_of_ne own] using held name

/-- Something is held under exactly the names of a map. -/
theorem contains_iff {m : NameMap α} {name : String} :
    m.contains name = true ↔ name ∈ m.names := by
  constructor
  · intro h
    obtain ⟨a, ha⟩ := Option.isSome_iff_exists.1 h
    exact mem_names_of_get? ha
  · intro h
    obtain ⟨⟨key, a⟩, ha, rfl⟩ := List.mem_map.1 h
    exact Option.isSome_iff_exists.2 ⟨a, mem_entries_iff.1 ha⟩

/-- Nothing is held under exactly the names that are not those of a map. -/
theorem get?_eq_none_iff {m : NameMap α} {name : String} :
    m.get? name = none ↔ name ∉ m.names := by
  rw [← contains_iff, contains, Option.not_isSome_iff_eq_none]

/-- What is held under the first name comes first. -/
theorem head?_values {m : NameMap α} {name : String} {a : α}
    (first : m.names.head? = some name) (h : m.get? name = some a) :
    m.values.head? = some a := by
  obtain ⟨entries, nodup⟩ := m
  cases entries with
  | nil => cases first
  | cons entry rest =>
    obtain ⟨key, held⟩ := entry
    obtain rfl : key = name := Option.some.inj first
    simpa [get?, values] using h

end NameMap

end SchemaAssembly
