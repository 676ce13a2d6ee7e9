import Mathlib.Order.WellFoundedSet
import SchemaAssembly.Proofs.Collection

/-!
# Collecting goes depth first

Types may be collected from any roots, be they assembled or made by hand. They hold other types, so that
a root is a tree; but two types in it may have one name, and then the collection takes the one that it
comes to first and passes over the other with all that it holds. What is met at all depends on what is
taken, and that on what was met before.

Where a type stands in the tree is told by the path to it, a list of indices, and depth first is the
lexicographic order of paths. With that the collection can be described without following it
(`Foremost`): a visit is kept if it is met, being that of a root or of a type that a kept one holds, and
nothing of its name is met along a smaller path. Although the description refers to itself, there is only
one list of visits that fits it. The collection gives that list. It is an induction over what is due to be
visited, for any names that have been seen before (`Collects`); a visit that is due is ahead of the next
ones, with all that lies below it.

## Main definitions

* `SchemaAssembly.Ahead` — a path comes before another with all that lies below it.
* `SchemaAssembly.Visit` — a type with the path to it.
* `SchemaAssembly.Met` — what is met where some visits are due and others are kept.
* `SchemaAssembly.Foremost` — the first visits of their names.
* `SchemaAssembly.Collects` — what is kept where some names have been seen.

## Main results

* `SchemaAssembly.Foremost.unique` — there is one list of first visits.
* `SchemaAssembly.Collects.pass`, `Collects.keep` — one step of collecting.
* `SchemaAssembly.due_induction` — visits may be gone through depth first.
* `SchemaAssembly.exists_collects` — what is collected, visit by visit.
-/

set_option relaxedAutoImplicit false
set_option autoImplicit false

namespace SchemaAssembly

variable {B : Behaviours}

/-! ## Paths -/

/-- **A path is ahead of another one** if all that lies below it comes before the other. -/
def Ahead (path later : List Nat) : Prop := ∀ below, path ++ below < later

/-- What lies below a path comes after it. -/
theorem lt_append_cons (path : List Nat) (index : Nat) (below : List Nat) :
    path < path ++ index :: below := by
  have below_path : path ++ [] < path ++ index :: below :=
    List.append_left_lt (List.nil_lt_cons index below)
  rwa [List.append_nil] at below_path

namespace Ahead

variable {path later : List Nat}

/-- A path that is ahead comes first. -/
theorem lt (ahead : Ahead path later) : path < later := by
  simpa using ahead []

/-- What lies below a path is ahead if the path is. -/
theorem append (ahead : Ahead path later) (below : List Nat) : Ahead (path ++ below) later := by
  intro further
  rw [List.append_assoc]
  exact ahead (below ++ further)

/-- Of two paths that part at their ends the one of the smaller index is ahead. -/
theorem of_index_lt (path : List Nat) {index index' : Nat} (less : index < index') :
    Ahead (path ++ [index]) (path ++ [index']) := by
  intro below
  rw [List.append_assoc]
  apply List.append_left_lt
  exact List.cons_lt_cons_iff.2 (.inl less)

end Ahead

/-! ## Visits -/

/-- A type that is visited, with the path to it: the index of a root, and then for every step the index
among the types that are held. -/
structure Visit (B : Behaviours) where
  /-- The path to the type. -/
  path : List Nat
  /-- The type. -/
  type : GraphType B

/-- The types that a type holds, in the order of its references. -/
def NamedType.heldTypes (type : GraphType B) : List (GraphType B) :=
  type.references.filterMap Occurrence.held?

/-- The visits of types that lie directly below a path. -/
def visitsBelow (path : List Nat) (types : List (GraphType B)) : List (Visit B) :=
  types.mapIdx fun index type => ⟨path ++ [index], type⟩

/-- The visits of what a visited type holds. -/
def Visit.below (visit : Visit B) : List (Visit B) := visitsBelow visit.path visit.type.heldTypes

/-- **What is met** where some visits are due and others are kept: those that are due, and those of what a
kept one holds. -/
def Met (due kept : List (Visit B)) (visit : Visit B) : Prop :=
  visit ∈ due ∨ ∃ parent ∈ kept, visit ∈ parent.below

/-- **Visits are the first ones of their names**, in depth-first order, where some are due. They ascend by
their paths, and a visit is one of them exactly if it is met and nothing of its name was met before. Only
what they hold is met, so that a type of a name that was met before hides what it holds. -/
structure Foremost (due kept : List (Visit B)) : Prop where
  /-- Visits are kept along ascending paths. -/
  inOrder : kept.Pairwise fun visit later => visit.path < later.path
  /-- Those are kept that are met and of whose name nothing is met before. -/
  first : ∀ visit, visit ∈ kept ↔ Met due kept visit ∧
    ∀ earlier, Met due kept earlier → earlier.path < visit.path →
      earlier.type.name ≠ visit.type.name

/-- The visits below a path are those of its types at their indices. -/
theorem mem_visitsBelow_iff {path : List Nat} {types : List (GraphType B)} {visit : Visit B} :
    visit ∈ visitsBelow path types ↔
      ∃ index, types[index]? = some visit.type ∧ visit.path = path ++ [index] := by
  rw [visitsBelow, List.mem_mapIdx]
  constructor
  · rintro ⟨index, inside, rfl⟩
    exact ⟨index, List.getElem?_eq_getElem inside, rfl⟩
  · rintro ⟨index, here, there⟩
    obtain ⟨inside, own⟩ := List.getElem?_eq_some_iff.1 here
    refine ⟨index, inside, ?_⟩
    rw [own, ← there]

/-- The visits below a path are those of the types, in order. -/
theorem map_type_visitsBelow (path : List Nat) (types : List (GraphType B)) :
    (visitsBelow path types).map Visit.type = types := by
  apply List.ext_getElem?
  intro index
  rw [List.getElem?_map, visitsBelow, List.getElem?_mapIdx, Option.map_map]
  exact Option.map_id'

/-- Each visit below a path is ahead of the next ones. -/
theorem pairwise_visitsBelow (path : List Nat) (types : List (GraphType B)) :
    (visitsBelow path types).Pairwise fun visit later => Ahead visit.path later.path := by
  rw [List.pairwise_iff_getElem]
  intro index index' _ _ less
  simp only [visitsBelow, List.getElem_mapIdx]
  exact .of_index_lt path less

/-- Visits that are ahead of the next ones are so if one of them gives way to those below it. -/
theorem pairwise_below_append {visit : Visit B} {rest : List (Visit B)}
    (apart : (visit :: rest).Pairwise fun visit later => Ahead visit.path later.path) :
    (visit.below ++ rest).Pairwise fun visit later => Ahead visit.path later.path := by
  obtain ⟨ahead, others⟩ := List.pairwise_cons.1 apart
  refine List.pairwise_append.2 ⟨pairwise_visitsBelow _ _, others, fun inner h later h' => ?_⟩
  obtain ⟨index, -, path⟩ := mem_visitsBelow_iff.1 h
  rw [path]
  exact (ahead later h').append [index]

/-- What a visited type holds comes after it. -/
theorem Visit.lt_of_mem_below {parent visit : Visit B} (h : visit ∈ parent.below) :
    parent.path < visit.path := by
  obtain ⟨index, -, path⟩ := mem_visitsBelow_iff.1 h
  rw [path]
  exact lt_append_cons parent.path index []

/-- One more visit that is due is met, and nothing else. -/
theorem met_cons_iff {due kept : List (Visit B)} {visit other : Visit B} :
    Met (visit :: due) kept other ↔ other = visit ∨ Met due kept other := by
  rw [Met, Met, List.mem_cons, or_assoc]

/-- If a visit that is due is kept, then it is met, and else what is met if those below it are due. -/
theorem met_cons_cons_iff {due kept : List (Visit B)} {visit other : Visit B} :
    Met (visit :: due) (visit :: kept) other ↔
      other = visit ∨ Met (visit.below ++ due) kept other := by
  simp only [Met, List.mem_cons, List.mem_append, or_and_right, exists_or, exists_eq_left]
  tauto

/-! ## The first visits are unique -/

namespace Foremost

variable {due kept kept' : List (Visit B)} {visit : Visit B}

/-- What is met depends on what is kept before it. -/
theorem met_of_agree
    (agree : ∀ other, other.path < visit.path → (other ∈ kept ↔ other ∈ kept'))
    (met : Met due kept visit) : Met due kept' visit := by
  rcases met with h | ⟨parent, held, h⟩
  · exact .inl h
  · exact .inr ⟨parent, (agree parent (Visit.lt_of_mem_below h)).1 held, h⟩

/-- What is kept depends on what is kept before it. -/
theorem mem_of_agree (foremost : Foremost due kept) (foremost' : Foremost due kept')
    (agree : ∀ other, other.path < visit.path → (other ∈ kept ↔ other ∈ kept'))
    (h : visit ∈ kept) : visit ∈ kept' := by
  obtain ⟨met, first⟩ := (foremost.first visit).1 h
  refine (foremost'.first visit).2 ⟨met_of_agree agree met, fun earlier met' less => ?_⟩
  have before : ∀ other, other.path < earlier.path → (other ∈ kept' ↔ other ∈ kept) :=
    fun other less' => (agree other (List.lt_trans less' less)).symm
  exact first earlier (met_of_agree before met') less

/-- **The same visits are first**, in any two lists of them.

**Proof sketch.** Of finitely many visits, by induction along their paths: whether one is kept depends on
those kept before it. -/
theorem mem_iff_mem (foremost : Foremost due kept) (foremost' : Foremost due kept')
    (visit : Visit B) : visit ∈ kept ↔ visit ∈ kept' := by
  have order : IsStrictOrder (Visit B) fun visit later => visit.path < later.path :=
    { irrefl := fun visit => List.lt_irrefl visit.path
      trans := fun _ _ _ => List.lt_trans }
  have founded := (List.finite_toSet (kept ++ kept')).wellFoundedOn
    (r := fun visit later => visit.path < later.path)
  have outside : ∀ other, other ∉ kept ++ kept' → (other ∈ kept ↔ other ∈ kept') := by
    intro other absent
    rw [List.mem_append, not_or] at absent
    exact iff_of_false absent.1 absent.2
  by_cases among : visit ∈ kept ++ kept'
  · refine founded.induction (P := fun visit => visit ∈ kept ↔ visit ∈ kept') among fun visit _ ih => ?_
    have agree : ∀ other, other.path < visit.path → (other ∈ kept ↔ other ∈ kept') := by
      intro other less
      by_cases among : other ∈ kept ++ kept'
      · exact ih other among less
      · exact outside other among
    constructor
    · exact foremost.mem_of_agree foremost' agree
    · exact foremost'.mem_of_agree foremost fun other less => (agree other less).symm
  · exact outside visit among

/-- No visit is first twice. -/
theorem nodup (foremost : Foremost due kept) : kept.Nodup := by
  refine foremost.inOrder.imp fun less => ?_
  rintro rfl
  exact List.lt_irrefl _ less

/-- **There is one list of first visits.** -/
theorem unique (foremost : Foremost due kept) (foremost' : Foremost due kept') : kept = kept' := by
  have perm := (List.perm_ext_iff_of_nodup foremost.nodup foremost'.nodup).2
    (foremost.mem_iff_mem foremost')
  refine perm.eq_of_pairwise (fun visit later _ _ less less' => ?_) foremost.inOrder foremost'.inOrder
  exact absurd (List.lt_trans less less') (List.lt_irrefl _)

end Foremost

/-! ## Collecting step by step -/

/-- Collecting what occurrences hold is collecting the types that are held, one after the other. -/
theorem collectAll_eq_foldl (found : NameMap (GraphType B)) (occurrences : List (Occurrence B)) :
    Occurrence.collectAll found occurrences =
      (occurrences.filterMap Occurrence.held?).foldl NamedType.collect found := by
  induction occurrences generalizing found with
  | nil => exact collectAll_nil found
  | cons occurrence rest ih =>
    cases held : occurrence.held? with
    | none => rw [collectAll_cons_of_named held, ih, List.filterMap_cons_none held]
    | some type =>
      rw [collectAll_cons_of_held held, ih, List.filterMap_cons_some held, List.foldl_cons]

/-- **The visits that are kept** where names have been seen and visits are due. -/
structure Collects (seen : List String) (due kept : List (Visit B)) : Prop where
  /-- Visits are kept along ascending paths. -/
  inOrder : kept.Pairwise fun visit later => visit.path < later.path
  /-- Those are kept that are met and of whose name nothing has been seen or met before. -/
  first : ∀ visit, visit ∈ kept ↔ Met due kept visit ∧ visit.type.name ∉ seen ∧
    ∀ earlier, Met due kept earlier → earlier.path < visit.path →
      earlier.type.name ≠ visit.type.name
  /-- Of every name that is met something has been seen or is kept. -/
  covered : ∀ visit, Met due kept visit →
    visit.type.name ∈ seen ∨ ∃ other ∈ kept, other.type.name = visit.type.name

namespace Collects

variable {seen : List String} {due rest kept : List (Visit B)} {visit : Visit B}

/-- Where nothing has been seen, the visits that are kept are the first ones. -/
theorem foremost (collects : Collects [] due kept) : Foremost due kept := by
  refine ⟨collects.inOrder, fun visit => ?_⟩
  simpa using collects.first visit

/-- **Induction on what is met**: what is true of all that is due, and with a visit of those below it, is
true of all that is met. -/
theorem of_due (collects : Collects seen due kept) {motive : Visit B → Prop}
    (start : ∀ visit ∈ due, motive visit)
    (step : ∀ parent, motive parent → ∀ visit ∈ parent.below, motive visit) :
    ∀ visit, Met due kept visit → motive visit := by
  intro visit met
  -- By induction on the length of the path, as what lies below a visit has a longer one.
  induction own : visit.path.length using Nat.strongRecOn generalizing visit with
  | ind size ih =>
    rcases met with h | ⟨parent, held, h⟩
    · exact start visit h
    · obtain ⟨index, -, path⟩ := mem_visitsBelow_iff.1 h
      have shorter : parent.path.length < size := by
        rw [← own, path, List.length_append, List.length_singleton]
        omega
      have before := ih _ shorter parent ((collects.first parent).1 held).1 rfl
      exact step parent before visit h

/-- What lies below a visit is met after it, and so is what is due later. -/
theorem lt_of_met (collects : Collects seen (visit.below ++ rest) kept)
    (ahead : ∀ later ∈ rest, Ahead visit.path later.path) :
    ∀ other, Met (visit.below ++ rest) kept other → visit.path < other.path := by
  refine collects.of_due (fun other due => ?_) fun parent less other h => ?_
  · rcases List.mem_append.1 due with h | h
    · exact Visit.lt_of_mem_below h
    · exact (ahead other h).lt
  · exact List.lt_trans less (Visit.lt_of_mem_below h)

/-- **A name that has been seen is passed over.** -/
theorem pass (collects : Collects seen rest kept) (known : visit.type.name ∈ seen) :
    Collects seen (visit :: rest) kept := by
  refine ⟨collects.inOrder, fun other => ?_, fun other h => ?_⟩
  · rw [collects.first, met_cons_iff]
    constructor
    · rintro ⟨h, new, first⟩
      refine ⟨.inr h, new, fun earlier before less => ?_⟩
      rcases met_cons_iff.1 before with rfl | before
      · exact fun same => new (same ▸ known)
      · exact first earlier before less
    · rintro ⟨rfl | h, new, first⟩
      · exact absurd known new
      · exact ⟨h, new, fun earlier before => first earlier (met_cons_iff.2 (.inr before))⟩
  · rcases met_cons_iff.1 h with rfl | h
    · exact .inl known
    · exact collects.covered other h

/-- **A new name is kept**, and what it holds is due before the rest. -/
theorem keep (collects : Collects (seen ++ [visit.type.name]) (visit.below ++ rest) kept)
    (new : visit.type.name ∉ seen) (ahead : ∀ later ∈ rest, Ahead visit.path later.path) :
    Collects seen (visit :: rest) (visit :: kept) := by
  have after := collects.lt_of_met ahead
  have fresh : ∀ name, name ∉ seen ++ [visit.type.name] ↔ name ∉ seen ∧ visit.type.name ≠ name := by
    intro name
    rw [List.mem_append, List.mem_singleton, not_or, ne_comm]
  refine ⟨?_, fun other => ?_, fun other h => ?_⟩
  · exact .cons (fun other h => after other ((collects.first other).1 h).1) collects.inOrder
  · rw [List.mem_cons, collects.first, met_cons_cons_iff, fresh]
    constructor
    · rintro (rfl | ⟨h, ⟨unseen, differs⟩, first⟩)
      · refine ⟨.inl rfl, new, fun earlier before less => ?_⟩
        rcases met_cons_cons_iff.1 before with rfl | before
        · exact absurd less (List.lt_irrefl _)
        · exact absurd (List.lt_trans less (after earlier before)) (List.lt_irrefl _)
      · refine ⟨.inr h, unseen, fun earlier before less => ?_⟩
        rcases met_cons_cons_iff.1 before with rfl | before
        · exact differs
        · exact first earlier before less
    · rintro ⟨rfl | h, unseen, first⟩
      · exact .inl rfl
      · have differs := first visit (met_cons_cons_iff.2 (.inl rfl)) (after other h)
        exact .inr ⟨h, ⟨unseen, differs⟩,
          fun earlier before => first earlier (met_cons_cons_iff.2 (.inr before))⟩
  · rcases met_cons_cons_iff.1 h with rfl | h
    · exact .inr ⟨other, List.mem_cons_self, rfl⟩
    · rcases collects.covered other h with known | ⟨same, held, named⟩
      · rcases List.mem_append.1 known with known | own
        · exact .inl known
        · exact .inr ⟨visit, List.mem_cons_self, (List.mem_singleton.1 own).symm⟩
      · exact .inr ⟨same, List.mem_cons_of_mem _ held, named⟩

end Collects

/-! ## Collecting depth first -/

/-- What occurrences hold is together no larger than they are. -/
theorem sizeOf_held_le (occurrences : List (Occurrence B)) :
    sizeOf (occurrences.filterMap Occurrence.held?) ≤ sizeOf occurrences := by
  induction occurrences with
  | nil => exact Nat.le_refl _
  | cons occurrence rest ih =>
    cases held : occurrence.held? with
    | none =>
      rw [List.filterMap_cons_none held, List.cons.sizeOf_spec]
      omega
    | some type =>
      have smaller := Occurrence.sizeOf_held?_lt held
      rw [List.filterMap_cons_some held, List.cons.sizeOf_spec, List.cons.sizeOf_spec]
      omega

/-- What a type holds is together smaller than it. -/
theorem NamedType.sizeOf_heldTypes_lt (type : GraphType B) : sizeOf type.heldTypes < sizeOf type :=
  Nat.lt_of_le_of_lt (sizeOf_held_le type.references) type.sizeOf_references_lt

/-- **Visits may be gone through depth first**: what is to be proved of visits that are due may be assumed
of the rest, and of the rest after what the first one holds. -/
theorem due_induction {motive : List (Visit B) → Prop} (done : motive [])
    (step : ∀ visit rest, motive rest → motive (visit.below ++ rest) → motive (visit :: rest))
    (due : List (Visit B)) : motive due := by
  induction own : sizeOf (due.map Visit.type) using Nat.strongRecOn generalizing due with
  | ind size ih =>
    cases due with
    | nil => exact done
    | cons visit rest =>
      have less := visit.type.sizeOf_heldTypes_lt
      have parts := NamedType.sizeOf_append visit.type.heldTypes (rest.map Visit.type)
      have next : (visit.below ++ rest).map Visit.type =
          visit.type.heldTypes ++ rest.map Visit.type := by
        rw [List.map_append, Visit.below, map_type_visitsBelow]
      rw [List.map_cons, List.cons.sizeOf_spec] at own
      apply step
      · exact ih _ (by omega) rest rfl
      · exact ih _ (by rw [next]; omega) _ rfl

/-- **What is collected, visit by visit.** Where visits are due of which each is ahead of the next ones,
collecting them adds the types of those that are kept, each under its name.

**Proof sketch.** By depth-first induction on what is due. A name that was collected before is passed over;
a new one is added at the end, and what its type holds is due before the rest. -/
theorem exists_collects (due : List (Visit B))
    (apart : due.Pairwise fun visit later => Ahead visit.path later.path)
    (found : NameMap (GraphType B)) :
    ∃ kept : List (Visit B), Collects found.names due kept ∧
      ((due.map Visit.type).foldl NamedType.collect found).entries =
        found.entries ++ kept.map fun visit => (visit.type.name, visit.type) := by
  induction due using due_induction generalizing found with
  | done =>
    have none : ∀ visit, ¬ Met ([] : List (Visit B)) [] visit := by simp [Met]
    refine ⟨[], ⟨.nil, fun visit => ?_, fun visit h => absurd h (none visit)⟩, by simp⟩
    simp [none]
  | step visit rest ihRest ihBelow =>
    obtain ⟨ahead, others⟩ := List.pairwise_cons.1 apart
    rw [List.map_cons, List.foldl_cons]
    by_cases known : visit.type.name ∈ found.names
    · obtain ⟨kept, collects, entries⟩ := ihRest others found
      rw [collect_of_mem known]
      exact ⟨kept, collects.pass known, entries⟩
    · have names : (found.set visit.type.name visit.type).names = found.names ++ [visit.type.name] := by
        rw [NameMap.names_set, if_neg known]
      have last : (found.set visit.type.name visit.type).entries =
          found.entries ++ [(visit.type.name, visit.type)] := Entries.set_of_not_mem known _
      obtain ⟨kept, collects, entries⟩ := ihBelow (pairwise_below_append apart)
        (found.set visit.type.name visit.type)
      rw [names] at collects
      refine ⟨visit :: kept, collects.keep known ahead, ?_⟩
      rw [collect_of_not_mem known, NamedType.map_snd_placed, collectAll_eq_foldl]
      rw [List.map_append, List.foldl_append, Visit.below, map_type_visitsBelow, last,
        List.append_assoc] at entries
      exact entries

end SchemaAssembly
