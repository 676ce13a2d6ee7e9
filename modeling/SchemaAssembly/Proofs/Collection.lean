import SchemaAssembly.Proofs.Simulation

/-!
# Collecting follows the run

A graph is collected from finished root types, by following what their occurrences hold. The runs
that built these types are long over, and their placeholders are not followed. Still the collection
takes the same way: it comes to a type for the first time just where the run built it, so that it
lists the names that the plain search visits, in the same order, and under each name the type that
was kept.

## Main definitions

* `SchemaAssembly.Caches.Agrees` — what is kept is what was collected.

## Main results

* `SchemaAssembly.Run.collect` — what a run returns is collected along the plain search.
-/

set_option relaxedAutoImplicit false
set_option autoImplicit false

namespace SchemaAssembly

variable {B : Behaviours} {registry : Registry} {wiring : Wiring B}

/-! ## Steps of collecting -/

section Steps

variable {found : NameMap (GraphType B)} {type : GraphType B}

/-- A type whose name was collected before is passed over. -/
theorem collect_of_mem (h : type.name ∈ found.names) : type.collect found = found := by
  rw [NamedType.collect, if_pos (NameMap.contains_iff.2 h)]

/-- A new type is collected, and then all that it holds. -/
theorem collect_of_not_mem (h : type.name ∉ found.names) :
    type.collect found =
      Occurrence.collectAll (found.set type.name type) (type.placed.map Prod.snd) := by
  rw [NamedType.collect, if_neg (mt NameMap.contains_iff.1 h), NamedType.map_snd_placed]

/-- Nothing is collected from no occurrences. -/
theorem collectAll_nil (found : NameMap (GraphType B)) :
    Occurrence.collectAll found [] = found := by
  rw [Occurrence.collectAll]

/-- What an occurrence holds is collected before the rest. -/
theorem collectAll_cons_of_held {occurrence : Occurrence B} (h : occurrence.held? = some type)
    (rest : List (Occurrence B)) :
    Occurrence.collectAll found (occurrence :: rest) =
      Occurrence.collectAll (type.collect found) rest := by
  rw [Occurrence.collectAll]
  split <;> simp_all

/-- An occurrence that holds nothing is passed over. -/
theorem collectAll_cons_of_named {occurrence : Occurrence B} (h : occurrence.held? = none)
    (rest : List (Occurrence B)) :
    Occurrence.collectAll found (occurrence :: rest) = Occurrence.collectAll found rest := by
  rw [Occurrence.collectAll]
  split <;> simp_all

/-- Collecting types one after the other is collecting bare occurrences of them. -/
theorem collectAll_concrete (found : NameMap (GraphType B)) (types : List (GraphType B)) :
    Occurrence.collectAll found (types.map .concrete) = types.foldl NamedType.collect found := by
  induction types generalizing found with
  | nil => exact collectAll_nil found
  | cons type rest ih =>
    have held : (Occurrence.concrete type).held? = some type := rfl
    rw [List.map_cons, collectAll_cons_of_held held, ih, List.foldl_cons]

end Steps

/-! ## Collecting along a run -/

/-- What is kept is what was collected under that name. -/
def Caches.Agrees (caches : Caches B) (found : NameMap (GraphType B)) : Prop :=
  ∀ place name type, caches.find? place name = some type → found.get? name = some type

/-- What is kept when a type is finished agrees with what was collected, if that type was. -/
theorem Caches.Agrees.keep {caches : Caches B} {found : NameMap (GraphType B)}
    (agrees : caches.Agrees found) {type : GraphType B}
    (collected : found.get? type.name = some type) : (caches.keep type).Agrees found := by
  intro place name kept h
  rw [find?_keep] at h
  split at h
  · next own => rw [← Option.some.inj h, own.1, collected]
  · exact agrees place name kept h

/-- **What a run returns is collected along the plain search.** If the names collected are those in
progress and those kept, then collecting what the run returned adds the names that the search
visits, in order; all that is kept then was collected, and nothing collected before has changed.

**Proof sketch.** By induction on the run. What is used again was collected before, and a
placeholder is not followed; neither adds a name. A type built now has a new name: it is collected
first, and then, along the run through its demands, all that it refers to. -/
theorem Run.collect (keyed : registry.Keyed) (wired : wiring.Keyed)
    {inProgress : List String} {agenda : List Demand} {caches last : Caches B}
    {links : List (Place × Occurrence B)}
    (run : Run registry wiring inProgress agenda caches links last)
    {found : NameMap (GraphType B)} (sound : caches.Sound registry inProgress)
    (tracks : caches.Tracks inProgress found.names) (agrees : caches.Agrees found) :
    SchemaAssembly.search registry wiring found.names agenda =
        .ok (Occurrence.collectAll found (links.map Prod.snd)).names ∧
      last.Tracks inProgress (Occurrence.collectAll found (links.map Prod.snd)).names ∧
      last.Agrees (Occurrence.collectAll found (links.map Prod.snd)) ∧
      ∀ name type, found.get? name = some type →
        (Occurrence.collectAll found (links.map Prod.snd)).get? name = some type := by
  induction run generalizing found with
  | done =>
    rw [List.map_nil, collectAll_nil, SchemaAssembly.search]
    exact ⟨rfl, tracks, agrees, fun _ _ h => h⟩
  | passed onward ih =>
    rw [SchemaAssembly.search]
    exact ih sound tracks agrees
  | @kept _ _ _ _ _ _ _ built found' kept onward ih =>
    have own := sound.keyed _ _ _ kept
    have seen := (tracks _).2 (.inr ⟨_, _, kept⟩)
    obtain ⟨definition, found'', kind, placed⟩ := sound.known _ _ _ kept
    rw [List.map_cons, collectAll_cons_of_held (Occurrence.held?_wrap (.concrete built) _),
      collect_of_mem (own ▸ seen), search_seen found'' (kind ▸ placed) seen]
    exact ih sound tracks agrees
  | begun found' absent placed begun onward ih =>
    rw [List.map_cons, collectAll_cons_of_named (Occurrence.held?_wrap (.placeholder _) _),
      search_seen found' placed ((tracks _).2 (.inl begun))]
    exact ih sound tracks agrees
  | @built inProgress reference _ caches _ _ _ _ built found' absent placed idle made parts onward
      ihParts ih =>
    obtain ⟨new, soundStart, -, own, soundEnd⟩ :=
      sound.built keyed wired found' absent placed idle made parts
    have fresh : reference.type.innermost ∉ found.names := by
      rw [tracks]
      exact not_or.2 ⟨idle, new⟩
    rw [List.map_cons, collectAll_cons_of_held (Occurrence.held?_wrap (.concrete built) _),
      collect_of_not_mem (own ▸ fresh), search_fresh found' placed fresh, search_append]
    rw [← own] at fresh new ihParts soundStart ⊢
    -- The type stands in the collection before its own demands are run through.
    have names : (found.set built.name built).names = found.names ++ [built.name] := by
      rw [NameMap.names_set, if_neg fresh]
    have agrees' : caches.Agrees (found.set built.name built) := by
      intro place name kept h
      have other : name ≠ built.name := by
        rintro rfl
        exact new ⟨place, kept, h⟩
      rw [NameMap.get?_set, if_neg other]
      exact agrees place name kept h
    obtain ⟨ok, tracks', agrees'', kept'⟩ :=
      ihParts soundStart (names ▸ tracks.begin _) agrees'
    rw [← names, ok]
    obtain ⟨ok', tracks'', agrees₃, kept''⟩ :=
      ih soundEnd tracks'.keep (agrees''.keep (kept' _ _ (by simp)))
    refine ⟨ok', tracks'', agrees₃, fun name type h => kept'' _ _ (kept' _ _ ?_)⟩
    have other : name ≠ built.name := by
      rintro rfl
      exact fresh (NameMap.mem_names_of_get? h)
    rw [NameMap.get?_set, if_neg other, h]

end SchemaAssembly
