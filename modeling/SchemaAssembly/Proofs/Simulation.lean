import SchemaAssembly.Proofs.Discipline

/-!
# The builder takes the way of the plain search

The builder keeps two caches and the names in progress; the plain search keeps one list of the names
visited. The two agree at every step if the names visited are those in progress and those kept. Then
a reference that the builder answers from a cache, or by a placeholder, is one that the search passes
over; a type that the builder starts on is one that the search visits; and whatever stops the one
stops the other.

## Main definitions

* `SchemaAssembly.Caches.Tracks` — the names visited are those in progress and those kept.

## Main results

* `SchemaAssembly.Run.search` — the plain search succeeds along every run.
* `SchemaAssembly.search_of_perform_error` — where the builder fails, the search fails at the same
  fault.
-/

set_option relaxedAutoImplicit false
set_option autoImplicit false

namespace SchemaAssembly

variable {B : Behaviours} {registry : Registry} {wiring : Wiring B}

/-- The names visited are those in progress and those kept. -/
def Caches.Tracks (caches : Caches B) (inProgress visited : List String) : Prop :=
  ∀ name, name ∈ visited ↔ name ∈ inProgress ∨ caches.Holds name

namespace Caches

variable {caches : Caches B} {inProgress visited : List String}

/-- At the start nothing is visited, in progress or kept. -/
theorem tracks_empty : (empty : Caches B).Tracks [] [] := by
  intro name
  simp [Holds]

/-- Starting on a type visits it. -/
theorem Tracks.begin (tracks : caches.Tracks inProgress visited) (name : String) :
    caches.Tracks (name :: inProgress) (visited ++ [name]) := by
  intro other
  rw [List.mem_append, tracks other, List.mem_singleton, List.mem_cons]
  constructor
  · rintro ((h | h) | h)
    · exact .inl (.inr h)
    · exact .inr h
    · exact .inl (.inl h)
  · rintro ((h | h) | h)
    · exact .inr h
    · exact .inl (.inl h)
    · exact .inl (.inr h)

/-- Keeping a type that was in progress visits nothing. -/
theorem Tracks.keep {type : GraphType B}
    (tracks : caches.Tracks (type.name :: inProgress) visited) :
    (caches.keep type).Tracks inProgress visited := by
  intro name
  rw [tracks name, List.mem_cons, holds_keep_iff]
  constructor
  · rintro ((h | h) | h)
    · exact .inr (.inl h)
    · exact .inl h
    · exact .inr (.inr h)
  · rintro (h | h | h)
    · exact .inl (.inr h)
    · exact .inl (.inl h)
    · exact .inr h

end Caches

/-- **The plain search succeeds along every run.**

**Proof sketch.** By induction on the run. What is kept is of the kind that its definition says, so
the search finds nothing wrong with it and has visited it; the same goes for what is in progress.
What is built now has not been visited, so the search visits it and goes through its demands, as the
run does, before it goes on. -/
theorem Run.search (keyed : registry.Keyed) (wired : wiring.Keyed)
    {inProgress visited : List String} {agenda : List Demand} {caches last : Caches B}
    {links : List (Place × Occurrence B)}
    (run : Run registry wiring inProgress agenda caches links last)
    (sound : caches.Sound registry inProgress) (tracks : caches.Tracks inProgress visited) :
    ∃ visited', search registry wiring visited agenda = .ok visited' ∧
      last.Tracks inProgress visited' := by
  induction run generalizing visited with
  | done => exact ⟨visited, by rw [SchemaAssembly.search], tracks⟩
  | passed onward ih =>
    rw [SchemaAssembly.search]
    exact ih sound tracks
  | kept found kept onward ih =>
    obtain ⟨definition, found', kind, placed⟩ := sound.known _ _ _ kept
    rw [search_seen found' (kind ▸ placed) ((tracks _).2 (.inr ⟨_, _, kept⟩))]
    exact ih sound tracks
  | begun found absent placed begun onward ih =>
    rw [search_seen found placed ((tracks _).2 (.inl begun))]
    exact ih sound tracks
  | @built inProgress reference _ _ _ _ _ _ built found absent placed idle made parts onward
      ihParts ih =>
    obtain ⟨new, soundStart, -, own, soundEnd⟩ :=
      sound.built keyed wired found absent placed idle made parts
    have fresh : reference.type.innermost ∉ visited := by
      rw [tracks]
      exact not_or.2 ⟨idle, new⟩
    obtain ⟨between, ok, tracks'⟩ := ihParts soundStart (tracks.begin _)
    rw [search_fresh found placed fresh, search_append, ok]
    rw [← own] at tracks'
    exact ih soundEnd tracks'.keep

/-- **Where the builder fails, the plain search fails at the same fault.**

**Proof sketch.** By induction on the names not in progress, and then along the agenda. As long as
references are built the search goes along by `Run.search`. The first one that is not built names
nothing known, or nothing that suits its place, and then it is not kept; or the builder fails at
something that the type demands, and then the search comes to that too, as it has not visited the
type. -/
theorem search_of_perform_error (keyed : registry.Keyed) (wired : wiring.Keyed)
    {inProgress visited : List String} {agenda : List Demand} {caches : Caches B}
    {fault : SchemaError}
    (failed : perform (build registry wiring inProgress) agenda caches = .error fault)
    (sound : caches.Sound registry inProgress) (tracks : caches.Tracks inProgress visited) :
    search registry wiring visited agenda = .error fault := by
  induction inProgress using registry.inProgress_induction
    generalizing agenda caches visited with
  | step inProgress outer =>
  induction agenda generalizing caches visited with
  | nil => cases failed
  | cons demand rest ih =>
    match demand with
    | .check none =>
      rw [search]
      exact ih failed sound tracks
    | .check (some fault') =>
      cases failed
      rw [search]
    | .follow reference =>
      cases h : build registry wiring inProgress reference caches with
      | ok result =>
        -- The search follows the reference as the builder does, and the fault comes later.
        obtain ⟨first, next⟩ := result
        have run : Run registry wiring inProgress [.follow reference] caches
            [(reference.place, first)] next :=
          run_of_perform (by rw [perform_follow_of_ok h]; rfl)
        obtain ⟨visited', ok, tracks'⟩ := run.search keyed wired sound tracks
        rw [perform_follow_of_ok h] at failed
        have failed' : perform (build registry wiring inProgress) rest next = .error fault := by
          cases h' : perform (build registry wiring inProgress) rest next with
          | ok result => simp [h', Except.map] at failed
          | error other => simpa [h', Except.map] using failed
        rw [← List.singleton_append, search_append, ok]
        exact ih failed' (run.sound keyed wired sound).1 tracks'
      | error other =>
        -- The reference is where the builder stops.
        rw [perform_follow_of_error h] at failed
        obtain rfl : other = fault := Except.error.inj failed
        obtain ⟨unknown, rfl⟩ | ⟨type, found, absent, ⟨misplaced, rfl⟩ | ⟨placed, idle, failed'⟩⟩ :=
          build_error_cases h
        · exact search_unknown unknown
        · exact search_misplaced found misplaced
        · have new := sound.not_holds found placed absent
          have fresh : reference.type.innermost ∉ visited := by
            rw [tracks]
            exact not_or.2 ⟨idle, new⟩
          have parts := perform_demands registry wiring
            (build registry wiring (reference.type.innermost :: inProgress)) type caches
          rw [failed'] at parts
          rw [search_fresh found placed fresh, search_append,
            outer _ type found idle parts (sound.begin new) (tracks.begin _)]
          rfl

end SchemaAssembly
