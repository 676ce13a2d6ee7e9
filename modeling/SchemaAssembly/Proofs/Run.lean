import SchemaAssembly.Proofs.Parts
import SchemaAssembly.Proofs.Search

/-!
# Runs of the builder

A successful run of the builder is a tree of steps: a check is passed, a type kept before is used
again, a type in progress is left as a placeholder, or a type is built with itself in progress and
kept. Runs are given as a relation here, so that what holds along every run can be proved by
induction on it.

## Main definitions

* `SchemaAssembly.Run` — the successful runs through an agenda.

## Main results

* `SchemaAssembly.build_ok_cases`, `build_error_cases` — the ways in which a reference is built,
  and in which it fails to be.
* `SchemaAssembly.run_of_perform` — every successful call of the builder is a run.
-/

set_option relaxedAutoImplicit false
set_option autoImplicit false

namespace SchemaAssembly

variable {B : Behaviours} {registry : Registry} {wiring : Wiring B} {σ τ : Type}

/-! ## One reference -/

section Build

variable {inProgress : List String} {reference : Reference} {caches : Caches B}

/-- A reference to an unknown name is an error. -/
theorem build_unknown (unknown : registry.find? reference.type.innermost = none) :
    build registry wiring inProgress reference caches = .error reference.unknown := by
  rw [build]
  split <;> simp_all

variable {type : TypeDefinition} (found : registry.find? reference.type.innermost = some type)

include found

/-- A type kept before is used again. -/
theorem build_kept {built : GraphType B}
    (kept : caches.find? reference.place reference.type.innermost = some built) :
    build registry wiring inProgress reference caches =
      .ok ((Occurrence.concrete built).wrap reference.type.wrappers, caches) := by
  rw [build]
  split <;> simp_all

variable (absent : caches.find? reference.place reference.type.innermost = none)

include absent

/-- A type that may not stand at the place of a reference is an error. -/
theorem build_misplaced (misplaced : reference.place.admits type.kind = false) :
    build registry wiring inProgress reference caches =
      .error (reference.place.mismatch type) := by
  rw [build]
  split <;> simp_all

variable (placed : reference.place.admits type.kind = true)

include placed

/-- A type in progress is left as a placeholder. -/
theorem build_begun (begun : reference.type.innermost ∈ inProgress) :
    build registry wiring inProgress reference caches =
      .ok ((Occurrence.placeholder reference.type.innermost).wrap reference.type.wrappers,
        caches) := by
  rw [build]
  split <;> simp_all

/-- Any other type is built with itself in progress, and kept. -/
theorem build_idle (idle : reference.type.innermost ∉ inProgress) :
    build registry wiring inProgress reference caches =
      (buildNamed registry wiring
          (build registry wiring (reference.type.innermost :: inProgress)) type caches).map
        fun result => ((Occurrence.concrete result.1).wrap reference.type.wrappers,
          result.2.keep result.1) := by
  rw [build]
  split <;> simp_all
  rfl

end Build

/-- **The ways in which a reference is built.** The type was kept before; or it is in progress; or it
is built now. -/
theorem build_ok_cases {inProgress : List String} {reference : Reference} {caches next : Caches B}
    {occurrence : Occurrence B}
    (ok : build registry wiring inProgress reference caches = .ok (occurrence, next)) :
    ∃ type, registry.find? reference.type.innermost = some type ∧
      ((∃ built, caches.find? reference.place reference.type.innermost = some built ∧
          occurrence = (Occurrence.concrete built).wrap reference.type.wrappers ∧
          next = caches) ∨
        caches.find? reference.place reference.type.innermost = none ∧
        reference.place.admits type.kind = true ∧
        ((reference.type.innermost ∈ inProgress ∧
            occurrence = (Occurrence.placeholder reference.type.innermost).wrap
              reference.type.wrappers ∧
            next = caches) ∨
          reference.type.innermost ∉ inProgress ∧
          ∃ built between, buildNamed registry wiring
              (build registry wiring (reference.type.innermost :: inProgress)) type caches =
                .ok (built, between) ∧
            occurrence = (Occurrence.concrete built).wrap reference.type.wrappers ∧
            next = between.keep built)) := by
  cases found : registry.find? reference.type.innermost with
  | none =>
    rw [build_unknown found] at ok
    cases ok
  | some type =>
  refine ⟨type, rfl, ?_⟩
  cases absent : caches.find? reference.place reference.type.innermost with
  | some built =>
    rw [build_kept found absent] at ok
    cases ok
    exact .inl ⟨built, rfl, rfl, rfl⟩
  | none =>
  cases placed : reference.place.admits type.kind with
  | false =>
    rw [build_misplaced found absent placed] at ok
    cases ok
  | true =>
  refine .inr ⟨rfl, rfl, ?_⟩
  by_cases begun : reference.type.innermost ∈ inProgress
  · rw [build_begun found absent placed begun] at ok
    cases ok
    exact .inl ⟨begun, rfl, rfl⟩
  · rw [build_idle found absent placed begun] at ok
    cases made : buildNamed registry wiring
        (build registry wiring (reference.type.innermost :: inProgress)) type caches with
    | error fault =>
      rw [made] at ok
      cases ok
    | ok result =>
      rw [made] at ok
      cases ok
      exact .inr ⟨begun, result.1, result.2, rfl, rfl, rfl⟩

/-- **The ways in which a reference fails to be built.** It names nothing known; or its type may not
stand at its place; or building the type fails. -/
theorem build_error_cases {inProgress : List String} {reference : Reference} {caches : Caches B}
    {fault : SchemaError}
    (failed : build registry wiring inProgress reference caches = .error fault) :
    (registry.find? reference.type.innermost = none ∧ fault = reference.unknown) ∨
      ∃ type, registry.find? reference.type.innermost = some type ∧
        caches.find? reference.place reference.type.innermost = none ∧
        ((reference.place.admits type.kind = false ∧ fault = reference.place.mismatch type) ∨
          reference.place.admits type.kind = true ∧
          reference.type.innermost ∉ inProgress ∧
          buildNamed registry wiring
            (build registry wiring (reference.type.innermost :: inProgress)) type caches =
              .error fault) := by
  cases found : registry.find? reference.type.innermost with
  | none =>
    rw [build_unknown found] at failed
    cases failed
    exact .inl ⟨rfl, rfl⟩
  | some type =>
  cases absent : caches.find? reference.place reference.type.innermost with
  | some built =>
    rw [build_kept found absent] at failed
    cases failed
  | none =>
  refine .inr ⟨type, rfl, rfl, ?_⟩
  cases placed : reference.place.admits type.kind with
  | false =>
    rw [build_misplaced found absent placed] at failed
    cases failed
    exact .inl ⟨rfl, rfl⟩
  | true =>
  by_cases begun : reference.type.innermost ∈ inProgress
  · rw [build_begun found absent placed begun] at failed
    cases failed
  · rw [build_idle found absent placed begun] at failed
    cases made : buildNamed registry wiring
        (build registry wiring (reference.type.innermost :: inProgress)) type caches with
    | error fault' =>
      rw [made] at failed
      cases failed
      exact .inr ⟨rfl, begun, rfl⟩
    | ok result =>
      rw [made] at failed
      cases failed

/-! ## One agenda -/

/-- Going through the demands of a type, from a given state, is building the type. -/
theorem perform_demands (registry : Registry) (wiring : Wiring B)
    (visit : Reference → Build σ τ) (type : TypeDefinition) (state : σ) :
    perform visit (demands registry wiring type) state =
      (buildNamed registry wiring visit type state).map fun result =>
        (result.1.placed, result.2) := by
  rw [← placed_buildNamed, Build.map_apply]

section Perform

variable {visit : Reference → Build σ τ} {reference : Reference} {state : σ}

/-- Where following a reference fails, going through the agenda fails. -/
theorem perform_follow_of_error {fault : SchemaError} (failed : visit reference state = .error fault)
    (rest : List Demand) : perform visit (.follow reference :: rest) state = .error fault := by
  rw [perform, Build.bind_of_error failed]

/-- Where following a reference succeeds, the rest of the agenda is gone through from there. -/
theorem perform_follow_of_ok {first : τ} {next : σ} (ok : visit reference state = .ok (first, next))
    (rest : List Demand) :
    perform visit (.follow reference :: rest) state =
      (perform visit rest next).map fun result =>
        ((reference.place, first) :: result.1, result.2) := by
  rw [perform, Build.bind_of_ok ok, bind_pure_comp, Build.map_apply]

end Perform

/-! ## Runs -/

/-- **The successful runs** through an agenda, with given types in progress: from caches, to what
the references of the agenda became and the caches then. -/
inductive Run (registry : Registry) (wiring : Wiring B) :
    List String → List Demand → Caches B → List (Place × Occurrence B) → Caches B → Prop
  /-- Nothing is left to do. -/
  | done {inProgress : List String} {caches : Caches B} :
    Run registry wiring inProgress [] caches [] caches
  /-- A check is passed. -/
  | passed {inProgress : List String} {rest : List Demand} {caches last : Caches B}
      {links : List (Place × Occurrence B)}
      (onward : Run registry wiring inProgress rest caches links last) :
    Run registry wiring inProgress (.check none :: rest) caches links last
  /-- A type kept before is used again. -/
  | kept {inProgress : List String} {reference : Reference} {rest : List Demand}
      {caches last : Caches B} {links : List (Place × Occurrence B)} {type : TypeDefinition}
      {built : GraphType B} (found : registry.find? reference.type.innermost = some type)
      (kept : caches.find? reference.place reference.type.innermost = some built)
      (onward : Run registry wiring inProgress rest caches links last) :
    Run registry wiring inProgress (.follow reference :: rest) caches
      ((reference.place, (Occurrence.concrete built).wrap reference.type.wrappers) :: links) last
  /-- A type in progress is left as a placeholder. -/
  | begun {inProgress : List String} {reference : Reference} {rest : List Demand}
      {caches last : Caches B} {links : List (Place × Occurrence B)} {type : TypeDefinition}
      (found : registry.find? reference.type.innermost = some type)
      (absent : caches.find? reference.place reference.type.innermost = none)
      (placed : reference.place.admits type.kind = true)
      (begun : reference.type.innermost ∈ inProgress)
      (onward : Run registry wiring inProgress rest caches links last) :
    Run registry wiring inProgress (.follow reference :: rest) caches
      ((reference.place,
        (Occurrence.placeholder reference.type.innermost).wrap reference.type.wrappers) :: links)
      last
  /-- A type is built, with itself in progress, and kept. -/
  | built {inProgress : List String} {reference : Reference} {rest : List Demand}
      {caches between last : Caches B} {links : List (Place × Occurrence B)}
      {type : TypeDefinition} {built : GraphType B}
      (found : registry.find? reference.type.innermost = some type)
      (absent : caches.find? reference.place reference.type.innermost = none)
      (placed : reference.place.admits type.kind = true)
      (idle : reference.type.innermost ∉ inProgress)
      (made : buildNamed registry wiring
          (build registry wiring (reference.type.innermost :: inProgress)) type caches =
        .ok (built, between))
      (parts : Run registry wiring (reference.type.innermost :: inProgress)
        (demands registry wiring type) caches built.placed between)
      (onward : Run registry wiring inProgress rest (between.keep built) links last) :
    Run registry wiring inProgress (.follow reference :: rest) caches
      ((reference.place, (Occurrence.concrete built).wrap reference.type.wrappers) :: links) last

/-- A property of the types in progress holds if it does whenever it holds with one more of the
known types in progress. -/
theorem Registry.inProgress_induction {property : List String → Prop}
    (step : ∀ inProgress, (∀ name type, registry.find? name = some type → name ∉ inProgress →
      property (name :: inProgress)) → property inProgress) (inProgress : List String) :
    property inProgress := by
  induction h : registry.idle inProgress using Nat.strongRecOn generalizing inProgress with
  | ind count ih =>
    subst h
    exact step inProgress fun name type found idle =>
      ih _ (Registry.idle_cons_lt found idle) _ rfl

/-- **Every successful call of the builder is a run.**

**Proof sketch.** By induction on the names not in progress, and then along the agenda. A reference
is followed in one of the five ways in which `build` goes on; only building a type calls the
builder again, with one more name in progress. -/
theorem run_of_perform {inProgress : List String} {agenda : List Demand} {caches last : Caches B}
    {links : List (Place × Occurrence B)}
    (ok : perform (build registry wiring inProgress) agenda caches = .ok (links, last)) :
    Run registry wiring inProgress agenda caches links last := by
  induction inProgress using registry.inProgress_induction generalizing agenda caches links last with
  | step inProgress outer =>
  induction agenda generalizing caches links last with
  | nil =>
    cases ok
    exact .done
  | cons demand rest ih =>
    match demand with
    | .check none => exact .passed (ih ok)
    | .check (some fault) => cases ok
    | .follow reference =>
      cases h : build registry wiring inProgress reference caches with
      | error fault =>
        rw [perform_follow_of_error h] at ok
        cases ok
      | ok result =>
      obtain ⟨first, next⟩ := result
      rw [perform_follow_of_ok h] at ok
      cases h' : perform (build registry wiring inProgress) rest next with
      | error fault =>
        rw [h'] at ok
        cases ok
      | ok result =>
      rw [h'] at ok
      cases ok
      have onward := ih h'
      obtain ⟨type, found, ⟨built, kept, rfl, rfl⟩ | ⟨absent, placed, way⟩⟩ := build_ok_cases h
      · exact .kept found kept onward
      · obtain ⟨begun, rfl, rfl⟩ | ⟨idle, built, between, made, rfl, rfl⟩ := way
        · exact .begun found absent placed begun onward
        · have parts := perform_demands registry wiring
            (build registry wiring (reference.type.innermost :: inProgress)) type caches
          rw [made] at parts
          exact .built found absent placed idle made (outer _ type found idle parts) onward

/-- A reference that is built is a run through that reference alone. -/
theorem run_of_build {inProgress : List String} {reference : Reference} {caches next : Caches B}
    {occurrence : Occurrence B}
    (ok : build registry wiring inProgress reference caches = .ok (occurrence, next)) :
    Run registry wiring inProgress [.follow reference] caches [(reference.place, occurrence)]
      next := by
  refine run_of_perform ?_
  rw [perform_follow_of_ok ok]
  rfl

/-- A type that is built is a run through its demands. -/
theorem run_of_buildNamed {inProgress : List String} {type : TypeDefinition}
    {caches between : Caches B} {built : GraphType B}
    (made : buildNamed registry wiring (build registry wiring inProgress) type caches =
      .ok (built, between)) :
    Run registry wiring inProgress (demands registry wiring type) caches built.placed between := by
  refine run_of_perform ?_
  rw [perform_demands, made]
  rfl

end SchemaAssembly
