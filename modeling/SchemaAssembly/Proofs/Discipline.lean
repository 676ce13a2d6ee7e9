import SchemaAssembly.Proofs.Run

/-!
# The discipline of the caches

While types are being built, the caches and the names in progress keep a discipline: everything is
kept under its own name and for all places where it may stand, nothing in progress is kept, and
whatever a type that is kept refers to is kept too, or is in progress. Every run keeps the
discipline, and never changes what was kept before.

## Main definitions

* `SchemaAssembly.Caches.Holds` — a name is kept, for some place.
* `SchemaAssembly.Linked` — what an occurrence at some place refers to exists, or is to come.
* `SchemaAssembly.Caches.Sound` — the discipline.

## Main results

* `SchemaAssembly.Caches.sound_empty` — empty caches keep the discipline.
* `SchemaAssembly.Caches.Sound.begin`, `Caches.Sound.keep` — so do starting on a type and keeping a
  finished one.
* `SchemaAssembly.Run.sound` — a run keeps the discipline, and all that was kept before.
-/

set_option relaxedAutoImplicit false
set_option autoImplicit false

namespace SchemaAssembly

variable {B : Behaviours} {registry : Registry} {wiring : Wiring B}

/-- A type of any kind may stand somewhere. -/
theorem Place.exists_admits (kind : TypeKind) : ∃ place : Place, place.admits kind = true := by
  cases kind
  case inputObject => exact ⟨.input, rfl⟩
  all_goals exact ⟨.output, rfl⟩

namespace Caches

variable {caches later : Caches B} {inProgress : List String} {name : String}

/-! ## Looking up -/

/-- A name is kept, for some place. -/
def Holds (caches : Caches B) (name : String) : Prop :=
  ∃ place type, caches.find? place name = some type

/-- All that is kept is still kept later. -/
def Within (caches later : Caches B) : Prop :=
  ∀ place name type, caches.find? place name = some type → later.find? place name = some type

/-- Nothing is kept in empty caches. -/
@[simp] theorem find?_empty (place : Place) (name : String) :
    (empty : Caches B).find? place name = none := by
  cases place <;> rfl

/-- A type just kept is found under its name for the places where it may stand, and hides no
other. -/
theorem find?_keep (caches : Caches B) (type : GraphType B) (place : Place) (name : String) :
    (caches.keep type).find? place name =
      if name = type.name ∧ place.admits type.kind = true then some type
      else caches.find? place name := by
  cases place with
  | output =>
    by_cases h : type.isOutput = true
    · have h' : Place.output.admits type.kind = true := h
      simp [find?, keep, h, h']
    · have h' : ¬ Place.output.admits type.kind = true := h
      simp [find?, keep, h, h']
  | input =>
    by_cases h : type.isInput = true
    · have h' : Place.input.admits type.kind = true := h
      simp [find?, keep, h, h']
    · have h' : ¬ Place.input.admits type.kind = true := h
      simp [find?, keep, h, h']

/-- After keeping a type, its name is kept, and those kept before. -/
theorem holds_keep_iff (caches : Caches B) (type : GraphType B) (name : String) :
    (caches.keep type).Holds name ↔ name = type.name ∨ caches.Holds name := by
  simp only [Holds, find?_keep]
  constructor
  · rintro ⟨place, kept, h⟩
    split at h
    · next own => exact .inl own.1
    · exact .inr ⟨place, kept, h⟩
  · rintro (rfl | ⟨place, kept, h⟩)
    · obtain ⟨place, admits⟩ := Place.exists_admits type.kind
      exact ⟨place, type, by simp [admits]⟩
    · by_cases own : name = type.name ∧ place.admits type.kind = true
      · exact ⟨place, type, by simp [own]⟩
      · exact ⟨place, kept, by simp [own, h]⟩

end Caches

/-! ## Links -/

/-- **What an occurrence at some place refers to exists, or is to come.** What it holds is what is
kept under that name; what it only names is known to suit the place, and is kept or in progress. -/
structure Linked (registry : Registry) (inProgress : List String) (caches : Caches B)
    (place : Place) (occurrence : Occurrence B) : Prop where
  /-- What the occurrence holds is kept. -/
  held : ∀ type, occurrence.held? = some type → caches.find? place type.name = some type
  /-- What the occurrence only names is known, and may stand at the place. -/
  known : occurrence.held? = none → ∃ definition,
    registry.find? occurrence.innermost = some definition ∧ place.admits definition.kind = true
  /-- What the occurrence only names is kept or in progress. -/
  awaited : occurrence.held? = none →
    occurrence.innermost ∈ inProgress ∨ caches.Holds occurrence.innermost

/-- Wrapping changes nothing about a link. -/
theorem Linked.wrap {inProgress : List String} {caches : Caches B} {place : Place}
    {occurrence : Occurrence B} (linked : Linked registry inProgress caches place occurrence)
    (wrappers : List Wrapper) :
    Linked registry inProgress caches place (occurrence.wrap wrappers) where
  held := by simpa using linked.held
  known := by simpa using linked.known
  awaited := by simpa using linked.awaited

/-- An occurrence that holds what is kept is linked. -/
theorem linked_concrete {caches : Caches B} {place : Place} {type : GraphType B}
    (kept : caches.find? place type.name = some type) (registry : Registry)
    (inProgress : List String) :
    Linked registry inProgress caches place (.concrete type) where
  held other h := by
    obtain rfl : type = other := Option.some.inj h
    exact kept
  known h := by cases h
  awaited h := by cases h

/-- A placeholder for a type in progress that suits the place is linked. -/
theorem linked_placeholder {inProgress : List String} {place : Place} {name : String}
    {definition : TypeDefinition} (found : registry.find? name = some definition)
    (placed : place.admits definition.kind = true) (begun : name ∈ inProgress)
    (caches : Caches B) : Linked registry inProgress caches place (.placeholder name) where
  held other h := by cases h
  known _ := ⟨definition, found, placed⟩
  awaited _ := .inl begun

/-! ## The discipline -/

/-- **The discipline of the caches** while the types `inProgress` are being built. -/
structure Caches.Sound (registry : Registry) (inProgress : List String) (caches : Caches B) :
    Prop where
  /-- Every type is kept under its own name. -/
  keyed : ∀ place name type, caches.find? place name = some type → type.name = name
  /-- Every type kept is of the kind that its definition says, and may stand where it is kept. -/
  known : ∀ place name type, caches.find? place name = some type →
    ∃ definition, registry.find? name = some definition ∧ definition.kind = type.kind ∧
      place.admits type.kind = true
  /-- Every type kept is kept for all places where it may stand. -/
  shared : ∀ place other name type, caches.find? place name = some type →
    other.admits type.kind = true → caches.find? other name = some type
  /-- No type kept is in progress. -/
  finished : ∀ name, caches.Holds name → name ∉ inProgress
  /-- Whatever a type kept refers to is kept too, or in progress. -/
  linked : ∀ place name type, caches.find? place name = some type →
    ∀ link ∈ type.placed, Linked registry inProgress caches link.1 link.2

namespace Caches

variable {caches : Caches B} {inProgress : List String} {name : String}
  {definition : TypeDefinition}

/-- Empty caches keep the discipline. -/
theorem sound_empty (registry : Registry) (inProgress : List String) :
    (empty : Caches B).Sound registry inProgress where
  keyed place name type h := by simp at h
  known place name type h := by simp at h
  shared place other name type h := by simp at h
  finished name h := by simp [Holds] at h
  linked place name type h := by simp at h

/-- A known type that is missing at a place where it may stand is not kept at all. -/
theorem Sound.not_holds (sound : caches.Sound registry inProgress)
    (found : registry.find? name = some definition) {place : Place}
    (placed : place.admits definition.kind = true) (absent : caches.find? place name = none) :
    ¬ caches.Holds name := by
  rintro ⟨other, type, kept⟩
  obtain ⟨definition', found', kind, -⟩ := sound.known _ _ _ kept
  obtain rfl : definition = definition' := Option.some.inj (found.symm.trans found')
  have := sound.shared _ place _ _ kept (kind ▸ placed)
  simp [absent] at this

/-- A type kept under a known name is kept wherever the name may stand. -/
theorem Sound.find?_of_holds (sound : caches.Sound registry inProgress)
    (holds : caches.Holds name) (found : registry.find? name = some definition) {place : Place}
    (placed : place.admits definition.kind = true) :
    ∃ type, caches.find? place name = some type := by
  refine Option.ne_none_iff_exists'.1 fun absent => ?_
  exact sound.not_holds found placed absent holds

/-- Starting on a type that is not kept keeps the discipline. -/
theorem Sound.begin (sound : caches.Sound registry inProgress) (new : ¬ caches.Holds name) :
    caches.Sound registry (name :: inProgress) where
  keyed := sound.keyed
  known := sound.known
  shared := sound.shared
  finished other holds := by
    rintro (_ | h)
    · exact new holds
    · exact sound.finished other holds ‹_›
  linked place other type kept link h :=
    have linked := sound.linked place other type kept link h
    ⟨linked.held, linked.known, fun h => (linked.awaited h).imp_left (.tail _)⟩

section Keep

variable {type : GraphType B} (sound : caches.Sound registry (type.name :: inProgress))

include sound

/-- Keeping the type in progress changes nothing about what was kept before. -/
theorem Sound.within_keep : caches.Within (caches.keep type) := by
  intro place name kept h
  have : name ≠ type.name := by
    rintro rfl
    exact sound.finished _ ⟨place, kept, h⟩ (.head _)
  rw [find?_keep, if_neg (by simp [this]), h]

/-- What was linked while a type was in progress is linked when it is kept. -/
theorem Sound.linked_keep {place : Place} {occurrence : Occurrence B}
    (linked : Linked registry (type.name :: inProgress) caches place occurrence) :
    Linked registry inProgress (caches.keep type) place occurrence where
  held held h := sound.within_keep _ _ _ (linked.held held h)
  known := linked.known
  awaited h := by
    rw [holds_keep_iff]
    rcases linked.awaited h with h | h
    · rcases List.mem_cons.1 h with h | h
      · exact .inr (.inl h)
      · exact .inl h
    · exact .inr (.inr h)

/-- Keeping the type in progress keeps the discipline, once all that it refers to is linked. -/
theorem Sound.keep (found : registry.find? type.name = some definition)
    (kind : type.kind = definition.kind) (idle : type.name ∉ inProgress)
    (links : ∀ link ∈ type.placed,
      Linked registry (type.name :: inProgress) caches link.1 link.2) :
    (caches.keep type).Sound registry inProgress where
  keyed place name kept h := by
    rw [find?_keep] at h
    split at h
    · next own => rw [← Option.some.inj h, own.1]
    · exact sound.keyed place name kept h
  known place name kept h := by
    rw [find?_keep] at h
    split at h
    · next own =>
      obtain rfl := Option.some.inj h
      exact ⟨definition, own.1 ▸ found, kind.symm, own.2⟩
    · exact sound.known place name kept h
  shared place other name kept h admits := by
    rw [find?_keep] at h
    split at h
    · next own =>
      obtain rfl := Option.some.inj h
      rw [find?_keep, if_pos ⟨own.1, admits⟩]
    · exact sound.within_keep _ _ _ (sound.shared place other name kept h admits)
  finished name holds := by
    rcases (holds_keep_iff _ _ _).1 holds with rfl | holds
    · exact idle
    · exact fun h => sound.finished name holds (.tail _ h)
  linked place name kept h link hl := by
    rw [find?_keep] at h
    split at h
    · obtain rfl := Option.some.inj h
      exact sound.linked_keep (links link hl)
    · exact sound.linked_keep (sound.linked place name kept h link hl)

end Keep

end Caches

/-! ## Runs keep the discipline -/

/-- **Finishing a type keeps the discipline**: the type has the name under which its definition was
found, and once all that it refers to is linked it can be kept. -/
theorem Caches.Sound.finish (keyed : registry.Keyed) (wired : wiring.Keyed)
    {inProgress : List String} {name : String} {type : TypeDefinition}
    {caches between : Caches B} {built : GraphType B}
    {visit : Reference → Build (Caches B) (Occurrence B)}
    (found : registry.find? name = some type) (idle : name ∉ inProgress)
    (made : buildNamed registry wiring visit type caches = .ok (built, between))
    (sound : between.Sound registry (name :: inProgress))
    (links : ∀ link ∈ built.placed,
      Linked registry (name :: inProgress) between link.1 link.2) :
    built.name = name ∧ built.kind = type.kind ∧ between.Within (between.keep built) ∧
      (between.keep built).Sound registry inProgress := by
  obtain ⟨own, kind⟩ := ensures_buildNamed wired _ _ _ _ _ made
  rw [keyed.name_of_find? found] at own
  subst own
  exact ⟨rfl, kind, sound.within_keep, sound.keep found kind idle links⟩

/-- **A run keeps the discipline and all that was kept before**, and all that it returns is linked.

**Proof sketch.** By induction on the run. What is used again is kept, and what is left as a
placeholder is in progress. To build a type is to start on it, which is possible because it was not
kept, to run through its demands, and to keep it, which is possible because its references were
linked by that run. -/
theorem Run.sound (keyed : registry.Keyed) (wired : wiring.Keyed) {inProgress : List String}
    {agenda : List Demand} {caches last : Caches B} {links : List (Place × Occurrence B)}
    (run : Run registry wiring inProgress agenda caches links last)
    (sound : caches.Sound registry inProgress) :
    last.Sound registry inProgress ∧ caches.Within last ∧
      ∀ link ∈ links, Linked registry inProgress last link.1 link.2 := by
  induction run with
  | done => exact ⟨sound, fun _ _ _ h => h, by simp⟩
  | passed onward ih => exact ih sound
  | kept found kept onward ih =>
    obtain ⟨sound', within, linked⟩ := ih sound
    refine ⟨sound', within, ?_⟩
    rintro link (_ | h)
    · have own := sound.keyed _ _ _ kept
      exact (linked_concrete (own ▸ within _ _ _ kept) _ _).wrap _
    · exact linked link ‹_›
  | begun found absent placed begun onward ih =>
    obtain ⟨sound', within, linked⟩ := ih sound
    refine ⟨sound', within, ?_⟩
    rintro link (_ | h)
    · exact (linked_placeholder found placed begun _).wrap _
    · exact linked link ‹_›
  | built found absent placed idle made parts onward ihParts ih =>
    -- Start on the type, run through its demands, keep it, and go on from there.
    obtain ⟨sound₁, within₁, linked₁⟩ :=
      ihParts (sound.begin (sound.not_holds found placed absent))
    obtain ⟨own, kind, within₂, sound₂⟩ :=
      Caches.Sound.finish keyed wired found idle made sound₁ linked₁
    obtain ⟨sound₃, within₃, linked₃⟩ := ih sound₂
    refine ⟨sound₃, fun _ _ _ h => within₃ _ _ _ (within₂ _ _ _ (within₁ _ _ _ h)), ?_⟩
    rintro link (_ | h)
    · refine (linked_concrete (within₃ _ _ _ ?_) _ _).wrap _
      rw [Caches.find?_keep, if_pos ⟨rfl, kind ▸ placed⟩]
    · exact linked₃ link ‹_›

/-- What building one type comes to, seen from a run that builds it: it was not kept before, it is
built under the discipline with itself in progress, and it is kept under its own name. -/
theorem Caches.Sound.built (keyed : registry.Keyed) (wired : wiring.Keyed)
    {inProgress : List String} {name : String} {type : TypeDefinition} {place : Place}
    {caches between : Caches B} {built : GraphType B}
    (sound : caches.Sound registry inProgress) (found : registry.find? name = some type)
    (absent : caches.find? place name = none) (placed : place.admits type.kind = true)
    (idle : name ∉ inProgress)
    (made : buildNamed registry wiring (build registry wiring (name :: inProgress)) type caches =
      .ok (built, between))
    (parts : Run registry wiring (name :: inProgress) (demands registry wiring type) caches
      built.placed between) :
    ¬ caches.Holds name ∧ caches.Sound registry (name :: inProgress) ∧
      between.Sound registry (name :: inProgress) ∧ built.name = name ∧
      (between.keep built).Sound registry inProgress := by
  have new := sound.not_holds found placed absent
  obtain ⟨sound₁, -, linked₁⟩ := parts.sound keyed wired (sound.begin new)
  obtain ⟨own, -, -, sound₂⟩ := Caches.Sound.finish keyed wired found idle made sound₁ linked₁
  exact ⟨new, sound.begin new, sound₁, own, sound₂⟩

/-- **A run returns what its references name**: one occurrence for each, at the place of the
reference, with the name of the reference at the bottom. -/
theorem Run.map_innermost (keyed : registry.Keyed) (wired : wiring.Keyed)
    {inProgress : List String} {agenda : List Demand} {caches last : Caches B}
    {links : List (Place × Occurrence B)}
    (run : Run registry wiring inProgress agenda caches links last)
    (sound : caches.Sound registry inProgress) :
    links.map (fun link => (link.1, link.2.innermost)) =
      (agenda.filterMap Demand.reference?).map fun reference =>
        (reference.place, reference.type.innermost) := by
  induction run with
  | done => rfl
  | passed onward ih => exact ih sound
  | kept found kept onward ih =>
    simp [Demand.reference?, ih sound, Occurrence.innermost, sound.keyed _ _ _ kept]
  | begun found absent placed begun onward ih =>
    simp [Demand.reference?, ih sound, Occurrence.innermost]
  | built found absent placed idle made parts onward ihParts ih =>
    obtain ⟨-, -, -, own, soundEnd⟩ :=
      sound.built keyed wired found absent placed idle made parts
    simp [Demand.reference?, ih soundEnd, Occurrence.innermost, own]

end SchemaAssembly
