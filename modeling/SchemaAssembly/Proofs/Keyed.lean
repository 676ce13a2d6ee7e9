import SchemaAssembly.Assembly.Build

/-!
# Everything is kept under its own name

A registry keeps a definition under the name that the definition gives, and a wiring keeps a scalar
under the name of the scalar. Nothing in the types enforces this, but every operation that makes a
registry or a wiring does. Assembly relies on it: a finished type is kept under its own name and is
looked for under the name of a reference.

## Main definitions

* `SchemaAssembly.NameMap.Keyed` — what is held under a name has that name.
* `SchemaAssembly.Registry.Keyed`, `SchemaAssembly.Wiring.Keyed` — the same for registries and
  wirings.

## Main results

* `SchemaAssembly.Registry.keyed_empty`, `Registry.Keyed.add`, `Registry.keyed_ofDefinitions`,
  `Registry.Keyed.merge` — every registry that can be made is keyed.
* `SchemaAssembly.Wiring.keyed_standard`, `Wiring.Keyed.withFactory`, `Wiring.Keyed.withScalar`,
  `Wiring.Keyed.withType` — every wiring that can be made is keyed.
-/

set_option relaxedAutoImplicit false
set_option autoImplicit false

namespace SchemaAssembly

/-! ## Maps -/

namespace NameMap

variable {α : Type} {name : α → String} {m : NameMap α}

/-- What is held under a name has that name. -/
def Keyed (name : α → String) (m : NameMap α) : Prop :=
  ∀ key a, m.get? key = some a → name a = key

/-- The map that holds nothing is keyed. -/
theorem keyed_empty : Keyed name (∅ : NameMap α) := by
  intro key a h
  cases h

/-- Setting something under its own name keeps a map keyed. -/
theorem Keyed.set (keyed : Keyed name m) (a : α) : Keyed name (m.set (name a) a) := by
  intro key b h
  rw [get?_set] at h
  split at h
  · next hk => rw [← Option.some.inj h, hk]
  · exact keyed key b h

/-- Extending by keyed entries keeps a map keyed. -/
theorem Keyed.extend (keyed : Keyed name m) {added : List (String × α)}
    (own : ∀ entry ∈ added, name entry.2 = entry.1) : Keyed name (m.extend added) := by
  intro key a h
  rw [get?_extend, Option.or_eq_some_iff] at h
  rcases h with h | ⟨-, h⟩
  · exact own (key, a) (List.mem_reverse.1 (Entries.mem_of_lookup h))
  · exact keyed key a h

/-- The entries of a keyed map have their own names. -/
theorem Keyed.name_of_mem (keyed : Keyed name m) {entry : String × α}
    (h : entry ∈ m.entries) : name entry.2 = entry.1 :=
  keyed entry.1 entry.2 (mem_entries_iff.1 h)

end NameMap

/-! ## Registries -/

namespace Registry

variable {registry : Registry}

/-- **Every definition is kept under its own name.** Every registry that can be made is like this:
see `keyed_empty`, `Keyed.add`, `keyed_ofDefinitions` and `Keyed.merge`. -/
structure Keyed (registry : Registry) : Prop where
  /-- The types that are not scalars are kept under their own names. -/
  types : registry.types.Keyed TypeDefinition.name
  /-- The declared scalars are kept under their own names. -/
  declaredScalars : registry.declaredScalars.Keyed TypeDefinition.name

/-- The registry without definitions is keyed. -/
theorem keyed_empty : Registry.empty.Keyed := ⟨NameMap.keyed_empty, NameMap.keyed_empty⟩

/-- Adding a definition keeps a registry keyed. -/
theorem Keyed.add (keyed : registry.Keyed) {definition : Definition} {next : Registry}
    (added : registry.add definition = .ok next) : next.Keyed := by
  cases definition with
  | extension added' =>
    cases added
    exact ⟨keyed.types, keyed.declaredScalars⟩
  | type added' =>
    simp only [Registry.add] at added
    split at added
    · cases added
    · split at added <;> cases added
      · exact ⟨keyed.types, keyed.declaredScalars.set added'⟩
      · exact ⟨keyed.types.set added', keyed.declaredScalars⟩
  | schema added' =>
    simp only [Registry.add] at added
    split at added <;> cases added
    exact ⟨keyed.types, keyed.declaredScalars⟩

/-- Adding many definitions keeps a registry keyed. -/
theorem Keyed.addAll (keyed : registry.Keyed) (definitions : List Definition) :
    (registry.addAll definitions).1.Keyed := by
  induction definitions generalizing registry with
  | nil => exact keyed
  | cons definition rest ih =>
    simp only [Registry.addAll]
    split
    · next next added => exact ih (keyed.add added)
    · exact ih keyed

/-- The registry of a list of definitions is keyed. -/
theorem keyed_ofDefinitions {definitions : List Definition}
    (made : Registry.ofDefinitions definitions = .ok registry) : registry.Keyed := by
  have h := keyed_empty.addAll definitions
  simp only [Registry.ofDefinitions] at made
  split at made
  · next eq =>
    rw [eq] at h
    cases made
    exact h
  · cases made

/-- Merging two keyed registries makes a keyed one. -/
theorem Keyed.merge (keyed : registry.Keyed) {other merged : Registry} (keyed' : other.Keyed)
    (made : registry.merge other = .ok merged) : merged.Keyed := by
  simp only [Registry.merge] at made
  split at made <;> cases made
  exact ⟨keyed.types.extend fun entry => keyed'.types.name_of_mem,
    keyed.declaredScalars.extend fun entry => keyed'.declaredScalars.name_of_mem⟩

/-- The type found under a name has that name. -/
theorem Keyed.name_of_find? (keyed : registry.Keyed) {name : String} {type : TypeDefinition}
    (found : registry.find? name = some type) : type.name = name := by
  simp only [find?, declared?, Option.or_eq_some_iff, Option.map_eq_some_iff] at found
  rcases found with (h | ⟨-, h⟩) | ⟨-, scalar, h, rfl⟩
  · exact keyed.types name type h
  · exact keyed.declaredScalars name type h
  · have hn := List.find?_some h
    exact of_decide_eq_true hn

end Registry

/-! ## Wirings -/

namespace Wiring

variable {B : Behaviours} {wiring : Wiring B}

/-- **Every scalar is wired under its own name.** Every wiring that can be made is like this: see
`keyed_standard`, `Keyed.withFactory`, `Keyed.withScalar` and `Keyed.withType`. -/
def Keyed (wiring : Wiring B) : Prop := wiring.scalars.Keyed ScalarType.name

/-- The wiring of the standard scalars is keyed. -/
theorem keyed_standard (B : Behaviours) : (Wiring.standard B).Keyed := by
  refine NameMap.keyed_empty.extend fun entry h => ?_
  obtain ⟨scalar, -, rfl⟩ := List.mem_map.1 h
  rfl

/-- Setting the factory keeps a wiring keyed. -/
theorem Keyed.withFactory (keyed : wiring.Keyed) (factory : WiringFactory B) :
    (wiring.withFactory factory).Keyed := keyed

/-- Wiring a scalar keeps a wiring keyed. -/
theorem Keyed.withScalar (keyed : wiring.Keyed) (scalar : ScalarType B) :
    (wiring.withScalar scalar).Keyed := NameMap.Keyed.set keyed scalar

/-- Wiring a type keeps a wiring keyed. -/
theorem Keyed.withType (keyed : wiring.Keyed) (added : TypeWiring B) :
    (wiring.withType added).Keyed := keyed

/-- The scalar wired under a name has that name. -/
theorem Keyed.name_of_scalar? (keyed : wiring.Keyed) {name : String} {scalar : ScalarType B}
    (found : wiring.scalar? name = some scalar) : scalar.name = name := keyed name scalar found

end Wiring

end SchemaAssembly
