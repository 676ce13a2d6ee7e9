import SchemaAssembly.Proofs.Merging

/-!
# Registries changed in place

A registry may be held in one place and changed there by one operation after the other. What is there
after an operation that failed is then a question of its own, and it is not answered by a function that
returns a new registry or a problem. So adding and merging are given here as programs, step by step in
the order in which they go about their work: merging walks the types of the other registry and then its
scalars, putting aside what is new and noting what conflicts, gives up if anything does, and only then
takes over the schema definition, what was put aside, and the extensions, name by name.

Both programs come out as the functions do, and where they fail they have changed nothing.

## Main definitions

* `SchemaAssembly.InPlace` — a program that works on a registry.
* `SchemaAssembly.InPlace.after` — what it leaves, whether it succeeds or fails.
* `SchemaAssembly.Registry.adding`, `SchemaAssembly.Registry.merging` — adding and merging in place.
* `SchemaAssembly.Registry.sift` — telling new names from declared ones.

## Main results

* `SchemaAssembly.Registry.run_adding`, `run_merging` — the programs come out as the functions do, and
  leave the registry as it was if they fail.
* `SchemaAssembly.Registry.after_adding`, `after_merging` — what is in place afterwards.
-/

set_option relaxedAutoImplicit false
set_option autoImplicit false

namespace SchemaAssembly

/-- **A program that works on a registry.** It may stop at a problem, and leaves a registry also then. -/
abbrev InPlace := EStateM SchemaProblem Registry

/-- What a program leaves, whether it succeeds or fails. -/
def InPlace.after {α : Type} (program : InPlace α) (registry : Registry) : Registry :=
  match program.run registry with
  | .ok _ left => left
  | .error _ left => left

/-- All or nothing: the result is put in place if there is one, and if not, nothing is changed. -/
def Registry.settled (registry : Registry) :
    Except SchemaProblem Registry → EStateM.Result SchemaProblem Registry Unit
  | .ok next => .ok () next
  | .error problem => .error problem registry

namespace Registry

/-! ## The programs -/

/-- Adds a definition to the registry in place. -/
def adding : Definition → InPlace Unit
  | .extension added =>
    modify fun registry => { registry with
      extensions := registry.extensions.update added.name fun held => held.getD [] ++ [added] }
  | .type added => do
    match (← get).declared? added.name with
    | some existing => throw (.of (redefinition existing added))
    | none =>
      if added.isScalar then
        modify fun registry => { registry with
          declaredScalars := registry.declaredScalars.set added.name added }
      else
        modify fun registry => { registry with types := registry.types.set added.name added }
  | .schema added => do
    match (← get).schema with
    | some existing => throw (.of (.schemaRedefinition added.position existing.position))
    | none => modify fun registry => { registry with schema := some added }

/-- Tells new names from declared ones: entries of new names are put aside, and of the others it is
noted what they conflict with. -/
def sift (registry : Registry) :
    List (String × TypeDefinition) → NameMap TypeDefinition → List SchemaError →
      NameMap TypeDefinition × List SchemaError
  | [], aside, errors => (aside, errors)
  | (name, new) :: rest, aside, errors =>
    match registry.declared? name with
    | some existing => registry.sift rest aside (errors ++ [redefinition existing new])
    | none => registry.sift rest (aside.set name new) errors

/-- Appends the extensions of another registry to those in place, name by name. -/
def appending (added : List (String × List TypeExtension)) : InPlace Unit :=
  added.forM fun entry =>
    modify fun registry => { registry with
      extensions := registry.extensions.update entry.1 fun present => present.getD [] ++ entry.2 }

/-- Merges another registry into the one in place. -/
def merging (other : Registry) : InPlace Unit := do
  let registry ← get
  let (types, errors) := registry.sift other.types.entries ∅ []
  let (scalars, errors) := registry.sift other.declaredScalars.entries ∅ errors
  let errors := errors ++ schemaConflict registry.schema other.schema
  if errors ≠ [] then throw ⟨errors⟩
  if registry.schema.isNone then modify fun registry => { registry with schema := other.schema }
  modify fun registry => { registry with types := registry.types.extend types.entries }
  modify fun registry => { registry with
    declaredScalars := registry.declaredScalars.extend scalars.entries }
  appending other.extensions.entries

variable {registry : Registry}

/-! ## Adding in place -/

/-- **Adding in place comes out as adding does, and changes nothing if it fails.** -/
theorem run_adding (registry : Registry) (definition : Definition) :
    (adding definition).run registry =
      registry.settled ((registry.add definition).mapError SchemaProblem.of) := by
  cases definition with
  | extension added => rfl
  | type added =>
    simp only [adding, add, EStateM.run_bind, EStateM.run_get]
    cases registry.declared? added.name with
    | some existing => rfl
    | none => cases added.isScalar <;> rfl
  | schema added =>
    simp only [adding, add, EStateM.run_bind, EStateM.run_get]
    cases registry.schema <;> rfl

/-- After adding in place there is what adding made, or what was there before. -/
theorem after_adding (registry : Registry) (definition : Definition) :
    registry.add definition = .ok ((adding definition).after registry) ∨
      ∃ fault, registry.add definition = .error fault ∧
        (adding definition).after registry = registry := by
  unfold InPlace.after
  rw [run_adding]
  cases registry.add definition with
  | ok next => exact .inl rfl
  | error fault => exact .inr ⟨fault, rfl, rfl⟩

/-- To try to add many definitions is to add them in place, one after the other. -/
theorem addAll_cons_fst (registry : Registry) (definition : Definition) (rest : List Definition) :
    (registry.addAll (definition :: rest)).1 =
      (((adding definition).after registry).addAll rest).1 := by
  rcases after_adding registry definition with added | ⟨fault, refused, same⟩
  · rw [addAll_cons_of_ok added]
  · simp only [addAll, refused, same]

/-! ## Merging in place -/

/-- What is noted while sifting are the conflicts, after those noted before. -/
theorem sift_snd (entries : List (String × TypeDefinition)) (aside : NameMap TypeDefinition)
    (errors : List SchemaError) :
    (registry.sift entries aside errors).2 = errors ++ entries.filterMap fun entry =>
      (registry.declared? entry.1).map fun existing => redefinition existing entry.2 := by
  induction entries generalizing aside errors with
  | nil => simp [sift]
  | cons entry rest ih =>
    obtain ⟨name, new⟩ := entry
    unfold sift
    cases declared : registry.declared? name <;> simp [ih, declared]

/-- If no name is declared, everything is put aside. -/
theorem sift_fst {entries : List (String × TypeDefinition)}
    (fresh : ∀ entry ∈ entries, registry.declared? entry.1 = none) (aside : NameMap TypeDefinition)
    (errors : List SchemaError) :
    (registry.sift entries aside errors).1 = aside.extend entries := by
  induction entries generalizing aside errors with
  | nil => rfl
  | cons entry rest ih =>
    obtain ⟨new, others⟩ := List.forall_mem_cons.1 fresh
    obtain ⟨name, type⟩ := entry
    unfold sift
    rw [new]
    exact ih others _ _

/-- Sifting notes the conflicts of a map, after those noted before. -/
theorem sift_snd_entries (added aside : NameMap TypeDefinition) (errors : List SchemaError) :
    (registry.sift added.entries aside errors).2 = errors ++ registry.conflicts added :=
  sift_snd added.entries aside errors

/-- If nothing conflicts, what is put aside is the map that is sifted. -/
theorem sift_fst_entries {added : NameMap TypeDefinition} (none : registry.conflicts added = [])
    (errors : List SchemaError) : (registry.sift added.entries ∅ errors).1 = added := by
  have fresh : ∀ entry ∈ added.entries, registry.declared? entry.1 = .none := fun entry h =>
    conflicts_eq_nil_iff.1 none entry.1 (List.mem_map_of_mem h)
  rw [sift_fst fresh, NameMap.empty_extend]

/-- The extensions are appended to those in place. -/
theorem run_appending (registry : Registry) (added : NameMap (List TypeExtension)) :
    (appending added.entries).run registry =
      .ok () { registry with extensions := registry.extensions.appendAll added } := by
  obtain ⟨entries, nodup⟩ := added
  induction entries generalizing registry with
  | nil => rfl
  | cons entry rest ih =>
    obtain ⟨key, list⟩ := entry
    exact ih _ (List.nodup_cons.1 nodup).2

/-- **Merging in place comes out as merging does, and changes nothing if it fails.**

**Proof sketch.** What is noted are the conflicts of types, of scalars and of schema definitions
(`sift_snd_entries`). If there are any, the program gives up before it has changed anything. If not,
everything was put aside (`sift_fst_entries`) and is taken over. -/
theorem run_merging (registry other : Registry) :
    (merging other).run registry = registry.settled (registry.merge other) := by
  have noted : (registry.sift other.declaredScalars.entries ∅
      (registry.sift other.types.entries ∅ []).2).2 ++ schemaConflict registry.schema other.schema =
      registry.mergeConflicts other := by
    simp only [sift_snd_entries, List.nil_append, mergeConflicts]
  simp only [merging, EStateM.run_bind, EStateM.run_get, noted]
  cases outcome : registry.merge other with
  | error problem =>
    obtain ⟨some, rfl⟩ := merge_eq_error_iff.1 outcome
    rw [if_pos some]
    rfl
  | ok next =>
    obtain ⟨none, rfl⟩ := merge_eq_ok_iff.1 outcome
    -- Nothing was sorted out, so that what was put aside are the maps of the other registry.
    have parts := none
    rw [mergeConflicts, List.append_eq_nil_iff, List.append_eq_nil_iff] at parts
    rw [if_neg (not_not.2 none), sift_fst_entries parts.1.1, sift_fst_entries parts.1.2]
    cases held : registry.schema with
    | none =>
      simp only [Option.isNone_none, if_true, EStateM.run_bind, EStateM.run_modify, run_appending]
      simp only [settled, joined, held, Option.none_or]
    | some schema =>
      simp only [Option.isNone_some, Bool.false_eq_true, if_false, EStateM.run_bind,
        EStateM.run_modify, run_appending]
      simp only [settled, joined, held, Option.some_or]

/-- Merging in place succeeds where merging does, with the same registry. -/
theorem run_merging_eq_ok_iff {other merged : Registry} :
    (merging other).run registry = .ok () merged ↔ registry.merge other = .ok merged := by
  rw [run_merging]
  cases registry.merge other <;> simp [settled]

/-- Merging in place fails where merging does, with the same problem, and leaves the registry. -/
theorem run_merging_eq_error_iff {other left : Registry} {problem : SchemaProblem} :
    (merging other).run registry = .error problem left ↔
      registry.merge other = .error problem ∧ registry = left := by
  rw [run_merging]
  cases registry.merge other <;> simp [settled]

/-- After merging in place there is what merging made, or what was there before. -/
theorem after_merging (registry other : Registry) :
    registry.merge other = .ok ((merging other).after registry) ∨
      ∃ problem, registry.merge other = .error problem ∧
        (merging other).after registry = registry := by
  unfold InPlace.after
  rw [run_merging]
  cases registry.merge other with
  | ok next => exact .inl rfl
  | error problem => exact .inr ⟨problem, rfl, rfl⟩

end Registry

end SchemaAssembly
