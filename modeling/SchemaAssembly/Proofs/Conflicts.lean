import SchemaAssembly.Proofs.Concatenation

/-!
# The conflicts in a list of definitions

A registry is made of a list of definitions by adding one after the other, where one that conflicts is
left out. What is reported is said by the list alone: a definition conflicts with what comes before it in
the list, whether or not that could be added itself, since only the first definition of a name counts.

## Main definitions

* `SchemaAssembly.clashesAfter` — the errors that definitions cause, each after those before it.

## Main results

* `SchemaAssembly.Registry.ofDefinitions_eq_error_iff` — all conflicts are reported, in order.
-/

set_option relaxedAutoImplicit false
set_option autoImplicit false

namespace SchemaAssembly

/-- **The errors that definitions cause** one after the other, after a list of others: each definition
conflicts with what comes before it. -/
def clashesAfter (before : List Definition) : List Definition → List SchemaError
  | [] => []
  | definition :: rest =>
    (clash? before definition).toList ++ clashesAfter (before ++ [definition]) rest

namespace Registry

variable {registry : Registry} {definitions : List Definition}

/-- What is reported of a single definition is the error that adding it fails with, if it does. -/
theorem errors_addAll_singleton (registry : Registry) (definition : Definition) :
    (registry.addAll [definition]).2 = (registry.refusal? definition).toList := by
  cases outcome : registry.add definition with
  | ok next => simp [addAll, outcome, refusal?_eq_none outcome]
  | error error => simp [addAll, outcome, add_eq_error_iff.1 outcome]

/-- **What is reported are the conflicts with what comes before in the list.**

**Proof sketch.** By induction on the definitions that follow those tried so far. A definition fails
after others as it does after their list (`refusal?_addAll_empty`). -/
theorem errors_addAll_empty (definitions : List Definition) :
    (empty.addAll definitions).2 = clashesAfter [] definitions := by
  have onward : ∀ before, ((empty.addAll before).1.addAll definitions).2 =
      clashesAfter before definitions := by
    induction definitions with
    | nil => exact fun before => rfl
    | cons definition rest ih =>
      intro before
      have next := ih (before ++ [definition])
      rw [addAll_append] at next
      rw [← List.singleton_append, addAll_append, next, errors_addAll_singleton,
        refusal?_addAll_empty]
      rfl
  exact onward []

/-- **All conflicts are reported**, in the order of the definitions, and nothing else is. -/
theorem ofDefinitions_eq_error_iff {problem : SchemaProblem} :
    ofDefinitions definitions = .error problem ↔
      problem.errors = clashesAfter [] definitions ∧ clashesAfter [] definitions ≠ [] := by
  rw [← errors_addAll_empty]
  by_cases none : (empty.addAll definitions).2 = []
  · simp [ofDefinitions_of_nil none, none]
  · obtain ⟨errors⟩ := problem
    simp [ofDefinitions_of_ne_nil none, none, eq_comm]

end Registry

end SchemaAssembly
