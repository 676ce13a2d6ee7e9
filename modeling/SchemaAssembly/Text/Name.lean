/-!
# Names

A name of the schema language consists of letters, digits and underscores, and does not begin with a
digit. Types, fields, arguments, enum values and the keys of objects are named like that, wherever a
schema or a value is written down.

## Main definitions

* `SchemaAssembly.Text.isNameStart`, `isNamePart` — the characters of names.
* `SchemaAssembly.Text.isName` — whether a text is a name.

## Main results

* `SchemaAssembly.Text.exists_cons_of_isName` — how a name begins, and how it goes on.
* `SchemaAssembly.Text.not_isDigit_of_isNameStart` — a name does not begin with a digit.
-/

set_option relaxedAutoImplicit false
set_option autoImplicit false

namespace SchemaAssembly

namespace Text

/-- Whether a character may begin a name. -/
def isNameStart (c : Char) : Bool := c = '_' || c.isAlpha

/-- Whether a character may go on with a name. -/
def isNamePart (c : Char) : Bool := c = '_' || c.isAlphanum

/-- Whether a text is a name of the schema language: letters, digits and underscores, of which the first is
no digit. -/
def isName (name : String) : Bool :=
  match name.toList with
  | [] => false
  | first :: rest => isNameStart first && rest.all isNamePart

/-- A name begins with a letter or an underscore, and goes on with letters, digits and underscores. -/
theorem exists_cons_of_isName {name : String} (is : isName name = true) :
    ∃ first rest, name.toList = first :: rest ∧ isNameStart first = true ∧
      ∀ c ∈ rest, isNamePart c = true := by
  unfold isName at is
  split at is
  · cases is
  · next first rest characters =>
    rw [Bool.and_eq_true, List.all_eq_true] at is
    exact ⟨first, rest, characters, is⟩

/-- A name does not begin with a digit. -/
theorem not_isDigit_of_isNameStart {c : Char} (start : isNameStart c = true) :
    c.isDigit = false := by
  refine Bool.eq_false_iff.2 fun digit => ?_
  have high : c.val ≤ '9'.val := of_decide_eq_true (Bool.and_eq_true_iff.1 digit).2
  -- Letters and the underscore come after the digits.
  have low : 'A'.val ≤ c.val := by
    rw [isNameStart, Bool.or_eq_true, decide_eq_true_eq] at start
    rcases start with rfl | letter
    · decide
    · rcases Bool.or_eq_true_iff.1 letter with upper | lower
      · exact (of_decide_eq_true upper).1
      · have low : 'a'.val ≤ c.val := of_decide_eq_true (Bool.and_eq_true_iff.1 lower).1
        exact UInt32.le_trans (by decide) low
  exact absurd (UInt32.le_trans low high) (by decide)

end Text

end SchemaAssembly
