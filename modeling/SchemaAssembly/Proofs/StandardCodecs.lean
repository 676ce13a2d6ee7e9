import Mathlib
import SchemaAssembly.Proofs.Readability
import SchemaAssembly.Scalar.Coercion

/-!
# The standard codecs

A standard scalar converts values by one rule in either direction, and reads literals by a second one, which
looks at numbers, texts and truth values and refuses the rest. The two agree through folding. What a standard
scalar refuses to read is folded to what it refuses to take; so it does not matter whether a constant is
written in a document or folded and passed on as a variable.

Some conversions change what kind of value there is. A whole number is taken as a floating-point number, or
as an identifier by its digits. What comes out then is of the kind that the scalar has for its own, and
values of that kind are left as they are. This makes conversions idempotent, and what goes out can be taken
in again.

## Main definitions

* `SchemaAssembly.StandardScalar.Own` — the values that a standard scalar leaves as they are.
* `SchemaAssembly.IsDecimal` — texts of decimal digits.

## Main results

* `SchemaAssembly.StandardScalar.readLiteral_eq_ok_iff` — reading a literal is taking its fold.
* `SchemaAssembly.StandardScalar.own_of_coerce?`, `coerce?_of_own` — what comes out is left as it is.
* `SchemaAssembly.StandardScalar.codec_laws` — the laws of the standard codecs.
-/

set_option relaxedAutoImplicit false
set_option autoImplicit false

namespace SchemaAssembly

/-- **A text of decimal digits**, with a minus before them or without. -/
def IsDecimal (text : String) : Prop :=
  ∃ digits : List Char, digits ≠ [] ∧ (∀ c ∈ digits, c.isDigit = true) ∧
    (text.toList = digits ∨ text.toList = '-' :: digits)

/-- A whole number is written in decimal digits. -/
theorem isDecimal_repr (i : Int) : IsDecimal i.repr := by
  have digits : ∀ (n : Nat), ∀ c ∈ Nat.toDigits 10 n, c.isDigit = true :=
    fun n c h => Nat.isDigit_of_mem_toDigits (by decide) (by decide) h
  obtain ⟨n, -, written⟩ | ⟨n, -, written⟩ := Layout.toList_repr_cases i
  · exact ⟨Nat.toDigits 10 n, Nat.toDigits_ne_nil, digits n, .inl written⟩
  · exact ⟨Nat.toDigits 10 n, Nat.toDigits_ne_nil, digits n, .inr written⟩

namespace StandardScalar

variable {scalar : StandardScalar} {value converted : Value}

/-! ## Conversions -/

/-- A conversion succeeds with what the scalar makes of the value. -/
theorem coerce_eq_ok_iff : scalar.coerce value = .ok converted ↔ scalar.coerce? value = some converted := by
  unfold coerce
  cases scalar.coerce? value <;> simp

/-- **Reading a literal is taking its fold.** Null, enum values, lists and objects are refused on both
ways. -/
theorem readLiteral_eq_ok_iff {literal : Literal} :
    scalar.readLiteral literal = .ok converted ↔ scalar.coerce literal.fold = .ok converted := by
  cases literal with
  | int | float | string | boolean => exact Iff.rfl
  | null | enum | list | object =>
    rw [coerce_eq_ok_iff]
    cases scalar <;> simp [readLiteral, coerce?, Literal.fold, Value.ofEntries]

/-- **The values of a standard scalar's own kind**: whole numbers of 32 bits, floating-point numbers, texts
and truth values. -/
inductive Own : StandardScalar → Value → Prop
  /-- A whole number of 32 bits. -/
  | int {i : Int64} (fits : fits32 i = true) : Own int (.int i)
  /-- A floating-point number. -/
  | float (x : Float) : Own float (.float x)
  /-- A text. -/
  | string (s : String) : Own string (.string s)
  /-- A truth value. -/
  | boolean (b : Bool) : Own boolean (.boolean b)
  /-- The text of an identifier. -/
  | id (s : String) : Own id (.string s)

/-- What comes out of a conversion is of the scalar's own kind. -/
theorem own_of_coerce? (taken : scalar.coerce? value = some converted) : scalar.Own converted := by
  unfold coerce? at taken
  split at taken
  · split at taken
    · next fits =>
      cases taken
      exact .int fits
    · cases taken
  · cases taken
    exact .float _
  · cases taken
    exact .float _
  · cases taken
    exact .string _
  · cases taken
    exact .boolean _
  · cases taken
    exact .id _
  · cases taken
    exact .id _
  · cases taken

/-- Values of the scalar's own kind are left as they are. -/
theorem coerce?_of_own (own : scalar.Own value) : scalar.coerce? value = some value := by
  cases own with
  | int fits => exact if_pos fits
  | _ => rfl

/-- **Conversions are idempotent.** -/
theorem coerce_of_coerce (taken : scalar.coerce value = .ok converted) :
    scalar.coerce converted = .ok converted :=
  coerce_eq_ok_iff.2 (coerce?_of_own (own_of_coerce? (coerce_eq_ok_iff.1 taken)))

/-! ## Whole numbers -/

/-- **Whole numbers of 32 bits** and nothing else, left as they are. -/
def Takes32 (value converted : Value) : Prop :=
  ∃ i : Int64, value = .int i ∧ -2147483648 ≤ i.toInt ∧ i.toInt ≤ 2147483647 ∧ converted = .int i

/-- A whole number fits into 32 bits if it lies between the least and the greatest number of these. -/
theorem fits32_iff {i : Int64} :
    fits32 i = true ↔ -2147483648 ≤ i.toInt ∧ i.toInt ≤ 2147483647 := by
  have least : Int32.minValue.toInt = -2147483648 := by decide
  have greatest : Int32.maxValue.toInt = 2147483647 := by decide
  rw [fits32, Bool.and_eq_true, decide_eq_true_eq, decide_eq_true_eq, least, greatest]

/-- The scalar of whole numbers takes those of 32 bits. -/
theorem coerce_int_eq_ok_iff : int.coerce value = .ok converted ↔ Takes32 value converted := by
  rw [coerce_eq_ok_iff]
  cases value with
  | int i =>
    rw [coerce?, Option.ite_none_right_eq_some, fits32_iff, Option.some.injEq]
    constructor
    · rintro ⟨⟨low, high⟩, rfl⟩
      exact ⟨i, rfl, low, high, rfl⟩
    · rintro ⟨j, own, low, high, rfl⟩
      obtain rfl := Value.int.inj own
      exact ⟨⟨low, high⟩, rfl⟩
  | _ => simp [coerce?, Takes32]

/-- A literal that folds to a whole number is one. -/
theorem fold_eq_int_iff {literal : Literal} {i : Int64} :
    literal.fold = .int i ↔ literal = .int i := by
  cases literal <;> simp [Literal.fold, Value.ofEntries]

/-! ## All laws -/

/-- **The laws of the standard codecs.** A literal is read exactly as its fold is taken. What goes out of a
codec goes out again as it is, and can be taken in as it is. Whole numbers are taken and read if they have 32
bits, and nothing else is; they are left as they are. A whole number makes an identifier of decimal digits,
from which it is read back, so that different numbers make different identifiers.

**Proof sketch.** Both ways of a literal come down to one rule for values (`readLiteral_eq_ok_iff`). What
comes out of that rule is of the scalar's own kind (`own_of_coerce?`), and such values are left as they are
(`coerce?_of_own`). Digits are read back by the library's reader of whole numbers. -/
theorem codec_laws :
    (∀ (scalar : StandardScalar) (literal : Literal) (w : Value),
      Coercing.parseLiteral scalar literal = .ok w ↔ Coercing.parseValue scalar literal.fold = .ok w) ∧
    (∀ (scalar : StandardScalar) (v w : Value), Coercing.serialize scalar v = .ok w →
      Coercing.serialize scalar w = .ok w ∧ Coercing.parseValue scalar w = .ok w) ∧
    (∀ v w : Value, (Coercing.serialize int v = .ok w ↔ Takes32 v w) ∧
      (Coercing.parseValue int v = .ok w ↔ Takes32 v w)) ∧
    (∀ (literal : Literal) (w : Value), Coercing.parseLiteral int literal = .ok w ↔
      ∃ i : Int64, literal = .int i ∧ Takes32 (.int i) w) ∧
    (∀ i : Int64, ∃ digits : String, IsDecimal digits ∧ digits.toInt? = some i.toInt ∧
      Coercing.serialize id (.int i) = .ok (.string digits) ∧
      Coercing.parseValue id (.int i) = .ok (.string digits) ∧
      Coercing.parseLiteral id (.int i) = .ok (.string digits)) ∧
    ∀ i j : Int64, Coercing.serialize id (.int i) = Coercing.serialize id (.int j) → i = j := by
  refine ⟨fun scalar literal w => readLiteral_eq_ok_iff, fun scalar v w out => ?_, fun v w => ?_,
    fun literal w => ?_, fun i => ?_, fun i j same => ?_⟩
  · exact ⟨coerce_of_coerce out, coerce_of_coerce out⟩
  · exact ⟨coerce_int_eq_ok_iff, coerce_int_eq_ok_iff⟩
  · have read : Coercing.parseLiteral int literal = .ok w ↔ Takes32 literal.fold w :=
      readLiteral_eq_ok_iff.trans coerce_int_eq_ok_iff
    rw [read]
    constructor
    · rintro ⟨i, folded, low, high, rfl⟩
      exact ⟨i, fold_eq_int_iff.1 folded, i, rfl, low, high, rfl⟩
    · rintro ⟨i, rfl, taken⟩
      exact taken
  · exact ⟨i.toInt.repr, isDecimal_repr _, Int.toInt?_repr _, rfl, rfl, rfl⟩
  · have digits : i.toInt.repr = j.toInt.repr := by
      injection same with same
      injection same
    exact Int64.toInt_inj.1 (Int.repr_injective digits)

/-- The greatest number of 32 bits is taken and read, and the next one is not. A number goes out as a
floating-point number, and that can be taken in again. An enum value is neither read as a truth value nor,
folded, taken as one. Numbers of either sign make different identifiers. -/
theorem codec_laws_borders :
    Coercing.parseLiteral int (.int 2147483647) = .ok (.int 2147483647) ∧
    (∀ w, Coercing.parseValue int (.int 2147483648) ≠ .ok w) ∧
    Coercing.serialize float (.int 3) = .ok (.float (Float.ofInt 3)) ∧
    Coercing.parseValue float (.float (Float.ofInt 3)) = .ok (.float (Float.ofInt 3)) ∧
    (∀ w, Coercing.parseLiteral boolean (.enum "YES") ≠ .ok w) ∧
    (∀ w, Coercing.parseValue boolean (.enum "YES") ≠ .ok w) ∧
    Coercing.serialize id (.int 7) ≠ Coercing.serialize id (.int (-7)) := by
  obtain ⟨literals, again, values32, literals32, -, apart⟩ := codec_laws
  have greatest : Takes32 (.int 2147483647) (.int 2147483647) :=
    ⟨2147483647, rfl, by decide, by decide, rfl⟩
  have out : Coercing.serialize float (.int 3) = .ok (.float (Float.ofInt 3)) := rfl
  have refused : ∀ w, Coercing.parseLiteral boolean (.enum "YES") ≠ .ok w := nofun
  refine ⟨(literals32 _ _).2 ⟨_, rfl, greatest⟩, fun w taken => ?_, out, (again _ _ _ out).2, refused,
    fun w taken => refused w ((literals _ _ _).2 taken), fun same => ?_⟩
  · obtain ⟨i, own, -, high, -⟩ := (values32 _ _).2.1 taken
    obtain rfl := Value.int.inj own
    exact absurd high (by decide)
  · exact absurd (apart _ _ same) (by decide)

end StandardScalar

end SchemaAssembly
