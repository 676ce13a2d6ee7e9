import Mathlib.Data.List.Basic
import SchemaAssembly.Value.Json

/-!
# Texts made of signs

The text of a value is made of signs: single characters, and texts in quotes. Where a sign ends is plain
for a single character; a text in quotes ends at a quote that no escape takes in. Whether the signs can be
told from the characters is a matter of how texts are escaped inside of quotes.

Where backslashes are escaped, too, characters are told one by one. Where they are not, two readings may
part. A backslash before a quote may escape the quote, or it may be the last character of a text that the
quote ends. But then one reading is inside of quotes while the other is outside; and as long as signs
outside of quotes are neither quotes nor backslashes, every quote that follows moves both readings, so that
they stay on opposite sides and cannot both end outside.

## Main definitions

* `SchemaAssembly.Sign` — a sign; `SchemaAssembly.Sign.spell` — the characters of signs.
* `SchemaAssembly.Sign.Plain` — a sign that is in quotes, or is neither a quote nor a backslash.
* `SchemaAssembly.Sign.Delimits` — what is in quotes can be told from what follows.

## Main results

* `SchemaAssembly.Sign.not_opposite` — no characters can be read both from inside of quotes and from
  outside.
* `SchemaAssembly.Sign.delimits_of_read` — what is in quotes can be told if characters can be read.
* `SchemaAssembly.Sign.delimits_bareChar`, `delimits_jsonChar` — what is in quotes can be told, in messages
  and in JSON.
* `SchemaAssembly.Sign.spell_inj` — then signs can be told from their characters.
-/

set_option relaxedAutoImplicit false
set_option autoImplicit false

namespace SchemaAssembly

/-- A sign of a text. -/
inductive Sign
  /-- A single character. -/
  | mark (character : Char)
  /-- A text in quotes. -/
  | quoted (text : String)
deriving DecidableEq, Repr

namespace Sign

variable {escape : Char → List Char}

/-! ## Spelling -/

/-- The characters of a text inside of quotes, up to the quote that ends it. -/
def inside (escape : Char → List Char) (text : List Char) : List Char :=
  text.flatMap escape ++ ['"']

/-- The characters of a sign, if those of a text in quotes are escaped. -/
def chars (escape : Char → List Char) : Sign → List Char
  | mark c => [c]
  | quoted text => '"' :: inside escape text.toList

/-- **The characters of signs**, one after the other. -/
def spell (escape : Char → List Char) (signs : List Sign) : List Char := signs.flatMap (chars escape)

/-- A sign outside of quotes is neither a quote nor a backslash. -/
def Plain : Sign → Prop
  | mark c => c ≠ '"' ∧ c ≠ '\\'
  | quoted _ => True

/-- No signs are spelled by no characters. -/
@[simp] theorem spell_nil : spell escape [] = [] := rfl

/-- A single character spells itself. -/
@[simp] theorem spell_mark (c : Char) (signs : List Sign) :
    spell escape (mark c :: signs) = c :: spell escape signs := rfl

/-- A text in quotes is spelled between quotes. -/
@[simp] theorem spell_quoted (text : String) (signs : List Sign) :
    spell escape (quoted text :: signs) =
      '"' :: (inside escape text.toList ++ spell escape signs) := rfl

/-- Signs together are spelled one after the other. -/
theorem spell_append (signs others : List Sign) :
    spell escape (signs ++ others) = spell escape signs ++ spell escape others := List.flatMap_append

/-- The empty text inside of quotes is followed by the quote that ends it. -/
@[simp] theorem inside_nil (rest : List Char) : inside escape [] ++ rest = '"' :: rest := rfl

/-- The first character inside of quotes is escaped first. -/
@[simp] theorem inside_cons (c : Char) (text rest : List Char) :
    inside escape (c :: text) ++ rest = escape c ++ (inside escape text ++ rest) := by
  simp [inside]

/-! ## Telling signs -/

/-- **What is in quotes can be told from what follows**, if what follows is plain. -/
def Delimits (escape : Char → List Char) : Prop :=
  ∀ (text text' : List Char) (signs signs' : List Sign), (∀ sign ∈ signs, sign.Plain) →
    (∀ sign ∈ signs', sign.Plain) →
    inside escape text ++ spell escape signs = inside escape text' ++ spell escape signs' →
    text = text' ∧ spell escape signs = spell escape signs'

/-- **Signs can be told from their characters**, if they are plain and what is in quotes can be told.

**Proof sketch.** By induction on the signs. Of two signs that begin with the same character both are that
character, or both are in quotes, since no character outside of quotes is a quote. -/
theorem spell_inj (delimits : Delimits escape) {signs signs' : List Sign}
    (plain : ∀ sign ∈ signs, sign.Plain) (plain' : ∀ sign ∈ signs', sign.Plain)
    (same : spell escape signs = spell escape signs') : signs = signs' := by
  induction signs generalizing signs' with
  | nil =>
    cases signs' with
    | nil => rfl
    | cons sign' rest' => cases sign' <;> simp at same
  | cons sign rest ih =>
    obtain ⟨first, others⟩ := List.forall_mem_cons.1 plain
    cases signs' with
    | nil => cases sign <;> simp at same
    | cons sign' rest' =>
      obtain ⟨first', others'⟩ := List.forall_mem_cons.1 plain'
      cases sign with
      | mark c =>
        cases sign' with
        | mark c' =>
          obtain ⟨rfl, tails⟩ := List.cons.inj same
          rw [ih others others' tails]
        | quoted text' => exact absurd (List.cons.inj same).1 first.1
      | quoted text =>
        cases sign' with
        | mark c' => exact absurd (List.cons.inj same).1.symm first'.1
        | quoted text' =>
          obtain ⟨texts, tails⟩ :=
            delimits _ _ _ _ others others' (List.cons.inj same).2
          rw [String.toList_inj.1 texts, ih others others' tails]

/-! ## Quotes alone escaped -/

/-- A character other than a quote stands for itself in a message. -/
theorem bareChar_of_ne {c : Char} (other : c ≠ '"') : Text.bareChar c = [c] := if_neg other

/-- What follows inside of quotes never begins with a quote, unless the text ends. -/
theorem eq_nil_of_inside_bareChar {text rest rest' : List Char}
    (same : inside Text.bareChar text ++ rest = '"' :: rest') : text = [] ∧ rest = rest' := by
  cases text with
  | nil => exact ⟨rfl, (List.cons.inj same).2⟩
  | cons c text =>
    rw [inside_cons] at same
    by_cases quote : c = '"'
    · subst quote
      have first : '\\' = '"' := (List.cons.inj same).1
      exact absurd first (by decide)
    · rw [bareChar_of_ne quote] at same
      exact absurd (List.cons.inj same).1 quote

/-- **No characters can be read both from inside of quotes and from outside**, if only quotes are escaped.

**Proof sketch.** By recursion on the signs of both readings. From outside no backslash is read, so that
from inside no quote is escaped; the first quote therefore ends the text of the one reading and begins one
of the other. Then the readings have changed sides, and fewer signs follow. -/
theorem not_opposite (text : List Char) {signs signs' : List Sign}
    (plain : ∀ sign ∈ signs, sign.Plain) (plain' : ∀ sign ∈ signs', sign.Plain)
    (same : inside Text.bareChar text ++ spell Text.bareChar signs =
      spell Text.bareChar signs') : False := by
  match text, signs' with
  | [], [] => cases same
  | c :: text, [] => simp [Text.bareChar] at same; split at same <;> simp at same
  | [], mark c' :: rest' =>
    exact (List.forall_mem_cons.1 plain').1.1 (List.cons.inj same).1.symm
  | c :: text, mark c' :: rest' =>
    obtain ⟨first', others'⟩ := List.forall_mem_cons.1 plain'
    rw [inside_cons] at same
    by_cases quote : c = '"'
    · subst quote
      exact first'.2 (List.cons.inj same).1.symm
    · rw [bareChar_of_ne quote] at same
      exact not_opposite text plain others' (List.cons.inj same).2
  | text, quoted text' :: rest' =>
    obtain ⟨-, rest⟩ := eq_nil_of_inside_bareChar same
    exact not_opposite text'.toList (List.forall_mem_cons.1 plain').2 plain rest.symm
termination_by signs.length + signs'.length

/-- **What is in quotes can be told if only quotes are escaped.**

**Proof sketch.** By induction on one of the texts. Where the texts first differ one has a quote and the
other a backslash, as nothing else is spelled alike. The quote that follows the backslash then ends the
other text, and the readings are on opposite sides (`not_opposite`). -/
theorem delimits_bareChar : Delimits Text.bareChar := by
  -- A quote in the one text against a backslash in the other.
  have parted : ∀ {c : Char} {text text' : List Char} {signs signs' : List Sign}, c ≠ '"' →
      (∀ sign ∈ signs, sign.Plain) → (∀ sign ∈ signs', sign.Plain) →
      '\\' :: '"' :: (inside Text.bareChar text ++ spell Text.bareChar signs) ≠
        c :: (inside Text.bareChar text' ++ spell Text.bareChar signs') := by
    intro c text text' signs signs' quote plain plain' same
    obtain ⟨-, rest⟩ := eq_nil_of_inside_bareChar (List.cons.inj same).2.symm
    exact not_opposite text plain plain' rest.symm
  intro text text' signs signs' plain plain' same
  induction text generalizing text' with
  | nil =>
    obtain ⟨rfl, rest⟩ := eq_nil_of_inside_bareChar same.symm
    exact ⟨rfl, rest.symm⟩
  | cons c text ih =>
    cases text' with
    | nil =>
      obtain ⟨none, -⟩ := eq_nil_of_inside_bareChar same
      cases none
    | cons c' text' =>
      rw [inside_cons, inside_cons] at same
      by_cases quote : c = '"' <;> by_cases quote' : c' = '"'
      · subst quote quote'
        obtain ⟨rfl, rest⟩ := ih text' (List.append_cancel_left same)
        exact ⟨rfl, rest⟩
      · subst quote
        rw [bareChar_of_ne quote'] at same
        exact absurd same (parted quote' plain plain')
      · subst quote'
        rw [bareChar_of_ne quote] at same
        exact absurd same.symm (parted quote plain' plain)
      · rw [bareChar_of_ne quote, bareChar_of_ne quote'] at same
        obtain ⟨rfl, onward⟩ := List.cons.inj same
        obtain ⟨rfl, rest⟩ := ih text' onward
        exact ⟨rfl, rest⟩

/-! ## Characters read one by one -/

/-- **What is in quotes can be told if characters can be read one by one**, and if none is escaped to
anything that begins with a quote.

**Proof sketch.** By induction on one of the texts. Either both texts go on with a character, which reading
shows to be the same, or both have ended, as a quote begins no character. -/
theorem delimits_of_read {read : List Char → Option (Char × List Char)}
    (reads : ∀ c rest, read (escape c ++ rest) = some (c, rest))
    (unquoted : ∀ c rest rest', escape c ++ rest ≠ '"' :: rest') : Delimits escape := by
  intro text text' signs signs' plain plain' same
  induction text generalizing text' with
  | nil =>
    cases text' with
    | nil => exact ⟨rfl, (List.cons.inj same).2⟩
    | cons c' text' =>
      rw [inside_nil, inside_cons] at same
      exact absurd same.symm (unquoted _ _ _)
  | cons c text ih =>
    cases text' with
    | nil =>
      rw [inside_nil, inside_cons] at same
      exact absurd same (unquoted _ _ _)
    | cons c' text' =>
      rw [inside_cons, inside_cons] at same
      have firsts := congrArg read same
      rw [reads, reads] at firsts
      obtain ⟨rfl, onward⟩ := Prod.mk.inj (Option.some.inj firsts)
      obtain ⟨rfl, rest⟩ := ih text' onward
      exact ⟨rfl, rest⟩

/-! ## Backslashes escaped, too -/

/-- The number that a hexadecimal digit stands for. -/
def hexValue (digit : Char) : Nat := if digit.isDigit then digit.toNat - 48 else digit.toNat - 87

/-- The character that an escape of JSON stands for, and what follows. -/
def readEscape : List Char → Option (Char × List Char)
  | 'b' :: rest => some ('\x08', rest)
  | 't' :: rest => some ('\t', rest)
  | 'n' :: rest => some ('\n', rest)
  | 'f' :: rest => some ('\x0c', rest)
  | 'r' :: rest => some ('\r', rest)
  | 'u' :: _ :: _ :: high :: low :: rest =>
    some (Char.ofNat (16 * hexValue high + hexValue low), rest)
  | c :: rest => some (c, rest)
  | [] => none

/-- The first character of a text of JSON, with its escape resolved, and what follows. -/
def readJsonChar : List Char → Option (Char × List Char)
  | c :: rest => if c = '\\' then readEscape rest else some (c, rest)
  | [] => none

/-- Reading resolves the escapes of JSON. -/
theorem readJsonChar_jsonChar (c : Char) (rest : List Char) :
    readJsonChar (Value.jsonChar c ++ rest) = some (c, rest) := by
  have hex : ∀ digit < 16, hexValue (Nat.digitChar digit) = digit := by decide
  unfold Value.jsonChar
  split
  · next marked =>
    rw [Bool.or_eq_true, decide_eq_true_eq, decide_eq_true_eq] at marked
    rcases marked with rfl | rfl <;> rfl
  split
  · next h => rw [h]; rfl
  split
  · next h => rw [h]; rfl
  split
  · next h => rw [h]; rfl
  split
  · next h => rw [h]; rfl
  split
  · next h => rw [h]; rfl
  split
  · next control =>
    have value : 16 * hexValue (Nat.digitChar (c.toNat / 16)) +
        hexValue (Nat.digitChar (c.toNat % 16)) = c.toNat := by
      rw [hex _ (by omega), hex _ (by omega), Nat.div_add_mod]
    exact congrArg (fun n => some (Char.ofNat n, rest)) value |>.trans (by rw [Char.ofNat_toNat])
  · next marked _ _ _ _ _ _ =>
    have plain : c ≠ '\\' := by
      rintro rfl
      exact marked rfl
    exact if_neg plain

/-- No character of JSON is escaped to anything that begins with a quote. -/
theorem jsonChar_append_ne (c : Char) (rest rest' : List Char) :
    Value.jsonChar c ++ rest ≠ '"' :: rest' := by
  intro same
  have read : some (c, rest) = some ('"', rest') := by
    rw [← readJsonChar_jsonChar, same]
    rfl
  obtain ⟨rfl, -⟩ := Prod.mk.inj (Option.some.inj read)
  have first : '\\' = '"' := (List.cons.inj same).1
  exact absurd first (by decide)

/-- **What is in quotes can be told in JSON.** -/
theorem delimits_jsonChar : Delimits Value.jsonChar :=
  delimits_of_read readJsonChar_jsonChar jsonChar_append_ne

end Sign

end SchemaAssembly
