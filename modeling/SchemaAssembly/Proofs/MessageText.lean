import SchemaAssembly.Proofs.Readability
import SchemaAssembly.Scalar.Coercion
import SchemaAssembly.Text.Name

/-!
# Values told from messages

A refusal quotes the text of the value that was refused. Names stand in that text as they are, and texts
stand in quotes in which backslashes are not escaped. Still no two values have the same text, as long as
there are no floating-point numbers in them and names are names of the schema language: what is quoted
says which value was refused.

## Main definitions

* `SchemaAssembly.Value.Legible` — a value without floating-point numbers, in which names are names.
* `SchemaAssembly.messageLayout` — the layout of texts in messages.

## Main results

* `SchemaAssembly.Value.spell_signs_message` — the text of a value is laid out like that.
* `SchemaAssembly.Value.text_identifies` — a value can be told from its text, and from its refusal.
-/

set_option relaxedAutoImplicit false
set_option autoImplicit false

namespace SchemaAssembly

/-! ## Legible values -/

/-- The words that are no names of enum values. -/
def Value.reservedWords : List String := ["null", "true", "false"]

/-- **A value whose text is legible**: there are no floating-point numbers in it, at any depth, its keys are
names, and so are its enum values, other than those words that stand for something else. -/
def Value.Legible : Value → Prop :=
  Value.MadeOf (Value.IsLeaf fun name => Text.isName name = true ∧ name ∉ Value.reservedWords)
    fun key => Text.isName key = true

/-! ## The layout of messages -/

/-- **The layout of messages**: a blank follows each comma and each colon, and names are not put in
quotes. -/
def messageLayout : Layout where
  gap := [' ']
  plain := by simp [Sign.Plain]
  name name := Sign.marks name.toList
  number value := (Value.textStyle.text value).toList

namespace Value

/-- The texts of items are those of each of them. -/
theorem itemChars_eq_map (items : List Value) : itemChars items = items.map chars := by
  induction items with
  | nil => rfl
  | cons item rest ih => rw [itemChars, ih, List.map_cons]

/-- The texts of entries are those of each of them. -/
theorem entryChars_eq_map (entries : List (String × Value)) :
    entryChars entries = entries.map fun entry => entry.1.toList ++ ':' :: ' ' :: entry.2.chars := by
  induction entries with
  | nil => rfl
  | cons entry rest ih => rw [entryChars, ih, List.map_cons]

/-- **The text of a value is laid out as messages are**, with quotes escaped and nothing else. -/
theorem spell_signs_message (value : Value) :
    Sign.spell Text.bareChar (value.signs messageLayout) = value.chars := by
  induction value using Value.induction with
  | list items ih =>
    rw [spell_signs_list, List.map_congr_left ih, chars, itemChars_eq_map]
    rfl
  | object entries ih =>
    have each : ∀ entry ∈ entries, Sign.spell Text.bareChar (messageLayout.name entry.1) ++
        ':' :: (messageLayout.gap ++ Sign.spell Text.bareChar (entry.2.signs messageLayout)) =
          entry.1.toList ++ ':' :: ' ' :: entry.2.chars := by
      intro entry h
      rw [ih entry h, messageLayout, Sign.spell_marks]
      rfl
    rw [spell_signs_object, List.map_congr_left each, chars, entryChars_eq_map]
    rfl
  | string value => exact List.append_nil _
  | _ => exact Sign.spell_marks _ _

/-! ## Names read back -/

/-- The characters of a name may be parts of words. -/
theorem isWord_of_isName {name : String} (is : Text.isName name = true) :
    Sign.IsWord (Sign.marks name.toList) := by
  obtain ⟨first, rest, characters, start, parts⟩ := Text.exists_cons_of_isName is
  have part : ∀ {c : Char}, Text.isNamePart c = true → (Sign.mark c).isPart = true := by
    intro c h
    rw [Text.isNamePart, Bool.or_eq_true] at h
    rcases h with h | h <;> simp_all [Sign.isPart]
  have start' : Text.isNamePart first = true := by
    rw [Text.isNameStart, Bool.or_eq_true] at start
    rcases start with h | h <;> simp_all [Text.isNamePart, Char.isAlphanum]
  rw [characters]
  refine ⟨List.cons_ne_nil _ _, List.forall_mem_map.2 (List.forall_mem_cons.2 ⟨part start', ?_⟩)⟩
  exact fun c h => part (parts c h)

/-- No name begins like a whole number. -/
theorem beginsNumber_of_isName {name : String} (is : Text.isName name = true) :
    beginsNumber name.toList = false := by
  obtain ⟨first, rest, characters, start, -⟩ := Text.exists_cons_of_isName is
  have minus : first ≠ '-' := by
    rintro rfl
    exact absurd start (by decide)
  simp [beginsNumber, characters, minus, Text.not_isDigit_of_isNameStart start]

/-- Keys that are names are read back. -/
theorem readsKey_message {key : String} (is : Text.isName key = true) : messageLayout.ReadsKey key :=
  ⟨isWord_of_isName is, (Sign.name_marks _).trans String.ofList_toList⟩

/-- Enum values whose names are names are read back, unless they read like something else. -/
theorem readsLeaf_message_enum {name : String} (is : Text.isName name = true)
    (free : name ∉ reservedWords) : messageLayout.ReadsLeaf (.enum name) := by
  have other : ∀ word ∈ reservedWords, name.toList ≠ word.toList :=
    fun word h same => free (String.toList_inj.1 same ▸ h)
  refine ⟨isWord_of_isName is, (ofWord_marks _).trans ?_⟩
  rw [ofCharacters, beginsNumber_of_isName is, if_neg Bool.false_ne_true,
    if_neg (other "null" (by decide)), if_neg (other "true" (by decide)),
    if_neg (other "false" (by decide)), String.ofList_toList]

/-- The leaves and keys of a legible value are read back. -/
theorem Legible.reads {value : Value} (legible : value.Legible) :
    value.MadeOf messageLayout.ReadsLeaf messageLayout.ReadsKey :=
  legible.mono (fun _ => Layout.readsLeaf fun _ h => readsLeaf_message_enum h.1 h.2)
    fun _ => readsKey_message

/-! ## Telling values -/

/-- **Legible values can be told from their texts.** -/
theorem eq_of_text_eq {value value' : Value} (legible : value.Legible) (legible' : value'.Legible)
    (same : value.text = value'.text) : value = value' := by
  refine eq_of_spell_signs Sign.delimits_bareChar legible.reads legible'.reads ?_
  rw [spell_signs_message, spell_signs_message]
  exact String.ofList_inj.1 same

/-- A refusal in either direction quotes the text of the value. -/
theorem found_of_refused {scalar : StandardScalar} {value : Value} {refusal : CoercionError}
    (refused : Coercing.serialize scalar value = .error refusal ∨
      Coercing.parseValue scalar value = .error refusal) : refusal.found = value.text := by
  have refused : scalar.coerce value = .error refusal := refused.elim id id
  unfold StandardScalar.coerce at refused
  split at refused <;> cases refused
  rfl

/-- **A legible value can be told from its text, and so from its refusal.** Two such values have the same
text only if they are the same, the order of entries included; and what a refusal by any of the standard
scalars quotes, in either direction, says which value was refused.

**Proof sketch.** The text of a value is a layout (`spell_signs_message`) in which the leaves and keys of a
legible value can be read back (`Legible.reads`). Signs can be told from characters although backslashes are
not escaped (`Sign.delimits_bareChar`), and values from signs (`eq_of_spell_signs`). -/
theorem text_identifies {value value' : Value} (legible : value.Legible)
    (legible' : value'.Legible) :
    (value.text = value'.text ↔ value = value') ∧
      ∀ (scalar scalar' : StandardScalar) (refusal refusal' : CoercionError),
        (Coercing.serialize scalar value = .error refusal ∨
          Coercing.parseValue scalar value = .error refusal) →
        (Coercing.serialize scalar' value' = .error refusal' ∨
          Coercing.parseValue scalar' value' = .error refusal') →
        refusal.found = refusal'.found → value = value' := by
  refine ⟨⟨eq_of_text_eq legible legible', congrArg text⟩, ?_⟩
  intro scalar scalar' refusal refusal' refused refused' found
  rw [found_of_refused refused, found_of_refused refused'] at found
  exact eq_of_text_eq legible legible' found

/-- A list of a text that ends with a backslash and of an enum value. -/
def backslashed : Value := .list [.string "a\\", .enum "b"]

/-- A list of a text with a quote in it. -/
def requoted : Value := .list [.string "a\", b]"]

/-- The text of the one list begins the text of the other, in which the backslash reads as an escape. The
lists are still told apart, also by what a scalar says that refuses them. -/
theorem text_identifies_backslashed :
    backslashed.Legible ∧ requoted.Legible ∧ backslashed.text = "[\"a\\\", b]" ∧
      requoted.text = backslashed.text ++ "\"]" ∧ requoted.text ≠ backslashed.text ∧
      ∃ refusal refusal', Coercing.serialize StandardScalar.string requoted = .error refusal ∧
        Coercing.parseValue StandardScalar.id backslashed = .error refusal' ∧
        refusal.found ≠ refusal'.found := by
  have legible : backslashed.Legible := .list (List.forall_mem_cons.2
    ⟨.leaf (.string _), List.forall_mem_singleton.2 (.leaf (.enum (by decide)))⟩)
  have legible' : requoted.Legible := .list (List.forall_mem_singleton.2 (.leaf (.string _)))
  obtain ⟨texts, refusals⟩ := text_identifies legible' legible
  have other : requoted ≠ backslashed := by simp [requoted, backslashed]
  refine ⟨legible, legible', by decide, by decide, texts.not.2 other, _, _, rfl, rfl, fun same => ?_⟩
  exact other (refusals .string .id _ _ (.inl rfl) (.inr rfl) same)

end Value

end SchemaAssembly
