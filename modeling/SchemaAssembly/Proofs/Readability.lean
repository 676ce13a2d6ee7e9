import SchemaAssembly.Proofs.Folding
import SchemaAssembly.Proofs.Signs

/-!
# Values told from their signs

The texts of values in messages and in JSON are laid out alike: lists and objects in brackets, parts
separated by commas, and everything else as a word. They differ in what follows a comma or a colon, and
in whether names are put in quotes. Any such layout is unambiguous if each word can be read back. A word
goes on as long as its signs are parts of words, and what follows it is no such sign. How many parts a list
or an object has, and where each of them ends, then shows along the way, to any depth.

## Main definitions

* `SchemaAssembly.Layout` — a layout; `SchemaAssembly.Value.signs` — the signs of a value.
* `SchemaAssembly.Sign.IsWord` — signs that are parts of words; `SchemaAssembly.Sign.Ends` — what may
  follow a word.
* `SchemaAssembly.Value.MadeOf` — a value that consists of given leaves and keys, at any depth;
  `SchemaAssembly.Value.IsLeaf` — a leaf that is no floating-point number.
* `SchemaAssembly.Value.ofWord`, `SchemaAssembly.Sign.name` — reading back a leaf and a name.
* `SchemaAssembly.Layout.ReadsLeaf`, `SchemaAssembly.Layout.ReadsKey` — a layout in which a leaf or a key
  can be read back.

## Main results

* `SchemaAssembly.Sign.append_inj_of_isWord` — where a word ends.
* `SchemaAssembly.Layout.listing_inj` — where the parts of a list or an object end.
* `SchemaAssembly.Value.signs_append_inj` — where a value ends.
* `SchemaAssembly.Value.eq_of_spell_signs` — a value can be told from the characters of its signs.
* `SchemaAssembly.Layout.readsLeaf_null` and the lemmas beside it — what is read back in every layout.
-/

set_option relaxedAutoImplicit false
set_option autoImplicit false

namespace SchemaAssembly

/-! ## Words -/

namespace Sign

/-- Whether a sign may be part of a word: a letter, a digit, an underscore, a minus, or anything in
quotes. -/
def isPart : Sign → Bool
  | mark c => c.isAlphanum || c = '_' || c = '-'
  | quoted _ => true

/-- Single characters as signs. -/
def marks (characters : List Char) : List Sign := characters.map mark

/-- **Signs that make a word.** -/
structure IsWord (signs : List Sign) : Prop where
  /-- There are some. -/
  nonempty : signs ≠ []
  /-- Each of them may be part of a word. -/
  parts : ∀ sign ∈ signs, sign.isPart = true

/-- **What may follow a word**: nothing, or a sign that is no part of a word. -/
def Ends (rest : List Sign) : Prop := ∀ sign ∈ rest.head?, sign.isPart = false

/-- Nothing may follow a word. -/
theorem ends_nil : Ends [] := nofun

/-- A sign that is no part of a word may follow one. -/
theorem ends_cons (sign : Sign) (other : sign.isPart = false) (rest : List Sign) :
    Ends (sign :: rest) := by
  intro first h
  rwa [← Option.some.inj h]

/-- A part of a word is plain. -/
theorem plain_of_isPart {sign : Sign} (part : sign.isPart = true) : sign.Plain := by
  cases sign with
  | mark c =>
    constructor <;>
    · rintro rfl
      revert part
      decide
  | quoted text => trivial

/-- **Where a word ends.** Signs that make a word can be told from what may follow one. -/
theorem append_inj_of_isWord {word word' rest rest' : List Sign} (is : IsWord word)
    (is' : IsWord word') (ends : Ends rest) (ends' : Ends rest')
    (same : word ++ rest = word' ++ rest') : word = word' ∧ rest = rest' := by
  have taken : ∀ {word rest : List Sign}, IsWord word → Ends rest →
      (word ++ rest).takeWhile isPart = word := by
    intro word rest is ends
    rw [List.takeWhile_append_of_pos is.parts]
    cases rest with
    | nil => exact List.append_nil word
    | cons sign rest =>
      rw [List.takeWhile_cons_of_neg (by simp [ends sign rfl]), List.append_nil]
  have words : word = word' := by rw [← taken is ends, same, taken is' ends']
  subst words
  exact ⟨rfl, List.append_cancel_left same⟩

/-- How signs begin that stand at the beginning of a part: not with a closing bracket. -/
def Begins (signs : List Sign) : Prop :=
  ∃ sign rest, signs = sign :: rest ∧ sign ≠ mark ']' ∧ sign ≠ mark '\x7d'

/-- A word begins with a part of a word. -/
theorem IsWord.exists_cons {word : List Sign} (is : IsWord word) :
    ∃ sign rest, word = sign :: rest ∧ sign.isPart = true := by
  obtain ⟨sign, rest, rfl⟩ := List.exists_cons_of_ne_nil is.nonempty
  exact ⟨sign, rest, rfl, is.parts sign (.head _)⟩

/-- What begins with a word does not begin with a closing bracket. -/
theorem IsWord.begins {word : List Sign} (is : IsWord word) (rest : List Sign) :
    Begins (word ++ rest) := by
  obtain ⟨sign, others, rfl, part⟩ := is.exists_cons
  refine ⟨sign, others ++ rest, rfl, ?_, ?_⟩ <;>
  · rintro rfl
    revert part
    decide

end Sign

/-! ## Layouts -/

/-- **How the text of a value is laid out.** -/
structure Layout where
  /-- What follows a comma or a colon. -/
  gap : List Char
  /-- What follows a comma or a colon is neither a quote nor a backslash. -/
  plain : ∀ c ∈ gap, (Sign.mark c).Plain
  /-- The signs of the name of an entry or of an enum value. -/
  name : String → List Sign
  /-- The characters of a floating-point number. -/
  number : Float → List Char

namespace Layout

variable (layout : Layout)

/-- A comma or a colon, with what follows it. -/
def separator (character : Char) : List Sign := .mark character :: Sign.marks layout.gap

/-- The parts after the first one, and the bracket that closes them. -/
def more (closing : Char) (parts : List (List Sign)) : List Sign :=
  parts.flatMap (layout.separator ',' ++ ·) ++ [.mark closing]

/-- Parts between brackets, separated by commas. -/
def listing (opening closing : Char) : List (List Sign) → List Sign
  | [] => [.mark opening, .mark closing]
  | first :: rest => .mark opening :: (first ++ layout.more closing rest)

end Layout

namespace Value

mutual

/-- **The signs of a value.** -/
def signs (layout : Layout) : Value → List Sign
  | .null => Sign.marks "null".toList
  | .int value => Sign.marks (toString value.toInt).toList
  | .float value => Sign.marks (layout.number value)
  | .string value => [.quoted value]
  | .boolean value => Sign.marks (toString value).toList
  | .enum name => layout.name name
  | .list items => layout.listing '[' ']' (itemSigns layout items)
  | .object entries => layout.listing '\x7b' '\x7d' (entrySigns layout entries)

/-- The signs of each item of a list. -/
def itemSigns (layout : Layout) : List Value → List (List Sign)
  | [] => []
  | item :: rest => signs layout item :: itemSigns layout rest

/-- The signs of each entry of an object. -/
def entrySigns (layout : Layout) : List (String × Value) → List (List Sign)
  | [] => []
  | (name, value) :: rest =>
    (layout.name name ++ (layout.separator ':' ++ signs layout value)) :: entrySigns layout rest

end

variable (layout : Layout)

/-- Items are laid out one by one. -/
theorem itemSigns_eq_map (items : List Value) :
    itemSigns layout items = items.map (signs layout) := by
  induction items with
  | nil => rfl
  | cons item rest ih => rw [itemSigns, ih, List.map_cons]

/-- Entries are laid out one by one. -/
theorem entrySigns_eq_map (entries : List (String × Value)) :
    entrySigns layout entries = entries.map fun entry =>
      layout.name entry.1 ++ (layout.separator ':' ++ signs layout entry.2) := by
  induction entries with
  | nil => rfl
  | cons entry rest ih => rw [entrySigns, ih, List.map_cons]

end Value

/-! ### What is laid out, in characters -/

/-- Single characters spell themselves. -/
@[simp] theorem Sign.spell_marks (escape : Char → List Char) (characters : List Char) :
    Sign.spell escape (Sign.marks characters) = characters := by
  induction characters with
  | nil => rfl
  | cons c rest ih => exact congrArg (c :: ·) ih

/-- Separated parts are the first one, and then the others with a separator before each. -/
theorem Value.separated_cons (separator first : List Char) (rest : List (List Char)) :
    Value.separated separator (first :: rest) = first ++ rest.flatMap (separator ++ ·) := by
  induction rest generalizing first with
  | nil => exact (List.append_nil first).symm
  | cons next rest ih => rw [Value.separated, ih, List.flatMap_cons, List.append_assoc,
      List.append_assoc]

/-- Parts between brackets are spelled between brackets, separated. -/
theorem Layout.spell_listing (layout : Layout) (escape : Char → List Char) (opening closing : Char)
    (parts : List (List Sign)) :
    Sign.spell escape (layout.listing opening closing parts) =
      opening :: (Value.separated (',' :: layout.gap) (parts.map (Sign.spell escape)) ++ [closing]) := by
  cases parts with
  | nil => rfl
  | cons first rest =>
    have others : Sign.spell escape (rest.flatMap (layout.separator ',' ++ ·)) =
        (rest.map (Sign.spell escape)).flatMap (',' :: layout.gap ++ ·) := by
      induction rest with
      | nil => rfl
      | cons next rest ih =>
        rw [List.flatMap_cons, Sign.spell_append, Sign.spell_append, ih, List.map_cons,
          List.flatMap_cons, Layout.separator, Sign.spell_mark, Sign.spell_marks]
    rw [Layout.listing, Sign.spell_mark, Sign.spell_append, Layout.more, Sign.spell_append, others,
      List.map_cons, Value.separated_cons, List.append_assoc]
    rfl

/-- A list is spelled as its items are, between brackets and separated. -/
theorem Value.spell_signs_list (layout : Layout) (escape : Char → List Char) (items : List Value) :
    Sign.spell escape ((Value.list items).signs layout) =
      '[' :: (Value.separated (',' :: layout.gap)
        (items.map fun item => Sign.spell escape (item.signs layout)) ++ [']']) := by
  rw [Value.signs, Layout.spell_listing, Value.itemSigns_eq_map, List.map_map]
  rfl

/-- An object is spelled as its entries are, between brackets and separated, and an entry as its name and
what it holds, with a colon between them. -/
theorem Value.spell_signs_object (layout : Layout) (escape : Char → List Char)
    (entries : List (String × Value)) :
    Sign.spell escape ((Value.object entries).signs layout) =
      '\x7b' :: (Value.separated (',' :: layout.gap)
        (entries.map fun entry => Sign.spell escape (layout.name entry.1) ++
          ':' :: (layout.gap ++ Sign.spell escape (entry.2.signs layout))) ++ ['\x7d']) := by
  have entry : ∀ entry : String × Value, Sign.spell escape
      (layout.name entry.1 ++ (layout.separator ':' ++ entry.2.signs layout)) =
        Sign.spell escape (layout.name entry.1) ++
          ':' :: (layout.gap ++ Sign.spell escape (entry.2.signs layout)) := by
    intro entry
    rw [Sign.spell_append, Sign.spell_append, Layout.separator, Sign.spell_mark, Sign.spell_marks]
    rfl
  rw [Value.signs, Layout.spell_listing, Value.entrySigns_eq_map, List.map_map]
  simp only [Function.comp_def, entry]

/-! ## Telling parts -/

namespace Layout

variable {layout : Layout} {α : Type} {f : α → List Sign} {closing : Char}

/-- Of no parts there are only the brackets. -/
theorem listing_nil_append (opening closing : Char) (rest : List Sign) :
    layout.listing opening closing [] ++ rest = .mark opening :: .mark closing :: rest := rfl

/-- After the opening bracket stands the first part. -/
theorem listing_cons_append (opening closing : Char) (first : List Sign) (parts : List (List Sign))
    (rest : List Sign) : layout.listing opening closing (first :: parts) ++ rest =
      .mark opening :: (first ++ (layout.more closing parts ++ rest)) := by
  rw [listing, List.cons_append, List.append_assoc]

/-- A listing begins with its bracket, and no word does. -/
theorem listing_append_ne {opening closing : Char} {parts : List (List Sign)}
    {word rest rest' : List Sign} (bracket : (Sign.mark opening).isPart = false)
    (is : Sign.IsWord word) : layout.listing opening closing parts ++ rest ≠ word ++ rest' := by
  obtain ⟨sign, others, rfl, part⟩ := is.exists_cons
  intro same
  have first : Sign.mark opening = sign := by
    cases parts <;> exact (List.cons.inj same).1
  rw [← first, bracket] at part
  cases part

/-- A separator is plain if its first character is. -/
theorem plain_separator {c : Char} (plain : (Sign.mark c).Plain) :
    ∀ sign ∈ layout.separator c, sign.Plain :=
  List.forall_mem_cons.2 ⟨plain, List.forall_mem_map.2 layout.plain⟩

/-- A listing is plain if its brackets and its parts are. -/
theorem plain_listing {opening : Char} {parts : List (List Sign)}
    (plain : (Sign.mark opening).Plain) (plain' : (Sign.mark closing).Plain)
    (each : ∀ part ∈ parts, ∀ sign ∈ part, sign.Plain) :
    ∀ sign ∈ layout.listing opening closing parts, sign.Plain := by
  cases parts with
  | nil => exact List.forall_mem_cons.2 ⟨plain, List.forall_mem_singleton.2 plain'⟩
  | cons first rest =>
    obtain ⟨head, others⟩ := List.forall_mem_cons.1 each
    rw [listing, List.forall_mem_cons, List.forall_mem_append, more, List.forall_mem_append]
    refine ⟨plain, head, fun sign h => ?_, List.forall_mem_singleton.2 plain'⟩
    obtain ⟨part, hp, h⟩ := List.mem_flatMap.1 h
    rcases List.mem_append.1 h with h | h
    · exact plain_separator (by simp [Sign.Plain]) sign h
    · exact others part hp sign h

/-- Before the next part stands a comma, and after the last one a bracket. -/
theorem ends_more (bracket : (Sign.mark closing).isPart = false) (parts : List (List Sign))
    (rest : List Sign) : Sign.Ends (layout.more closing parts ++ rest) := by
  cases parts with
  | nil => exact Sign.ends_cons _ bracket rest
  | cons first others => exact Sign.ends_cons (.mark ',') (by decide) _

/-- Where the parts after the first one end, if it can be told where each of them ends. -/
theorem more_inj (bracket : (Sign.mark closing).isPart = false) (comma : closing ≠ ',')
    {as bs : List α}
    (each : ∀ a ∈ as, ∀ b ∈ bs, ∀ rest rest', Sign.Ends rest → Sign.Ends rest' →
      f a ++ rest = f b ++ rest' → a = b ∧ rest = rest')
    {rest rest' : List Sign}
    (same : layout.more closing (as.map f) ++ rest = layout.more closing (bs.map f) ++ rest') :
    as = bs ∧ rest = rest' := by
  induction as generalizing bs with
  | nil =>
    cases bs with
    | nil => exact ⟨rfl, (List.cons.inj same).2⟩
    | cons b bs => exact absurd (Sign.mark.inj (List.cons.inj same).1) comma
  | cons a as ih =>
    cases bs with
    | nil => exact absurd (Sign.mark.inj (List.cons.inj same).1).symm comma
    | cons b bs =>
      have split : ∀ (a : α) (as : List α) (rest : List Sign),
          layout.more closing ((a :: as).map f) ++ rest =
            layout.separator ',' ++ (f a ++ (layout.more closing (as.map f) ++ rest)) := by
        intro a as rest
        rw [more, List.map_cons, List.flatMap_cons]
        simp only [List.append_assoc, more]
      rw [split, split] at same
      obtain ⟨rfl, onward⟩ := each a (.head _) b (.head _) _ _ (ends_more bracket _ _)
        (ends_more bracket _ _) (List.append_cancel_left same)
      obtain ⟨rfl, rest⟩ := ih (fun a ha b hb => each a (.tail _ ha) b (.tail _ hb)) onward
      exact ⟨rfl, rest⟩

/-- **Where the parts of a list or an object end**, if it can be told where each of them ends and no part
begins with a closing bracket.

**Proof sketch.** After the opening bracket stands either the closing one or the first part, and after each
part either the closing bracket or a comma. -/
theorem listing_inj {opening : Char} (brackets : closing = ']' ∨ closing = '\x7d')
    {as bs : List α}
    (each : ∀ a ∈ as, ∀ b ∈ bs, ∀ rest rest', Sign.Ends rest → Sign.Ends rest' →
      f a ++ rest = f b ++ rest' → a = b ∧ rest = rest')
    (begins : ∀ a ∈ as, Sign.Begins (f a)) (begins' : ∀ b ∈ bs, Sign.Begins (f b))
    {rest rest' : List Sign}
    (same : layout.listing opening closing (as.map f) ++ rest =
      layout.listing opening closing (bs.map f) ++ rest') : as = bs ∧ rest = rest' := by
  have bracket : (Sign.mark closing).isPart = false := by rcases brackets with rfl | rfl <;> decide
  have comma : closing ≠ ',' := by rcases brackets with rfl | rfl <;> decide
  have other : ∀ {signs rest rest' : List Sign}, Sign.Begins signs →
      .mark closing :: rest ≠ signs ++ rest' := by
    rintro - rest rest' ⟨sign, others, rfl, list, object⟩ same
    have first := (List.cons.inj same).1
    rcases brackets with rfl | rfl
    · exact list first.symm
    · exact object first.symm
  cases as with
  | nil =>
    cases bs with
    | nil => exact ⟨rfl, (List.cons.inj (List.cons.inj same).2).2⟩
    | cons b bs =>
      rw [List.map_nil, List.map_cons, listing_nil_append, listing_cons_append] at same
      exact absurd (List.cons.inj same).2 (other (begins' b (.head _)))
  | cons a as =>
    cases bs with
    | nil =>
      rw [List.map_nil, List.map_cons, listing_nil_append, listing_cons_append] at same
      exact absurd (List.cons.inj same).2.symm (other (begins a (.head _)))
    | cons b bs =>
      rw [List.map_cons, List.map_cons, listing_cons_append, listing_cons_append] at same
      obtain ⟨rfl, onward⟩ := each a (.head _) b (.head _) _ _ (ends_more bracket _ _)
        (ends_more bracket _ _) (List.cons.inj same).2
      obtain ⟨rfl, rest⟩ := more_inj bracket comma
        (fun a ha b hb => each a (.tail _ ha) b (.tail _ hb)) onward
      exact ⟨rfl, rest⟩

end Layout

/-! ## Reading words back -/

namespace Sign

/-- The single characters among signs. -/
def characters : List Sign → List Char :=
  List.filterMap fun
    | mark c => some c
    | quoted _ => none

/-- The name that a word stands for, in quotes or not. -/
def name : List Sign → String
  | [quoted text] => text
  | word => String.ofList (characters word)

/-- Single characters are the single characters among themselves. -/
@[simp] theorem characters_marks (characters : List Char) :
    Sign.characters (marks characters) = characters := by
  induction characters with
  | nil => rfl
  | cons c rest ih => exact congrArg (c :: ·) ih

/-- Single characters stand for the name that consists of them. -/
theorem name_marks (characters : List Char) : name (marks characters) = String.ofList characters := by
  have read : name (marks characters) = String.ofList (Sign.characters (marks characters)) := by
    cases characters <;> rfl
  rw [read, characters_marks]

end Sign

/-- The whole number that digits stand for, with a minus before them if it is negative. -/
def readInt : List Char → Int
  | '-' :: digits => -(Nat.ofDigitChars 10 digits 0 : Int)
  | digits => (Nat.ofDigitChars 10 digits 0 : Int)

/-- Whether characters begin like those of a whole number. -/
def beginsNumber (characters : List Char) : Bool :=
  characters.head?.any fun c => c.isDigit || c = '-'

/-- The leaf that characters outside of quotes stand for: a whole number, null, a truth value, or else an
enum value. -/
def Value.ofCharacters (characters : List Char) : Value :=
  if beginsNumber characters then .int (Int64.ofInt (readInt characters))
  else if characters = "null".toList then .null
  else if characters = "true".toList then .boolean true
  else if characters = "false".toList then .boolean false
  else .enum (String.ofList characters)

/-- **The leaf that a word stands for.** -/
def Value.ofWord : List Sign → Value
  | [.quoted text] => .string text
  | word => .ofCharacters (Sign.characters word)

/-- Single characters are read back as they stand. -/
theorem Value.ofWord_marks (characters : List Char) :
    Value.ofWord (Sign.marks characters) = .ofCharacters characters := by
  have read : Value.ofWord (Sign.marks characters) =
      .ofCharacters (Sign.characters (Sign.marks characters)) := by
    cases characters <;> rfl
  rw [read, Sign.characters_marks]

namespace Layout

variable (layout : Layout)

/-- **A leaf can be read back**: it is laid out as a word that stands for it. -/
structure ReadsLeaf (value : Value) : Prop where
  /-- The leaf is laid out as a word. -/
  word : Sign.IsWord (value.signs layout)
  /-- The word stands for the leaf. -/
  read : Value.ofWord (value.signs layout) = value

/-- **A key can be read back**: it is laid out as a word that stands for it. -/
structure ReadsKey (key : String) : Prop where
  /-- The key is laid out as a word. -/
  word : Sign.IsWord (layout.name key)
  /-- The word stands for the key. -/
  read : Sign.name (layout.name key) = key

variable {layout}

/-- A leaf that is laid out as single characters is read back from them. -/
theorem readsLeaf_of_marks {value : Value} {characters : List Char}
    (marked : value.signs layout = Sign.marks characters) (nonempty : characters ≠ [])
    (parts : (characters.all fun c => (Sign.mark c).isPart) = true)
    (read : Value.ofCharacters characters = value) : layout.ReadsLeaf value := by
  refine ⟨⟨?_, ?_⟩, ?_⟩ <;> rw [marked]
  · simpa [Sign.marks] using nonempty
  · simpa [Sign.marks] using parts
  · rw [Value.ofWord_marks, read]

/-- Null is read back in every layout. -/
theorem readsLeaf_null : layout.ReadsLeaf .null :=
  readsLeaf_of_marks rfl (by decide) rfl rfl

/-- Truth values are read back in every layout. -/
theorem readsLeaf_boolean (value : Bool) : layout.ReadsLeaf (.boolean value) := by
  cases value <;> exact readsLeaf_of_marks rfl (by decide) rfl rfl

/-- Texts are read back in every layout. -/
theorem readsLeaf_string (value : String) : layout.ReadsLeaf (.string value) :=
  ⟨⟨nofun, by simp [Value.signs, Sign.isPart]⟩, rfl⟩

/-- The characters of a whole number are digits, with a minus before them if it is negative. -/
theorem toList_repr_cases (i : Int) :
    (∃ n : Nat, i = n ∧ i.repr.toList = Nat.toDigits 10 n) ∨
      ∃ n : Nat, i = -n ∧ i.repr.toList = '-' :: Nat.toDigits 10 n := by
  rw [Int.repr_eq_if]
  split
  · exact .inl ⟨i.toNat, by omega, Nat.toList_repr⟩
  · refine .inr ⟨(-i).toNat, by omega, ?_⟩
    rw [String.toList_append, Nat.toList_repr]
    rfl

/-- A digit may be part of a word. -/
theorem isPart_of_mem_toDigits {n : Nat} {c : Char} (h : c ∈ Nat.toDigits 10 n) :
    (Sign.mark c).isPart = true := by
  have digit := Nat.isDigit_of_mem_toDigits (by decide) (by decide) h
  simp [Sign.isPart, Char.isAlphanum, digit]

/-- The characters of a whole number that is not negative begin with a digit, and are read back. -/
theorem readInt_toDigits (n : Nat) :
    beginsNumber (Nat.toDigits 10 n) = true ∧ readInt (Nat.toDigits 10 n) = n := by
  have value : Nat.ofDigitChars 10 (Nat.toDigits 10 n) 0 = n := Nat.ofDigitChars_ten_toDigits
  have digit : ∀ c ∈ Nat.toDigits 10 n, c.isDigit = true :=
    fun c h => Nat.isDigit_of_mem_toDigits (by decide) (by decide) h
  obtain ⟨first, rest, digits⟩ := List.exists_cons_of_ne_nil (Nat.toDigits_ne_nil (n := n) (b := 10))
  rw [digits] at value digit ⊢
  have digit := digit first (.head _)
  refine ⟨by simp [beginsNumber, digit], ?_⟩
  unfold readInt
  split
  · next minus =>
    obtain rfl : first = '-' := (List.cons.inj minus).1
    exact absurd digit (by decide)
  · rw [value]

/-- Whole numbers are read back in every layout. -/
theorem readsLeaf_int (value : Int64) : layout.ReadsLeaf (.int value) := by
  have marked : Value.signs layout (.int value) = Sign.marks value.toInt.repr.toList := rfl
  obtain ⟨n, number, digits⟩ | ⟨n, number, digits⟩ := toList_repr_cases value.toInt <;>
    rw [digits] at marked
  · obtain ⟨begins, read⟩ := readInt_toDigits n
    refine readsLeaf_of_marks marked Nat.toDigits_ne_nil
      (List.all_eq_true.2 fun c h => isPart_of_mem_toDigits h) ?_
    rw [Value.ofCharacters, if_pos begins, read, ← number, Int64.ofInt_toInt]
  · refine readsLeaf_of_marks marked (List.cons_ne_nil _ _)
      (List.all_eq_true.2 (List.forall_mem_cons.2 ⟨rfl, fun c h => isPart_of_mem_toDigits h⟩)) ?_
    have begins : beginsNumber ('-' :: Nat.toDigits 10 n) = true := rfl
    rw [Value.ofCharacters, if_pos begins, readInt, Nat.ofDigitChars_ten_toDigits, ← number,
      Int64.ofInt_toInt]

end Layout

/-! ## Values made of leaves and keys -/

/-- A leaf that is no floating-point number, and whose name meets a condition if it is an enum value. -/
inductive Value.IsLeaf (enums : String → Prop) : Value → Prop
  /-- Null is a leaf. -/
  | null : IsLeaf enums .null
  /-- A whole number is a leaf. -/
  | int (value : Int64) : IsLeaf enums (.int value)
  /-- A text is a leaf. -/
  | string (value : String) : IsLeaf enums (.string value)
  /-- A truth value is a leaf. -/
  | boolean (value : Bool) : IsLeaf enums (.boolean value)
  /-- An enum value is a leaf. -/
  | enum {name : String} (h : enums name) : IsLeaf enums (.enum name)

/-- A layout in which enum values can be read back reads every leaf that is no floating-point number. -/
theorem Layout.readsLeaf {layout : Layout} {enums : String → Prop}
    (read : ∀ name, enums name → layout.ReadsLeaf (.enum name)) {leaf : Value}
    (is : leaf.IsLeaf enums) : layout.ReadsLeaf leaf := by
  cases is with
  | null => exact readsLeaf_null
  | int value => exact readsLeaf_int value
  | string value => exact readsLeaf_string value
  | boolean value => exact readsLeaf_boolean value
  | enum h => exact read _ h

/-- **A value that is made of given leaves and keys**, at any depth. -/
inductive Value.MadeOf (leaves : Value → Prop) (keys : String → Prop) : Value → Prop
  /-- A leaf is made of itself. -/
  | leaf {value : Value} (h : leaves value) : MadeOf leaves keys value
  /-- A list is made of what its items are made of. -/
  | list {items : List Value} (each : ∀ item ∈ items, MadeOf leaves keys item) :
    MadeOf leaves keys (.list items)
  /-- An object is made of its keys and of what its entries are made of. -/
  | object {entries : List (String × Value)} (named : ∀ entry ∈ entries, keys entry.1)
      (each : ∀ entry ∈ entries, MadeOf leaves keys entry.2) : MadeOf leaves keys (.object entries)

namespace Value

variable {leaves leaves' : Value → Prop} {keys keys' : String → Prop} {layout : Layout}

/-- Weaker conditions on leaves and keys are met, too. -/
theorem MadeOf.mono {value : Value} (made : value.MadeOf leaves keys)
    (weaker : ∀ leaf, leaves leaf → leaves' leaf) (weaker' : ∀ key, keys key → keys' key) :
    value.MadeOf leaves' keys' := by
  induction made with
  | leaf h => exact .leaf (weaker _ h)
  | list each ih => exact .list ih
  | object named each ih => exact .object (fun entry h => weaker' _ (named entry h)) ih

/-- What can be read back begins with a part of a word, or with an opening bracket. -/
theorem MadeOf.begins {value : Value} (made : value.MadeOf layout.ReadsLeaf layout.ReadsKey) :
    Sign.Begins (value.signs layout) := by
  cases made with
  | leaf reads => exact List.append_nil (value.signs layout) ▸ reads.word.begins []
  | @list items each =>
    rw [signs]
    cases itemSigns layout items <;> exact ⟨_, _, rfl, by decide, by decide⟩
  | @object entries named each =>
    rw [signs]
    cases entrySigns layout entries <;> exact ⟨_, _, rfl, by decide, by decide⟩

/-- Brackets of two kinds begin differently. -/
theorem listing_list_ne_listing_object {parts parts' : List (List Sign)} {rest rest' : List Sign} :
    layout.listing '[' ']' parts ++ rest ≠ layout.listing '\x7b' '\x7d' parts' ++ rest' := by
  intro same
  have first : Sign.mark '[' = Sign.mark '\x7b' := by
    cases parts <;> cases parts' <;> exact (List.cons.inj same).1
  exact absurd first (by decide)

/-- **Where a value ends**, if its leaves and keys can be read back.

**Proof sketch.** By induction on what the value is made of. A leaf is a word, whose end shows
(`Sign.append_inj_of_isWord`), and which is read back. A list and an object begin with brackets of their
own, and where their parts end is known by induction (`Layout.listing_inj`). -/
theorem signs_append_inj {value value' : Value} {rest rest' : List Sign}
    (made : value.MadeOf layout.ReadsLeaf layout.ReadsKey)
    (made' : value'.MadeOf layout.ReadsLeaf layout.ReadsKey)
    (ends : Sign.Ends rest) (ends' : Sign.Ends rest')
    (same : value.signs layout ++ rest = value'.signs layout ++ rest') :
    value = value' ∧ rest = rest' := by
  induction made generalizing value' rest rest' with
  | leaf reads =>
    cases made' with
    | leaf reads' =>
      obtain ⟨words, rests⟩ := Sign.append_inj_of_isWord reads.word reads'.word ends ends' same
      rw [← reads.read, words, reads'.read]
      exact ⟨rfl, rests⟩
    | list => exact absurd same.symm (Layout.listing_append_ne (by decide) reads.word)
    | object => exact absurd same.symm (Layout.listing_append_ne (by decide) reads.word)
  | @list items each ih =>
    cases made' with
    | leaf reads' => exact absurd same (Layout.listing_append_ne (by decide) reads'.word)
    | object => exact absurd same listing_list_ne_listing_object
    | @list items' each' =>
      rw [signs, signs, itemSigns_eq_map, itemSigns_eq_map] at same
      obtain ⟨rfl, rests⟩ := Layout.listing_inj (.inl rfl)
        (fun item h item' h' rest rest' => ih item h (each' item' h'))
        (fun item h => (each item h).begins) (fun item h => (each' item h).begins) same
      exact ⟨rfl, rests⟩
  | @object entries named each ih =>
    cases made' with
    | leaf reads' => exact absurd same (Layout.listing_append_ne (by decide) reads'.word)
    | list => exact absurd same.symm listing_list_ne_listing_object
    | @object entries' named' each' =>
      rw [signs, signs, entrySigns_eq_map, entrySigns_eq_map] at same
      have part : ∀ entry ∈ entries, ∀ entry' ∈ entries', ∀ rest rest', Sign.Ends rest →
          Sign.Ends rest' →
          layout.name entry.1 ++ (layout.separator ':' ++ entry.2.signs layout) ++ rest =
            layout.name entry'.1 ++ (layout.separator ':' ++ entry'.2.signs layout) ++ rest' →
          entry = entry' ∧ rest = rest' := by
        intro entry h entry' h' rest rest' ends ends' same
        simp only [List.append_assoc] at same
        have colon : ∀ rest, Sign.Ends (layout.separator ':' ++ rest) :=
          fun rest => Sign.ends_cons (.mark ':') (by decide) _
        obtain ⟨words, tails⟩ := Sign.append_inj_of_isWord (named entry h).word
          (named' entry' h').word (colon _) (colon _) same
        obtain ⟨values, rests⟩ := ih entry h (each' entry' h') ends ends'
          (List.append_cancel_left tails)
        refine ⟨Prod.ext ?_ values, rests⟩
        rw [← (named entry h).read, words, (named' entry' h').read]
      obtain ⟨rfl, rests⟩ := Layout.listing_inj (.inr rfl) part
        (fun entry h => (named entry h).word.begins _)
        (fun entry h => (named' entry h).word.begins _) same
      exact ⟨rfl, rests⟩

/-- What can be read back is laid out in plain signs. -/
theorem MadeOf.plain_signs {value : Value}
    (made : value.MadeOf layout.ReadsLeaf layout.ReadsKey) :
    ∀ sign ∈ value.signs layout, sign.Plain := by
  have word : ∀ {word : List Sign}, Sign.IsWord word → ∀ sign ∈ word, sign.Plain :=
    fun is sign h => Sign.plain_of_isPart (is.parts sign h)
  induction made with
  | leaf reads => exact word reads.word
  | list each ih =>
    rw [signs, itemSigns_eq_map]
    exact Layout.plain_listing (by simp [Sign.Plain]) (by simp [Sign.Plain])
      (List.forall_mem_map.2 ih)
  | object named each ih =>
    rw [signs, entrySigns_eq_map]
    refine Layout.plain_listing (by simp [Sign.Plain]) (by simp [Sign.Plain])
      (List.forall_mem_map.2 fun entry h => ?_)
    rw [List.forall_mem_append, List.forall_mem_append]
    exact ⟨word (named entry h).word, Layout.plain_separator (by simp [Sign.Plain]), ih entry h⟩

/-- **A value can be told from the characters of its signs**, if its leaves and keys can be read back and
what is in quotes can be told.

**Proof sketch.** Signs can be told from their characters (`Sign.spell_inj`), and values from their signs
(`signs_append_inj`), after which nothing follows. -/
theorem eq_of_spell_signs {escape : Char → List Char} (delimits : Sign.Delimits escape)
    {value value' : Value} (made : value.MadeOf layout.ReadsLeaf layout.ReadsKey)
    (made' : value'.MadeOf layout.ReadsLeaf layout.ReadsKey)
    (same : Sign.spell escape (value.signs layout) = Sign.spell escape (value'.signs layout)) :
    value = value' := by
  have signs := Sign.spell_inj delimits made.plain_signs made'.plain_signs same
  exact (signs_append_inj made made' Sign.ends_nil Sign.ends_nil
    (by rw [List.append_nil, List.append_nil, signs])).1

end Value

end SchemaAssembly
