import SchemaAssembly.Proofs.Readability

/-!
# Values told from JSON

JSON has no enum values, so that an enum value is written like the text of its name. That is all that
JSON does not tell: two values without floating-point numbers have the same JSON text exactly if they are
the same once enum values are replaced by texts. Keys and texts may consist of any characters, as quotes,
backslashes and controls are escaped. Which characters are escaped, and how, matters only in so far as a
text in quotes can be told from what follows it.

## Main definitions

* `SchemaAssembly.Value.withoutEnums` — a value with texts in place of enum values.
* `SchemaAssembly.Value.FloatFree` — a value without floating-point numbers.
* `SchemaAssembly.jsonLayout` — the layout of JSON.
* `SchemaAssembly.Value.jsonBy` — the text of a value in that layout, by any escapes.

## Main results

* `SchemaAssembly.Value.spell_signs_json` — the JSON text of a value is laid out like that.
* `SchemaAssembly.Value.signs_withoutEnums` — JSON does not tell enum values from texts.
* `SchemaAssembly.Value.json_eq_iff` — JSON tells everything else, by its own escapes and by any others
  that delimit what is in quotes.
-/

set_option relaxedAutoImplicit false
set_option autoImplicit false

namespace SchemaAssembly

namespace Value

/-! ## Values without enum values -/

mutual

/-- **A value with texts in place of enum values**, at any depth. -/
def withoutEnums : Value → Value
  | .enum name => .string name
  | .list items => .list (itemsWithoutEnums items)
  | .object entries => .object (entriesWithoutEnums entries)
  | .null => .null
  | .int value => .int value
  | .float value => .float value
  | .string value => .string value
  | .boolean value => .boolean value

/-- Items with texts in place of enum values. -/
def itemsWithoutEnums : List Value → List Value
  | [] => []
  | item :: rest => withoutEnums item :: itemsWithoutEnums rest

/-- Entries with texts in place of enum values. Keys stay as they are. -/
def entriesWithoutEnums : List (String × Value) → List (String × Value)
  | [] => []
  | (name, value) :: rest => (name, withoutEnums value) :: entriesWithoutEnums rest

end

/-- Enum values are replaced item by item. -/
theorem itemsWithoutEnums_eq_map (items : List Value) :
    itemsWithoutEnums items = items.map withoutEnums := by
  induction items with
  | nil => rfl
  | cons item rest ih => rw [itemsWithoutEnums, ih, List.map_cons]

/-- Enum values are replaced entry by entry. -/
theorem entriesWithoutEnums_eq_map (entries : List (String × Value)) :
    entriesWithoutEnums entries = entries.map fun entry => (entry.1, entry.2.withoutEnums) := by
  induction entries with
  | nil => rfl
  | cons entry rest ih => rw [entriesWithoutEnums, ih, List.map_cons]

/-- **A value without floating-point numbers**, at any depth. -/
def FloatFree : Value → Prop := MadeOf (IsLeaf fun _ => True) fun _ => True

/-- Without enum values a value without floating-point numbers is made of leaves that are neither. -/
theorem FloatFree.withoutEnums {value : Value} (floatFree : value.FloatFree) :
    value.withoutEnums.MadeOf (IsLeaf fun _ => False) fun _ => True := by
  induction floatFree with
  | leaf is =>
    cases is with
    | null => exact .leaf .null
    | int value => exact .leaf (.int value)
    | string value => exact .leaf (.string value)
    | boolean value => exact .leaf (.boolean value)
    | @enum name _ => exact .leaf (.string name)
  | list each ih =>
    rw [Value.withoutEnums, itemsWithoutEnums_eq_map]
    exact .list (List.forall_mem_map.2 ih)
  | object named each ih =>
    rw [Value.withoutEnums, entriesWithoutEnums_eq_map]
    exact .object (fun _ _ => trivial) (List.forall_mem_map.2 ih)

end Value

/-! ## The layout of JSON -/

/-- **The layout of JSON**: nothing follows a comma or a colon, and all names are put in quotes. -/
def jsonLayout : Layout where
  gap := []
  plain := nofun
  name name := [.quoted name]
  number value := (Value.jsonStyle.text value).toList

namespace Value

/-- The JSON texts of items are those of each of them. -/
theorem jsonItems_eq_map (items : List Value) : jsonItems items = items.map jsonChars := by
  induction items with
  | nil => rfl
  | cons item rest ih => rw [jsonItems, ih, List.map_cons]

/-- The JSON texts of entries are those of each of them. -/
theorem jsonEntries_eq_map (entries : List (String × Value)) :
    jsonEntries entries = entries.map fun entry => jsonString entry.1 ++ ':' :: entry.2.jsonChars := by
  induction entries with
  | nil => rfl
  | cons entry rest ih => rw [jsonEntries, ih, List.map_cons]

/-- A text in quotes is spelled with the escapes of JSON. -/
theorem spell_quoted_json (text : String) : Sign.spell jsonChar [.quoted text] = jsonString text :=
  List.append_nil _

/-- **The JSON text of a value is laid out as JSON is.** -/
theorem spell_signs_json (value : Value) :
    Sign.spell jsonChar (value.signs jsonLayout) = value.jsonChars := by
  induction value using Value.induction with
  | list items ih =>
    rw [spell_signs_list, List.map_congr_left ih, jsonChars, jsonItems_eq_map]
    rfl
  | object entries ih =>
    have each : ∀ entry ∈ entries, Sign.spell jsonChar (jsonLayout.name entry.1) ++
        ':' :: (jsonLayout.gap ++ Sign.spell jsonChar (entry.2.signs jsonLayout)) =
          jsonString entry.1 ++ ':' :: entry.2.jsonChars := by
      intro entry h
      rw [ih entry h, jsonLayout, spell_quoted_json]
      rfl
    rw [spell_signs_object, List.map_congr_left each, jsonChars, jsonEntries_eq_map]
    rfl
  | string value => exact spell_quoted_json value
  | enum name => exact spell_quoted_json name
  | _ => exact Sign.spell_marks _ _

/-- **The JSON text of a value, by any escapes**: `escape` says how a character stands in quotes. -/
def jsonBy (escape : Char → List Char) (value : Value) : String :=
  String.ofList (Sign.spell escape (value.signs jsonLayout))

/-- The escapes of JSON make the JSON text. -/
theorem jsonBy_jsonChar (value : Value) : value.jsonBy jsonChar = value.json :=
  congrArg String.ofList (spell_signs_json value)

/-- **JSON does not tell enum values from texts**: they are laid out in the same signs. -/
theorem signs_withoutEnums (value : Value) :
    value.withoutEnums.signs jsonLayout = value.signs jsonLayout := by
  induction value using Value.induction with
  | list items ih =>
    rw [withoutEnums, signs, signs, itemSigns_eq_map, itemSigns_eq_map, itemsWithoutEnums_eq_map,
      List.map_map]
    exact congrArg (jsonLayout.listing '[' ']') (List.map_congr_left ih)
  | object entries ih =>
    rw [withoutEnums, signs, signs, entrySigns_eq_map, entrySigns_eq_map, entriesWithoutEnums_eq_map,
      List.map_map]
    refine congrArg (jsonLayout.listing '\x7b' '\x7d') (List.map_congr_left fun entry h => ?_)
    rw [Function.comp_apply, ih entry h]
  | _ => rfl

/-! ## Telling values -/

/-- Keys are read back in JSON, whatever they are. -/
theorem readsKey_json (key : String) : jsonLayout.ReadsKey key :=
  ⟨⟨List.cons_ne_nil _ _, List.forall_mem_singleton.2 rfl⟩, rfl⟩

/-- The leaves and keys of a value without floating-point numbers are read back, once enum values are
replaced. -/
theorem FloatFree.reads {value : Value} (floatFree : value.FloatFree) :
    value.withoutEnums.MadeOf jsonLayout.ReadsLeaf jsonLayout.ReadsKey :=
  floatFree.withoutEnums.mono (fun _ => Layout.readsLeaf nofun) fun key _ => readsKey_json key

/-- By escapes that delimit what is in quotes, two values without floating-point numbers have the same JSON
text exactly if they are the same once enum values are replaced. -/
theorem jsonBy_eq_iff {escape : Char → List Char} (delimits : Sign.Delimits escape)
    {value value' : Value} (floatFree : value.FloatFree) (floatFree' : value'.FloatFree) :
    value.jsonBy escape = value'.jsonBy escape ↔ value.withoutEnums = value'.withoutEnums := by
  rw [jsonBy, jsonBy, String.ofList_inj, ← signs_withoutEnums value, ← signs_withoutEnums value']
  constructor
  · exact eq_of_spell_signs delimits floatFree.reads floatFree'.reads
  · exact fun same => congrArg (fun value => Sign.spell escape (value.signs jsonLayout)) same

/-- **JSON is unambiguous.** Two values without floating-point numbers have the same JSON text exactly if
they are the same once enum values are replaced by the texts of their names, the order of entries
included. This is so for any escapes, as long as what is in quotes can be told from what follows; and the
escapes of JSON are such.

**Proof sketch.** Replacing enum values does not change the signs of a value (`signs_withoutEnums`), and
leaves only what can be read back (`FloatFree.reads`). Signs can be told from characters, with the escapes
of JSON since characters are read one by one (`Sign.delimits_jsonChar`), and values from signs
(`eq_of_spell_signs`). -/
theorem json_eq_iff {value value' : Value} (floatFree : value.FloatFree)
    (floatFree' : value'.FloatFree) :
    (∀ escape, Sign.Delimits escape →
      (value.jsonBy escape = value'.jsonBy escape ↔ value.withoutEnums = value'.withoutEnums)) ∧
    Sign.Delimits jsonChar ∧
    (value.json = value'.json ↔ value.withoutEnums = value'.withoutEnums) := by
  refine ⟨fun escape delimits => jsonBy_eq_iff delimits floatFree floatFree',
    Sign.delimits_jsonChar, ?_⟩
  rw [← jsonBy_jsonChar, ← jsonBy_jsonChar]
  exact jsonBy_eq_iff Sign.delimits_jsonChar floatFree floatFree'

/-- An object with an enum value in it, and a key of a quote, a backslash and a control. -/
def episode : Value :=
  .object [("z", .enum "NEWHOPE"), ("\"\\\x01", .list [.int (-1), .null])]

/-- The same object, with a text in place of the enum value. -/
def episodeText : Value :=
  .object [("z", .string "NEWHOPE"), ("\"\\\x01", .list [.int (-1), .null])]

/-- The same object, with its entries the other way round. -/
def episodeTurned : Value :=
  .object [("\"\\\x01", .list [.int (-1), .null]), ("z", .string "NEWHOPE")]

/-- The enum value does not show in JSON, and the order of entries does. Nor is this a matter of escapes:
it is the same where only quotes are escaped. -/
theorem json_eq_iff_episode :
    episode.FloatFree ∧ episodeText.FloatFree ∧ episodeTurned.FloatFree ∧
      episode.json = "\x7b\"z\":\"NEWHOPE\",\"\\\"\\\\\\u0001\":[-1,null]\x7d" ∧
      episode.json = episodeText.json ∧ episode.json ≠ episodeTurned.json ∧
      Sign.Delimits Text.bareChar ∧
      episode.jsonBy Text.bareChar = "\x7b\"z\":\"NEWHOPE\",\"\\\"\\\x01\":[-1,null]\x7d" ∧
      episode.jsonBy Text.bareChar = episodeText.jsonBy Text.bareChar ∧
      episode.jsonBy Text.bareChar ≠ episodeTurned.jsonBy Text.bareChar := by
  have inner : FloatFree (.list [.int (-1), .null]) := .list (List.forall_mem_cons.2
    ⟨.leaf (.int _), List.forall_mem_singleton.2 (.leaf .null)⟩)
  have floatFree : ∀ {first second : String × Value}, first.2.FloatFree → second.2.FloatFree →
      FloatFree (.object [first, second]) := fun h h' =>
    .object (fun _ _ => trivial) (List.forall_mem_cons.2 ⟨h, List.forall_mem_singleton.2 h'⟩)
  have named : episode.FloatFree := floatFree (.leaf (.enum trivial)) inner
  have quoted : episodeText.FloatFree := floatFree (.leaf (.string _)) inner
  have turned : episodeTurned.FloatFree := floatFree inner (.leaf (.string _))
  have other : episode.withoutEnums ≠ episodeTurned.withoutEnums := by
    simp [episode, episodeTurned, withoutEnums, entriesWithoutEnums]
  obtain ⟨alike, -, same⟩ := json_eq_iff named quoted
  obtain ⟨apart, -, differ⟩ := json_eq_iff named turned
  exact ⟨named, quoted, turned, by decide, same.2 rfl, differ.not.2 other, Sign.delimits_bareChar,
    by decide, (alike _ Sign.delimits_bareChar).2 rfl, (apart _ Sign.delimits_bareChar).not.2 other⟩

end Value

end SchemaAssembly
