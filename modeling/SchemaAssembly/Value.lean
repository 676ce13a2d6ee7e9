import SchemaAssembly.Literal
import SchemaAssembly.NameMap

/-!
# Runtime values

Values are what field resolvers take and give, and what the defaults of a schema are folded
into. An object holds each name once, in the order of first insertion.

## Main definitions

* `SchemaAssembly.Value` — the values; `SchemaAssembly.Value.ofEntries` builds an object.
* `SchemaAssembly.Value.Distinct` — no object inside the value holds a name twice.
* `SchemaAssembly.Value.same` — equality, with objects compared as maps.
* `SchemaAssembly.Value.property?` — what an object holds under a name.
* `SchemaAssembly.Value.text` — the form quoted in messages.
* `SchemaAssembly.Literal.fold` — the value of a literal.
* `SchemaAssembly.ToValue` — native data as values.

## Main results

* `SchemaAssembly.Literal.fold_distinct` — folding a literal gives a value whose objects hold
  each name once.
-/

set_option relaxedAutoImplicit false
set_option autoImplicit false

namespace SchemaAssembly

/-- A runtime value. -/
inductive Value
  /-- The null value. -/
  | null
  /-- A whole number of 64 bits. -/
  | int (value : Int64)
  /-- A floating-point number. -/
  | float (value : Float)
  /-- A text. -/
  | string (value : String)
  /-- One of the two truth values. -/
  | boolean (value : Bool)
  /-- An enum value, by its bare name. -/
  | enum (name : String)
  /-- A list. -/
  | list (items : List Value)
  /-- An object, by its entries in the order of first insertion. -/
  | object (entries : List (String × Value))

namespace Value

instance : Inhabited Value := ⟨null⟩

/-- The object of a list of entries: a repeated name keeps its first place and its last value. -/
def ofEntries (entries : List (String × Value)) : Value := object (Entries.ofList entries)

/-! ## Distinct names -/

mutual

/-- No object in the value, at any depth, holds a name twice. -/
def Distinct : Value → Prop
  | .list items => DistinctItems items
  | .object entries => (Entries.names entries).Nodup ∧ DistinctEntries entries
  | _ => True

/-- All items of a list are values of this kind. -/
def DistinctItems : List Value → Prop
  | [] => True
  | item :: rest => Distinct item ∧ DistinctItems rest

/-- All entries of an object hold values of this kind. -/
def DistinctEntries : List (String × Value) → Prop
  | [] => True
  | (_, value) :: rest => Distinct value ∧ DistinctEntries rest

end

/-- Entries are distinct inside exactly when each of their values is. -/
theorem distinctEntries_iff (entries : List (String × Value)) :
    DistinctEntries entries ↔ ∀ entry ∈ entries, Distinct entry.2 := by
  induction entries with
  | nil => simp [DistinctEntries]
  | cons entry rest ih => obtain ⟨name, value⟩ := entry; simp [DistinctEntries, ih]

/-- Items are distinct inside exactly when each of them is. -/
theorem distinctItems_iff (items : List Value) :
    DistinctItems items ↔ ∀ item ∈ items, Distinct item := by
  induction items with
  | nil => simp [DistinctItems]
  | cons item rest ih => simp [DistinctItems, ih]

/-- Setting a name to a distinct value keeps entries distinct inside. -/
theorem distinctEntries_set {name : String} {value : Value} {entries : List (String × Value)}
    (hv : Distinct value) (he : DistinctEntries entries) :
    DistinctEntries (Entries.set name value entries) := by
  induction entries with
  | nil => simp [Entries.set, DistinctEntries, hv]
  | cons entry rest ih =>
    obtain ⟨other, held⟩ := entry
    simp only [DistinctEntries] at he
    by_cases h : name = other <;> simp [Entries.set, h, DistinctEntries, hv, he, ih]

/-- An object built from distinct values is distinct. -/
theorem distinct_ofEntries {entries : List (String × Value)} (h : DistinctEntries entries) :
    Distinct (ofEntries entries) := by
  refine ⟨Entries.nodup_ofList entries, ?_⟩
  suffices ∀ acc, DistinctEntries acc → DistinctEntries (Entries.setAll acc entries) from
    this [] trivial
  induction entries with
  | nil => exact fun acc ha => ha
  | cons entry rest ih =>
    obtain ⟨name, value⟩ := entry
    exact fun acc ha => ih h.2 _ (distinctEntries_set h.1 ha)

/-! ## Equality -/

mutual

/-- Equality of values. Objects are compared as maps: as many names, and what the left object
holds under a name the right one holds under it too. Floating-point numbers are compared as
numbers. -/
def same : Value → Value → Bool
  | .null, .null => true
  | .int a, .int b => a == b
  | .float a, .float b => a == b
  | .string a, .string b => a == b
  | .boolean a, .boolean b => a == b
  | .enum a, .enum b => a == b
  | .list as, .list bs => sameItems as bs
  | .object as, .object bs => as.length == bs.length && heldIn as bs
  | _, _ => false

/-- Equality of lists of values, item by item. -/
def sameItems : List Value → List Value → Bool
  | [], [] => true
  | a :: as, b :: bs => same a b && sameItems as bs
  | _, _ => false

/-- Whether an object holds, under each name of a list of entries, an equal value. -/
def heldIn : List (String × Value) → List (String × Value) → Bool
  | [], _ => true
  | (name, value) :: rest, held =>
    (match held.lookup name with
      | some other => same value other
      | none => false) && heldIn rest held

end

instance : BEq Value := ⟨same⟩

/-! ## Parts -/

/-- Whether this is the null value. -/
def isNull : Value → Bool
  | .null => true
  | _ => false

/-- The text held, if this is a text. -/
def string? : Value → Option String
  | .string value => some value
  | _ => none

/-- The entries held, if this is an object. -/
def entries? : Value → Option (List (String × Value))
  | .object entries => some entries
  | _ => none

/-- What an object holds under a name. Other values have no properties. -/
def property? (value : Value) (name : String) : Option Value :=
  value.entries?.bind fun entries => entries.lookup name

/-! ## Text -/

/-- How numbers are written in a message: without exponent, and without a point where whole. -/
def textStyle : DecimalStyle where
  tie := .up
  plain := none
  keepsPoint := false
  notANumber := "NaN"
  infinity := "inf"
  negativeInfinity := "-inf"

/-- Items one after the other, separated by `separator`. -/
def separated (separator : List Char) : List (List Char) → List Char
  | [] => []
  | [item] => item
  | item :: next :: rest => item ++ separator ++ separated separator (next :: rest)

mutual

/-- The characters of a value's text. In a quoted text only quotes are marked, and names are
written as they are. -/
def chars : Value → List Char
  | .null => "null".toList
  | .int value => (toString value.toInt).toList
  | .float value => (textStyle.text value).toList
  | .string value => Text.bareQuoted value
  | .boolean value => (toString value).toList
  | .enum name => name.toList
  | .list items => '[' :: (separated [',', ' '] (itemChars items) ++ [']'])
  | .object entries => '\x7b' :: (separated [',', ' '] (entryChars entries) ++ ['\x7d'])

/-- The texts of the items of a list. -/
def itemChars : List Value → List (List Char)
  | [] => []
  | item :: rest => chars item :: itemChars rest

/-- The texts of the entries of an object. -/
def entryChars : List (String × Value) → List (List Char)
  | [] => []
  | (name, value) :: rest => (name.toList ++ ':' :: ' ' :: chars value) :: entryChars rest

end

/-- The form of a value that is quoted in messages. -/
def text (value : Value) : String := String.ofList value.chars

end Value

/-! ## The value of a literal -/

namespace Literal

mutual

/-- The value of a literal, part by part. A name that an object literal repeats keeps its first
place and its last value. -/
def fold : Literal → Value
  | .null => .null
  | .int value => .int value
  | .float value => .float value
  | .string value => .string value
  | .boolean value => .boolean value
  | .enum name => .enum name
  | .list items => .list (foldItems items)
  | .object entries => .ofEntries (foldEntries entries)

/-- The values of the items of a list. -/
def foldItems : List Literal → List Value
  | [] => []
  | item :: rest => fold item :: foldItems rest

/-- The entries of an object literal, with the values of what they hold. -/
def foldEntries : List (String × Literal) → List (String × Value)
  | [] => []
  | (name, literal) :: rest => (name, fold literal) :: foldEntries rest

end

mutual

/-- Folding a literal gives a value whose objects hold each name once. -/
theorem fold_distinct (literal : Literal) : literal.fold.Distinct := by
  cases literal with
  | list items => exact foldItems_distinct items
  | object entries => exact Value.distinct_ofEntries (foldEntries_distinct entries)
  | _ => trivial

theorem foldItems_distinct (items : List Literal) : Value.DistinctItems (foldItems items) := by
  cases items with
  | nil => trivial
  | cons item rest => exact ⟨fold_distinct item, foldItems_distinct rest⟩

theorem foldEntries_distinct (entries : List (String × Literal)) :
    Value.DistinctEntries (foldEntries entries) := by
  cases entries with
  | nil => trivial
  | cons entry rest =>
    obtain ⟨name, literal⟩ := entry
    exact ⟨fold_distinct literal, foldEntries_distinct rest⟩

end

end Literal

/-! ## Native data as values -/

/-- Data that stands for a value. -/
class ToValue (α : Type) where
  /-- The value that the data stands for. -/
  toValue : α → Value

export ToValue (toValue)

instance : ToValue Value := ⟨id⟩

instance : ToValue String := ⟨Value.string⟩

instance : ToValue Int64 := ⟨Value.int⟩

instance : ToValue Int32 := ⟨fun i => Value.int i.toInt64⟩

instance : ToValue Float := ⟨Value.float⟩

instance : ToValue Bool := ⟨Value.boolean⟩

/-- Missing data is null. -/
instance {α : Type} [ToValue α] : ToValue (Option α) := ⟨fun a => (a.map toValue).getD .null⟩

instance {α : Type} [ToValue α] : ToValue (List α) := ⟨fun as => .list (as.map toValue)⟩

end SchemaAssembly
