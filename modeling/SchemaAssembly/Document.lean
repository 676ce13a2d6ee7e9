import SchemaAssembly.Definition

/-!
# Schema documents

A document is a schema as it is written: with directives, with extensions of every kind of type,
and with terms in which variables may stand. Objects in terms are maps, kept in ascending order of
their names.

## Main definitions

* `SchemaAssembly.Term` — a value as it is written; `SchemaAssembly.Term.ofEntries` builds an
  object.
* `SchemaAssembly.TypeExpr` — a type as it is written; non-null marks may pile up.
* `SchemaAssembly.Document` — the list of what is defined, extended or declared.

## Main results

* `SchemaAssembly.Term.sorted_insertEntry` — objects stay in ascending order of their names.
-/

set_option relaxedAutoImplicit false
set_option autoImplicit false

namespace SchemaAssembly

/-! ## Terms -/

/-- A value as it is written in a document. -/
inductive Term
  /-- A variable, to be given later. -/
  | variable (name : String)
  /-- The null literal. -/
  | null
  /-- A whole number. -/
  | int (value : Int64)
  /-- A number with a fraction or an exponent. -/
  | float (value : Float)
  /-- A text in quotes. -/
  | string (value : String)
  /-- One of the two truth values. -/
  | boolean (value : Bool)
  /-- The bare name of an enum value. -/
  | enum (name : String)
  /-- A list. -/
  | list (items : List Term)
  /-- An object, by its entries in ascending order of their names. -/
  | object (entries : List (String × Term))

namespace Term

/-- Puts an entry in its place among entries in ascending order. An entry of the same name is
replaced. -/
def insertEntry (name : String) (term : Term) : List (String × Term) → List (String × Term)
  | [] => [(name, term)]
  | (other, held) :: rest =>
    if name < other then (name, term) :: (other, held) :: rest
    else if name = other then (name, term) :: rest
    else (other, held) :: insertEntry name term rest

/-- The object of a list of entries. Of several entries of one name the last counts. -/
def ofEntries (entries : List (String × Term)) : Term :=
  object (entries.foldl (fun acc entry => insertEntry entry.1 entry.2 acc) [])

/-- Whether entries stand in strictly ascending order of their names. -/
def SortedEntries (entries : List (String × Term)) : Prop :=
  (entries.map Prod.fst).Pairwise (· < ·)

/-- The names after an insertion are those before and the inserted one. -/
theorem mem_names_insertEntry (name n : String) (term : Term) (entries : List (String × Term)) :
    n ∈ (insertEntry name term entries).map Prod.fst ↔
      n = name ∨ n ∈ entries.map Prod.fst := by
  induction entries with
  | nil => simp [insertEntry]
  | cons entry rest ih =>
    obtain ⟨other, held⟩ := entry
    simp only [insertEntry]
    split
    · simp
    · split
      · next h => subst h; simp
      · simp only [List.map_cons, List.mem_cons, ih]
        exact or_left_comm

/-- Objects stay in ascending order of their names. -/
theorem sorted_insertEntry {name : String} {term : Term} {entries : List (String × Term)}
    (h : SortedEntries entries) : SortedEntries (insertEntry name term entries) := by
  induction entries with
  | nil => simp [insertEntry, SortedEntries]
  | cons entry rest ih =>
    obtain ⟨other, held⟩ := entry
    have hrest : SortedEntries rest := (List.pairwise_cons.1 h).2
    have hlt : ∀ n ∈ rest.map Prod.fst, other < n := (List.pairwise_cons.1 h).1
    simp only [insertEntry]
    split
    · next hn =>
      refine List.pairwise_cons.2 ⟨?_, h⟩
      intro n hm
      rcases List.mem_cons.1 hm with rfl | hm
      · exact hn
      · exact String.lt_trans hn (hlt n hm)
    · split
      · next _ hn => subst hn; exact List.pairwise_cons.2 ⟨hlt, hrest⟩
      · next hn hne =>
        refine List.pairwise_cons.2 ⟨?_, ih hrest⟩
        intro n hm
        rcases (mem_names_insertEntry name n term rest).1 hm with rfl | hm
        · exact Decidable.byContradiction fun h =>
            hne (String.le_antisymm (String.not_lt.1 h) (String.not_lt.1 hn))
        · exact hlt n hm

end Term

/-! ## Types as they are written -/

/-- A type as it is written in a document. -/
inductive TypeExpr
  /-- A named type. -/
  | named (name : String)
  /-- A list. -/
  | list (item : TypeExpr)
  /-- What is inside, without null. -/
  | nonNull (inner : TypeExpr)
deriving DecidableEq, Repr

/-! ## Nodes -/

/-- A directive put on some part of a document. -/
structure DirectiveUse where
  /-- The name of the directive. -/
  name : String
  /-- The arguments given to it. -/
  arguments : List (String × Term)

/-- An argument of a field or of a directive, or a field of an input object. -/
structure ArgumentNode where
  /-- Where the argument begins, its description included. -/
  position : Position
  /-- What the argument is for, if anything is said. -/
  description : Option String
  /-- The name of the argument. -/
  name : String
  /-- The type of the argument. -/
  type : TypeExpr
  /-- The term taken when the argument is left out, if there is one. -/
  default : Option Term
  /-- The directives put on the argument. -/
  directives : List DirectiveUse

/-- A field of an object or an interface. -/
structure FieldNode where
  /-- Where the field begins, its description included. -/
  position : Position
  /-- What the field is for, if anything is said. -/
  description : Option String
  /-- The name of the field. -/
  name : String
  /-- The arguments that the field takes. -/
  arguments : List ArgumentNode
  /-- The type of the field. -/
  type : TypeExpr
  /-- The directives put on the field. -/
  directives : List DirectiveUse

/-- A value of an enum. -/
structure EnumValueNode where
  /-- Where the value begins, its description included. -/
  position : Position
  /-- What the value stands for, if anything is said. -/
  description : Option String
  /-- The name of the value. -/
  name : String
  /-- The directives put on the value. -/
  directives : List DirectiveUse

/-- What sets the kinds of types in a document apart. -/
inductive TypeForm
  /-- A scalar has no parts. -/
  | scalar
  /-- An object names interfaces and has fields. -/
  | object (interfaces : List String) (fields : List FieldNode)
  /-- An interface names interfaces and has fields. -/
  | interface (interfaces : List String) (fields : List FieldNode)
  /-- A union names its members. -/
  | union (members : List String)
  /-- An enum has values. -/
  | enum (values : List EnumValueNode)
  /-- An input object has input fields. -/
  | inputObject (fields : List ArgumentNode)

/-- The kind of type that a form belongs to. -/
def TypeForm.kind : TypeForm → TypeKind
  | scalar => .scalar
  | object _ _ => .object
  | interface _ _ => .interface
  | union _ => .union
  | enum _ => .enum
  | inputObject _ => .inputObject

/-- A named type. -/
structure TypeNode where
  /-- Where the keyword of the type stands. -/
  position : Position
  /-- What the type is for, if anything is said. -/
  description : Option String
  /-- The name of the type. -/
  name : String
  /-- The directives put on the type. -/
  directives : List DirectiveUse
  /-- The kind of the type, with its parts. -/
  form : TypeForm

/-- An extension of a named type. -/
structure ExtensionNode where
  /-- Where the keyword of the extended type stands. -/
  position : Position
  /-- The name of the extended type. -/
  name : String
  /-- The directives added. -/
  directives : List DirectiveUse
  /-- The kind of the extended type, with the parts added. -/
  form : TypeForm

/-- The roots of a schema. -/
structure SchemaNode where
  /-- Where the keyword stands. -/
  position : Position
  /-- The directives put on the schema. -/
  directives : List DirectiveUse
  /-- The root type of queries. -/
  query : Option String
  /-- The root type of mutations. -/
  mutation : Option String
  /-- The root type of subscriptions. -/
  subscription : Option String

/-- The declaration of a directive. -/
structure DirectiveNode where
  /-- Where the keyword stands. -/
  position : Position
  /-- What the directive is for, if anything is said. -/
  description : Option String
  /-- The name of the directive. -/
  name : String
  /-- The arguments that the directive takes. -/
  arguments : List ArgumentNode
  /-- Whether the directive may be put on one part more than once. -/
  repeatable : Bool
  /-- The kinds of parts that the directive may be put on, if any are named. -/
  locations : List String

/-- One item of a document. -/
inductive Node
  /-- The roots of the schema. -/
  | schema (node : SchemaNode)
  /-- A named type. -/
  | type (node : TypeNode)
  /-- An extension of a named type. -/
  | extension (node : ExtensionNode)
  /-- The declaration of a directive. -/
  | directive (node : DirectiveNode)

/-- A schema as it is written. -/
abbrev Document := List Node

end SchemaAssembly
