import SchemaAssembly.Value

/-!
# Behaviours

A schema binds behaviours to its definitions: fetchers that produce the values of fields,
resolvers that pick the concrete type of an abstract value, and codecs of scalars. Assembly moves
behaviours around without ever running them, so it is stated for arbitrary types of behaviours;
running one is a matter of a type class.

## Main definitions

* `SchemaAssembly.Behaviours` — the types of the three kinds of behaviours.
* `SchemaAssembly.DataFetcher`, `SchemaAssembly.TypeResolver` — what can be run as a fetcher and
  as a type resolver, in a `FetchEnvironment` and in a `ResolutionEnvironment`.
* `SchemaAssembly.FieldResolver` — what a field is bound to: a fetcher, or the property of its
  own name.
* `SchemaAssembly.TypeResolverBinding` — what an abstract type is bound to, if to anything.
-/

set_option relaxedAutoImplicit false
set_option autoImplicit false

namespace SchemaAssembly

/-- The types of the behaviours that a schema binds. -/
structure Behaviours where
  /-- What produces the value of a field. -/
  Fetcher : Type
  /-- What picks the concrete type of a value. -/
  Resolver : Type
  /-- What converts the values of a scalar. -/
  Codec : Type

/-! ## Fetching -/

/-- The failure of a fetcher. -/
structure FieldError where
  /-- What went wrong. -/
  message : String
  /-- Further data about it. -/
  extensions : Value

/-- The failure that says no more than its message. -/
def FieldError.ofMessage (message : String) : FieldError := ⟨message, .null⟩

/-- What a fetcher gets to see. -/
structure FetchEnvironment where
  /-- The value of the parent object. -/
  source : Value
  /-- The arguments given, by name. -/
  arguments : NameMap Value
  /-- The name of the field. -/
  fieldName : String

/-- What can be run to produce the value of a field. -/
class DataFetcher (φ : Type) where
  /-- Produces the value of the field described by the environment. -/
  fetch : φ → FetchEnvironment → Except FieldError Value

/-- The fetcher that reads a property of the parent. -/
structure PropertyReader where
  /-- The name of the property. -/
  property : String
deriving DecidableEq, Repr

/-- A missing property, and any property of a parent that is no object, is null. -/
def PropertyReader.read (reader : PropertyReader) (env : FetchEnvironment) : Value :=
  (env.source.property? reader.property).getD .null

instance : DataFetcher PropertyReader := ⟨fun reader env => .ok (reader.read env)⟩

/-! ## Resolving types -/

/-- What a type resolver gets to see. -/
structure ResolutionEnvironment where
  /-- The value whose concrete type is asked for. -/
  value : Value
  /-- The name of the interface or union that the value was declared as. -/
  abstractType : String

/-- What can be run to pick the concrete type of a value. -/
class TypeResolver (ρ : Type) where
  /-- The name of the concrete type, or nothing if the value fits none. -/
  resolveType : ρ → ResolutionEnvironment → Option String

/-! ## Bindings -/

/-- What a field is bound to. -/
inductive FieldResolver (B : Behaviours)
  /-- The property of the given name; this is what a field is bound to by default. -/
  | property (name : String)
  /-- A fetcher from the wiring. -/
  | fetcher (bound : B.Fetcher)

namespace FieldResolver

variable {B : Behaviours}

/-- Runs what the field is bound to. -/
def resolve [DataFetcher B.Fetcher] (resolver : FieldResolver B) (env : FetchEnvironment) :
    Except FieldError Value :=
  match resolver with
  | property name => DataFetcher.fetch (PropertyReader.mk name) env
  | fetcher bound => DataFetcher.fetch bound env

/-- The property read, if the field is bound to one. -/
def property? : FieldResolver B → Option String
  | property name => some name
  | fetcher _ => none

/-- The fetcher bound, if the field is bound to one. -/
def fetcher? : FieldResolver B → Option B.Fetcher
  | property _ => none
  | fetcher bound => some bound

/-- The form shown for inspection. -/
def text : FieldResolver B → String
  | property name => s!"Property({Text.inspect name})"
  | fetcher _ => "Fetcher(..)"

end FieldResolver

/-- What an interface or a union is bound to. -/
inductive TypeResolverBinding (B : Behaviours)
  /-- A resolver from the wiring. -/
  | wired (bound : B.Resolver)
  /-- Nothing: picking a type is left to whoever executes the schema. -/
  | unresolved

namespace TypeResolverBinding

variable {B : Behaviours}

/-- The resolver bound, if there is one. -/
def resolver? : TypeResolverBinding B → Option B.Resolver
  | wired bound => some bound
  | unresolved => none

/-- The binding of a resolver that may be missing. -/
def ofOption : Option B.Resolver → TypeResolverBinding B
  | some bound => wired bound
  | none => unresolved

/-- Whether a resolver is bound. -/
def isWired (binding : TypeResolverBinding B) : Bool := binding.resolver?.isSome

/-- Runs the bound resolver, if there is one. -/
def resolveType [TypeResolver B.Resolver] (binding : TypeResolverBinding B)
    (env : ResolutionEnvironment) : Option String :=
  binding.resolver?.bind fun bound => TypeResolver.resolveType bound env

/-- The form shown for inspection. -/
def text : TypeResolverBinding B → String
  | wired _ => "Wired(..)"
  | unresolved => "Unresolved"

end TypeResolverBinding

end SchemaAssembly
