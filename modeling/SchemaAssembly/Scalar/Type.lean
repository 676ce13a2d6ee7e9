import SchemaAssembly.Behaviour
import SchemaAssembly.Scalar.Coercion

/-!
# Scalar types

A scalar type is a name bound to a codec: that of a standard scalar, or one of the caller's.

## Main definitions

* `SchemaAssembly.Codec` — a standard codec or a custom one.
* `SchemaAssembly.ScalarType` — a name and a description with a codec.
* `SchemaAssembly.StandardScalar.type` — the scalar type of a standard scalar.
-/

set_option relaxedAutoImplicit false
set_option autoImplicit false

namespace SchemaAssembly

/-- The codec of a scalar. -/
inductive Codec (B : Behaviours)
  /-- The codec of a standard scalar. -/
  | standard (scalar : StandardScalar)
  /-- A codec of the caller's. -/
  | custom (codec : B.Codec)

namespace Codec

variable {B : Behaviours}

instance [DecidableEq B.Codec] : DecidableEq (Codec B)
  | standard a, standard b => decidable_of_iff (a = b) (by simp)
  | custom a, custom b => decidable_of_iff (a = b) (by simp)
  | standard _, custom _ => isFalse (by simp)
  | custom _, standard _ => isFalse (by simp)

instance [Coercing B.Codec] : Coercing (Codec B) where
  serialize
    | standard scalar => Coercing.serialize scalar
    | custom codec => Coercing.serialize codec
  parseValue
    | standard scalar => Coercing.parseValue scalar
    | custom codec => Coercing.parseValue codec
  parseLiteral
    | standard scalar => Coercing.parseLiteral scalar
    | custom codec => Coercing.parseLiteral codec

end Codec

/-- A name bound to a codec. -/
structure ScalarType (B : Behaviours) where
  /-- The name of the scalar. -/
  name : String
  /-- What the scalar is for, if anything is said. -/
  description : Option String
  /-- The codec of the scalar. -/
  codec : Codec B

namespace ScalarType

variable {B : Behaviours}

/-- A custom scalar without a description. -/
def ofCodec (name : String) (codec : B.Codec) : ScalarType B := ⟨name, none, .custom codec⟩

/-- The same scalar with another description. -/
def describedAs (scalar : ScalarType B) (description : String) : ScalarType B :=
  { scalar with description := some description }

/-- Whether two scalars share their codec. -/
def sameCodec [DecidableEq B.Codec] (a b : ScalarType B) : Bool := a.codec = b.codec

/-- The form shown for inspection. -/
def text (scalar : ScalarType B) : String :=
  s!"ScalarType \x7b name: {Text.inspect scalar.name}, " ++
    s!"description: {Text.inspectOption scalar.description}, .. \x7d"

end ScalarType

/-- The scalar type of a standard scalar. -/
def StandardScalar.type (B : Behaviours) (scalar : StandardScalar) : ScalarType B :=
  ⟨scalar.name, some scalar.description, .standard scalar⟩

end SchemaAssembly
