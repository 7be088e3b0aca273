/-
# Type identities

An identity is the token by which a running program recognises a type: a number, handed out when the
type is used first, and the type itself. Number zero belongs to the identity of the empty value,
which has no type. Identities are compared by their numbers alone.
-/

import DynamicValue.Decimal.Natural
import DynamicValue.Type.Basic

namespace DynamicValue

/-- The identity of a type, or of the empty value. -/
structure TypeIdentity where
  number : Nat
  type? : Option ValueType
  deriving DecidableEq

namespace TypeIdentity

/-- The identity of the empty value. -/
def null : TypeIdentity := ⟨0, none⟩

/-- Whether the identity is that of the empty value. -/
def isNull (identity : TypeIdentity) : Bool := identity.number = null.number

/-- Whether two identities denote the same type. -/
def same (first second : TypeIdentity) : Bool := first.number = second.number

/-- The name of the type; the empty value's is `null`. -/
def name (identity : TypeIdentity) : String :=
  match identity.type? with
  | some type => type.name
  | none => "null"

/-- The class of the type; no conversion leads to the empty value. -/
def typeClass (identity : TypeIdentity) : TypeClass :=
  match identity.type? with
  | some type => type.typeClass
  | none => .foreign

/-- Whether implicit conversions may lead to the type. -/
def isNative (identity : TypeIdentity) : Bool := identity.typeClass = .native

/-- Whether implicit conversions never lead to the type. -/
def isForeign (identity : TypeIdentity) : Bool := identity.typeClass = .foreign

/-- The diagnostic form of an identity: its number, name and class. -/
def debugText (identity : TypeIdentity) : String :=
  "TypeIdentity(" ++ Decimal.naturalText identity.number ++ ", " ++ identity.name ++ ", " ++
    identity.typeClass.name ++ ")"

end TypeIdentity

end DynamicValue
