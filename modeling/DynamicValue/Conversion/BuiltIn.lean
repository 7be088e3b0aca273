/-
# The built-in conversions

A rule converts the values of one type into another or refuses. The built-in rules connect the
numbers, truth values, characters and texts: between numbers they keep the value exactly, but for
the rounding to a floating-point format; a text is read as a whole; and every value is written as
its text. No built-in rule leads from or to a type of an embedding program.
-/

import DynamicValue.Decimal.Reader
import DynamicValue.Number.Wide
import DynamicValue.Payload.Text

namespace DynamicValue

/-- Why a rule refuses a value: a number that the destination does not hold, at all or exactly, or a
text that does not denote one of its values. -/
inductive Refusal
  | outOfRange (value : String)
  | inexact (value : String)
  | invalidText (text : String)
  deriving DecidableEq

/-- A conversion that depends on nothing but the value. -/
abbrev Rule (source dest : ValueType) : Type := source.Value → Except Refusal dest.Value

/-- A result, or the refusal of the value that has none. -/
def Refusal.unlessSome {α : Type} (refusal : Refusal) : Option α → Except Refusal α
  | some value => .ok value
  | none => .error refusal

namespace Rule

/-- An integer as an integer of another kind: the same number, if the kind contains it. -/
def integerToInteger (source dest : IntKind) : Rule (.integer source) (.integer dest) := fun n =>
  (Refusal.outOfRange (Decimal.integerText n.val)).unlessSome (dest.ofInt? n.val)

/-- An integer as a floating-point number: the nearest one. -/
def integerToFloat (source : IntKind) (dest : FloatKind) : Rule (.integer source) (.float dest) :=
  fun n => .ok (.ofInt dest n.val)

/-- A number of double width as an integer: only a finite number without a fraction is one. What
the wide integers do not reach, no kind does. -/
def doubleToInteger (dest : IntKind) : Rule (.float .double) (.integer dest) := fun x =>
  if x.isFinite then
    if x.isIntegral then
      if x.isBeyondWide then .error (.outOfRange x.text)
      else (Refusal.outOfRange x.text).unlessSome (dest.ofInt? x.saturated)
    else .error (.inexact x.text)
  else .error (.outOfRange x.text)

/-- A floating-point number as an integer, by way of double width, which refusals show. -/
def floatToInteger (source : FloatKind) (dest : IntKind) : Rule (.float source) (.integer dest) :=
  fun x => doubleToInteger dest x.widen

/-- A truth value as an integer. -/
def booleanToInteger (dest : IntKind) : Rule .boolean (.integer dest) :=
  fun b => .ok (dest.ofBool b)

/-- An integer as a truth value: whether it differs from zero. -/
def integerToBoolean (source : IntKind) : Rule (.integer source) .boolean := fun n =>
  .ok (n.val ≠ 0)

/-- A truth value as a floating-point number. -/
def booleanToFloat (dest : FloatKind) : Rule .boolean (.float dest) := fun b => .ok (.ofBool dest b)

/-- A floating-point number as a truth value: whether it differs from zero. -/
def floatToBoolean (source : FloatKind) : Rule (.float source) .boolean := fun x => .ok x.isNonzero

/-- A number of single width as one of double width, exactly. -/
def widen : Rule (.float .single) (.float .double) := fun x => .ok x.widen

/-- A number of double width as one of single width: the nearest one, unless a finite number would
become infinite. -/
def narrow : Rule (.float .double) (.float .single) := fun x =>
  let narrowed := x.convert .single
  if x.isFinite && narrowed.isInfinite then .error (.outOfRange x.text) else .ok narrowed

/-- A value as its text. -/
def write (source : ValueType) : Rule source .text := fun value => .ok (source.textOf value)

/-- The integer that a text denotes. -/
def readInteger (kind : IntKind) (text : String) : Except Refusal kind.Value :=
  (Refusal.invalidText text).unlessSome (kind.read? text)

/-- The floating-point number that a text denotes. -/
def readFloat (kind : FloatKind) (text : String) : Except Refusal (Binary kind) :=
  (Refusal.invalidText text).unlessSome (Binary.read? kind text)

/-- The truth value that a text denotes: its word or its digit. -/
def readBoolean (text : String) : Except Refusal Bool :=
  if text = "true" ∨ text = "1" then .ok true
  else if text = "false" ∨ text = "0" then .ok false
  else .error (.invalidText text)

/-- The character that a text of one character consists of. -/
def readCharacter (text : String) : Except Refusal Char :=
  match text.toList with
  | [c] => .ok c
  | _ => .error (.invalidText text)

/-- The code point of a character. -/
def characterToCode : Rule .character (.integer ⟨false, .bits32⟩) := fun c =>
  .ok ⟨c.toNat, IntKind.contains_of_lt c.val.toNat_lt⟩

/-- The character with a code point, if the number is one. -/
def codeToCharacter : Rule (.integer ⟨false, .bits32⟩) .character := fun n =>
  if n.val.toNat.isValidChar then .ok (Char.ofNat n.val.toNat)
  else .error (.outOfRange (Decimal.integerText n.val))

end Rule

/-- A rule together with the types that it connects. -/
structure BuiltIn where
  source : ValueType
  dest : ValueType
  rule : Rule source dest

namespace BuiltIn

/-- The rules between integer kinds. -/
def integers : List BuiltIn :=
  IntKind.all.flatMap fun dest =>
    IntKind.all.map fun source => ⟨_, _, .integerToInteger source dest⟩

/-- The rules between integers and floating-point numbers. -/
def integersAndFloats : List BuiltIn :=
  IntKind.all.flatMap fun kind =>
    [⟨_, _, .integerToFloat kind .single⟩, ⟨_, _, .integerToFloat kind .double⟩,
      ⟨_, _, .floatToInteger .single kind⟩, ⟨_, _, .floatToInteger .double kind⟩]

/-- The rules between numbers and truth values. -/
def numbersAndBooleans : List BuiltIn :=
  (IntKind.all.flatMap fun kind =>
    [⟨_, _, .integerToBoolean kind⟩, ⟨_, _, .booleanToInteger kind⟩]) ++
  (FloatKind.all.flatMap fun kind =>
    [⟨_, _, .floatToBoolean kind⟩, ⟨_, _, .booleanToFloat kind⟩])

/-- The rules that write a value and read it from both kinds of text. -/
def texts (type : ValueType) (read : String → Except Refusal type.Value) : List BuiltIn :=
  [⟨type, .text, .write type⟩, ⟨.text, type, read⟩, ⟨.literal, type, read⟩]

/-- The rules between numbers and texts. -/
def numbersAndTexts : List BuiltIn :=
  (IntKind.all.flatMap fun kind => texts (.integer kind) (Rule.readInteger kind)) ++
  (FloatKind.all.flatMap fun kind => texts (.float kind) (Rule.readFloat kind))

/-- Every built-in rule, in the order in which a registry takes them in. -/
def all : List BuiltIn :=
  integers ++ integersAndFloats ++ numbersAndBooleans ++ numbersAndTexts ++
    [⟨_, _, .widen⟩, ⟨_, _, .narrow⟩] ++
    texts .boolean Rule.readBoolean ++
    texts .character Rule.readCharacter ++
    [⟨_, _, Rule.characterToCode⟩, ⟨_, _, Rule.codeToCharacter⟩, ⟨_, _, .write .literal⟩]

end BuiltIn

end DynamicValue
