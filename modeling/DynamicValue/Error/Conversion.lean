/-
# Errors of conversions

A conversion fails for one of six causes. An accessor adds the two types between which it was to
convert. Each error has a text of its own, a message in every language and a diagnostic form; the
text and the English message are written independently of each other and agree.
-/

import DynamicValue.Message.Catalog
import DynamicValue.Text.Structured
import DynamicValue.Type.Identity

namespace DynamicValue

/-- The kinds of errors of conversions. -/
inductive ConversionErrorKind
  | foreignDestination
  | noConversion
  | outOfRange
  | inexact
  | invalidText
  | emptySource
  deriving DecidableEq, Repr

namespace ConversionErrorKind

/-- The kinds of errors. -/
def all : List ConversionErrorKind :=
  [foreignDestination, noConversion, outOfRange, inexact, invalidText, emptySource]

/-- The name of a kind of error. -/
def name : ConversionErrorKind → String
  | foreignDestination => "ForeignDestination"
  | noConversion => "NoConversion"
  | outOfRange => "OutOfRange"
  | inexact => "Inexact"
  | invalidText => "InvalidText"
  | emptySource => "EmptySource"

/-- The kind of error with a name. -/
def ofName? (name : String) : Option ConversionErrorKind := all.find? fun kind => kind.name = name

end ConversionErrorKind

/-- Why a conversion failed. -/
inductive ConversionError
  | foreignDestination (dest : TypeIdentity)
  | noConversion (source dest : TypeIdentity)
  | outOfRange (value : String) (dest : TypeIdentity)
  | inexact (value : String) (dest : TypeIdentity)
  | invalidText (text : String) (dest : TypeIdentity)
  | emptySource
  deriving DecidableEq

namespace ConversionError

/-- The kind of an error. -/
def kind : ConversionError → ConversionErrorKind
  | foreignDestination .. => .foreignDestination
  | noConversion .. => .noConversion
  | outOfRange .. => .outOfRange
  | inexact .. => .inexact
  | invalidText .. => .invalidText
  | emptySource => .emptySource

/-- The error of a kind with the fields that the kind has, out of the text and the types given. -/
def ofKind (kind : ConversionErrorKind) (text : String) (source dest : TypeIdentity) :
    ConversionError :=
  match kind with
  | .foreignDestination => .foreignDestination dest
  | .noConversion => .noConversion source dest
  | .outOfRange => .outOfRange text dest
  | .inexact => .inexact text dest
  | .invalidText => .invalidText text dest
  | .emptySource => .emptySource

/-- The text of an error. -/
def text : ConversionError → String
  | foreignDestination dest =>
    "'" ++ dest.name ++ "' is a foreign type and accepts no implicit conversion"
  | noConversion source dest =>
    "no conversion registered from '" ++ source.name ++ "' to '" ++ dest.name ++ "'"
  | outOfRange value dest => "value " ++ value ++ " is out of range for '" ++ dest.name ++ "'"
  | inexact value dest =>
    "value " ++ value ++ " cannot be represented exactly as '" ++ dest.name ++ "'"
  | invalidText text dest => "cannot parse \"" ++ text ++ "\" as '" ++ dest.name ++ "'"
  | emptySource => "cannot convert an empty value"

/-- The message of an error in a language. -/
def message (locale : Locale) : ConversionError → String
  | foreignDestination dest => Message.foreignDestination.format locale [dest.name]
  | noConversion source dest => Message.noConversion.format locale [source.name, dest.name]
  | outOfRange value dest => Message.outOfRange.format locale [value, dest.name]
  | inexact value dest => Message.inexact.format locale [value, dest.name]
  | invalidText text dest => Message.invalidText.format locale [text, dest.name]
  | emptySource => Message.emptySource.format locale []

/-- The diagnostic form of an error. -/
def debugText (error : ConversionError) : String :=
  match error with
  | foreignDestination dest => Text.record error.kind.name [("to", dest.debugText)]
  | noConversion source dest =>
    Text.record error.kind.name [("from", source.debugText), ("to", dest.debugText)]
  | outOfRange value dest | inexact value dest =>
    Text.record error.kind.name [("value", Text.quoted value), ("to", dest.debugText)]
  | invalidText text dest =>
    Text.record error.kind.name [("text", Text.quoted text), ("to", dest.debugText)]
  | emptySource => error.kind.name

/-- Whether two errors are equal, their types compared by identity. -/
def same : ConversionError → ConversionError → Bool
  | foreignDestination dest, foreignDestination dest' => dest.same dest'
  | noConversion source dest, noConversion source' dest' => source.same source' && dest.same dest'
  | outOfRange value dest, outOfRange value' dest' => value = value' && dest.same dest'
  | inexact value dest, inexact value' dest' => value = value' && dest.same dest'
  | invalidText text dest, invalidText text' dest' => text = text' && dest.same dest'
  | emptySource, emptySource => true
  | _, _ => false

end ConversionError

/-- The failure of an accessor: the types it was to convert between, and why that failed. -/
structure AccessError where
  source : TypeIdentity
  dest : TypeIdentity
  cause : ConversionError
  deriving DecidableEq

namespace AccessError

/-- The text of the failure, which leaves its cause to the chain of causes. -/
def text (error : AccessError) : String :=
  "cannot convert " ++ error.source.name ++ " to " ++ error.dest.name

/-- The message of the failure in a language. -/
def message (locale : Locale) (error : AccessError) : String :=
  Message.badAccess.format locale [error.source.name, error.dest.name]

/-- The texts of the chain of causes, the nearest first. -/
def causeTexts (error : AccessError) : List String := [error.cause.text]

/-- The diagnostic form of the failure. -/
def debugText (error : AccessError) : String :=
  Text.record "BadAnyCast" [("from", error.source.debugText), ("to", error.dest.debugText),
    ("cause", error.cause.debugText)]

end AccessError

end DynamicValue
