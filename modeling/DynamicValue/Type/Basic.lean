/-
# The types of values

A dynamic value can hold a value of any of the types below. Six families are known to the conversion
registry; the other eight stand for the types that an embedding program brings along. A type has a
name, a class, which decides whether implicit conversions may lead to it, and a layout, which
decides how a dynamic value stores it.
-/

import DynamicValue.Number.IntKind
import DynamicValue.Number.Binary

namespace DynamicValue

/-- Whether implicit conversions may lead to a type. -/
inductive TypeClass
  | native
  | foreign
  deriving DecidableEq, Repr

/-- The name of a class. -/
def TypeClass.name : TypeClass → String
  | native => "Native"
  | foreign => "Foreign"

/-- The types of values. -/
inductive ValueType
  | integer (kind : IntKind)
  | float (kind : FloatKind)
  | boolean
  | character
  | text
  | literal
  | point
  | block
  | handle
  | over16
  | tagged
  | fixed
  | probe
  | bigProbe
  deriving DecidableEq, Repr

/-- The memory that a value of a type takes: its size and its alignment, in bytes. -/
structure Layout where
  size : Nat
  alignment : Nat
  deriving DecidableEq

namespace Layout

/-- The storage slot of a dynamic value: one machine word. -/
def slot : Layout := ⟨8, 8⟩

/-- Whether a value fits into the slot itself, by size and by alignment. -/
def fitsSlot (layout : Layout) : Bool :=
  layout.size ≤ slot.size && layout.alignment ≤ slot.alignment

/-- The layout of a number of the given width in bits. -/
def ofBits (bits : Nat) : Layout := ⟨bits / 8, bits / 8⟩

end Layout

namespace ValueType

/-- Every type, in the order in which types are listed. -/
def all : List ValueType :=
  IntKind.all.map integer ++ FloatKind.all.map float ++
    [boolean, character, text, literal, point, block, handle, over16, tagged, fixed, probe,
      bigProbe]

/-- The full name of a type, as error messages and log lines show it. -/
def name : ValueType → String
  | integer kind => kind.name
  | float kind => kind.name
  | boolean => "bool"
  | character => "char"
  | text => "alloc::string::String"
  | literal => "&str"
  | point => "driver::Point"
  | block => "driver::Block"
  | handle => "driver::Handle"
  | over16 => "driver::Over16"
  | tagged => "driver::Tag"
  | fixed => "driver::Fixed"
  | probe => "driver::Probe"
  | bigProbe => "driver::BigProbe"

/-- The short name by which requests name a type. -/
def tag : ValueType → String
  | integer kind => kind.name
  | float kind => kind.name
  | boolean => "bool"
  | character => "char"
  | text => "String"
  | literal => "str"
  | point => "Point"
  | block => "Block"
  | handle => "Handle"
  | over16 => "Over16"
  | tagged => "Tag"
  | fixed => "Fixed"
  | probe => "Probe"
  | bigProbe => "BigProbe"

/-- The type with a short name. -/
def ofTag? (tag : String) : Option ValueType :=
  all.find? fun type => type.tag = tag

/-- The class of a type: numbers, truth values, characters, texts and fixed-point numbers are
native. -/
def typeClass : ValueType → TypeClass
  | integer _ | float _ | boolean | character | text | literal | fixed => .native
  | point | block | handle | over16 | tagged | probe | bigProbe => .foreign

/-- The layout of a type's values. -/
def layout : ValueType → Layout
  | integer kind => .ofBits kind.width.bits
  | float kind => .ofBits kind.width
  | boolean => ⟨1, 1⟩
  | character => ⟨4, 4⟩
  | text => ⟨24, 8⟩
  | literal => ⟨16, 8⟩
  | point => ⟨8, 4⟩
  | block => ⟨32, 8⟩
  | handle => ⟨0, 1⟩
  | over16 => ⟨0, 16⟩
  | tagged => ⟨24, 8⟩
  | fixed => ⟨8, 8⟩
  | probe => ⟨8, 8⟩
  | bigProbe => ⟨40, 8⟩

/-- Whether values of the type are stored in the slot itself. -/
def isInline (type : ValueType) : Bool := type.layout.fitsSlot

/-- Whether implicit conversions never lead to the type. -/
def isForeign (type : ValueType) : Bool := type.typeClass = .foreign

end ValueType

end DynamicValue
