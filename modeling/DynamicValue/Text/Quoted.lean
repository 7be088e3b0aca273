/-
# Quoted text

A quoted text stands between two quotation marks. Inside, the quotation mark, the backslash and four
control characters have escapes of two characters; every other character that cannot be seen on its
own is written by its code point in braces, in lower-case hexadecimal digits without leading zeros.
-/

import DynamicValue.Text.Unprintable
import DynamicValue.Text.Combining

namespace DynamicValue.Text

/-- A hexadecimal digit, in lower case. -/
def hexCharacter (d : Nat) : Char :=
  if d < 10 then Char.ofNat ('0'.toNat + d) else Char.ofNat ('a'.toNat + (d - 10))

/-- The hexadecimal digits of a number, without leading zeros. -/
def hexDigits (n : Nat) : List Char :=
  if n < 16 then [hexCharacter n] else hexDigits (n / 16) ++ [hexCharacter (n % 16)]
termination_by n

/-- The escape that names a character by its code point. -/
def codePointEscape (c : Char) : List Char :=
  '\\' :: 'u' :: '\x7b' :: (hexDigits c.toNat ++ ['\x7d'])

/-- How a character is written inside a quoted text. -/
def escape (c : Char) : List Char :=
  if c = '\x00' then ['\\', '0']
  else if c = '\t' then ['\\', 't']
  else if c = '\r' then ['\\', 'r']
  else if c = '\n' then ['\\', 'n']
  else if c = '"' then ['\\', '"']
  else if c = '\\' then ['\\', '\\']
  else if isCombining c || isUnprintable c then codePointEscape c
  else [c]

/-- A text between quotation marks. -/
def quoted (text : String) : String :=
  String.ofList ('"' :: (text.toList.flatMap escape ++ ['"']))

end DynamicValue.Text
