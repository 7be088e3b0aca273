/-
# The diagnostic form of structured values

Records, variants and lists are shown with their names, their fields and the usual brackets around
them.
-/

import DynamicValue.Text.Quoted

namespace DynamicValue.Text

/-- Items separated by a comma and a blank. -/
def commaSeparated (items : List String) : String := String.intercalate ", " items

/-- A record with its name and its named fields. -/
def record (name : String) (fields : List (String × String)) : String :=
  name ++ " \x7b " ++ commaSeparated (fields.map fun field => field.1 ++ ": " ++ field.2) ++ " \x7d"

/-- A variant with its name and its unnamed fields. -/
def variant (name : String) (fields : List String) : String :=
  name ++ "(" ++ commaSeparated fields ++ ")"

/-- A list of items. -/
def listing (items : List String) : String := "[" ++ commaSeparated items ++ "]"

end DynamicValue.Text
