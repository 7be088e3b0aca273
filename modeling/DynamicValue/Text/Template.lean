/-
# Templates

A template is a text with placeholders, each a pair of empty braces. Filling puts the arguments in
place of the placeholders, one argument after the other: each goes where the first placeholder is
that stands behind the argument before it. So the text of an argument is never searched for
placeholders; arguments without a placeholder are left out, and placeholders without an argument
stay.

A text can also be filled where it is. Then only its bytes are counted: the offset behind the last
argument is all that is kept from one replacement to the next, and a text can be cut at the offsets
between two of its characters only.
-/

namespace DynamicValue.Text

/-- What stands in front of the first placeholder of a text, and what stands behind it. -/
def splitAtPlaceholder : List Char → Option (List Char × List Char)
  | '\x7b' :: '\x7d' :: rest => some ([], rest)
  | c :: rest => (splitAtPlaceholder rest).map fun (front, back) => (c :: front, back)
  | [] => none

/-- Puts arguments in place of the placeholders of a text, behind what is settled already. -/
def fillBehind (settled text : List Char) : List (List Char) → List Char
  | [] => settled ++ text
  | argument :: arguments =>
    match splitAtPlaceholder text with
    | some (front, back) => fillBehind (settled ++ front ++ argument) back arguments
    | none => fillBehind settled text arguments

/-- The template with its placeholders filled. -/
def fill (template : String) (arguments : List String) : String :=
  String.ofList (fillBehind [] template.toList (arguments.map String.toList))

/-! ## Filling in place -/

/-- The mark in a template that an argument takes the place of. -/
def placeholder : List Char := ['\x7b', '\x7d']

/-- The number of bytes of a text. -/
def byteLength : List Char → Nat
  | [] => 0
  | c :: rest => c.utf8Size + byteLength rest

/-- What stands in front of an offset in bytes and what stands behind it. There is nothing to give
if the offset is inside a character or behind the end. -/
def cutAt? : Nat → List Char → Option (List Char × List Char)
  | 0, text => some ([], text)
  | _ + 1, [] => none
  | offset + 1, c :: rest =>
    if c.utf8Size ≤ offset + 1 then
      (cutAt? (offset + 1 - c.utf8Size) rest).map fun (front, back) => (c :: front, back)
    else none

/-- The text with an argument in place of what is between two offsets. -/
def replaceBetween? (text : List Char) (start stop : Nat) (argument : List Char) :
    Option (List Char) := do
  let (front, _) ← cutAt? start text
  let (_, back) ← cutAt? stop text
  return front ++ argument ++ back

/-- The offset of the first placeholder of a text. -/
def placeholderOffset? (text : List Char) : Option Nat :=
  (splitAtPlaceholder text).map fun (front, _) => byteLength front

/-- Puts arguments in place of the placeholders of a text, which are looked for from an offset on.
There is no result if the text had to be cut where it cannot be. -/
def fillFrom? (text : List Char) (offset : Nat) : List (List Char) → Option (List Char)
  | [] => some text
  | argument :: arguments => do
    let (_, rest) ← cutAt? offset text
    match placeholderOffset? rest with
    | some found =>
      let start := offset + found
      let replaced ← replaceBetween? text start (start + byteLength placeholder) argument
      fillFrom? replaced (start + byteLength argument) arguments
    | none => fillFrom? text offset arguments

/-- The template with its placeholders filled in place, if this is possible. -/
def fillInPlace? (template : String) (arguments : List String) : Option String :=
  (fillFrom? template.toList 0 (arguments.map String.toList)).map String.ofList

/-! ## In place and at once

The text to fill is always made of what is settled and of what is left of the template, and the
offset is the number of bytes of the settled part. So it is cut between characters only, and what is
done to it is what filling does to the two parts. -/

@[simp] theorem byteLength_nil : byteLength [] = 0 := rfl

@[simp] theorem byteLength_cons (c : Char) (rest : List Char) :
    byteLength (c :: rest) = c.utf8Size + byteLength rest := rfl

@[simp] theorem byteLength_append (front back : List Char) :
    byteLength (front ++ back) = byteLength front + byteLength back := by
  induction front with
  | nil => simp
  | cons c front ih => rw [List.cons_append, byteLength_cons, byteLength_cons, ih, Nat.add_assoc]

/-- A text can be cut behind any part that it begins with. -/
theorem cutAt?_append (front back : List Char) :
    cutAt? (byteLength front) (front ++ back) = some (front, back) := by
  induction front with
  | nil => simp [cutAt?]
  | cons c front ih =>
      have hlength : byteLength (c :: front) = byteLength front + (c.utf8Size - 1) + 1 := by
        have hpos := c.utf8Size_pos
        rw [byteLength_cons]
        omega
      have hfits : c.utf8Size ≤ byteLength front + (c.utf8Size - 1) + 1 := by omega
      have hrest : byteLength front + (c.utf8Size - 1) + 1 - c.utf8Size = byteLength front := by
        have hpos := c.utf8Size_pos
        omega
      rw [hlength, List.cons_append, cutAt?, if_pos hfits, hrest, ih]
      rfl

theorem replaceBetween?_append (front middle back argument : List Char) :
    replaceBetween? (front ++ middle ++ back) (byteLength front)
      (byteLength front + byteLength middle) argument = some (front ++ argument ++ back) := by
  have hstart := cutAt?_append front (middle ++ back)
  have hstop := cutAt?_append (front ++ middle) back
  rw [← List.append_assoc] at hstart
  rw [byteLength_append] at hstop
  rw [replaceBetween?, hstart, hstop]
  rfl

/-- What stands in front of the first placeholder, the placeholder and what stands behind it are the
text. -/
theorem eq_of_splitAtPlaceholder {text front back : List Char}
    (hsplit : splitAtPlaceholder text = some (front, back)) :
    text = front ++ placeholder ++ back := by
  fun_induction splitAtPlaceholder text generalizing front back with
  | case1 rest =>
      cases hsplit
      rfl
  | case2 c rest _ ih =>
      obtain ⟨⟨front', back'⟩, hrest, hsame⟩ := Option.map_eq_some_iff.mp hsplit
      cases hsame
      rw [ih hrest]
      rfl
  | case3 => cases hsplit

/-- Filling from the end of the settled part on is filling behind it. -/
theorem fillFrom?_eq (settled text : List Char) (arguments : List (List Char)) :
    fillFrom? (settled ++ text) (byteLength settled) arguments =
      some (fillBehind settled text arguments) := by
  induction arguments generalizing settled text with
  | nil => rfl
  | cons argument arguments ih =>
      rw [fillFrom?, cutAt?_append, fillBehind]
      cases hsplit : splitAtPlaceholder text with
      | none =>
          have hfound : placeholderOffset? text = none := by rw [placeholderOffset?, hsplit]; rfl
          simp only [bind, Option.bind, hfound]
          exact ih settled text
      | some halves =>
          obtain ⟨front, back⟩ := halves
          have hfound : placeholderOffset? text = some (byteLength front) := by
            rw [placeholderOffset?, hsplit]
            rfl
          have hreplaced := replaceBetween?_append (settled ++ front) placeholder back argument
          rw [byteLength_append] at hreplaced
          have htext : settled ++ text = settled ++ front ++ placeholder ++ back := by
            rw [eq_of_splitAtPlaceholder hsplit]
            simp only [List.append_assoc]
          simp only [bind, Option.bind, hfound, htext, hreplaced]
          rw [← byteLength_append, ← byteLength_append]
          exact ih (settled ++ front ++ argument) back

/-- Every template can be filled in place, and is filled so with the same result. -/
theorem fillInPlace?_eq (template : String) (arguments : List String) :
    fillInPlace? template arguments = some (fill template arguments) := by
  have hfilled := fillFrom?_eq [] template.toList (arguments.map String.toList)
  rw [List.nil_append, byteLength_nil] at hfilled
  rw [fillInPlace?, hfilled]
  rfl

end DynamicValue.Text
