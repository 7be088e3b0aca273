/-
# Reading quoted text back

A quoted text can be read back, whatever its characters are. A reader goes through the text up to
the closing quote. Between two characters it finds this quote, a backslash, or a character that
stands for itself; behind a backslash, the second character of a short escape or the code point of a
character. What is written for one character always leads the reader from between two characters to
between two characters, and has it read this character, so the reader finds the text character by
character.
-/

import DynamicValue.Text.Quoted
import Mathlib.Tactic.SplitIfs

namespace DynamicValue.Text

/-! ## The reader -/

/-- The number that a hexadecimal digit in lower case stands for. -/
def hexValue? (c : Char) : Option Nat :=
  if '0' ≤ c ∧ c ≤ '9' then some (c.toNat - '0'.toNat)
  else if 'a' ≤ c ∧ c ≤ 'f' then some (10 + (c.toNat - 'a'.toNat))
  else none

/-- The character that an escape of two characters stands for, by the second of them. -/
def shortEscape? : Char → Option Char
  | '0' => some '\x00'
  | 't' => some '\t'
  | 'r' => some '\r'
  | 'n' => some '\n'
  | '"' => some '"'
  | '\\' => some '\\'
  | _ => none

/-- Where a reader is in a quoted text: between two characters, behind a backslash, in front of the
braces of a code point, or between them, behind digits with a value. -/
inductive Reader
  | between
  | escape
  | codePoint
  | digits (value : Nat)

/-- A character in front of what is read behind it. -/
def readFirst (c : Char) (read? : Option (List Char × List Char)) :
    Option (List Char × List Char) :=
  read?.map fun (text, rest) => (c :: text, rest)

/-- Reads up to the closing quote, and gives what stands behind it as well. -/
def Reader.read? : Reader → List Char → Option (List Char × List Char)
  | _, [] => none
  | between, c :: rest =>
    if c = '"' then some ([], rest)
    else if c = '\\' then escape.read? rest
    else readFirst c (between.read? rest)
  | escape, c :: rest =>
    if c = 'u' then codePoint.read? rest
    else
      match shortEscape? c with
      | some escaped => readFirst escaped (between.read? rest)
      | none => none
  | codePoint, c :: rest => if c = '\x7b' then (digits 0).read? rest else none
  | digits value, c :: rest =>
    if c = '\x7d' then
      if value.isValidChar then readFirst (Char.ofNat value) (between.read? rest) else none
    else
      match hexValue? c with
      | some digit => (digits (16 * value + digit)).read? rest
      | none => none

/-- The text that a quoted text is the quoted form of. -/
def unquoted? (shown : String) : Option String :=
  match shown.toList with
  | '"' :: inner =>
    match Reader.between.read? inner with
    | some (text, []) => some (String.ofList text)
    | _ => none
  | _ => none

/-! ## Hexadecimal digits -/

theorem hexValue?_hexCharacter : ∀ d < 16, hexValue? (hexCharacter d) = some d := by decide

/-- The digits of a number are digits. -/
theorem exists_of_mem_hexDigits {c : Char} {n : Nat} (hmem : c ∈ hexDigits n) :
    ∃ d < 16, c = hexCharacter d := by
  fun_induction hexDigits n with
  | case1 n hsmall => exact ⟨n, hsmall, List.mem_singleton.mp hmem⟩
  | case2 n hlarge ih =>
      obtain hfront | hlast := List.mem_append.mp hmem
      · exact ih hfront
      · exact ⟨n % 16, Nat.mod_lt n (by omega), List.mem_singleton.mp hlast⟩

theorem read?_hexCharacter {d : Nat} (hdigit : d < 16) (value : Nat) (rest : List Char) :
    (Reader.digits value).read? (hexCharacter d :: rest) =
      (Reader.digits (16 * value + d)).read? rest := by
  have hbrace : ∀ d < 16, hexCharacter d ≠ '\x7d' := by decide
  rw [Reader.read?, if_neg (hbrace d hdigit), hexValue?_hexCharacter d hdigit]

/-- The reader finds the number whose digits it goes through. -/
theorem read?_hexDigits (n : Nat) (rest : List Char) :
    (Reader.digits 0).read? (hexDigits n ++ rest) = (Reader.digits n).read? rest := by
  fun_induction hexDigits n generalizing rest with
  | case1 n hsmall =>
      rw [List.singleton_append, read?_hexCharacter hsmall, Nat.mul_zero, Nat.zero_add]
  | case2 n hlarge ih =>
      rw [List.append_assoc, List.singleton_append, ih,
        read?_hexCharacter (Nat.mod_lt n (by omega)), Nat.div_add_mod]

/-! ## Characters -/

/-- A character can be seen on its own. -/
def IsVisible (c : Char) : Prop := isCombining c = false ∧ isUnprintable c = false

/-- Whether a character is one of those from the blank to the tilde. -/
def isPlain (c : Char) : Bool := within [(0x20, 0x7e)] c

theorem isVisible_of_isPlain {c : Char} (hplain : isPlain c) : IsVisible c := by
  have hplain : 0x20 ≤ c.toNat ∧ c.toNat ≤ 0x7e := by simpa [isPlain, within] using hplain
  have houtside (ranges : List (Nat × Nat))
      (hranges : ranges.all fun range => range.2 < 0x20 || 0x7e < range.1) :
      within ranges c = false := by
    refine List.any_eq_false.mpr fun range hmem => ?_
    have hrange := List.all_eq_true.mp hranges range hmem
    simp only [Bool.or_eq_true, decide_eq_true_eq] at hrange
    simp only [Bool.and_eq_true, decide_eq_true_eq]
    omega
  exact ⟨houtside combiningRanges (by decide +kernel),
    houtside unprintableRanges (by decide +kernel)⟩

/-- The letters of the escapes of two characters. -/
def shortEscapeLetters : List Char := ['0', 't', 'r', 'n', '"', '\\']

/-- How a character is written, by its class. -/
theorem escape_cases (c : Char) :
    (∃ letter ∈ shortEscapeLetters, shortEscape? letter = some c ∧ escape c = ['\\', letter]) ∨
      escape c = codePointEscape c ∨
      c ≠ '"' ∧ c ≠ '\\' ∧ IsVisible c ∧ escape c = [c] := by
  unfold escape
  split_ifs with hnull htab hreturn hline hquote hbackslash hhidden
  · exact .inl ⟨'0', by decide, congrArg some hnull.symm, rfl⟩
  · exact .inl ⟨'t', by decide, congrArg some htab.symm, rfl⟩
  · exact .inl ⟨'r', by decide, congrArg some hreturn.symm, rfl⟩
  · exact .inl ⟨'n', by decide, congrArg some hline.symm, rfl⟩
  · exact .inl ⟨'"', by decide, congrArg some hquote.symm, rfl⟩
  · exact .inl ⟨'\\', by decide, congrArg some hbackslash.symm, rfl⟩
  · exact .inr (.inl rfl)
  · obtain ⟨hcombining, hprintable⟩ := Bool.or_eq_false_iff.mp (Bool.eq_false_iff.mpr hhidden)
    exact .inr (.inr ⟨hquote, hbackslash, ⟨hcombining, hprintable⟩, rfl⟩)

/-- What is written for a character is read as this character. -/
theorem read?_escape (c : Char) (rest : List Char) :
    Reader.between.read? (escape c ++ rest) = readFirst c (Reader.between.read? rest) := by
  obtain ⟨letter, hmem, hletter, hescape⟩ | hescape | ⟨hquote, hbackslash, -, hescape⟩ :=
    escape_cases c
  · have hnotCodePoint : letter ≠ 'u' := by
      rintro rfl
      exact absurd hmem (by decide)
    rw [hescape]
    change Reader.escape.read? (letter :: rest) = _
    rw [Reader.read?, if_neg hnotCodePoint, hletter]
  · have hvalid : c.toNat.isValidChar := c.valid
    rw [hescape]
    change (Reader.digits 0).read? ((hexDigits c.toNat ++ ['\x7d']) ++ rest) = _
    rw [List.append_assoc, read?_hexDigits, List.singleton_append, Reader.read?, if_pos rfl,
      if_pos hvalid, Char.ofNat_toNat]
  · rw [hescape, List.singleton_append, Reader.read?, if_neg hquote, if_neg hbackslash]

/-- The reader stops at the first quote behind what is written for a text, and has read the text. -/
theorem read?_flatMap_escape (text rest : List Char) :
    Reader.between.read? (text.flatMap escape ++ '"' :: rest) = some (text, rest) := by
  induction text with
  | nil => rfl
  | cons c text ih =>
      rw [List.flatMap_cons, List.append_assoc, read?_escape, ih]
      rfl

/-- Quoting can be undone. -/
theorem unquoted?_quoted (text : String) : unquoted? (quoted text) = some text := by
  unfold unquoted? quoted
  rw [String.toList_ofList]
  simp only [read?_flatMap_escape, String.ofList_toList]

example : unquoted? "\"\\u\x7b301\x7d\\n\\\\\"" = some "\u0301\n\\" := by decide +kernel

/-! ## The form of a quoted text -/

/-- What stands in front of the first quote without a backslash, and what stands behind it. A
backslash takes the character behind it along. -/
def splitAtQuote : List Char → Option (List Char × List Char)
  | '\\' :: c :: rest => (splitAtQuote rest).map fun (front, back) => ('\\' :: c :: front, back)
  | '"' :: rest => some ([], rest)
  | c :: rest => (splitAtQuote rest).map fun (front, back) => (c :: front, back)
  | [] => none

/-- Characters that are neither quotes nor backslashes are passed over. -/
theorem splitAtQuote_append {front : List Char} (hplain : ∀ c ∈ front, c ≠ '"' ∧ c ≠ '\\')
    (rest : List Char) :
    splitAtQuote (front ++ rest) =
      (splitAtQuote rest).map fun (found, back) => (front ++ found, back) := by
  induction front with
  | nil => simp
  | cons c front ih =>
      obtain ⟨⟨hquote, hbackslash⟩, hfront⟩ := List.forall_mem_cons.mp hplain
      rw [List.cons_append, splitAtQuote, ih hfront, Option.map_map]
      · rfl
      · exact fun _ _ hsame => absurd hsame hbackslash
      · exact hquote

theorem splitAtQuote_escape (c : Char) (rest : List Char) :
    splitAtQuote (escape c ++ rest) =
      (splitAtQuote rest).map fun (found, back) => (escape c ++ found, back) := by
  obtain ⟨letter, -, -, hescape⟩ | hescape | ⟨hquote, hbackslash, -, hescape⟩ := escape_cases c
  · rw [hescape]
    rfl
  · have hdigits : ∀ d < 16, hexCharacter d ≠ '"' ∧ hexCharacter d ≠ '\\' := by decide
    have hplain : ∀ written ∈ '\x7b' :: (hexDigits c.toNat ++ ['\x7d']),
        written ≠ '"' ∧ written ≠ '\\' := by
      intro written hmem
      rw [List.mem_cons, List.mem_append, List.mem_singleton] at hmem
      obtain rfl | hdigit | rfl := hmem
      · decide
      · obtain ⟨d, hsmall, rfl⟩ := exists_of_mem_hexDigits hdigit
        exact hdigits d hsmall
      · decide
    rw [hescape]
    unfold codePointEscape
    rw [List.cons_append, List.cons_append, splitAtQuote, splitAtQuote_append hplain,
      Option.map_map]
    rfl
  · rw [hescape]
    exact splitAtQuote_append (by simpa using ⟨hquote, hbackslash⟩) rest

/-- The first quote without a backslash is the closing one. -/
theorem splitAtQuote_flatMap_escape (text rest : List Char) :
    splitAtQuote (text.flatMap escape ++ '"' :: rest) = some (text.flatMap escape, rest) := by
  induction text with
  | nil => rfl
  | cons c text ih =>
      rw [List.flatMap_cons, List.append_assoc, splitAtQuote_escape, ih]
      rfl

/-- Everything that is written for a character can be seen on its own. -/
theorem isVisible_of_mem_escape {c written : Char} (hmem : written ∈ escape c) :
    IsVisible written := by
  have hshort : ∀ written ∈ '\\' :: shortEscapeLetters, isPlain written :=
    List.all_eq_true.mp (by decide)
  have hbraces : ∀ written ∈ ['\\', 'u', '\x7b', '\x7d'], isPlain written :=
    List.all_eq_true.mp (by decide)
  have hdigits : ∀ d < 16, isPlain (hexCharacter d) := by decide
  obtain ⟨letter, hletter, -, hescape⟩ | hescape | ⟨-, -, hvisible, hescape⟩ := escape_cases c
  · rw [hescape, List.mem_cons, List.mem_singleton] at hmem
    obtain rfl | rfl := hmem
    · exact isVisible_of_isPlain (hshort _ List.mem_cons_self)
    · exact isVisible_of_isPlain (hshort written (List.mem_cons_of_mem _ hletter))
  · have hparts : escape c = ['\\', 'u', '\x7b'] ++ (hexDigits c.toNat ++ ['\x7d']) := hescape
    rw [hparts, List.mem_append, List.mem_append] at hmem
    obtain hmem | hmem | hmem := hmem
    · exact isVisible_of_isPlain (hbraces written (List.mem_append_left ['\x7d'] hmem))
    · obtain ⟨d, hsmall, rfl⟩ := exists_of_mem_hexDigits hmem
      exact isVisible_of_isPlain (hdigits d hsmall)
    · exact isVisible_of_isPlain
        (hbraces written (List.mem_append_right ['\\', 'u', '\x7b'] hmem))
  · rw [hescape, List.mem_singleton] at hmem
    exact hmem ▸ hvisible

/-- What stands between the quotes of a quoted text. -/
def quotedBody (text : String) : List Char := text.toList.flatMap escape

/-- A quoted text is read back as the text that it is the quoted form of. Its closing quote is the
first one without a backslash, and in front of it there are only characters that can be seen on
their own, so there is no line break, no tab and no null character. -/
structure QuotesReadably (text : String) : Prop where
  form : (quoted text).toList = '"' :: (quotedBody text ++ ['"'])
  read : ∀ rest, Reader.between.read? (quotedBody text ++ '"' :: rest) = some (text.toList, rest)
  unquoted : unquoted? (quoted text) = some text
  closing : ∀ rest, splitAtQuote (quotedBody text ++ '"' :: rest) = some (quotedBody text, rest)
  visible : ∀ c ∈ quotedBody text, IsVisible c
  control : ∀ c ∈ quotedBody text, c ∉ ['\x00', '\t', '\r', '\n']

theorem quotesReadably (text : String) : QuotesReadably text where
  form := String.toList_ofList
  read := read?_flatMap_escape text.toList
  unquoted := unquoted?_quoted text
  closing := splitAtQuote_flatMap_escape text.toList
  visible c hmem := by
    obtain ⟨source, -, hescape⟩ := List.mem_flatMap.mp hmem
    exact isVisible_of_mem_escape hescape
  control c hmem hcontrol := by
    have hhidden : ∀ c ∈ ['\x00', '\t', '\r', '\n'], isUnprintable c :=
      List.all_eq_true.mp (by decide +kernel)
    obtain ⟨source, -, hescape⟩ := List.mem_flatMap.mp hmem
    exact Bool.eq_false_iff.mp (isVisible_of_mem_escape hescape).2 (hhidden c hcontrol)

end DynamicValue.Text
