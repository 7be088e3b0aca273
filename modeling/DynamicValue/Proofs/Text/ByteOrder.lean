/-
# The order of texts by their bytes

Texts are compared character by character, by code points. Their bytes come in the same order: a
character with a greater code point has more bytes or begins with a greater one, and of as many
bytes each but the first has six bits of the code point, the highest bits first. No character begins
with the bytes of another one, so the first characters that differ decide in both comparisons.
-/

import Mathlib.Data.List.Basic
import Mathlib.Data.String.Basic

namespace DynamicValue.Text

/-- The bytes of a text. -/
def bytes (text : String) : List UInt8 := text.toUTF8.data.toList

/-- The bytes of a text are those of its characters, one after the other. -/
theorem bytes_eq (text : String) : bytes text = text.toList.flatMap String.utf8EncodeChar := by
  have hencoded : text.toByteArray = text.toList.utf8Encode := by
    rw [← String.toByteArray_ofList, String.ofList_toList]
  unfold bytes
  rw [String.toUTF8_eq_toByteArray, hencoded]
  exact List.toList_data_toByteArray

section Bytes

variable {first second : Nat} (hfirst : first < 256) (hsecond : second < 256)
include hfirst hsecond

theorem byte_lt_iff : UInt8.ofNat first < UInt8.ofNat second ↔ first < second := by
  rw [UInt8.lt_iff_toNat_lt, UInt8.toNat_ofNat_of_lt' hfirst, UInt8.toNat_ofNat_of_lt' hsecond]

theorem byte_eq_iff : UInt8.ofNat first = UInt8.ofNat second ↔ first = second := by
  rw [← UInt8.toNat_inj, UInt8.toNat_ofNat_of_lt' hfirst, UInt8.toNat_ofNat_of_lt' hsecond]

end Bytes

/-- Of two characters, the bytes of the lower one come first, whatever follows. -/
theorem utf8EncodeChar_append_lt {c d : Char} (hless : c < d) (behind behind' : List UInt8) :
    String.utf8EncodeChar c ++ behind < String.utf8EncodeChar d ++ behind' := by
  have hcode : c.val.toNat < d.val.toNat := hless
  have hbound : d.val.toNat < 0x110000 := by
    have hvalid := d.valid
    unfold UInt32.isValidChar Nat.isValidChar at hvalid
    omega
  -- The digits of a code point in base 64, each from the rest that the one before it leaves.
  have htwo (code : Nat) : code / 4096 = code / 64 / 64 :=
    (Nat.div_div_eq_div_mul code 64 64).symm
  have hthree (code : Nat) : code / 262144 = code / 64 / 64 / 64 := by
    rw [Nat.div_div_eq_div_mul, Nat.div_div_eq_div_mul]
  unfold String.utf8EncodeChar
  simp only [htwo, hthree]
  generalize c.val.toNat = code at *
  generalize d.val.toNat = code' at *
  -- One case for each two numbers of bytes; the lower character does not have more of them.
  split_ifs <;> try omega
  all_goals
    simp (disch := omega) only [List.cons_append, List.nil_append, List.cons_lt_cons_iff,
      byte_lt_iff, byte_eq_iff]
    omega

/-- The order of texts is the order of their bytes. -/
theorem bytes_lt_of_lt {first second : String} (hless : first < second) :
    bytes first < bytes second := by
  rw [bytes_eq, bytes_eq]
  rw [String.lt_iff_toList_lt] at hless
  generalize first.toList = chars at *
  generalize second.toList = chars' at *
  induction hless with
  | @nil d chars' =>
      rw [List.flatMap_nil, List.flatMap_cons]
      obtain ⟨byte, rest, hbytes⟩ := List.exists_cons_of_length_pos (l := String.utf8EncodeChar d)
        (String.length_utf8EncodeChar d ▸ d.utf8Size_pos)
      rw [hbytes]
      exact List.nil_lt_cons _ _
  | rel hchar =>
      rw [List.flatMap_cons, List.flatMap_cons]
      exact utf8EncodeChar_append_lt hchar _ _
  | cons _ ih =>
      rw [List.flatMap_cons, List.flatMap_cons]
      exact List.append_left_lt ih

end DynamicValue.Text
