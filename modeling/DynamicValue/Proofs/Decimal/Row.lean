/-
# Rows of digits

A row of digits writes a number, each digit by its place. An integer kind reads a row digit by
digit and refuses the digit that would lead out of its range. Because every digit leads further away
from zero, a range that has been left is not entered again by reading on. So a row is refused only
if its number is outside of the kind, at either end of the range, and what is read at any time is
exactly the number of the digits up to there.
-/

import DynamicValue.Decimal.Reader
import Mathlib.Data.List.Induction
import Mathlib.Data.Nat.Digits.Defs

namespace DynamicValue

namespace Decimal

variable {n : Nat} {cs : List Char}

/-- The number that a row of digits writes: each digit counts for the power of ten of its place. -/
def rowValue (cs : List Char) : Nat := Nat.ofDigits 10 (cs.map digitValue).reverse

/-- A non-empty row of ASCII digits and the number that it writes. -/
structure Row (cs : List Char) (n : Nat) : Prop where
  ne_nil : cs ≠ []
  isDigit : ∀ c ∈ cs, c.isDigit
  value : rowValue cs = n

theorem digitsValue_eq_rowValue (cs : List Char) : digitsValue cs = rowValue cs := by
  induction cs using List.reverseRecOn with
  | nil => rfl
  | append_singleton front last ih =>
      unfold rowValue at ih ⊢
      rw [digitsValue_append_singleton, ih, List.map_append, List.reverse_append]
      simp only [List.map_cons, List.map_nil, List.reverse_cons, List.reverse_nil, List.nil_append,
        List.cons_append, Nat.ofDigits_cons]
      exact Nat.add_comm _ _

/-- Exactly the rows of digits are read as natural numbers. -/
theorem natural?_eq_some_iff : natural? cs = some n ↔ Row cs n := by
  unfold natural?
  split
  · rename_i hdigits
    rw [List.all_eq_true] at hdigits
    rw [Option.some_inj, digitsValue_eq_rowValue]
    exact ⟨fun hvalue => ⟨hdigits.1, hdigits.2, hvalue⟩, fun hrow => hrow.value⟩
  · rename_i hdigits
    rw [List.all_eq_true] at hdigits
    constructor
    · intro hnone
      cases hnone
    · intro hrow
      exact absurd ⟨hrow.ne_nil, hrow.isDigit⟩ hdigits

end Decimal

namespace IntKind

variable {kind : IntKind} {negative : Bool} {value next : kind.Value} {m n : Nat} {c : Char}
  {cs : List Char}

theorem exists_ofInt? {n : Int} (hcontains : kind.Contains n) :
    ∃ value, kind.ofInt? n = some value :=
  ⟨⟨n, hcontains⟩, dif_pos hcontains⟩

theorem ofInt?_of_not_contains {n : Int} (hout : ¬ kind.Contains n) : kind.ofInt? n = none :=
  dif_neg hout

/-- A kind contains what is nearer to zero than some integer that it contains. -/
theorem contains_withSign_of_le (hle : m ≤ n)
    (hcontains : kind.Contains (Decimal.withSign negative n)) :
    kind.Contains (Decimal.withSign negative m) := by
  have hzero := kind.contains_zero
  unfold Contains at *
  unfold Decimal.withSign at *
  cases negative <;> simp only [Bool.false_eq_true, if_false, if_true] at * <;> omega

/-- The two range tests that are made for a digit amount to one. -/
theorem appendDigit?_eq (hdigit : c.isDigit) (hvalue : value.val = Decimal.withSign negative m) :
    kind.appendDigit? negative value c =
      kind.ofInt? (Decimal.withSign negative (10 * m + Decimal.digitValue c)) := by
  have htenfold : 10 * value.val = Decimal.withSign negative (10 * m) := by
    rw [hvalue]
    unfold Decimal.withSign
    cases negative <;> simp
  have hsum : (if negative then Decimal.withSign negative (10 * m) - Decimal.digitValue c
      else Decimal.withSign negative (10 * m) + Decimal.digitValue c) =
      Decimal.withSign negative (10 * m + Decimal.digitValue c) := by
    unfold Decimal.withSign
    cases negative <;> simp only [Bool.false_eq_true, if_false, if_true] <;> omega
  unfold appendDigit?
  rw [if_pos hdigit, htenfold]
  by_cases hcontains : kind.Contains (Decimal.withSign negative (10 * m))
  · obtain ⟨tenfold, hfound⟩ := exists_ofInt? hcontains
    rw [hfound, Option.bind_some, ofInt?_eq_some_iff.mp hfound, hsum]
  · have hout := mt (contains_withSign_of_le (Nat.le_add_right _ (Decimal.digitValue c))) hcontains
    rw [ofInt?_of_not_contains hcontains, ofInt?_of_not_contains hout, Option.bind_none]

/-- Reading on does not lead back towards zero. -/
theorem le_foldl_digits (m : Nat) (cs : List Char) :
    m ≤ cs.foldl (fun value c => 10 * value + Decimal.digitValue c) m := by
  induction cs generalizing m with
  | nil => exact le_rfl
  | cons c rest ih => exact le_trans (by omega) (ih (10 * m + Decimal.digitValue c))

/-- The digits behind a value that has been read are refused only if the number that they complete
is outside of the kind. -/
theorem appendDigits?_eq (hdigits : ∀ c ∈ cs, c.isDigit)
    (hvalue : value.val = Decimal.withSign negative m) :
    kind.appendDigits? negative value cs = kind.ofInt? (Decimal.withSign negative
      (cs.foldl (fun value c => 10 * value + Decimal.digitValue c) m)) := by
  unfold appendDigits?
  induction cs generalizing value m with
  | nil => exact (ofInt?_eq_some_iff.mpr hvalue).symm
  | cons c rest ih =>
      have hrest : ∀ c ∈ rest, c.isDigit := fun c hmem => hdigits c (List.mem_cons_of_mem _ hmem)
      rw [List.foldlM_cons, appendDigit?_eq (hdigits c List.mem_cons_self) hvalue, List.foldl_cons]
      cases hstep : kind.ofInt? (Decimal.withSign negative (10 * m + Decimal.digitValue c)) with
      | some step => exact ih hrest (ofInt?_eq_some_iff.mp hstep)
      | none =>
          -- The range is left here, and the remaining digits lead further away from it.
          have hout : ¬ kind.Contains
              (Decimal.withSign negative (10 * m + Decimal.digitValue c)) := by
            intro hcontains
            obtain ⟨step, hfound⟩ := exists_ofInt? hcontains
            rw [hstep] at hfound
            cases hfound
          rw [ofInt?_of_not_contains (mt (contains_withSign_of_le (le_foldl_digits _ rest)) hout)]
          rfl

theorem isDigit_of_appendDigits? (hread : kind.appendDigits? negative value cs = some next) :
    ∀ c ∈ cs, c.isDigit := by
  unfold appendDigits? at hread
  induction cs generalizing value with
  | nil => exact fun c hmem => absurd hmem List.not_mem_nil
  | cons c rest ih =>
      rw [List.foldlM_cons] at hread
      obtain ⟨step, hstep, hrest⟩ := Option.bind_eq_some_iff.mp hread
      have hdigit : c.isDigit := by
        by_contra hother
        rw [appendDigit?, if_neg hother] at hstep
        cases hstep
      exact List.forall_mem_cons.mpr ⟨hdigit, ih hrest⟩

/-- Reading digits gives a value exactly if this value is the number that they write. Nothing wraps
around, neither at the end nor on the way, which is a reading of fewer digits. -/
theorem appendDigits?_eq_some_iff :
    kind.appendDigits? negative kind.zero cs = some value ↔
      (∀ c ∈ cs, c.isDigit) ∧ value.val = Decimal.withSign negative (Decimal.rowValue cs) := by
  have hzero : kind.zero.val = Decimal.withSign negative 0 := by cases negative <;> rfl
  have hread : (∀ c ∈ cs, c.isDigit) → kind.appendDigits? negative kind.zero cs =
      kind.ofInt? (Decimal.withSign negative (Decimal.rowValue cs)) := by
    intro hdigits
    rw [appendDigits?_eq hdigits hzero, ← Decimal.digitsValue_eq_rowValue]
    rfl
  constructor
  · intro hsome
    have hdigits := isDigit_of_appendDigits? hsome
    rw [hread hdigits] at hsome
    exact ⟨hdigits, ofInt?_eq_some_iff.mp hsome⟩
  · rintro ⟨hdigits, hvalue⟩
    rw [hread hdigits]
    exact ofInt?_eq_some_iff.mpr hvalue

/-- A row of digits behind a sign is read as the number that it writes, if the kind contains it. -/
theorem readDigits?_eq_some_iff :
    kind.readDigits? negative cs = some value ↔
      ∃ n, Decimal.Row cs n ∧ value.val = Decimal.withSign negative n := by
  unfold readDigits?
  by_cases hnil : cs = []
  · rw [if_pos hnil]
    constructor
    · intro hnone
      cases hnone
    · rintro ⟨n, hrow, -⟩
      exact absurd hnil hrow.ne_nil
  · rw [if_neg hnil, appendDigits?_eq_some_iff]
    constructor
    · rintro ⟨hdigits, hvalue⟩
      exact ⟨_, ⟨hnil, hdigits, rfl⟩, hvalue⟩
    · rintro ⟨n, hrow, hvalue⟩
      rw [hvalue, ← hrow.value]
      exact ⟨hrow.isDigit, rfl⟩

/-- Reading digits within a kind and testing the range of the number in the end come to the same. -/
theorem readDigits?_eq (kind : IntKind) (negative : Bool) (cs : List Char) :
    kind.readDigits? negative cs =
      (Decimal.natural? cs).bind fun n => kind.ofInt? (Decimal.withSign negative n) := by
  apply Option.ext
  intro value
  rw [readDigits?_eq_some_iff, Option.bind_eq_some_iff]
  simp only [Decimal.natural?_eq_some_iff, ofInt?_eq_some_iff]

end IntKind

end DynamicValue
