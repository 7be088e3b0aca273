/-
# Decimal digits of natural numbers

The digits of a number, most significant first and without leading zeros, and the value of a row of
digits. Reading takes any row of ASCII digits, also one with leading zeros; the digits of a number
are read back to it.
-/

namespace DynamicValue.Decimal

/-- The character of a digit below ten. -/
def digitCharacter (d : Nat) : Char := Char.ofNat ('0'.toNat + d)

/-- The digits of a number in base ten; zero has the one digit `0`. -/
def naturalDigits (n : Nat) : List Char :=
  if n < 10 then [digitCharacter n]
  else naturalDigits (n / 10) ++ [digitCharacter (n % 10)]
termination_by n

/-- The digit that a character stands for. -/
def digitValue (c : Char) : Nat := c.toNat - '0'.toNat

/-- The value of a row of digits, the most significant first. -/
def digitsValue (cs : List Char) : Nat :=
  cs.foldl (fun value c => 10 * value + digitValue c) 0

/-- The number written by a non-empty row of ASCII digits. -/
def natural? (cs : List Char) : Option Nat :=
  if cs ≠ [] ∧ cs.all Char.isDigit then some (digitsValue cs) else none

/-- The text of a natural number. -/
def naturalText (n : Nat) : String := String.ofList (naturalDigits n)

/-- The text of an integer: its digits, after a minus sign if it is negative. -/
def integerText (n : Int) : String :=
  String.ofList (if n < 0 then '-' :: naturalDigits n.natAbs else naturalDigits n.natAbs)

/-- The text of a natural number, filled up with zeros on the left to at least two characters. -/
def twoDigitText (n : Int) : String :=
  let text := integerText n
  if text.length < 2 then "0" ++ text else text

/-- A sign in front of a number: whether it is a minus, and what follows. -/
def splitSign : List Char → Bool × List Char
  | '-' :: cs => (true, cs)
  | '+' :: cs => (false, cs)
  | cs => (false, cs)

/-- The number with a sign. -/
def withSign (negative : Bool) (n : Nat) : Int := if negative then -(n : Int) else n

theorem digitsValue_append_singleton (cs : List Char) (c : Char) :
    digitsValue (cs ++ [c]) = 10 * digitsValue cs + digitValue c := by
  simp [digitsValue]

theorem digitValue_digitCharacter {d : Nat} (hd : d < 10) :
    digitValue (digitCharacter d) = d := by
  have cases : ∀ e : Fin 10, digitValue (digitCharacter e.val) = e.val := by decide
  exact cases ⟨d, hd⟩

/-- Writing a number and reading its digits gives the number again. -/
theorem digitsValue_naturalDigits (n : Nat) : digitsValue (naturalDigits n) = n := by
  induction n using Nat.strongRecOn with
  | ind n ih =>
    unfold naturalDigits
    split
    · rename_i hsmall
      simp [digitsValue, digitValue_digitCharacter hsmall]
    · rename_i hlarge
      rw [digitsValue_append_singleton, ih (n / 10) (by omega),
        digitValue_digitCharacter (Nat.mod_lt n (by decide))]
      omega

end DynamicValue.Decimal
