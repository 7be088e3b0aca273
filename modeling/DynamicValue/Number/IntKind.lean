/-
# Integer kinds

A dynamic value can hold an integer of ten kinds: signed or unsigned, each in four fixed widths and
in the width of a machine word. Values are kept as mathematical integers together with the proof
that they lie in the range of their kind, so arithmetic never wraps and a narrowing is a range test.
-/

namespace DynamicValue

/-- The widths that an integer kind may have. A machine word has 64 bits. -/
inductive IntWidth
  | bits8
  | bits16
  | bits32
  | bits64
  | machineWord
  deriving DecidableEq, Repr

namespace IntWidth

/-- The number of bits of a width. -/
def bits : IntWidth → Nat
  | bits8 => 8
  | bits16 => 16
  | bits32 => 32
  | bits64 => 64
  | machineWord => 64

/-- The number of patterns of the width's bits. -/
def patterns (width : IntWidth) : Nat := Nat.pow 2 width.bits

/-- The number of patterns whose highest bit is clear. -/
def halfPatterns (width : IntWidth) : Nat := Nat.pow 2 (width.bits - 1)

/-- How the width is written at the end of the name of an integer kind. -/
def suffix : IntWidth → String
  | bits8 => "8"
  | bits16 => "16"
  | bits32 => "32"
  | bits64 => "64"
  | machineWord => "size"

/-- The widths, in the order in which kinds are listed. -/
def all : List IntWidth := [bits8, bits16, bits32, bits64, machineWord]

end IntWidth

/-- One of the ten integer kinds. -/
structure IntKind where
  signed : Bool
  width : IntWidth
  deriving DecidableEq, Repr

namespace IntKind

/-- The kind's name: a letter for its sign, followed by its width. -/
def name (kind : IntKind) : String :=
  (if kind.signed then "i" else "u") ++ kind.width.suffix

/-- The least value of the kind. -/
def least (kind : IntKind) : Int :=
  if kind.signed then -kind.width.halfPatterns else 0

/-- The greatest value of the kind. -/
def greatest (kind : IntKind) : Int :=
  if kind.signed then kind.width.halfPatterns - 1 else kind.width.patterns - 1

/-- The mathematical integers that a value of the kind can have. -/
def Contains (kind : IntKind) (n : Int) : Prop :=
  kind.least ≤ n ∧ n ≤ kind.greatest

instance (kind : IntKind) (n : Int) : Decidable (kind.Contains n) :=
  inferInstanceAs (Decidable (_ ∧ _))

/-- A value of an integer kind. -/
def Value (kind : IntKind) : Type := { n : Int // kind.Contains n }

/-- The value of the kind that equals `n`, if there is one. -/
def ofInt? (kind : IntKind) (n : Int) : Option kind.Value :=
  if h : kind.Contains n then some ⟨n, h⟩ else none

/-- Signed kinds first, each sign from the narrowest width to the machine word. -/
def all : List IntKind :=
  IntWidth.all.map (⟨true, ·⟩) ++ IntWidth.all.map (⟨false, ·⟩)

/-- The kind that integer texts for a host and integer arguments are read in. -/
def long : IntKind := ⟨true, .bits64⟩

theorem ofInt?_eq_some_iff {kind : IntKind} {n : Int} {v : kind.Value} :
    kind.ofInt? n = some v ↔ v.val = n := by
  unfold ofInt?
  split
  · constructor
    · intro h
      cases h
      rfl
    · intro h
      subst h
      rfl
  · rename_i hout
    constructor
    · intro h
      cases h
    · intro h
      subst h
      exact absurd v.property hout

/-- Values of a kind are equal if they are the same integer. -/
theorem val_inj {kind : IntKind} {v w : kind.Value} : v.val = w.val ↔ v = w :=
  Subtype.ext_iff.symm

/-- An unsigned kind contains the natural numbers that its bits can write. -/
theorem contains_of_lt {width : IntWidth} {n : Nat} (h : n < width.patterns) :
    Contains ⟨false, width⟩ n := by
  constructor
  · exact Int.natCast_nonneg n
  · change (n : Int) ≤ (width.patterns : Int) - 1
    omega

/-- The low bits of a natural number, as many as an unsigned kind has. -/
def lowBits (width : IntWidth) (n : Nat) : Value ⟨false, width⟩ :=
  ⟨(n % width.patterns : Nat), contains_of_lt (Nat.mod_lt n (Nat.two_pow_pos _))⟩

/-- Zero belongs to every kind. -/
theorem contains_zero (kind : IntKind) : kind.Contains 0 := by
  obtain ⟨signed, width⟩ := kind
  cases signed <;> cases width <;> decide

/-- Zero as a value of the kind. -/
def zero (kind : IntKind) : kind.Value := ⟨0, kind.contains_zero⟩

/-- One belongs to every kind. -/
theorem contains_one (kind : IntKind) : kind.Contains 1 := by
  obtain ⟨signed, width⟩ := kind
  cases signed <;> cases width <;> decide

/-- A truth value as a number of the kind: one for true, zero for false. -/
def ofBool (kind : IntKind) (b : Bool) : kind.Value :=
  if b then ⟨1, kind.contains_one⟩ else ⟨0, kind.contains_zero⟩

end IntKind

end DynamicValue
