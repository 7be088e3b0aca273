/-
# Scalars and their texts

Every number, truth value and character survives the way through its text: a registry with the
built-in conversions writes it, and reads the text back to the same value, whether the text is held
as a string or as a literal. A floating-point number comes back with the same bit pattern, the sign
of zero included; what is not a number comes back as something that is not a number.
-/

import DynamicValue.Proofs.Conversion.BuiltIn
import DynamicValue.Proofs.Decimal.Reading

namespace DynamicValue

/-! ## Scalar types -/

namespace ValueType

/-- The numbers, truth values and characters. -/
def isScalar : ValueType → Bool
  | integer _ | float _ | boolean | character => true
  | _ => false

/-- Whether two values are the same, where all that is not a number counts as the same. -/
def Agree : (type : ValueType) → type.Value → type.Value → Prop
  | float _, x, y => x = y ∨ x.isNaN ∧ y.isNaN
  | _, x, y => x = y

theorem native_of_isScalar {type : ValueType} (hscalar : type.isScalar) :
    type.isForeign = false := by
  cases type <;> first | rfl | cases hscalar

end ValueType

namespace Rule

theorem readInteger_textOf (kind : IntKind) (n : kind.Value) :
    readInteger kind ((ValueType.integer kind).textOf n) = .ok n := by
  show (Refusal.invalidText _).unlessSome (kind.read? (Decimal.integerText n.val)) = _
  rw [IntKind.read?_integerText]
  rfl

theorem readFloat_textOf (kind : FloatKind) (x : Binary kind) :
    ∃ y, readFloat kind ((ValueType.float kind).textOf x) = .ok y ∧
      (ValueType.float kind).Agree x y := by
  by_cases hnan : x.isNaN
  · refine ⟨.notANumber kind, ?_, Or.inr ⟨hnan, Binary.notANumber_isNaN kind⟩⟩
    show (Refusal.invalidText _).unlessSome (Binary.read? kind x.text) = _
    rw [Binary.read?_text_of_isNaN hnan]
    rfl
  · refine ⟨x, ?_, Or.inl rfl⟩
    show (Refusal.invalidText _).unlessSome (Binary.read? kind x.text) = _
    rw [Binary.read?_text (Bool.eq_false_iff.mpr hnan)]
    rfl

theorem readBoolean_textOf (b : Bool) : readBoolean (ValueType.boolean.textOf b) = .ok b := by
  cases b <;> rfl

theorem readCharacter_textOf (c : Char) : readCharacter (ValueType.character.textOf c) = .ok c := by
  show readCharacter (String.singleton c) = _
  unfold readCharacter
  rw [String.toList_singleton]

end Rule

/-- Each scalar type has built-in rules that write its values and read them back. -/
theorem BuiltIn.exists_texts {type : ValueType} (hscalar : type.isScalar) :
    ∃ read : String → Except Refusal type.Value, texts type read ⊆ all ∧
      ∀ x, ∃ y, read (type.textOf x) = .ok y ∧ type.Agree x y := by
  cases type with
  | integer kind =>
      exact ⟨Rule.readInteger kind, texts_integer_subset kind,
        fun n => ⟨n, Rule.readInteger_textOf kind n, rfl⟩⟩
  | float kind =>
      exact ⟨Rule.readFloat kind, texts_float_subset kind, Rule.readFloat_textOf kind⟩
  | boolean =>
      refine ⟨Rule.readBoolean, ?_, fun b => ⟨b, Rule.readBoolean_textOf b, rfl⟩⟩
      intro builtIn hmem
      unfold all
      simp only [List.mem_append, hmem, true_or, or_true]
  | character =>
      refine ⟨Rule.readCharacter, ?_, fun c => ⟨c, Rule.readCharacter_textOf c, rfl⟩⟩
      intro builtIn hmem
      unfold all
      simp only [List.mem_append, hmem, true_or, or_true]
  | _ => cases hscalar

/-! ## The round trip -/

/-- A registry with the built-in conversions writes every scalar, and reads the text of a scalar
back to this scalar, from both kinds of text. -/
theorem scalar_text_round_trip {machine : Machine} {registry : Registry} {cell : Cell}
    {type : ValueType} (hreached : Registry.Reached BuiltIn.registrations machine registry)
    (hscalar : type.isScalar) (x : type.Value) (hcarries : cell.Carries machine ⟨type, x⟩) :
    ((registry.coerce cell .text).run machine).1 = .ok (.ok (type.textOf x)) ∧
      ∀ (later : Machine) (back : Cell), Registry.Reached BuiltIn.registrations later registry →
        back.Carries later ⟨.text, type.textOf x⟩ ∨ back.Carries later ⟨.literal, type.textOf x⟩ →
        ∃ y, ((registry.coerce back type).run later).1 = .ok (.ok y) ∧ type.Agree x y := by
  obtain ⟨read, hsubset, hreads⟩ := BuiltIn.exists_texts hscalar
  have hwrite : (⟨type, .text, .write type⟩ : BuiltIn) ∈ BuiltIn.all :=
    hsubset List.mem_cons_self
  have hread : (⟨.text, type, read⟩ : BuiltIn) ∈ BuiltIn.all :=
    hsubset (List.mem_cons_of_mem _ List.mem_cons_self)
  have hread' : (⟨.literal, type, read⟩ : BuiltIn) ∈ BuiltIn.all :=
    hsubset (List.mem_cons_of_mem _ (List.mem_cons_of_mem _ List.mem_cons_self))
  constructor
  · exact Registry.coerce_of_builtIn hreached.follows hwrite rfl hcarries rfl
  · intro later back hlater htext
    obtain ⟨y, haccepts, hagree⟩ := hreads x
    refine ⟨y, ?_, hagree⟩
    rcases htext with htext | hliteral
    · exact Registry.coerce_of_builtIn hlater.follows hread
        (ValueType.native_of_isScalar hscalar) htext haccepts
    · exact Registry.coerce_of_builtIn hlater.follows hread'
        (ValueType.native_of_isScalar hscalar) hliteral haccepts

/-- The zero of double width that has a minus sign. -/
def negativeZero : Binary .double := .ofOrdinal .double true 0

/-- Its text keeps the sign, in both kinds of text. -/
theorem negative_zero_text_round_trip :
    ∃ machine registry cell, Registry.Reached BuiltIn.registrations machine registry ∧
      Cell.Carries cell machine ⟨.float .double, negativeZero⟩ ∧
      ((registry.coerce cell .text).run machine).1 = .ok (.ok "-0") ∧
      (∃ later back, Registry.Reached BuiltIn.registrations later registry ∧
        Cell.Carries back later ⟨.text, "-0"⟩ ∧
        ((registry.coerce back (.float .double)).run later).1 = .ok (.ok negativeZero)) ∧
      ∃ later back, Registry.Reached BuiltIn.registrations later registry ∧
        Cell.Carries back later ⟨.literal, "-0"⟩ ∧
        ((registry.coerce back (.float .double)).run later).1 = .ok (.ok negativeZero) := by
  obtain ⟨machine, registry, cell, hreached, hcarries⟩ :=
    Registry.exists_reached_carrying ⟨.float .double, negativeZero⟩
  have htext : (ValueType.float .double).textOf negativeZero = "-0" := by decide
  obtain ⟨hwritten, hread⟩ :=
    @scalar_text_round_trip _ _ _ (.float .double) hreached rfl negativeZero hcarries
  rw [htext] at hwritten hread
  have hback : ∀ later back, Registry.Reached BuiltIn.registrations later registry →
      Cell.Carries back later ⟨.text, "-0"⟩ ∨ Cell.Carries back later ⟨.literal, "-0"⟩ →
      ((registry.coerce back (.float .double)).run later).1 = .ok (.ok negativeZero) := by
    intro later back hlater hback
    obtain ⟨y, hcoerced, hagree⟩ := hread later back hlater hback
    rw [hcoerced]
    rcases hagree with rfl | ⟨hnan, -⟩
    · rfl
    · exact absurd hnan (by decide)
  obtain ⟨later, back, hlater, htextual⟩ := hreached.exists_later hcarries ⟨.text, "-0"⟩
  obtain ⟨later', back', hlater', hliteral⟩ := hreached.exists_later hcarries ⟨.literal, "-0"⟩
  exact ⟨machine, registry, cell, hreached, hcarries, hwritten,
    ⟨later, back, hlater, htextual, hback later back hlater (.inl htextual)⟩,
    later', back', hlater', hliteral, hback later' back' hlater' (.inr hliteral)⟩

end DynamicValue
