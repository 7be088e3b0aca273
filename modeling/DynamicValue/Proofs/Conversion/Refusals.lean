/-
# Failures of conversions

When a built-in conversion fails, its error tells what failed. It names the type that was asked for,
and it shows the value: a text as it was, and a number by a text that a registry with the built-in
conversions reads back to this number. A number of single width is shown at double width, and is
read back nevertheless. No other values are refused.
-/

import DynamicValue.Proofs.Conversion.Exactness
import DynamicValue.Proofs.Conversion.TextRoundTrip
import DynamicValue.Proofs.Decimal.WidenedText

namespace DynamicValue

/-! ## What refusals show -/

namespace ValueType

/-- The two types of texts. -/
def isText : ValueType → Bool
  | text | literal => true
  | _ => false

/-- The text that shows a number in an error: floating-point numbers are shown at double width. -/
def shownText : (type : ValueType) → type.Value → String
  | float _, x => x.widen.text
  | type, x => type.textOf x

end ValueType

/-- The refusals that tell faithfully which value was refused: a number that the destination does
not hold, at all or exactly, or a text that it does not read. -/
inductive Refusal.Tells (source : ValueType) (value : source.Value) : Refusal → Prop
  | outOfRange (hnumeric : source.isNumeric) :
      Refusal.Tells source value (.outOfRange (source.shownText value))
  | inexact (hnumeric : source.isNumeric) :
      Refusal.Tells source value (.inexact (source.shownText value))
  | invalidText (htext : source.isText) :
      Refusal.Tells source value (.invalidText (source.textOf value))

/-- A number of double width is shown by its own text. -/
theorem Binary.text_widen_double (x : Binary .double) : x.widen.text = x.text := by
  by_cases hnan : x.isNaN
  · have hwidened : x.widen = notANumber .double := if_pos hnan
    have htext : x.text = "NaN" := if_pos hnan
    rw [hwidened, htext]
    rfl
  · rw [widen_double (Bool.eq_false_iff.mpr hnan)]

theorem Refusal.eq_of_unlessSome_eq_error {α : Type} {refusal other : Refusal}
    {result? : Option α} (hrefuses : refusal.unlessSome result? = .error other) :
    other = refusal := by
  cases result? with
  | some value => cases hrefuses
  | none =>
      cases hrefuses
      rfl

/-! ## Rules -/

namespace Rule

variable {source dest : ValueType} {text : String} {refusal : Refusal}

/-- A rule is faithful if each of its refusals tells which value was refused. -/
def IsFaithful (rule : Rule source dest) : Prop :=
  ∀ value refusal, rule value = .error refusal → refusal.Tells source value

theorem isFaithful_of_total {rule : Rule source dest}
    (htotal : ∀ value, ∃ result, rule value = .ok result) : rule.IsFaithful := by
  intro value refusal hrefuses
  obtain ⟨result, haccepts⟩ := htotal value
  rw [haccepts] at hrefuses
  cases hrefuses

theorem integerToInteger_isFaithful (source dest : IntKind) :
    (integerToInteger source dest).IsFaithful := by
  intro n refusal hrefuses
  rw [Refusal.eq_of_unlessSome_eq_error hrefuses]
  exact .outOfRange rfl

/-- A number is refused as an integer with its own text, for one of two causes. -/
theorem doubleToInteger_refusal {dest : IntKind} {x : Binary .double}
    (hrefuses : doubleToInteger dest x = .error refusal) :
    refusal = .outOfRange x.text ∨ refusal = .inexact x.text := by
  unfold doubleToInteger at hrefuses
  split at hrefuses
  · split at hrefuses
    · split at hrefuses
      · cases hrefuses
        exact .inl rfl
      · exact .inl (Refusal.eq_of_unlessSome_eq_error hrefuses)
    · cases hrefuses
      exact .inr rfl
  · cases hrefuses
    exact .inl rfl

theorem floatToInteger_isFaithful (source : FloatKind) (dest : IntKind) :
    (floatToInteger source dest).IsFaithful := by
  intro x refusal hrefuses
  rcases doubleToInteger_refusal hrefuses with rfl | rfl
  · exact .outOfRange rfl
  · exact .inexact rfl

theorem narrow_isFaithful : narrow.IsFaithful := by
  intro x refusal hrefuses
  simp only [narrow] at hrefuses
  split at hrefuses
  · cases hrefuses
    exact Binary.text_widen_double x ▸ .outOfRange rfl
  · cases hrefuses

theorem codeToCharacter_isFaithful : codeToCharacter.IsFaithful := by
  intro n refusal hrefuses
  unfold codeToCharacter at hrefuses
  split at hrefuses
  · cases hrefuses
  · cases hrefuses
    exact .outOfRange rfl

theorem readBoolean_refusal (hrefuses : readBoolean text = .error refusal) :
    refusal = .invalidText text := by
  unfold readBoolean at hrefuses
  split at hrefuses
  · cases hrefuses
  · split at hrefuses
    · cases hrefuses
    · cases hrefuses
      rfl

theorem readCharacter_refusal (hrefuses : readCharacter text = .error refusal) :
    refusal = .invalidText text := by
  unfold readCharacter at hrefuses
  split at hrefuses
  · cases hrefuses
  · cases hrefuses
    rfl

end Rule

namespace BuiltIn

variable {type : ValueType}

/-- Writing refuses nothing, and if reading refuses a text as it is, so do both rules for it. -/
theorem texts_isFaithful {read : String → Except Refusal type.Value}
    (hread : ∀ text refusal, read text = .error refusal → refusal = .invalidText text) :
    ∀ builtIn ∈ texts type read, builtIn.rule.IsFaithful := by
  have hrefusal : ∀ text refusal, read text = .error refusal →
      refusal.Tells .text text ∧ refusal.Tells .literal text := by
    intro text refusal hrefuses
    rw [hread text refusal hrefuses]
    exact ⟨.invalidText rfl, .invalidText rfl⟩
  unfold texts
  simp only [List.forall_mem_cons, List.not_mem_nil, IsEmpty.forall_iff, implies_true, and_true]
  refine ⟨Rule.isFaithful_of_total fun value => ⟨_, rfl⟩, ?_, ?_⟩
  · exact fun text refusal hrefuses => (hrefusal text refusal hrefuses).1
  · exact fun text refusal hrefuses => (hrefusal text refusal hrefuses).2

/-- Every built-in rule is faithful. -/
theorem all_isFaithful : ∀ builtIn ∈ all, builtIn.rule.IsFaithful := by
  unfold all integers integersAndFloats numbersAndBooleans numbersAndTexts
  simp only [List.forall_mem_append, List.forall_mem_flatMap, List.forall_mem_map,
    List.forall_mem_cons, List.not_mem_nil, IsEmpty.forall_iff, implies_true, and_true, and_assoc]
  refine ⟨?integers, ?integersAndFloats, ?integersAndBooleans, ?floatsAndBooleans,
    ?integersAndTexts, ?floatsAndTexts, ?widen, Rule.narrow_isFaithful, ?booleansAndTexts,
    ?charactersAndTexts, ?characterToCode, Rule.codeToCharacter_isFaithful, ?write⟩
  case integers => exact fun dest _ source _ => Rule.integerToInteger_isFaithful source dest
  case integersAndFloats =>
    intro kind _
    exact ⟨Rule.isFaithful_of_total fun _ => ⟨_, rfl⟩, Rule.isFaithful_of_total fun _ => ⟨_, rfl⟩,
      Rule.floatToInteger_isFaithful _ _, Rule.floatToInteger_isFaithful _ _⟩
  case integersAndTexts =>
    intro kind _
    exact texts_isFaithful fun _ _ => Refusal.eq_of_unlessSome_eq_error
  case floatsAndTexts =>
    intro kind _
    exact texts_isFaithful fun _ _ => Refusal.eq_of_unlessSome_eq_error
  case booleansAndTexts => exact texts_isFaithful fun _ _ => Rule.readBoolean_refusal
  case charactersAndTexts => exact texts_isFaithful fun _ _ => Rule.readCharacter_refusal
  case integersAndBooleans | floatsAndBooleans =>
    intro kind _
    exact ⟨Rule.isFaithful_of_total fun _ => ⟨_, rfl⟩, Rule.isFaithful_of_total fun _ => ⟨_, rfl⟩⟩
  case widen | characterToCode | write => exact Rule.isFaithful_of_total fun _ => ⟨_, rfl⟩

/-- A number that an error shows is read back by a built-in rule. -/
theorem exists_texts_shownText {type : ValueType} (hnumeric : type.isNumeric) (x : type.Value) :
    ∃ read : String → Except Refusal type.Value, texts type read ⊆ all ∧
      ∃ y, read (type.shownText x) = .ok y ∧ type.Agree x y := by
  cases type with
  | integer kind =>
      exact ⟨Rule.readInteger kind, texts_integer_subset kind, x,
        Rule.readInteger_textOf kind x, rfl⟩
  | float kind =>
      refine ⟨Rule.readFloat kind, texts_float_subset kind, ?_⟩
      cases kind with
      | double =>
          show ∃ y, Rule.readFloat .double x.widen.text = .ok y ∧ _
          rw [Binary.text_widen_double]
          exact Rule.readFloat_textOf .double x
      | single =>
          by_cases hnan : x.isNaN
          · refine ⟨.notANumber .single, ?_, .inr ⟨hnan, Binary.notANumber_isNaN .single⟩⟩
            exact Refusal.unlessSome_eq_ok_iff.mpr (Binary.read?_text_widen_of_isNaN hnan)
          · refine ⟨x, ?_, .inl rfl⟩
            exact Refusal.unlessSome_eq_ok_iff.mpr
              (Binary.read?_text_widen (Bool.eq_false_iff.mpr hnan))
  | _ => cases hnumeric

/-- Built-in rules lead to native types only. -/
theorem dest_native : ∀ builtIn ∈ all, builtIn.dest.isForeign = false := by
  have hdests : ∀ dest ∈ all.map BuiltIn.dest, dest.isForeign = false := by
    decide +kernel
  exact fun builtIn hmem => hdests _ (List.mem_map_of_mem hmem)

end BuiltIn

/-! ## Failures of a registry -/

/-- How the conversion of a value to a type fails, if it does: its error is that of a refusal which
tells the value, for the destination; and what errors show of a number is read back to it by every
registry with the built-in conversions. -/
structure Registry.FailsFaithfully (registry : Registry) (machine : Machine) (cell : Cell)
    (source dest : ValueType) (value : source.Value) : Prop where
  tells : ∃ identity result, machine.identity? dest = some identity ∧
    ((registry.coerce cell dest).run machine).1 = .ok result ∧
    ∀ error, result = .error error → ∃ refusal : Refusal,
      error = refusal.conversionError identity ∧ refusal.Tells source value
  readsBack : source.isNumeric → ∀ (later : Machine) (other : Registry) (back : Cell),
    Registry.Reached BuiltIn.registrations later other →
    back.Carries later ⟨.text, source.shownText value⟩ →
    ∃ y, ((other.coerce back source).run later).1 = .ok (.ok y) ∧ source.Agree value y

/-- Every built-in conversion of a registry fails faithfully. -/
theorem failures_tell_the_value {machine : Machine} {registry : Registry} {cell : Cell}
    {source dest : ValueType} {rule : Rule source dest} {value : source.Value}
    (hreached : Registry.Reached BuiltIn.registrations machine registry)
    (hmem : ⟨source, dest, rule⟩ ∈ BuiltIn.all) (hcarries : cell.Carries machine ⟨source, value⟩) :
    registry.FailsFaithfully machine cell source dest value := by
  obtain ⟨identity, hidentity, -⟩ :=
    Registry.exists_identity hreached.follows hreached.follows hmem
  have hrun := Registry.coerce_of_rule hreached.follows hmem (BuiltIn.dest_native _ hmem) hidentity
    hcarries
  refine ⟨⟨identity, _, hidentity, hrun, ?_⟩, ?_⟩
  · intro error hfails
    cases hresult : rule value with
    | ok result =>
        rw [hresult] at hfails
        cases hfails
    | error refusal =>
        rw [hresult] at hfails
        cases hfails
        exact ⟨refusal, rfl, BuiltIn.all_isFaithful _ hmem value refusal hresult⟩
  · intro hnumeric later other back hlater hback
    obtain ⟨read, hsubset, y, haccepts, hagree⟩ := BuiltIn.exists_texts_shownText hnumeric value
    have hnative : source.isForeign = false := by
      cases source <;> first | rfl | cases hnumeric
    exact ⟨y, Registry.coerce_of_builtIn hlater.follows (BuiltIn.readText_mem hsubset) hnative hback
      haccepts, hagree⟩

/-- The number of single width that is nearest to one tenth. -/
def nearlyTenth : Binary .single := .ofBits .single 0x3dcccccd

/-- The error shows more digits than the number has at its own width. -/
theorem failure_tells_nearly_tenth :
    ∃ machine registry cell identity, Registry.Reached BuiltIn.registrations machine registry ∧
      Cell.Carries cell machine ⟨.float .single, nearlyTenth⟩ ∧
      ((registry.coerce cell (.integer .long)).run machine).1 =
        .ok (.error (.inexact "0.10000000149011612" identity)) ∧
      ∃ later other back, Registry.Reached BuiltIn.registrations later other ∧
        Cell.Carries back later ⟨.text, "0.10000000149011612"⟩ ∧
        ((other.coerce back (.float .single)).run later).1 = .ok (.ok nearlyTenth) := by
  obtain ⟨machine, registry, cell, hreached, hcarries⟩ :=
    Registry.exists_reached_carrying ⟨.float .single, nearlyTenth⟩
  have hmem := (BuiltIn.integersAndFloats_mem .long .single).2
  obtain ⟨⟨identity, _, hidentity, -⟩, hback⟩ := failures_tell_the_value hreached hmem hcarries
  have htext : (ValueType.float .single).shownText nearlyTenth = "0.10000000149011612" := by
    decide +kernel
  have hrefuses : Rule.floatToInteger .single .long nearlyTenth =
      .error (.inexact "0.10000000149011612") := by
    rw [← htext, Rule.floatToInteger, Rule.doubleToInteger, if_pos (by decide +kernel),
      if_neg (by decide +kernel)]
    rfl
  rw [htext] at hback
  refine ⟨machine, registry, cell, identity, hreached, hcarries, ?_, ?_⟩
  · rw [Registry.coerce_of_rule hreached.follows hmem rfl hidentity hcarries, hrefuses]
    rfl
  · obtain ⟨later, other, back, hlater, hcarried⟩ :=
      Registry.exists_reached_carrying ⟨.text, "0.10000000149011612"⟩
    obtain ⟨y, hread, hagree⟩ := hback rfl later other back hlater hcarried
    refine ⟨later, other, back, hlater, hcarried, ?_⟩
    rw [hread]
    rcases hagree with rfl | ⟨hnan, -⟩
    · rfl
    · exact absurd hnan (by decide)

end DynamicValue
