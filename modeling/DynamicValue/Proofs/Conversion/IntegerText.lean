/-
# Integers, directly and through their texts

A registry with the built-in conversions converts an integer to a number in one step, or in two by
way of its text. Both ways end alike. To an integer kind they give the integer itself if the kind
contains it, and otherwise they fail with the text of the integer and the destination, the direct
way because the number is out of range and the other one because the text denotes no value. To a
floating-point format they give the number nearest to the integer, rounded once.
-/

import DynamicValue.Proofs.Conversion.BuiltIn
import DynamicValue.Proofs.Decimal.IntegerText

namespace DynamicValue

namespace Rule

variable {source : IntKind} (n : source.Value)

/-- An integer that a kind contains is the result of both ways. -/
theorem integer_of_contains {dest : IntKind} (hcontains : dest.Contains n.val) :
    integerToInteger source dest n = .ok ⟨n.val, hcontains⟩ ∧
      readInteger dest (Decimal.integerText n.val) = .ok ⟨n.val, hcontains⟩ := by
  have hvalue : dest.ofInt? n.val = some ⟨n.val, hcontains⟩ := dif_pos hcontains
  unfold integerToInteger readInteger
  rw [IntKind.read?_integerText_eq, hvalue]
  exact ⟨rfl, rfl⟩

/-- An integer that a kind does not contain is refused on both ways, and the refusals show the same
text. -/
theorem integer_of_not_contains {dest : IntKind} (hout : ¬ dest.Contains n.val) :
    integerToInteger source dest n = .error (.outOfRange (Decimal.integerText n.val)) ∧
      readInteger dest (Decimal.integerText n.val) =
        .error (.invalidText (Decimal.integerText n.val)) := by
  have hnone : dest.ofInt? n.val = none := dif_neg hout
  unfold integerToInteger readInteger
  rw [IntKind.read?_integerText_eq, hnone]
  exact ⟨rfl, rfl⟩

/-- Both ways round to the same number. -/
theorem readFloat_integerText (format : FloatKind) :
    readFloat format (Decimal.integerText n.val) = integerToFloat source format n := by
  unfold readFloat
  rw [Binary.read?_integerText]
  rfl

end Rule

/-- Two dynamic values in two programs, one that holds an integer and one that holds its text, are
converted alike by a registry: to the integer itself or with errors that show the same text and the
same destination, and to the number that is nearest to the integer. -/
structure Registry.ConvertsAlike (registry : Registry) (machine later : Machine)
    (direct written : Cell) (n : Int) : Prop where
  contained : ∀ (dest : IntKind) (hcontains : dest.Contains n),
    ((registry.coerce direct (.integer dest)).run machine).1 = .ok (.ok ⟨n, hcontains⟩) ∧
      ((registry.coerce written (.integer dest)).run later).1 = .ok (.ok ⟨n, hcontains⟩)
  refused : ∀ dest : IntKind, ¬ dest.Contains n → ∃ identity,
    machine.identity? (.integer dest) = some identity ∧
      later.identity? (.integer dest) = some identity ∧
      ((registry.coerce direct (.integer dest)).run machine).1 =
        .ok (.error (.outOfRange (Decimal.integerText n) identity)) ∧
      ((registry.coerce written (.integer dest)).run later).1 =
        .ok (.error (.invalidText (Decimal.integerText n) identity))
  rounded : ∀ format : FloatKind, ∃ x : Binary format, x.IsNearest (n : ℚ) ∧
    ((registry.coerce direct (.float format)).run machine).1 = .ok (.ok x) ∧
      ((registry.coerce written (.float format)).run later).1 = .ok (.ok x)

section Ways

variable {machine later : Machine} {registry : Registry} {direct written : Cell}
  {source : IntKind} {n : source.Value}

/-- A text is converted by the rule that reads the destination from texts, whichever of the two
kinds of text it is. -/
theorem Registry.coerce_text {type : ValueType} {read : String → Except Refusal type.Value}
    {text : String} {identity : TypeIdentity}
    (hfollows : registry.Follows later BuiltIn.registrations)
    (hsubset : BuiltIn.texts type read ⊆ BuiltIn.all) (hnative : type.isForeign = false)
    (hidentity : later.identity? type = some identity)
    (hcarries : written.Carries later ⟨.text, text⟩ ∨ written.Carries later ⟨.literal, text⟩) :
    ((registry.coerce written type).run later).1 =
      .ok ((read text).mapError (Refusal.conversionError identity)) := by
  rcases hcarries with htext | hliteral
  · exact coerce_of_rule hfollows (BuiltIn.readText_mem hsubset) hnative hidentity htext
  · exact coerce_of_rule hfollows (BuiltIn.readLiteral_mem hsubset) hnative hidentity hliteral

theorem Registry.Follows.convertsAlike
    (hfollows : registry.Follows machine BuiltIn.registrations)
    (hlater : registry.Follows later BuiltIn.registrations)
    (hdirect : direct.Carries machine ⟨.integer source, n⟩)
    (hwritten : written.Carries later ⟨.text, Decimal.integerText n.val⟩ ∨
      written.Carries later ⟨.literal, Decimal.integerText n.val⟩) :
    registry.ConvertsAlike machine later direct written n.val := by
  have hintegers : ∀ dest : IntKind, ∃ identity,
      machine.identity? (.integer dest) = some identity ∧
      later.identity? (.integer dest) = some identity ∧
      ((registry.coerce direct (.integer dest)).run machine).1 =
        .ok ((Rule.integerToInteger source dest n).mapError
          (Refusal.conversionError identity)) ∧
      ((registry.coerce written (.integer dest)).run later).1 =
        .ok ((Rule.readInteger dest (Decimal.integerText n.val)).mapError
          (Refusal.conversionError identity)) := by
    intro dest
    have hmem := BuiltIn.integerToInteger_mem source dest
    obtain ⟨identity, hidentity, hsame⟩ := Registry.exists_identity hfollows hlater hmem
    exact ⟨identity, hidentity, hsame,
      Registry.coerce_of_rule hfollows hmem rfl hidentity hdirect,
      Registry.coerce_text hlater (BuiltIn.texts_integer_subset dest) rfl hsame hwritten⟩
  constructor
  · intro dest hcontains
    obtain ⟨identity, -, -, hfirst, hsecond⟩ := hintegers dest
    obtain ⟨hrule, hread⟩ := Rule.integer_of_contains n hcontains
    rw [hfirst, hsecond, hrule, hread]
    exact ⟨rfl, rfl⟩
  · intro dest hout
    obtain ⟨identity, hidentity, hsame, hfirst, hsecond⟩ := hintegers dest
    obtain ⟨hrule, hread⟩ := Rule.integer_of_not_contains n hout
    refine ⟨identity, hidentity, hsame, ?_⟩
    rw [hfirst, hsecond, hrule, hread]
    exact ⟨rfl, rfl⟩
  · intro format
    have hmem := (BuiltIn.integersAndFloats_mem source format).1
    obtain ⟨identity, hidentity, hsame⟩ := Registry.exists_identity hfollows hlater hmem
    refine ⟨.ofInt format n.val, Binary.ofInt_isNearest format n, ?_, ?_⟩
    · exact Registry.coerce_of_rule hfollows hmem rfl hidentity hdirect
    · rw [Registry.coerce_text hlater (BuiltIn.texts_float_subset format) rfl hsame hwritten,
        Rule.readFloat_integerText]
      rfl

/-- A registry with the built-in conversions writes every integer as its text, and converts this
text, held as either kind of text, like the integer itself. -/
theorem integer_and_text_convert_alike
    (hreached : Registry.Reached BuiltIn.registrations machine registry)
    (hdirect : direct.Carries machine ⟨.integer source, n⟩) :
    ((registry.coerce direct .text).run machine).1 = .ok (.ok (Decimal.integerText n.val)) ∧
      ∀ (later : Machine) (written : Cell),
        Registry.Reached BuiltIn.registrations later registry →
        written.Carries later ⟨.text, Decimal.integerText n.val⟩ ∨
          written.Carries later ⟨.literal, Decimal.integerText n.val⟩ →
        registry.ConvertsAlike machine later direct written n.val := by
  have hwrite := BuiltIn.write_mem (BuiltIn.texts_integer_subset source)
  refine ⟨Registry.coerce_of_builtIn hreached.follows hwrite rfl hdirect rfl, ?_⟩
  intro later written hlater hwritten
  exact hreached.follows.convertsAlike hlater.follows hdirect hwritten

end Ways

/-- The first integer that has no number of double width of its own. -/
def firstRounded : IntKind.Value .long := ⟨2 ^ 53 + 1, by decide⟩

/-- With and without its text in between it becomes the same number of double width, and it is too
great for 32 bits. -/
theorem first_rounded_integer_and_text_convert_alike :
    ∃ machine registry direct later written,
      Registry.Reached BuiltIn.registrations machine registry ∧
      Cell.Carries direct machine ⟨.integer .long, firstRounded⟩ ∧
      ((registry.coerce direct .text).run machine).1 = .ok (.ok "9007199254740993") ∧
      Registry.Reached BuiltIn.registrations later registry ∧
      Cell.Carries written later ⟨.literal, "9007199254740993"⟩ ∧
      registry.ConvertsAlike machine later direct written (2 ^ 53 + 1) ∧
      (∃ x : Binary .double, x.IsNearest (2 ^ 53 + 1) ∧
        ((registry.coerce direct (.float .double)).run machine).1 = .ok (.ok x) ∧
        ((registry.coerce written (.float .double)).run later).1 = .ok (.ok x)) ∧
      ∃ identity,
        ((registry.coerce direct (.integer ⟨true, .bits32⟩)).run machine).1 =
          .ok (.error (.outOfRange "9007199254740993" identity)) ∧
        ((registry.coerce written (.integer ⟨true, .bits32⟩)).run later).1 =
          .ok (.error (.invalidText "9007199254740993" identity)) := by
  obtain ⟨machine, registry, direct, hreached, hdirect⟩ :=
    Registry.exists_reached_carrying ⟨.integer .long, firstRounded⟩
  have htext : Decimal.integerText firstRounded.val = "9007199254740993" := by decide +kernel
  obtain ⟨hwritten, hconverts⟩ := integer_and_text_convert_alike hreached hdirect
  rw [htext] at hwritten hconverts
  obtain ⟨later, written, hlater, hliteral⟩ :=
    hreached.exists_later hdirect ⟨.literal, "9007199254740993"⟩
  have halike := hconverts later written hlater (.inr hliteral)
  obtain ⟨x, hnearest, hrounded⟩ := halike.rounded .double
  obtain ⟨identity, -, -, hrefused⟩ := halike.refused ⟨true, .bits32⟩ (by decide)
  rw [htext] at hrefused
  have hvalue : (firstRounded.val : ℚ) = 2 ^ 53 + 1 := by norm_num [firstRounded]
  rw [hvalue] at hnearest
  exact ⟨machine, registry, direct, later, written, hreached, hdirect, hwritten, hlater, hliteral,
    halike, ⟨x, hnearest, hrounded⟩, identity, hrefused⟩

end DynamicValue
