/-
# The diagnostic form of a dynamic value

The diagnostic form shows the name of the type and the text of a value. The name has no blank in it
and the text is quoted, so both can be read back, whatever the text looks like. The empty value
shows neither, and its form is no other value's.
-/

import DynamicValue.Proofs.Cell.Observation
import DynamicValue.Proofs.Text.Unquoting

namespace DynamicValue

/-- No type has a blank in its name. -/
theorem ValueType.blank_not_mem_name (type : ValueType) : ' ' ∉ type.name.toList := by
  have hnames : all.all fun type => !type.name.toList.contains ' ' := by decide +kernel
  simpa using List.all_eq_true.mp hnames type type.mem_all

namespace Payload

/-- The name of the type and the text of a payload. -/
def nameAndText (payload : Payload) : String × String := (payload.type.name, payload.text)

/-- The diagnostic form of a value with this payload. -/
def debugText (payload : Payload) : String :=
  "Any(" ++ payload.type.name ++ ": " ++ Text.quoted payload.text ++ ")"

theorem debugText_congr {first second : Payload}
    (hsame : first.nameAndText = second.nameAndText) : first.debugText = second.debugText := by
  obtain ⟨hname, htext⟩ := Prod.mk.inj hsame
  unfold debugText
  rw [hname, htext]

end Payload

namespace Cell

/-- The diagnostic form of the empty value or of one with a payload. -/
def shownDebugText (payload? : Option Payload) : String :=
  payload?.elim "Any(null)" Payload.debugText

/-- The name of the type and the text in a diagnostic form, if it shows them. The name ends at the
colon in front of the first blank. -/
def readDebugText? (shown : String) : Option (String × String) :=
  match shown.toList with
  | 'A' :: 'n' :: 'y' :: '(' :: inner =>
    match inner.dropWhile (· ≠ ' ') with
    | ' ' :: '"' :: rest =>
      match Text.Reader.between.read? rest with
      | some (text, [')']) =>
        let label := inner.takeWhile (· ≠ ' ')
        if label.getLast? = some ':' then some (String.ofList label.dropLast, String.ofList text)
        else none
      | _ => none
    | _ => none
  | _ => none

/-! ## Reading back -/

/-- A name without a blank and a text are read back. -/
theorem readDebugText?_of_name {name : String} (hname : ' ' ∉ name.toList) (text : String) :
    readDebugText? ("Any(" ++ name ++ ": " ++ Text.quoted text ++ ")") = some (name, text) := by
  have hlabel : ∀ c ∈ name.toList ++ [':'], decide (c ≠ ' ') = true := by
    intro c hmem
    obtain hc | hc := List.mem_append.mp hmem
    · exact decide_eq_true fun hblank => hname (hblank ▸ hc)
    · exact List.mem_singleton.mp hc ▸ rfl
  have hshown : ("Any(" ++ name ++ ": " ++ Text.quoted text ++ ")").toList =
      'A' :: 'n' :: 'y' :: '(' :: ((name.toList ++ [':']) ++
        ' ' :: '"' :: (Text.quotedBody text ++ '"' :: [')'])) := by
    simp [(Text.quotesReadably text).form]
  unfold readDebugText?
  rw [hshown]
  simp only [List.dropWhile_append_of_pos hlabel, List.takeWhile_append_of_pos hlabel]
  simp [(Text.quotesReadably text).read]

/-- The form of the empty value has neither a name nor a text in it. -/
theorem readDebugText?_shownDebugText (payload? : Option Payload) :
    readDebugText? (shownDebugText payload?) = payload?.map Payload.nameAndText := by
  cases payload? with
  | none => decide +kernel
  | some payload =>
      exact readDebugText?_of_name payload.type.blank_not_mem_name payload.text

/-- Values show the same diagnostic form only if they show the same name and the same text, and the
empty value shows another one than all others. -/
theorem shownDebugText_eq_iff (first? second? : Option Payload) :
    shownDebugText first? = shownDebugText second? ↔
      first?.map Payload.nameAndText = second?.map Payload.nameAndText := by
  constructor
  · intro hsame
    rw [← readDebugText?_shownDebugText, ← readDebugText?_shownDebugText, hsame]
  · intro hsame
    cases first? with
    | none => rw [Option.map_eq_none_iff.mp hsame.symm]
    | some first =>
        obtain ⟨second, rfl, hsecond⟩ := Option.map_eq_some_iff.mp hsame.symm
        exact (Payload.debugText_congr hsecond).symm

variable {machine : Machine} {holdings : List Holding} {cell : Cell} {holding? : Option Holding}

/-- A value shows the diagnostic form of what it holds. -/
theorem debugText_run (hcoherent : machine.Coherent) (haccounts : machine.Accounts holdings)
    (hholds : cell.Holds machine holding?) (hsub : ∀ holding ∈ holding?, holding ∈ holdings) :
    cell.debugText.run machine =
      (.ok (shownDebugText (holding?.map Holding.payload)), machine) := by
  have hname := hholds.typeName_eq hcoherent
  unfold debugText
  cases holding? with
  | none =>
      rw [hholds.eq_empty]
      rfl
  | some holding =>
      obtain ⟨table, htable, -, -⟩ := hholds.exists_table
      have hidentity : table.identity.name = holding.payload.type.name := by
        unfold typeName identity at hname
        rwa [htable] at hname
      rw [htable]
      simp only []
      rw [Action.run_bind_ok _ (text_run haccounts hholds hsub), hidentity]
      simp [Text.variant, Text.commaSeparated, shownDebugText, Payload.debugText,
        String.append_assoc]

end Cell

end DynamicValue
