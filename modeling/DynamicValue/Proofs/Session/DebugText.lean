/-
# The diagnostic forms of variables

In a session that has been reached by its commands, every variable shows the diagnostic form of what
it holds, alone or among everything that can be seen of it. So the form tells the name of the type
and the text of a variable, and two variables that show the same form show the same of both.
-/

import DynamicValue.Proofs.Exchange.Step

namespace DynamicValue.Session

variable {session : Session} {name : String} {cell : Cell}

/-- What a variable shows of its payload, or of the empty value. -/
structure ShowsPayload (session : Session) (name : String) (cell : Cell)
    (payload? : Option Payload) : Prop where
  isEmpty : cell.isEmpty = payload?.isNone
  typeName : cell.typeName = Cell.shownName (payload?.map Payload.type)
  text : cell.text.run session.machine = (.ok (payload?.elim "" Payload.text), session.machine)
  debugText : cell.debugText.run session.machine =
    (.ok (Cell.shownDebugText payload?), session.machine)
  inspection : ∃ seen, (step (.inspect name)).run session = (.ok (.inspection seen), session) ∧
    seen.payload? = payload? ∧ seen.text = payload?.elim "" Payload.text ∧
    seen.typeName = Cell.shownName (payload?.map Payload.type) ∧
    seen.debugText = Cell.shownDebugText payload?

theorem AtRest.showsPayload (hrest : session.AtRest) (hget : session.cells.get? name = some cell) :
    ∃ payload?, session.ShowsPayload name cell payload? := by
  obtain ⟨holdings, howns⟩ := hrest.owns
  obtain ⟨holding?, hheld, hholds⟩ := howns.exists_holding hget
  have hsub : ∀ holding ∈ holding?, holding ∈ [] ++ holdings.values.reduceOption :=
    Owns.mem_accounts hheld
  obtain ⟨seen, hseen, hpayload, hdebug⟩ :=
    Cell.inspect_run howns.coherent howns.accounts hholds hsub
  refine ⟨holding?.map Holding.payload, hholds.isEmpty_eq.trans Option.isNone_map.symm, ?_, ?_,
    Cell.debugText_run howns.coherent howns.accounts hholds hsub, seen, ?_,
    congrArg Inspection.payload? hpayload, congrArg Inspection.text hpayload,
    congrArg Inspection.typeName hpayload, hdebug⟩
  · rw [hholds.typeName_eq howns.coherent, Option.map_map]
    rfl
  · rw [Cell.text_run howns.accounts hholds hsub]
    cases holding? <;> rfl
  · exact (Action.run_bind_ok _ (run_valueOf_some hget)).trans
      (Action.run_bind_ok _ (run_onMachine_ok hseen))

/-- Diagnostic forms are unambiguous. Every text, whatever its characters are, is quoted in a way
that can be undone. The name of the type and the text can be read out of the form of a value, so two
values have the same form only if they have the same name and the same text, and none has that of
the empty value. And in every session that has been reached by its commands, each variable shows the
form of what it holds. -/
theorem debug_texts_are_unambiguous (isFresh : Bool) (commands : List (Except Complaint Command))
    (hcommands : ∀ command, .ok command ∈ commands → command.BindsSessionFunctions) :
    (∀ text, Text.QuotesReadably text) ∧
      (∀ payload : Payload,
        Cell.readDebugText? payload.debugText = some (payload.type.name, payload.text) ∧
          payload.debugText ≠ "Any(null)") ∧
      (∀ first second : Payload, first.debugText = second.debugText ↔
        first.type.name = second.type.name ∧ first.text = second.text) ∧
      ∀ name cell, (afterSteps isFresh commands).cells.get? name = some cell →
        ∃ payload?, (afterSteps isFresh commands).ShowsPayload name cell payload? := by
  refine ⟨Text.quotesReadably, fun payload => ⟨?_, fun hnull => ?_⟩, fun first second => ?_,
    fun name cell hget => (afterSteps_atRest isFresh hcommands).showsPayload hget⟩
  · exact Cell.readDebugText?_shownDebugText (some payload)
  · cases (Cell.shownDebugText_eq_iff (some payload) none).mp hnull
  · have hiff : first.debugText = second.debugText ↔
        some first.nameAndText = some second.nameAndText :=
      Cell.shownDebugText_eq_iff (some first) (some second)
    rw [hiff, Option.some_inj]
    exact Prod.ext_iff

/-- A text with a quote and a parenthesis, what looks like an escape, a line break and a combining
character. -/
def quotingSession : List (Except Complaint Command) :=
  [.ok (.new "note" (.ok (some ⟨.text, "\")\\u\x7b301\x7d\ne\u0301"⟩)))]

theorem quoted_note_is_read_back :
    ∃ cell shown, (afterSteps true quotingSession).cells.get? "note" = some cell ∧
      cell.debugText.run (afterSteps true quotingSession).machine =
        (.ok shown, (afterSteps true quotingSession).machine) ∧
      Cell.readDebugText? shown =
        some ("alloc::string::String", "\")\\u\x7b301\x7d\ne\u0301") := by
  have hcommands : ∀ command, .ok command ∈ quotingSession → command.BindsSessionFunctions := by
    simp only [quotingSession, List.mem_cons, Except.ok.injEq, List.not_mem_nil, or_false]
    rintro command rfl
    trivial
  obtain ⟨-, hread, -, hshows⟩ := debug_texts_are_unambiguous true quotingSession hcommands
  have hnote : ((afterSteps true quotingSession).cells.get? "note").map (fun cell =>
      (cell.isEmpty, cell.typeName,
        (cell.text.run (afterSteps true quotingSession).machine).1.toOption)) =
      some (false, "alloc::string::String", some "\")\\u\x7b301\x7d\ne\u0301") := by
    decide +kernel
  obtain ⟨cell, hget, hcell⟩ := Option.map_eq_some_iff.mp hnote
  obtain ⟨hempty, hname, htext⟩ := (Prod.mk.inj hcell).imp id Prod.mk.inj
  obtain ⟨payload?, hpayload⟩ := hshows "note" cell hget
  cases payload? with
  | none => cases hempty.symm.trans hpayload.isEmpty
  | some payload =>
      have hname : payload.type.name = "alloc::string::String" := hpayload.typeName.symm.trans hname
      rw [hpayload.text] at htext
      refine ⟨cell, payload.debugText, hget, hpayload.debugText, ?_⟩
      rw [(hread payload).1, hname]
      exact congrArg (fun text => some ("alloc::string::String", text)) (Option.some.inj htext)

end DynamicValue.Session
