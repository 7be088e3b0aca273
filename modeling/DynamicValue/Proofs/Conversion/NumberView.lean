/-
# The integer and the number view of a value

With the built-in conversions only, a value that can be had as an integer can be had as a number of
double width too, and the number is the one nearest to the integer. This holds for every kind of
integer, except that a character has a code point but no number. It holds of typed access and, as
they are made of it, of the two library functions that give an integer and a number.
-/

import DynamicValue.Environment.Natives
import DynamicValue.Proofs.Conversion.Exactness
import DynamicValue.Proofs.Conversion.View
import DynamicValue.Proofs.Decimal.IntegerText
import DynamicValue.Proofs.Directory
import Mathlib.Tactic.NormNum

namespace DynamicValue

/-- Whether some built-in rule leads from a type to an integer kind. -/
def ValueType.hasIntegers (kind : IntKind) : ValueType → Bool
  | integer _ | float _ | boolean | text | literal => true
  | character => kind = ⟨false, .bits32⟩
  | _ => false

/-- No built-in rule leads to an integer kind from any other type. -/
theorem BuiltIn.hasIntegers_of_mem {kind : IntKind} {source : ValueType}
    {rule : Rule source (.integer kind)} (hmem : ⟨source, .integer kind, rule⟩ ∈ all) :
    source.hasIntegers kind := by
  have hall : all.all fun builtIn =>
      match builtIn.dest with
      | .integer kind => builtIn.source.hasIntegers kind
      | _ => true := by
    decide +kernel
  exact List.all_eq_true.mp hall _ hmem

/-! ## What the rules accept -/

namespace Rule

/-- A text that is read as an integer is read as the number nearest to it. -/
theorem exists_readFloat_isNearest {kind : IntKind} {text : String} {n : kind.Value}
    (haccepts : readInteger kind text = .ok n) (format : FloatKind) :
    ∃ x, readFloat format text = .ok x ∧ x.IsNearest (n.val : ℚ) := by
  obtain ⟨x, hread, hnearest⟩ :=
    Binary.exists_read?_isNearest format (Refusal.unlessSome_eq_ok_iff.mp haccepts)
  exact ⟨x, Refusal.unlessSome_eq_ok_iff.mpr hread, hnearest⟩

end Rule

/-! ## Views of a payload -/

namespace Payload.Views

variable {kind : IntKind} {n : kind.Value}

/-- A payload that can be had as an integer can be had as the number nearest to it. -/
theorem exists_isNearest {payload : Payload} (hview : payload.Views (.integer kind) n)
    (hcharacter : ¬ (payload.type = .character ∧ kind = ⟨false, .bits32⟩)) :
    ∃ x : Binary .double, payload.Views (.float .double) x ∧ x.IsNearest (n.val : ℚ) := by
  obtain ⟨type, value⟩ := payload
  cases hview with
  | own =>
      exact ⟨_, .converted nofun (BuiltIn.integersAndFloats_mem kind .double).1 rfl,
        Binary.ofInt_isNearest .double value⟩
  | converted hother hmem haccepts =>
      have hintegers := BuiltIn.hasIntegers_of_mem hmem
      cases type with
      | integer source =>
          have hvalue := Rule.val_of_integerToInteger
            (BuiltIn.result_unique hmem (BuiltIn.integerToInteger_mem source kind) haccepts)
          rw [hvalue]
          exact ⟨_, .converted nofun (BuiltIn.integersAndFloats_mem source .double).1 rfl,
            Binary.ofInt_isNearest .double value⟩
      | float format =>
          obtain ⟨hfinite, hvalue⟩ := Rule.value_of_floatToInteger
            (BuiltIn.result_unique hmem (BuiltIn.integersAndFloats_mem kind format).2 haccepts)
          cases format with
          | single =>
              obtain ⟨hwide, hsame⟩ := Binary.widen_value hfinite
              exact ⟨_, .converted nofun BuiltIn.widen_mem rfl,
                .of_value_eq hwide (hsame.trans hvalue)⟩
          | double => exact ⟨value, .own, .of_value_eq hfinite hvalue⟩
      | boolean =>
          have hvalue := BuiltIn.result_unique hmem (BuiltIn.booleanToInteger_mem kind) haccepts
          cases hvalue
          exact ⟨_, .converted nofun (BuiltIn.booleanToFloat_mem .double) rfl,
            Binary.ofBool_isNearest .double kind value⟩
      | character => exact absurd ⟨rfl, of_decide_eq_true hintegers⟩ hcharacter
      | text =>
          obtain ⟨x, hread, hnearest⟩ := Rule.exists_readFloat_isNearest (BuiltIn.result_unique hmem
            (BuiltIn.readText_mem (BuiltIn.texts_integer_subset kind)) haccepts) .double
          exact ⟨x, .converted nofun
            (BuiltIn.readText_mem (BuiltIn.texts_float_subset .double)) hread, hnearest⟩
      | literal =>
          obtain ⟨x, hread, hnearest⟩ := Rule.exists_readFloat_isNearest (BuiltIn.result_unique hmem
            (BuiltIn.readLiteral_mem (BuiltIn.texts_integer_subset kind)) haccepts) .double
          exact ⟨x, .converted nofun
            (BuiltIn.readLiteral_mem (BuiltIn.texts_float_subset .double)) hread, hnearest⟩
      | _ => cases hintegers

end Payload.Views

/-! ## Library functions -/

namespace Environment

theorem call_of_lookup {environment : Environment} {name : String} {function : Native}
    (hbound : environment.lookup name = some function) (arguments : List Cell) :
    environment.call name arguments = function arguments := by
  unfold call
  rw [hbound]

/-- In an environment that the library functions were bound in last, they convert their argument. -/
theorem call_bindAll_value (environment : Environment) (cell : Cell) :
    let library := environment.bindAll FunctionModule.value.exports
    library.call "toint" [cell] = Native.converting "toint" 1 cell (.integer .long) ∧
      library.call "tonumber" [cell] = Native.converting "tonumber" 1 cell (.float .double) := by
  intro library
  have hinteger : library.lookup "toint" = some Native.toInteger := by
    simp [library, bindAll, FunctionModule.value, bind, lookup]
  have hnumber : library.lookup "tonumber" = some Native.toNumber := by
    simp [library, bindAll, FunctionModule.value, bind, lookup]
  exact ⟨call_of_lookup hinteger [cell], call_of_lookup hnumber [cell]⟩

end Environment

section Calls

variable {machine : Machine} {cell : Cell} {payload? : Option Payload} {type : ValueType}

/-- A function makes a new value, and the values that the program holds stay. -/
theorem Native.giving_run (hshows : cell.Shows machine payload?)
    (hbuiltIns : machine.HasBuiltIns) (value : type.Value) :
    ∃ made after, (giving type value).run machine = (.ok (.ok made), after) ∧
      after.HasBuiltIns ∧ cell.Shows after payload? ∧ made.Shows after (some ⟨type, value⟩) := by
  obtain ⟨holdings, holding?, haccounts, hholds, hsub, hpayload⟩ := hshows
  obtain ⟨made, holding, known, heap, hmade, hlearns, hknown, hmadeHolds, hcontents, hafter⟩ :=
    Cell.ofPayload_apply hbuiltIns.coherent haccounts ⟨type, value⟩
  have hextends := ((Machine.Extends.advance machine machine.heap 1 [] []).trans
    hlearns.toExtends).trans (.advance known heap 0 [] [])
  have hrun : (liftM (Cell.ofPayload ⟨type, value⟩) : Action Machine Cell).run machine =
      (.ok made, known.advance heap 0 [] []) := by
    rw [Action.run_lift, hmade]
  refine ⟨made, _, Action.run_bind_ok _ hrun,
    hbuiltIns.later hextends (hknown.advance _ _ _ _) hlearns.global?, ?_, ?_⟩
  · exact ⟨_, holding?, hafter, hholds.mono hextends,
      fun held hmem => List.mem_cons_of_mem _ (hsub held hmem), hpayload⟩
  · refine ⟨_, some holding, hafter, hmadeHolds, fun held hmem => ?_, ?_⟩
    · cases hmem
      exact List.mem_cons_self
    · rw [Option.map_some, Holding.payload, hcontents]

/-- A function that converts its argument gives what the argument can be had as, or fails. -/
theorem Native.converting_run (hshows : cell.Shows machine payload?)
    (hbuiltIns : machine.HasBuiltIns) (type : ValueType) (hnative : type.isForeign = false)
    (name : String) (index : Nat) :
    ∃ result after, (converting name index cell type).run machine = (.ok result, after) ∧
      after.HasBuiltIns ∧ cell.Shows after payload? ∧
      (∀ made, result = .ok made → ∃ value, made.Shows after (some ⟨type, value⟩) ∧
        ∃ payload ∈ payload?, payload.Views type value) ∧
      ∀ value, (∃ payload ∈ payload?, payload.Views type value) →
        ∃ made, result = .ok made ∧ made.Shows after (some ⟨type, value⟩) := by
  obtain ⟨result, middle, hrun, hmiddle, hstill, hviews⟩ := hshows.get_run hbuiltIns type hnative
  unfold converting
  rw [Action.run_bind_ok _ hrun]
  cases result with
  | error cause =>
      refine ⟨_, middle, rfl, hmiddle, hstill, fun made hmade => ?_, fun value hview => ?_⟩
      · cases hmade
      · obtain ⟨borrowed, hresult⟩ := (hviews value).mpr hview
        cases hresult
  | ok access =>
      obtain ⟨made, after, hmade, hafter, hend, hmadeShows⟩ :=
        giving_run hstill hmiddle access.value
      refine ⟨_, after, hmade, hafter, hend, fun other hother => ?_, fun value hview => ?_⟩
      · cases hother
        exact ⟨access.value, hmadeShows, (hviews access.value).mp ⟨access.borrowed, rfl⟩⟩
      · obtain ⟨borrowed, hresult⟩ := (hviews value).mpr hview
        cases hresult
        exact ⟨made, rfl, hmadeShows⟩

/-- A function that converts its argument succeeds with the values that typed access gives. -/
theorem Native.converting_iff_get (hshows : cell.Shows machine payload?)
    (hbuiltIns : machine.HasBuiltIns) (type : ValueType) (hnative : type.isForeign = false)
    (name : String) (index : Nat) (value : type.Value) :
    (∃ made after, (converting name index cell type).run machine = (.ok (.ok made), after) ∧
      made.Shows after (some ⟨type, value⟩)) ↔
    ∃ access after, (cell.get type).run machine = (.ok (.ok access), after) ∧
      access.value = value := by
  obtain ⟨result, final, hrun, -, -, hgives, hgiven⟩ :=
    converting_run hshows hbuiltIns type hnative name index
  obtain ⟨answer, middle, hget, -, -, hviews⟩ := hshows.get_run hbuiltIns type hnative
  rw [hrun, hget]
  constructor
  · rintro ⟨made, after, hsame, hmade⟩
    cases hsame
    obtain ⟨given, hshown, hview⟩ := hgives made rfl
    cases Option.some.inj (hshown.unique hmade)
    obtain ⟨borrowed, rfl⟩ := (hviews value).mpr hview
    exact ⟨_, middle, rfl, rfl⟩
  · rintro ⟨access, after, hsame, rfl⟩
    cases hsame
    obtain ⟨made, rfl, hmade⟩ :=
      hgiven access.value ((hviews access.value).mp ⟨access.borrowed, rfl⟩)
    exact ⟨made, final, rfl, hmade⟩

end Calls

/-! ## Both views -/

/-- The number view of a value follows its integer view. If typed access as an integer succeeds in a
program, or the library function for integers does, then there is a number nearest to this integer,
and typed access as a number, or the library function for numbers, gives it in every program that
holds the same value: in the one that is left, in the one before, and at any other time. The two
functions succeed exactly where typed access does, with the same integer and the same number. -/
structure Cell.NumberFollowsInteger (cell : Cell) (machine : Machine)
    (payload? : Option Payload) : Prop where
  access : ∀ (kind : IntKind) (integer : Access (.integer kind)) (after : Machine),
    ¬ (payload?.map Payload.type = some .character ∧ kind = ⟨false, .bits32⟩) →
    (cell.get (.integer kind)).run machine = (.ok (.ok integer), after) →
      after.HasBuiltIns ∧ cell.Shows after payload? ∧
      ∃ x : Binary .double, x.IsNearest (integer.value.val : ℚ) ∧
        ∀ later : Machine, later.HasBuiltIns → cell.Shows later payload? →
          ∃ number final, (cell.get (.float .double)).run later = (.ok (.ok number), final) ∧
            number.value = x
  calls : ∀ (environment : Environment) (integer : Cell) (after : Machine),
    let library := environment.bindAll FunctionModule.value.exports
    (library.call "toint" [cell]).run machine = (.ok (.ok integer), after) →
      after.HasBuiltIns ∧ cell.Shows after payload? ∧
      ∃ n : IntKind.long.Value, integer.Shows after (some ⟨.integer .long, n⟩) ∧
        ∃ x : Binary .double, x.IsNearest (n.val : ℚ) ∧
          ∀ later : Machine, later.HasBuiltIns → cell.Shows later payload? →
            ∃ number final, (library.call "tonumber" [cell]).run later = (.ok (.ok number), final) ∧
              number.Shows final (some ⟨.float .double, x⟩)
  toint : ∀ (environment : Environment) (n : IntKind.long.Value),
    let library := environment.bindAll FunctionModule.value.exports
    (∃ integer after, (library.call "toint" [cell]).run machine = (.ok (.ok integer), after) ∧
      integer.Shows after (some ⟨.integer .long, n⟩)) ↔
    ∃ access after, (cell.get (.integer .long)).run machine = (.ok (.ok access), after) ∧
      access.value = n
  tonumber : ∀ (environment : Environment) (x : Binary .double),
    let library := environment.bindAll FunctionModule.value.exports
    (∃ number after, (library.call "tonumber" [cell]).run machine = (.ok (.ok number), after) ∧
      number.Shows after (some ⟨.float .double, x⟩)) ↔
    ∃ access after, (cell.get (.float .double)).run machine = (.ok (.ok access), after) ∧
      access.value = x

section Views

variable {machine : Machine} {cell : Cell} {payload? : Option Payload}

theorem Payload.exists_view_isNearest {kind : IntKind} {n : kind.Value}
    (hview : ∃ payload ∈ payload?, payload.Views (.integer kind) n)
    (hcharacter : ¬ (payload?.map Payload.type = some .character ∧ kind = ⟨false, .bits32⟩)) :
    ∃ x : Binary .double, (∃ payload ∈ payload?, payload.Views (.float .double) x) ∧
      x.IsNearest (n.val : ℚ) := by
  obtain ⟨payload, hpayload, hview⟩ := hview
  cases hpayload
  obtain ⟨x, hnumber, hnearest⟩ := hview.exists_isNearest fun h =>
    hcharacter ⟨by rw [Option.map_some, h.1], h.2⟩
  exact ⟨x, ⟨payload, rfl, hnumber⟩, hnearest⟩

/-- With the built-in conversions only, the integer view and the number view of a value never
contradict each other. -/
theorem number_view_follows_integer_view (hshows : cell.Shows machine payload?)
    (hbuiltIns : machine.HasBuiltIns) : cell.NumberFollowsInteger machine payload? where
  access kind integer after hcharacter hget := by
    obtain ⟨result, after', hrun, hafter, hstill, hviews⟩ :=
      hshows.get_run hbuiltIns (.integer kind) rfl
    rw [hget] at hrun
    cases hrun
    obtain ⟨x, hnumber, hnearest⟩ := Payload.exists_view_isNearest
      ((hviews integer.value).mp ⟨integer.borrowed, rfl⟩) hcharacter
    refine ⟨hafter, hstill, x, hnearest, fun later hlater hthere => ?_⟩
    obtain ⟨result, final, hrun, -, -, hviews⟩ := hthere.get_run hlater (.float .double) rfl
    obtain ⟨borrowed, rfl⟩ := (hviews x).mpr hnumber
    exact ⟨_, final, hrun, rfl⟩
  calls environment integer after := by
    intro library hcall
    obtain ⟨htoint, htonumber⟩ := environment.call_bindAll_value cell
    change (library.call "toint" [cell]) = _ at htoint
    change (library.call "tonumber" [cell]) = _ at htonumber
    obtain ⟨result, after', hrun, hafter, hstill, hgives, -⟩ :=
      Native.converting_run hshows hbuiltIns (.integer .long) rfl "toint" 1
    rw [htoint, hrun] at hcall
    cases hcall
    obtain ⟨n, hshown, hview⟩ := hgives integer rfl
    obtain ⟨x, hnumber, hnearest⟩ :=
      Payload.exists_view_isNearest hview fun h => absurd h.2 (by decide)
    refine ⟨hafter, hstill, n, hshown, x, hnearest, fun later hlater hthere => ?_⟩
    obtain ⟨result, final, hrun, -, -, -, hgiven⟩ :=
      Native.converting_run hthere hlater (.float .double) rfl "tonumber" 1
    obtain ⟨number, rfl, hmade⟩ := hgiven x hnumber
    rw [htonumber]
    exact ⟨number, final, hrun, hmade⟩
  toint environment n := by
    intro library
    rw [(environment.call_bindAll_value cell).1]
    exact Native.converting_iff_get hshows hbuiltIns (.integer .long) rfl "toint" 1 n
  tonumber environment x := by
    intro library
    rw [(environment.call_bindAll_value cell).2]
    exact Native.converting_iff_get hshows hbuiltIns (.float .double) rfl "tonumber" 1 x

end Views

/-- The text of the first integer that has no number of its own, as an integer and as a number. -/
theorem number_view_of_rounded_text :
    let library := Environment.empty.bindAll FunctionModule.value.exports
    ∃ machine cell integer after number final access left x,
      Machine.HasBuiltIns machine ∧
      Cell.Shows cell machine (some ⟨.literal, "9007199254740993"⟩) ∧
      (library.call "toint" [cell]).run machine = (.ok (.ok integer), after) ∧
      integer.Shows after (some ⟨.integer .long, ⟨2 ^ 53 + 1, by decide⟩⟩) ∧
      (library.call "tonumber" [cell]).run after = (.ok (.ok number), final) ∧
      number.Shows final (some ⟨.float .double, x⟩) ∧
      (cell.get (.float .double)).run machine = (.ok (.ok access), left) ∧
      access.value = x ∧ x.IsNearest (2 ^ 53 + 1) := by
  intro library
  let n : IntKind.long.Value := ⟨2 ^ 53 + 1, by decide⟩
  have htext : Decimal.integerText n.val = "9007199254740993" := by decide +kernel
  have hview : Payload.Views ⟨.literal, "9007199254740993"⟩ (.integer .long) n := by
    refine .converted nofun (BuiltIn.readLiteral_mem (BuiltIn.texts_integer_subset .long)) ?_
    rw [← htext]
    exact Refusal.unlessSome_eq_ok_iff.mpr (IntKind.read?_integerText n)
  obtain ⟨machine, cell, hbuiltIns, hshows⟩ :=
    Cell.exists_shows ⟨.literal, "9007199254740993"⟩
  have hfollows := number_view_follows_integer_view hshows hbuiltIns
  -- typed access gives the integer, and so does the library function
  obtain ⟨result, middle, hget, -, -, hviews⟩ := hshows.get_run hbuiltIns (.integer .long) rfl
  obtain ⟨borrowed, rfl⟩ := (hviews n).mpr ⟨_, rfl, hview⟩
  obtain ⟨integer, after, htoint, hinteger⟩ :=
    (hfollows.toint .empty n).mpr ⟨_, middle, hget, rfl⟩
  obtain ⟨hafter, hstill, m, hm, x, hnearest, hnumbers⟩ :=
    hfollows.calls .empty integer after htoint
  cases Option.some.inj (hinteger.unique hm)
  -- the number is asked for in the program that this leaves, and in the one before
  obtain ⟨number, final, htonumber, hnumber⟩ := hnumbers after hafter hstill
  obtain ⟨access, left, hdouble, hvalue⟩ :=
    (hfollows.tonumber .empty x).mp (hnumbers machine hbuiltIns hshows)
  have hsame : (((n.val : Int)) : ℚ) = 2 ^ 53 + 1 := by norm_num [n]
  rw [hsame] at hnearest
  exact ⟨machine, cell, integer, after, number, final, access, left, x, hbuiltIns, hshows, htoint,
    hinteger, htonumber, hnumber, hdouble, hvalue, hnearest⟩

end DynamicValue
