/-
# What is left of an answer without the numbers of identities

The numbers of identities depend on the order in which a program uses its types. The anonymous form
of an identity keeps its type, and of its number only whether it is that of the empty value. Errors
and answers have anonymous forms as well, in which the numbers of tables and the counts of what has
been handed out are gone too.

An anonymous error still tells everything that an error shows, in its text, in the messages of all
languages and in its chain of causes; only diagnostic forms show the numbers.
-/

import DynamicValue.Session.Run

namespace DynamicValue

/-! ## Identities -/

namespace TypeIdentity

/-- The identity with no more of its number than whether it is that of the empty value. -/
def anonymous (identity : TypeIdentity) : TypeIdentity := ⟨min identity.number 1, identity.type?⟩

variable {first second : TypeIdentity}

theorem type?_of_anonymous (hsame : first.anonymous = second.anonymous) :
    first.type? = second.type? := by
  have htype := congrArg TypeIdentity.type? hsame
  exact htype

theorem isNull_of_anonymous (hsame : first.anonymous = second.anonymous) :
    first.isNull = second.isNull := by
  have hnumber : min first.number 1 = min second.number 1 := congrArg TypeIdentity.number hsame
  change decide (first.number = 0) = decide (second.number = 0)
  rw [decide_eq_decide]
  omega

theorem isForeign_of_anonymous (hsame : first.anonymous = second.anonymous) :
    first.isForeign = second.isForeign := by
  unfold isForeign typeClass
  rw [type?_of_anonymous hsame]

@[simp] theorem anonymous_name (identity : TypeIdentity) :
    identity.anonymous.name = identity.name := rfl

end TypeIdentity

/-- The table without its number and that of its identity. -/
def OperationTable.anonymous (table : OperationTable) : OperationTable :=
  ⟨0, table.type, table.identity.anonymous⟩

/-! ## Errors -/

namespace ConversionError

/-- The error with its types, but without their numbers. -/
def anonymous : ConversionError → ConversionError
  | foreignDestination dest => foreignDestination dest.anonymous
  | noConversion source dest => noConversion source.anonymous dest.anonymous
  | outOfRange value dest => outOfRange value dest.anonymous
  | inexact value dest => inexact value dest.anonymous
  | invalidText text dest => invalidText text dest.anonymous
  | emptySource => emptySource

@[simp] theorem anonymous_text (error : ConversionError) : error.anonymous.text = error.text := by
  cases error <;> rfl

@[simp] theorem anonymous_message (locale : Locale) (error : ConversionError) :
    error.anonymous.message locale = error.message locale := by
  cases error <;> rfl

/-- Errors that are made of the same parts are alike if their identities are. -/
theorem ofKind_anonymous (kind : ConversionErrorKind) (text : String)
    {source source' dest dest' : TypeIdentity} (hsource : source.anonymous = source'.anonymous)
    (hdest : dest.anonymous = dest'.anonymous) :
    (ofKind kind text source dest).anonymous = (ofKind kind text source' dest').anonymous := by
  cases kind <;> simp only [ofKind, anonymous, hsource, hdest]

end ConversionError

theorem Refusal.conversionError_anonymous (refusal : Refusal) {dest dest' : TypeIdentity}
    (hdest : dest.anonymous = dest'.anonymous) :
    (refusal.conversionError dest).anonymous = (refusal.conversionError dest').anonymous := by
  cases refusal <;> simp only [conversionError, ConversionError.anonymous, hdest]

namespace AccessError

/-- The failure with its types, but without their numbers. -/
def anonymous (error : AccessError) : AccessError :=
  ⟨error.source.anonymous, error.dest.anonymous, error.cause.anonymous⟩

@[simp] theorem anonymous_text (error : AccessError) : error.anonymous.text = error.text := rfl

@[simp] theorem anonymous_message (locale : Locale) (error : AccessError) :
    error.anonymous.message locale = error.message locale := rfl

@[simp] theorem anonymous_causeTexts (error : AccessError) :
    error.anonymous.causeTexts = error.causeTexts := by
  simp only [causeTexts, anonymous, ConversionError.anonymous_text]

end AccessError

namespace CallError

/-- The error without the numbers of the types that an argument was to be converted between. -/
def anonymous : CallError → CallError
  | badArgument index name cause => badArgument index name cause.anonymous
  | other => other

@[simp] theorem anonymous_text (error : CallError) : error.anonymous.text = error.text := by
  cases error <;> rfl

@[simp] theorem anonymous_message (locale : Locale) (error : CallError) :
    error.anonymous.message locale = error.message locale := by
  cases error <;> rfl

@[simp] theorem anonymous_causeTexts (error : CallError) :
    error.anonymous.causeTexts = error.causeTexts := by
  cases error with
  | badArgument index name cause =>
      simp only [causeTexts, anonymous, AccessError.anonymous_text,
        AccessError.anonymous_causeTexts]
  | _ => rfl

end CallError

/-! ## Answers and reports -/

/-- The answer without numbers of identities and tables, and without the counts of them. -/
def Answer.anonymous : Answer → Answer
  | access result => access (result.mapError AccessError.anonymous)
  | inspection seen => inspection { seen with identity := seen.identity.anonymous }
  | identity found => identity found.anonymous
  | table found same => table found.anonymous same
  | counts _ _ => counts 0 0
  | coercion result => coercion (result.mapError ConversionError.anonymous)
  | casting result slot => casting (result.mapError ConversionError.anonymous) slot
  | call result => call (result.mapError CallError.anonymous)
  | other => other

/-- What a session shows after a step, with the answer in its anonymous form and without the log. -/
def StepReport.anonymous (report : StepReport) : StepReport :=
  { report with outcome := report.outcome.map Answer.anonymous, log := [] }

end DynamicValue
