/-
# The wording of errors

An error is told in two ways: by a text of its own, and by the message that the tables of a language
have under its key. The text and the English message are the same for every error, whatever is in
its fields. A message is the template of its language with the fields between the pieces of it, each
of them once, in their order and character by character, so a field that looks like a placeholder
stays as it is.
-/

import DynamicValue.Error.Call
import DynamicValue.Proofs.Text.Template

namespace DynamicValue

namespace Message

/-- The number of fields that a message shows. -/
def fieldCount : Message → Nat
  | emptySource => 0
  | foreignDestination | unknownFunction => 1
  | badAccess | noConversion | outOfRange | inexact | invalidText => 2
  | wrongArgCount | badArgument => 3

/-- A text is what a language words a message with, for the given fields: the template that the
language has under the key of the message is divided by its placeholders, which are as many as the
fields, and each field stands where a placeholder was. -/
def Words (message : Message) (locale : Locale) (fields : List String) (text : String) : Prop :=
  ∃ parts : List String,
    (templateFor message.key locale).toList =
      Text.placeholder.intercalate (parts.map String.toList) ∧
    (∀ part ∈ parts, ¬ Text.placeholder <:+: part.toList) ∧
    parts.length = fields.length + 1 ∧
    text = Text.woven parts fields

variable {message : Message} {locale : Locale} {fields parts : List String}

/-- The tables of both languages have each message under its key. -/
theorem templateFor_key (message : Message) (locale : Locale) :
    templateFor message.key locale = message.template locale := by
  cases message <;> rfl

/-- What is found by the key of a message and filled in place is its template, filled at once. -/
theorem format_eq_fill (message : Message) (locale : Locale) (fields : List String) :
    message.format locale fields = Text.fill (message.template locale) fields := by
  unfold format formatFor
  rw [← templateFor_key]
  exact Option.get_of_eq_some _ (Text.fillInPlace?_eq _ _)

/-- Both languages have a placeholder for each field. -/
theorem length_pieces (message : Message) (locale : Locale) :
    (Text.pieces (message.template locale).toList).length = message.fieldCount + 1 := by
  cases message <;> cases locale <;> decide +kernel

/-- A message with all its fields is worded by the template. -/
theorem words_format (message : Message) (locale : Locale)
    (hfields : fields.length = message.fieldCount) :
    message.Words locale fields (message.format locale fields) := by
  have hlength := message.length_pieces locale
  have htoList : ((Text.pieces (message.template locale).toList).map String.ofList).map
      String.toList = Text.pieces (message.template locale).toList := by
    simp only [List.map_map, Function.comp_def, String.toList_ofList, List.map_id']
  refine ⟨(Text.pieces (message.template locale).toList).map String.ofList, ?_, ?_, ?_, ?_⟩
  · rw [templateFor_key, htoList, Text.intercalate_pieces]
  · intro part hmem
    obtain ⟨piece, hpiece, rfl⟩ := List.mem_map.mp hmem
    rw [String.toList_ofList]
    exact Text.not_placeholder_infix_of_mem hpiece
  · rw [List.length_map, hlength, hfields]
  · rw [format_eq_fill]
    exact Text.fill_eq htoList.symm (by rw [List.length_map, hlength, hfields])

/-- The English message, read off the pieces of its template. -/
theorem format_english (message : Message) (parts fields : List String)
    (hparts : Text.pieces message.english.toList = parts.map String.toList)
    (hlength : parts.length = fields.length + 1) :
    message.format .english fields = Text.woven parts fields := by
  rw [format_eq_fill]
  exact Text.fill_eq hparts hlength

end Message

/-! ## What each error is worded with -/

namespace ConversionError

/-- The message of an error. -/
def wording : ConversionError → Message
  | foreignDestination .. => .foreignDestination
  | noConversion .. => .noConversion
  | outOfRange .. => .outOfRange
  | inexact .. => .inexact
  | invalidText .. => .invalidText
  | emptySource => .emptySource

/-- What an error shows of its fields: texts as they are, and types by their names. -/
def shownFields : ConversionError → List String
  | foreignDestination dest => [dest.name]
  | noConversion source dest => [source.name, dest.name]
  | outOfRange value dest | inexact value dest => [value, dest.name]
  | invalidText text dest => [text, dest.name]
  | emptySource => []

theorem words_message (error : ConversionError) (locale : Locale) :
    error.wording.Words locale error.shownFields (error.message locale) := by
  cases error <;> exact Message.words_format _ locale rfl

/-- The text of an error is its English message. -/
theorem text_eq_message (error : ConversionError) : error.text = error.message .english := by
  cases error with
  | foreignDestination dest =>
      exact (Message.foreignDestination.format_english
        ["'", "' is a foreign type and accepts no implicit conversion"] [dest.name]
        (by decide +kernel) rfl).symm
  | noConversion source dest =>
      exact (Message.noConversion.format_english
        ["no conversion registered from '", "' to '", "'"] [source.name, dest.name]
        (by decide +kernel) rfl).symm
  | outOfRange value dest =>
      exact (Message.outOfRange.format_english
        ["value ", " is out of range for '", "'"] [value, dest.name] (by decide +kernel) rfl).symm
  | inexact value dest =>
      exact (Message.inexact.format_english
        ["value ", " cannot be represented exactly as '", "'"] [value, dest.name]
        (by decide +kernel) rfl).symm
  | invalidText text dest =>
      exact (Message.invalidText.format_english
        ["cannot parse \"", "\" as '", "'"] [text, dest.name] (by decide +kernel) rfl).symm
  | emptySource =>
      exact (Message.emptySource.format_english
        ["cannot convert an empty value"] [] (by decide +kernel) rfl).symm

end ConversionError

namespace AccessError

/-- What the failure of an accessor shows: the names of its types. -/
def shownFields (error : AccessError) : List String := [error.source.name, error.dest.name]

theorem words_message (error : AccessError) (locale : Locale) :
    Message.badAccess.Words locale error.shownFields (error.message locale) :=
  Message.words_format _ locale rfl

/-- The text of a failure is its English message. -/
theorem text_eq_message (error : AccessError) : error.text = error.message .english := by
  have hmessage := Message.badAccess.format_english ["cannot convert ", " to ", ""]
    error.shownFields (by decide +kernel) rfl
  rw [message, show [error.source.name, error.dest.name] = error.shownFields from rfl, hmessage]
  exact (String.append_empty).symm

end AccessError

namespace CallError

/-- The message of an error. -/
def wording : CallError → Message
  | unknownFunction .. => .unknownFunction
  | wrongArgCount .. => .wrongArgCount
  | badArgument .. => .badArgument

/-- What an error shows of its fields in a language: names as they are, numbers in decimal, and the
failure behind it by its message in the same language. -/
def shownFields (locale : Locale) : CallError → List String
  | unknownFunction name => [name]
  | wrongArgCount name expected found =>
    [name, Decimal.naturalText expected, Decimal.naturalText found]
  | badArgument index name cause => [Decimal.naturalText index, name, cause.message locale]

theorem words_message (error : CallError) (locale : Locale) :
    error.wording.Words locale (error.shownFields locale) (error.message locale) := by
  cases error <;> exact Message.words_format _ locale rfl

/-- The text of an error is its English message. -/
theorem text_eq_message (error : CallError) : error.text = error.message .english := by
  cases error with
  | unknownFunction name =>
      exact (Message.unknownFunction.format_english ["Unknown function: '", "'"] [name]
        (by decide +kernel) rfl).symm
  | wrongArgCount name expected found =>
      have hmessage := Message.wrongArgCount.format_english
        ["'", "' expects ", " argument(s), but found ", ""]
        [name, Decimal.naturalText expected, Decimal.naturalText found] (by decide +kernel) rfl
      exact (hmessage.trans String.append_empty).symm
  | badArgument index name cause =>
      have hmessage := Message.badArgument.format_english ["Bad argument #", " to '", "': ", ""]
        [Decimal.naturalText index, name, cause.text] (by decide +kernel) rfl
      rw [message, ← cause.text_eq_message]
      exact (hmessage.trans String.append_empty).symm

end CallError

/-- The text of every error is its English message, and in both languages the message of every error
is the template of the language with what the error shows of its fields in the places of the
placeholders. The message that is shown inside another one is in the same language. -/
theorem error_texts_and_messages_agree :
    (∀ error : ConversionError, error.text = error.message .english ∧
      ∀ locale, error.wording.Words locale error.shownFields (error.message locale)) ∧
    (∀ error : AccessError, error.text = error.message .english ∧
      ∀ locale, Message.badAccess.Words locale error.shownFields (error.message locale)) ∧
    (∀ error : CallError, error.text = error.message .english ∧
      ∀ locale, error.wording.Words locale (error.shownFields locale) (error.message locale)) :=
  ⟨fun error => ⟨error.text_eq_message, error.words_message⟩,
    fun error => ⟨error.text_eq_message, error.words_message⟩,
    fun error => ⟨error.text_eq_message, error.words_message⟩⟩

/-- A text that looks like a placeholder is shown as it is. -/
example : (ConversionError.invalidText "\x7b\x7d" ⟨1, some .boolean⟩).message .english =
    "cannot parse \"\x7b\x7d\" as 'bool'" := by
  decide +kernel

end DynamicValue
