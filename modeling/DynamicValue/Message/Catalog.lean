/-
# Messages

The diagnostic messages of the library, in two languages. A message is found by its key; its
template has a placeholder for each of its fields. Every language words every message, with the same
placeholders.
-/

import DynamicValue.Text.Template

namespace DynamicValue

/-- The languages of messages. -/
inductive Locale
  | english
  | chinese
  deriving DecidableEq, Repr

namespace Locale

/-- The short name of a language. -/
def tag : Locale → String
  | english => "en"
  | chinese => "zh"

/-- The languages. -/
def all : List Locale := [english, chinese]

/-- The language with a short name. -/
def ofTag? (tag : String) : Option Locale := all.find? fun locale => locale.tag = tag

/-- What stands for the template of an unknown key. -/
def unknownKeyText : Locale → String
  | english => "Unknown message key"
  | chinese => "未知的消息键"

end Locale

/-- The messages. -/
inductive Message
  | badAccess
  | foreignDestination
  | noConversion
  | outOfRange
  | inexact
  | invalidText
  | emptySource
  | unknownFunction
  | wrongArgCount
  | badArgument
  deriving DecidableEq, Repr

namespace Message

/-- Every message. -/
def all : List Message :=
  [badAccess, foreignDestination, noConversion, outOfRange, inexact, invalidText, emptySource,
    unknownFunction, wrongArgCount, badArgument]

/-- The key of a message. -/
def key : Message → String
  | badAccess => "err.cast.bad_any_cast"
  | foreignDestination => "err.cast.foreign_destination"
  | noConversion => "err.cast.no_conversion"
  | outOfRange => "err.cast.out_of_range"
  | inexact => "err.cast.inexact"
  | invalidText => "err.cast.invalid_text"
  | emptySource => "err.cast.empty_source"
  | unknownFunction => "err.call.unknown_function"
  | wrongArgCount => "err.call.wrong_arg_count"
  | badArgument => "err.call.bad_argument"

/-- The English wording of a message. -/
def english : Message → String
  | badAccess => "cannot convert \x7b\x7d to \x7b\x7d"
  | foreignDestination => "'\x7b\x7d' is a foreign type and accepts no implicit conversion"
  | noConversion => "no conversion registered from '\x7b\x7d' to '\x7b\x7d'"
  | outOfRange => "value \x7b\x7d is out of range for '\x7b\x7d'"
  | inexact => "value \x7b\x7d cannot be represented exactly as '\x7b\x7d'"
  | invalidText => "cannot parse \"\x7b\x7d\" as '\x7b\x7d'"
  | emptySource => "cannot convert an empty value"
  | unknownFunction => "Unknown function: '\x7b\x7d'"
  | wrongArgCount => "'\x7b\x7d' expects \x7b\x7d argument(s), but found \x7b\x7d"
  | badArgument => "Bad argument #\x7b\x7d to '\x7b\x7d': \x7b\x7d"

/-- The Chinese wording of a message. -/
def chinese : Message → String
  | badAccess => "无法将 \x7b\x7d 转换为 \x7b\x7d"
  | foreignDestination => "'\x7b\x7d' 是外部类型，不接受隐式转换"
  | noConversion => "没有从 '\x7b\x7d' 到 '\x7b\x7d' 的已注册转换"
  | outOfRange => "值 \x7b\x7d 超出 '\x7b\x7d' 的范围"
  | inexact => "值 \x7b\x7d 无法精确表示为 '\x7b\x7d'"
  | invalidText => "无法把 \"\x7b\x7d\" 解析为 '\x7b\x7d'"
  | emptySource => "无法转换空值"
  | unknownFunction => "未知的函数: '\x7b\x7d'"
  | wrongArgCount => "'\x7b\x7d' 需要 \x7b\x7d 个参数，实际是 \x7b\x7d"
  | badArgument => "第 \x7b\x7d 个参数错误（'\x7b\x7d'）: \x7b\x7d"

/-- The wording of a message in a language. -/
def template (message : Message) : Locale → String
  | .english => message.english
  | .chinese => message.chinese

/-- The template that belongs to a key, or the text for unknown keys. -/
def templateFor (key : String) (locale : Locale) : String :=
  match all.find? fun message => message.key = key with
  | some message => message.template locale
  | none => locale.unknownKeyText

/-- The template that belongs to a key, filled with arguments in place. -/
def formatFor (key : String) (locale : Locale) (arguments : List String) : String :=
  (Text.fillInPlace? (templateFor key locale) arguments).get (by
    rw [Text.fillInPlace?_eq]
    rfl)

/-- The message with its fields in place. Its template is found by its key. -/
def format (message : Message) (locale : Locale) (fields : List String) : String :=
  formatFor message.key locale fields

end Message

end DynamicValue
