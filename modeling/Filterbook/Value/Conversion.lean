import Filterbook.Value.Basic
import Filterbook.Kind
import Filterbook.Calendar.Pattern
import Filterbook.Json.Parser
import Filterbook.Text.Blank
import Filterbook.Text.Case
import Filterbook.Text.Split

/-!
# Converting typed text

Text typed by a person becomes a value of a kind, or an error that tells the person what was
expected. Text kinds take everything as it stands; the others look past blanks at either end.
-/

namespace Filterbook

open Filterbook.Number Filterbook.Calendar Filterbook.Text

/-- Why a text is no value of a kind. -/
inductive ConversionCause where
  /-- No integer, or one of more than 64 bits. -/
  | notInteger (raw : String)
  /-- An integer below the least of its kind. -/
  | belowLeast (least : Int)
  /-- An integer above the greatest of its kind. -/
  | aboveGreatest (greatest : Int)
  /-- No floating-point number. -/
  | notFloat (raw : String)
  /-- No decimal number. -/
  | notDecimal (raw : String)
  /-- No truth value. -/
  | notBoolean (raw : String)
  /-- Not written like a date. -/
  | dateForm (raw : String)
  /-- Written like a date, but there is no such day. -/
  | noSuchDate (raw : String)
  /-- Not written like a date with a time. -/
  | dateTimeForm (raw : String)
  /-- Not written like a time. -/
  | timeForm (raw : String)
  /-- No identifier. -/
  | notUuid (raw : String)
  /-- No Json. -/
  | notJson
  /-- A cause in words. -/
  | other (message : String)
  deriving DecidableEq, Repr

/-- The words of a cause. -/
def ConversionCause.message : ConversionCause → String
  | notInteger raw => "“" ++ raw ++ "” value must be an integer."
  | belowLeast least => "Ensure this value is greater than or equal to " ++ intText least ++ "."
  | aboveGreatest greatest => "Ensure this value is less than or equal to " ++ intText greatest ++ "."
  | notFloat raw => "“" ++ raw ++ "” value must be a float."
  | notDecimal raw => "“" ++ raw ++ "” value must be a decimal number."
  | notBoolean raw => "“" ++ raw ++ "” value must be either True or False."
  | dateForm raw =>
    "“" ++ raw ++ "” value has an invalid date format. It must be in YYYY-MM-DD format."
  | noSuchDate raw =>
    "“" ++ raw ++ "” value has the correct format (YYYY-MM-DD) but it is an invalid date."
  | dateTimeForm raw =>
    "“" ++ raw ++ "” value has an invalid format. It must be in YYYY-MM-DD " ++
      "HH:MM[:ss[.uuuuuu]][TZ] format."
  | timeForm raw =>
    "“" ++ raw ++ "” value has an invalid format. It must be in HH:MM[:ss[.uuuuuu]] format."
  | notUuid raw => "“" ++ raw ++ "” is not a valid UUID."
  | notJson => "Value must be valid JSON."
  | other message => message

/-- A text that is no value of a kind. -/
structure ConversionError where
  /-- The kind wanted. -/
  kind : Kind
  /-- What is wrong. -/
  cause : ConversionCause
  deriving DecidableEq, Repr

/-- The words of the cause. -/
def ConversionError.message (e : ConversionError) : String := e.cause.message

namespace Value

/-- The integer of 64 bits that a text writes. -/
def readInt64? (raw : String) : Option Int :=
  (readInt? (trimChars raw.toList)).filter inInt64

/-- An integer between two bounds. -/
def ofIntText (least greatest : Int) (raw : String) : Except ConversionCause Value :=
  match readInt64? raw with
  | none => .error (.notInteger raw)
  | some n =>
    if n < least then .error (.belowLeast least)
    else if n > greatest then .error (.aboveGreatest greatest)
    else .ok (.int n)

/-- The least and the greatest integer of an integer kind. -/
def intRange? : Kind → Option (Int × Int)
  | .int => some (-2147483648, 2147483647)
  | .smallInt => some (-32768, 32767)
  | .bigInt => some (-9223372036854775808, 9223372036854775807)
  | .positiveInt => some (0, 2147483647)
  | .positiveSmallInt => some (0, 32767)
  | _ => none

/-- The truth value of a word in any case. -/
def readBool? (raw : String) : Option Bool :=
  match lowerAscii (trim raw) with
  | "true" => some true
  | "t" => some true
  | "1" => some true
  | "yes" => some true
  | "false" => some false
  | "f" => some false
  | "0" => some false
  | "no" => some false
  | _ => none

/-- Year, month and day of a text with two hyphens: four digits, then one or two, then one or two. -/
def dateParts? (cs : List Char) : Option (Nat × Nat × Nat) :=
  let digits (least most : Nat) (part : List Char) : Option Nat :=
    if least ≤ part.length && part.length ≤ most && part.all isDigit then some (digitsValue part)
    else none
  match splitChars ['-'] cs with
  | [year, month, day] => do
    some (← digits 4 4 year, ← digits 1 2 month, ← digits 1 2 day)
  | _ => none

/-- The day that a text writes. -/
def readDate (raw : String) : Except ConversionCause Date :=
  match dateParts? (trimChars raw.toList) with
  | none => .error (.dateForm raw)
  | some (year, month, day) =>
    match Date.make? year month day with
    | some d => .ok d
    | none => .error (.noSuchDate raw)

/-- The patterns of a time with a zone, between whose parts blanks may stand. -/
def zonedItems : List Item := dateItems ++ .blanks :: secondItems ++ [.zone]

/-- The patterns of a time on a day without a zone. -/
def localPatterns : List (List Item) :=
  [dateItems ++ .blanks :: secondItems, dateItems ++ .mark 'T' :: secondItems,
    dateItems ++ .blanks :: minuteItems, dateItems ++ .mark 'T' :: minuteItems]

/-- The time on a day that a text writes, in UTC. An exact instant comes first, then the freer forms
with a zone, then those without one; a day alone means its midnight. -/
def readDateTime (raw : String) : Except ConversionCause DateTime :=
  let cs := trimChars raw.toList
  let zoned := ((readStrict? cs).bind Reading.utc?).orElse fun _ =>
    (fit? zonedItems cs).bind Reading.utc?
  let found := zoned.orElse fun _ =>
    localPatterns.findSome? fun items => (fit? items cs).bind Reading.local?
  match found with
  | some t => .ok t
  | none =>
    if (dateParts? cs).isSome then (readDate raw).map fun d => ⟨d, .midnight⟩
    else .error (.dateTimeForm raw)

/-- The time of day that a text writes. -/
def readTime? (raw : String) : Option TimeOfDay :=
  let cs := trimChars raw.toList
  [secondItems, minuteItems].findSome? fun items => (fit? items cs).bind Reading.time?

/-- The value of a successful reading, or a cause. -/
def orCause {α : Type} (make : α → Value) (cause : ConversionCause) :
    Option α → Except ConversionCause Value
  | some a => .ok (make a)
  | none => .error cause

/-- The value of a kind that a text writes, or why there is none. -/
def read [DecimalReader] (kind : Kind) (raw : String) : Except ConversionCause Value :=
  match intRange? kind with
  | some (least, greatest) => ofIntText least greatest raw
  | none =>
    match kind with
    | .float => orCause .float (.notFloat raw) (readFloat? (trim raw))
    | .decimal => orCause .decimal (.notDecimal raw) (Decimal.readTyped? (trimChars raw.toList))
    | .boolean => orCause .bool (.notBoolean raw) (readBool? raw)
    | .date => (readDate raw).map .date
    | .dateTime => (readDateTime raw).map .dateTime
    | .time => orCause .time (.timeForm raw) (readTime? raw)
    | .uuid => orCause .uuid (.notUuid raw) (Uuid.read? (trim raw))
    | .json => orCause (fun v => .json v.canonical) .notJson (Json.read? raw)
    | _ => .ok (.text raw)

/-- The value of a kind that a text writes. -/
def convert [DecimalReader] (kind : Kind) (raw : String) : Except ConversionError Value :=
  match read kind raw with
  | .ok v => .ok v
  | .error cause => .error ⟨kind, cause⟩

end Value

end Filterbook
