import Filterbook.Json.NumberText
import Filterbook.Number.Digits
import Filterbook.Text.Quoted
import Filterbook.Uuid

/-!
# Json tokens

A text is read one character at a time into tokens. A text value may hold any character but a
control; escapes name one character, or half of one above U+FFFF, whose other half must follow.
-/

namespace Filterbook.Json

open Filterbook.Number

/-- A token of Json text. -/
inductive Token where
  /-- An opening brace. -/
  | objectOpen
  /-- A closing brace. -/
  | objectClose
  /-- An opening bracket. -/
  | arrayOpen
  /-- A closing bracket. -/
  | arrayClose
  /-- A colon. -/
  | colon
  /-- A comma. -/
  | comma
  /-- A text between quotes. -/
  | text (s : String)
  /-- A value that is one word or one number. -/
  | atom (value : Json)

/-- What the characters read so far began. The characters of an unfinished token are held in
reverse. -/
inductive Mode where
  /-- Between tokens. -/
  | outside
  /-- In a word. -/
  | word (read : List Char)
  /-- In a number. -/
  | number (read : List Char)
  /-- Between quotes. -/
  | text (read : List Char)
  /-- After a backslash. -/
  | escape (read : List Char)
  /-- In the digits of an escape: the first half already read, the digits so far and their number. -/
  | digits (read : List Char) (high : Option Nat) (value count : Nat)
  /-- After the first half of a character. -/
  | half (read : List Char) (high : Nat)
  /-- After the backslash of a second half. -/
  | halfEscape (read : List Char) (high : Nat)

/-- The blanks of Json text. -/
def isSpace (c : Char) : Bool := c = ' ' || c = '\t' || c = '\n' || c = '\r'

/-- A token begun by a character between tokens, or finished by it. -/
def begin? (c : Char) : Option (List Token × Mode) :=
  match c with
  | '\x7b' => some ([.objectOpen], .outside)
  | '\x7d' => some ([.objectClose], .outside)
  | '[' => some ([.arrayOpen], .outside)
  | ']' => some ([.arrayClose], .outside)
  | ':' => some ([.colon], .outside)
  | ',' => some ([.comma], .outside)
  | '"' => some ([], .text [])
  | c =>
    if isSpace c then some ([], .outside)
    else if isDigit c || c = '-' then some ([], .number [c])
    else if 'a' ≤ c && c ≤ 'z' then some ([], .word [c])
    else none

/-- The value of a word. -/
def wordValue? (letters : List Char) : Option Json :=
  if letters = "true".toList then some (.bool true)
  else if letters = "false".toList then some (.bool false)
  else if letters = "null".toList then some .null
  else none

/-- The characters that a number can hold. -/
def isNumberChar (c : Char) : Bool :=
  isDigit c || c = '.' || c = 'e' || c = 'E' || c = '+' || c = '-'

/-- The character named by a letter after a backslash. -/
def escaped? : Char → Option Char
  | '"' => some '"'
  | '\\' => some '\\'
  | '/' => some '/'
  | 'b' => some '\x08'
  | 'f' => some '\x0c'
  | 'n' => some '\n'
  | 'r' => some '\r'
  | 't' => some '\t'
  | _ => none

/-- What follows the four digits of an escape. -/
def afterDigits? (read : List Char) : (high : Option Nat) → (unit : Nat) → Option Mode
  | none, unit =>
    if 0xD800 ≤ unit && unit < 0xDC00 then some (.half read unit)
    else if 0xDC00 ≤ unit && unit < 0xE000 then none
    else some (.text (Char.ofNat unit :: read))
  | some high, unit =>
    if 0xDC00 ≤ unit && unit < 0xE000 then
      some (.text (Char.ofNat (0x10000 + (high - 0xD800) * 0x400 + (unit - 0xDC00)) :: read))
    else none

/-- One character read, with the tokens that it finishes. -/
def Mode.step? (mode : Mode) (c : Char) : Option (List Token × Mode) :=
  match mode with
  | outside => begin? c
  | word read =>
    if 'a' ≤ c && c ≤ 'z' then some ([], word (c :: read))
    else do
      let value ← wordValue? read.reverse
      let (tokens, mode) ← begin? c
      some (.atom value :: tokens, mode)
  | number read =>
    if isNumberChar c then some ([], number (c :: read))
    else do
      let value ← readNumber? read.reverse
      let (tokens, mode) ← begin? c
      some (.atom (.num value) :: tokens, mode)
  | text read =>
    if c = '"' then some ([.text (String.ofList read.reverse)], outside)
    else if c = '\\' then some ([], escape read)
    else if c.toNat < 0x20 then none
    else some ([], text (c :: read))
  | escape read =>
    if c = 'u' then some ([], digits read none 0 0)
    else (escaped? c).map fun e => ([], text (e :: read))
  | digits read high value count => do
    let d ← Uuid.hexValue? c
    let value := 16 * value + d
    if count = 3 then (afterDigits? read high value).map fun mode => ([], mode)
    else some ([], digits read high value (count + 1))
  | half read high => if c = '\\' then some ([], halfEscape read high) else none
  | halfEscape read high => if c = 'u' then some ([], digits read (some high) 0 0) else none

/-- The token that the end of the text finishes. -/
def Mode.finish? : Mode → Option (List Token)
  | outside => some []
  | word read => (wordValue? read.reverse).map fun v => [.atom v]
  | number read => (readNumber? read.reverse).map fun n => [.atom (.num n)]
  | _ => none

/-- The tokens of the characters that follow. -/
def tokensFrom? : Mode → List Char → Option (List Token)
  | mode, [] => mode.finish?
  | mode, c :: cs => do
    let (tokens, mode) ← mode.step? c
    (← tokensFrom? mode cs) |> (tokens ++ ·) |> some

end Filterbook.Json
