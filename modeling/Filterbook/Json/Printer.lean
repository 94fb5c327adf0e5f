import Filterbook.Json.NumberText
import Filterbook.Text.Quoted

/-!
# Writing Json text

Values are written without blanks, members in the order that they are held. Only quotes, backslashes
and controls are escaped.
-/

namespace Filterbook.Json

open Filterbook.Number Filterbook.Text

/-- A character between quotes. -/
def textChar (c : Char) : List Char :=
  match c with
  | '"' => ['\\', '"']
  | '\\' => ['\\', '\\']
  | '\x08' => ['\\', 'b']
  | '\x0c' => ['\\', 'f']
  | '\n' => ['\\', 'n']
  | '\r' => ['\\', 'r']
  | '\t' => ['\\', 't']
  | c => if c.toNat < 0x20 then '\\' :: 'u' :: hexPadded 4 c.toNat else [c]

/-- A text between quotes. -/
def textChars (s : String) : List Char := '"' :: s.toList.flatMap textChar ++ ['"']

/-- A number. -/
def numberChars : JsonNumber → List Char
  | .int n => intDigits n
  | .float x => floatLayout.chars x

mutual

/-- A value without blanks. -/
def chars : Json → List Char
  | null => "null".toList
  | bool true => "true".toList
  | bool false => "false".toList
  | num n => numberChars n
  | str s => textChars s
  | arr items => '[' :: itemChars items ++ [']']
  | obj members => '\x7b' :: memberChars members ++ ['\x7d']

/-- Items with commas between them. -/
def itemChars : List Json → List Char
  | [] => []
  | [v] => chars v
  | v :: vs => chars v ++ ',' :: itemChars vs

/-- Members with commas between them. -/
def memberChars : List (String × Json) → List Char
  | [] => []
  | [(name, v)] => textChars name ++ ':' :: chars v
  | (name, v) :: ms => textChars name ++ ':' :: chars v ++ ',' :: memberChars ms

end

/-- The text of a value, without blanks. -/
def text (v : Json) : String := String.ofList v.chars

end Filterbook.Json
