import Filterbook.Calendar.Pattern
import Filterbook.Json.Basic
import Filterbook.Number.FloatText
import Filterbook.Text.Split
import Filterbook.Uuid

/-!
# Toml scalars

Texts, numbers, truth values and date-times at the front of a list of characters. Each reader gives
the value and what follows it. A date-time has no counterpart in Json; it stands as an object with a
member of its own.
-/

namespace Filterbook.Toml

open Filterbook.Number Filterbook.Calendar

/-- The rest of the characters after `word`. -/
def afterWord? (word : String) (cs : List Char) : Option (List Char) :=
  Text.after? word.toList cs

/-- A space or a tab. -/
def isSpace (c : Char) : Bool := c = ' ' || c = '\t'

/-- The characters after any spaces and tabs. -/
def dropSpaces (cs : List Char) : List Char := cs.dropWhile isSpace

/-- The rest after a line end, which is a line feed alone or after a carriage return. -/
def afterNewline? : List Char → Option (List Char)
  | '\n' :: cs => some cs
  | '\r' :: '\n' :: cs => some cs
  | _ => none

/-- A character that may stand in a comment: anything but controls other than the tab. -/
def isPlain (c : Char) : Bool := c = '\t' || (0x20 ≤ c.toNat && c.toNat ≠ 0x7F)

/-- A character that stands for itself in a text between quotes. -/
def isUnescaped (c : Char) : Bool := isPlain c && c ≠ '"' && c ≠ '\\'

/-- A fixed number of hexadecimal digits that name a character. -/
def takeCodePoint? (width : Nat) (cs : List Char) : Option (Char × List Char) := do
  let digits := cs.take width
  if digits.length ≠ width then none
  else
    let n ← Uuid.readHex? digits
    if n < 0xD800 || (0xDFFF < n && n < 0x110000) then some (Char.ofNat n, cs.drop width) else none

/-- The character of an escape, after its backslash. -/
def takeEscape? : List Char → Option (Char × List Char)
  | 'b' :: cs => some ('\x08', cs)
  | 't' :: cs => some ('\t', cs)
  | 'n' :: cs => some ('\n', cs)
  | 'f' :: cs => some ('\x0c', cs)
  | 'r' :: cs => some ('\r', cs)
  | '"' :: cs => some ('"', cs)
  | '\\' :: cs => some ('\\', cs)
  | 'u' :: cs => takeCodePoint? 4 cs
  | 'U' :: cs => takeCodePoint? 8 cs
  | _ => none

/-- The rest of a text between double quotes, up to its closing quote. -/
def takeBasic? : (fuel : Nat) → List Char → Option (List Char × List Char)
  | 0, _ => none
  | fuel + 1, cs =>
    let more (c : Char) (rest : List Char) :=
      (takeBasic? fuel rest).map fun (text, rest) => (c :: text, rest)
    match cs with
    | [] => none
    | '"' :: rest => some ([], rest)
    | '\\' :: rest => (takeEscape? rest).bind fun (c, rest) => more c rest
    | c :: rest => if isUnescaped c then more c rest else none

/-- The rest of a text between single quotes, up to its closing quote. -/
def takeLiteral? : List Char → Option (List Char × List Char)
  | [] => none
  | c :: cs =>
    if c = '\'' then some ([], cs)
    else if isPlain c then (takeLiteral? cs).map fun (text, rest) => (c :: text, rest)
    else none

/-- A run of three to five quotes closes a text of several lines; those in front of the last three
belong to it. -/
def takeClosing? (quote : Char) (cs : List Char) : Option (List Char × List Char) :=
  let run := (cs.takeWhile (· = quote)).length
  if 3 ≤ run && run ≤ 5 then some (List.replicate (run - 3) quote, cs.drop run) else none

/-- The rest after blanks and line ends. -/
def dropLines : (fuel : Nat) → List Char → List Char
  | 0, cs => cs
  | fuel + 1, cs =>
    match afterNewline? (dropSpaces cs) with
    | some rest => dropLines fuel rest
    | none => dropSpaces cs

/-- The rest after a backslash that ends a line, with all blanks and line ends after it. -/
def afterJoin? (fuel : Nat) (cs : List Char) : Option (List Char) :=
  (afterNewline? (dropSpaces cs)).map (dropLines fuel)

/-- The rest of a text of several lines between double quotes. A line end is one line feed. -/
def takeBasicLines? : (fuel : Nat) → List Char → Option (List Char × List Char)
  | 0, _ => none
  | fuel + 1, cs =>
    let more (c : Char) (rest : List Char) :=
      (takeBasicLines? fuel rest).map fun (text, rest) => (c :: text, rest)
    match takeClosing? '"' cs, afterNewline? cs, cs with
    | some closed, _, _ => some closed
    | none, some rest, _ => more '\n' rest
    | none, none, '\\' :: cs =>
      match afterJoin? fuel cs with
      | some rest => takeBasicLines? fuel rest
      | none => (takeEscape? cs).bind fun (c, rest) => more c rest
    | none, none, '"' :: cs => if ['"', '"', '"'].isPrefixOf ('"' :: cs) then none else more '"' cs
    | none, none, c :: cs => if isUnescaped c then more c cs else none
    | none, none, [] => none

/-- The rest of a text of several lines between single quotes. -/
def takeLiteralLines? : (fuel : Nat) → List Char → Option (List Char × List Char)
  | 0, _ => none
  | fuel + 1, cs =>
    let more (c : Char) (rest : List Char) :=
      (takeLiteralLines? fuel rest).map fun (text, rest) => (c :: text, rest)
    match takeClosing? '\'' cs, afterNewline? cs, cs with
    | some closed, _, _ => some closed
    | none, some rest, _ => more '\n' rest
    | none, none, '\'' :: cs => if ['\'', '\'', '\''].isPrefixOf ('\'' :: cs) then none else more '\'' cs
    | none, none, c :: cs => if isPlain c then more c cs else none
    | none, none, [] => none

/-- A line end directly after the opening quotes does not count. -/
def dropFirstNewline (cs : List Char) : List Char := (afterNewline? cs).getD cs

/-- A text on one line, in quotes of either kind. -/
def takeLine? : List Char → Option (String × List Char)
  | '"' :: cs => (takeBasic? (cs.length + 1) cs).map fun (text, rest) => (String.ofList text, rest)
  | '\'' :: cs => (takeLiteral? cs).map fun (text, rest) => (String.ofList text, rest)
  | _ => none

/-- A text in quotes, on one line or several. -/
def takeText? (cs : List Char) : Option (String × List Char) :=
  let finish (r : Option (List Char × List Char)) : Option (String × List Char) :=
    r.map fun (text, rest) => (String.ofList text, rest)
  match cs with
  | '"' :: '"' :: '"' :: cs => finish (takeBasicLines? (cs.length + 1) (dropFirstNewline cs))
  | '\'' :: '\'' :: '\'' :: cs => finish (takeLiteralLines? (cs.length + 1) (dropFirstNewline cs))
  | cs => takeLine? cs

/-- Digits with single underscores between them, after a first digit; the underscores are left
out. -/
def takeMore (isDigit : Char → Bool) : List Char → List Char × List Char
  | [] => ([], [])
  | [c] => if isDigit c then ([c], []) else ([], [c])
  | c :: d :: cs =>
    if isDigit c then
      let (digits, rest) := takeMore isDigit (d :: cs)
      (c :: digits, rest)
    else if c = '_' && isDigit d then
      let (digits, rest) := takeMore isDigit (d :: cs)
      (digits, rest)
    else ([], c :: d :: cs)

/-- One digit or more. -/
def takeGrouped? (isDigit : Char → Bool) : List Char → Option (List Char × List Char)
  | [] => none
  | c :: cs => if isDigit c then some (takeMore isDigit (c :: cs)) else none

/-- A sign and a whole number without zeros in front. -/
def takeWhole? (cs : List Char) : Option (List Char × List Char) :=
  let (sign, digits) := match cs with
    | '+' :: cs => (['+'], cs)
    | '-' :: cs => (['-'], cs)
    | cs => ([], cs)
  match digits with
  | '0' :: rest => some (sign ++ ['0'], rest)
  | digits => (takeGrouped? isDigit digits).map fun (ds, rest) => (sign ++ ds, rest)

/-- An exponent with its mark. -/
def takeExponent? : List Char → Option (List Char × List Char)
  | [] => none
  | c :: cs =>
    if c = 'e' || c = 'E' then
      let (sign, digits) := match cs with
        | '+' :: cs => (['+'], cs)
        | '-' :: cs => (['-'], cs)
        | cs => ([], cs)
      (takeGrouped? isDigit digits).map fun (ds, rest) => ('e' :: sign ++ ds, rest)
    else none

/-- A number with a fraction or an exponent or both. One too large is refused. -/
def takeFloat? (cs : List Char) : Option (Json × List Char) := do
  let (whole, rest) ← takeWhole? cs
  let (tail, rest) ← match rest with
    | '.' :: rest => do
      let (fraction, rest) ← takeGrouped? isDigit rest
      match takeExponent? rest with
      | some (exponent, rest) => some ('.' :: fraction ++ exponent, rest)
      | none => some ('.' :: fraction, rest)
    | rest => takeExponent? rest
  let x ← readFloat? (String.ofList (whole ++ tail))
  if x = .infinite false then none else some (.num (.float x), rest)

/-- An infinity or no number, with an optional sign. -/
def takeSpecial? (cs : List Char) : Option (Json × List Char) :=
  let (negative, cs) := takeSign cs
  ((afterWord? "inf" cs).map fun rest => (.num (.float (.infinite negative)), rest)).orElse fun _ =>
    (afterWord? "nan" cs).map fun rest => (.num (.float .nan), rest)

/-- The number that digits of a base write. -/
def baseValue (base : Nat) (digits : List Char) : Nat :=
  digits.foldl (fun n c => base * n + (Uuid.hexValue? c).getD 0) 0

/-- An integer of 64 bits in base ten, or in base 16, 8 or 2 after its mark. -/
def takeInteger? (cs : List Char) : Option (Json × List Char) :=
  let inBase (base : Nat) (cs : List Char) : Option (Json × List Char) := do
    let isDigit (c : Char) : Bool := (Uuid.hexValue? c).any (· < base)
    let (digits, rest) ← takeGrouped? isDigit cs
    let n := baseValue base digits
    if inInt64 n then some (.int n, rest) else none
  match cs with
  | '0' :: 'x' :: cs => inBase 16 cs
  | '0' :: 'o' :: cs => inBase 8 cs
  | '0' :: 'b' :: cs => inBase 2 cs
  | cs => do
    let (digits, rest) ← takeWhole? cs
    let n ← readInt? digits
    if inInt64 n then some (.int n, rest) else none

/-- The rest after a day of the calendar. -/
def afterDate? (cs : List Char) : Option (List Char) := do
  let (year, cs) ← takeNumber? 4 4 cs
  let (month, cs) ← takeNumber? 2 2 (← takeMark? '-' cs)
  let (day, cs) ← takeNumber? 2 2 (← takeMark? '-' cs)
  if 1 ≤ day && day ≤ daysInMonth year month then some cs else none

/-- The rest after a fraction of a second, if there is one. -/
def afterFraction (cs : List Char) : List Char :=
  match cs with
  | '.' :: rest => if (rest.takeWhile isDigit).isEmpty then cs else rest.dropWhile isDigit
  | cs => cs

/-- The rest after a time of day. -/
def afterClock? (cs : List Char) : Option (List Char) := do
  let (hour, cs) ← takeNumber? 2 2 cs
  let (minute, cs) ← takeNumber? 2 2 (← takeMark? ':' cs)
  let (second, cs) ← takeNumber? 2 2 (← takeMark? ':' cs)
  if hour < 24 && minute < 60 && second ≤ 60 then some (afterFraction cs) else none

/-- The rest after a zone, if there is one. -/
def afterZone? (cs : List Char) : Option (List Char) :=
  match cs with
  | 'Z' :: cs => some cs
  | 'z' :: cs => some cs
  | c :: rest =>
    if c = '+' || c = '-' then do
      let (hour, rest) ← takeNumber? 2 2 rest
      let (minute, rest) ← takeNumber? 2 2 (← takeMark? ':' rest)
      if hour < 24 && minute < 60 then some rest else none
    else some cs
  | [] => some []

/-- The rest after a date, a time or both. -/
def afterDateTime? (cs : List Char) : Option (List Char) :=
  match afterDate? cs with
  | none => afterClock? cs
  | some rest =>
    match rest with
    | c :: after =>
      if c = 'T' || c = 't' || c = ' ' then
        match afterClock? after with
        | some after => afterZone? after
        | none => some rest
      else some rest
    | [] => some []

/-- The value that stands for a date-time. -/
def dateTime (text : String) : Json := .obj [("$datetime", .str text)]

/-- A date-time. -/
def takeDateTime? (cs : List Char) : Option (Json × List Char) :=
  (afterDateTime? cs).map fun rest =>
    (dateTime (String.ofList (cs.take (cs.length - rest.length))), rest)

/-- A value that is neither array nor table. -/
def takeScalar? (cs : List Char) : Option (Json × List Char) :=
  match cs with
  | [] => none
  | c :: _ =>
    if c = '"' || c = '\'' then (takeText? cs).map fun (s, rest) => (.str s, rest)
    else if c = 't' then (afterWord? "true" cs).map fun rest => (.bool true, rest)
    else if c = 'f' then (afterWord? "false" cs).map fun rest => (.bool false, rest)
    else if c = 'i' || c = 'n' then takeSpecial? cs
    else if c = '+' || c = '-' || isDigit c then
      (takeDateTime? cs).orElse fun _ => (takeFloat? cs).orElse fun _ =>
        (takeSpecial? cs).orElse fun _ => takeInteger? cs
    else none

end Filterbook.Toml
