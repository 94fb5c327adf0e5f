import Filterbook.Toml.Scalar
import Filterbook.Toml.Table

/-!
# Reading Toml documents

A document is a sequence of lines: headers, keys with their values, comments and blank lines. It is
read into the same tree as Json text, members in the order that tables take.
-/

namespace Filterbook.Toml

open Filterbook.Number

/-- The bound on nested arrays and inline tables, and on the names of one dotted key. -/
def nestingLimit : Nat := 80

/-- A character of a name without quotes. -/
def isBareChar (c : Char) : Bool := c.isAlphanum || c = '-' || c = '_'

/-- One name of a key, in quotes or without. -/
def takeName? (cs : List Char) : Option (String × List Char) :=
  match takeLine? cs with
  | some named => some named
  | none =>
    let bare := cs.takeWhile isBareChar
    if bare.isEmpty then none else some (String.ofList bare, cs.drop bare.length)

/-- A key: names with points between them and spaces around each. -/
def takeKey? : (fuel : Nat) → List Char → Option (List String × List Char)
  | 0, _ => none
  | fuel + 1, cs => do
    let (name, rest) ← takeName? (dropSpaces cs)
    match dropSpaces rest with
    | '.' :: rest =>
      let (names, rest) ← takeKey? fuel rest
      some (name :: names, rest)
    | rest => some ([name], rest)

/-- A key of fewer names than the nesting limit. -/
def takeShortKey? (cs : List Char) : Option (List String × List Char) := do
  let (names, rest) ← takeKey? (cs.length + 1) cs
  if names.length < nestingLimit then some (names, rest) else none

/-- The rest after a comment at the front, if there is one. -/
def dropComment (cs : List Char) : List Char :=
  match cs with
  | '#' :: cs => cs.dropWhile isPlain
  | cs => cs

/-- The rest after blanks, line ends and comments. -/
def dropTrivia : (fuel : Nat) → List Char → List Char
  | 0, cs => cs
  | fuel + 1, cs =>
    match dropComment (dropSpaces cs) with
    | [] => []
    | c :: rest =>
      match afterNewline? (c :: rest) with
      | some rest => dropTrivia fuel rest
      | none => c :: rest

/-- The rest after all blanks, line ends and comments. -/
def skipTrivia (cs : List Char) : List Char := dropTrivia (cs.length + 1) cs

mutual

/-- A value at a nesting depth. -/
def takeValue? : (fuel : Nat) → (depth : Nat) → List Char → Option (Json × List Char)
  | 0, _, _ => none
  | fuel + 1, depth, cs =>
    match cs with
    | '[' :: cs =>
      if depth + 1 < nestingLimit then
        (takeItems? fuel (depth + 1) cs).map fun (items, rest) => (.arr items, rest)
      else none
    | '\x7b' :: cs =>
      if depth + 1 < nestingLimit then
        match dropSpaces cs with
        | '\x7d' :: rest => some (.obj [], rest)
        | cs => (takePairs? fuel (depth + 1) [] cs).map fun (members, rest) =>
            (.obj (Item.membersToJson members), rest)
      else none
    | cs => takeScalar? cs

/-- The rest of an array: items with commas between them, and one more comma at will. -/
def takeItems? : (fuel : Nat) → (depth : Nat) → List Char → Option (List Json × List Char)
  | 0, _, _ => none
  | fuel + 1, depth, cs =>
    match skipTrivia cs with
    | ']' :: rest => some ([], rest)
    | cs => do
      let (item, rest) ← takeValue? fuel depth cs
      match skipTrivia rest with
      | ']' :: rest => some ([item], rest)
      | ',' :: rest =>
        let (items, rest) ← takeItems? fuel depth rest
        some (item :: items, rest)
      | _ => none

/-- The rest of an inline table: keys and values with commas between them, on one line. -/
def takePairs? : (fuel : Nat) → (depth : Nat) → Members → List Char → Option (Members × List Char)
  | 0, _, _, _ => none
  | fuel + 1, depth, members, cs => do
    let (path, rest) ← takeShortKey? cs
    match rest with
    | '=' :: rest =>
      let (v, rest) ← takeValue? fuel depth (dropSpaces rest)
      let members ← assign? path v members
      match dropSpaces rest with
      | '\x7d' :: rest => some (members, rest)
      | ',' :: rest => takePairs? fuel depth members rest
      | _ => none
    | _ => none

end

/-- The rest after the end of a line, which may hold spaces and a comment. -/
def afterLine? (cs : List Char) : Option (List Char) :=
  match dropComment (dropSpaces cs) with
  | [] => some []
  | rest => afterNewline? rest

/-- One line read into a document. -/
def takeLineOf? (d : Draft) (cs : List Char) : Option (Draft × List Char) :=
  match cs with
  | '[' :: '[' :: cs => do
    let (path, rest) ← takeShortKey? cs
    let rest ← afterWord? "]]" rest
    some (← d.startElement? path, ← afterLine? rest)
  | '[' :: cs => do
    let (path, rest) ← takeShortKey? cs
    let rest ← afterWord? "]" rest
    some (← d.startTable? path, ← afterLine? rest)
  | '#' :: cs => do some (d, ← afterLine? ('#' :: cs))
  | '\n' :: cs => some (d, cs)
  | '\r' :: cs => do some (d, ← afterNewline? ('\r' :: cs))
  | cs => do
    let (path, rest) ← takeShortKey? cs
    match rest with
    | '=' :: rest =>
      let (v, rest) ← takeValue? (2 * rest.length + 2) 0 (dropSpaces rest)
      some (← d.assign? path v, ← afterLine? rest)
    | _ => none

/-- All lines read into a document. -/
def takeLines? : (fuel : Nat) → Draft → List Char → Option Draft
  | 0, _, _ => none
  | fuel + 1, d, cs =>
    match dropSpaces cs with
    | [] => some d
    | cs => (takeLineOf? d cs).bind fun (d, rest) => takeLines? fuel d rest

/-- The tree of a document. A byte order mark at the front does not count. -/
def read? (s : String) : Option Json := do
  let cs := match s.toList with
    | '\uFEFF' :: cs => cs
    | cs => cs
  let d ← takeLines? (cs.length + 1) .empty cs
  some (.obj (Item.membersToJson (← d.close?)))

end Filterbook.Toml
