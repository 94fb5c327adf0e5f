import Filterbook.Pattern.Basic
import Filterbook.Number.Digits
import Filterbook.Text.Blank
import Filterbook.Text.Case
import Filterbook.Uuid

/-!
# Reading patterns

The notation of patterns: literals, classes, groups, repetitions, anchors, word boundaries and flags.
Look-around, references to groups and Unicode properties are not part of it. Flags written in a group
last to its end.
-/

namespace Filterbook.Pattern

open Filterbook.Number Filterbook.Text

/-- What flags change. -/
structure Flags where
  /-- ASCII letters match in either case. -/
  ignoreCase : Bool := false
  /-- The anchors look at lines. -/
  manyLines : Bool := false
  /-- The dot takes line ends too. -/
  dotAll : Bool := false
  /-- A carriage return ends a line too. -/
  carriageReturn : Bool := false
  /-- Blanks and comments in the pattern do not count. -/
  verbose : Bool := false

/-- The state of the reading: the flags in force, the names of groups, and what is still to read. -/
structure Scan where
  /-- The flags in force. -/
  flags : Flags
  /-- The names given to groups so far. -/
  names : List (List Char)
  /-- What is still to read. -/
  rest : List Char

/-- The rest after blanks and comments. -/
def dropRemarks : (fuel : Nat) → List Char → List Char
  | 0, cs => cs
  | fuel + 1, cs =>
    match dropBlanks cs with
    | '#' :: cs => dropRemarks fuel ((cs.dropWhile (· ≠ '\n')).drop 1)
    | cs => cs

/-- The rest after what does not count under the flags. -/
def Flags.skip (flags : Flags) (cs : List Char) : List Char :=
  if flags.verbose then dropRemarks (cs.length + 1) cs else cs

/-- The character after the current one that counts, as far as a range in a class looks. -/
def Flags.peek (flags : Flags) (cs : List Char) : Option Char :=
  if flags.verbose then
    match dropBlanks cs with
    | '#' :: cs => (dropBlanks cs).head?
    | cs => cs.head?
  else cs.head?

/-- The classes that have a name, as lists of first and last characters. -/
def namedClass? (name : List Char) : Option (List Range) :=
  let ranges (pairs : List (Char × Char)) : Option (List Range) :=
    some (normalize (pairs.map fun (a, b) => ⟨a.toNat, b.toNat⟩))
  match String.ofList name with
  | "alnum" => ranges [('0', '9'), ('A', 'Z'), ('a', 'z')]
  | "alpha" => ranges [('A', 'Z'), ('a', 'z')]
  | "ascii" => ranges [('\x00', '\x7F')]
  | "blank" => ranges [('\t', '\t'), (' ', ' ')]
  | "cntrl" => ranges [('\x00', '\x1F'), ('\x7F', '\x7F')]
  | "digit" => ranges [('0', '9')]
  | "graph" => ranges [('!', '~')]
  | "lower" => ranges [('a', 'z')]
  | "print" => ranges [(' ', '~')]
  | "punct" => ranges [('!', '/'), (':', '@'), ('[', '\x60'), ('\x7b', '~')]
  | "space" => ranges [('\t', '\r'), (' ', ' ')]
  | "upper" => ranges [('A', 'Z')]
  | "word" => ranges [('0', '9'), ('A', 'Z'), ('_', '_'), ('a', 'z')]
  | "xdigit" => ranges [('0', '9'), ('A', 'F'), ('a', 'f')]
  | _ => none

/-- The class of a backslash and one of the letters `d`, `s` and `w`; a capital means the opposite. -/
def letterClass? : Char → Option (List Range)
  | 'd' => namedClass? "digit".toList
  | 's' => namedClass? "space".toList
  | 'w' => namedClass? "word".toList
  | 'D' => (namedClass? "digit".toList).map complement
  | 'S' => (namedClass? "space".toList).map complement
  | 'W' => (namedClass? "word".toList).map complement
  | _ => none

/-- One character, in either case when the flags say so. -/
def Flags.charExpr (flags : Flags) (c : Char) : Expr :=
  match (Range.single c).otherCase? with
  | some other => if flags.ignoreCase then .set (normalize [.single c, other]) else .char c
  | none => .char c

/-- The dot: any character but the line ends. -/
def Flags.dotExpr (flags : Flags) : Expr :=
  if flags.dotAll then .set (complement [])
  else if flags.carriageReturn then .set (complement [⟨10, 10⟩, ⟨13, 13⟩])
  else .set (complement [⟨10, 10⟩])

/-- The anchor of a beginning. -/
def Flags.startLook (flags : Flags) : Look :=
  if flags.manyLines then if flags.carriageReturn then .lineStartReturn else .lineStart
  else .textStart

/-- The anchor of an end. -/
def Flags.endLook (flags : Flags) : Look :=
  if flags.manyLines then if flags.carriageReturn then .lineEndReturn else .lineEnd else .textEnd

/-- The character with a number, unless there is none. -/
def charOf? (n : Nat) : Option Char :=
  if n < 0xD800 || (0xDFFF < n && n < 0x110000) then some (Char.ofNat n) else none

/-- A fixed number of hexadecimal digits added to those read. -/
def takeHex? (flags : Flags) : (count value : Nat) → List Char → Option (Nat × List Char)
  | 0, value, cs => some (value, cs)
  | count + 1, value, cs =>
    match cs with
    | [] => none
    | c :: cs => do takeHex? flags count (16 * value + (← Uuid.hexValue? c)) (flags.skip cs)

/-- Hexadecimal digits up to a closing brace; `count` of them were read. -/
def takeHexBrace? (flags : Flags) : (fuel count value : Nat) → List Char → Option (Nat × List Char)
  | 0, _, _, _ => none
  | fuel + 1, count, value, cs =>
    match cs with
    | [] => none
    | c :: cs =>
      if c = '\x7d' then if count = 0 then none else some (value, flags.skip cs)
      else do takeHexBrace? flags fuel (count + 1) (16 * value + (← Uuid.hexValue? c)) (flags.skip cs)

/-- The character of an escape by number, after its letter. -/
def takeNumbered? (flags : Flags) (letter : Char) (cs : List Char) : Option (Expr × List Char) := do
  let cs := flags.skip cs
  let (n, rest) ← match cs with
    | '\x7b' :: cs => takeHexBrace? flags (cs.length + 1) 0 0 (flags.skip cs)
    | cs => takeHex? flags (if letter = 'x' then 2 else if letter = 'u' then 4 else 8) 0 cs
  some (flags.charExpr (← charOf? n), rest)

/-- A character that a backslash makes literal: ASCII, neither letter nor digit, nor a bracket of
angles. -/
def isEscapable (c : Char) : Bool :=
  c.toNat < 0x80 && !c.isAlphanum && c ≠ '<' && c ≠ '>'

/-- The letters of a special boundary in braces. -/
def takeBoundaryName (flags : Flags) : (fuel : Nat) → List Char → List Char × List Char
  | 0, cs => ([], cs)
  | fuel + 1, cs =>
    match cs with
    | [] => ([], [])
    | c :: rest =>
      if c.isAlpha || c = '-' then
        let (name, rest) := takeBoundaryName flags fuel (flags.skip rest)
        (c :: name, rest)
      else ([], c :: rest)

/-- A word boundary, after its letter: plain, or one of four kinds named in braces. Braces that begin
with anything but a letter or a hyphen belong to a repetition. -/
def takeBoundary? (flags : Flags) (cs : List Char) : Option (Expr × List Char) :=
  match cs with
  | '\x7b' :: inner =>
    match flags.skip inner with
    | [] => none
    | c :: more =>
      if c.isAlpha || c = '-' then
        let (name, rest) := takeBoundaryName flags (more.length + 2) (c :: more)
        match rest with
        | '\x7d' :: rest =>
          match String.ofList name with
          | "start" => some (.look .wordStart, rest)
          | "end" => some (.look .wordEnd, rest)
          | "start-half" => some (.look .wordStartHalf, rest)
          | "end-half" => some (.look .wordEndHalf, rest)
          | _ => none
        | _ => none
      else some (.look .word, cs)
  | cs => some (.look .word, cs)

/-- What an escape stands for, after its backslash. -/
def takeEscape? (flags : Flags) : List Char → Option (Expr × List Char)
  | [] => none
  | c :: cs =>
    if c = 'x' || c = 'u' || c = 'U' then takeNumbered? flags c cs
    else
      match letterClass? c with
      | some ranges => some (.set ranges, cs)
      | none =>
        if isEscapable c then some (flags.charExpr c, cs)
        else match c with
          | 'a' => some (flags.charExpr '\x07', cs)
          | 'f' => some (flags.charExpr '\x0c', cs)
          | 't' => some (flags.charExpr '\t', cs)
          | 'n' => some (flags.charExpr '\n', cs)
          | 'r' => some (flags.charExpr '\r', cs)
          | 'v' => some (flags.charExpr '\x0b', cs)
          | 'A' => some (.look .textStart, cs)
          | 'z' => some (.look .textEnd, cs)
          | 'b' => takeBoundary? flags cs
          | 'B' => some (.look .notWord, cs)
          | '<' => some (.look .wordStart, cs)
          | '>' => some (.look .wordEnd, cs)
          | _ => none

/-- One member of a class: a character or an escape. -/
def takeClassItem? (flags : Flags) : List Char → Option (Expr × List Char)
  | [] => none
  | '\\' :: cs => takeEscape? flags cs
  | c :: cs => some (.char c, cs)

/-- The ranges that a member adds to a class. -/
def itemRanges? : Expr → Option (List Range)
  | .char c => some [.single c]
  | .set ranges => some ranges
  | _ => none

/-- The one character that a member is. -/
def itemChar? : Expr → Option Char
  | .char c => some c
  | _ => none

/-- A named class in brackets and colons within a class, if it is well formed. -/
def takeNamedClass? : List Char → Option (List Range × List Char)
  | '[' :: ':' :: cs => do
    let (negated, cs) := match cs with
      | '^' :: cs => (true, cs)
      | cs => (false, cs)
    let name := cs.takeWhile (· ≠ ':')
    match cs.drop name.length with
    | ':' :: ']' :: rest =>
      let ranges ← namedClass? name
      some (if negated then complement ranges else ranges, rest)
    | _ => none
  | _ => none

/-- A member or a range of a class. -/
def takeClassRange? (flags : Flags) (cs : List Char) : Option (List Range × List Char) := do
  let (first, rest) ← takeClassItem? flags cs
  match flags.skip rest with
  | [] => none
  | '-' :: after =>
    if flags.peek after = some ']' || flags.peek after = some '-' then
      some (← itemRanges? first, '-' :: after)
    else
      let (last, rest) ← takeClassItem? flags (flags.skip after)
      let low ← itemChar? first
      let high ← itemChar? last
      if low ≤ high then some ([⟨low.toNat, high.toNat⟩], rest) else none
  | rest => some (← itemRanges? first, rest)

/-- The members of a class up to its closing bracket, added to those read. -/
def takeMembers? (flags : Flags) : (fuel : Nat) → List Range → List Char →
    Option (List Range × List Char)
  | 0, _, _ => none
  | fuel + 1, ranges, cs =>
    match flags.skip cs with
    | [] => none
    | ']' :: rest => some (ranges, rest)
    | '[' :: rest => do
      let (named, rest) ← takeNamedClass? ('[' :: rest)
      takeMembers? flags fuel (ranges ++ named) rest
    | c :: rest =>
      if (c = '&' || c = '-' || c = '~') && rest.head? = some c then none
      else do
        let (more, rest) ← takeClassRange? flags (c :: rest)
        takeMembers? flags fuel (ranges ++ more) rest

/-- Hyphens at the beginning of a class, which stand for themselves. -/
def takeHyphens (flags : Flags) : (fuel : Nat) → List Char → List Range × List Char
  | 0, cs => ([], cs)
  | fuel + 1, cs =>
    match cs with
    | '-' :: rest =>
      let (ranges, rest) := takeHyphens flags fuel (flags.skip rest)
      (.single '-' :: ranges, rest)
    | cs => ([], cs)

/-- A class, after its opening bracket. Case is folded before the opposite is taken. -/
def takeClass? (flags : Flags) (cs : List Char) : Option (Expr × List Char) := do
  let cs := flags.skip cs
  let (negated, cs) := match cs with
    | '^' :: cs => (true, flags.skip cs)
    | cs => (false, cs)
  let (hyphens, cs) := takeHyphens flags cs.length cs
  let (first, cs) := match hyphens, cs with
    | [], ']' :: cs => ([Range.single ']'], flags.skip cs)
    | hyphens, cs => (hyphens, cs)
  let (ranges, rest) ← takeMembers? flags (cs.length + 1) first cs
  let ranges := normalize ranges
  let ranges := if flags.ignoreCase then foldCase ranges else ranges
  some (.set (if negated then complement ranges else ranges), rest)

/-- The digits of a count. -/
def takeCountDigits (flags : Flags) : (fuel : Nat) → List Char → List Char × List Char
  | 0, cs => ([], cs)
  | fuel + 1, cs =>
    match cs with
    | [] => ([], [])
    | c :: rest =>
      if isDigit c then
        let (digits, rest) := takeCountDigits flags fuel (flags.skip rest)
        (c :: digits, rest)
      else ([], c :: rest)

/-- A count with blanks around it, below `2 ^ 32`. -/
def takeCount? (flags : Flags) (cs : List Char) : Option (Nat × List Char) := do
  let cs := dropBlanks cs
  let (digits, rest) := takeCountDigits flags cs.length cs
  let n ← readDigits? digits
  let rest := dropBlanks rest
  if n < twoTo 32 then some (n, if rest = [] then rest else flags.skip rest) else none

/-- A question mark after a repetition, which changes no answer. -/
def dropLazy (flags : Flags) (cs : List Char) : List Char :=
  match flags.skip cs with
  | '?' :: cs => cs
  | cs => cs

/-- The bounds of a repetition in braces, after the opening brace. -/
def takeBounds? (flags : Flags) (cs : List Char) : Option (Nat × Option Nat × List Char) := do
  let (least, rest) ← takeCount? flags (flags.skip cs)
  let (most, rest) ← match rest with
    | ',' :: rest =>
      match flags.skip rest with
      | '\x7d' :: rest => some (none, '\x7d' :: rest)
      | rest => (takeCount? flags rest).map fun (most, rest) => (some most, rest)
    | rest => some (some least, rest)
  match rest with
  | '\x7d' :: rest =>
    if most.all (least ≤ ·) then some (least, most, dropLazy flags rest) else none
  | _ => none

/-- A repetition taken of the latest expression; the expressions are held in reverse. -/
def repeatLast? (least : Nat) (most : Option Nat) : List Expr → Option (List Expr)
  | [] => none
  | e :: es => some (.ofRepetition least most e :: es)

/-- A letter may begin the name of a group. -/
def isNameStart (c : Char) : Bool := c = '_' || inRanges alphabeticRanges c.toNat

/-- The characters in the name of a group. -/
def isNameChar (c : Char) : Bool :=
  c = '_' || c = '.' || c = '[' || c = ']' || Text.isWordChar c

/-- The name of a group up to its closing angle; no two groups share one. -/
def takeGroupName? (scan : Scan) (cs : List Char) : Option Scan :=
  let name := cs.takeWhile (· ≠ '>')
  match name, cs.drop name.length with
  | c :: more, '>' :: rest =>
    if isNameStart c && more.all isNameChar && !scan.names.contains name then
      some { scan with names := name :: scan.names, rest := rest }
    else none
  | _, _ => none

/-- One flag switched on or off. -/
def Flags.set? (flags : Flags) (letter : Char) (on : Bool) : Option Flags :=
  match letter with
  | 'i' => some { flags with ignoreCase := on }
  | 'm' => some { flags with manyLines := on }
  | 's' => some { flags with dotAll := on }
  | 'R' => some { flags with carriageReturn := on }
  | 'x' => some { flags with verbose := on }
  | 'U' => some flags
  | 'u' => some flags
  | _ => none

/-- Flags up to a colon or a closing parenthesis, which is left in place. No flag comes twice, and one
hyphen at most, which a flag must follow. -/
def takeFlags? (flags : Flags) (off : Bool) (seen : List Char) : List Char →
    Option (Flags × List Char)
  | [] => none
  | c :: cs =>
    if c = ':' || c = ')' then if seen.head? = some '-' then none else some (flags, c :: cs)
    else if seen.contains c then none
    else if c = '-' then takeFlags? flags true ('-' :: seen) cs
    else (flags.set? c (!off)).bind fun flags => takeFlags? flags off (c :: seen) cs

/-- What an opening parenthesis begins. -/
inductive Opening where
  /-- A group with a number and perhaps a name. -/
  | group (scan : Scan)
  /-- A group without a number. -/
  | plain (scan : Scan)
  /-- Flags that last to the end of the group around them. -/
  | flags (scan : Scan)

/-- What an opening parenthesis begins, after it. -/
def takeOpening? (scan : Scan) : Option Opening :=
  let cs := scan.flags.skip scan.rest
  match cs with
  | '?' :: 'P' :: '<' :: rest => (takeGroupName? scan rest).map .group
  | '?' :: '<' :: rest =>
    if rest.head? = some '=' || rest.head? = some '!' then none
    else (takeGroupName? scan rest).map .group
  | '?' :: rest => do
    let (flags, after) ← takeFlags? scan.flags false [] rest
    match after with
    | ')' :: _ =>
      if rest.head? = some ')' then none
      else some (.flags { scan with flags := flags, rest := after })
    | _ :: after => some (.plain { scan with flags := flags, rest := after })
    | [] => none
  | cs => some (.group { scan with rest := cs })

/-- The end of a group, with the flags as they were before it. -/
def closeGroup? (flags : Flags) (scan : Scan) : Option Scan :=
  match scan.rest with
  | ')' :: rest => some { scan with flags := flags, rest := rest }
  | _ => none

/-- Expressions and branches up to the end of the group or the pattern. The parts of the current
branch and the finished branches are held in reverse. -/
def takeExpr? : (fuel depth : Nat) → (branches parts : List Expr) → Scan → Option (Expr × Scan)
  | 0, _, _, _, _ => none
  | fuel + 1, depth, branches, parts, scan =>
    let finish (scan : Scan) : Option (Expr × Scan) :=
      some (.ofBranches (.ofParts parts.reverse :: branches).reverse, scan)
    let push (e : Expr) (rest : List Char) : Option (Expr × Scan) :=
      takeExpr? fuel depth branches (e :: parts) { scan with rest := rest }
    let again (least : Nat) (most : Option Nat) (rest : List Char) : Option (Expr × Scan) :=
      (repeatLast? least most parts).bind fun parts =>
        takeExpr? fuel depth branches parts { scan with rest := rest }
    match scan.flags.skip scan.rest with
    | [] => finish { scan with rest := [] }
    | ')' :: rest => if depth = 0 then none else finish { scan with rest := ')' :: rest }
    | '|' :: rest =>
      takeExpr? fuel depth (.ofParts parts.reverse :: branches) [] { scan with rest := rest }
    | '(' :: rest => do
      match ← takeOpening? { scan with rest := rest } with
      | .flags inner => takeExpr? fuel depth branches parts (← closeGroup? inner.flags inner)
      | .plain inner =>
        if depth + 1 > Expr.nestingLimit then none
        else
          let (e, inner) ← takeExpr? fuel (depth + 1) [] [] inner
          takeExpr? fuel depth branches (e :: parts) (← closeGroup? scan.flags inner)
      | .group inner =>
        if depth + 1 > Expr.nestingLimit then none
        else
          let (e, inner) ← takeExpr? fuel (depth + 1) [] [] inner
          takeExpr? fuel depth branches (.group e :: parts) (← closeGroup? scan.flags inner)
    | '[' :: rest => (takeClass? scan.flags rest).bind fun (e, rest) => push e rest
    | '?' :: rest => again 0 (some 1) (dropLazy scan.flags rest)
    | '*' :: rest => again 0 none (dropLazy scan.flags rest)
    | '+' :: rest => again 1 none (dropLazy scan.flags rest)
    | '\x7b' :: rest =>
      (takeBounds? scan.flags rest).bind fun (least, most, rest) => again least most rest
    | '\\' :: rest => (takeEscape? scan.flags rest).bind fun (e, rest) => push e rest
    | '.' :: rest => push scan.flags.dotExpr rest
    | '^' :: rest => push (.look scan.flags.startLook) rest
    | '$' :: rest => push (.look scan.flags.endLook) rest
    | c :: rest => push (scan.flags.charExpr c) rest

/-- The expression that a pattern writes, if it is well formed and within the limits. The case of ASCII
letters may be ignored from the start. -/
def read? (ignoreCase : Bool) (pattern : String) : Option Expr := do
  let cs := pattern.toList
  let (e, _) ← takeExpr? (cs.length + 2) 0 [] [] ⟨{ ignoreCase := ignoreCase }, [], cs⟩
  if e.height ≤ Expr.nestingLimit && e.cost ≤ Expr.costLimit then some e else none

end Filterbook.Pattern
