import Filterbook.Text.CaseTable
import Filterbook.Text.LetterTable

/-!
# Case mapping

Full Unicode case mapping. Lowering a text knows one context: a capital sigma that ends a word
becomes the final sigma, and every other character is mapped by itself.
-/

namespace Filterbook.Text

/-- A code point of one of the ranges, both ends included. -/
def inRanges (ranges : List (Nat × Nat)) (n : Nat) : Bool :=
  ranges.any fun (lo, hi) => lo ≤ n && n ≤ hi

/-- The code point that a run of simple mappings gives to `n`, if `n` is a member. -/
def CaseRun.move? (run : CaseRun) (n : Nat) : Option Nat :=
  if run.first ≤ n && n ≤ run.last && (n - run.first) % run.step == 0 then
    some (Int.toNat (n + run.shift))
  else none

/-- A character mapped by a table of simple runs and a table of expansions. -/
def mapCase (runs : List CaseRun) (expansions : List (Nat × List Nat)) (c : Char) : List Char :=
  match runs.findSome? (·.move? c.toNat) with
  | some n => [Char.ofNat n]
  | none =>
    match expansions.lookup c.toNat with
    | some ns => ns.map Char.ofNat
    | none => [c]

/-- The lower-case form of a character by itself. -/
def lowerChar (c : Char) : List Char :=
  if c.toNat < 0x80 then [c.toLower] else mapCase lowerRuns lowerExpansions c

/-- The upper-case form of a character by itself. -/
def upperChar (c : Char) : List Char :=
  if c.toNat < 0x80 then [c.toUpper] else mapCase upperRuns upperExpansions c

/-- The first character that counts when case is judged is a cased one. -/
def meetsCased (cs : List Char) : Bool :=
  match cs.dropWhile fun c => inRanges caseIgnorableRanges c.toNat with
  | [] => false
  | c :: _ => inRanges casedRanges c.toNat

/-- The lower-case form of the characters that follow `before`, which is held in reverse. -/
def lowerAfter : (before : List Char) → List Char → List Char
  | _, [] => []
  | before, c :: cs =>
    if c = 'Σ' then
      (if meetsCased before && !meetsCased cs then 'ς' else 'σ') :: lowerAfter (c :: before) cs
    else lowerChar c ++ lowerAfter (c :: before) cs

/-- The lower-case form of a list of characters. -/
def lowerChars (cs : List Char) : List Char := lowerAfter [] cs

/-- The lower-case form of a text. -/
def lower (s : String) : String := String.ofList (lowerChars s.toList)

/-- The lower-case form of a text in which only ASCII letters are mapped. -/
def lowerAscii (s : String) : String := String.ofList (s.toList.map Char.toLower)

/-- Letters and numbers, of which words are made. -/
def isWordChar (c : Char) : Bool :=
  inRanges alphabeticRanges c.toNat || inRanges numericRanges c.toNat

/-- Each word's first character raised and its other letters lowered. -/
def titleFrom : (inWord : Bool) → List Char → List Char
  | _, [] => []
  | inWord, c :: cs =>
    (if inRanges alphabeticRanges c.toNat then
      (if inWord then lowerChar c else upperChar c)
    else [c]) ++ titleFrom (isWordChar c) cs

end Filterbook.Text
