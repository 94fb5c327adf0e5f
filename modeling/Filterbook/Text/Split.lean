/-!
# Searching and splitting

Occurrences of one text in another, always taken from the left and without overlap. A text of no
characters is found at every position and never used as a separator here.
-/

namespace Filterbook.Text

/-- What follows `part` when the characters begin with it. -/
def after? : (part : List Char) → List Char → Option (List Char)
  | [], cs => some cs
  | _ :: _, [] => none
  | p :: part, c :: cs => if p = c then after? part cs else none

/-- `part` occurs somewhere in the characters. -/
def containsChars (part : List Char) : List Char → Bool
  | [] => part.isEmpty
  | c :: cs => (after? part (c :: cs)).isSome || containsChars part cs

/-- `part` occurs somewhere in the text. -/
def contains (part text : String) : Bool := containsChars part.toList text.toList

/-- A character put in front of the first piece. -/
def pushFirst (c : Char) : List (List Char) → List (List Char)
  | [] => [[c]]
  | piece :: pieces => (c :: piece) :: pieces

/-- The pieces between the occurrences of `part`, after passing over `skip` characters that belong
to an occurrence already found. -/
def piecesAfter (part : List Char) : (skip : Nat) → List Char → List (List Char)
  | _, [] => [[]]
  | skip + 1, _ :: cs => piecesAfter part skip cs
  | 0, c :: cs =>
    if (after? part (c :: cs)).isSome then [] :: piecesAfter part (part.length - 1) cs
    else pushFirst c (piecesAfter part 0 cs)

/-- The pieces of the characters between the occurrences of `part`, in order. -/
def splitChars (part cs : List Char) : List (List Char) :=
  if part.isEmpty then [cs] else piecesAfter part 0 cs

/-- The pieces of a text between the occurrences of `part`, in order. -/
def split (part text : String) : List String :=
  (splitChars part.toList text.toList).map String.ofList

/-- Every occurrence of `part` becomes `replacement`. -/
def replaceChars (part replacement cs : List Char) : List Char :=
  List.intercalate replacement (splitChars part cs)

/-- Every occurrence of `part` in a text becomes `replacement`. -/
def replace (part replacement text : String) : String :=
  String.ofList (replaceChars part.toList replacement.toList text.toList)

end Filterbook.Text
