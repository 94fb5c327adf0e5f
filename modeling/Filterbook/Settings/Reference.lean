import Filterbook.Text.Split

/-!
# References to variables

A text may refer to variables by their names in braces after a dollar sign. The references are those
that stand in the text as it was written. One after another, each that names a known variable has all
of its occurrences replaced, in the text as it is by then; the others stay as they are.
-/

namespace Filterbook.Settings

open Filterbook.Text

/-- How a reference opens. -/
def opening : List Char := ['$', '\x7b']

/-- The name in the reference that the characters begin with. It is not empty and ends at the first
closing brace. -/
def referenceName? (cs : List Char) : Option (List Char) := do
  let rest ← after? opening cs
  let name := rest.takeWhile (· ≠ '\x7d')
  if name.isEmpty || name.length = rest.length then none else some name

/-- The names of the references in the characters, of which the first ones belong to a reference that
is found already. -/
def referencesAfter : (skip : Nat) → List Char → List (List Char)
  | _, [] => []
  | skip + 1, _ :: cs => referencesAfter skip cs
  | 0, c :: cs =>
    match referenceName? (c :: cs) with
    | some name => name :: referencesAfter (name.length + 2) cs
    | none => referencesAfter 0 cs

/-- The names of the references in the characters, from left to right. -/
def references (cs : List Char) : List (List Char) := referencesAfter 0 cs

/-- A reference as it is written. -/
def writtenReference (name : List Char) : List Char := opening ++ name ++ ['\x7d']

/-- The characters with the occurrences of one reference replaced, if its variable is known. -/
def replaceReference (valueOf? : String → Option String) (cs name : List Char) : List Char :=
  match valueOf? (String.ofList name) with
  | some value => replaceChars (writtenReference name) value.toList cs
  | none => cs

/-- The text with its references replaced. -/
def expandReferences (valueOf? : String → Option String) (text : String) : String :=
  String.ofList ((references text.toList).foldl (replaceReference valueOf?) text.toList)

end Filterbook.Settings
