import Filterbook.Number.Digits
import Filterbook.Text.Quoted
import Filterbook.Text.Order

/-!
# Identifiers of 128 bits

An identifier is read in four forms, plain digits, hyphenated, in braces and as a name, with digits
of either case; it is written hyphenated in lower case.
-/

namespace Filterbook

/-- An identifier of 128 bits. -/
structure Uuid where
  /-- The bits as a number. -/
  value : Nat
  /-- There are 128 of them. -/
  small : value < Number.twoTo 128
  deriving DecidableEq

namespace Uuid

/-- The value of a hexadecimal digit. -/
def hexValue? (c : Char) : Option Nat :=
  let n := c.toNat
  if 48 ≤ n && n ≤ 57 then some (n - 48)
  else if 65 ≤ n && n ≤ 70 then some (n - 55)
  else if 97 ≤ n && n ≤ 102 then some (n - 87)
  else none

/-- The number that hexadecimal digits write. -/
def readHex? (cs : List Char) : Option Nat :=
  cs.foldlM (fun n c => (hexValue? c).map (16 * n + ·)) 0

/-- Exactly 32 hexadecimal digits. -/
def ofDigits? (cs : List Char) : Option Uuid := do
  if cs.length ≠ 32 then none
  else
    let n ← readHex? cs
    if h : n < Number.twoTo 128 then some ⟨n, h⟩ else none

/-- Digits in groups of 8, 4, 4, 4 and 12 with hyphens between them. -/
def ofGroups? (cs : List Char) : Option Uuid :=
  let hyphenAt (i : Nat) : Bool := cs[i]? == some '-'
  if cs.length = 36 && hyphenAt 8 && hyphenAt 13 && hyphenAt 18 && hyphenAt 23 then
    ofDigits? (cs.take 8 ++ (cs.drop 9).take 4 ++ (cs.drop 14).take 4 ++ (cs.drop 19).take 4 ++
      cs.drop 24)
  else none

/-- The characters between an opening and a closing brace. -/
def inBraces? : List Char → Option (List Char)
  | '\x7b' :: cs => if cs.getLast? = some '\x7d' then some cs.dropLast else none
  | _ => none

/-- The characters after the name of the identifier space, in any case. -/
def afterUrn? (cs : List Char) : Option (List Char) :=
  let start := "urn:uuid:".toList
  if (cs.take start.length).map Char.toLower = start then some (cs.drop start.length) else none

/-- The identifier that a text writes in one of the four forms. -/
def read? (s : String) : Option Uuid :=
  let cs := s.toList
  (ofDigits? cs).orElse fun _ => (ofGroups? cs).orElse fun _ =>
    ((inBraces? cs).bind ofGroups?).orElse fun _ => (afterUrn? cs).bind ofGroups?

/-- The digits in groups of 8, 4, 4, 4 and 12. -/
def chars (u : Uuid) : List Char :=
  let ds := Text.hexPadded 32 u.value
  ds.take 8 ++ '-' :: (ds.drop 8).take 4 ++ '-' :: (ds.drop 12).take 4 ++ '-' ::
    (ds.drop 16).take 4 ++ '-' :: ds.drop 20

/-- The text of an identifier. -/
def text (u : Uuid) : String := String.ofList u.chars

/-- The order of two identifiers. -/
def order (a b : Uuid) : Ordering := compare a.value b.value

/-- The identifier with this number, taken modulo the number of identifiers. -/
def ofNat (n : Nat) : Uuid := ⟨n % Number.twoTo 128, Nat.mod_lt _ (by decide)⟩

end Uuid

end Filterbook
