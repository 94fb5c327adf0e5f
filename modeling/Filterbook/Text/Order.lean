/-!
# Order of texts

Texts compare by their first differing character, by number; a text comes before every longer text
that begins with it. This is the order of the encoded bytes as well.
-/

namespace Filterbook.Text

/-- The comparison of two lists of characters. -/
def compareChars : List Char → List Char → Ordering
  | [], [] => .eq
  | [], _ :: _ => .lt
  | _ :: _, [] => .gt
  | a :: as, b :: bs => (compare a.toNat b.toNat).then (compareChars as bs)

/-- The comparison of two texts. -/
def compareText (a b : String) : Ordering := compareChars a.toList b.toList

/-- The number of bytes that encode a character. -/
def encodedSize (c : Char) : Nat :=
  if c.toNat < 0x80 then 1 else if c.toNat < 0x800 then 2 else if c.toNat < 0x10000 then 3 else 4

end Filterbook.Text
