import Filterbook.Text.Order

/-!
# Patterns

Regular expressions over characters, as trees. Classes of characters are sorted lists of ranges of
code points. A pattern has a cost, which grows with the number of times that its parts repeat.
-/

namespace Filterbook.Pattern

/-- A range of code points, both ends included. -/
structure Range where
  /-- The first code point. -/
  low : Nat
  /-- The last code point. -/
  high : Nat
  deriving DecidableEq, Repr

/-- The code point lies in one of the ranges. -/
def inClass (ranges : List Range) (n : Nat) : Bool := ranges.any fun r => r.low ≤ n && n ≤ r.high

/-- The range of a single character. -/
def Range.single (c : Char) : Range := ⟨c.toNat, c.toNat⟩

/-- A range put in its place among sorted ranges. -/
def insertRange (r : Range) : List Range → List Range
  | [] => [r]
  | s :: rest =>
    if r.low < s.low || (r.low = s.low && r.high ≤ s.high) then r :: s :: rest
    else s :: insertRange r rest

/-- Neighbouring and overlapping ranges of a sorted list made one, beginning with `current`. -/
def mergeFrom (current : Range) : List Range → List Range
  | [] => [current]
  | r :: rest =>
    if r.low ≤ current.high + 1 then mergeFrom ⟨current.low, max current.high r.high⟩ rest
    else current :: mergeFrom r rest

/-- The same code points as a sorted list of ranges that do not touch. -/
def normalize (ranges : List Range) : List Range :=
  match ranges.foldl (fun sorted r => insertRange r sorted) [] with
  | [] => []
  | r :: rest => mergeFrom r rest

/-- The code points from `start` on that no range of a sorted list holds. -/
def gapsFrom (start : Nat) : List Range → List Range
  | [] => if start ≤ 0x10FFFF then [⟨start, 0x10FFFF⟩] else []
  | r :: rest =>
    if start < r.low then ⟨start, r.low - 1⟩ :: gapsFrom (r.high + 1) rest
    else gapsFrom (r.high + 1) rest

/-- The code points outside a class. -/
def complement (ranges : List Range) : List Range := gapsFrom 0 ranges

/-- The other case of a range, where it meets the ASCII letters; the lower case is looked at first, and
only one of the two. -/
def Range.otherCase? (r : Range) : Option Range :=
  let low := max r.low 97
  let high := min r.high 122
  let low' := max r.low 65
  let high' := min r.high 90
  if low ≤ high then some ⟨low - 32, high - 32⟩
  else if low' ≤ high' then some ⟨low' + 32, high' + 32⟩
  else none

/-- A class together with the other case of each of its ranges. -/
def foldCase (ranges : List Range) : List Range :=
  normalize (ranges ++ ranges.filterMap Range.otherCase?)

/-- A condition on a place between two characters. -/
inductive Look where
  /-- Before the first character. -/
  | textStart
  /-- After the last character. -/
  | textEnd
  /-- Where a line begins. -/
  | lineStart
  /-- Where a line ends. -/
  | lineEnd
  /-- Where a line begins, a carriage return ending lines too. -/
  | lineStartReturn
  /-- Where a line ends, a carriage return ending lines too. -/
  | lineEndReturn
  /-- Where a word begins or ends. -/
  | word
  /-- Where no word begins or ends. -/
  | notWord
  /-- Where a word begins. -/
  | wordStart
  /-- Where a word ends. -/
  | wordEnd
  /-- Where no word stands before. -/
  | wordStartHalf
  /-- Where no word stands after. -/
  | wordEndHalf
  deriving DecidableEq, Repr

/-- ASCII letters, digits and the underscore. -/
def isWordChar (c : Char) : Bool := c.isAlphanum || c = '_'

/-- The condition holds between these two characters, either of which may be missing at an end. -/
def Look.holds (look : Look) (before after : Option Char) : Bool :=
  let wordBefore := before.any isWordChar
  let wordAfter := after.any isWordChar
  match look with
  | textStart => before.isNone
  | textEnd => after.isNone
  | lineStart => before.all (· = '\n')
  | lineEnd => after.all (· = '\n')
  | lineStartReturn => before.all fun c => c = '\n' || (c = '\r' && after ≠ some '\n')
  | lineEndReturn => after.all fun c => c = '\r' || (c = '\n' && before ≠ some '\r')
  | word => wordBefore != wordAfter
  | notWord => wordBefore == wordAfter
  | wordStart => !wordBefore && wordAfter
  | wordEnd => wordBefore && !wordAfter
  | wordStartHalf => !wordBefore
  | wordEndHalf => !wordAfter

/-- A regular expression. -/
inductive Expr where
  /-- Nothing. -/
  | empty
  /-- One given character. -/
  | char (c : Char)
  /-- One character of a class. -/
  | set (ranges : List Range)
  /-- No character, but a condition on the place. -/
  | look (look : Look)
  /-- An expression a number of times; without a bound when `most` is missing. -/
  | repetition (least : Nat) (most : Option Nat) (body : Expr)
  /-- A group. -/
  | group (body : Expr)
  /-- Expressions one after another. -/
  | concat (parts : List Expr)
  /-- One of several expressions. -/
  | alternation (branches : List Expr)
  deriving Repr, Inhabited

namespace Expr

/-- Expressions one after another; a single one stands for itself. -/
def ofParts : List Expr → Expr
  | [] => empty
  | [e] => e
  | es => concat es

/-- One of several expressions; a single one stands for itself. -/
def ofBranches : List Expr → Expr
  | [e] => e
  | es => alternation es

/-- A repetition; never is nothing, and exactly once is the expression itself. -/
def ofRepetition (least : Nat) (most : Option Nat) (body : Expr) : Expr :=
  if least = 0 && most = some 0 then empty
  else if least = 1 && most = some 1 then body
  else repetition least most body

mutual

/-- The number of nodes on the longest way down. -/
def height : Expr → Nat
  | repetition _ _ body => height body + 1
  | group body => height body + 1
  | concat parts => heights parts + 1
  | alternation branches => heights branches + 1
  | _ => 0

/-- The greatest height of a list of expressions. -/
def heights : List Expr → Nat
  | [] => 0
  | e :: es => max (height e) (heights es)

end

mutual

/-- The expression accepts the empty text somewhere. -/
def acceptsEmpty : Expr → Bool
  | empty => true
  | char _ => false
  | set _ => false
  | look _ => true
  | repetition least _ body => least = 0 || acceptsEmpty body
  | group body => acceptsEmpty body
  | concat parts => allAcceptEmpty parts
  | alternation branches => anyAcceptsEmpty branches

/-- All of the expressions accept the empty text somewhere. -/
def allAcceptEmpty : List Expr → Bool
  | [] => true
  | e :: es => acceptsEmpty e && allAcceptEmpty es

/-- One of the expressions accepts the empty text somewhere. -/
def anyAcceptsEmpty : List Expr → Bool
  | [] => false
  | e :: es => acceptsEmpty e || anyAcceptsEmpty es

end

/-- The cost of a node of the machine that runs a pattern. -/
def nodeCost : Nat := 32

/-- The cost of a choice between two ways. -/
def choiceCost : Nat := nodeCost + 8

mutual

/-- The cost of the machine that runs an expression, which holds a copy of a body for each time that
it may repeat. -/
def cost : Expr → Nat
  | empty => nodeCost
  | char _ => nodeCost
  | set ranges => nodeCost + 8 * ranges.length
  | look _ => nodeCost
  | group body => cost body + 2 * nodeCost
  | concat parts => costs parts
  | alternation branches => costs branches + 4 * branches.length + 2 * nodeCost
  | repetition least none body =>
    if least = 0 then
      if acceptsEmpty body then cost body + 2 * choiceCost + nodeCost else cost body + choiceCost
    else least * cost body + choiceCost
  | repetition least (some most) body =>
    if least = most then max least 1 * cost body
    else least * cost body + (most - least) * (cost body + choiceCost) + 2 * nodeCost

/-- The cost of expressions together. -/
def costs : List Expr → Nat
  | [] => 0
  | e :: es => cost e + costs es

end

/-- The bound on the height of an expression and on the depth of its groups. -/
def nestingLimit : Nat := 50

/-- The bound on the cost of a pattern. -/
def costLimit : Nat := 10 * 1024 * 1024

end Expr

end Filterbook.Pattern
