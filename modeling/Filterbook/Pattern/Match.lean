import Filterbook.Pattern.Basic
import Filterbook.Number.Power

/-!
# Matching patterns

A pattern takes a set of places in a text to the set of places that it can reach from them. Sets of
places are numbers whose bits stand for the places, the lowest for the place before the text. A
pattern occurs in a text when it reaches any place from all of them.
-/

namespace Filterbook.Pattern

/-- The places after which a character of a kind stands. -/
def charPlaces (test : Char → Bool) : List Char → Nat
  | [] => 0
  | c :: cs => (if test c then 1 else 0) + 2 * charPlaces test cs

/-- The places where a condition holds; `before` is the character in front. -/
def lookPlaces (look : Look) : (before : Option Char) → List Char → Nat
  | before, [] => if look.holds before none then 1 else 0
  | before, c :: cs =>
    (if look.holds before (some c) then 1 else 0) + 2 * lookPlaces look (some c) cs

/-- An expression with every test on characters replaced by the places of one text. -/
inductive Walk where
  /-- Stay. -/
  | stay
  /-- Stay nowhere. -/
  | stop
  /-- Pass over one character at these places. -/
  | pass (places : Nat)
  /-- Stay at these places. -/
  | check (places : Nat)
  /-- One walk, then another. -/
  | andThen (first second : Walk)
  /-- One walk or another. -/
  | either (first second : Walk)
  /-- A walk a number of times. -/
  | repeated (least : Nat) (most : Option Nat) (body : Walk)

mutual

/-- The walk of an expression over a text. -/
def Expr.walk (text : List Char) : Expr → Walk
  | .empty => .stay
  | .char c => .pass (charPlaces (· = c) text)
  | .set ranges => .pass (charPlaces (fun c => inClass ranges c.toNat) text)
  | .look l => .check (lookPlaces l none text)
  | .repetition least most body => .repeated least most (body.walk text)
  | .group body => body.walk text
  | .concat parts => walkAll text parts
  | .alternation branches => walkAny text branches

/-- The walks of expressions one after another. -/
def Expr.walkAll (text : List Char) : List Expr → Walk
  | [] => .stay
  | e :: es => .andThen (e.walk text) (walkAll text es)

/-- The walks of expressions side by side. -/
def Expr.walkAny (text : List Char) : List Expr → Walk
  | [] => .stop
  | e :: es => .either (e.walk text) (walkAny text es)

end

/-- A step taken a number of times; a set that no longer changes is kept. -/
def steps (step : Nat → Nat) : (count : Nat) → Nat → Nat
  | 0, places => places
  | count + 1, places =>
    let next := step places
    if next = places then places else steps step count next

/-- All places reached by at most `count` steps. Only new places take another step. -/
def reach (step : Nat → Nat) : (count : Nat) → (seen new : Nat) → Nat
  | 0, seen, _ => seen
  | count + 1, seen, new =>
    let next := step new
    let fresh := next ^^^ (next &&& seen)
    if fresh = 0 then seen else reach step count (seen ||| fresh) fresh

/-- Taking the walk twice reaches nothing that taking it once does not. -/
def Walk.isClosed : Walk → Bool
  | stay => true
  | check _ => true
  | repeated 0 none _ => true
  | _ => false

/-- The places that a walk reaches, in a text with `size` places. -/
def Walk.run (size : Nat) : Walk → Nat → Nat
  | stay, places => places
  | stop, _ => 0
  | pass at_, places => (places &&& at_) <<< 1
  | check at_, places => places &&& at_
  | andThen first second, places => second.run size (first.run size places)
  | either first second, places => first.run size places ||| second.run size places
  | repeated least most body, places =>
    let start := steps (body.run size) least places
    match most with
    | some most => reach (body.run size) (most - least) start start
    | none => reach (body.run size) (if body.isClosed then 1 else size) start start

/-- An expression occurs somewhere in a text. -/
def Expr.occursIn (e : Expr) (text : List Char) : Bool :=
  let size := text.length + 1
  (e.walk text).run size (Number.twoTo size - 1) != 0

end Filterbook.Pattern
