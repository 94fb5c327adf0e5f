import Filterbook.Json.Token

/-!
# Reading Json text

Tokens are read one at a time; the values still open are kept on a stack. A text holds one value and
nothing after it, and no more than 127 objects and arrays are open at once.
-/

namespace Filterbook.Json

/-- An open array or object, with what stands before the value being read. The latest comes first. -/
inductive Frame where
  /-- An open array. -/
  | items (before : List Json)
  /-- An open object with the name of the value being read. -/
  | member (before : List (String × Json)) (name : String)

/-- Where the reading stands. -/
inductive State where
  /-- A value must follow. -/
  | value (stack : List Frame)
  /-- An array was opened: an item or its end must follow. -/
  | firstItem (stack : List Frame)
  /-- A name must follow; directly after the opening brace, the end may follow too. -/
  | name (before : List (String × Json)) (stack : List Frame)
  /-- A name was read and a colon must follow. -/
  | colon (before : List (String × Json)) (name : String) (stack : List Frame)
  /-- A value was read; its place is on top of the stack. -/
  | after (v : Json) (stack : List Frame)

/-- The most objects and arrays that are open at once. -/
def depthLimit : Nat := 127

/-- A token that begins a value. -/
def State.beginValue? (stack : List Frame) : Token → Option State
  | .atom v => some (after v stack)
  | .text s => some (after (.str s) stack)
  | .arrayOpen => if stack.length < depthLimit then some (firstItem stack) else none
  | .objectOpen => if stack.length < depthLimit then some (name [] stack) else none
  | _ => none

/-- A token after a finished value. -/
def State.next? (v : Json) : (stack : List Frame) → Token → Option State
  | .items before :: stack, .comma => some (value (.items (v :: before) :: stack))
  | .items before :: stack, .arrayClose => some (after (.arr (v :: before).reverse) stack)
  | .member before key :: stack, .comma => some (name ((key, v) :: before) stack)
  | .member before key :: stack, .objectClose =>
    some (after (.obj ((key, v) :: before).reverse) stack)
  | _, _ => none

/-- One token read. -/
def State.step? : State → Token → Option State
  | value stack, t => beginValue? stack t
  | firstItem stack, .arrayClose => some (after (.arr []) stack)
  | firstItem stack, t => beginValue? (.items [] :: stack) t
  | name [] stack, .objectClose => some (after (.obj []) stack)
  | name before stack, .text key => some (colon before key stack)
  | name _ _, _ => none
  | colon before key stack, .colon => some (value (.member before key :: stack))
  | colon _ _ _, _ => none
  | after v stack, t => next? v stack t

/-- The value of a list of tokens that hold exactly one. -/
def ofTokens? (tokens : List Token) : Option Json :=
  match tokens.foldlM State.step? (.value []) with
  | some (.after v []) => some v
  | _ => none

/-- The value that a text writes, with members as written. -/
def read? (s : String) : Option Json := (tokensFrom? .outside s.toList).bind ofTokens?

end Filterbook.Json
