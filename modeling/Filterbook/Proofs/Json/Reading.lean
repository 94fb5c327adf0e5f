import Filterbook.Json.Parser
import Filterbook.Proofs.Json.Tokens

/-!
# Reading back what was written

The tokens of a value, read where a value must follow, leave the value behind and the stack as it
was, as long as the limit on open objects and arrays is kept. With the tokens of the text this gives
the value of the text: writing loses nothing of a readable value.

## What is proved

* `Readable.parses`: the tokens of a value are read as the value.
* `read?_text`: a readable value is read back from its text.
-/

namespace Filterbook.Json

/-- The state after a list of tokens. -/
def State.run? (state : State) (tokens : List Token) : Option State := tokens.foldlM State.step? state

theorem State.run?_append (state : State) (ts us : List Token) :
    state.run? (ts ++ us) = (state.run? ts).bind (·.run? us) :=
  List.foldlM_append

theorem State.run?_cons {state n : State} {t : Token} (h : state.step? t = some n) (ts : List Token) :
    state.run? (t :: ts) = n.run? ts := by
  rw [run?, List.foldlM_cons, h]
  rfl

/-- Where a value must follow, its tokens leave it behind, with room for so many more objects and
arrays on the stack. -/
def Parses (depth : Nat) (v : Json) : Prop :=
  ∀ stack, stack.length + depth ≤ depthLimit →
    (State.value stack).run? v.tokens = some (.after v stack)

section

variable {depth : Nat}

/-- Directly after an opening bracket, items are read as anywhere else in a list. -/
theorem run?_firstItem (stack : List Frame) (v : Json) (vs : List Json) (ts : List Token) :
    (State.firstItem stack).run? (itemTokens (v :: vs) ++ ts) =
      (State.value (.items [] :: stack)).run? (itemTokens (v :: vs) ++ ts) := by
  cases vs <;> cases v <;> rfl

/-- The items of a list and its end, read after the items before them. -/
theorem run?_itemTokens {items : List Json} (hitems : ∀ v ∈ items, Parses depth v) (hne : items ≠ [])
    (before : List Json) {stack : List Frame} (hroom : stack.length + 1 + depth ≤ depthLimit) :
    (State.value (.items before :: stack)).run? (itemTokens items ++ [.arrayClose]) =
      some (.after (.arr (before.reverse ++ items)) stack) := by
  induction items generalizing before with
  | nil => exact absurd rfl hne
  | cons v vs ih =>
    have hfirst := hitems v (List.mem_cons_self ..) (.items before :: stack) hroom
    cases vs with
    | nil =>
      show (State.value _).run? (v.tokens ++ [.arrayClose]) = _
      rw [State.run?_append, hfirst]
      show some (State.after (.arr (v :: before).reverse) stack) = _
      rw [List.reverse_cons]
    | cons w vs =>
      have hrest := ih (fun u hu => hitems u (List.mem_cons_of_mem v hu)) (List.cons_ne_nil w vs)
        (v :: before)
      show (State.value _).run? (v.tokens ++ .comma :: itemTokens (w :: vs) ++ [.arrayClose]) = _
      rw [List.append_assoc, State.run?_append, hfirst]
      show (State.value (.items (v :: before) :: stack)).run? (itemTokens (w :: vs) ++ [.arrayClose]) = _
      rw [hrest, List.reverse_cons, List.append_assoc]
      rfl

theorem parses_arr {items : List Json} (hitems : ∀ v ∈ items, Parses depth v) :
    Parses (depth + 1) (.arr items) := by
  intro stack hroom
  have hopen : (State.value stack).step? .arrayOpen = some (.firstItem stack) :=
    if_pos (by omega)
  show (State.value stack).run? (.arrayOpen :: (itemTokens items ++ [.arrayClose])) = _
  rw [State.run?_cons hopen]
  cases items with
  | nil => rfl
  | cons v vs =>
    rw [run?_firstItem]
    exact run?_itemTokens hitems (List.cons_ne_nil v vs) [] (by omega)

/-- A member, read after the members before it. -/
theorem run?_member {v : Json} (hv : Parses depth v) (name : String) (before : List (String × Json))
    {stack : List Frame} (hroom : stack.length + 1 + depth ≤ depthLimit) (ts : List Token) :
    (State.name before stack).run? (.text name :: .colon :: v.tokens ++ ts) =
      (State.after v (.member before name :: stack)).run? ts := by
  have hname : (State.name before stack).step? (.text name) = some (.colon before name stack) := by
    cases before <;> rfl
  rw [List.cons_append, List.cons_append, State.run?_cons hname,
    State.run?_cons (n := .value (.member before name :: stack)) rfl, State.run?_append,
    hv (.member before name :: stack) hroom]
  rfl

/-- The members of an object and its end, read after the members before them. -/
theorem run?_memberTokens {members : List (String × Json)} (hmembers : ∀ m ∈ members, Parses depth m.2)
    (hne : members ≠ []) (before : List (String × Json)) {stack : List Frame}
    (hroom : stack.length + 1 + depth ≤ depthLimit) :
    (State.name before stack).run? (memberTokens members ++ [.objectClose]) =
      some (.after (.obj (before.reverse ++ members)) stack) := by
  induction members generalizing before with
  | nil => exact absurd rfl hne
  | cons m ms ih =>
    obtain ⟨name, v⟩ := m
    have hfirst := hmembers (name, v) (List.mem_cons_self ..)
    cases ms with
    | nil =>
      show (State.name before stack).run? (.text name :: .colon :: v.tokens ++ [.objectClose]) = _
      rw [run?_member hfirst name before hroom]
      show some (State.after (.obj ((name, v) :: before).reverse) stack) = _
      rw [List.reverse_cons]
    | cons m ms =>
      have hrest := ih (fun u hu => hmembers u (List.mem_cons_of_mem _ hu)) (List.cons_ne_nil m ms)
        ((name, v) :: before)
      show (State.name before stack).run?
        (.text name :: .colon :: v.tokens ++ .comma :: memberTokens (m :: ms) ++ [.objectClose]) = _
      rw [List.append_assoc, run?_member hfirst name before hroom]
      show (State.name ((name, v) :: before) stack).run? (memberTokens (m :: ms) ++ [.objectClose]) = _
      rw [hrest, List.reverse_cons, List.append_assoc]
      rfl

theorem parses_obj {members : List (String × Json)} (hmembers : ∀ m ∈ members, Parses depth m.2) :
    Parses (depth + 1) (.obj members) := by
  intro stack hroom
  have hopen : (State.value stack).step? .objectOpen = some (.name [] stack) :=
    if_pos (by omega)
  show (State.value stack).run? (.objectOpen :: (memberTokens members ++ [.objectClose])) = _
  rw [State.run?_cons hopen]
  cases members with
  | nil => rfl
  | cons m ms => exact run?_memberTokens hmembers (List.cons_ne_nil m ms) [] (by omega)

end

/-- **The tokens of a value are read as the value.** -/
theorem Readable.parses {depth : Nat} {v : Json} (h : Readable depth v) : Parses depth v := by
  induction h with
  | null => exact fun _ _ => rfl
  | bool b => exact fun _ _ => rfl
  | int _ => exact fun _ _ => rfl
  | str s => exact fun _ _ => rfl
  | arr _ ih => exact parses_arr ih
  | obj _ ih => exact parses_obj ih

/-- **A readable value is read back from its text.** -/
theorem read?_text {v : Json} (h : Readable depthLimit v) : read? v.text = some v := by
  have htokens : tokensFrom? .outside v.text.toList = some v.tokens := by
    have hlexes := h.lexesAs [] .nothing
    rw [List.append_nil] at hlexes
    rw [text, String.toList_ofList, hlexes]
    exact congrArg some (List.append_nil v.tokens)
  have hrun : v.tokens.foldlM State.step? (.value []) = some (.after v []) := h.parses [] (by simp)
  rw [read?, htokens]
  show ofTokens? v.tokens = some v
  rw [ofTokens?, hrun]

end Filterbook.Json
