import Filterbook.Json.Basic

/-!
# Equality of Json values

Values are equal part by part. Such an equality tells a value from everything that it is a part of, since
equal values have the same number of parts.

## What is proved

* `Json.IsFinite.eqv_self`: a value whose numbers are finite equals itself.
* `Json.parts_of_eqv`: equal values have the same number of parts.
-/

namespace Filterbook.Json

open Number

/-- Every number in the value is finite, as those that can be written are. -/
inductive IsFinite : Json → Prop where
  /-- The word `null`. -/
  | null : IsFinite .null
  /-- A truth value. -/
  | bool (b : Bool) : IsFinite (.bool b)
  /-- An integer. -/
  | int (n : Int) : IsFinite (.num (.int n))
  /-- A finite floating-point number. -/
  | float {x : Binary64} (h : x.isFinite = true) : IsFinite (.num (.float x))
  /-- A text. -/
  | str (s : String) : IsFinite (.str s)
  /-- A list of such values. -/
  | arr {items : List Json} (h : ∀ v ∈ items, IsFinite v) : IsFinite (.arr items)
  /-- An object with such values. -/
  | obj {members : List (String × Json)} (h : ∀ m ∈ members, IsFinite m.2) : IsFinite (.obj members)

theorem eqvItems_self {items : List Json} (h : ∀ v ∈ items, v.eqv v = true) :
    eqvItems items items = true := by
  induction items with
  | nil => rfl
  | cons v vs ih =>
    rw [List.forall_mem_cons] at h
    simp [eqvItems, h.1, ih h.2]

theorem eqvMembers_self {members : List (String × Json)} (h : ∀ m ∈ members, m.2.eqv m.2 = true) :
    eqvMembers members members = true := by
  induction members with
  | nil => rfl
  | cons m ms ih =>
    rw [List.forall_mem_cons] at h
    simp [eqvMembers, h.1, ih h.2]

/-- A value equals itself. -/
theorem IsFinite.eqv_self {v : Json} (h : IsFinite v) : v.eqv v = true := by
  induction h with
  | null => rfl
  | bool b => exact beq_self_eq_true b
  | int n => exact beq_self_eq_true n
  | @float x h =>
    cases x with
    | finite s m e => simp [eqv, JsonNumber.eqv, Binary64.eqv, Binary64.compare?]
    | _ => simp [Binary64.isFinite] at h
  | str s => exact beq_self_eq_true s
  | arr _ ih => exact eqvItems_self ih
  | obj _ ih => exact eqvMembers_self ih

/-! ### Parts -/

mutual

/-- The number of values that a value is made of, itself included. -/
def parts : Json → Nat
  | arr items => itemParts items + 1
  | obj members => memberParts members + 1
  | _ => 1

/-- The number of values in the items. -/
def itemParts : List Json → Nat
  | [] => 0
  | v :: vs => parts v + itemParts vs

/-- The number of values in the members. -/
def memberParts : List (String × Json) → Nat
  | [] => 0
  | (_, v) :: ms => parts v + memberParts ms

end

theorem parts_lt_of_mem {v : Json} {items : List Json} (h : v ∈ items) : v.parts < (arr items).parts := by
  have hle : v.parts ≤ itemParts items := by
    induction items with
    | nil => cases h
    | cons w ws ih =>
      rw [itemParts]
      rcases List.mem_cons.mp h with rfl | h
      · omega
      · have := ih h
        omega
  rw [parts]
  omega

mutual

/-- Equal values have the same number of parts. -/
theorem parts_of_eqv : ∀ {v w : Json}, v.eqv w = true → v.parts = w.parts
  | .arr _, .arr _, h => congrArg (· + 1) (itemParts_of_eqvItems h)
  | .obj _, .obj _, h => congrArg (· + 1) (memberParts_of_eqvMembers h)
  | .null, .null, _ => rfl
  | .bool _, .bool _, _ => rfl
  | .num _, .num _, _ => rfl
  | .str _, .str _, _ => rfl

theorem itemParts_of_eqvItems : ∀ {vs ws : List Json}, eqvItems vs ws = true → itemParts vs = itemParts ws
  | [], [], _ => rfl
  | v :: vs, w :: ws, h => by
    rw [eqvItems, Bool.and_eq_true] at h
    rw [itemParts, itemParts, parts_of_eqv h.1, itemParts_of_eqvItems h.2]

theorem memberParts_of_eqvMembers : ∀ {ms ns : List (String × Json)}, eqvMembers ms ns = true →
    memberParts ms = memberParts ns
  | [], [], _ => rfl
  | (k, v) :: ms, (l, w) :: ns, h => by
    rw [eqvMembers, Bool.and_eq_true, Bool.and_eq_true] at h
    rw [memberParts, memberParts, parts_of_eqv h.1.2, memberParts_of_eqvMembers h.2]

end

end Filterbook.Json
