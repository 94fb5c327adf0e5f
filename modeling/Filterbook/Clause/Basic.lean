import Filterbook.Registry.Validation
import Filterbook.Operator

/-!
# Clauses

A stored filter is a list of clauses: comparisons as their author wrote them, and separators that part
groups of comparisons. A validated clause carries its operand as a value of the field's kind.
-/

namespace Filterbook

/-- What a clause is about. -/
inductive ClauseField where
  /-- The field at the end of a path. -/
  | path (path : String)
  /-- Nothing: the clause separates two groups. -/
  | separator
  deriving DecidableEq, Repr

/-- A clause as stored. -/
structure Clause where
  /-- The path, or the mark of a separator. -/
  field : ClauseField
  /-- The token of the operator as written. -/
  operator? : Option String := none
  /-- The operand as written. -/
  value : String := ""
  /-- Whether the comparison must fail instead. -/
  negate : Bool := false
  deriving DecidableEq, Repr

/-- A clause as submitted. -/
structure ClauseRequest where
  /-- The clause. -/
  clause : Clause
  /-- Whether it is to be dropped. -/
  delete : Bool := false
  deriving DecidableEq, Repr

/-- A comparison that passed validation. -/
structure Comparison where
  /-- The path. -/
  path : String
  /-- The operator. -/
  operator : Operator
  /-- The operand; null for operators without one. -/
  value : Value
  /-- The operand as it will be stored. -/
  raw : String
  /-- Whether the comparison must fail instead. -/
  negate : Bool
  /-- The kind of the field. -/
  kind : Kind

/-- A clause that passed validation. -/
inductive Checked where
  /-- A separator. -/
  | separator
  /-- A comparison. -/
  | comparison (c : Comparison)

namespace ClauseField

/-- What a text is about: the reserved text marks a separator. -/
def ofText (s : String) : ClauseField := if s = separatorText then separator else path s

/-- The text of a path or of a separator. -/
def text : ClauseField → String
  | path p => p
  | separator => separatorText

/-- The path, if there is one. -/
def path? : ClauseField → Option String
  | path p => some p
  | separator => none

/-- The clause is a separator. -/
def isSeparator : ClauseField → Bool
  | separator => true
  | path _ => false

end ClauseField

namespace Clause

/-- A separator and nothing else. -/
def or : Clause := { field := .separator }

/-- The clause is a separator. -/
def isSeparator (c : Clause) : Bool := c.field.isSeparator

theorem isSeparator_iff {c : Clause} : c.isSeparator = true ↔ c.field = .separator := by
  unfold isSeparator
  cases c.field <;> simp [ClauseField.isSeparator]

/-- The names of the members of a clause. -/
def memberNames : List String := ["field", "operator", "value", "negate"]

/-- The clause of the members that are written. -/
def ofMembers? (ms : List (String × Json)) : Option Clause := do
  some {
    field := .ofText (← Json.required ms "field" Json.text?)
    operator? := ← Json.optional ms "operator" Json.text?
    value := ← Json.defaulted ms "value" Json.text? ""
    negate := ← Json.defaulted ms "negate" Json.bool? false }

/-- The clause that a Json value writes. -/
def ofJson? (j : Json) : Option Clause := do
  ofMembers? (← Json.Shape.members? ⟨memberNames, 1, false⟩ j)

/-- The Json form of a clause. -/
def toJson (c : Clause) : Json :=
  .obj [("field", .str c.field.text), ("operator", (c.operator?.map Json.str).getD .null),
    ("value", .str c.value), ("negate", .bool c.negate)]

end Clause

namespace ClauseRequest

/-- The request to keep a clause. -/
def keep (c : Clause) : ClauseRequest := ⟨c, false⟩

/-- The request that a Json object writes. -/
def ofJson? (j : Json) : Option ClauseRequest :=
  match j with
  | .obj _ => do
    let ms ← Json.Shape.members? ⟨"delete" :: Clause.memberNames, 0, false⟩ j
    some ⟨← Clause.ofMembers? ms, ← Json.defaulted ms "delete" Json.bool? false⟩
  | _ => none

end ClauseRequest

namespace Checked

/-- The clause is a separator. -/
def isSeparator : Checked → Bool
  | separator => true
  | comparison _ => false

theorem isSeparator_iff {c : Checked} : c.isSeparator = true ↔ c = separator := by
  cases c <;> simp [isSeparator]

/-- The clause as it is stored: the operator by its own token, and no operand where none is taken. -/
def toClause : Checked → Clause
  | separator => .or
  | comparison c => ⟨.path c.path, some c.operator.token, c.raw, c.negate⟩

end Checked

end Filterbook
