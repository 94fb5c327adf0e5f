import Filterbook.Catalog
import Filterbook.Clause.Basic
import Filterbook.Clause.Sequence

/-!
# Validating clauses

A clause is checked against the registry and the catalog: first its field, then its operator, then its
operand, and the first fault counts. A submission is checked as a whole: what is to be dropped does not
count, and the faults of all clauses are reported together, with the error in their order last.
-/

namespace Filterbook

/-- The field that a clause may compare on a model. -/
def filterableField (r : Registry) (model path : String) : Except ClauseFault Resolved :=
  match r.model model with
  | .error e => .error (.unknownField path (.unresolved e))
  | .ok target =>
    if !target.allowsPath path then .error (.unknownField path (.notExposed model))
    else match r.resolve model path with
      | .error e => .error (.unknownField path (.unresolved e))
      | .ok field => .ok field

/-- The operator that a clause may use on a field. Blanks around the token do not count. -/
def allowedOperator (catalog : Catalog) (field : Resolved) (path : String) (written? : Option String) :
    Except ClauseFault Operator :=
  let token := Text.trim (written?.getD "")
  if token = "" then .error .operatorRequired
  else match Operator.parse? token with
    | none => .error (.operatorNotAllowed token path)
    | some o => if catalog.allows field o then .ok o else .error (.operatorNotAllowed token path)

/-- The operand of a clause as a value of the field's kind. -/
def operandValue (kind : Kind) (raw : String) : Except ClauseFault Value :=
  if raw = "" then .error .valueRequired
  else match Value.convert kind raw with
    | .error e => .error (.invalidValue e)
    | .ok v => .ok v

/-- One clause checked. -/
def validateClause (r : Registry) (model : String) (catalog : Catalog) (c : Clause) :
    Except ClauseFault Checked :=
  match c.field with
  | .separator => .ok .separator
  | .path path => do
    let field ← filterableField r model path
    let o ← allowedOperator catalog field path c.operator?
    if o.takesNoValue then .ok (.comparison ⟨path, o, .null, "", c.negate, field.kind⟩)
    else
      let value ← operandValue field.kind c.value
      .ok (.comparison ⟨path, o, value, c.value, c.negate, field.kind⟩)

/-- The requests that are kept, each with its index in the submission. -/
def keptRequests (requests : List ClauseRequest) : List (ClauseRequest × Nat) :=
  requests.zipIdx.filter fun q => !q.1.delete

/-- The results of a list of checks that succeeded. -/
def successes {ε α : Type} (results : List (Except ε α)) : List α := results.filterMap Except.toOption

/-- The errors of a list of checks that failed. -/
def failures {ε α : Type} (results : List (Except ε α)) : List ε :=
  results.filterMap fun
    | .ok _ => none
    | .error e => some e

/-- A submission checked as a whole. -/
def validateClauses (r : Registry) (model : String) (catalog : Catalog)
    (requests : List ClauseRequest) : Except (List FilterError) (List Checked) :=
  let kept := keptRequests requests
  let results := kept.map fun q =>
    (validateClause r model catalog q.1.clause).mapError (FilterError.clause q.2)
  let order := sequenceError? (kept.map fun q => q.1.clause.isSeparator)
  match failures results ++ order.toList.map .sequence with
  | [] => .ok (successes results)
  | errors => .error errors

/-- Stored clauses checked again. -/
def validateStored (r : Registry) (model : String) (catalog : Catalog) (clauses : List Clause) :
    Except (List FilterError) (List Checked) :=
  validateClauses r model catalog (clauses.map .keep)

end Filterbook
