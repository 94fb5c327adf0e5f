import Filterbook.Filter.Sql
import Filterbook.Proofs.Filter.Combinators
import Filterbook.Proofs.Text.Split

/-!
# Reading a query back

The text of a condition and the values beside it can be read back as a filter. The reader looks at the
front of the text (`Sql.front?`), where the first word and the two characters after it tell a constant, a
comparison, a negation and a group from one another, even if a column is named like a word of the language;
and it reads what a negation or a group has inside by itself (`Sql.read?`). A group of one condition reads
as that condition, since conjunction and disjunction of one filter are written alike.

## What is proved

* `Sql.front?_constant`, `Sql.front?_missing`, `Sql.front?_comparison`: what the front of a text tells.
* `Filter.readsBack`, `Filter.ofSql?_sql`: the text and the parameters of a filter read as the filter, up to
  groups of one condition or none (`Filter.reading`), if its paths are made of ASCII letters, digits and
  underscores.
* `Filter.holds_reading`: that makes no difference on any row.
* `Filter.sql_unambiguous`: so filters with the same text and the same parameters hold of the same rows.

The reader is no judge of texts that no filter is written as, and it does not look at the numbers of the
placeholders: values are taken in order.
-/

namespace Filterbook

open Filterbook.Number Filterbook.Text

/-- The operand of which this is the value to bind. -/
def Comparator.unbound (c : Comparator) (value : Value) : Value :=
  match c, value with
  | contains, .text s => .text (String.ofList s.toList.tail.dropLast)
  | icontains, .text s => .text (String.ofList s.toList.tail.dropLast)
  | _, v => v

theorem Comparator.unbound_bound (c : Comparator) (operand : Value) :
    c.unbound (c.bound operand) = operand := by
  cases c with
  | contains | icontains => cases operand <;> simp [bound, unbound]
  | _ => rfl

namespace Sql

/-! ### Columns -/

/-- The characters of columns: ASCII letters and digits, underscores, and points for relations. -/
def isColumnChar (c : Char) : Bool := c.isAlphanum || c = '_' || c = '.'

/-- The path is made of ASCII letters, digits and underscores. -/
def PlainPath (path : String) : Prop := ∀ c ∈ path.toList, c.isAlphanum = true ∨ c = '_'

instance (path : String) : Decidable (PlainPath path) := List.decidableBAll _ path.toList

/-- The path of a column. -/
def pathOf (column : List Char) : String :=
  String.ofList (restore pathSeparator.toList '.' column)

variable {path : String}

theorem pathOf_columnChars (h : PlainPath path) : pathOf (Filter.columnChars path) = path := by
  have hpoint : '.' ∉ path.toList := by
    intro hmem
    rcases h '.' hmem with halpha | hunderscore
    · exact absurd halpha (by decide)
    · exact absurd hunderscore (by decide)
  rw [pathOf, Filter.columnChars, restore_replaceChars hpoint, String.ofList_toList]

theorem isColumnChar_of_mem (h : PlainPath path) :
    ∀ c ∈ Filter.columnChars path, isColumnChar c = true := by
  intro c hc
  rcases mem_of_mem_replaceChars hc with hc | hc
  · rcases h c hc with halpha | rfl
    · simp [isColumnChar, halpha]
    · rfl
  · rw [List.mem_singleton.mp hc]
    rfl

/-! ### The front of a text -/

/-- What the front of a text begins. -/
inductive Front where
  /-- A constant. -/
  | constant (b : Bool)
  /-- A test for the null value. -/
  | missing (path : String)
  /-- A comparison with a placeholder. -/
  | comparison (c : Comparator) (path : String)
  /-- A condition after `NOT` and an opening parenthesis. -/
  | negation
  /-- A group after an opening parenthesis. -/
  | group

/-- The comparators that are written between column and placeholder. -/
def infixed : List Comparator :=
  [.eq, .lt, .lte, .gt, .gte, .contains, .icontains, .regex, .iregex]

/-- What stands between a column and the number of its placeholder. -/
def infixChars (c : Comparator) : List Char := ' ' :: c.sqlOperator.toList ++ " $".toList

/-- A comparator read after a column, with what follows the sign of its placeholder. -/
def infixed? (cs : List Char) : Option (Comparator × List Char) :=
  infixed.findSome? fun c => (after? (infixChars c) cs).map (c, ·)

/-- A comparison of a lowered column read after `LOWER` and an opening parenthesis. -/
def lowered? (cs : List Char) : Option (Front × List Char) := do
  let cs' ← after? ") = LOWER($".toList (cs.dropWhile isColumnChar)
  let rest ← after? [')'] (cs'.dropWhile isDigit)
  some (.comparison .ieq (pathOf (cs.takeWhile isColumnChar)), rest)

/-- The front of a text with this first word, and the characters that it leaves. -/
def frontAfter (word cs : List Char) : Option (Front × List Char) :=
  match cs with
  | '(' :: rest => if word.isEmpty then some (.group, rest) else lowered? rest
  | ' ' :: '(' :: rest => some (.negation, rest)
  | cs =>
    -- a constant is tried last, since a column may be named like it
    match after? " IS NULL".toList cs, infixed? cs with
    | some rest, _ => some (.missing (pathOf word), rest)
    | none, some (c, rest) => some (.comparison c (pathOf word), rest.dropWhile isDigit)
    | none, none =>
      if word = "TRUE".toList then some (.constant true, cs)
      else if word = "FALSE".toList then some (.constant false, cs)
      else none

/-- What the front of a text begins, and the characters that it leaves. -/
def front? (cs : List Char) : Option (Front × List Char) :=
  frontAfter (cs.takeWhile isColumnChar) (cs.dropWhile isColumnChar)

/-- The word between members of a group. -/
def joint (disjunctive : Bool) : String := if disjunctive then " OR " else " AND "

/-- What may follow a condition: nothing, the end of a group, or a further member. -/
inductive Ends : List Char → Prop where
  /-- Nothing follows. -/
  | nil : Ends []
  /-- The group is closed. -/
  | closing (rest : List Char) : Ends (')' :: rest)
  /-- A member of the group follows. -/
  | joint (disjunctive : Bool) (rest : List Char) : Ends ((joint disjunctive).toList ++ rest)

variable {rest : List Char}

theorem front?_group (rest : List Char) : front? ('(' :: rest) = some (.group, rest) := rfl

theorem front?_negation (rest : List Char) :
    front? ("NOT (".toList ++ rest) = some (.negation, rest) := rfl

theorem front?_constant (b : Bool) (h : Ends rest) :
    front? ((if b then "TRUE" else "FALSE").toList ++ rest) = some (.constant b, rest) := by
  cases b <;> cases h with
  | nil => rfl
  | closing rest => rfl
  | joint disjunctive rest => cases disjunctive <;> rfl

/-- A word of column characters is read up to the first other character. -/
theorem front?_word {word : List Char} (hword : ∀ c ∈ word, isColumnChar c = true) {d : Char}
    (hd : isColumnChar d = false) (cs : List Char) :
    front? (word ++ d :: cs) = frontAfter word (d :: cs) := by
  rw [front?, List.takeWhile_append_of_pos hword, List.dropWhile_append_of_pos hword,
    List.takeWhile_cons_of_neg (by simp [hd]), List.dropWhile_cons_of_neg (by simp [hd]),
    List.append_nil]

theorem front?_missing (hpath : PlainPath path) (rest : List Char) :
    front? (Filter.columnChars path ++ " IS NULL".toList ++ rest) = some (.missing path, rest) := by
  have hfront := front?_word (isColumnChar_of_mem hpath) (d := ' ') rfl ("IS NULL".toList ++ rest)
  have hafter : frontAfter (Filter.columnChars path) (' ' :: ("IS NULL".toList ++ rest)) =
    some (.missing (pathOf (Filter.columnChars path)), rest) := rfl
  rw [hafter, pathOf_columnChars hpath] at hfront
  rw [List.append_assoc]
  exact hfront

/-- The digits of a placeholder are passed over. -/
theorem dropWhile_natDigits (n : Nat) (cs : List Char) :
    (natDigits n ++ cs).dropWhile isDigit = cs.dropWhile isDigit :=
  List.dropWhile_append_of_pos fun _ hc => isDigit_of_mem_natDigits hc

theorem Ends.dropWhile_isDigit (h : Ends rest) : rest.dropWhile isDigit = rest := by
  cases h with
  | nil => rfl
  | closing rest => rfl
  | joint disjunctive rest => cases disjunctive <;> rfl

/-- Each comparator is known by the characters up to the sign of the placeholder. -/
theorem frontAfter_infix {c : Comparator} (hc : c.lowers = false) (word cs : List Char) :
    frontAfter word (infixChars c ++ cs) =
      some (.comparison c (pathOf word), cs.dropWhile isDigit) := by
  cases c with
  | ieq => cases hc
  | _ => rfl

theorem lowered?_column (hpath : PlainPath path) (n : Nat) (rest : List Char) :
    lowered? (Filter.columnChars path ++ (") = LOWER($".toList ++ (natDigits n ++ ')' :: rest))) =
      some (.comparison .ieq path, rest) := by
  have hcolumn := isColumnChar_of_mem hpath
  have htake (cs : List Char) : (Filter.columnChars path ++ (") = LOWER($".toList ++ cs)).takeWhile
      isColumnChar = Filter.columnChars path := by
    rw [List.takeWhile_append_of_pos hcolumn]
    exact List.append_nil _
  have hdrop (cs : List Char) : (Filter.columnChars path ++ (") = LOWER($".toList ++ cs)).dropWhile
      isColumnChar = ") = LOWER($".toList ++ cs := by
    rw [List.dropWhile_append_of_pos hcolumn]
    rfl
  have hdigits : (natDigits n ++ ')' :: rest).dropWhile isDigit = [')'] ++ rest :=
    dropWhile_natDigits n _
  rw [lowered?, htake, hdrop, after?_append, pathOf_columnChars hpath]
  simp only [bind, Option.bind, hdigits, after?_append]

/-- **The front of a comparison tells comparator and path.** -/
theorem front?_comparison (hpath : PlainPath path) {c : Comparator} {operand : Value}
    (hc : c.asksMissing operand = false) (offset : Nat) (h : Ends rest) :
    front? (Filter.leafSql offset c path operand ++ rest) = some (.comparison c path, rest) := by
  simp only [Filter.leafSql, hc, Bool.false_eq_true, if_false]
  split
  · next hlowers =>
    have hieq : c = .ieq := by cases c <;> first | rfl | cases hlowers
    subst hieq
    have hfront : front? ("LOWER(".toList ++ (Filter.columnChars path ++
        (") = LOWER($".toList ++ (natDigits (offset + 1) ++ ')' :: rest)))) =
      lowered? (Filter.columnChars path ++
        (") = LOWER($".toList ++ (natDigits (offset + 1) ++ ')' :: rest))) := rfl
    rw [lowered?_column hpath] at hfront
    simpa [Filter.inParens] using hfront
  · next hlowers =>
    have hfront := front?_word (isColumnChar_of_mem hpath) (d := ' ') rfl
      (c.sqlOperator.toList ++ (" $".toList ++ (natDigits (offset + 1) ++ rest)))
    have hafter := frontAfter_infix (Bool.eq_false_iff.mpr hlowers) (Filter.columnChars path)
      (natDigits (offset + 1) ++ rest)
    rw [dropWhile_natDigits, h.dropWhile_isDigit, pathOf_columnChars hpath] at hafter
    rw [← hafter]
    simpa [infixChars] using hfront

/-! ### Reading -/

/-- A group of conditions; of one condition, the condition. -/
def grouped (disjunctive : Bool) (f : Filter) : List Filter → Filter
  | [] => f
  | fs => if disjunctive then .any (f :: fs) else .all (f :: fs)

mutual

/-- A condition read from the front of a text and of a list of values, with what it leaves of both. A step is
taken for every condition and every group. -/
def read? : (steps : Nat) → List Char → List Value → Option (Filter × List Char × List Value)
  | 0, _, _ => none
  | steps + 1, cs, values => do
    match (← front? cs), values with
    | (.constant b, rest), values => some (if b then .always else .any [], rest, values)
    | (.missing path, rest), values => some (.leaf .eq path .null, rest, values)
    | (.comparison c path, rest), value :: values => some (.leaf c path (c.unbound value), rest, values)
    | (.comparison _ _, _), [] => none
    | (.negation, rest), values =>
      let (f, rest, values) ← read? steps rest values
      some (.not f, ← after? [')'] rest, values)
    | (.group, rest), values =>
      let (f, rest, values) ← read? steps rest values
      let disjunctive := (after? (joint true).toList rest).isSome
      let (fs, rest, values) ← readRest? steps (joint disjunctive) rest values
      some (grouped disjunctive f fs, ← after? [')'] rest, values)

/-- The conditions read that follow a first one, each after a word. -/
def readRest? : (steps : Nat) → String → List Char → List Value →
    Option (List Filter × List Char × List Value)
  | 0, _, _, _ => none
  | steps + 1, word, cs, values =>
    match after? word.toList cs with
    | none => some ([], cs, values)
    | some rest => do
      let (f, rest, values) ← read? steps rest values
      let (fs, rest, values) ← readRest? steps word rest values
      some (f :: fs, rest, values)

end

end Sql

namespace Filter

open Sql

/-! ### What is read -/

mutual

/-- The filter that its text reads as: a group of one condition is the condition, and all of none holds
always. -/
def reading : Filter → Filter
  | always => always
  | leaf c path operand => leaf c path operand
  | all [] => always
  | all (f :: fs) => grouped false (reading f) (readings fs)
  | any [] => any []
  | any (f :: fs) => grouped true (reading f) (readings fs)
  | not f => not (reading f)

/-- The filters that the texts of several filters read as. -/
def readings : List Filter → List Filter
  | [] => []
  | f :: fs => reading f :: readings fs

end

variable (row : Json)

theorem holds_grouped (disjunctive : Bool) (f : Filter) (fs : List Filter) :
    (grouped disjunctive f fs).holds row =
      if disjunctive then (any (f :: fs)).holds row else (all (f :: fs)).holds row := by
  cases fs with
  | nil => cases disjunctive <;> simp [grouped, holds, holdsAll, holdsAny]
  | cons g fs => cases disjunctive <;> rfl

theorem holdsAll_readings {fs : List Filter} (h : ∀ f ∈ fs, f.reading.holds row = f.holds row) :
    holdsAll row (readings fs) = holdsAll row fs := by
  induction fs with
  | nil => rfl
  | cons f fs ih =>
    rw [List.forall_mem_cons] at h
    rw [readings, holdsAll, holdsAll, h.1, ih h.2]

theorem holdsAny_readings {fs : List Filter} (h : ∀ f ∈ fs, f.reading.holds row = f.holds row) :
    holdsAny row (readings fs) = holdsAny row fs := by
  induction fs with
  | nil => rfl
  | cons f fs ih =>
    rw [List.forall_mem_cons] at h
    rw [readings, holdsAny, holdsAny, h.1, ih h.2]

/-- **A filter and what its text reads as hold of the same rows.** -/
theorem holds_reading (f : Filter) : f.reading.holds row = f.holds row := by
  induction f with
  | always => rfl
  | leaf c path operand => rw [reading]
  | all fs ih =>
    cases fs with
    | nil => rfl
    | cons f fs =>
      rw [reading, holds_grouped, holds, holds]
      exact holdsAll_readings row ih
  | any fs ih =>
    cases fs with
    | nil => rfl
    | cons f fs =>
      rw [reading, holds_grouped, holds, holds]
      exact holdsAny_readings row ih
  | not f ih => rw [reading, holds, holds, ih]

/-! ### Reading what is written -/

/-- The paths of the filter are made of ASCII letters, digits and underscores. -/
def PlainPaths (f : Filter) : Prop := ∀ leaf ∈ f.leaves, PlainPath leaf.2.1

instance (f : Filter) : Decidable f.PlainPaths :=
  inferInstanceAs (Decidable (∀ leaf ∈ f.leaves, PlainPath leaf.2.1))

variable {f : Filter} {fs : List Filter}

theorem PlainPaths.of_leaf {c : Comparator} {path : String} {operand : Value}
    (h : (leaf c path operand).PlainPaths) : PlainPath path :=
  h (c, path, operand) (by rw [leaves]; exact List.mem_singleton_self _)

theorem PlainPaths.of_not (h : (not f).PlainPaths) : f.PlainPaths :=
  fun x hx => h x (by rwa [leaves])

theorem PlainPaths.of_all (h : (all fs).PlainPaths) : ∀ f ∈ fs, f.PlainPaths :=
  forall_leavesOf.mp h

theorem PlainPaths.of_any (h : (any fs).PlainPaths) : ∀ f ∈ fs, f.PlainPaths :=
  forall_leavesOf.mp h

/-- The text and the parameters of the filter are read from the front of longer ones, in fewer steps than the
text has characters. -/
def ReadsBack (f : Filter) : Prop :=
  ∀ steps offset rest values, Ends rest → (f.sqlChars offset).length < steps →
    read? steps (f.sqlChars offset ++ rest) (f.params ++ values) = some (f.reading, rest, values)

variable {rest : List Char}

theorem ends_sqlRest (offset : Nat) (disjunctive : Bool) (fs : List Filter) (rest : List Char) :
    Ends (sqlRest offset (joint disjunctive) fs ++ ')' :: rest) := by
  cases fs with
  | nil => exact .closing rest
  | cons f fs =>
    rw [sqlRest, List.append_assoc, List.append_assoc]
    exact .joint disjunctive _

/-- The word that the reader takes for the one between the members, from what follows the first. It is that
one, unless there are no others. -/
theorem exists_joint (offset : Nat) (disjunctive : Bool) (fs : List Filter) (rest : List Char) :
    ∃ b, sqlRest offset (joint disjunctive) fs = sqlRest offset (joint b) fs ∧
      (after? (joint true).toList (sqlRest offset (joint b) fs ++ ')' :: rest)).isSome = b ∧
      ∀ f, grouped disjunctive f (readings fs) = grouped b f (readings fs) := by
  cases fs with
  | nil => exact ⟨false, rfl, rfl, fun _ => rfl⟩
  | cons g fs =>
    refine ⟨disjunctive, rfl, ?_, fun _ => rfl⟩
    cases disjunctive <;> simp [sqlRest, joint, after?]

theorem readRest?_sqlRest (h : ∀ f ∈ fs, f.ReadsBack) (disjunctive : Bool) (rest : List Char)
    (values : List Value) (steps offset : Nat)
    (hsteps : (sqlRest offset (joint disjunctive) fs).length < steps) :
    readRest? steps (joint disjunctive) (sqlRest offset (joint disjunctive) fs ++ ')' :: rest)
      (paramsOf fs ++ values) = some (readings fs, ')' :: rest, values) := by
  induction fs generalizing steps offset with
  | nil =>
    obtain ⟨steps, rfl⟩ := Nat.exists_eq_add_of_lt hsteps
    cases disjunctive <;> rfl
  | cons f fs ih =>
    rw [List.forall_mem_cons] at h
    simp only [sqlRest, List.length_append] at hsteps
    have hword : 0 < (joint disjunctive).toList.length := by cases disjunctive <;> decide
    obtain ⟨steps, rfl⟩ : ∃ n, steps = n + 1 := ⟨steps - 1, by omega⟩
    have hfirst := h.1 steps offset
      (sqlRest (offset + f.params.length) (joint disjunctive) fs ++ ')' :: rest)
      (paramsOf fs ++ values) (ends_sqlRest _ _ _ _) (by omega)
    have hothers := ih h.2 steps (offset + f.params.length) (by omega)
    simp only [sqlRest, paramsOf, readings, readRest?, List.append_assoc, after?_append, hfirst,
      hothers, bind, Option.bind]

/-- A group reads as its members joined. -/
theorem read?_group (hf : f.ReadsBack) (hfs : ∀ f ∈ fs, f.ReadsBack) (disjunctive : Bool)
    (rest : List Char) (values : List Value) (steps offset : Nat)
    (hsteps : (inParens "" (f.sqlChars offset ++
      sqlRest (offset + f.params.length) (joint disjunctive) fs)).length < steps) :
    read? steps (inParens "" (f.sqlChars offset ++
        sqlRest (offset + f.params.length) (joint disjunctive) fs) ++ rest)
      (paramsOf (f :: fs) ++ values) =
        some (grouped disjunctive f.reading (readings fs), rest, values) := by
  obtain ⟨b, hrest, hword, hgrouped⟩ :=
    exists_joint (offset + f.params.length) disjunctive fs rest
  rw [hrest] at hsteps
  rw [hrest, hgrouped]
  simp only [inParens, List.length_append, List.length_cons] at hsteps
  obtain ⟨steps, rfl⟩ : ∃ n, steps = n + 1 := ⟨steps - 1, by omega⟩
  have hfirst := hf steps offset (sqlRest (offset + f.params.length) (joint b) fs ++ ')' :: rest)
    (paramsOf fs ++ values) (ends_sqlRest _ _ _ _) (by omega)
  have hothers := readRest?_sqlRest hfs b rest values steps (offset + f.params.length) (by omega)
  have hfront := front?_group (f.sqlChars offset ++
    (sqlRest (offset + f.params.length) (joint b) fs ++ ')' :: rest))
  have htext : inParens "" (f.sqlChars offset ++ sqlRest (offset + f.params.length) (joint b) fs) ++
      rest =
    '(' :: (f.sqlChars offset ++ (sqlRest (offset + f.params.length) (joint b) fs ++ ')' :: rest)) := by
    simp [inParens]
  rw [htext, paramsOf, List.append_assoc]
  simp only [read?, hfront, hfirst, hword, hothers, after?_singleton, bind, Option.bind]

theorem read?_constant (b : Bool) {steps : Nat} (values : List Value) (hrest : Ends rest)
    (hsteps : 0 < steps) :
    read? steps ((if b then "TRUE" else "FALSE").toList ++ rest) values =
      some (if b then always else any [], rest, values) := by
  obtain ⟨steps, rfl⟩ : ∃ n, steps = n + 1 := ⟨steps - 1, by omega⟩
  simp only [read?, front?_constant b hrest, bind, Option.bind]

theorem readsBack_leaf {c : Comparator} {path : String} (hpath : PlainPath path) (operand : Value) :
    (leaf c path operand).ReadsBack := by
  intro steps offset rest values hrest hsteps
  obtain ⟨steps, rfl⟩ : ∃ n, steps = n + 1 := ⟨steps - 1, by omega⟩
  rw [sqlChars, params, leafParams, reading]
  split
  · next hc =>
    obtain ⟨rfl, rfl⟩ := Comparator.eq_of_asksMissing hc
    rw [leafSql, if_pos hc]
    simp only [read?, front?_missing hpath, bind, Option.bind, List.nil_append]
  · next hc =>
    rw [Bool.not_eq_true] at hc
    simp only [read?, front?_comparison hpath hc offset hrest, bind, Option.bind, List.cons_append,
      List.nil_append, c.unbound_bound]

/-- **Every filter with plain paths is read back from its text and its parameters.** -/
theorem readsBack (hf : f.PlainPaths) : f.ReadsBack := by
  -- whatever follows: a member of a group is read before the rest of the group
  induction f with
  | always =>
    intro steps offset rest values hrest hsteps
    exact read?_constant true values hrest (by omega)
  | leaf c path operand => exact readsBack_leaf hf.of_leaf operand
  | all fs ih =>
    intro steps offset rest values hrest hsteps
    cases fs with
    | nil => exact read?_constant true values hrest (by omega)
    | cons f fs =>
      have hmembers := fun g hg => ih g hg (hf.of_all g hg)
      rw [List.forall_mem_cons] at hmembers
      rw [sqlChars] at hsteps
      rw [sqlChars, params, reading]
      exact read?_group hmembers.1 hmembers.2 false rest values steps offset hsteps
  | any fs ih =>
    intro steps offset rest values hrest hsteps
    cases fs with
    | nil => exact read?_constant false values hrest (by omega)
    | cons f fs =>
      have hmembers := fun g hg => ih g hg (hf.of_any g hg)
      rw [List.forall_mem_cons] at hmembers
      rw [sqlChars] at hsteps
      rw [sqlChars, params, reading]
      exact read?_group hmembers.1 hmembers.2 true rest values steps offset hsteps
  | not f ih =>
    intro steps offset rest values hrest hsteps
    simp only [sqlChars, inParens, List.length_append, List.length_cons] at hsteps
    obtain ⟨steps, rfl⟩ : ∃ n, steps = n + 1 := ⟨steps - 1, by omega⟩
    have hinner := ih hf.of_not steps offset (')' :: rest) values (.closing rest) (by omega)
    have hfront := front?_negation (f.sqlChars offset ++ ')' :: rest)
    have htext : (not f).sqlChars offset ++ rest =
        "NOT (".toList ++ (f.sqlChars offset ++ ')' :: rest) := by
      simp [sqlChars, inParens]
    rw [htext, params, reading]
    simp only [read?, hfront, hinner, after?_singleton, bind, Option.bind]

/-- A text and values that read as one filter and leave nothing. -/
def ofSql? (text : String) (values : List Value) : Option Filter :=
  match read? (text.toList.length + 1) text.toList values with
  | some (f, [], []) => some f
  | _ => none

/-- **A filter is read from its text and its parameters**, up to groups of one condition or none. -/
theorem ofSql?_sql (hf : f.PlainPaths) (offset : Nat) :
    ofSql? (f.sql offset) f.params = some f.reading := by
  have hread := readsBack hf ((f.sqlChars offset).length + 1) offset [] [] .nil (Nat.lt_succ_self _)
  rw [List.append_nil, List.append_nil] at hread
  simp only [ofSql?, sql, String.toList_ofList, hread]

/-- **Filters with the same text and the same parameters hold of the same rows.** -/
theorem sql_unambiguous {f g : Filter} (hf : f.PlainPaths) (hg : g.PlainPaths) {offset : Nat}
    (htext : f.sql offset = g.sql offset) (hparams : f.params = g.params) (row : Json) :
    f.holds row = g.holds row := by
  have hreading : some f.reading = some g.reading := by
    rw [← ofSql?_sql hf offset, ← ofSql?_sql hg offset, htext, hparams]
  rw [← holds_reading row f, ← holds_reading row g, Option.some.inj hreading]

/-- A column named like a word of the language, and groups of one condition and of none. -/
theorem sql_unambiguous_nested :
    (all [leaf .eq "NOT" (.int 1), any [leaf .contains "a__b" (.text "x")], all []]).sql 3 =
        "(NOT = $4 AND (a.b LIKE $5) AND TRUE)" ∧
      ∀ row, (all [leaf .eq "NOT" (.int 1), any [leaf .contains "a__b" (.text "x")], all []]).holds row =
        (all [leaf .eq "NOT" (.int 1), all [leaf .contains "a__b" (.text "x")], always]).holds row :=
  ⟨by decide +kernel, @sql_unambiguous _ _ (by decide) (by decide) 3 (by decide +kernel) rfl⟩

end Filter
end Filterbook
