import Filterbook.Filter.Sql
import Mathlib.Data.List.Basic

/-!
# Placeholders and parameters

The text of a condition counts its placeholders on from an offset, and the values to bind stand in a list
beside it. This module takes the text apart into words and comparisons (`Filter.parts`), to say which
comparison carries which placeholder, and writes it a second time in one pass (`Filter.write`), where the
list of values grows as the text does.

## What is proved

* `Filter.flatMap_parts`, `Filter.filterMap_parts`: the parts are the text, and their comparisons are those
  of the filter, from left to right, each with the number of values bound before it.
* `Filter.write_eq`: the pass that starts with any list of values writes the text that counts on from
  them, and appends the parameters.
* `Filter.placeholders_line_up`: the k-th comparison that binds a value carries the k-th placeholder after
  the offset and has the k-th parameter; and a part of a condition is written like a condition of its own,
  whose offset counts the parameters before it.
-/

namespace Filterbook.Filter

/-- A comparison: comparator, path and operand. -/
abbrev Leaf : Type := Comparator × String × Value

/-- The comparison binds a value. -/
def Leaf.binds (leaf : Leaf) : Bool := !leaf.1.asksMissing leaf.2.2

/-- The value that a comparison binds, if it does. -/
def Leaf.bound (leaf : Leaf) : Value := leaf.1.bound leaf.2.2

/-- The values that a comparison binds. -/
def Leaf.params (leaf : Leaf) : List Value := leafParams leaf.1 leaf.2.2

theorem Leaf.params_eq (leaf : Leaf) : leaf.params = if leaf.binds then [leaf.bound] else [] := by
  unfold Leaf.params Leaf.binds Leaf.bound leafParams
  cases leaf.1.asksMissing leaf.2.2 <;> rfl

/-! ### Parameters -/

theorem paramsOf_eq_flatMap (fs : List Filter) : paramsOf fs = fs.flatMap params := by
  induction fs with
  | nil => rfl
  | cons f fs ih => rw [paramsOf, ih, List.flatMap_cons]

/-- The parameters are those of the comparisons, from left to right. -/
theorem params_eq_flatMap (f : Filter) : f.params = f.leaves.flatMap Leaf.params := by
  induction f with
  | always => rfl
  | leaf c path operand => simp [params, leaves, Leaf.params]
  | all fs ih | any fs ih =>
    rw [params, leaves, paramsOf_eq_flatMap, leavesOf_eq_flatMap, List.flatMap_assoc]
    exact List.flatMap_congr ih
  | not f ih => rwa [params, leaves]

/-- The comparisons that bind a value, from left to right. -/
def boundLeaves (f : Filter) : List Leaf := f.leaves.filter Leaf.binds

theorem flatMap_params (ls : List Leaf) :
    ls.flatMap Leaf.params = (ls.filter Leaf.binds).map Leaf.bound := by
  induction ls with
  | nil => rfl
  | cons l ls ih =>
    rw [List.flatMap_cons, ih, Leaf.params_eq, List.filter_cons]
    cases l.binds <;> simp

theorem params_eq_map (f : Filter) : f.params = f.boundLeaves.map Leaf.bound := by
  rw [params_eq_flatMap, flatMap_params, boundLeaves]

/-! ### The parts of a text -/

/-- A part of the text of a condition. -/
inductive Part where
  /-- A word or a parenthesis. -/
  | words (cs : List Char)
  /-- A comparison. Its placeholder, if it has one, is the one after the offset. -/
  | comparison (offset : Nat) (leaf : Leaf)

namespace Part

/-- The characters of a part. -/
def chars : Part → List Char
  | words cs => cs
  | comparison offset l => leafSql offset l.1 l.2.1 l.2.2

/-- A comparison with the number of its placeholder, if it has one. -/
def comparison? : Part → Option (Leaf × Nat)
  | words _ => none
  | comparison offset l => some (l, offset + 1)

@[simp] theorem filterMap_words (cs : List Char) (ps : List Part) :
    (words cs :: ps).filterMap comparison? = ps.filterMap comparison? := rfl

end Part

mutual

/-- The parts of the text of a condition, with placeholders numbered on from an offset. -/
def parts (offset : Nat) : Filter → List Part
  | always => [.words "TRUE".toList]
  | leaf c path operand => [.comparison offset (c, path, operand)]
  | all [] => [.words "TRUE".toList]
  | all (f :: fs) =>
    .words ['('] :: parts offset f ++ partsRest (offset + f.params.length) " AND " fs ++ [.words [')']]
  | any [] => [.words "FALSE".toList]
  | any (f :: fs) =>
    .words ['('] :: parts offset f ++ partsRest (offset + f.params.length) " OR " fs ++ [.words [')']]
  | not f => .words "NOT (".toList :: parts offset f ++ [.words [')']]

/-- The parts of the texts that follow a first one, each after a word. -/
def partsRest (offset : Nat) (word : String) : List Filter → List Part
  | [] => []
  | f :: fs =>
    .words word.toList :: parts offset f ++ partsRest (offset + f.params.length) word fs

end

theorem flatMap_partsRest {fs : List Filter}
    (h : ∀ f ∈ fs, ∀ offset, (f.parts offset).flatMap Part.chars = f.sqlChars offset) (offset : Nat)
    (word : String) : (partsRest offset word fs).flatMap Part.chars = sqlRest offset word fs := by
  induction fs generalizing offset with
  | nil => rfl
  | cons f fs ih =>
    rw [List.forall_mem_cons] at h
    simp [partsRest, sqlRest, Part.chars, h.1, ih h.2]

/-- **The parts one after another are the text.** -/
theorem flatMap_parts (f : Filter) :
    ∀ offset, (f.parts offset).flatMap Part.chars = f.sqlChars offset := by
  induction f with
  | always => intro offset; simp [parts, sqlChars, Part.chars]
  | leaf c path operand => intro offset; simp [parts, sqlChars, Part.chars]
  | all fs ih | any fs ih =>
    intro offset
    cases fs with
    | nil => simp [parts, sqlChars, Part.chars]
    | cons f fs =>
      rw [List.forall_mem_cons] at ih
      simp [parts, sqlChars, inParens, Part.chars, ih.1, flatMap_partsRest ih.2]
  | not f ih => intro offset; simp [parts, sqlChars, inParens, Part.chars, ih]

/-- Comparisons in order, each with the number that comes next after the offset and the values bound by
those before it. -/
def counted (offset : Nat) : List Leaf → List (Leaf × Nat)
  | [] => []
  | l :: ls => (l, offset + 1) :: counted (offset + l.params.length) ls

theorem counted_append (offset : Nat) (ls ms : List Leaf) :
    counted offset (ls ++ ms) =
      counted offset ls ++ counted (offset + (ls.flatMap Leaf.params).length) ms := by
  induction ls generalizing offset with
  | nil => rfl
  | cons l ls ih => simp [counted, ih, Nat.add_assoc]

theorem filterMap_partsRest {fs : List Filter}
    (h : ∀ f ∈ fs, ∀ offset, (f.parts offset).filterMap Part.comparison? = counted offset f.leaves)
    (offset : Nat) (word : String) :
    (partsRest offset word fs).filterMap Part.comparison? = counted offset (leavesOf fs) := by
  induction fs generalizing offset with
  | nil => rfl
  | cons f fs ih =>
    rw [List.forall_mem_cons] at h
    rw [leavesOf, counted_append, ← params_eq_flatMap]
    simp [partsRest, h.1, ih h.2]

/-- **The comparisons of the parts are those of the filter**, from left to right, and their numbers count the
values bound before them. -/
theorem filterMap_parts (f : Filter) :
    ∀ offset, (f.parts offset).filterMap Part.comparison? = counted offset f.leaves := by
  induction f with
  | always => intro offset; rfl
  | leaf c path operand => intro offset; rfl
  | all fs ih | any fs ih =>
    intro offset
    rw [leaves]
    cases fs with
    | nil => rfl
    | cons f fs =>
      rw [List.forall_mem_cons] at ih
      rw [leavesOf, counted_append, ← params_eq_flatMap]
      simp [parts, ih.1, filterMap_partsRest ih.2]
  | not f ih =>
    intro offset
    rw [leaves]
    simp [parts, ih]

theorem map_fst_counted (offset : Nat) (ls : List Leaf) : (counted offset ls).map Prod.fst = ls := by
  induction ls generalizing offset with
  | nil => rfl
  | cons l ls ih => rw [counted, List.map_cons, ih]

/-- Those that bind a value have the numbers after the offset, one after another. -/
theorem filter_counted (offset : Nat) (ls : List Leaf) :
    (counted offset ls).filter (fun l => l.1.binds) =
      (ls.filter Leaf.binds).zipIdx (offset + 1) := by
  induction ls generalizing offset with
  | nil => rfl
  | cons l ls ih =>
    rw [counted, List.filter_cons, List.filter_cons, ih, Leaf.params_eq]
    cases l.binds <;> simp

/-! ### Writing in one pass -/

/-- The texts of several filters, each numbered on from those before it. -/
def texts (offset : Nat) : List Filter → List (List Char)
  | [] => []
  | f :: fs => f.sqlChars offset :: texts (offset + f.params.length) fs

theorem texts_eq_mapIdx (offset : Nat) (fs : List Filter) :
    texts offset fs =
      fs.mapIdx fun i f => f.sqlChars (offset + (paramsOf (fs.take i)).length) := by
  induction fs generalizing offset with
  | nil => rfl
  | cons f fs ih =>
    rw [texts, List.mapIdx_cons, ih]
    simp [paramsOf, Nat.add_assoc]

/-- A first text and those that follow it are the texts with the word between them. -/
theorem sqlChars_append_sqlRest (offset : Nat) (word : String) (f : Filter) (fs : List Filter) :
    f.sqlChars offset ++ sqlRest (offset + f.params.length) word fs =
      word.toList.intercalate (texts offset (f :: fs)) := by
  induction fs generalizing offset f with
  | nil => simp [sqlRest, texts]
  | cons g fs ih =>
    rw [sqlRest, List.append_assoc, ih, texts, texts, texts, List.intercalate_cons_cons,
      List.append_assoc]

theorem sqlChars_all (offset : Nat) {fs : List Filter} (h : fs ≠ []) :
    (all fs).sqlChars offset = inParens "" (" AND ".toList.intercalate (texts offset fs)) := by
  obtain ⟨f, fs, rfl⟩ := List.exists_cons_of_ne_nil h
  rw [sqlChars, sqlChars_append_sqlRest]

theorem sqlChars_any (offset : Nat) {fs : List Filter} (h : fs ≠ []) :
    (any fs).sqlChars offset = inParens "" (" OR ".toList.intercalate (texts offset fs)) := by
  obtain ⟨f, fs, rfl⟩ := List.exists_cons_of_ne_nil h
  rw [sqlChars, sqlChars_append_sqlRest]

mutual

/-- The text of a condition and the values bound after it is written, from those bound before. A comparison
that binds a value appends it, and the length of the list then is its number, counted from the offset. -/
def write (offset : Nat) : Filter → List Value → List Char × List Value
  | always, bound => ("TRUE".toList, bound)
  | leaf c path operand, bound =>
    (leafSql (offset + bound.length) c path operand, bound ++ leafParams c operand)
  | all fs, bound =>
    let (texts, bound) := writeAll offset fs bound
    (if texts.isEmpty then "TRUE".toList else inParens "" (" AND ".toList.intercalate texts), bound)
  | any fs, bound =>
    let (texts, bound) := writeAll offset fs bound
    (if texts.isEmpty then "FALSE".toList else inParens "" (" OR ".toList.intercalate texts), bound)
  | not f, bound =>
    let (text, bound) := write offset f bound
    (inParens "NOT " text, bound)

/-- The texts of several conditions, one after another, and the values bound then. -/
def writeAll (offset : Nat) : List Filter → List Value → List (List Char) × List Value
  | [], bound => ([], bound)
  | f :: fs, bound =>
    let (text, bound) := write offset f bound
    let (texts, bound) := writeAll offset fs bound
    (text :: texts, bound)

end

theorem writeAll_eq {offset : Nat} {fs : List Filter}
    (h : ∀ f ∈ fs, ∀ bound, f.write offset bound =
      (f.sqlChars (offset + bound.length), bound ++ f.params)) (bound : List Value) :
    writeAll offset fs bound = (texts (offset + bound.length) fs, bound ++ paramsOf fs) := by
  induction fs generalizing bound with
  | nil => simp [writeAll, texts, paramsOf]
  | cons f fs ih =>
    rw [List.forall_mem_cons] at h
    simp [writeAll, texts, paramsOf, h.1, ih h.2, Nat.add_assoc]

/-- **The pass writes the text that counts on from the values bound so far**, and appends the parameters. -/
theorem write_eq (offset : Nat) (f : Filter) : ∀ bound, f.write offset bound =
    (f.sqlChars (offset + bound.length), bound ++ f.params) := by
  induction f with
  | always => intro bound; simp [write, sqlChars, params]
  | leaf c path operand => intro bound; simp [write, sqlChars, params]
  | all fs ih =>
    intro bound
    rw [write, writeAll_eq ih, params]
    cases fs with
    | nil => rfl
    | cons f fs => rw [sqlChars_all _ (List.cons_ne_nil f fs)]; rfl
  | any fs ih =>
    intro bound
    rw [write, writeAll_eq ih, params]
    cases fs with
    | nil => rfl
    | cons f fs => rw [sqlChars_any _ (List.cons_ne_nil f fs)]; rfl
  | not f ih => intro bound; simp [write, sqlChars, params, ih]

/-! ### How placeholders and parameters line up -/

/-- The text of a comparison that binds a value is the same but for the number of its placeholder. -/
theorem chars_comparison_of_binds {l : Leaf} (h : l.binds = true) :
    ∃ before after, ∀ offset, (Part.comparison offset l).chars =
      before ++ '$' :: Number.natDigits (offset + 1) ++ after := by
  obtain ⟨c, path, operand⟩ := l
  simp only [Leaf.binds, Bool.not_eq_true'] at h
  simp only [Part.chars, leafSql, h, Bool.false_eq_true, if_false]
  split
  · refine ⟨inParens "LOWER" (columnChars path) ++ " = LOWER(".toList, [')'], fun offset => ?_⟩
    simp [inParens]
  · refine ⟨columnChars path ++ ' ' :: c.sqlOperator.toList ++ [' '], [], fun offset => ?_⟩
    simp

/-- The parts of the text of a condition show which comparison has which placeholder and parameter. -/
structure LinesUp (offset : Nat) (f : Filter) : Prop where
  /-- The parts one after another are the text. -/
  text : f.sql offset = String.ofList ((f.parts offset).flatMap Part.chars)
  /-- The comparisons among them are those of the filter, from left to right. -/
  comparisons : ((f.parts offset).filterMap Part.comparison?).map Prod.fst = f.leaves
  /-- Of those that bind a value, the k-th has the k-th number after the offset. -/
  placeholders : ((f.parts offset).filterMap Part.comparison?).filter (fun l => l.1.binds) =
    f.boundLeaves.zipIdx (offset + 1)
  /-- These numbers are each used once, and there are as many as parameters. -/
  numbers : (f.boundLeaves.zipIdx (offset + 1)).map Prod.snd =
    List.range' (offset + 1) f.params.length
  /-- The k-th parameter is the value that the k-th of these comparisons binds. -/
  params : f.params = f.boundLeaves.map Leaf.bound

theorem linesUp (offset : Nat) (f : Filter) : f.LinesUp offset where
  text := by rw [flatMap_parts, sql]
  comparisons := by rw [filterMap_parts, map_fst_counted]
  placeholders := by rw [filterMap_parts, filter_counted, boundLeaves]
  numbers := by rw [List.zipIdx_map_snd, params_eq_map, List.length_map]
  params := params_eq_map f

/-- **Placeholders and parameters line up**: the k-th comparison that binds a value carries the k-th
placeholder after the offset and has the k-th parameter; one pass beside a list of values bound before
writes the same, the values appended; and a part of a condition is written like a condition of its own,
with the offset advanced by the number of parameters before it. -/
theorem placeholders_line_up (offset : Nat) :
    (∀ f : Filter, f.LinesUp offset ∧
      ∀ bound, f.write offset bound = (f.sqlChars (offset + bound.length), bound ++ f.params)) ∧
    (∀ l : Leaf, l.binds = true → ∃ before after, ∀ n, (Part.comparison n l).chars =
      before ++ '$' :: Number.natDigits (n + 1) ++ after) ∧
    (∀ fs : List Filter, fs ≠ [] →
      let parts := fs.mapIdx fun i f => f.sqlChars (offset + (paramsOf (fs.take i)).length)
      (all fs).sqlChars offset = inParens "" (" AND ".toList.intercalate parts) ∧
        (any fs).sqlChars offset = inParens "" (" OR ".toList.intercalate parts)) ∧
    ∀ f : Filter, (not f).sqlChars offset = inParens "NOT " (f.sqlChars offset) := by
  refine ⟨fun f => ⟨linesUp offset f, write_eq offset f⟩, fun l => chars_comparison_of_binds,
    fun fs hfs => ?_, fun f => by rw [sqlChars]⟩
  rw [← texts_eq_mapIdx]
  exact ⟨sqlChars_all offset hfs, sqlChars_any offset hfs⟩

/-- Customers by name, or without a nickname, or grown up and with a membership. -/
def nameOrMember : Filter :=
  any [leaf .contains "name" (.text "A"), leaf .eq "nickname" .null,
    all [leaf .eq "membership" (.text "gold"), leaf .gt "age" (.int 18)]]

theorem placeholders_line_up_counted :
    nameOrMember.sql 2 =
        "(name LIKE $3 OR nickname IS NULL OR (membership = $4 AND age > $5))" ∧
      ((nameOrMember.parts 2).filterMap Part.comparison?).filter (fun l => l.1.binds) =
        [((.contains, "name", .text "A"), 3), ((.eq, "membership", .text "gold"), 4),
          ((.gt, "age", .int 18), 5)] ∧
      nameOrMember.params = [.text "%A%", .text "gold", .int 18] ∧
      (nameOrMember.write 0 [.null, .null]).1 = nameOrMember.sqlChars 2 := by
  obtain ⟨hlines, -, -, -⟩ := placeholders_line_up 2
  obtain ⟨hpass, -, -, -⟩ := placeholders_line_up 0
  refine ⟨by decide +kernel, ?_, ?_, ?_⟩
  · rw [(hlines nameOrMember).1.placeholders]
    rfl
  · rw [(hlines nameOrMember).1.params]
    rfl
  · rw [(hpass nameOrMember).2]
    rfl

end Filterbook.Filter
