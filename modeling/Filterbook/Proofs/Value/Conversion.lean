import Filterbook.Value.Conversion
import Mathlib.Tactic.SplitIfs

/-!
# What conversion gives

A text is converted when it is read without a cause against it, and what it is converted to is a value
made from what was read: an integer within the bounds of its kind, or a value of the one type that the
kind has. All of this is so with any reader of decimal numbers.

## What is proved

* `Value.int_of_read`, `Value.convert_eq_ok_iff_of_orCause`, `Value.convert_eq_ok_iff_of_map`: what a kind
  gives is made from what its reader gives.
* `Value.isNull_of_read`: no text is read as the null value.
-/

namespace Filterbook.Value

open Number Text

variable {kind : Kind} {s : String} {a : Value} {α : Type} {make : α → Value}

/-! ### Results and causes -/

theorem ofIntText_eq_ok_iff {least greatest : Int} : ofIntText least greatest s = .ok a ↔
    ∃ n, readInt64? s = some n ∧ (least ≤ n ∧ n ≤ greatest) ∧ a = .int n := by
  unfold ofIntText
  cases readInt64? s with
  | none => simp
  | some n =>
    simp only [Option.some.injEq, exists_eq_left']
    split_ifs with hleast hgreatest
    · exact iff_of_false nofun fun h => absurd h.1.1 (by omega)
    · exact iff_of_false nofun fun h => absurd h.1.2 (by omega)
    · rw [Except.ok.injEq, and_iff_right (by omega), eq_comm]

/-- A text is refused for one of three causes. -/
theorem ofIntText_eq_error_iff {least greatest : Int} {cause : ConversionCause} :
    ofIntText least greatest s = .error cause ↔ (readInt64? s = none ∧ cause = .notInteger s) ∨
      ∃ n, readInt64? s = some n ∧ ((n < least ∧ cause = .belowLeast least) ∨
        (least ≤ n ∧ greatest < n ∧ cause = .aboveGreatest greatest)) := by
  unfold ofIntText
  cases readInt64? s with
  | none => simp [eq_comm]
  | some n =>
    simp only [Option.some.injEq, exists_eq_left', reduceCtorEq, false_and, false_or]
    split_ifs with hleast hgreatest
    · simp [hleast, Int.not_le.mpr hleast, eq_comm]
    · simp [hleast, Int.not_lt.mp hleast, gt_iff_lt.mp hgreatest, eq_comm]
    · simp [hleast, hgreatest]

theorem orCause_eq_ok_iff {cause : ConversionCause} {o : Option α} :
    orCause make cause o = .ok a ↔ ∃ x, o = some x ∧ a = make x := by
  cases o with
  | none => simp [orCause]
  | some x => simp [orCause, eq_comm]

theorem map_eq_ok_iff {e : Except ConversionCause α} :
    e.map make = .ok a ↔ ∃ x, e = .ok x ∧ a = make x := by
  cases e with
  | error cause => simp [Except.map]
  | ok x => simp [Except.map, eq_comm]

/-! ### The kinds -/

section Reader

variable [DecimalReader]

theorem convert_eq_ok_iff : convert kind s = .ok a ↔ Value.read kind s = .ok a := by
  rw [convert]
  cases Value.read kind s <;> simp

/-- An integer kind reads a text between its bounds. -/
theorem read_of_intRange {range : Int × Int} (hrange : intRange? kind = some range) :
    Value.read kind s = ofIntText range.1 range.2 s := by
  simp only [Value.read, hrange]

/-- An integer kind gives the integer that the text writes. -/
theorem int_of_read {range : Int × Int} (hrange : intRange? kind = some range)
    (h : Value.read kind s = .ok a) : ∃ n, readInt64? s = some n ∧ a = .int n := by
  rw [read_of_intRange hrange, ofIntText_eq_ok_iff] at h
  obtain ⟨n, hn, -, ha⟩ := h
  exact ⟨n, hn, ha⟩

/-- A kind whose reader gives something or nothing. -/
theorem convert_eq_ok_iff_of_orCause {o : Option α} (cause : ConversionCause)
    (hread : Value.read kind s = orCause make cause o) :
    convert kind s = .ok a ↔ ∃ x, o = some x ∧ a = make x := by
  rw [convert_eq_ok_iff, hread, orCause_eq_ok_iff]

/-- A kind whose reader has a cause of its own. -/
theorem convert_eq_ok_iff_of_map {e : Except ConversionCause α} (hread : Value.read kind s = e.map make) :
    convert kind s = .ok a ↔ ∃ x, e = .ok x ∧ a = make x := by
  rw [convert_eq_ok_iff, hread, map_eq_ok_iff]

theorem convert_decimal_eq_ok_iff_readTyped? : convert .decimal s = .ok a ↔
    ∃ d, Decimal.readTyped? (trimChars s.toList) = some d ∧ a = .decimal d :=
  convert_eq_ok_iff_of_orCause (.notDecimal s) (by rfl)

theorem convert_date_eq_ok_iff : convert .date s = .ok a ↔ ∃ d, readDate s = .ok d ∧ a = .date d :=
  convert_eq_ok_iff_of_map (by rfl)

theorem convert_dateTime_eq_ok_iff : convert .dateTime s = .ok a ↔
    ∃ t, readDateTime s = .ok t ∧ a = .dateTime t :=
  convert_eq_ok_iff_of_map (by rfl)

theorem convert_time_eq_ok_iff : convert .time s = .ok a ↔ ∃ t, readTime? s = some t ∧ a = .time t :=
  convert_eq_ok_iff_of_orCause (.timeForm s) (by rfl)

theorem convert_uuid_eq_ok_iff : convert .uuid s = .ok a ↔
    ∃ u, Uuid.read? (trim s) = some u ∧ a = .uuid u :=
  convert_eq_ok_iff_of_orCause (.notUuid s) (by rfl)

/-- **No text is read as the null value**, whatever the kind. -/
theorem isNull_of_read (h : Value.read kind s = .ok a) : a.isNull = false := by
  cases hrange : intRange? kind with
  | some range =>
    obtain ⟨n, -, rfl⟩ := int_of_read hrange h
    rfl
  | none =>
    cases a with
    | null => cases kind <;> simp [Value.read, intRange?, orCause_eq_ok_iff, map_eq_ok_iff] at h hrange
    | _ => rfl

theorem ne_null_of_convert (h : convert kind s = .ok a) : a ≠ .null := by
  rintro rfl
  exact Bool.noConfusion (isNull_of_read (convert_eq_ok_iff.mp h))

end Reader

/-- With the reader that is used, a decimal number is read in one go. -/
theorem convert_decimal_eq_ok_iff : convert .decimal s = .ok a ↔
    ∃ d, Decimal.read? (trimChars s.toList) = some d ∧ a = .decimal d := by
  rw [convert_decimal_eq_ok_iff_readTyped?, Decimal.readTyped?_eq_read?]

end Filterbook.Value
