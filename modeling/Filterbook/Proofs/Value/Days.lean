import Filterbook.Proofs.Calendar.Reading
import Filterbook.Proofs.Text.Split
import Filterbook.Value.Conversion

/-!
# Days as they are written

A day is four digits of a year, one or two of a month and one or two of a day, with hyphens between them.

## What is proved

* `dateParts?_eq_some_iff`: the three numbers of such a text.
* `readDate_iff_spells`: a text is read as a day when, but for blanks around it, it spells that day.
-/

namespace Filterbook.Value

open Calendar Number Text

/-- A year of four digits. -/
structure FullYear (ys : List Char) (y : Int) : Prop where
  /-- They are digits. -/
  all : AllDigits ys
  /-- There are four. -/
  length_eq : ys.length = 4
  /-- They write the year. -/
  value : (digitsValue ys : Int) = y

theorem FullYear.writes {ys : List Char} {y : Int} (h : FullYear ys y) : WritesYear ys y := by
  obtain ⟨hall, hlength, rfl⟩ := h
  exact .plain hall (List.ne_nil_of_length_pos (by omega)) (by omega)

theorem fullYear_of_writesYear {ys : List Char} {y : Int} (h : WritesYear ys y)
    (hfour : AllDigits ys ∧ ys.length = 4) : FullYear ys y := by
  cases h with
  | plain => exact ⟨hfour.1, hfour.2, rfl⟩
  | negative => exact absurd (hfour.1 '-' (List.mem_cons_self ..)) (by decide)
  | positive => exact absurd (hfour.1 '+' (List.mem_cons_self ..)) (by decide)

/-- A year, a month and a day with hyphens between them, the year in a form of its own. -/
def SpellsDay (IsYear : List Char → Int → Prop) (cs : List Char) (date : Date) : Prop :=
  ∃ ys ms ds, cs = ys ++ '-' :: (ms ++ '-' :: ds) ∧ IsYear ys date.year ∧
    WritesNumber ms date.month ∧ WritesNumber ds date.day

theorem SpellsDay.mono {IsYear IsYear' : List Char → Int → Prop} {cs : List Char} {date : Date}
    (hyear : ∀ ys rest, cs = ys ++ '-' :: rest → IsYear ys date.year → IsYear' ys date.year)
    (h : SpellsDay IsYear cs date) : SpellsDay IsYear' cs date := by
  obtain ⟨ys, ms, ds, rfl, hys, hms, hds⟩ := h
  exact ⟨ys, ms, ds, rfl, hyear ys _ rfl hys, hms, hds⟩

theorem SpellsDay.hyphen_mem {IsYear : List Char → Int → Prop} {cs : List Char} {date : Date}
    (h : SpellsDay IsYear cs date) : '-' ∈ cs := by
  obtain ⟨ys, ms, ds, rfl, -⟩ := h
  simp

/-- Three runs of digits and the hyphens between them are digits and hyphens. -/
theorem digits_and_hyphens {ys ms ds : List Char} (hys : AllDigits ys) (hms : AllDigits ms)
    (hds : AllDigits ds) : ∀ c ∈ ys ++ '-' :: (ms ++ '-' :: ds), isDigit c = true ∨ c = '-' := by
  intro c hc
  simp only [List.mem_append, List.mem_cons] at hc
  rcases hc with hc | hc | hc | hc | hc
  · exact .inl (hys c hc)
  · exact .inr hc
  · exact .inl (hms c hc)
  · exact .inr hc
  · exact .inl (hds c hc)

theorem SpellsDay.chars {cs : List Char} {date : Date} (h : SpellsDay FullYear cs date) :
    ∀ c ∈ cs, isDigit c = true ∨ c = '-' := by
  obtain ⟨ys, ms, ds, rfl, hys, hms, hds⟩ := h
  exact digits_and_hyphens hys.all hms.all hds.all

/-- The year, the month and the day of a text. -/
theorem dateParts?_eq_some_iff {cs : List Char} {y m d : Nat} :
    dateParts? cs = some (y, m, d) ↔
      ∃ ys ms ds, cs = ys ++ '-' :: (ms ++ '-' :: ds) ∧ FullYear ys y ∧ WritesNumber ms m ∧
        WritesNumber ds d := by
  constructor
  · intro h
    unfold dateParts? at h
    split at h
    · next ys ms ds hsplit =>
      simp only [Option.bind_eq_bind, Option.bind_eq_some_iff, Option.some.injEq, Prod.mk.injEq,
        Option.ite_none_right_eq_some, Bool.and_eq_true, decide_eq_true_eq, List.all_eq_true] at h
      obtain ⟨_, ⟨⟨⟨hfour, hfour'⟩, hys⟩, rfl⟩, _, ⟨⟨⟨hms, hms'⟩, hmonth⟩, rfl⟩,
        _, ⟨⟨⟨hds, hds'⟩, hday⟩, rfl⟩, rfl, rfl, rfl⟩ := h
      have hchars := intercalate_splitChars ['-'] cs
      rw [hsplit] at hchars
      exact ⟨ys, ms, ds, by simpa using hchars.symm, ⟨hys, le_antisymm hfour' hfour, rfl⟩,
        ⟨hmonth, List.ne_nil_of_length_pos hms, hms', rfl⟩,
        ⟨hday, List.ne_nil_of_length_pos hds, hds', rfl⟩⟩
    · cases h
  · rintro ⟨ys, ms, ds, rfl, hys, hms, hds⟩
    have hdigits : ∀ {part : List Char}, AllDigits part → ¬ ['-'] <:+: part := by
      intro part hpart hinfix
      have hhyphen := hpart '-' ((List.singleton_infix_iff _ _).mp hinfix)
      revert hhyphen
      decide
    have hsplit : splitChars ['-'] (ys ++ '-' :: (ms ++ '-' :: ds)) = [ys, ms, ds] := by
      rw [splitChars_eq_iff (by simp)]
      refine ⟨⟨?_, ?_, hdigits hds.all⟩, by simp⟩
      · simpa using hdigits hys.all
      · simpa using hdigits hms.all
    have hyear : (4 ≤ ys.length && ys.length ≤ 4 && ys.all isDigit) = true := by
      simp [hys.length_eq, List.all_eq_true.mpr hys.all]
    have hnumber : ∀ {part : List Char} {n : Nat}, WritesNumber part n →
        (1 ≤ part.length && part.length ≤ 2 && part.all isDigit) = true := by
      intro part n hpart
      simp [List.all_eq_true.mpr hpart.all, hpart.length_le, Nat.one_le_iff_ne_zero, hpart.ne_nil]
    unfold dateParts?
    simp only [hsplit, if_pos hyear, if_pos (hnumber hms), if_pos (hnumber hds), hms.value, hds.value,
      Int.natCast_inj.mp hys.value, Option.bind_eq_bind, Option.bind_some]

theorem readDate_eq_ok_iff {s : String} {a : Date} : readDate s = .ok a ↔
    ∃ y m d, dateParts? (trimChars s.toList) = some (y, m, d) ∧ Date.make? y m d = some a := by
  unfold readDate
  cases dateParts? (trimChars s.toList) with
  | none => simp
  | some parts =>
    obtain ⟨y, m, d⟩ := parts
    cases hmake : Date.make? y m d with
    | none => simp [hmake, and_assoc]
    | some d => simp [hmake, and_assoc]

/-- **A text is read as the day that it spells**, but for the blanks around it. -/
theorem readDate_iff_spells {s : String} {date : Date} :
    readDate s = .ok date ↔ SpellsDay FullYear (trimChars s.toList) date := by
  simp only [readDate_eq_ok_iff, dateParts?_eq_some_iff, Date.make?_eq_some_iff]
  constructor
  · rintro ⟨y, m, d, ⟨ys, ms, ds, hcs, hys, hms, hds⟩, hy, hm, hd⟩
    exact ⟨ys, ms, ds, hcs, hy ▸ hys, hm ▸ hms, hd ▸ hds⟩
  · rintro ⟨ys, ms, ds, hcs, hys, hms, hds⟩
    have hyear := hys.value
    exact ⟨_, _, _, ⟨ys, ms, ds, hcs, hyear ▸ hys, hms, hds⟩, hyear.symm, rfl, rfl⟩

end Filterbook.Value
