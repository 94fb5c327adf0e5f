import Filterbook.Proofs.Filter.Reached
import Filterbook.Proofs.Text.Case
import Filterbook.Proofs.Text.Split
import Filterbook.Proofs.Value.Place

/-!
# Comparisons without regard to case

A comparison without regard to case lowers the stored text and the operand, each by itself, and compares
what comes out. Equal texts are lowered to equal texts. A part of a text is lowered as if nothing stood
around it, though, so a capital sigma near one of its ends may come out as the final one where the whole
text goes on.

## What is proved

* `Filter.ieq_of_eq`: a text that is found is found without regard to case.
* `Filter.icontains_of_contains`: so is a part of a text, if its capital sigmas are settled by the part
  itself. They are where it has none.
* `Filter.exists_icontains_misses`: any other part is missed in some row, whatever the path.
* `Filter.case_disregarded_iff`: all of this together.
-/

namespace Filterbook.Filter

open Text

variable {path s : String} {row stored : Json}

/-! ### Stored texts -/

theorem finds_eq_text_iff : Comparator.eq.finds (.text s) stored = true ↔ stored.plainText? = some s := by
  simp [Comparator.finds, Comparator.usesPattern, Comparator.holds, Value.order?, compareText_eq_iff]

theorem finds_ieq_text_iff : Comparator.ieq.finds (.text s) stored = true ↔
    ∃ t, stored.plainText? = some t ∧ lower t = lower s := by
  cases h : stored.plainText? <;>
    simp [Comparator.finds, Comparator.usesPattern, Comparator.holds, Value.order?, h]

theorem finds_contains_text_iff : Comparator.contains.finds (.text s) stored = true ↔
    ∃ t, stored.plainText? = some t ∧ s.toList <:+: t.toList := by
  simp [Comparator.finds, Comparator.usesPattern, Comparator.holds, Value.needle, Option.any_eq_true,
    contains_iff]

theorem finds_icontains_text_iff : Comparator.icontains.finds (.text s) stored = true ↔
    ∃ t, stored.plainText? = some t ∧ lowerChars s.toList <:+: lowerChars t.toList := by
  simp [Comparator.finds, Comparator.usesPattern, Comparator.holds, Value.needle, Option.any_eq_true,
    contains_iff, lower]

/-! ### Rows -/

/-- **A text that is found is found without regard to case.** -/
theorem ieq_of_eq (h : (leaf .eq path (.text s)).holds row = true) :
    (leaf .ieq path (.text s)).holds row = true := by
  have hnull : Value.text s ≠ .null := nofun
  rw [holds_iff_exists (Comparator.asksMissing_of_ne_null hnull _)] at h
  obtain ⟨stored, hreached, hfinds⟩ := h
  rw [holds_iff_exists rfl]
  exact ⟨stored, hreached, finds_ieq_text_iff.mpr ⟨s, finds_eq_text_iff.mp hfinds, rfl⟩⟩

/-- **A part with settled sigmas is found without regard to case** wherever it is found. -/
theorem icontains_of_contains (hs : sigmasSettled [] s.toList = true)
    (h : (leaf .contains path (.text s)).holds row = true) :
    (leaf .icontains path (.text s)).holds row = true := by
  rw [holds_iff_exists rfl] at h
  obtain ⟨stored, hreached, hfinds⟩ := h
  obtain ⟨t, htext, hpart⟩ := finds_contains_text_iff.mp hfinds
  rw [holds_iff_exists rfl]
  exact ⟨stored, hreached, finds_icontains_text_iff.mpr ⟨t, htext, infix_lowerChars hs hpart⟩⟩

/-- **Any other part is missed in some row**, one in which the path reaches a text that contains it. -/
theorem exists_icontains_misses (path : String) (hs : sigmasSettled [] s.toList = false) :
    ∃ row, (leaf .contains path (.text s)).holds row = true ∧
      (leaf .icontains path (.text s)).holds row = false := by
  obtain ⟨cs, hpart, hmissed⟩ := exists_not_infix_lowerChars hs
  obtain ⟨row, hrow⟩ := Json.exists_reachBy (split pathSeparator path) (.str (String.ofList cs))
  have hreach : row.reach path = [.str (String.ofList cs)] := hrow
  have hnull : Value.text s ≠ .null := nofun
  refine ⟨row, ?_, ?_⟩
  · rw [holds_of_reach hreach hnull, finds_contains_text_iff]
    refine ⟨_, rfl, ?_⟩
    rwa [String.toList_ofList]
  · rw [holds_of_reach hreach hnull, Bool.eq_false_iff, ne_eq, finds_icontains_text_iff]
    rintro ⟨t, ht, hlower⟩
    obtain rfl : String.ofList cs = t := Option.some.inj ht
    rw [String.toList_ofList] at hlower
    exact hmissed hlower

/-- **What is found is found without regard to case**: a whole text in every row, on every path; a part of
a text in every row just if the part itself settles what becomes of its capital sigmas. -/
theorem case_disregarded_iff (path s : String) :
    (∀ row, (leaf .eq path (.text s)).holds row = true →
        (leaf .ieq path (.text s)).holds row = true) ∧
      ((∀ row, (leaf .contains path (.text s)).holds row = true →
          (leaf .icontains path (.text s)).holds row = true) ↔ sigmasSettled [] s.toList = true) := by
  refine ⟨fun row => ieq_of_eq, ?_⟩
  constructor
  · intro h
    by_contra hs
    obtain ⟨row, hfound, hmissed⟩ := exists_icontains_misses path (Bool.eq_false_iff.mpr hs)
    rw [h row hfound] at hmissed
    cases hmissed
  · intro hs row
    exact icontains_of_contains hs

/-- A row with the name of a hero, with capital sigmas in the middle and at the end. -/
def hero : Json := .obj [("name", .str "ΟΔΥΣΣΕΑΣ")]

theorem case_disregarded_iff_hero :
    (leaf .ieq "name" (.text "ΟΔΥΣΣΕΑΣ")).holds hero = true ∧
      (leaf .icontains "name" (.text "ΔΥΣΣΕ")).holds hero = true ∧
      (leaf .icontains "name" (.text "ΟΔΥ")).holds hero = true := by
  obtain ⟨hwhole, -⟩ := case_disregarded_iff "name" "ΟΔΥΣΣΕΑΣ"
  obtain ⟨-, hmiddle⟩ := case_disregarded_iff "name" "ΔΥΣΣΕ"
  obtain ⟨-, hfront⟩ := case_disregarded_iff "name" "ΟΔΥ"
  have hsettled : sigmasSettled [] "ΟΔΥ".toList = true := sigmasSettled_of_not_mem (by decide)
  exact ⟨hwhole hero (by decide +kernel), hmiddle.mpr (by decide +kernel) hero (by decide +kernel),
    hfront.mpr hsettled hero (by decide +kernel)⟩

/-- The sigma at the end of the part is lowered to the final one, and the one in the name is not. -/
theorem beginning_missed :
    lower "ΟΔΥΣ" = "οδυς" ∧ lower "ΟΔΥΣΣΕΑΣ" = "οδυσσεας" ∧
      (leaf .contains "name" (.text "ΟΔΥΣ")).holds hero = true ∧
      (leaf .icontains "name" (.text "ΟΔΥΣ")).holds hero = false := by
  refine ⟨?_, ?_, ?_, ?_⟩ <;> decide +kernel

end Filterbook.Filter
