import Filterbook.Number.Digits
import Filterbook.Text.Blank
import Mathlib.Data.List.TakeWhile

/-!
# Trimming

A text is blanks, the text without them, and blanks again; what blanks there are makes no difference to
what is left.
-/

namespace Filterbook.Text

open Filterbook.Number

variable {cs blanks : List Char}

/-- The characters that ASCII prints are no blanks. -/
theorem isBlank_eq_false {c : Char} (h : 33 ≤ c.toNat ∧ c.toNat ≤ 126) : isBlank c = false := by
  simp only [isBlank, Bool.or_eq_false_iff, Bool.and_eq_false_iff, decide_eq_false_iff_not,
    beq_eq_false_iff_ne]
  omega

theorem isBlank_of_isDigit {c : Char} (h : isDigit c = true) : isBlank c = false := by
  have hrange := isDigit_iff.mp h
  exact isBlank_eq_false (by omega)

theorem dropBlanks_append (h : ∀ c ∈ blanks, isBlank c = true) (cs : List Char) :
    dropBlanks (blanks ++ cs) = dropBlanks cs := by
  rw [dropBlanks, List.dropWhile_append_of_pos h, dropBlanks]

/-- Blanks in front make no difference. -/
theorem trimChars_append_left (h : ∀ c ∈ blanks, isBlank c = true) (cs : List Char) :
    trimChars (blanks ++ cs) = trimChars cs := by
  rw [trimChars, dropBlanks_append h, trimChars]

/-- Blanks at the end make no difference. -/
theorem trimChars_append_right (cs : List Char) (h : ∀ c ∈ blanks, isBlank c = true) :
    trimChars (cs ++ blanks) = trimChars cs := by
  have hreverse : ∀ c ∈ blanks.reverse, isBlank c = true := fun c hc => h c (List.mem_reverse.mp hc)
  have hblanks : dropBlanks blanks = [] := List.dropWhile_eq_nil_iff.mpr h
  have hdrop : dropBlanks (cs ++ blanks) =
      if (dropBlanks cs).isEmpty then dropBlanks blanks else dropBlanks cs ++ blanks :=
    List.dropWhile_append
  rw [trimChars, hdrop, trimChars]
  split
  · next hempty => rw [hblanks, List.isEmpty_iff.mp hempty]
  · rw [List.reverse_append, dropBlanks_append hreverse]

/-- What begins with no blank keeps all of its characters. -/
theorem dropBlanks_of_head (h : ∀ c ∈ cs.head?, isBlank c = false) : dropBlanks cs = cs := by
  cases cs with
  | nil => rfl
  | cons c cs => simp [dropBlanks, h c rfl]

/-- A text that neither begins nor ends with a blank is left as it is. -/
theorem trimChars_of_ends (hfirst : ∀ c ∈ cs.head?, isBlank c = false)
    (hlast : ∀ c ∈ cs.getLast?, isBlank c = false) : trimChars cs = cs := by
  rw [trimChars, dropBlanks_of_head hfirst, dropBlanks_of_head (by rwa [List.head?_reverse]),
    List.reverse_reverse]

/-- A text without blanks is left as it is. -/
theorem trimChars_of_no_blank (h : ∀ c ∈ cs, isBlank c = false) : trimChars cs = cs :=
  trimChars_of_ends (fun c hc => h c (List.mem_of_mem_head? hc))
    fun c hc => h c (List.mem_of_mem_getLast? hc)

/-- What trimming takes away are blanks in front and at the end. -/
theorem exists_trimChars (cs : List Char) :
    ∃ lead trail, cs = lead ++ (trimChars cs ++ trail) ∧
      (∀ c ∈ lead, isBlank c = true) ∧ ∀ c ∈ trail, isBlank c = true := by
  have hrest : dropBlanks cs = trimChars cs ++ ((dropBlanks cs).reverse.takeWhile isBlank).reverse := by
    rw [trimChars, ← List.reverse_append, dropBlanks, dropBlanks, List.takeWhile_append_dropWhile,
      List.reverse_reverse]
  refine ⟨cs.takeWhile isBlank, ((dropBlanks cs).reverse.takeWhile isBlank).reverse, ?_, ?_, ?_⟩
  · rw [← hrest, dropBlanks, List.takeWhile_append_dropWhile]
  · exact fun c hc => List.mem_takeWhile_imp hc
  · exact fun c hc => List.mem_takeWhile_imp (List.mem_reverse.mp hc)

theorem mem_of_mem_trimChars {c : Char} (h : c ∈ trimChars cs) : c ∈ cs := by
  obtain ⟨lead, trail, hcs, -⟩ := exists_trimChars cs
  exact hcs ▸ List.mem_append_right _ (List.mem_append_left _ h)

end Filterbook.Text
