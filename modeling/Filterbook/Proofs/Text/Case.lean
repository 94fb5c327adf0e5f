import Filterbook.Text.Case
import Mathlib.Data.List.Infix

/-!
# Lower case in context

Every character is lowered by itself, but for one: what becomes of a capital sigma depends on the
characters around it, up to the first on each side that counts. A part of a text is therefore not always
lowered to a part of the lowered text. It is when the part itself holds what its sigmas depend on, and
otherwise a single letter more, in front of it or behind it, makes the difference.

## What is proved

* `lowerAfter_append`: a text is lowered piece by piece, each piece between its neighbours.
* `infix_lowerChars`: a part with settled sigmas is lowered to a part.
* `exists_not_infix_lowerChars`: any other part is lowered to something else in some text.
-/

namespace Filterbook.Text

/-! ### The two sides of a sigma -/

/-- What one side of a sigma says: whether the first character that counts is cased. Nothing, when no
character counts. -/
def side? (cs : List Char) : Option Bool :=
  (cs.find? fun c => !inRanges caseIgnorableRanges c.toNat).map fun c => inRanges casedRanges c.toNat

theorem meetsCased_eq (cs : List Char) : meetsCased cs = (side? cs == some true) := by
  unfold meetsCased side?
  induction cs with
  | nil => rfl
  | cons c cs ih =>
    rw [List.dropWhile_cons, List.find?_cons]
    by_cases hc : inRanges caseIgnorableRanges c.toNat = true
    · simp only [hc, if_true, Bool.not_true, ih]
    · simp [hc]

theorem side?_append (cs more : List Char) : side? (cs ++ more) = (side? cs).or (side? more) := by
  unfold side?
  rw [List.find?_append, Option.map_or]

/-- A sigma between two sides ends a word. -/
def endsWord (before after : Option Bool) : Bool := before == some true && after != some true

/-- Whatever else may stand around the two sides, a sigma between them ends a word, or does not. -/
def isSettled (before after : Option Bool) : Bool :=
  after == some true || before == some false || (before.isSome && after.isSome)

theorem endsWord_or {before after : Option Bool} (h : isSettled before after = true)
    (further further' : Option Bool) :
    endsWord (before.or further) (after.or further') = endsWord before after := by
  revert h
  rcases before with _ | _ | _ <;> rcases after with _ | _ | _ <;> simp [isSettled, endsWord]

/-- A letter in front or a letter behind decides what is not settled. -/
theorem endsWord_or_ne {before after : Option Bool} (h : isSettled before after = false) :
    endsWord (before.or (some true)) after ≠ endsWord before after ∨
      endsWord before (after.or (some true)) ≠ endsWord before after := by
  revert h
  rcases before with _ | _ | _ <;> rcases after with _ | _ | _ <;> simp [isSettled, endsWord]

/-- A small sigma, the final one at the end of a word. -/
def smallSigma (ends : Bool) : Char := if ends then 'ς' else 'σ'

theorem smallSigma_inj {ends ends' : Bool} : smallSigma ends = smallSigma ends' ↔ ends = ends' := by
  cases ends <;> cases ends' <;> decide

/-! ### A piece between its neighbours -/

/-- The lower-case form of the characters between those before, which are held in reverse, and those
after. -/
def lowerBetween : (before : List Char) → List Char → (after : List Char) → List Char
  | _, [], _ => []
  | before, c :: cs, after =>
    (if c = 'Σ' then [smallSigma (endsWord (side? before) (side? (cs ++ after)))] else lowerChar c) ++
      lowerBetween (c :: before) cs after

theorem lowerAfter_append (before cs rest : List Char) :
    lowerAfter before (cs ++ rest) =
      lowerBetween before cs rest ++ lowerAfter (cs.reverse ++ before) rest := by
  induction cs generalizing before with
  | nil => rfl
  | cons c cs ih =>
    rw [List.cons_append, lowerAfter, lowerBetween, ih]
    by_cases hc : c = 'Σ'
    · simp [hc, smallSigma, endsWord, meetsCased_eq]
    · simp [hc]

theorem lowerAfter_eq (before cs : List Char) : lowerAfter before cs = lowerBetween before cs [] := by
  have happend := lowerAfter_append before cs []
  rwa [List.append_nil, lowerAfter, List.append_nil] at happend

/-- As many characters come out whatever stands around. -/
theorem length_lowerBetween (before before' cs after after' : List Char) :
    (lowerBetween before cs after).length = (lowerBetween before' cs after').length := by
  induction cs generalizing before before' with
  | nil => rfl
  | cons c cs ih =>
    rw [lowerBetween, lowerBetween, List.length_append, List.length_append, ih (c :: before) (c :: before')]
    by_cases hc : c = 'Σ' <;> simp [hc]

/-! ### Settled sigmas -/

/-- Every capital sigma is settled by the characters on its two sides, those before the first of them held
in reverse. -/
def sigmasSettled : (before : List Char) → List Char → Bool
  | _, [] => true
  | before, c :: cs => (c != 'Σ' || isSettled (side? before) (side? cs)) && sigmasSettled (c :: before) cs

/-- Without capital sigmas there is nothing to settle. -/
theorem sigmasSettled_of_not_mem {before cs : List Char} (h : 'Σ' ∉ cs) :
    sigmasSettled before cs = true := by
  induction cs generalizing before with
  | nil => rfl
  | cons c cs ih =>
    rw [List.mem_cons, not_or] at h
    simp [sigmasSettled, Ne.symm h.1, ih h.2]

/-- With settled sigmas, what stands around makes no difference. -/
theorem lowerBetween_of_settled {before cs : List Char} (h : sigmasSettled before cs = true)
    (further after : List Char) : lowerBetween (before ++ further) cs after = lowerBetween before cs [] := by
  induction cs generalizing before with
  | nil => rfl
  | cons c cs ih =>
    rw [sigmasSettled, Bool.and_eq_true] at h
    rw [lowerBetween, lowerBetween, ← List.cons_append, ih h.2]
    by_cases hc : c = 'Σ'
    · have hsettled : isSettled (side? before) (side? cs) = true := by simpa [hc] using h.1
      simp only [hc, if_true, List.append_nil, side?_append, endsWord_or hsettled]
    · simp only [hc, if_false]

/-- With a sigma that is not settled, any letter in front makes a difference, or any letter behind. -/
theorem lowerBetween_ne {before cs : List Char} (h : sigmasSettled before cs = false) :
    (∀ d, side? [d] = some true → lowerBetween (before ++ [d]) cs [] ≠ lowerBetween before cs []) ∨
      ∀ d, side? [d] = some true → lowerBetween before cs [d] ≠ lowerBetween before cs [] := by
  induction cs generalizing before with
  | nil => cases h
  | cons c cs ih =>
    rw [sigmasSettled, Bool.and_eq_false_iff] at h
    simp only [lowerBetween, ← List.cons_append]
    by_cases hrest : sigmasSettled (c :: before) cs = true
    · -- the first character is the sigma
      obtain ⟨rfl, hsides⟩ : c = 'Σ' ∧ isSettled (side? before) (side? cs) = false := by
        simpa [hrest] using h
      have hfirst : ∀ {ends ends' : Bool} {rest rest' : List Char},
          [smallSigma ends] ++ rest = [smallSigma ends'] ++ rest' → ends = ends' :=
        fun h => smallSigma_inj.mp (List.cons.inj h).1
      simp only [if_true, List.append_nil, side?_append]
      rcases endsWord_or_ne hsides with hne | hne
      · refine .inl fun d hd heq => hne ?_
        rw [← hd]
        exact hfirst heq
      · refine .inr fun d hd heq => hne ?_
        rw [← hd]
        exact hfirst heq
    · -- the first character takes as much room in all forms
      rw [Bool.not_eq_true] at hrest
      have hroom : ∀ ends ends' : Bool,
          (if c = 'Σ' then [smallSigma ends] else lowerChar c).length =
            (if c = 'Σ' then [smallSigma ends'] else lowerChar c).length := by
        intro ends ends'
        by_cases hc : c = 'Σ' <;> simp [hc]
      rcases ih hrest with hne | hne
      · exact .inl fun d hd heq => hne d hd (List.append_inj heq (hroom _ _)).2
      · exact .inr fun d hd heq => hne d hd (List.append_inj heq (hroom _ _)).2

/-! ### Parts of a text -/

/-- **A part with settled sigmas is lowered to a part of the lowered text.** -/
theorem infix_lowerChars {part cs : List Char} (h : sigmasSettled [] part = true) (hpart : part <:+: cs) :
    lowerChars part <:+: lowerChars cs := by
  obtain ⟨front, back, rfl⟩ := hpart
  have hbetween : lowerBetween (front.reverse ++ []) part back = lowerChars part := by
    rw [List.append_nil, ← List.nil_append front.reverse, lowerBetween_of_settled h, lowerChars,
      lowerAfter_eq]
  have hpieces : lowerChars (front ++ part ++ back) = lowerBetween [] front (part ++ back) ++
      (lowerBetween (front.reverse ++ []) part back ++
        lowerAfter (part.reverse ++ (front.reverse ++ [])) back) := by
    rw [lowerChars, List.append_assoc, lowerAfter_append, lowerAfter_append]
  rw [hpieces, hbetween, ← List.append_assoc]
  exact ⟨_, _, rfl⟩

/-- Where one of two lists is as long as the other and one more item, they are the same but for that
item, or the first begins with it. -/
theorem eq_or_head_of_infix_cons {d : Char} {u v : List Char} (hlen : u.length = v.length)
    (h : u <:+: d :: v) : u = v ∨ u.head? = some d := by
  rcases List.infix_cons_iff.mp h with hstart | hin
  · cases u with
    | nil => exact .inl (List.eq_nil_of_length_eq_zero hlen.symm).symm
    | cons c u => exact .inr (by simpa using (List.cons_prefix_cons.mp hstart).1)
  · exact .inl (hin.eq_of_length hlen)

/-- A letter that is lowered to itself, other than a given character. -/
theorem exists_letter (c? : Option Char) :
    ∃ d, side? [d] = some true ∧ lowerChar d = [d] ∧ d ≠ 'Σ' ∧ c? ≠ some d := by
  by_cases h : c? = some 'a'
  · exact ⟨'b', by decide +kernel, by decide +kernel, by decide, by simp [h]⟩
  · exact ⟨'a', by decide +kernel, by decide +kernel, by decide, h⟩

/-- **Any other part is lowered to something else in some text**: with a letter in front of it, or with
one behind. -/
theorem exists_not_infix_lowerChars {part : List Char} (h : sigmasSettled [] part = false) :
    ∃ cs, part <:+: cs ∧ ¬ lowerChars part <:+: lowerChars cs := by
  have hpart : lowerChars part = lowerBetween [] part [] := lowerAfter_eq [] part
  rcases lowerBetween_ne h with hfront | hback
  · obtain ⟨d, hd, hlower, hsigma, hhead⟩ := exists_letter (lowerChars part).head?
    have hcs : lowerChars (d :: part) = d :: lowerBetween [d] part [] := by
      rw [lowerChars, lowerAfter, if_neg hsigma, hlower, lowerAfter_eq]
      rfl
    refine ⟨d :: part, (List.suffix_cons d part).isInfix, ?_⟩
    intro hin
    have hne : lowerChars part ≠ lowerBetween [d] part [] := hpart ▸ (hfront d hd).symm
    have hlen : (lowerChars part).length = (lowerBetween [d] part []).length :=
      hpart ▸ length_lowerBetween ..
    rw [hcs] at hin
    obtain heq | hfirst := eq_or_head_of_infix_cons hlen hin
    · exact hne heq
    · exact hhead hfirst
  · obtain ⟨d, hd, hlower, hsigma, hlast⟩ := exists_letter (lowerChars part).reverse.head?
    have hcs : lowerChars (part ++ [d]) = lowerBetween [] part [d] ++ [d] := by
      rw [lowerChars, lowerAfter_append, lowerAfter, if_neg hsigma, hlower]
      rfl
    refine ⟨part ++ [d], (List.prefix_append part [d]).isInfix, ?_⟩
    intro hin
    have hne : lowerChars part ≠ lowerBetween [] part [d] := hpart ▸ (hback d hd).symm
    have hlen : (lowerChars part).length = (lowerBetween [] part [d]).length :=
      hpart ▸ length_lowerBetween ..
    -- read backwards, the letter stands in front
    rw [hcs, ← List.reverse_infix, List.reverse_append] at hin
    obtain heq | hfirst := eq_or_head_of_infix_cons (by simpa using hlen) hin
    · exact hne (List.reverse_injective heq)
    · exact hlast hfirst

end Filterbook.Text
