import Filterbook.Proofs.Number.Integers
import Filterbook.Proofs.Value.Conversion

/-!
# Integers that are typed

A text spells an integer when there is one between blanks, with or without a sign, however many digits it
has. An integer kind has the integers of so many bits, or those of them that are not negative. This module
says that a kind takes exactly the spellings of its own integers, and what it says of every other text.

## What is proved

* `readInt64?_eq_some_iff`: the spellings of integers of 64 bits are read, and nothing else is.
* `readInt64?_eq_readWord?`: a reader that takes one digit after the other into a word of 64 bits reads the
  same.
* `intRange?_eq`: the bounds of the kinds by their bits.
* `integers_taken_exactly`: what an integer kind takes, and in which words it refuses the rest.
-/

namespace Filterbook

open Number Text

namespace Kind

/-- The bits of an integer kind, one of which is for the sign. -/
def bits? : Kind → Option Nat
  | int | positiveInt => some 32
  | smallInt | positiveSmallInt => some 16
  | bigInt => some 64
  | _ => none

/-- The kind leaves out negative integers. -/
def leavesOutNegatives : Kind → Bool
  | positiveInt | positiveSmallInt => true
  | _ => false

/-- The least integer of a kind with so many bits. -/
def leastInt (kind : Kind) (bits : Nat) : Int :=
  if kind.leavesOutNegatives then 0 else -(twoTo (bits - 1) : Int)

/-- The greatest integer of a kind with so many bits. -/
def greatestInt (bits : Nat) : Int := (twoTo (bits - 1) : Int) - 1

end Kind

namespace Value

variable {kind : Kind} {bits : Nat} {s : String} {n : Int} {v : Value}

/-! ### Spellings -/

/-- The text is blanks, an integer, and blanks again. -/
def SpellsInt (s : String) (n : Int) : Prop :=
  ∃ lead body trail, s.toList = lead ++ (body ++ trail) ∧ (∀ c ∈ lead, isBlank c = true) ∧
    (∀ c ∈ trail, isBlank c = true) ∧ SignedNumeral body n

/-- A spelling is a written integer once the blanks around it are gone. -/
theorem spellsInt_iff : SpellsInt s n ↔ SignedNumeral (trimChars s.toList) n := by
  constructor
  · rintro ⟨lead, body, trail, hs, hlead, htrail, hbody⟩
    have htrim : trimChars s.toList = body := by
      rw [hs, trimChars_append_left hlead, trimChars_append_right body htrail,
        trimChars_of_no_blank hbody.no_blank]
    exact htrim ▸ hbody
  · intro h
    obtain ⟨lead, trail, hs, hlead, htrail⟩ := exists_trimChars s.toList
    exact ⟨lead, _, trail, hs, hlead, htrail, h⟩

theorem readInt64?_eq_some_iff : readInt64? s = some n ↔ SpellsInt s n ∧ inInt64 n = true := by
  rw [readInt64?, Option.filter_eq_some_iff, readInt?_eq_some_iff, spellsInt_iff]

/-- **A text is read in words of 64 bits**, digit by digit, as it is read at once. -/
theorem readInt64?_eq_readWord? (s : String) : readInt64? s = readWord? (trimChars s.toList) := by
  rw [readInt64?, readWord?_eq_filter]

/-- An integer is spelled by its text. -/
theorem spellsInt_intText (n : Int) : SpellsInt (intText n) n := by
  rw [spellsInt_iff, intText, String.toList_ofList, trimChars_of_no_blank fun _ => isBlank_of_mem_intDigits,
    ← readInt?_eq_some_iff, readInt?_intDigits]

/-! ### Bounds -/

theorem intRange?_eq (kind : Kind) :
    intRange? kind = kind.bits?.map fun bits => (kind.leastInt bits, Kind.greatestInt bits) := by
  cases kind <;> rfl

/-- The integers of a kind have 64 bits. -/
theorem inInt64_of_bits (hbits : kind.bits? = some bits) (hleast : kind.leastInt bits ≤ n)
    (hgreatest : n ≤ Kind.greatestInt bits) : inInt64 n = true := by
  have hbounds : -(twoTo 63 : Int) ≤ kind.leastInt bits ∧ Kind.greatestInt bits < twoTo 63 := by
    cases kind <;> cases hbits <;> decide
  exact inInt64_iff.mpr ⟨Int.le_trans hbounds.1 hleast, Int.lt_of_le_of_lt hgreatest hbounds.2⟩

theorem leastInt_le_greatestInt (hbits : kind.bits? = some bits) :
    kind.leastInt bits ≤ Kind.greatestInt bits := by
  cases kind <;> cases hbits <;> decide

/-! ### What a kind takes -/

theorem read_of_bits (hbits : kind.bits? = some bits) (s : String) :
    Value.read kind s = ofIntText (kind.leastInt bits) (Kind.greatestInt bits) s :=
  read_of_intRange (by rw [intRange?_eq, hbits, Option.map_some])

/-- An integer kind takes the spellings of its integers. -/
theorem convert_eq_ok_iff_of_bits (hbits : kind.bits? = some bits) : convert kind s = .ok v ↔
    ∃ n, SpellsInt s n ∧ kind.leastInt bits ≤ n ∧ n ≤ Kind.greatestInt bits ∧ v = .int n := by
  simp only [convert_eq_ok_iff, read_of_bits hbits, ofIntText_eq_ok_iff, readInt64?_eq_some_iff]
  constructor
  · rintro ⟨n, ⟨hspells, -⟩, ⟨hleast, hgreatest⟩, rfl⟩
    exact ⟨n, hspells, hleast, hgreatest, rfl⟩
  · rintro ⟨n, hspells, hleast, hgreatest, rfl⟩
    exact ⟨n, ⟨hspells, inInt64_of_bits hbits hleast hgreatest⟩, ⟨hleast, hgreatest⟩, rfl⟩

/-- A text is refused for a kind in these words. -/
def Refuses (kind : Kind) (s words : String) : Prop :=
  ∃ e, convert kind s = .error e ∧ e.kind = kind ∧ e.message = words

theorem refuses_of_read {cause : ConversionCause} (h : Value.read kind s = .error cause) :
    Refuses kind s cause.message :=
  ⟨⟨kind, cause⟩, by rw [convert, h], rfl, rfl⟩

/-- **What an integer kind takes, and what it refuses.** It takes the spellings of its integers: decimal
digits behind a sign or without one, with blanks around them. An integer of 64 bits beyond its bounds is
refused with the bound that it is beyond; every other text, a larger integer among them, is refused as no
integer. The plain digits of each integer of the kind are taken. -/
theorem integers_taken_exactly (hbits : kind.bits? = some bits) (s : String) :
    (∀ v, convert kind s = .ok v ↔
        ∃ n, SpellsInt s n ∧ kind.leastInt bits ≤ n ∧ n ≤ Kind.greatestInt bits ∧ v = .int n) ∧
      (∀ n, SpellsInt s n → inInt64 n = true → n < kind.leastInt bits →
        Refuses kind s ("Ensure this value is greater than or equal to " ++
          toString (kind.leastInt bits) ++ ".")) ∧
      (∀ n, SpellsInt s n → inInt64 n = true → Kind.greatestInt bits < n →
        Refuses kind s ("Ensure this value is less than or equal to " ++
          toString (Kind.greatestInt bits) ++ ".")) ∧
      ((∀ n, SpellsInt s n → inInt64 n = false) →
        Refuses kind s ("“" ++ s ++ "” value must be an integer.")) ∧
      ∀ n, kind.leastInt bits ≤ n → n ≤ Kind.greatestInt bits →
        convert kind (toString n) = .ok (.int n) := by
  have refuses_of {cause : ConversionCause}
      (h : ofIntText (kind.leastInt bits) (Kind.greatestInt bits) s = .error cause) :
      Refuses kind s cause.message := refuses_of_read ((read_of_bits hbits s).trans h)
  simp only [← intText_eq_toString]
  refine ⟨fun v => convert_eq_ok_iff_of_bits hbits, fun n hspells hword hbelow => ?_,
    fun n hspells hword habove => ?_, fun hnone => ?_, fun n hleast hgreatest => ?_⟩
  · have hn := readInt64?_eq_some_iff.mpr ⟨hspells, hword⟩
    exact refuses_of (ofIntText_eq_error_iff.mpr (.inr ⟨n, hn, .inl ⟨hbelow, rfl⟩⟩))
  · have hn := readInt64?_eq_some_iff.mpr ⟨hspells, hword⟩
    have hleast := Int.le_trans (leastInt_le_greatestInt hbits) (Int.le_of_lt habove)
    exact refuses_of (ofIntText_eq_error_iff.mpr (.inr ⟨n, hn, .inr ⟨hleast, habove, rfl⟩⟩))
  · have hn : readInt64? s = none := by
      refine Option.eq_none_iff_forall_ne_some.mpr fun n hn => ?_
      obtain ⟨hspells, hword⟩ := readInt64?_eq_some_iff.mp hn
      exact Bool.noConfusion (hword.symm.trans (hnone n hspells))
    exact refuses_of (ofIntText_eq_error_iff.mpr (.inl ⟨hn, rfl⟩))
  · exact (convert_eq_ok_iff_of_bits hbits).mpr ⟨n, spellsInt_intText n, hleast, hgreatest, rfl⟩

theorem integers_taken_exactly_short :
    Kind.bits? .smallInt = some 16 ∧ SpellsInt "\t+0040000\u2003" 40000 ∧
      Refuses .smallInt "\t+0040000\u2003" "Ensure this value is less than or equal to 32767." ∧
      convert .smallInt "-32768" = .ok (.int (-32768)) := by
  have hbits : Kind.bits? .smallInt = some 16 := rfl
  have hspells : SpellsInt "\t+0040000\u2003" 40000 :=
    spellsInt_iff.mpr (readInt?_eq_some_iff.mp (by decide))
  obtain ⟨-, -, habove, -, hplain⟩ := integers_taken_exactly hbits "\t+0040000\u2003"
  have hleast : toString (-32768 : Int) = "-32768" := by decide
  refine ⟨hbits, hspells, habove 40000 hspells (by decide) (by decide), ?_⟩
  rw [← hleast]
  exact hplain (-32768) (by decide) (by decide)

end Value

end Filterbook
