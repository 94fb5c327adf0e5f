import Filterbook.Uuid
import Filterbook.Proofs.Number.Written
import Mathlib.Tactic.Tauto

/-!
# Written identifiers

The hexadecimal digits of a number are read as the number, also with zeros in front, and an identifier is
read from its text: the 32 digits that stand between its hyphens. No form of an identifier has blanks.

## What is proved

* `hexValue?_hexDigit`, `Uuid.readHex?_hexPadded`: hexadecimal digits.
* `Uuid.ofGroups?_groups`: groups of digits are read as the digits without the hyphens.
* `Uuid.read?_text`: an identifier is read from its text.
* `Uuid.no_blank_of_read?`: no form of an identifier has blanks.
-/

namespace Filterbook

namespace Text

theorem hexValue?_hexDigit : ∀ n < 16, Uuid.hexValue? (hexDigit n) = some n := by decide

theorem length_hexDigits (n : Nat) :
    (hexDigits n).length = if n < 16 then 1 else (hexDigits (n / 16)).length + 1 := by
  rw [hexDigits]
  split_ifs <;> simp

theorem length_hexPadded {width n : Nat} (hwidth : 0 < width) (h : n < 16 ^ width) :
    (hexPadded width n).length = width := by
  have hle := Number.length_digits_le length_hexDigits hwidth h
  rw [hexPadded, List.length_append, List.length_replicate]
  omega

end Text

namespace Uuid

open Text

/-! ### Reading what is written -/

/-- Digits read after the number `start`. -/
def hexFrom? (start : Nat) (cs : List Char) : Option Nat :=
  cs.foldlM (fun n c => (hexValue? c).map (16 * n + ·)) start

theorem hexFrom?_append (start : Nat) (cs ds : List Char) :
    hexFrom? start (cs ++ ds) = (hexFrom? start cs).bind (hexFrom? · ds) :=
  List.foldlM_append

theorem hexFrom?_hexDigit (start : Nat) {n : Nat} (hn : n < 16) :
    hexFrom? start [hexDigit n] = some (16 * start + n) := by
  rw [hexFrom?, List.foldlM_cons, hexValue?_hexDigit n hn]
  rfl

theorem readHex?_hexDigits (n : Nat) : readHex? (hexDigits n) = some n := by
  show hexFrom? 0 (hexDigits n) = some n
  induction n using hexDigits.induct with
  | case1 n hn =>
    rw [hexDigits, if_pos hn, hexFrom?_hexDigit 0 hn]
    simp
  | case2 n hn ih =>
    rw [hexDigits, if_neg hn, hexFrom?_append, ih, Option.bind_some,
      hexFrom?_hexDigit _ (Nat.mod_lt n (by decide)), Nat.div_add_mod]

/-- **Hexadecimal digits are read as their number**, also with zeros in front. -/
theorem readHex?_hexPadded (width n : Nat) : readHex? (hexPadded width n) = some n := by
  have hzeros : ∀ count, hexFrom? 0 (List.replicate count '0') = some 0 := by
    intro count
    induction count with
    | zero => rfl
    | succ count ih => exact ih
  show hexFrom? 0 (List.replicate (width - (hexDigits n).length) '0' ++ hexDigits n) = some n
  rw [hexFrom?_append, hzeros]
  exact readHex?_hexDigits n

theorem ofDigits?_hexPadded (u : Uuid) : ofDigits? (hexPadded 32 u.value) = some u := by
  have hlength : (hexPadded 32 u.value).length = 32 := length_hexPadded (by decide) u.small
  rw [ofDigits?, if_neg (by simp [hlength]), readHex?_hexPadded]
  exact dif_pos u.small

/-- **Groups of digits are read as the digits** without the hyphens. -/
theorem ofGroups?_groups {first second third fourth last : List Char} (hfirst : first.length = 8)
    (hsecond : second.length = 4) (hthird : third.length = 4) (hfourth : fourth.length = 4)
    (hlast : last.length = 12) :
    ofGroups? (first ++ '-' :: second ++ '-' :: third ++ '-' :: fourth ++ '-' :: last) =
      ofDigits? (first ++ second ++ third ++ fourth ++ last) := by
  generalize htext : first ++ '-' :: second ++ '-' :: third ++ '-' :: fourth ++ '-' :: last = cs
  have hlength : cs.length = 36 := by simp [← htext, hfirst, hsecond, hthird, hfourth, hlast]
  obtain ⟨h8, h13, h18, h23⟩ :
      cs[8]? = some '-' ∧ cs[13]? = some '-' ∧ cs[18]? = some '-' ∧ cs[23]? = some '-' := by
    simp [← htext, List.getElem?_append, hfirst, hsecond, hthird, hfourth]
  have hjoin : cs.take 8 ++ (cs.drop 9).take 4 ++ (cs.drop 14).take 4 ++ (cs.drop 19).take 4 ++
      cs.drop 24 = first ++ second ++ third ++ fourth ++ last := by
    simp (disch := omega) [← htext, hfirst, hsecond, hthird, hfourth, List.drop_append,
      List.drop_eq_nil_of_le]
  simp only [ofGroups?, hlength, h8, h13, h18, h23, hjoin]
  rfl

/-- **An identifier is read from its text.** -/
theorem read?_text (u : Uuid) : read? u.text = some u := by
  have hlength : (hexPadded 32 u.value).length = 32 := length_hexPadded (by decide) u.small
  have hdigits := u.ofDigits?_hexPadded
  rw [read?, text, String.toList_ofList, chars]
  generalize hexPadded 32 u.value = ds at hlength hdigits
  have hjoin : ds.take 8 ++ (ds.drop 8).take 4 ++ (ds.drop 12).take 4 ++ (ds.drop 16).take 4 ++ ds.drop 20 =
      ds := by
    simp [← List.take_add]
  have hplain : ofDigits? (ds.take 8 ++ '-' :: (ds.drop 8).take 4 ++ '-' :: (ds.drop 12).take 4 ++ '-' ::
      (ds.drop 16).take 4 ++ '-' :: ds.drop 20) = none := by
    rw [ofDigits?, if_pos (by simp [hlength])]
  rw [hplain, ofGroups?_groups (by simp [hlength]) (by simp [hlength]) (by simp [hlength])
    (by simp [hlength]) (by simp [hlength]), hjoin, hdigits]
  rfl

/-! ### Blanks -/

theorem isBlank_of_hexValue? {c : Char} {n : Nat} (h : hexValue? c = some n) : isBlank c = false := by
  have hrange : c.toNat ≤ 102 ∧ 48 ≤ c.toNat := by
    simp only [hexValue?, Bool.and_eq_true, decide_eq_true_eq] at h
    split_ifs at h <;> omega
  exact isBlank_eq_false (by omega)

theorem no_blank_of_hexFrom? {cs : List Char} {start n : Nat} (h : hexFrom? start cs = some n) :
    ∀ c ∈ cs, isBlank c = false := by
  induction cs generalizing start with
  | nil => simp
  | cons c cs ih =>
    rw [hexFrom?, List.foldlM_cons, Option.bind_eq_bind, Option.bind_eq_some_iff] at h
    obtain ⟨m, hc, hcs⟩ := h
    obtain ⟨digit, hdigit, -⟩ := Option.map_eq_some_iff.mp hc
    exact List.forall_mem_cons.mpr ⟨isBlank_of_hexValue? hdigit, ih hcs⟩

theorem no_blank_of_ofDigits? {cs : List Char} {u : Uuid} (h : ofDigits? cs = some u) :
    ∀ c ∈ cs, isBlank c = false := by
  unfold ofDigits? at h
  split at h
  · cases h
  · obtain ⟨n, hread, -⟩ := Option.bind_eq_some_iff.mp h
    exact no_blank_of_hexFrom? hread

theorem no_blank_of_ofGroups? {cs : List Char} {u : Uuid} (h : ofGroups? cs = some u) :
    ∀ c ∈ cs, isBlank c = false := by
  have hhyphen : isBlank '-' = false := by decide
  simp only [ofGroups?] at h
  split at h
  · next hform =>
    simp only [Bool.and_eq_true, decide_eq_true_eq, beq_iff_eq] at hform
    obtain ⟨⟨⟨⟨-, h8⟩, h13⟩, h18⟩, h23⟩ := hform
    have hdigits := no_blank_of_ofDigits? h
    have hdrop : ∀ {i : Nat}, cs[i]? = some '-' → cs.drop i = '-' :: cs.drop (i + 1) := by
      intro i hi
      obtain ⟨hlt, heq⟩ := List.getElem?_eq_some_iff.mp hi
      rw [List.drop_eq_getElem_cons hlt, heq]
    have hgroup : ∀ i, cs.drop i = (cs.drop i).take 4 ++ cs.drop (i + 4) := by
      intro i
      rw [← List.drop_drop, List.take_append_drop]
    have hcs : cs = cs.take 8 ++ '-' :: ((cs.drop 9).take 4 ++ '-' :: ((cs.drop 14).take 4 ++
        '-' :: ((cs.drop 19).take 4 ++ '-' :: cs.drop 24))) := by
      rw [← hdrop h23, ← hgroup 19, ← hdrop h18, ← hgroup 14, ← hdrop h13, ← hgroup 9, ← hdrop h8,
        List.take_append_drop]
    intro c hc
    rw [hcs] at hc
    simp only [List.mem_append, List.mem_cons] at hc hdigits
    by_cases hmark : c = '-'
    · rw [hmark, hhyphen]
    · exact hdigits c (by tauto)
  · cases h

/-- Blanks have no other case. -/
theorem isBlank_of_toLower {c : Char} (h : isBlank c.toLower = false) : isBlank c = false := by
  by_contra hblank
  have hlower : c.toLower = c := by
    refine dif_neg fun hupper => hblank ?_
    have hrange : 65 ≤ c.toNat ∧ c.toNat ≤ 90 := by
      simpa [UInt32.le_iff_toNat_le] using hupper
    exact isBlank_eq_false (by omega)
  exact hblank (hlower ▸ h)

theorem no_blank_of_inBraces? {cs inner : List Char} (h : inBraces? cs = some inner)
    (hinner : ∀ c ∈ inner, isBlank c = false) : ∀ c ∈ cs, isBlank c = false := by
  unfold inBraces? at h
  split at h
  · next rest =>
    split at h
    · next hlast =>
      obtain rfl := Option.some.inj h
      have hrest : rest = rest.dropLast ++ ['\x7d'] :=
        (List.dropLast_append_getLast? _ hlast).symm
      rw [List.forall_mem_cons, hrest, List.forall_mem_append, List.forall_mem_singleton]
      exact ⟨by decide, hinner, by decide⟩
    · cases h
  · cases h

theorem no_blank_of_afterUrn? {cs rest : List Char} (h : afterUrn? cs = some rest)
    (hrest : ∀ c ∈ rest, isBlank c = false) : ∀ c ∈ cs, isBlank c = false := by
  have hname : ∀ c ∈ "urn:uuid:".toList, isBlank c = false := by
    have hany : "urn:uuid:".toList.any isBlank = false := by decide
    simpa using hany
  simp only [afterUrn?] at h
  split at h
  · next hstart =>
    obtain rfl := Option.some.inj h
    rw [← List.take_append_drop "urn:uuid:".toList.length cs, List.forall_mem_append]
    refine ⟨fun c hc => isBlank_of_toLower (hname _ ?_), hrest⟩
    rw [← hstart]
    exact List.mem_map_of_mem hc
  · cases h

/-- **A text that writes an identifier has no blanks.** -/
theorem no_blank_of_read? {s : String} {u : Uuid} (h : read? s = some u) :
    ∀ c ∈ s.toList, isBlank c = false := by
  simp only [read?, Option.orElse_eq_or, Option.or_eq_some_iff, Option.bind_eq_some_iff] at h
  rcases h with h | ⟨-, h | ⟨-, ⟨inner, hinner, h⟩ | ⟨-, rest, hrest, h⟩⟩⟩
  · exact no_blank_of_ofDigits? h
  · exact no_blank_of_ofGroups? h
  · exact no_blank_of_inBraces? hinner (no_blank_of_ofGroups? h)
  · exact no_blank_of_afterUrn? hrest (no_blank_of_ofGroups? h)

/-- A text with blanks around it writes no identifier. -/
theorem read?_eq_none {s : String} (h : trim s ≠ s) : read? s = none := by
  by_contra hread
  obtain ⟨u, hu⟩ := Option.ne_none_iff_exists'.mp hread
  refine h ?_
  rw [trim, trimChars_of_no_blank (no_blank_of_read? hu), String.ofList_toList]

end Uuid

end Filterbook
