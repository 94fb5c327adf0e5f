import Filterbook.Text.Split
import Mathlib.Data.List.Infix

/-!
# Occurrences of a text

What searching and splitting a text say about its characters: a part is found where it stands as a
run of characters (`contains_iff`), and the pieces between its occurrences, joined by it again, are
the text (`intercalate_splitChars`). So a replacement changes nothing only where nothing is replaced, or
by itself (`replaceChars_eq_self_iff`), and one that does not occur in the text can be undone
(`restore_replaceChars`). Pieces that were joined come back when the part occurs in none of them, and
not across the end of a piece either (`splitChars_eq_iff`).
-/

namespace Filterbook.Text

/-! ### Searching -/

theorem after?_eq_some_iff {part cs rest : List Char} :
    after? part cs = some rest ↔ cs = part ++ rest := by
  induction part generalizing cs with
  | nil => simp [after?]
  | cons p part ih =>
    cases cs with
    | nil => simp [after?]
    | cons c cs =>
      by_cases hpc : p = c
      · subst hpc
        simp [after?, ih]
      · simp [after?, hpc, Ne.symm hpc]

@[simp] theorem after?_append (part rest : List Char) : after? part (part ++ rest) = some rest :=
  after?_eq_some_iff.mpr rfl

@[simp] theorem after?_singleton (c : Char) (rest : List Char) : after? [c] (c :: rest) = some rest :=
  after?_append [c] rest

theorem isSome_after?_iff {part cs : List Char} : (after? part cs).isSome = true ↔ part <+: cs := by
  rw [Option.isSome_iff_exists]
  constructor
  · rintro ⟨rest, h⟩
    exact ⟨rest, (after?_eq_some_iff.mp h).symm⟩
  · rintro ⟨rest, rfl⟩
    exact ⟨rest, after?_append part rest⟩

theorem containsChars_iff {part cs : List Char} : containsChars part cs = true ↔ part <:+: cs := by
  induction cs with
  | nil => simp [containsChars]
  | cons c cs ih => rw [containsChars, Bool.or_eq_true, isSome_after?_iff, ih, List.infix_cons_iff]

/-- A text is found where its characters stand one after another. -/
theorem contains_iff {part text : String} :
    contains part text = true ↔ part.toList <:+: text.toList := containsChars_iff

theorem eq_nil_of_concat_eq_append {c : Char} {cs front tail : List Char}
    (h : cs ++ [c] = front ++ tail) (hc : c ∉ tail) : tail = [] := by
  rcases List.eq_nil_or_concat tail with rfl | ⟨tail, d, rfl⟩
  · rfl
  · have hd : c = d := by simpa using congrArg List.getLast? h
    exact absurd (by simp [hd]) hc

/-- A text that ends with a character is not found where the character does not stand. -/
theorem infix_of_infix_append_of_notMem {c : Char} {cs before after : List Char}
    (h : cs ++ [c] <:+: before ++ after) (hc : c ∉ after) : cs ++ [c] <:+: before := by
  obtain ⟨left, right, h⟩ := h
  rcases List.append_eq_append_iff.mp h with ⟨tail, rfl, -⟩ | ⟨tail, htail, rfl⟩
  · exact ⟨left, tail, rfl⟩
  · rw [← List.append_assoc] at htail
    obtain rfl := eq_nil_of_concat_eq_append htail fun hmem => hc (List.mem_append_left right hmem)
    exact ⟨left, [], by simpa using htail⟩

/-- Where a text ends that ends with a character it has nowhere else: in a joined text it is found
before, at the end of, or behind a part that ends with this character and has it nowhere else. -/
theorem infix_closed_cases {c : Char} {cs part before after : List Char} (hcs : c ∉ cs) (hpart : c ∉ part)
    (h : cs ++ [c] <:+: before ++ (part ++ [c]) ++ after) :
    cs ++ [c] <:+: before ∨ cs ++ [c] <:+ before ++ (part ++ [c]) ∨ cs ++ [c] <:+: after := by
  obtain ⟨left, right, h⟩ := h
  have hends : (left ++ cs) ++ c :: right = (before ++ part) ++ c :: after := by simpa using h
  -- which of the two characters comes first
  rcases List.append_eq_append_iff.mp hends with ⟨mid, hmid, hright⟩ | ⟨mid, hmid, hafter⟩
  · cases mid with
    | nil => exact .inr (.inl ⟨left, by simpa using congrArg (· ++ [c]) hmid.symm⟩)
    | cons d mid =>
      obtain ⟨rfl, -⟩ := List.cons.inj hright
      exact .inl (infix_of_infix_append_of_notMem ⟨left, mid, by simpa using hmid.symm⟩ hpart)
  · cases mid with
    | nil => exact .inr (.inl ⟨left, by simpa using congrArg (· ++ [c]) hmid⟩)
    | cons d mid =>
      obtain ⟨rfl, rfl⟩ := List.cons.inj hafter
      have hjoin : left ++ cs = (before ++ part ++ [c]) ++ mid := by simpa using hmid
      rcases List.append_eq_append_iff.mp hjoin with ⟨tail, htail, rfl⟩ | ⟨tail, -, rfl⟩
      · obtain rfl := eq_nil_of_concat_eq_append htail fun hc => hcs (List.mem_append_left _ hc)
        exact .inr (.inr ⟨[], right, by simp⟩)
      · exact .inr (.inr ⟨tail, right, by simp⟩)

/-! ### Splitting -/

variable {part : List Char}

theorem piecesAfter_ne_nil (skip : Nat) (cs : List Char) : piecesAfter part skip cs ≠ [] := by
  induction cs generalizing skip with
  | nil => simp [piecesAfter]
  | cons c cs ih =>
    cases skip with
    | succ skip =>
      rw [piecesAfter]
      exact ih skip
    | zero =>
      rw [piecesAfter]
      split
      · exact List.cons_ne_nil _ _
      · unfold pushFirst
        split <;> exact List.cons_ne_nil _ _

/-- A character before the first piece is a character before the pieces joined. -/
theorem intercalate_pushFirst (c : Char) {pieces : List (List Char)} (h : pieces ≠ []) :
    part.intercalate (pushFirst c pieces) = c :: part.intercalate pieces := by
  cases pieces with
  | nil => exact absurd rfl h
  | cons piece pieces => cases pieces <;> simp [pushFirst]

/-- The pieces joined by the part are what was not passed over. -/
theorem intercalate_piecesAfter (hpart : part ≠ []) (skip : Nat) (cs : List Char) :
    part.intercalate (piecesAfter part skip cs) = cs.drop skip := by
  induction cs generalizing skip with
  | nil => simp [piecesAfter]
  | cons c cs ih =>
    cases skip with
    | succ skip => rw [piecesAfter, ih, List.drop_succ_cons]
    | zero =>
      rw [piecesAfter]
      split
      · next h =>
        -- an occurrence: its other characters are passed over
        obtain ⟨rest, hrest⟩ := isSome_after?_iff.mp h
        obtain ⟨p, ps, rfl⟩ := List.exists_cons_of_ne_nil hpart
        rw [List.cons_append, List.cons.injEq] at hrest
        obtain ⟨rfl, rfl⟩ := hrest
        rw [List.intercalate_cons_of_ne_nil (piecesAfter_ne_nil _ _), ih]
        simp
      · rw [intercalate_pushFirst c (piecesAfter_ne_nil _ _), ih, List.drop_zero, List.drop_zero]

/-- **Splitting loses nothing**: the pieces joined by the part are the text. -/
theorem intercalate_splitChars (part cs : List Char) :
    part.intercalate (splitChars part cs) = cs := by
  unfold splitChars
  split
  · exact List.intercalate_singleton
  · next h =>
    rw [intercalate_piecesAfter (by simpa using h), List.drop_zero]

/-- What stands in a piece stands in the joined text. -/
theorem mem_intercalate_of_mem {sep piece : List Char} {pieces : List (List Char)} {c : Char}
    (hpiece : piece ∈ pieces) (hc : c ∈ piece) : c ∈ sep.intercalate pieces := by
  induction pieces with
  | nil => cases hpiece
  | cons first pieces ih =>
    cases pieces with
    | nil =>
      rw [List.mem_singleton] at hpiece
      rwa [List.intercalate_singleton, ← hpiece]
    | cons second pieces =>
      rw [List.intercalate_cons_cons]
      rcases List.mem_cons.mp hpiece with rfl | hpiece
      · exact List.mem_append_left _ (List.mem_append_left _ hc)
      · exact List.mem_append_right _ (ih hpiece)

/-- A joined text has no characters but those of the pieces and of what joins them. -/
theorem mem_of_mem_intercalate {sep : List Char} {pieces : List (List Char)} {c : Char}
    (h : c ∈ sep.intercalate pieces) : c ∈ sep ∨ ∃ piece ∈ pieces, c ∈ piece := by
  induction pieces with
  | nil => cases h
  | cons first pieces ih =>
    cases pieces with
    | nil =>
      rw [List.intercalate_singleton] at h
      exact .inr ⟨first, List.mem_singleton_self _, h⟩
    | cons second pieces =>
      rw [List.intercalate_cons_cons, List.mem_append, List.mem_append] at h
      rcases h with (h | h) | h
      · exact .inr ⟨first, List.mem_cons_self .., h⟩
      · exact .inl h
      · exact (ih h).imp_right fun ⟨piece, hpiece, hc⟩ => ⟨piece, List.mem_cons_of_mem _ hpiece, hc⟩

theorem mem_of_mem_splitChars {part piece cs : List Char} {c : Char} (hpiece : piece ∈ splitChars part cs)
    (hc : c ∈ piece) : c ∈ cs := by
  have h : c ∈ part.intercalate (splitChars part cs) := mem_intercalate_of_mem hpiece hc
  rwa [intercalate_splitChars] at h

/-! ### Which pieces come back -/

/-- Pieces between which the part is found when it joins them: it does not occur in a piece, nor
earlier across the end of a piece that it follows. -/
def Parted (part : List Char) : List (List Char) → Prop
  | [] => False
  | [piece] => ¬ part <:+: piece
  | piece :: next :: pieces => ¬ part <:+: piece ++ part.dropLast ∧ Parted part (next :: pieces)

/-- The pieces before the last one must not hold the part even where the next one follows. -/
theorem parted_concat_iff {pieces : List (List Char)} {last : List Char} :
    Parted part (pieces ++ [last]) ↔
      (∀ piece ∈ pieces, ¬ part <:+: piece ++ part.dropLast) ∧ ¬ part <:+: last := by
  induction pieces with
  | nil => simp [Parted]
  | cons piece pieces ih =>
    obtain ⟨next, rest, hrest⟩ := List.exists_cons_of_ne_nil (List.concat_ne_nil last pieces)
    rw [List.forall_mem_cons, and_assoc, ← ih, List.cons_append, hrest, Parted]

/-- Passing over characters is leaving them out. -/
theorem piecesAfter_eq_drop (skip : Nat) (cs : List Char) :
    piecesAfter part skip cs = piecesAfter part 0 (cs.drop skip) := by
  induction cs generalizing skip with
  | nil => cases skip <;> rfl
  | cons c cs ih =>
    cases skip with
    | zero => rfl
    | succ skip => rw [piecesAfter, ih, List.drop_succ_cons]

theorem piecesAfter_cons_of_found {c : Char} {cs : List Char} (h : part <+: c :: cs) :
    piecesAfter part 0 (c :: cs) = [] :: piecesAfter part (part.length - 1) cs := by
  rw [← isSome_after?_iff] at h
  rw [piecesAfter]
  simp only [h, if_true]

theorem piecesAfter_cons_of_not_found {c : Char} {cs : List Char} (h : ¬ part <+: c :: cs) :
    piecesAfter part 0 (c :: cs) = pushFirst c (piecesAfter part 0 cs) := by
  rw [← isSome_after?_iff] at h
  rw [piecesAfter]
  simp only [h, Bool.false_eq_true, if_false]

theorem piecesAfter_of_absent {cs : List Char} (h : ¬ part <:+: cs) :
    piecesAfter part 0 cs = [cs] := by
  induction cs with
  | nil => rfl
  | cons c cs ih =>
    rw [List.infix_cons_iff, not_or] at h
    rw [piecesAfter_cons_of_not_found h.1, ih h.2]
    rfl

/-- Where a part begins before another that stands in the text, it ends before that one does. -/
theorem prefix_of_prefix_append {piece rest : List Char} (hpiece : piece ≠ [])
    (h : part <+: piece ++ part ++ rest) : part <+: piece ++ part.dropLast := by
  have hdrop : part.dropLast <+: part := List.dropLast_prefix part
  refine List.prefix_of_prefix_length_le h ?_ ?_
  · rw [List.append_assoc, List.prefix_append_right_inj]
    exact hdrop.trans (List.prefix_append part rest)
  · have := List.length_pos_iff.mpr hpiece
    rw [List.length_append, List.length_dropLast]
    omega

/-- A piece ends where the part follows it, unless the part occurs earlier. -/
theorem piecesAfter_append {piece : List Char} (h : ¬ part <:+: piece ++ part.dropLast)
    (rest : List Char) :
    piecesAfter part 0 (piece ++ part ++ rest) = piece :: piecesAfter part 0 rest := by
  induction piece with
  | nil =>
    cases part with
    | nil => exact absurd List.nil_infix h
    | cons p ps =>
      have hfound : p :: ps <+: p :: (ps ++ rest) := List.prefix_append (p :: ps) rest
      rw [List.nil_append, List.cons_append, piecesAfter_cons_of_found hfound,
        piecesAfter_eq_drop, List.length_cons, Nat.add_sub_cancel, List.drop_left]
  | cons c piece ih =>
    rw [List.cons_append, List.infix_cons_iff, not_or] at h
    have hnot : ¬ part <+: c :: (piece ++ part ++ rest) :=
      fun hpre => h.1 (prefix_of_prefix_append (List.cons_ne_nil c piece) hpre)
    rw [List.cons_append, List.cons_append, piecesAfter_cons_of_not_found hnot, ih h.2]
    rfl

/-- A part is too long for what follows the empty piece. -/
theorem not_infix_dropLast (hpart : part ≠ []) : ¬ part <:+: [] ++ part.dropLast := by
  intro h
  have hlength := h.length_le
  have hpos := List.length_pos_iff.mpr hpart
  rw [List.nil_append, List.length_dropLast] at hlength
  omega

/-- A character before the first piece leaves the pieces parted, unless the part begins with it. -/
theorem Parted.pushFirst {c : Char} {pieces : List (List Char)} (h : Parted part pieces)
    (hc : ¬ part <+: c :: part.intercalate pieces) : Parted part (pushFirst c pieces) := by
  match pieces, h with
  | [piece], h =>
    rw [List.intercalate_singleton] at hc
    exact fun hin => (List.infix_cons_iff.mp hin).elim hc h
  | piece :: next :: pieces, ⟨hpiece, hnext⟩ =>
    refine ⟨fun hin => (List.infix_cons_iff.mp hin).elim (fun hpre => hc ?_) hpiece, hnext⟩
    -- the part would go no further than the one that joins the first two pieces
    have hdrop : part.dropLast <+: part := List.dropLast_prefix part
    have hjoin : c :: piece ++ part.dropLast <+:
        c :: piece ++ (part ++ part.intercalate (next :: pieces)) :=
      (List.prefix_append_right_inj _).mpr (hdrop.trans (List.prefix_append part _))
    rw [List.intercalate_cons_cons, List.append_assoc]
    exact hpre.trans hjoin

/-- The pieces of a text are parted. -/
theorem parted_piecesAfter (hpart : part ≠ []) (skip : Nat) (cs : List Char) :
    Parted part (piecesAfter part skip cs) := by
  induction cs generalizing skip with
  | nil =>
    rw [piecesAfter, Parted, List.infix_nil]
    exact hpart
  | cons c cs ih =>
    cases skip with
    | succ skip => exact ih skip
    | zero =>
      by_cases hfound : part <+: c :: cs
      · have hne : piecesAfter part (part.length - 1) cs ≠ [] := piecesAfter_ne_nil _ cs
        obtain ⟨next, pieces, hrest⟩ := List.exists_cons_of_ne_nil hne
        rw [piecesAfter_cons_of_found hfound, hrest]
        exact ⟨not_infix_dropLast hpart, hrest ▸ ih _⟩
      · rw [piecesAfter_cons_of_not_found hfound]
        refine (ih 0).pushFirst ?_
        rwa [intercalate_piecesAfter hpart, List.drop_zero]

/-- **Which pieces a text has**: those that are parted and, joined by the part, are the text. -/
theorem splitChars_eq_iff (hpart : part ≠ []) {cs : List Char} {pieces : List (List Char)} :
    splitChars part cs = pieces ↔ Parted part pieces ∧ part.intercalate pieces = cs := by
  have hsplit : ∀ cs, splitChars part cs = piecesAfter part 0 cs := by simp [splitChars, hpart]
  constructor
  · rintro rfl
    exact ⟨hsplit cs ▸ parted_piecesAfter hpart 0 cs, intercalate_splitChars part cs⟩
  · rintro ⟨h, rfl⟩
    rw [hsplit]
    induction pieces with
    | nil => cases h
    | cons piece pieces ih =>
      cases pieces with
      | nil =>
        rw [List.intercalate_singleton]
        exact piecesAfter_of_absent h
      | cons next pieces =>
        rw [List.intercalate_cons_cons, piecesAfter_append h.1, ih h.2]

/-- Which pieces a text has, as texts. -/
theorem split_eq_iff {part text : String} {pieces : List String} (hpart : part ≠ "") :
    split part text = pieces ↔
      Parted part.toList (pieces.map (·.toList)) ∧ part.intercalate pieces = text := by
  have hchars : part.toList ≠ [] := by simpa using hpart
  have hpieces : split part text = pieces ↔
      splitChars part.toList text.toList = pieces.map (·.toList) := by
    constructor
    · rintro rfl
      simp [split, Function.comp_def]
    · intro h
      simp [split, h, Function.comp_def]
  rw [hpieces, splitChars_eq_iff hchars, ← String.toList_intercalate, String.toList_inj]

/-- A text has a piece at least. -/
theorem split_ne_nil (part text : String) : split part text ≠ [] := by
  rw [split, Ne, List.map_eq_nil_iff, splitChars]
  split
  · exact List.cons_ne_nil _ _
  · exact piecesAfter_ne_nil _ _

/-- A text joined to another has its own piece first, unless the part occurs earlier. -/
theorem split_append {part text : String} (hpart : part ≠ "")
    (h : ¬ part.toList <:+: text.toList ++ part.toList.dropLast) (rest : String) :
    split part (text ++ part ++ rest) = text :: split part rest := by
  have hchars : ∀ cs, splitChars part.toList cs = piecesAfter part.toList 0 cs := by
    simp [splitChars, hpart]
  rw [split, String.toList_append, String.toList_append, hchars, piecesAfter_append h, List.map_cons,
    String.ofList_toList, split, hchars]

/-! ### Replacing -/

/-- A character of a replaced text is one of the text or of the replacement. -/
theorem mem_of_mem_replaceChars {part replacement cs : List Char} {c : Char}
    (h : c ∈ replaceChars part replacement cs) : c ∈ cs ∨ c ∈ replacement := by
  rcases mem_of_mem_intercalate h with h | ⟨piece, hpiece, hc⟩
  · exact .inr h
  · exact .inl (mem_of_mem_splitChars hpiece hc)

theorem replaceChars_self (part cs : List Char) : replaceChars part part cs = cs :=
  intercalate_splitChars part cs

/-- Where the part does not occur, nothing is replaced. -/
theorem replaceChars_of_absent {cs : List Char} (h : ¬ part <:+: cs) (replacement : List Char) :
    replaceChars part replacement cs = cs := by
  have hpart : part ≠ [] := fun e => h (e ▸ List.nil_infix)
  have hpieces : splitChars part cs = [cs] := by
    simpa [splitChars, hpart] using piecesAfter_of_absent h
  rw [replaceChars, hpieces, List.intercalate_singleton]

/-- The first occurrence is replaced where it stands, and the others behind it. -/
theorem replaceChars_append {piece : List Char} (hpart : part ≠ [])
    (h : ¬ part <:+: piece ++ part.dropLast) (replacement rest : List Char) :
    replaceChars part replacement (piece ++ part ++ rest) =
      piece ++ replacement ++ replaceChars part replacement rest := by
  have hsplit : ∀ cs, splitChars part cs = piecesAfter part 0 cs := by simp [splitChars, hpart]
  rw [replaceChars, hsplit, piecesAfter_append h,
    List.intercalate_cons_of_ne_nil (piecesAfter_ne_nil _ _), replaceChars, hsplit]

/-- Joined pieces are as long as the pieces and a separator between each two of them. -/
theorem length_intercalate_cons (sep piece : List Char) (pieces : List (List Char)) :
    (sep.intercalate (piece :: pieces)).length =
      (piece :: pieces).flatten.length + pieces.length * sep.length := by
  induction pieces generalizing piece with
  | nil => simp
  | cons next pieces ih =>
    rw [List.intercalate_cons_cons, List.length_append, List.length_append, ih]
    simp only [List.flatten_cons, List.length_append, List.length_cons, Nat.succ_mul]
    omega

/-- A replacement changes nothing exactly when the part is replaced by itself, or occurs nowhere. -/
theorem replaceChars_eq_self_iff {replacement cs : List Char} (hpart : part ≠ []) :
    replaceChars part replacement cs = cs ↔ replacement = part ∨ ¬ part <:+: cs := by
  refine ⟨fun h => ?_, ?_⟩
  · have hcs : replaceChars part replacement cs = part.intercalate (splitChars part cs) := by
      rw [h, intercalate_splitChars]
    have hparted := ((splitChars_eq_iff hpart).mp (rfl : splitChars part cs = _)).1
    unfold replaceChars at hcs
    match hpieces : splitChars part cs with
    | [] =>
      rw [hpieces] at hparted
      cases hparted
    | [piece] =>
      have hpiece := intercalate_splitChars part cs
      rw [hpieces, List.intercalate_singleton] at hpiece
      rw [hpieces] at hparted
      exact .inr (hpiece ▸ hparted)
    | piece :: next :: pieces =>
      rw [hpieces] at hcs
      -- as many replacements as occurrences, so both are equally long
      have hlength := congrArg List.length hcs
      rw [length_intercalate_cons, length_intercalate_cons, Nat.add_left_cancel_iff, List.length_cons,
        Nat.mul_right_inj (Nat.succ_ne_zero _)] at hlength
      rw [List.intercalate_cons_cons, List.intercalate_cons_cons, List.append_assoc,
        List.append_assoc] at hcs
      exact .inl (List.append_inj (List.append_cancel_left hcs) hlength).1
  · rintro (rfl | h)
    · exact replaceChars_self _ cs
    · exact replaceChars_of_absent h _

/-- The part put back for every mark. -/
def restore (part : List Char) (mark : Char) (cs : List Char) : List Char :=
  cs.flatMap fun c => if c = mark then part else [c]

theorem restore_append (mark : Char) (cs ds : List Char) :
    restore part mark (cs ++ ds) = restore part mark cs ++ restore part mark ds :=
  List.flatMap_append

theorem restore_mark (mark : Char) : restore part mark [mark] = part := by simp [restore]

theorem restore_of_not_mem {mark : Char} {cs : List Char} (h : mark ∉ cs) :
    restore part mark cs = cs := by
  induction cs with
  | nil => rfl
  | cons c cs ih =>
    rw [List.mem_cons, not_or] at h
    have hc : restore part mark [c] = [c] := by simp [restore, Ne.symm h.1]
    rw [← List.singleton_append, restore_append, hc, ih h.2]

theorem restore_intercalate {mark : Char} {pieces : List (List Char)}
    (h : ∀ piece ∈ pieces, mark ∉ piece) :
    restore part mark (List.intercalate [mark] pieces) = part.intercalate pieces := by
  induction pieces with
  | nil => rfl
  | cons piece pieces ih =>
    rw [List.forall_mem_cons] at h
    have hpiece : restore part mark piece = piece := restore_of_not_mem h.1
    cases pieces with
    | nil => rw [List.intercalate_singleton, List.intercalate_singleton, hpiece]
    | cons second pieces =>
      rw [List.intercalate_cons_cons, List.intercalate_cons_cons, restore_append, restore_append,
        restore_mark, hpiece, ih h.2]

/-- **A replacement by a character that does not occur can be undone.** -/
theorem restore_replaceChars {mark : Char} {cs : List Char} (h : mark ∉ cs) :
    restore part mark (replaceChars part [mark] cs) = cs := by
  have hpieces : ∀ piece ∈ splitChars part cs, mark ∉ piece :=
    fun piece hpiece hmark => h (mem_of_mem_splitChars hpiece hmark)
  rw [replaceChars, restore_intercalate hpieces, intercalate_splitChars]

end Filterbook.Text
