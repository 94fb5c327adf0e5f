import Filterbook.Proofs.Filter.Ordering
import Filterbook.Proofs.Text.Blank
import Filterbook.Proofs.Value.Conversion
import Filterbook.Proofs.Value.Days

/-!
# Days stored as text

A typed day is read from the whole text, without the blanks around it. A stored day is read from the
first ten bytes, so that the day of a time on a day can be compared as well. The two readings agree when
these ten bytes hold the whole day, and only then: a day behind a blank loses its last digit and may be
taken for another one, and a short text is not read at all.

## What is proved

* `Value.leadingDate?_iff`: the first ten bytes write the day of the text exactly when only blanks follow.
* `Filter.stored_days_read_iff`: so a stored day compares like a typed one exactly then.
* `Filter.padded_day_misread`: a fourteenth stored behind a blank is found as the first.
-/

namespace Filterbook

open Calendar Number Text

namespace Value

/-! ### The first bytes of a text -/

/-- The number of bytes that encode the characters. -/
def byteCount (cs : List Char) : Nat := (cs.map encodedSize).sum

/-- So many bytes hold all of the characters but blanks at their end, and end between two of them. -/
def EndsWithin (room : Nat) (cs : List Char) : Prop :=
  ∃ head blanks, cs = head ++ blanks ∧ byteCount head = room ∧ ∀ c ∈ blanks, isBlank c = true

theorem encodedSize_pos (c : Char) : 0 < encodedSize c := by
  unfold encodedSize
  split_ifs <;> decide

theorem byteCount_cons (c : Char) (cs : List Char) :
    byteCount (c :: cs) = encodedSize c + byteCount cs := List.sum_cons

/-- The first bytes are those of some first characters. -/
theorem firstTenBytes?_eq_some_iff {room : Nat} {cs head : List Char} :
    firstTenBytes? room cs = some head ↔ ∃ rest, cs = head ++ rest ∧ byteCount head = room := by
  fun_induction firstTenBytes? room cs generalizing head with
  | case1 cs =>
    cases head with
    | nil => simp [byteCount]
    | cons c head =>
      have hc := encodedSize_pos c
      simp [byteCount_cons, hc.ne']
  | case2 room hroom =>
    cases head with
    | nil => simpa [byteCount] using fun h : 0 = room => hroom h.symm
    | cons c head => simp
  | case3 room c cs size =>
    cases head with
    | nil => simp [byteCount]
    | cons d head =>
      simp only [byteCount_cons, List.cons_append, List.cons.injEq, reduceCtorEq, false_iff]
      rintro ⟨rest, ⟨rfl, -⟩, hcount⟩
      omega
  | case4 room c cs size hfits =>
    next ih =>
    cases head with
    | nil => simp [byteCount]
    | cons d head =>
      simp only [Option.map_eq_some_iff, ih, byteCount_cons, List.cons_append, List.cons.injEq]
      constructor
      · rintro ⟨tail, ⟨rest, rfl, hcount⟩, rfl, rfl⟩
        exact ⟨rest, ⟨rfl, rfl⟩, by omega⟩
      · rintro ⟨rest, ⟨rfl, rfl⟩, hcount⟩
        exact ⟨head, ⟨rest, rfl, by omega⟩, rfl, rfl⟩

/-! ### Written days -/

/-- A day as it is written: digits of a year, a month and a day with hyphens between them. -/
structure Written (cs ys ms ds : List Char) : Prop where
  /-- The three runs with their hyphens. -/
  chars : cs = ys ++ '-' :: (ms ++ '-' :: ds)
  /-- The year is written with digits. -/
  year : ∀ c ∈ ys, isDigit c = true
  /-- The month is written with digits. -/
  month : ∀ c ∈ ms, isDigit c = true
  /-- The day is written with digits. -/
  day : ∀ c ∈ ds, isDigit c = true
  /-- The day has a digit. -/
  day_ne_nil : ds ≠ []
  /-- The day has two digits at most. -/
  day_length : ds.length ≤ 2

theorem written_of_dateParts? {cs : List Char} {y m d : Nat} (h : dateParts? cs = some (y, m, d)) :
    ∃ ys ms ds, Written cs ys ms ds ∧ digitsValue ds = d := by
  obtain ⟨ys, ms, ds, hchars, hys, hms, hds⟩ := dateParts?_eq_some_iff.mp h
  exact ⟨ys, ms, ds, ⟨hchars, hys.all, hms.all, hds.all, hds.ne_nil, hds.length_le⟩, hds.value⟩

section Written

variable {cs rest ys ms ds ys' ms' ds' : List Char}

/-- No blanks stand in a written day. -/
theorem Written.no_blank (h : Written cs ys ms ds) : ∀ c ∈ cs, isBlank c = false := by
  have hhyphen : isBlank '-' = false := by decide
  intro c hc
  rw [h.chars] at hc
  simp only [List.mem_append, List.mem_cons] at hc
  rcases hc with hc | rfl | hc | rfl | hc
  · exact isBlank_of_isDigit (h.year c hc)
  · exact hhyphen
  · exact isBlank_of_isDigit (h.month c hc)
  · exact hhyphen
  · exact isBlank_of_isDigit (h.day c hc)

/-- Digits end where a hyphen follows. -/
theorem digits_inj {ds ds' tail tail' : List Char} (hds : ∀ c ∈ ds, isDigit c = true)
    (hds' : ∀ c ∈ ds', isDigit c = true) (h : ds ++ '-' :: tail = ds' ++ '-' :: tail') :
    ds = ds' ∧ tail = tail' := by
  have hhyphen : isDigit '-' = false := by decide
  have hdigits := congrArg (List.takeWhile isDigit) h
  rw [List.takeWhile_append_of_pos hds, List.takeWhile_append_of_pos hds',
    List.takeWhile_cons_of_neg (by simp [hhyphen]), List.takeWhile_cons_of_neg (by simp [hhyphen]),
    List.append_nil, List.append_nil] at hdigits
  subst hdigits
  exact ⟨rfl, (List.cons.inj (List.append_cancel_left h)).2⟩

/-- A written day that goes on is the same but for more digits of the day. -/
theorem Written.append (h : Written cs ys ms ds) (h' : Written (cs ++ rest) ys' ms' ds') :
    ds' = ds ++ rest := by
  have hchars : ys ++ '-' :: (ms ++ '-' :: (ds ++ rest)) = ys' ++ '-' :: (ms' ++ '-' :: ds') := by
    rw [← h'.chars, h.chars]
    simp
  obtain ⟨-, hrest⟩ := digits_inj h.year h'.year hchars
  exact (digits_inj h.month h'.month hrest).2.symm

/-- A written day cut off inside its digits is another day, or none. -/
theorem ne_of_dateParts?_append {y m d y' m' d' : Nat} (h : dateParts? cs = some (y, m, d))
    (h' : dateParts? (cs ++ rest) = some (y', m', d')) (hrest : rest ≠ []) (hd : d ≠ 0) : d' ≠ d := by
  obtain ⟨ys, ms, ds, hwritten, rfl⟩ := written_of_dateParts? h
  obtain ⟨ys', ms', ds', hwritten', rfl⟩ := written_of_dateParts? h'
  have hdigits := hwritten.append hwritten'
  -- of two digits at most, the first is left
  have hlength := hwritten'.day_length
  have hpos := List.length_pos_iff.mpr hwritten.day_ne_nil
  have hpos' := List.length_pos_iff.mpr hrest
  rw [hdigits, List.length_append] at hlength
  obtain ⟨c, rfl⟩ := List.length_eq_one_iff.mp (show ds.length = 1 by omega)
  obtain ⟨c', rfl⟩ := List.length_eq_one_iff.mp (show rest.length = 1 by omega)
  rw [hdigits]
  simp only [digitsValue, valueFrom, List.cons_append, List.nil_append, List.foldl_cons,
    List.foldl_nil] at hd ⊢
  omega

/-- A written day after blanks, cut off, is the same day only if nothing is cut off. -/
theorem eq_nil_of_cut {lead head : List Char} {y m d y' m' : Nat}
    (hlead : ∀ c ∈ lead, isBlank c = true) (hcut : lead ++ cs = head ++ rest)
    (h : dateParts? cs = some (y, m, d)) (h' : dateParts? (trimChars head) = some (y', m', d))
    (hd : d ≠ 0) : rest = [] := by
  rcases List.append_eq_append_iff.mp hcut with ⟨first, hhead, hcs⟩ | ⟨blanks, hlead', -⟩
  · obtain ⟨ys, ms, ds, hwritten, -⟩ := written_of_dateParts? h
    have hfirst : ∀ c ∈ first, isBlank c = false :=
      fun c hc => hwritten.no_blank c (hcs ▸ List.mem_append_left _ hc)
    rw [hhead, trimChars_append_left hlead, trimChars_of_no_blank hfirst] at h'
    by_contra hrest
    exact ne_of_dateParts?_append h' (hcs ▸ h) hrest hd rfl
  · -- only blanks are left of it
    have hblank : ∀ c ∈ head, isBlank c = true :=
      fun c hc => hlead c (hlead' ▸ List.mem_append_left _ hc)
    have hempty : trimChars head = [] := by
      rw [← List.append_nil head, trimChars_append_left hblank]
      rfl
    have hnone : dateParts? [] = none := rfl
    rw [hempty, hnone] at h'
    cases h'

end Written

/-! ### Stored days -/

variable {s : String} {a : Date}

theorem leadingDate?_eq_some_iff : leadingDate? s = some a ↔
    ∃ head rest, s.toList = head ++ rest ∧ byteCount head = 10 ∧
      readDate (String.ofList head) = .ok a := by
  simp only [leadingDate?, Option.bind_eq_bind, Option.bind_eq_some_iff, firstTenBytes?_eq_some_iff]
  constructor
  · rintro ⟨head, ⟨rest, hs, hcount⟩, hread⟩
    refine ⟨head, rest, hs, hcount, ?_⟩
    cases h : readDate (String.ofList head) with
    | error e => simp [h, Except.toOption] at hread
    | ok b => simpa [h, Except.toOption] using hread
  · rintro ⟨head, rest, hs, hcount, hread⟩
    exact ⟨head, ⟨rest, hs, hcount⟩, by rw [hread]; rfl⟩

/-- The first number of a day is not zero. -/
theorem day_ne_zero_of_make? {y : Int} {m d : Nat} (h : Date.make? y m d = some a) :
    d = a.day ∧ d ≠ 0 := by
  unfold Date.make? at h
  split at h
  · next hdate =>
    obtain rfl := Option.some.inj h
    simp only [isDate, Bool.and_eq_true, decide_eq_true_eq] at hdate
    exact ⟨rfl, by omega⟩
  · cases h

/-- **The first ten bytes of a text write the day that the text writes** exactly when only blanks follow
them. -/
theorem leadingDate?_iff (h : readDate s = .ok a) :
    leadingDate? s = some a ↔ EndsWithin 10 s.toList := by
  obtain ⟨y, m, d, hparts, hmake⟩ := readDate_eq_ok_iff.mp h
  obtain ⟨ys, ms, ds, hwritten, -⟩ := written_of_dateParts? hparts
  rw [leadingDate?_eq_some_iff]
  constructor
  · rintro ⟨head, rest, hs, hcount, hread⟩
    obtain ⟨y', m', d', hparts', hmake'⟩ := readDate_eq_ok_iff.mp hread
    rw [String.toList_ofList] at hparts'
    obtain ⟨lead, trail, htext, hlead, htrail⟩ := exists_trimChars s.toList
    rw [← List.append_assoc] at htext
    refine ⟨head, rest, hs, hcount, ?_⟩
    rcases List.append_eq_append_iff.mp (hs.symm.trans htext) with ⟨more, hcut, hrest⟩ | ⟨more, hhead, hrest⟩
    · obtain ⟨hday, hd⟩ := day_ne_zero_of_make? hmake
      obtain rfl : d' = d := (day_ne_zero_of_make? hmake').1.trans hday.symm
      rw [eq_nil_of_cut hlead hcut hparts hparts' hd, List.nil_append] at hrest
      exact hrest ▸ htrail
    · -- the first ten bytes reach into the blanks at the end
      exact fun c hc => htrail c (hrest ▸ List.mem_append_right _ hc)
  · rintro ⟨head, blanks, hs, hcount, hblanks⟩
    refine ⟨head, blanks, hs, hcount, readDate_eq_ok_iff.mpr ⟨y, m, d, ?_, hmake⟩⟩
    rw [String.toList_ofList, ← trimChars_append_right head hblanks, ← hs]
    exact hparts

end Value

namespace Filter

open Value

variable {f : String} {row : Json} {s : String} {a b : Date}

theorem ordersAs_numbers {operand : Value} (h : OrdersAs f operand row a.numbers b.numbers) :
    OrdersAs f operand row a b :=
  ⟨h.eq.trans Date.numbers_inj, h.lt, h.lte, h.gt, h.gte⟩

/-- **A stored day is read like a typed one** exactly when the first ten bytes of its text hold all but
blanks. -/
theorem stored_days_read_iff (hf : ¬ pathSeparator.toList <:+: f.toList)
    (hrow : row.get? f = some (.str s)) (ha : convert .date s = .ok (.date a)) :
    ((∀ t b, convert .date t = .ok (.date b) → OrdersAs f (.date b) row a b) ↔
        EndsWithin 10 s.toList) ∧
      ((leaf .eq f (.date a)).holds row = true ↔ EndsWithin 10 s.toList) := by
  have hreach : row.reach f = [.str s] := Json.reach_name hf hrow
  have hnull : ∀ d, Value.date d ≠ .null := fun d h => by cases h
  obtain ⟨_, hwritten, ⟨⟩⟩ := convert_date_eq_ok_iff.mp ha
  have hleading := leadingDate?_iff hwritten
  have hequal : (leaf .eq f (.date a)).holds row = true ↔ EndsWithin 10 s.toList := by
    rw [holds_eq_iff hreach (hnull a), order?_date, ← hleading, Option.map_eq_some_iff]
    constructor
    · rintro ⟨a', hread, horder⟩
      have hsame : a' = a := Date.numbers_inj.mp ((a'.order_compares a).eq_eq.mp horder)
      rw [hread, hsame]
    · intro hread
      exact ⟨a, hread, (a.order_compares a).eq_eq.mpr rfl⟩
  refine ⟨⟨fun h => hequal.mp ((h s a ha).eq.mpr rfl), fun h t b hb => ?_⟩, hequal⟩
  have horder : order? (.str s) (.date b) = some (a.order b) := by
    rw [order?_date, hleading.mpr h]
    rfl
  exact ordersAs_numbers (ordersAs_of_compares hreach (hnull b) horder (a.order_compares b))

/-- A record of the fourteenth of March, with a blank after it. -/
def ides : Json := .obj [("day", .str "2021-3-14 ")]

theorem stored_days_read_iff_ides :
    ¬ pathSeparator.toList <:+: "day".toList ∧ ides.get? "day" = some (.str "2021-3-14 ") ∧
      convert .date "2021-3-14 " = .ok (.date ⟨2021, 3, 14, rfl⟩) ∧
      convert .date " 2021-03-15" = .ok (.date ⟨2021, 3, 15, rfl⟩) ∧
      (leaf .lt "day" (.date ⟨2021, 3, 15, rfl⟩)).holds ides = true := by
  have hmark : ¬ pathSeparator.toList <:+: "day".toList := by decide
  have hrow : ides.get? "day" = some (.str "2021-3-14 ") := rfl
  have hstored : convert .date "2021-3-14 " = .ok (.date ⟨2021, 3, 14, rfl⟩) :=
    convert_date_eq_ok_iff.mpr ⟨_, by decide +kernel, rfl⟩
  have htyped : convert .date " 2021-03-15" = .ok (.date ⟨2021, 3, 15, rfl⟩) :=
    convert_date_eq_ok_iff.mpr ⟨_, by decide +kernel, rfl⟩
  have hwithin : EndsWithin 10 "2021-3-14 ".toList :=
    ⟨"2021-3-14 ".toList, [], by decide, by decide, nofun⟩
  have hbefore : (⟨2021, 3, 14, rfl⟩ : Date) < ⟨2021, 3, 15, rfl⟩ :=
    (Date.order_compares _ _).eq_lt.mp rfl
  obtain ⟨hread, -⟩ := stored_days_read_iff hmark hrow hstored
  exact ⟨hmark, hrow, hstored, htyped, (hread.mpr hwithin _ _ htyped).lt.mpr hbefore⟩

/-- **A day with a blank in front is taken for another one**: the fourteenth of March, stored behind a
blank, is found as the first, and the first, stored with one digit, is not. -/
theorem padded_day_misread :
    convert .date " 2021-03-14" = .ok (.date ⟨2021, 3, 14, rfl⟩) ∧
      convert .date "2021-3-1" = .ok (.date ⟨2021, 3, 1, rfl⟩) ∧
      (leaf .eq "day" (.date ⟨2021, 3, 1, rfl⟩)).holds (.obj [("day", .str " 2021-03-14")]) = true ∧
      (leaf .eq "day" (.date ⟨2021, 3, 1, rfl⟩)).holds (.obj [("day", .str "2021-3-1")]) = false :=
  ⟨convert_date_eq_ok_iff.mpr ⟨_, by decide +kernel, rfl⟩,
    convert_date_eq_ok_iff.mpr ⟨_, by decide +kernel, rfl⟩, by decide +kernel, by decide +kernel⟩

end Filter

end Filterbook
