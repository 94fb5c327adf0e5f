import Filterbook.Proofs.Value.Conversion
import Filterbook.Proofs.Value.Days

/-!
# Times on days

A text without a zone is read by patterns that begin with a day and end with a clock. The clock is the one
that a time of day is read by, but the day is not the one that a day is read by: its year may have fewer
digits or a sign, and blanks may stand in front of its numbers. Of a text that falls apart into a day and a
clock these are the only differences, but for a day alone, which is read as its midnight.

## What is proved

* `readLocal?_eq`: the patterns read a day, a `T` or blanks, and a clock.
* `readDateTime_unzoned_iff`: a text without a zone is such a local time, or a day alone.
* `convert_dateTime_parts_iff`: a day and a time are read together as they are read alone, and a text of
  the two is nothing else when its day is written out.
* `day_alone_at_midnight`: a day alone is read though no text is no time, and a short year only with a time.
-/

namespace Filterbook.Value

open Calendar Number Text

/-! ### The clock -/

/-- The time of day that characters without blanks around them write. -/
def readClock? (cs : List Char) : Option TimeOfDay :=
  [secondItems, minuteItems].findSome? fun items => (fit? items cs).bind Reading.time?

theorem readTime?_eq (raw : String) : readTime? raw = readClock? (trimChars raw.toList) := rfl

/-- The items of a clock begin with an hour and a colon. -/
theorem exists_eq_hour_mark {items : List Item} (hitems : items ∈ [secondItems, minuteItems]) :
    ∃ tail, items = .hour :: .mark ':' :: tail := by
  rcases List.mem_pair.mp hitems with rfl | rfl
  · exact ⟨_, rfl⟩
  · exact ⟨_, rfl⟩

theorem hour_of_readClock? {cs : List Char} {time : TimeOfDay} (h : readClock? cs = some time) :
    ∃ blanks hs rest, cs = blanks ++ (hs ++ ':' :: rest) ∧ (∀ b ∈ blanks, isBlank b = true) ∧
      AllDigits hs ∧ hs ≠ [] := by
  obtain ⟨items, hitems, htime⟩ := List.exists_of_findSome?_eq_some h
  obtain ⟨r, hfit, -⟩ := Option.bind_eq_some_iff.mp htime
  obtain ⟨tail, rfl⟩ := exists_eq_hour_mark hitems
  exact hour_of_readItems? (fitFrom?_eq_some_iff.mp hfit)

theorem fit?_T_eq_none {items : List Item} (hitems : items ∈ [secondItems, minuteItems])
    (cs : List Char) : fit? items ('T' :: cs) = none := by
  obtain ⟨tail, rfl⟩ := exists_eq_hour_mark hitems
  rw [fit?, readItems?_hour_T]

/-! ### A day and a clock -/

/-- The local time that characters write. -/
def readLocal? (cs : List Char) : Option DateTime :=
  localPatterns.findSome? fun items => (fit? items cs).bind Reading.local?

/-- What follows a day, without the `T` or the blanks in front. -/
def afterDay : List Char → List Char
  | 'T' :: cs => cs
  | cs => dropBlanks cs

theorem local?_onDay (q r : Reading) :
    (q.onDay r).local? = r.date?.bind fun date => q.time?.map fun time => ⟨date, time⟩ := by
  rw [Reading.local?, Reading.date?_onDay, Reading.time?_onDay]
  cases r.date? <;> cases q.time? <;> rfl

section DayAndClock

variable {cs u : List Char} {r : Reading} {clock : List Item}

/-- The items of a clock after a day are read as if nothing stood in front, and the day is added. -/
theorem fitFrom?_day (h : readItems? dateItems {} cs = some (r, u))
    (hclock : clock ∈ [secondItems, minuteItems]) (v : List Char) :
    (fitFrom? clock r v).bind Reading.local? =
      r.date?.bind fun date => ((fit? clock v).bind Reading.time?).map fun time => ⟨date, time⟩ := by
  obtain ⟨-, -, -, hday⟩ := readItems?_dateItems_iff.mp h
  have hitems : ∀ item ∈ clock, item.ofDay = false := by
    rcases List.mem_pair.mp hclock with rfl | rfl <;> decide
  have hfit : fitFrom? clock {} v = fit? clock v := rfl
  rw [← hday, fitFrom?_onDay hitems, hfit, Reading.date?_onDay]
  cases fit? clock v with
  | none => cases r.date? <;> rfl
  | some q => exact local?_onDay q r

theorem local_blanks (h : readItems? dateItems {} cs = some (r, u))
    (hclock : clock ∈ [secondItems, minuteItems]) :
    (fit? (dateItems ++ .blanks :: clock) cs).bind Reading.local? =
      r.date?.bind fun date =>
        ((fit? clock (dropBlanks u)).bind Reading.time?).map fun time => ⟨date, time⟩ := by
  rw [fit?_append, h, Option.bind_some, fitFrom?_cons]
  exact fitFrom?_day h hclock _

theorem local_mark (h : readItems? dateItems {} cs = some (r, u))
    (hclock : clock ∈ [secondItems, minuteItems]) :
    (fit? (dateItems ++ .mark 'T' :: clock) cs).bind Reading.local? =
      (takeMark? 'T' u).bind fun v => r.date?.bind fun date =>
        ((fit? clock v).bind Reading.time?).map fun time => ⟨date, time⟩ := by
  rw [fit?_append, h, Option.bind_some, fitFrom?_cons]
  simp only [Item.read?]
  cases takeMark? 'T' u with
  | none => rfl
  | some v => exact fitFrom?_day h hclock v

end DayAndClock

/-- **A local time is a day and then a clock**, with a `T` or blanks in between. -/
theorem readLocal?_eq (cs : List Char) :
    readLocal? cs = (readItems? dateItems {} cs).bind fun p => p.1.date?.bind fun date =>
      (readClock? (afterDay p.2)).map fun time => ⟨date, time⟩ := by
  have hsecond : secondItems ∈ [secondItems, minuteItems] := by decide
  have hminute : minuteItems ∈ [secondItems, minuteItems] := by decide
  cases h : readItems? dateItems {} cs with
  | none => simp [readLocal?, localPatterns, fit?_append, h]
  | some p =>
    obtain ⟨r, u⟩ := p
    rw [Option.bind_some]
    simp only [readLocal?, localPatterns, List.findSome?_cons, List.findSome?_nil, local_blanks h hsecond,
      local_blanks h hminute, local_mark h hsecond, local_mark h hminute]
    by_cases hT : ∃ v, u = 'T' :: v
    · obtain ⟨v, rfl⟩ := hT
      have hmark : takeMark? 'T' ('T' :: v) = some v := rfl
      have hdrop : dropBlanks ('T' :: v) = 'T' :: v := rfl
      simp only [hmark, hdrop, fit?_T_eq_none hsecond, fit?_T_eq_none hminute, afterDay, readClock?,
        List.findSome?_cons, List.findSome?_nil, Option.bind_some]
      cases r.date? with
      | none => rfl
      | some date =>
        cases (fit? secondItems v).bind Reading.time? <;>
          cases (fit? minuteItems v).bind Reading.time? <;> rfl
    · have hmark : takeMark? 'T' u = none := by
        by_contra hsome
        obtain ⟨v, hv⟩ := Option.ne_none_iff_exists'.mp hsome
        exact hT ⟨v, takeMark?_eq_some_iff.mp hv⟩
      have hafter : afterDay u = dropBlanks u := by
        unfold afterDay
        split
        · next v => exact absurd ⟨v, rfl⟩ hT
        · rfl
      simp only [hmark, hafter, readClock?, List.findSome?_cons, List.findSome?_nil]
      cases r.date? with
      | none => rfl
      | some date =>
        cases (fit? secondItems (dropBlanks u)).bind Reading.time? <;>
          cases (fit? minuteItems (dropBlanks u)).bind Reading.time? <;> rfl

theorem readLocal?_eq_some_iff {cs : List Char} {x : DateTime} :
    readLocal? cs = some x ↔
      ∃ u, DayInFront u x.date.year x.date.month x.date.day cs ∧
        readClock? (afterDay u) = some x.time := by
  rw [readLocal?_eq]
  constructor
  · intro h
    obtain ⟨⟨r, u⟩, hread, h⟩ := Option.bind_eq_some_iff.mp h
    obtain ⟨date, hdate, h⟩ := Option.bind_eq_some_iff.mp h
    obtain ⟨time, htime, rfl⟩ := Option.map_eq_some_iff.mp h
    exact ⟨u, date?_of_dateItems_iff.mp ⟨r, hread, hdate⟩, htime⟩
  · rintro ⟨u, hday, htime⟩
    obtain ⟨r, hread, hdate⟩ := date?_of_dateItems_iff.mpr hday
    rw [hread, Option.bind_some, hdate, Option.bind_some, htime]
    rfl

theorem afterDay_suffix (u : List Char) : afterDay u <:+ u := by
  unfold afterDay
  split
  · exact List.suffix_cons _ _
  · exact List.dropWhile_suffix _

/-- A local time has a hyphen and a colon. -/
theorem mem_of_readLocal? {cs : List Char} {x : DateTime} (h : readLocal? cs = some x) :
    '-' ∈ cs ∧ ':' ∈ cs := by
  obtain ⟨u, hday, hclock⟩ := readLocal?_eq_some_iff.mp h
  obtain ⟨blanks, hs, rest, hu, -⟩ := hour_of_readClock? hclock
  have hcolon : ':' ∈ u := (afterDay_suffix u).subset (by simp [hu])
  cases hday
  simp [hcolon]

/-! ### Texts without a zone -/

/-- **A text without a zone is a day and a clock**, or a day alone, which means its midnight. -/
theorem readDateTime_unzoned_iff {raw : String} {x : DateTime}
    (hzone : ¬ ZoneBehindColon (trimChars raw.toList)) :
    readDateTime raw = .ok x ↔ readLocal? (trimChars raw.toList) = some x ∨
      (readDate raw = .ok x.date ∧ x.time = .midnight) := by
  have hstrict : readStrict? (trimChars raw.toList) = none :=
    Option.eq_none_iff_forall_ne_some.mpr fun r hr => hzone (readStrict?_zone hr)
  have hitems : zonedItems = (dateItems ++ [Item.blanks, Item.hour]) ++
      Item.mark ':' :: ([Item.minute, Item.mark ':', Item.second, Item.fraction] ++ [Item.zone]) := rfl
  have hfree : fit? zonedItems (trimChars raw.toList) = none := by
    rw [hitems]
    exact Option.eq_none_iff_forall_ne_some.mpr fun r hr =>
      hzone (fit?_zone (by decide) (by decide) hr)
  have hread : readDateTime raw = (readLocal? (trimChars raw.toList)).elim
      (if (dateParts? (trimChars raw.toList)).isSome
        then (readDate raw).map fun d => ⟨d, .midnight⟩ else .error (.dateTimeForm raw)) .ok := by
    have hlocal : readLocal? (trimChars raw.toList) = localPatterns.findSome? fun items =>
      (fit? items (trimChars raw.toList)).bind Reading.local? := rfl
    rw [hlocal]
    simp only [readDateTime, hstrict, hfree, Option.bind_none, Option.orElse_none]
    cases localPatterns.findSome? fun items =>
      (fit? items (trimChars raw.toList)).bind Reading.local? <;> rfl
  rw [hread]
  cases hlocal : readLocal? (trimChars raw.toList) with
  | some t =>
    have hnot : ∀ date, readDate raw ≠ .ok date := by
      intro date hdate
      have hcolon := (readDate_iff_spells.mp hdate).chars _ (mem_of_readLocal? hlocal).2
      revert hcolon
      decide
    simp [hnot]
  | none =>
    simp only [reduceCtorEq, false_or]
    constructor
    · intro h
      split at h
      · cases hdate : readDate raw with
        | error cause =>
          rw [hdate] at h
          cases h
        | ok date =>
          rw [hdate] at h
          obtain rfl := Except.ok.inj h
          exact ⟨rfl, rfl⟩
      · cases h
    · rintro ⟨hdate, htime⟩
      obtain ⟨_, _, _, hparts, -⟩ := readDate_eq_ok_iff.mp hdate
      rw [hparts, Option.isSome_some, if_pos rfl, hdate, ← htime]
      rfl

/-! ### A day, one character and a clock -/

/-- Digits and hyphens, as a day is written. -/
def DayChars (cs : List Char) : Prop := ∀ c ∈ cs, isDigit c = true ∨ c = '-'

instance (cs : List Char) : Decidable (DayChars cs) :=
  List.decidableBAll (fun c => isDigit c = true ∨ c = '-') cs

/-- Digits, colons and points, as a clock is written. -/
def ClockChars (cs : List Char) : Prop := ∀ c ∈ cs, isDigit c = true ∨ c = ':' ∨ c = '.'

instance (cs : List Char) : Decidable (ClockChars cs) :=
  List.decidableBAll (fun c => isDigit c = true ∨ c = ':' ∨ c = '.') cs

/-- A character that stands in the first of two texts and not in the second. -/
theorem split_of_notMem {c : Char} {front tail a b : List Char} (h : front ++ c :: tail = a ++ b)
    (hb : c ∉ b) : ∃ more, a = front ++ c :: more ∧ tail = more ++ b := by
  rcases List.append_eq_append_iff.mp h with ⟨more, ha, htail⟩ | ⟨more, -, hb'⟩
  · cases more with
    | nil =>
      rw [List.nil_append] at htail
      exact absurd (htail ▸ List.mem_cons_self ..) hb
    | cons _ more =>
      obtain ⟨rfl, rfl⟩ := List.cons.inj htail
      exact ⟨more, ha, rfl⟩
  · exact absurd (hb' ▸ List.mem_append_right _ (List.mem_cons_self ..)) hb

/-- A character that stands behind the first of two texts. -/
theorem split_of_notMem_front {c separator : Char} {front tail a b : List Char}
    (h : front ++ c :: tail = a ++ separator :: b) (ha : c ∉ a) (hc : c ≠ separator) :
    ∃ more, front = a ++ separator :: more ∧ b = more ++ c :: tail := by
  rcases List.append_eq_append_iff.mp h with ⟨more, ha', htail⟩ | ⟨more, hfront, hb⟩
  · cases more with
    | nil => exact absurd (List.cons.inj htail).1 hc
    | cons _ more =>
      obtain ⟨rfl, -⟩ := List.cons.inj htail
      exact absurd (ha' ▸ List.mem_append_right _ (List.mem_cons_self ..)) ha
  · cases more with
    | nil => exact absurd (List.cons.inj hb).1.symm hc
    | cons _ more =>
      obtain ⟨rfl, rfl⟩ := List.cons.inj hb
      exact ⟨more, hfront, rfl⟩

section Parts

variable {d t u : List Char} {separator : Char} {x : DateTime}

theorem DayChars.not_blank (h : DayChars d) : ∀ c ∈ d, isBlank c = false := by
  intro c hc
  rcases h c hc with hdigit | rfl
  · exact isBlank_of_isDigit hdigit
  · decide

theorem ClockChars.not_blank (h : ClockChars t) : ∀ c ∈ t, isBlank c = false := by
  intro c hc
  rcases h c hc with hdigit | rfl | rfl
  · exact isBlank_of_isDigit hdigit
  · decide
  · decide

theorem ClockChars.hyphen_notMem (h : ClockChars t) : '-' ∉ t := fun hmem => by
  have hhyphen := h _ hmem
  revert hhyphen
  decide

/-- A separator is no part of a day or of a clock. -/
theorem separator_apart (hsep : separator = ' ' ∨ separator = 'T') :
    isDigit separator = false ∧ separator ≠ '-' ∧ separator ≠ ':' := by
  rcases hsep with rfl | rfl <;> decide

/-- Blanks among characters that are none are none at all. -/
theorem eq_nil_of_blanks {blanks : List Char} (hblanks : ∀ b ∈ blanks, isBlank b = true)
    (hnone : ∀ b ∈ blanks, isBlank b = false) : blanks = [] :=
  List.eq_nil_iff_forall_not_mem.mpr fun b hb =>
    Bool.noConfusion ((hblanks b hb).symm.trans (hnone b hb))

/-- A day in front of a text in two parts ends in the first, or it begins there and ends in the second. -/
theorem dayInFront_parts (hd : DayChars d) (ht : ClockChars t) (hsep : separator = ' ' ∨ separator = 'T')
    {y : Int} {m n : Nat} (h : DayInFront u y m n (d ++ separator :: t)) :
    ∃ ys ms ds, WritesYear ys y ∧ WritesNumber ms m ∧ WritesNumber ds n ∧
      (ds.length < 2 → NoDigitFirst u) ∧
      ((∃ more, d = ys ++ '-' :: (ms ++ '-' :: (ds ++ more)) ∧ u = more ++ separator :: t) ∨
        (separator = ' ' ∧ d = ys ++ '-' :: (ms ++ ['-']) ∧ t = ds ++ u)) := by
  generalize htext : d ++ separator :: t = text at h
  obtain @⟨b₀, ys, b₁, ms, b₂, ds, hb₀, hb₁, hb₂, hys, hms, hds, hstop⟩ := h
  obtain ⟨hnone, hother, -⟩ := separator_apart hsep
  have hdigit : ¬ isDigit separator = true := by simp [hnone]
  have hhyphen : '-' ∉ separator :: t := by
    rw [List.mem_cons, not_or]
    exact ⟨hother.symm, ht.hyphen_notMem⟩
  have hfront : (b₀ ++ ys ++ '-' :: (b₁ ++ ms)) ++ '-' :: (b₂ ++ (ds ++ u)) = d ++ separator :: t := by
    simp [htext]
  obtain ⟨more, hdmore, htail⟩ := split_of_notMem hfront hhyphen
  obtain rfl : b₀ = [] := eq_nil_of_blanks hb₀ fun b hb => hd.not_blank b (by simp [hdmore, hb])
  obtain rfl : b₁ = [] := eq_nil_of_blanks hb₁ fun b hb => hd.not_blank b (by simp [hdmore, hb])
  refine ⟨ys, ms, ds, hys, hms, hds, hstop, ?_⟩
  cases more with
  | cons c more =>
    -- the blanks in front of the day would be the first characters of it
    have hc : isBlank c = false := hd.not_blank c (by simp [hdmore])
    obtain rfl : b₂ = [] := by
      cases b₂ with
      | nil => rfl
      | cons b b₂ =>
        obtain ⟨rfl, -⟩ := List.cons.inj htail
        exact Bool.noConfusion ((hb₂ b (List.mem_cons_self ..)).symm.trans hc)
    rw [List.nil_append] at htail
    rcases List.append_eq_append_iff.mp htail with ⟨rest, hcmore, hu⟩ | ⟨rest, hcmore, hrest⟩
    · exact .inl ⟨rest, by simp [hdmore, hcmore], hu⟩
    · cases rest with
      | nil => exact .inl ⟨[], by simp [hdmore, hcmore], hrest.symm⟩
      | cons _ rest =>
        obtain ⟨rfl, -⟩ := List.cons.inj hrest
        exact absurd (hds.all _ (by simp [hcmore])) hdigit
  | nil =>
    cases b₂ with
    | nil =>
      obtain ⟨c, ds, rfl⟩ := List.exists_cons_of_ne_nil hds.ne_nil
      obtain ⟨rfl, -⟩ := List.cons.inj htail
      exact absurd (hds.all _ (List.mem_cons_self ..)) hdigit
    | cons b b₂ =>
      obtain ⟨rfl, htext'⟩ := List.cons.inj htail
      obtain rfl : b₂ = [] := eq_nil_of_blanks (fun c hc => hb₂ c (List.mem_cons_of_mem _ hc))
        fun c hc => ht.not_blank c (by simp [← htext', hc])
      refine .inr ⟨?_, by simp [hdmore], htext'.symm⟩
      rcases hsep with rfl | rfl
      · rfl
      · exact absurd (hb₂ _ (List.mem_cons_self ..)) (by decide)

theorem afterDay_separator (ht : ClockChars t) (hsep : separator = ' ' ∨ separator = 'T') :
    afterDay (separator :: t) = t := by
  rcases hsep with rfl | rfl
  · exact dropBlanks_of_head fun c hc => ht.not_blank c (List.mem_of_mem_head? hc)
  · rfl

/-- A day and a clock make a local time. -/
theorem readLocal?_of_parts (ht : ClockChars t) (hsep : separator = ' ' ∨ separator = 'T')
    (hday : SpellsDay WritesYear d x.date) (hclock : readClock? t = some x.time) :
    readLocal? (d ++ separator :: t) = some x := by
  obtain ⟨ys, ms, ds, rfl, hys, hms, hds⟩ := hday
  have hfront : DayInFront (separator :: t) x.date.year x.date.month x.date.day
      ([] ++ (ys ++ '-' :: ([] ++ (ms ++ '-' :: ([] ++ (ds ++ separator :: t)))))) :=
    .intro nofun nofun nofun hys hms hds fun _ => noDigitFirst_cons (separator_apart hsep).1 t
  refine readLocal?_eq_some_iff.mpr ⟨separator :: t, ?_, (afterDay_separator ht hsep).symm ▸ hclock⟩
  simpa using hfront

/-- No clock begins in front of the separator. -/
theorem readClock?_in_front {c : Char} {more : List Char} {time : TimeOfDay}
    (hd : DayChars (c :: more)) (hsep : separator = ' ' ∨ separator = 'T') :
    readClock? (afterDay (c :: more ++ separator :: t)) ≠ some time := by
  intro h
  have hc : c ≠ 'T' ∧ isBlank c = false := by
    refine ⟨?_, hd.not_blank c (List.mem_cons_self ..)⟩
    rintro rfl
    exact absurd (hd 'T' (List.mem_cons_self ..)) (by decide)
  have hafter : afterDay (c :: more ++ separator :: t) = c :: more ++ separator :: t := by
    unfold afterDay
    split
    · next heq => exact absurd (List.cons.inj heq).1 hc.1
    · exact dropBlanks_of_head (by simp [hc.2])
  obtain ⟨blanks, hs, rest, htext, hblanks, hdigits, -⟩ := hour_of_readClock? (hafter ▸ h)
  obtain rfl : blanks = [] := by
    cases blanks with
    | nil => rfl
    | cons b blanks =>
      obtain ⟨rfl, -⟩ := List.cons.inj htext
      exact Bool.noConfusion ((hblanks _ (List.mem_cons_self ..)).symm.trans hc.2)
  have hcolon : ':' ∉ c :: more := fun hmem => absurd (hd ':' hmem) (by decide)
  obtain ⟨hnone, -, hother⟩ := separator_apart hsep
  obtain ⟨_, rfl, -⟩ := split_of_notMem_front htext.symm hcolon hother.symm
  exact Bool.noConfusion (hnone.symm.trans (hdigits _ (by simp)))

/-- And nothing else does, but for a day with a blank inside. -/
theorem parts_of_readLocal? (hd : DayChars d) (ht : ClockChars t)
    (hsep : separator = ' ' ∨ separator = 'T') (hday : separator = ' ' → ¬ ['-'] <:+ d)
    (h : readLocal? (d ++ separator :: t) = some x) :
    SpellsDay WritesYear d x.date ∧ readClock? t = some x.time := by
  obtain ⟨u, hfront, hclock⟩ := readLocal?_eq_some_iff.mp h
  obtain ⟨ys, ms, ds, hys, hms, hds, -, ⟨more, hdmore, rfl⟩ | ⟨hspace, hcut, -⟩⟩ :=
    dayInFront_parts hd ht hsep hfront
  · obtain rfl : more = [] := by
      cases more with
      | nil => rfl
      | cons c more =>
        have hmore : DayChars (c :: more) := fun e he => hd e (by simp [hdmore, he])
        exact absurd hclock (readClock?_in_front hmore hsep)
    exact ⟨⟨ys, ms, ds, by simpa using hdmore, hys, hms, hds⟩, afterDay_separator ht hsep ▸ hclock⟩
  · exact absurd ⟨ys ++ '-' :: ms, by simp [hcut]⟩ (hday hspace)

/-- A clock holds no zone behind a colon, whatever stands in front of it without a colon. -/
theorem not_zoneBehindColon_append {front : List Char} (hfront : ':' ∉ front) (ht : ClockChars t) :
    ¬ ZoneBehindColon (front ++ t) := by
  rintro ⟨rest, ⟨before, hbefore⟩, c, hc, hsign⟩
  have hmem : c ∈ t := by
    rcases List.append_eq_append_iff.mp hbefore with ⟨more, rfl, hrest⟩ | ⟨more, -, rfl⟩
    · cases more with
      | nil =>
        rw [List.nil_append] at hrest
        exact hrest ▸ List.mem_cons_of_mem _ hc
      | cons _ more =>
        obtain ⟨rfl, -⟩ := List.cons.inj hrest
        exact absurd (List.mem_append_right _ (List.mem_cons_self ..)) hfront
    · exact List.mem_append_right _ (List.mem_cons_of_mem _ hc)
  have hclock := ht c hmem
  simp only [zoneSigns, List.mem_cons, List.not_mem_nil, or_false] at hsign
  rcases hsign with rfl | rfl | rfl | rfl | rfl <;> revert hclock <;> decide

/-- Digits, hyphens, colons and points hold no zone behind a colon when the hyphens come first. -/
theorem not_zoneBehindColon (hd : DayChars d) (ht : ClockChars t)
    (hsep : separator = ' ' ∨ separator = 'T') : ¬ ZoneBehindColon (d ++ separator :: t) := by
  have hcolon : ':' ∉ d := fun hmem => absurd (hd ':' hmem) (by decide)
  have hfront : ':' ∉ d ++ [separator] := by
    rw [List.mem_append, List.mem_singleton, not_or]
    exact ⟨hcolon, (separator_apart hsep).2.2.symm⟩
  rw [← List.singleton_append, ← List.append_assoc]
  exact not_zoneBehindColon_append hfront ht

/-- Trimming takes the separator away when nothing stands on one of its sides, or nothing. -/
theorem trimChars_parts (hd : DayChars d) (ht : ClockChars t)
    (hsep : separator = ' ' ∨ separator = 'T') :
    trimChars (d ++ separator :: t) = d ++ separator :: t ∨ separator = ' ' ∧ (d = [] ∨ t = []) := by
  rcases hsep with rfl | rfl
  · by_cases hempty : d = [] ∨ t = []
    · exact .inr ⟨rfl, hempty⟩
    · rw [not_or] at hempty
      refine .inl (trimChars_of_ends ?_ ?_)
      · intro c hc
        rw [List.head?_append_of_ne_nil _ hempty.1] at hc
        exact hd.not_blank c (List.mem_of_mem_head? hc)
      · intro c hc
        rw [List.getLast?_append_of_ne_nil _ (List.cons_ne_nil _ _),
          List.getLast?_cons_of_ne_nil hempty.2] at hc
        exact ht.not_blank c (List.mem_of_mem_getLast? hc)
  · refine .inl (trimChars_of_no_blank fun c hc => ?_)
    rcases List.mem_append.mp hc with hc | hc
    · exact hd.not_blank c hc
    · rcases List.mem_cons.mp hc with rfl | hc
      · decide
      · exact ht.not_blank c hc

/-- The zone of a text without its blanks stands in the text. -/
theorem zoneBehindColon_of_trimChars {cs : List Char} (h : ZoneBehindColon (trimChars cs)) :
    ZoneBehindColon cs := by
  obtain ⟨rest, ⟨front, hfront⟩, c, hc, hsign⟩ := h
  obtain ⟨lead, trail, hcs, -⟩ := exists_trimChars cs
  exact ⟨rest ++ trail, ⟨lead ++ front, by rw [hcs, ← hfront]; simp⟩, c, List.mem_append_left _ hc, hsign⟩

/-- Trimming makes no difference to the local time. -/
theorem readLocal?_trimChars (hd : DayChars d) (ht : ClockChars t)
    (hsep : separator = ' ' ∨ separator = 'T') :
    readLocal? (trimChars (d ++ separator :: t)) = some x ↔ readLocal? (d ++ separator :: t) = some x := by
  rcases trimChars_parts hd ht hsep with htrim | ⟨rfl, hempty⟩
  · rw [htrim]
  · -- without a hyphen, or without a colon, neither is one
    have hnot : ∀ cs, (∀ c ∈ cs, c ∈ d ++ ' ' :: t) → readLocal? cs ≠ some x := by
      intro cs hcs h
      obtain ⟨hhyphen, hcolon⟩ := mem_of_readLocal? h
      rcases hempty with rfl | rfl
      · rcases List.mem_cons.mp (hcs _ hhyphen) with hspace | hmem
        · exact absurd hspace (by decide)
        · exact ht.hyphen_notMem hmem
      · rcases List.mem_append.mp (hcs _ hcolon) with hmem | hmem
        · exact absurd (hd ':' hmem) (by decide)
        · exact absurd hmem (by decide)
    exact iff_of_false (hnot _ fun c hc => mem_of_mem_trimChars hc) (hnot _ fun c hc => hc)

/-- A day with a separator behind it is read as the day when the separator is trimmed away. -/
theorem readDate_parts_iff (hd : DayChars d) (ht : ClockChars t)
    (hsep : separator = ' ' ∨ separator = 'T') {date : Date} :
    readDate (.ofList (d ++ separator :: t)) = .ok date ↔
      separator = ' ' ∧ t = [] ∧ readDate (.ofList d) = .ok date := by
  simp only [readDate_iff_spells, String.toList_ofList]
  constructor
  · intro h
    rcases trimChars_parts hd ht hsep with htrim | ⟨rfl, rfl | rfl⟩
    · rw [htrim] at h
      obtain ⟨hnone, hother, -⟩ := separator_apart hsep
      rcases h.chars separator (by simp) with hdigit | hhyphen
      · exact Bool.noConfusion (hnone.symm.trans hdigit)
      · exact absurd hhyphen hother
    · rcases List.mem_cons.mp (mem_of_mem_trimChars h.hyphen_mem) with hspace | hmem
      · exact absurd hspace (by decide)
      · exact absurd hmem ht.hyphen_notMem
    · rw [trimChars_append_right d (List.forall_mem_singleton.mpr (by decide))] at h
      exact ⟨rfl, rfl, h⟩
  · rintro ⟨rfl, rfl, h⟩
    rwa [trimChars_append_right d (List.forall_mem_singleton.mpr (by decide))]

/-- **A day, a separator and a clock are read as a local time**, or as the day alone. -/
theorem readDateTime_parts_iff (hd : DayChars d) (ht : ClockChars t)
    (hsep : separator = ' ' ∨ separator = 'T') :
    readDateTime (.ofList (d ++ separator :: t)) = .ok x ↔
      readLocal? (d ++ separator :: t) = some x ∨
        (separator = ' ' ∧ t = [] ∧ readDate (.ofList d) = .ok x.date) ∧ x.time = .midnight := by
  have hzone : ¬ ZoneBehindColon (trimChars (String.ofList (d ++ separator :: t)).toList) := by
    rw [String.toList_ofList]
    exact fun h => not_zoneBehindColon hd ht hsep (zoneBehindColon_of_trimChars h)
  rw [readDateTime_unzoned_iff hzone, readDate_parts_iff hd ht hsep, String.toList_ofList,
    readLocal?_trimChars hd ht hsep]

theorem readDate_ofList (hd : DayChars d) {date : Date} :
    readDate (.ofList d) = .ok date ↔ SpellsDay FullYear d date := by
  rw [readDate_iff_spells, String.toList_ofList, trimChars_of_no_blank hd.not_blank]

theorem readTime?_ofList (ht : ClockChars t) : readTime? (.ofList t) = readClock? t := by
  rw [readTime?_eq, String.toList_ofList, trimChars_of_no_blank ht.not_blank]

/-- A day that is written out: what stands in front of a hyphen is no year but one of four digits, and the
digits of the day are not left for behind a space. -/
structure WrittenOut (separator : Char) (d : List Char) : Prop where
  /-- The year has four digits. -/
  year : ∀ ys rest y, d = ys ++ '-' :: rest → WritesYear ys y → AllDigits ys ∧ ys.length = 4
  /-- The day is there. -/
  day : separator = ' ' → ¬ ['-'] <:+ d

/-- The first digits of a day are its year. -/
theorem writtenOut_of_digits (hyear : (d.takeWhile isDigit).length = 4)
    (hday : separator = ' ' → ¬ ['-'] <:+ d) : WrittenOut separator d := by
  refine ⟨?_, hday⟩
  rintro ys rest y rfl hys
  cases hys with
  | plain hall =>
    rw [List.takeWhile_append_of_pos hall, List.takeWhile_cons_of_neg (by decide), List.append_nil] at hyear
    exact ⟨hall, hyear⟩
  | negative | positive =>
    rw [List.cons_append, List.takeWhile_cons_of_neg (by decide)] at hyear
    cases hyear

/-- A day and a clock are read together as they are read alone. -/
theorem readDateTime_of_parts (hd : DayChars d) (ht : ClockChars t)
    (hsep : separator = ' ' ∨ separator = 'T') (hday : readDate (.ofList d) = .ok x.date)
    (hclock : readTime? (.ofList t) = some x.time) :
    readDateTime (.ofList (d ++ separator :: t)) = .ok x := by
  have hspells : SpellsDay WritesYear d x.date :=
    ((readDate_ofList hd).mp hday).mono fun _ _ _ hys => hys.writes
  exact (readDateTime_parts_iff hd ht hsep).mpr
    (.inl (readLocal?_of_parts ht hsep hspells (readTime?_ofList ht ▸ hclock)))

/-- When the day is written out, nothing else is read. -/
theorem readDateTime_writtenOut_iff (hd : DayChars d) (ht : ClockChars t)
    (hsep : separator = ' ' ∨ separator = 'T') (hout : WrittenOut separator d) :
    readDateTime (.ofList (d ++ separator :: t)) = .ok x ↔
      (readDate (.ofList d) = .ok x.date ∧ readTime? (.ofList t) = some x.time) ∨
        (separator = ' ' ∧ t = [] ∧ readDate (.ofList d) = .ok x.date) ∧ x.time = .midnight := by
  constructor
  · intro h
    refine ((readDateTime_parts_iff hd ht hsep).mp h).imp_left fun hlocal => ?_
    obtain ⟨hspells, hclock⟩ := parts_of_readLocal? hd ht hsep hout.day hlocal
    exact ⟨(readDate_ofList hd).mpr (hspells.mono fun ys rest hdy hys =>
      fullYear_of_writesYear hys (hout.year ys rest _ hdy hys)), (readTime?_ofList ht).trans hclock⟩
  · rintro (⟨hday, hclock⟩ | halone)
    · exact readDateTime_of_parts hd ht hsep hday hclock
    · exact (readDateTime_parts_iff hd ht hsep).mpr (.inr halone)

/-- **A time on a day is a day and a time**, and nothing else is one when the day is written out. Behind a
space the time may be left out, which means midnight. -/
theorem convert_dateTime_parts_iff (hd : DayChars d) (ht : ClockChars t)
    (hsep : separator = ' ' ∨ separator = 'T') :
    (∀ date time, convert .date (.ofList d) = .ok (.date date) →
        convert .time (.ofList t) = .ok (.time time) →
        convert .dateTime (.ofList (d ++ separator :: t)) = .ok (.dateTime ⟨date, time⟩)) ∧
      (WrittenOut separator d → ∀ v, convert .dateTime (.ofList (d ++ separator :: t)) = .ok v ↔
        (∃ date time, convert .date (.ofList d) = .ok (.date date) ∧
            convert .time (.ofList t) = .ok (.time time) ∧ v = .dateTime ⟨date, time⟩) ∨
          separator = ' ' ∧ t = [] ∧
            ∃ date, convert .date (.ofList d) = .ok (.date date) ∧ v = .dateTime ⟨date, .midnight⟩) := by
  simp only [convert_date_eq_ok_iff, convert_time_eq_ok_iff, convert_dateTime_eq_ok_iff, Value.date.injEq,
    Value.time.injEq, Value.dateTime.injEq, exists_eq_right']
  refine ⟨fun date time hday hclock => readDateTime_of_parts hd ht hsep hday hclock, fun hout v => ?_⟩
  simp only [readDateTime_writtenOut_iff hd ht hsep hout]
  constructor
  · rintro ⟨⟨date, time⟩, ⟨hday, hclock⟩ | ⟨⟨hspace, hnone, hday⟩, rfl⟩, rfl⟩
    · exact .inl ⟨date, time, hday, hclock, rfl⟩
    · exact .inr ⟨hspace, hnone, date, hday, rfl⟩
  · rintro (⟨date, time, hday, hclock, rfl⟩ | ⟨hspace, hnone, date, hday, rfl⟩)
    · exact ⟨⟨date, time⟩, .inl ⟨hday, hclock⟩, rfl⟩
    · exact ⟨⟨date, .midnight⟩, .inr ⟨⟨hspace, hnone, hday⟩, rfl⟩, rfl⟩

end Parts

/-- The evening of a day of one digit, and the day without an evening. -/
theorem convert_dateTime_parts_evening :
    DayChars "2021-3-4".toList ∧ ClockChars "22:15:30.5".toList ∧ ClockChars [] ∧
      WrittenOut 'T' "2021-3-4".toList ∧
      convert .dateTime "2021-3-4T22:15:30.5" =
        .ok (.dateTime ⟨⟨2021, 3, 4, rfl⟩, ⟨22, 15, 30, 500000000, rfl⟩⟩) ∧
      ∀ v, convert .dateTime "2021-3-4T" ≠ .ok v := by
  have hday : DayChars "2021-3-4".toList := by decide
  have hclock : ClockChars "22:15:30.5".toList := by decide
  have hout : WrittenOut 'T' "2021-3-4".toList := writtenOut_of_digits (by decide) nofun
  have hdate : convert .date (.ofList "2021-3-4".toList) = .ok (.date ⟨2021, 3, 4, rfl⟩) :=
    convert_date_eq_ok_iff.mpr ⟨_, by decide +kernel, rfl⟩
  have htime : convert .time (.ofList "22:15:30.5".toList) = .ok (.time ⟨22, 15, 30, 500000000, rfl⟩) :=
    convert_time_eq_ok_iff.mpr ⟨_, by decide +kernel, rfl⟩
  refine ⟨hday, hclock, nofun, hout, (convert_dateTime_parts_iff hday hclock (.inr rfl)).1 _ _ hdate htime,
    fun v h => ?_⟩
  rcases ((convert_dateTime_parts_iff hday (t := []) nofun (.inr rfl)).2 hout v).mp h with
    ⟨_, _, -, hnone, -⟩ | ⟨hspace, -⟩
  · obtain ⟨_, htime, -⟩ := convert_time_eq_ok_iff.mp hnone
    have hempty : readTime? (.ofList []) = none := by decide +kernel
    rw [hempty] at htime
    cases htime
  · exact absurd hspace (by decide)

/-- **A day alone is its midnight**, also with a space behind it, though no text at all is no time. A year
without its centuries is no day, but it is read with a time. -/
theorem day_alone_at_midnight :
    convert .dateTime "2021-03-04 " = .ok (.dateTime ⟨⟨2021, 3, 4, rfl⟩, .midnight⟩) ∧
      (∀ v, convert .time "" ≠ .ok v) ∧
      convert .dateTime "21-03-04 10:30" =
        .ok (.dateTime ⟨⟨21, 3, 4, rfl⟩, ⟨10, 30, 0, 0, rfl⟩⟩) ∧
      ∀ v, convert .date "21-03-04" ≠ .ok v := by
  have hempty : readTime? "" = none := by decide +kernel
  have hshort : readDate "21-03-04" = .error (.dateForm "21-03-04") := by decide +kernel
  refine ⟨convert_dateTime_eq_ok_iff.mpr ⟨_, by decide +kernel, rfl⟩, fun v h => ?_,
    convert_dateTime_eq_ok_iff.mpr ⟨_, by decide +kernel, rfl⟩, fun v h => ?_⟩
  · obtain ⟨_, htime, -⟩ := convert_time_eq_ok_iff.mp h
    rw [hempty] at htime
    cases htime
  · obtain ⟨_, hdate, -⟩ := convert_date_eq_ok_iff.mp h
    rw [hshort] at hdate
    cases hdate

end Filterbook.Value
