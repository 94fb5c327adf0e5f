import Filterbook.Proofs.Calendar.FullForm
import Filterbook.Proofs.Value.DateTimes

/-!
# Times with a zone

A zone behind a time on a day moves it to UTC. The exact form of an instant and the freer one both want
seconds in front of the zone, so a time of hours and minutes, which is read alone, is refused with a zone.

## What is proved

* `exists_zoned`: a time with seconds and a zone is read as that many minutes earlier.
* `readDateTime_without_seconds`: a time without seconds is not read with any zone.
* `convert_zoned`: the two together, and that texts of one instant have one value.
-/

namespace Filterbook.Value

open Calendar Number Text

/-! ### Clocks in full -/

section Clock

variable {h m : Digits 2} {time : TimeOfDay}

/-- A clock with seconds in full is read as the numbers that it writes. -/
theorem ofClock?_of_readClock? {s : Seconds}
    (hclock : readClock? (h.chars ++ ':' :: (m.chars ++ ':' :: s.chars)) = some time) :
    TimeOfDay.ofClock? h.value m.value s.whole.value s.nano = some time := by
  obtain ⟨items, hitems, htime⟩ := List.exists_of_findSome?_eq_some hclock
  obtain ⟨r, hfit, htime⟩ := Option.bind_eq_some_iff.mp htime
  have hread : readItems? items {} (h.chars ++ ':' :: (m.chars ++ ':' :: s.chars)) = some (r, []) :=
    fitFrom?_eq_some_iff.mp hfit
  rcases List.mem_pair.mp hitems with rfl | rfl
  · obtain ⟨-, -, hseconds⟩ := readItems?_hourMinute_iff.mp hread
    obtain ⟨-, heq⟩ := (readItems?_seconds_iff s rfl).mp hseconds
    obtain ⟨rfl, -⟩ := Prod.mk.inj heq
    exact htime
  · rw [← List.append_nil minuteItems] at hread
    obtain ⟨-, -, hleft⟩ := readItems?_hourMinute_iff.mp hread
    cases hleft

/-- A clock has nothing but a colon behind its minutes. -/
theorem readClock?_without_seconds {c : Char} (hc : c ≠ ':') (rest : List Char) :
    readClock? (h.chars ++ ':' :: (m.chars ++ c :: rest)) = none := by
  by_contra hsome
  obtain ⟨time, htime⟩ := Option.ne_none_iff_exists'.mp hsome
  obtain ⟨items, hitems, htime⟩ := List.exists_of_findSome?_eq_some htime
  obtain ⟨r, hfit, -⟩ := Option.bind_eq_some_iff.mp htime
  have hread : readItems? items {} (h.chars ++ ':' :: (m.chars ++ c :: rest)) = some (r, []) :=
    fitFrom?_eq_some_iff.mp hfit
  rcases List.mem_pair.mp hitems with rfl | rfl
  · obtain ⟨-, -, hseconds⟩ := readItems?_hourMinute_iff.mp hread
    obtain ⟨_, hcolon, -⟩ := readItems?_mark_iff.mp hseconds
    exact hc (List.cons.inj hcolon).1
  · rw [← List.append_nil minuteItems] at hread
    obtain ⟨-, -, hleft⟩ := readItems?_hourMinute_iff.mp hread
    cases hleft

end Clock

/-! ### Without a zone -/

section Forms

variable {f g : FullForm} {x : DateTime} {z : Offset}

theorem dayChars_of_full (f : FullForm) : DayChars f.dayChars :=
  digits_and_hyphens f.year.all f.month.all f.day.all

theorem clockChars_of_full (f : FullForm) : ClockChars f.clockChars := by
  have hseconds : ClockChars f.secondsChars := by
    unfold FullForm.secondsChars
    cases f.seconds with
    | none => exact nofun
    | some s =>
      have hfraction : ClockChars s.fractionChars := by
        unfold Seconds.fractionChars
        cases s.fraction with
        | none => exact nofun
        | some digits =>
          intro c hc
          rcases List.mem_cons.mp hc with rfl | hc
          · exact .inr (.inr rfl)
          · exact .inl (digits.all c hc)
      intro c hc
      simp only [Seconds.chars, List.mem_cons, List.mem_append] at hc
      rcases hc with rfl | hc | hc
      · exact .inr (.inl rfl)
      · exact .inl (s.whole.all c hc)
      · exact hfraction c hc
  intro c hc
  simp only [FullForm.clockChars, List.mem_append, List.mem_cons] at hc
  rcases hc with hc | rfl | hc | hc
  · exact .inl (f.hour.all c hc)
  · exact .inr (.inl rfl)
  · exact .inl (f.minute.all c hc)
  · exact hseconds c hc

theorem writtenOut_of_full (f : FullForm) : WrittenOut f.separator f.dayChars := by
  refine writtenOut_of_digits ?_ fun _ hsuffix => ?_
  · rw [FullForm.dayChars, List.takeWhile_append_of_pos f.year.all,
      List.takeWhile_cons_of_neg (by decide), List.append_nil, f.year.length_eq]
  · obtain ⟨c, cs, hday, -⟩ := f.day.exists_cons
    have hsplit : f.dayChars = (f.year.chars ++ '-' :: (f.month.chars ++ ['-'])) ++ f.day.chars := by
      simp [FullForm.dayChars]
    have hlast : f.dayChars.getLast? = f.day.chars.getLast? := by
      rw [hsplit, List.getLast?_append_of_ne_nil _ (hday ▸ List.cons_ne_nil c cs)]
    obtain ⟨front, hfront⟩ := hsuffix
    have hhyphen : '-' ∈ f.day.chars := by
      refine List.mem_of_mem_getLast? ?_
      rw [← hlast, ← hfront]
      simp
    exact absurd (f.day.all '-' hhyphen) (by decide)

/-- A time in full is read as the day and the clock that it writes. -/
theorem parts_of_full (h : readDateTime (.ofList f.chars) = .ok x) :
    Date.make? f.year.value f.month.value f.day.value = some x.date ∧
      readClock? f.clockChars = some x.time := by
  have hd := dayChars_of_full f
  have ht := clockChars_of_full f
  have hparts : dateParts? f.dayChars = some (f.year.value, f.month.value, f.day.value) :=
    dateParts?_eq_some_iff.mpr
      ⟨_, _, _, rfl, ⟨f.year.all, f.year.length_eq, rfl⟩, f.month.writes, f.day.writes⟩
  rcases (readDateTime_writtenOut_iff hd ht f.separator_eq (writtenOut_of_full f)).mp h with
    ⟨hday, hclock⟩ | ⟨⟨-, hnone, -⟩, -⟩
  · obtain ⟨_, _, _, hread, hmake⟩ := readDate_eq_ok_iff.mp hday
    rw [String.toList_ofList, trimChars_of_no_blank hd.not_blank, hparts] at hread
    cases hread
    exact ⟨hmake, readTime?_ofList ht ▸ hclock⟩
  · exact absurd hnone (by simp [FullForm.clockChars])

/-! ### With a zone -/

/-- No blanks stand around a time and its zone. -/
theorem trimChars_zoned (f : FullForm) (z : Offset) :
    trimChars (f.chars ++ z.chars) = f.chars ++ z.chars := by
  obtain ⟨first, front, hfirst, hdigit⟩ := f.year.exists_cons
  obtain ⟨c, cs, hminutes, -⟩ := z.minutes.exists_cons
  refine trimChars_of_ends ?_ ?_
  · intro b hb
    rw [FullForm.chars_append, hfirst] at hb
    obtain rfl := Option.some.inj hb
    exact isBlank_of_isDigit hdigit
  · intro b hb
    have hsplit : f.chars ++ z.chars =
        (f.chars ++ z.sign :: (z.hours.chars ++ [':'])) ++ z.minutes.chars := by
      simp [Offset.chars]
    rw [hsplit, List.getLast?_append_of_ne_nil _ (hminutes ▸ List.cons_ne_nil c cs)] at hb
    exact isBlank_of_isDigit (z.minutes.all b (List.mem_of_mem_getLast? hb))

/-- **A time with seconds is moved to UTC** by a zone behind it. -/
theorem exists_zoned {s : Seconds} (hs : f.seconds = some s) (h : readDateTime (.ofList f.chars) = .ok x)
    (z : Offset) :
    ∃ y, readDateTime (.ofList (f.chars ++ z.chars)) = .ok y ∧ DateTime.Earlier z.total y x := by
  obtain ⟨hdate, hclock⟩ := parts_of_full h
  have htime : TimeOfDay.ofClock? f.hour.value f.minute.value s.whole.value s.nano = some x.time := by
    rw [FullForm.clockChars, FullForm.secondsChars, hs] at hclock
    exact ofClock?_of_readClock? hclock
  obtain ⟨hyear, -, -⟩ := Date.make?_eq_some_iff.mp hdate
  have hlt := f.year.value_lt
  obtain ⟨y, hsub, hearlier⟩ := DateTime.exists_earlier (t := x) z.natAbs_total_lt (by omega)
  refine ⟨y, ?_, hearlier⟩
  have hutc : (readStrict? (f.chars ++ z.chars)).bind Reading.utc? = some y := by
    rw [FullForm.readStrict?_zoned hs, Option.bind_some]
    simp only [Reading.utc?, Reading.local?, Reading.date?, Reading.time?, hdate, htime,
      Option.bind_eq_bind, Option.bind_some, if_pos z.natAbs_total_lt, hsub]
  simp only [readDateTime, String.toList_ofList, trimChars_zoned, hutc]
  rfl

theorem afterDay_full (f : FullForm) (rest : List Char) :
    afterDay (f.separator :: (f.hour.chars ++ rest)) = f.hour.chars ++ rest := by
  rcases f.separator_eq with h | h <;> rw [h]
  · exact f.hour.dropBlanks_append rest
  · rfl

/-- No local time has a zone behind its minutes. -/
theorem readLocal?_without_seconds (hf : f.seconds = none) (z : Offset) :
    readLocal? (f.chars ++ z.chars) = none := by
  rw [readLocal?_eq]
  by_contra hsome
  obtain ⟨y, hy⟩ := Option.ne_none_iff_exists'.mp hsome
  obtain ⟨p, hday, hclock⟩ := Option.bind_eq_some_iff.mp hy
  rw [FullForm.chars_append] at hday
  obtain ⟨-, -, rfl⟩ := readItems?_day_iff.mp hday
  obtain ⟨date, -, hclock⟩ := Option.bind_eq_some_iff.mp hclock
  rw [afterDay_full, FullForm.secondsChars, hf, List.nil_append, Offset.chars,
    readClock?_without_seconds z.sign_ne_colon] at hclock
  cases hclock

/-- The pattern of a time with a zone wants seconds in front of it. -/
theorem fit?_zonedItems_without_seconds (hf : f.seconds = none) (z : Offset) :
    fit? zonedItems (f.chars ++ z.chars) = none := by
  have hitems : zonedItems =
      dateItems ++ Item.blanks ::
        (minuteItems ++ [Item.mark ':', Item.second, Item.fraction, Item.zone]) := rfl
  rw [hitems, fit?_append]
  by_contra hsome
  obtain ⟨r, hr⟩ := Option.ne_none_iff_exists'.mp hsome
  obtain ⟨p, hday, hclock⟩ := Option.bind_eq_some_iff.mp hr
  rw [FullForm.chars_append] at hday
  obtain ⟨-, -, rfl⟩ := readItems?_day_iff.mp hday
  obtain ⟨_, _, hblanks, hread⟩ := readItems?_cons_eq_some_iff.mp (fitFrom?_eq_some_iff.mp hclock)
  obtain ⟨rfl, rfl⟩ := Prod.mk.inj (Option.some.inj hblanks)
  rcases f.separator_eq with hspace | hT
  · have hdrop : ∀ rest, dropBlanks (' ' :: (f.hour.chars ++ rest)) = f.hour.chars ++ rest :=
      f.hour.dropBlanks_append
    rw [hspace, hdrop, FullForm.secondsChars, hf] at hread
    obtain ⟨-, -, hseconds⟩ := readItems?_hourMinute_iff.mp hread
    obtain ⟨_, hmark, -⟩ := readItems?_mark_iff.mp hseconds
    exact z.sign_ne_colon (List.cons.inj hmark).1
  · rw [hT] at hread
    exact Option.some_ne_none _ (hread.symm.trans (readItems?_hour_T _ _ _))

/-- **A time without seconds is not read** with a zone behind it. -/
theorem readDateTime_without_seconds (hf : f.seconds = none) (z : Offset) :
    readDateTime (.ofList (f.chars ++ z.chars)) =
      .error (.dateTimeForm (.ofList (f.chars ++ z.chars))) := by
  have hstrict : readStrict? (f.chars ++ z.chars) = none :=
    FullForm.readStrict?_without_seconds hf z.sign_ne_colon _
  have hlocal : (localPatterns.findSome? fun items =>
      (fit? items (f.chars ++ z.chars)).bind Reading.local?) = none := readLocal?_without_seconds hf z
  have hparts : dateParts? (f.chars ++ z.chars) = none := by
    by_contra hsome
    obtain ⟨⟨_, _, _⟩, hread⟩ := Option.ne_none_iff_exists'.mp hsome
    obtain ⟨ys, ms, ds, hchars, hys, hms, hds⟩ := dateParts?_eq_some_iff.mp hread
    have hmem : ':' ∈ f.chars ++ z.chars := by simp [FullForm.chars_append]
    rw [hchars] at hmem
    exact absurd (digits_and_hyphens hys.all hms.all hds.all ':' hmem) (by decide)
  simp only [readDateTime, String.toList_ofList, trimChars_zoned, hstrict,
    fit?_zonedItems_without_seconds hf z, hlocal, hparts]
  rfl

theorem exists_convert_zoned (hsome : f.seconds.isSome = true)
    (h : convert .dateTime (.ofList f.chars) = .ok (.dateTime x)) (z : Offset) :
    ∃ y, convert .dateTime (.ofList (f.chars ++ z.chars)) = .ok (.dateTime y) ∧
      DateTime.Earlier z.total y x := by
  obtain ⟨s, hs⟩ := Option.isSome_iff_exists.mp hsome
  obtain ⟨_, hread, heq⟩ := convert_dateTime_eq_ok_iff.mp h
  cases heq
  obtain ⟨y, hy, hearlier⟩ := exists_zoned hs hread z
  exact ⟨y, convert_dateTime_eq_ok_iff.mpr ⟨y, hy, rfl⟩, hearlier⟩

end Forms

/-- **A zone moves a time to UTC when the seconds are written**, and two such texts of one instant have one
value; a time without seconds is refused with any zone. -/
theorem convert_zoned {f : FullForm} {x : DateTime}
    (h : convert .dateTime (.ofList f.chars) = .ok (.dateTime x)) (z : Offset) :
    (f.seconds.isSome = true →
        (∃ y, convert .dateTime (.ofList (f.chars ++ z.chars)) = .ok (.dateTime y) ∧
          DateTime.Earlier z.total y x) ∧
        ∀ (g : FullForm) (x' : DateTime) (z' : Offset), g.seconds.isSome = true →
          convert .dateTime (.ofList g.chars) = .ok (.dateTime x') →
          x.minuteNumber - z.total = x'.minuteNumber - z'.total → x.time.second = x'.time.second →
          x.time.nano = x'.time.nano →
          convert .dateTime (.ofList (f.chars ++ z.chars)) =
            convert .dateTime (.ofList (g.chars ++ z'.chars))) ∧
      (f.seconds = none →
        convert .dateTime (.ofList (f.chars ++ z.chars)) =
          .error ⟨.dateTime, .dateTimeForm (.ofList (f.chars ++ z.chars))⟩) := by
  refine ⟨fun hsome => ⟨exists_convert_zoned hsome h z, fun g x' z' hsome' hx' hminute hsecond hnano => ?_⟩,
    fun hnone => ?_⟩
  · obtain ⟨y, hy, hearlier⟩ := exists_convert_zoned hsome h z
    obtain ⟨y', hy', hearlier'⟩ := exists_convert_zoned hsome' hx' z'
    rw [hy, hy', hearlier.unique hearlier' hminute hsecond hnano]
  · have hread : Value.read .dateTime (.ofList (f.chars ++ z.chars)) =
        (readDateTime (.ofList (f.chars ++ z.chars))).map .dateTime := rfl
    rw [convert, hread, readDateTime_without_seconds hnone]
    rfl

/-- Thirty and a half seconds into the last minute of a year. -/
def newYearsEve : FullForm where
  year := ⟨['2', '0', '2', '1'], by decide, rfl⟩
  month := ⟨['1', '2'], by decide, rfl⟩
  day := ⟨['3', '1'], by decide, rfl⟩
  separator := 'T'
  separator_eq := .inr rfl
  hour := ⟨['2', '3'], by decide, rfl⟩
  minute := ⟨['5', '9'], by decide, rfl⟩
  seconds := some ⟨⟨['3', '0'], by decide, rfl⟩,
    some ⟨['5'], by decide, by decide⟩⟩

/-- An hour and a half behind UTC. -/
def hourAndHalfBehind : Offset where
  ahead := false
  hours := ⟨['0', '1'], by decide, rfl⟩
  hours_le := by decide
  minutes := ⟨['3', '0'], by decide, rfl⟩
  minutes_le := by decide

theorem convert_zoned_newYearsEve :
    convert .dateTime (.ofList newYearsEve.chars) =
        .ok (.dateTime ⟨⟨2021, 12, 31, rfl⟩, ⟨23, 59, 30, 500000000, rfl⟩⟩) ∧
      convert .dateTime (.ofList (newYearsEve.chars ++ hourAndHalfBehind.chars)) =
        .ok (.dateTime ⟨⟨2022, 1, 1, rfl⟩, ⟨1, 29, 30, 500000000, rfl⟩⟩) := by
  have hlocal : convert .dateTime (.ofList newYearsEve.chars) =
      .ok (.dateTime ⟨⟨2021, 12, 31, rfl⟩, ⟨23, 59, 30, 500000000, rfl⟩⟩) :=
    convert_dateTime_eq_ok_iff.mpr ⟨_, by decide +kernel, rfl⟩
  obtain ⟨⟨y, hy, hearlier⟩, -⟩ := (convert_zoned hlocal hourAndHalfBehind).1 rfl
  obtain rfl : y = ⟨⟨2022, 1, 1, rfl⟩, ⟨1, 29, 30, 500000000, rfl⟩⟩ :=
    DateTime.eq_of_minuteNumber (hearlier.minuteNumber.trans (by decide +kernel)) hearlier.second
      hearlier.nano
  exact ⟨hlocal, hy⟩

/-- **Hours and minutes are refused with a zone**, which they may have once the seconds are written. -/
theorem minutes_refused_with_zone :
    convert .dateTime "2021-03-04 10:30" =
        .ok (.dateTime ⟨⟨2021, 3, 4, rfl⟩, ⟨10, 30, 0, 0, rfl⟩⟩) ∧
      convert .dateTime "2021-03-04 10:30:00+02:00" =
        .ok (.dateTime ⟨⟨2021, 3, 4, rfl⟩, ⟨8, 30, 0, 0, rfl⟩⟩) ∧
      ∀ v, convert .dateTime "2021-03-04 10:30+02:00" ≠ .ok v := by
  have hrefused : readDateTime "2021-03-04 10:30+02:00" =
      .error (.dateTimeForm "2021-03-04 10:30+02:00") := by decide +kernel
  refine ⟨convert_dateTime_eq_ok_iff.mpr ⟨_, by decide +kernel, rfl⟩,
    convert_dateTime_eq_ok_iff.mpr ⟨_, by decide +kernel, rfl⟩, fun v h => ?_⟩
  obtain ⟨_, hread, -⟩ := convert_dateTime_eq_ok_iff.mp h
  rw [hrefused] at hread
  cases hread

end Filterbook.Value
