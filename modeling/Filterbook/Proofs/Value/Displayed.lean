import Filterbook.Proofs.Calendar.Written
import Filterbook.Proofs.Text.Identifiers
import Filterbook.Proofs.Value.DateTimes
import Filterbook.Proofs.Value.Integers

/-!
# Values read from their own text

A value is shown to a person as one text, however it was typed: a time without its zone, digits without the
zeros and underscores in front, an identifier with hyphens. That text is read as the value again. It takes
another way through the readers than the typed text did: a year with a sign is found only by the patterns of
a local time, and a fraction or a leap second only by those with seconds. Only the minus of a decimal zero,
which comes out of an exponent, is shown and not read again; the zero is equal to the one without it.

## What is proved

* `convert_display_of_intRange`: integers.
* `readDate_text`, `readTime?_text`, `readDateTime_text`: days, times, and times on days.
* `displayed_values_convert_back`: all of them.
* `convert_display_of_isMinusZero`: what becomes of a zero with a minus.
-/

namespace Filterbook.Value

open Calendar Number Text

variable {kind : Kind} {s : String} {v : Value}

/-! ### Integers and truth values -/

/-- **An integer is read from its text** by the kind that it is a value of. -/
theorem convert_display_of_intRange {range : Int × Int} (hrange : intRange? kind = some range)
    (h : convert kind s = .ok v) : convert kind v.display = .ok v := by
  rw [convert_eq_ok_iff, read_of_intRange hrange, ofIntText_eq_ok_iff] at h ⊢
  obtain ⟨n, hn, hbounds, rfl⟩ := h
  have hword : inInt64 n = true := (readInt64?_eq_some_iff.mp hn).2
  exact ⟨n, readInt64?_eq_some_iff.mpr ⟨spellsInt_intText n, hword⟩, hbounds, rfl⟩

theorem convert_boolean_eq_ok_iff : convert .boolean s = .ok v ↔ ∃ b, readBool? s = some b ∧ v = .bool b :=
  convert_eq_ok_iff_of_orCause (.notBoolean s) (by rfl)

theorem readBool?_display (b : Bool) : readBool? (Value.bool b).display = some b := by
  cases b <;> rfl

/-! ### Days and times -/

/-- A day that is read has a year of four digits. -/
theorem year_of_readDate {d : Date} (h : readDate s = .ok d) : 0 ≤ d.year ∧ d.year ≤ 9999 := by
  obtain ⟨ys, _, _, -, hyear, -⟩ := readDate_iff_spells.mp h
  have hlt := digitsValue_lt hyear.all
  rw [hyear.length_eq] at hlt
  have hvalue := hyear.value
  omega

/-- **A day of such a year is read from its text.** -/
theorem readDate_text {d : Date} (h : 0 ≤ d.year ∧ d.year ≤ 9999) : readDate d.text = .ok d := by
  have hyear : Date.yearChars d.year = padDigits 4 d.year.natAbs := by simp [Date.yearChars, h]
  have hchars : d.chars = padDigits 4 d.year.natAbs ++
      '-' :: (padDigits 2 d.month ++ '-' :: padDigits 2 d.day) := by
    simpa [hyear] using d.chars_append []
  have hfull : FullYear (padDigits 4 d.year.natAbs) d.year := by
    refine ⟨fun _ => isDigit_of_mem_padDigits, length_padDigits (by decide) (by omega), ?_⟩
    rw [digitsValue_padDigits]
    omega
  have htrim : trimChars d.chars = d.chars := trimChars_of_no_blank fun c hc => by
    rcases d.cases_of_mem_chars hc with hdigit | rfl | rfl
    · exact isBlank_of_isDigit hdigit
    · decide
    · decide
  rw [readDate_iff_spells, Date.text, String.toList_ofList, htrim, hchars]
  exact ⟨_, _, _, rfl, hfull, writesNumber_padDigits d.month_lt, writesNumber_padDigits d.day_lt⟩

theorem clockChars_chars (t : TimeOfDay) : ClockChars t.chars := fun _ => t.cases_of_mem_chars

theorem readClock?_chars (t : TimeOfDay) : readClock? t.chars = some t := by
  have htime : (fit? secondItems t.chars).bind Reading.time? = some t := by
    rw [t.fit?_chars]
    exact t.time?_clock {}
  rw [readClock?, List.findSome?_cons, htime]

/-- **A time of day is read from its text**, with leap seconds and fractions. -/
theorem readTime?_text (t : TimeOfDay) : readTime? t.text = some t := by
  rw [TimeOfDay.text, readTime?_ofList (clockChars_chars t), readClock?_chars]

/-- A clock behind a space is read as it is. -/
theorem afterDay_space (t : TimeOfDay) : afterDay (' ' :: t.chars) = t.chars := by
  have hfirst : ∀ c ∈ t.chars.head?, isBlank c = false := fun c hc =>
    (clockChars_chars t).not_blank c (List.mem_of_mem_head? hc)
  have hspace : ∀ c ∈ [' '], isBlank c = true := List.forall_mem_singleton.mpr (by decide)
  have hdrop : dropBlanks ([' '] ++ t.chars) = dropBlanks t.chars := dropBlanks_append hspace t.chars
  rw [dropBlanks_of_head hfirst] at hdrop
  exact hdrop

/-- **A time on a day is read from its text**, also when its year has a sign. -/
theorem readDateTime_text (t : DateTime) : readDateTime t.text = .ok t := by
  have hdate : ∀ c ∈ t.date.chars, isBlank c = false ∧ c ≠ ':' := by
    intro c hc
    rcases t.date.cases_of_mem_chars hc with hdigit | rfl | rfl
    · exact ⟨isBlank_of_isDigit hdigit, by rintro rfl; exact absurd hdigit (by decide)⟩
    · decide
    · decide
  have hclock := clockChars_chars t.time
  have htrim : trimChars (t.charsWith ' ') = t.charsWith ' ' := by
    refine trimChars_of_ends (fun c hc => ?_) fun c hc => ?_
    · rw [DateTime.charsWith, List.head?_append_of_ne_nil _ t.date.chars_ne_nil] at hc
      exact (hdate c (List.mem_of_mem_head? hc)).1
    · rw [DateTime.charsWith, List.getLast?_append_of_ne_nil _ (List.cons_ne_nil _ _),
        List.getLast?_cons_of_ne_nil t.time.chars_ne_nil] at hc
      exact hclock.not_blank c (List.mem_of_mem_getLast? hc)
  have hzone : ¬ ZoneBehindColon (t.charsWith ' ') := by
    have hfront : ':' ∉ t.date.chars ++ [' '] := by
      rw [List.mem_append, not_or]
      exact ⟨fun hmem => (hdate _ hmem).2 rfl, by decide⟩
    rw [DateTime.charsWith, ← List.singleton_append, ← List.append_assoc]
    exact not_zoneBehindColon_append hfront hclock
  have hlocal : readLocal? (t.charsWith ' ') = some t :=
    readLocal?_eq_some_iff.mpr ⟨' ' :: t.time.chars, t.date.dayInFront_chars _,
      (congrArg readClock? (afterDay_space t.time)).trans (readClock?_chars t.time)⟩
  have hchars : trimChars t.text.toList = t.charsWith ' ' := by
    rw [DateTime.text, String.toList_ofList, htrim]
  rw [readDateTime_unzoned_iff (hchars ▸ hzone), hchars]
  exact .inl hlocal

/-! ### Decimal numbers and identifiers -/

/-- **A decimal number is read from its text**, without the minus of a zero. -/
theorem convert_decimal_text (d : Decimal) : convert .decimal d.text = .ok (.decimal d.unsigned) := by
  have htrim : trimChars d.chars = d.chars := trimChars_of_no_blank fun _ => Decimal.isBlank_of_mem_chars
  refine convert_decimal_eq_ok_iff.mpr ⟨d.unsigned, ?_, rfl⟩
  rw [Decimal.text, String.toList_ofList, htrim, d.read?_chars]

/-- What is read as a zero with a minus has an exponent. -/
theorem readPlain?_of_minusZero {cs : List Char} {d : Decimal} (h : Decimal.read? cs = some d)
    (hzero : d.IsMinusZero) : Decimal.readPlain? cs = none := by
  cases hplain : Decimal.readPlain? cs with
  | none => rfl
  | some e =>
    rw [Decimal.read?, hplain] at h
    obtain rfl := Option.some.inj h
    exact absurd hzero (Decimal.not_isMinusZero_of_readPlain? hplain)

theorem convert_uuid_text (u : Uuid) : convert .uuid u.text = .ok (.uuid u) := by
  have htrim : trim u.text = u.text := by
    rw [trim, trimChars_of_no_blank (Uuid.no_blank_of_read? u.read?_text), String.ofList_toList]
  exact convert_uuid_eq_ok_iff.mpr ⟨u, htrim.symm ▸ u.read?_text, rfl⟩

/-! ### All kinds -/

/-- The kinds whose values are shown in a text that says what they are. -/
def shownKinds : List Kind :=
  [.int, .smallInt, .bigInt, .positiveInt, .positiveSmallInt, .decimal, .boolean, .date, .dateTime, .time,
    .uuid]

theorem cases_of_mem_shownKinds (h : kind ∈ shownKinds) :
    (∃ range, intRange? kind = some range) ∨ kind = .decimal ∨ kind = .boolean ∨ kind = .date ∨
      kind = .dateTime ∨ kind = .time ∨ kind = .uuid := by
  simp only [shownKinds, List.mem_cons, List.not_mem_nil, or_false] at h
  rcases h with rfl | rfl | rfl | rfl | rfl | rfl | rfl | rfl | rfl | rfl | rfl <;> simp [intRange?]

/-- A value without the minus of a zero. -/
def unsigned : Value → Value
  | .decimal d => .decimal d.unsigned
  | v => v

/-- A value is read from its text, without the minus of a zero, which makes no other value of it. -/
theorem convert_display (hkind : kind ∈ shownKinds) (h : convert kind s = .ok v) :
    convert kind v.display = .ok v.unsigned ∧ v.unsigned.eqv v = true := by
  rcases cases_of_mem_shownKinds hkind with ⟨range, hrange⟩ | rfl | rfl | rfl | rfl | rfl | rfl
  · obtain ⟨n, -, rfl⟩ := int_of_read hrange (convert_eq_ok_iff.mp h)
    exact ⟨convert_display_of_intRange hrange h, by simp [unsigned, eqv]⟩
  · obtain ⟨d, -, rfl⟩ := convert_decimal_eq_ok_iff.mp h
    exact ⟨convert_decimal_text d, by simp [unsigned, eqv, d.unsigned_order]⟩
  · obtain ⟨b, -, rfl⟩ := convert_boolean_eq_ok_iff.mp h
    exact ⟨convert_boolean_eq_ok_iff.mpr ⟨b, readBool?_display b, rfl⟩, by simp [unsigned, eqv]⟩
  · obtain ⟨d, hd, rfl⟩ := convert_date_eq_ok_iff.mp h
    exact ⟨convert_date_eq_ok_iff.mpr ⟨d, readDate_text (year_of_readDate hd), rfl⟩,
      by simp [unsigned, eqv]⟩
  · obtain ⟨t, -, rfl⟩ := convert_dateTime_eq_ok_iff.mp h
    exact ⟨convert_dateTime_eq_ok_iff.mpr ⟨t, readDateTime_text t, rfl⟩, by simp [unsigned, eqv]⟩
  · obtain ⟨t, -, rfl⟩ := convert_time_eq_ok_iff.mp h
    exact ⟨convert_time_eq_ok_iff.mpr ⟨t, readTime?_text t, rfl⟩, by simp [unsigned, eqv]⟩
  · obtain ⟨u, -, rfl⟩ := convert_uuid_eq_ok_iff.mp h
    exact ⟨convert_uuid_text u, by simp [unsigned, eqv]⟩

/-- A decimal number is what the text writes. -/
theorem read?_of_convert {d : Decimal} (hkind : kind ∈ shownKinds) (h : convert kind s = .ok (.decimal d)) :
    Decimal.read? (trimChars s.toList) = some d := by
  rcases cases_of_mem_shownKinds hkind with ⟨range, hrange⟩ | rfl | rfl | rfl | rfl | rfl | rfl
  · obtain ⟨n, -, hn⟩ := int_of_read hrange (convert_eq_ok_iff.mp h)
    cases hn
  · obtain ⟨e, hread, he⟩ := convert_decimal_eq_ok_iff.mp h
    exact Value.decimal.inj he ▸ hread
  all_goals
    simp [convert_boolean_eq_ok_iff, convert_date_eq_ok_iff, convert_dateTime_eq_ok_iff,
      convert_time_eq_ok_iff, convert_uuid_eq_ok_iff] at h

theorem unsigned_eq_self (h : ∀ d, v = .decimal d → ¬ d.IsMinusZero) : v.unsigned = v := by
  cases v with
  | decimal d => exact congrArg Value.decimal (Decimal.unsigned_eq_self_iff.mpr (h d rfl))
  | _ => rfl

/-- **A zero with a minus** only comes out of an exponent, and it comes back as the zero with as many places
that has no minus. -/
theorem convert_display_of_isMinusZero {d : Decimal} (hkind : kind ∈ shownKinds)
    (h : convert kind s = .ok (.decimal d)) (hzero : d.IsMinusZero) :
    Decimal.readPlain? (trimChars s.toList) = none ∧
      convert kind (Value.decimal d).display = .ok (.decimal { d with negative := false }) := by
  have hunsigned : d.unsigned = { d with negative := false } := by
    simp [Decimal.unsigned, hzero.2]
  exact ⟨readPlain?_of_minusZero (read?_of_convert hkind h) hzero, hunsigned ▸ (convert_display hkind h).1⟩

/-- **Displayed values convert back.** What a text is converted to is converted to an equal value when it is
shown, and to the very same unless it is a decimal zero with a minus. -/
theorem displayed_values_convert_back (hkind : kind ∈ shownKinds) (h : convert kind s = .ok v) :
    ∃ w, convert kind v.display = .ok w ∧ w.eqv v = true ∧
      ((∀ d, v = .decimal d → ¬ d.IsMinusZero) → w = v) := by
  obtain ⟨hback, hequal⟩ := convert_display hkind h
  exact ⟨v.unsigned, hback, hequal, unsigned_eq_self⟩

/-- The last leap second of a year in a zone, and so in the next year, which has five digits. -/
def lateSecond : DateTime := ⟨⟨10000, 1, 1, rfl⟩, ⟨0, 30, 59, 1250000000, rfl⟩⟩

/-- A zero with a minus and all places. -/
def minusZero : Decimal := ⟨true, 0, 28, by decide, by decide⟩

theorem displayed_values_convert_back_late :
    convert .dateTime "9999-12-31 23:30:60.25-01:00" = .ok (.dateTime lateSecond) ∧
      (Value.dateTime lateSecond).display = "+10000-01-01 00:30:60.250" ∧
      convert .dateTime "+10000-01-01 00:30:60.250" = .ok (.dateTime lateSecond) ∧
      convert .decimal "-0.4e-28" = .ok (.decimal minusZero) ∧
      (Value.decimal minusZero).display = "-0.0000000000000000000000000000" ∧
      ∃ w, convert .decimal "-0.0000000000000000000000000000" = .ok w ∧
        w.eqv (.decimal minusZero) = true := by
  have htime : convert .dateTime "9999-12-31 23:30:60.25-01:00" = .ok (.dateTime lateSecond) :=
    convert_dateTime_eq_ok_iff.mpr ⟨_, by decide +kernel, rfl⟩
  have hshown : (Value.dateTime lateSecond).display = "+10000-01-01 00:30:60.250" := by decide +kernel
  have hzero : convert .decimal "-0.4e-28" = .ok (.decimal minusZero) :=
    convert_decimal_eq_ok_iff.mpr ⟨_, by decide +kernel, rfl⟩
  have hminus : (Value.decimal minusZero).display = "-0.0000000000000000000000000000" := by decide +kernel
  obtain ⟨t, ht, -, hsame⟩ := displayed_values_convert_back (by decide) htime
  obtain ⟨w, hw, hequal, -⟩ := displayed_values_convert_back (by decide) hzero
  rw [hshown, hsame nofun] at ht
  rw [hminus] at hw
  exact ⟨htime, hshown, ht, hzero, hminus, w, hw, hequal⟩

end Filterbook.Value
