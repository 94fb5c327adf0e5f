import Filterbook.Proofs.Filter.Ordering
import Filterbook.Proofs.Text.Identifiers
import Filterbook.Proofs.Value.Conversion

/-!
# Values stored as text

A record may hold a number, a time or an identifier as a text. Such a text is read like one that a person
types, signs, zones and blanks at the ends included, so that typing what is stored finds it. There are two
exceptions. A stored identifier is read as it stands, a typed one without its blanks, and an identifier has
none of its own. And a stored decimal number is left to the reader of decimal numbers, where a typed one is
tried again as a number with an exponent. The reader that is used knows exponents, so that this makes no
difference to it; what is said here holds with every reader.

## What is proved

* `Value.order?_of_convert`: a stored text compares with a typed one as their values do.
* `Value.order?_eq_none_of_convert`: but for the exceptions, which compare with nothing.
* `Filter.stored_text_read_iff`: so comparisons answer as the order of the kind, unless the text is one of
  the exceptions.
* `Value.readWhenStored_iff`: with the reader that is used, only an identifier with blanks around it is one.
* `Filter.padded_identifier_missed`: such a one is not found by the text that is stored.
-/

namespace Filterbook

open Number Text

/-! ### Typed values -/

namespace Value

variable {kind : Kind} {s t : String} {a b : Value}

/-- The kinds of numbers, times and identifiers that are compared by what a stored text writes. -/
def writtenKinds : List Kind :=
  [.int, .smallInt, .bigInt, .positiveInt, .positiveSmallInt, .decimal, .dateTime, .time, .uuid]

theorem cases_of_mem_writtenKinds (h : kind ∈ writtenKinds) :
    (∃ range, intRange? kind = some range) ∨ kind = .decimal ∨ kind = .dateTime ∨ kind = .time ∨
      kind = .uuid := by
  simp only [writtenKinds, List.mem_cons, List.not_mem_nil, or_false] at h
  rcases h with rfl | rfl | rfl | rfl | rfl | rfl | rfl | rfl | rfl <;> simp [intRange?]

section Reader

variable [DecimalReader]

/-- A text that is converted is also read where it is stored: an identifier has no blanks around it, and a
decimal number is one that its reader takes without a second try. -/
structure ReadWhenStored (kind : Kind) (s : String) : Prop where
  /-- An identifier stands by itself. -/
  uuid : kind = .uuid → trim s = s
  /-- A decimal number is read at first. -/
  decimal : kind = .decimal → (DecimalReader.read? (trimChars s.toList)).isSome = true

/-- The order of two values of a kind, one of them stored as text, is the order of their places. -/
theorem order?_of_convert (hkind : kind ∈ writtenKinds) (ha : convert kind s = .ok a)
    (hb : convert kind t = .ok b) (hs : ReadWhenStored kind s) :
    ∃ o, order? (.str s) b = some o ∧ o.Compares a.place b.place := by
  rcases cases_of_mem_writtenKinds hkind with ⟨range, hrange⟩ | rfl | rfl | rfl | rfl
  · obtain ⟨m, hm, rfl⟩ := int_of_read hrange (convert_eq_ok_iff.mp ha)
    obtain ⟨n, -, rfl⟩ := int_of_read hrange (convert_eq_ok_iff.mp hb)
    exact ⟨compare m n, by simp [order?, hm], compares_last (compares_int m n)⟩
  · obtain ⟨c, hc, rfl⟩ := convert_decimal_eq_ok_iff_readTyped?.mp ha
    obtain ⟨d, -, rfl⟩ := convert_decimal_eq_ok_iff_readTyped?.mp hb
    rw [Decimal.readTyped?_of_isSome (hs.decimal rfl)] at hc
    exact ⟨c.order d, by simp [order?, hc], compares_last (c.order_compares d)⟩
  · obtain ⟨c, hc, rfl⟩ := convert_dateTime_eq_ok_iff.mp ha
    obtain ⟨d, -, rfl⟩ := convert_dateTime_eq_ok_iff.mp hb
    exact ⟨c.order d, by simp [order?, hc, Except.toOption], c.order_compares d⟩
  · obtain ⟨c, hc, rfl⟩ := convert_time_eq_ok_iff.mp ha
    obtain ⟨d, -, rfl⟩ := convert_time_eq_ok_iff.mp hb
    exact ⟨c.order d, by simp [order?, hc], c.order_compares d⟩
  · obtain ⟨c, hc, rfl⟩ := convert_uuid_eq_ok_iff.mp ha
    obtain ⟨d, -, rfl⟩ := convert_uuid_eq_ok_iff.mp hb
    rw [hs.uuid rfl] at hc
    exact ⟨c.order d, by simp [order?, hc], compares_last (c.order_compares d)⟩

/-- A text that is not read where it is stored has no order with any value of its kind. -/
theorem order?_eq_none_of_convert (hb : convert kind t = .ok b) (hs : ¬ ReadWhenStored kind s) :
    order? (.str s) b = none := by
  by_cases huuid : kind = .uuid ∧ trim s ≠ s
  · obtain ⟨rfl, hpadded⟩ := huuid
    obtain ⟨d, -, rfl⟩ := convert_uuid_eq_ok_iff.mp hb
    simp [order?, Uuid.read?_eq_none hpadded]
  · have hdecimal : kind = .decimal ∧ DecimalReader.read? (trimChars s.toList) = none := by
      by_contra hread
      refine hs ⟨fun hkind => ?_, fun hkind => ?_⟩
      · by_contra hpadded
        exact huuid ⟨hkind, hpadded⟩
      · exact Option.isSome_iff_ne_none.mpr fun hnone => hread ⟨hkind, hnone⟩
    obtain ⟨rfl, hnone⟩ := hdecimal
    obtain ⟨d, -, rfl⟩ := convert_decimal_eq_ok_iff_readTyped?.mp hb
    simp [order?, hnone]

/-- Values of one kind are equal when their places are, and then they are the same, but for decimal numbers,
which may be written with more places than they need. -/
theorem place_eq_iff_eqv (hkind : kind ∈ writtenKinds) (ha : convert kind s = .ok a)
    (hb : convert kind t = .ok b) : (a.place = b.place ↔ a.eqv b = true) ∧
      (kind ≠ .decimal → (a.eqv b = true ↔ a = b)) := by
  rcases cases_of_mem_writtenKinds hkind with ⟨range, hrange⟩ | rfl | rfl | rfl | rfl
  · obtain ⟨m, -, rfl⟩ := int_of_read hrange (convert_eq_ok_iff.mp ha)
    obtain ⟨n, -, rfl⟩ := int_of_read hrange (convert_eq_ok_iff.mp hb)
    simp [place, eqv]
  · obtain ⟨c, -, rfl⟩ := convert_decimal_eq_ok_iff_readTyped?.mp ha
    obtain ⟨d, -, rfl⟩ := convert_decimal_eq_ok_iff_readTyped?.mp hb
    simp [place, eqv, (c.order_compares d).eq_eq]
  · obtain ⟨c, -, rfl⟩ := convert_dateTime_eq_ok_iff.mp ha
    obtain ⟨d, -, rfl⟩ := convert_dateTime_eq_ok_iff.mp hb
    simp [place, eqv, Calendar.DateTime.numbers_inj]
  · obtain ⟨c, -, rfl⟩ := convert_time_eq_ok_iff.mp ha
    obtain ⟨d, -, rfl⟩ := convert_time_eq_ok_iff.mp hb
    simp [place, eqv, Calendar.TimeOfDay.numbers_inj]
  · obtain ⟨⟨m, hm⟩, -, rfl⟩ := convert_uuid_eq_ok_iff.mp ha
    obtain ⟨⟨n, hn⟩, -, rfl⟩ := convert_uuid_eq_ok_iff.mp hb
    simp [place, eqv]

end Reader

/-- **With the reader that is used**, every decimal number that is typed is read where it is stored. -/
theorem readWhenStored_iff (ha : convert kind s = .ok a) :
    ReadWhenStored kind s ↔ (kind = .uuid → trim s = s) := by
  refine ⟨ReadWhenStored.uuid, fun hs => ⟨hs, ?_⟩⟩
  rintro rfl
  obtain ⟨d, hd, -⟩ := convert_decimal_eq_ok_iff.mp ha
  exact Option.isSome_iff_exists.mpr ⟨d, hd⟩

example : order? (.str "5e0") (.decimal ⟨false, 500, 2, by decide, by decide⟩) = some .eq := by
  decide +kernel

end Value

namespace Filter

open Value

variable {kind : Kind} {f s : String} {row : Json} {a : Value}

/-- **A text is read like a typed one**, whatever its kind, with every reader of decimal numbers, unless it
is an identifier with blanks around it, or a decimal number of which that reader leaves out the exponent:
these are found by no comparison. -/
theorem stored_text_read_iff [DecimalReader] (hkind : kind ∈ writtenKinds)
    (hf : ¬ pathSeparator.toList <:+: f.toList) (hrow : row.get? f = some (.str s))
    (ha : convert kind s = .ok a) :
    ((∀ t b, convert kind t = .ok b → OrdersAs f b row a.place b.place) ↔ ReadWhenStored kind s) ∧
      ((leaf .eq f a).holds row = true ↔ ReadWhenStored kind s) ∧
      (¬ ReadWhenStored kind s → ∀ c ∈ orderings, ∀ t b, convert kind t = .ok b →
        (leaf c f b).holds row = false) ∧
      ∀ t b, convert kind t = .ok b → (a.place = b.place ↔ a.eqv b = true) ∧
        (kind ≠ .decimal → (a.eqv b = true ↔ a = b)) := by
  have hreach : row.reach f = [.str s] := Json.reach_name hf hrow
  have hread : ReadWhenStored kind s → ∀ t b, convert kind t = .ok b →
      OrdersAs f b row a.place b.place := by
    intro hs t b hb
    obtain ⟨o, horder, hcompares⟩ := order?_of_convert hkind ha hb hs
    exact ordersAs_of_compares hreach (ne_null_of_convert hb) horder hcompares
  have hmissed : ¬ ReadWhenStored kind s → ∀ c ∈ orderings, ∀ t b, convert kind t = .ok b →
      (leaf c f b).holds row = false := fun hs c hc t b hb =>
    holds_of_order?_eq_none hreach (ne_null_of_convert hb) hc (order?_eq_none_of_convert hb hs)
  have hequal : (leaf .eq f a).holds row = true → ReadWhenStored kind s := by
    intro h
    by_contra hs
    exact absurd (h.symm.trans (hmissed hs .eq (by decide) s a ha)) (by decide)
  refine ⟨⟨fun h => hequal ((h s a ha).eq.mpr rfl), hread⟩,
    ⟨hequal, fun hs => (hread hs s a ha).eq.mpr rfl⟩, hmissed, fun t b hb => ?_⟩
  exact place_eq_iff_eqv hkind ha hb

/-- A record with an identifier written as a name. -/
def badge : Json := .obj [("ref", .str "urn:uuid:F47AC10B-58CC-4372-A567-0E02B2C3D479")]

/-- The identifier of the record. -/
def badgeId : Uuid := ⟨0xf47ac10b58cc4372a5670e02b2c3d479, by decide⟩

/-- A record with a price written with an exponent. -/
def ticket : Json := .obj [("price", .str "1.5e3")]

/-- The price of the record. -/
def ticketPrice : Decimal := ⟨false, 1500, 0, by decide, by decide⟩

/-- A reader of decimal numbers that leaves out those with an exponent. -/
abbrev plainReader : DecimalReader := ⟨Decimal.readPlain?⟩

theorem stored_text_read_iff_badge :
    Kind.uuid ∈ writtenKinds ∧ ¬ pathSeparator.toList <:+: "ref".toList ∧
      badge.get? "ref" = some (.str "urn:uuid:F47AC10B-58CC-4372-A567-0E02B2C3D479") ∧
      convert .uuid "urn:uuid:F47AC10B-58CC-4372-A567-0E02B2C3D479" = .ok (.uuid badgeId) ∧
      convert .uuid " f47ac10b-58cc-4372-a567-0e02b2c3d479" = .ok (.uuid badgeId) ∧
      (leaf .eq "ref" (.uuid badgeId)).holds badge = true ∧
      convert .decimal "1.5e3" = .ok (.decimal ticketPrice) ∧
      (leaf .eq "price" (.decimal ticketPrice)).holds ticket = true ∧
      @convert plainReader .decimal "1.5e3" = .ok (.decimal ticketPrice) ∧
      @holds plainReader ticket (leaf .eq "price" (.decimal ticketPrice)) = false := by
  have hkind : Kind.uuid ∈ writtenKinds := by decide
  have hmark : ¬ pathSeparator.toList <:+: "ref".toList := by decide
  have hrow : badge.get? "ref" = some (.str "urn:uuid:F47AC10B-58CC-4372-A567-0E02B2C3D479") := rfl
  have hstored : convert .uuid "urn:uuid:F47AC10B-58CC-4372-A567-0E02B2C3D479" = .ok (.uuid badgeId) :=
    convert_uuid_eq_ok_iff.mpr ⟨_, by decide +kernel, rfl⟩
  have htyped : convert .uuid " f47ac10b-58cc-4372-a567-0e02b2c3d479" = .ok (.uuid badgeId) :=
    convert_uuid_eq_ok_iff.mpr ⟨_, by decide +kernel, rfl⟩
  have htrim : trim "urn:uuid:F47AC10B-58CC-4372-A567-0E02B2C3D479" =
      "urn:uuid:F47AC10B-58CC-4372-A567-0E02B2C3D479" := by decide
  obtain ⟨hread, -⟩ := stored_text_read_iff hkind hmark hrow hstored
  have hfound : (leaf .eq "ref" (.uuid badgeId)).holds badge = true :=
    (hread.mpr ((readWhenStored_iff hstored).mpr fun _ => htrim) _ _ htyped).eq.mpr rfl
  have hprice : convert .decimal "1.5e3" = .ok (.decimal ticketPrice) :=
    convert_decimal_eq_ok_iff.mpr ⟨_, by decide +kernel, rfl⟩
  obtain ⟨-, hknown, -⟩ := @stored_text_read_iff .decimal "price" "1.5e3" ticket _ _
    (by decide) (by decide) rfl hprice
  -- the reader without exponents leaves the price to the second try, which comparisons do not make
  have hplain : @convert plainReader .decimal "1.5e3" = .ok (.decimal ticketPrice) :=
    (@convert_decimal_eq_ok_iff_readTyped? _ _ plainReader).mpr ⟨_, by decide +kernel, rfl⟩
  have hunread : ¬ @ReadWhenStored plainReader .decimal "1.5e3" := fun h =>
    absurd (@ReadWhenStored.decimal plainReader _ _ h rfl) (by decide +kernel)
  obtain ⟨-, -, hmissed, -⟩ := @stored_text_read_iff .decimal "price" "1.5e3" ticket _ plainReader
    (by decide) (by decide) rfl hplain
  exact ⟨hkind, hmark, hrow, hstored, htyped, hfound, hprice,
    hknown.mpr ((readWhenStored_iff hprice).mpr nofun), hplain,
    hmissed hunread .eq (by decide) _ _ hplain⟩

/-- **An identifier stored with a blank in front is not found** by the very text that is stored. -/
theorem padded_identifier_missed :
    convert .uuid " f47ac10b-58cc-4372-a567-0e02b2c3d479" = .ok (.uuid badgeId) ∧
      (leaf .eq "ref" (.uuid badgeId)).holds
        (.obj [("ref", .str " f47ac10b-58cc-4372-a567-0e02b2c3d479")]) = false :=
  ⟨convert_uuid_eq_ok_iff.mpr ⟨_, by decide +kernel, rfl⟩, by decide +kernel⟩

end Filter

end Filterbook
