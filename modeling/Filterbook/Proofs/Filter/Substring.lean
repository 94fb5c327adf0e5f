import Filterbook.Filter.Sql
import Filterbook.Proofs.Filter.Combinators
import Filterbook.Proofs.Text.Split

/-!
# Patterns for texts to be contained

A query that asks for a text to be contained binds a pattern: the text between two percent signs. What
is like a pattern is said by `Sql.Like`, a relation between the characters of the two: a percent sign
stands for any characters, an underscore for any one, and a backslash takes the next character as it
is. A filter, without a query, looks for the text itself.

## What is proved

* `Sql.like_between_iff`: for a text without these three characters, what is like its pattern is what
  contains it.
* `Sql.exists_like_not_infix`: for any other text, something is like its pattern that does not contain
  it, since percent signs, underscores and backslashes of the text are taken for more than themselves.
* `Filter.pattern_finds_text_iff`: so the two readings agree on every stored text for the texts without
  these characters, and for no others.
-/

namespace Filterbook

namespace Sql

/-- The character means more than itself in a pattern. -/
def isSpecial (c : Char) : Bool := c = '%' || c = '_' || c = '\\'

/-- The characters of a pattern and of a text that is like it. -/
inductive Like : List Char → List Char → Prop where
  /-- Nothing is like nothing. -/
  | nil : Like [] []
  /-- A percent sign stands for any characters. -/
  | run (u : List Char) {p t : List Char} : Like p t → Like ('%' :: p) (u ++ t)
  /-- An underscore stands for any one character. -/
  | one (c : Char) {p t : List Char} : Like p t → Like ('_' :: p) (c :: t)
  /-- The character after a backslash stands for itself. -/
  | escaped (c : Char) {p t : List Char} : Like p t → Like ('\\' :: c :: p) (c :: t)
  /-- Any other character stands for itself. -/
  | plain {c : Char} (hc : isSpecial c = false) {p t : List Char} : Like p t → Like (c :: p) (c :: t)

variable {p s t : List Char}

theorem like_run_iff : Like ('%' :: p) t ↔ ∃ u t', t = u ++ t' ∧ Like p t' := by
  constructor
  · intro h
    cases h with
    | run u h => exact ⟨u, _, rfl, h⟩
    | plain hc _ => simp [isSpecial] at hc
  · rintro ⟨u, t', rfl, h⟩
    exact .run u h

theorem like_plain_iff {c : Char} (hc : isSpecial c = false) :
    Like (c :: p) t ↔ ∃ t', t = c :: t' ∧ Like p t' := by
  constructor
  · intro h
    cases h with
    | plain _ h => exact ⟨_, rfl, h⟩
    | _ => simp [isSpecial] at hc
  · rintro ⟨t', rfl, h⟩
    exact .plain hc h

/-- Everything is like a percent sign. -/
theorem like_run (t : List Char) : Like ['%'] t :=
  like_run_iff.mpr ⟨t, [], (List.append_nil t).symm, .nil⟩

/-- A pattern that begins with plain characters asks for just these. -/
theorem like_append_iff (hs : ∀ c ∈ s, isSpecial c = false) :
    Like (s ++ p) t ↔ ∃ t', t = s ++ t' ∧ Like p t' := by
  induction s generalizing t with
  | nil => simp
  | cons c s ih =>
    rw [List.forall_mem_cons] at hs
    rw [List.cons_append, like_plain_iff hs.1]
    constructor
    · rintro ⟨t', rfl, h⟩
      obtain ⟨t'', rfl, h''⟩ := (ih hs.2).mp h
      exact ⟨t'', rfl, h''⟩
    · rintro ⟨t', rfl, h⟩
      exact ⟨s ++ t', rfl, (ih hs.2).mpr ⟨t', rfl, h⟩⟩

/-- **Plain characters between percent signs are looked for as they are.** -/
theorem like_between_iff (hs : ∀ c ∈ s, isSpecial c = false) :
    Like ('%' :: s ++ ['%']) t ↔ s <:+: t := by
  rw [List.cons_append, like_run_iff]
  constructor
  · rintro ⟨u, t', rfl, h⟩
    obtain ⟨v, rfl, -⟩ := (like_append_iff hs).mp h
    exact ⟨u, v, List.append_assoc u s v⟩
  · rintro ⟨u, v, rfl⟩
    exact ⟨u, s ++ v, List.append_assoc u s v, (like_append_iff hs).mpr ⟨v, rfl, like_run v⟩⟩

theorem isSpecial_iff {c : Char} : isSpecial c = true ↔ c = '%' ∨ c = '_' ∨ c = '\\' := by
  simp [isSpecial, or_assoc]

/-- Something no longer than the text is like its pattern, and it is not the text itself if that has
special characters. -/
theorem exists_like (s : List Char) :
    ∃ t, Like (s ++ ['%']) t ∧ t.length ≤ s.length ∧ (t = s → ∀ c ∈ s, isSpecial c = false) := by
  match s with
  | [] => exact ⟨[], like_run [], le_rfl, fun _ => List.forall_mem_nil _⟩
  | c :: s =>
    obtain ⟨t, hlike, hlen, hplain⟩ := exists_like s
    by_cases hc : isSpecial c = true
    · rcases isSpecial_iff.mp hc with rfl | rfl | rfl
      · -- no character for the percent sign, so the text is shorter
        refine ⟨t, .run [] hlike, Nat.le_succ_of_le hlen, fun h => ?_⟩
        rw [h, List.length_cons] at hlen
        omega
      · -- another character for the underscore
        exact ⟨'%' :: t, .one '%' hlike, Nat.succ_le_succ hlen, fun h => by cases h⟩
      · cases s with
        | nil =>
          -- a backslash at the end takes the closing percent sign for itself
          exact ⟨['%'], .escaped '%' .nil, le_rfl, fun h => by cases h⟩
        | cons d s =>
          -- the backslash is lost, so the text is shorter
          obtain ⟨t, hlike, hlen, -⟩ := exists_like s
          refine ⟨d :: t, .escaped d hlike, Nat.succ_le_succ (Nat.le_succ_of_le hlen), fun h => ?_⟩
          rw [List.cons.injEq] at h
          rw [h.2, List.length_cons] at hlen
          omega
    · rw [Bool.not_eq_true] at hc
      refine ⟨c :: t, .plain hc hlike, Nat.succ_le_succ hlen, fun h => ?_⟩
      rw [List.cons.injEq] at h
      exact List.forall_mem_cons.mpr ⟨hc, hplain h.2⟩

/-- **With a special character, a pattern finds what does not contain the text.** -/
theorem exists_like_not_infix {c : Char} (hc : c ∈ s) (hspecial : isSpecial c = true) :
    ∃ t, Like ('%' :: s ++ ['%']) t ∧ ¬ s <:+: t := by
  obtain ⟨t, hlike, hlen, hplain⟩ := exists_like s
  refine ⟨t, .run [] hlike, fun hoccurs => ?_⟩
  have hts : t = s := (hoccurs.eq_of_length_le hlen).symm
  rw [hplain hts c hc] at hspecial
  cases hspecial

end Sql

namespace Filter

open Sql

/-- The text is like the pattern that the comparison binds. -/
def LikeBound (f : Filter) (t : String) : Prop :=
  ∃ pattern, f.params = [.text pattern] ∧ Like pattern.toList t.toList

theorem params_contains (path s : String) :
    (leaf .contains path (.text s)).params = [.text ("%" ++ s ++ "%")] := by
  simp [params, leafParams, Comparator.asksMissing, Comparator.bound]

theorem likeBound_contains_iff (path s t : String) :
    (leaf .contains path (.text s)).LikeBound t ↔ Like ('%' :: s.toList ++ ['%']) t.toList := by
  rw [LikeBound, params_contains]
  constructor
  · rintro ⟨pattern, hparams, h⟩
    cases hparams
    simpa using h
  · intro h
    exact ⟨_, rfl, by simpa using h⟩

/-- A filter looks for the text as it is. -/
theorem holds_contains_iff {path s t : String} {row : Json} (h : row.reach path = [.str t]) :
    (leaf .contains path (.text s)).holds row = true ↔ s.toList <:+: t.toList := by
  simp [leafHolds, h, Comparator.usesPattern, Comparator.holds, Value.needle, Json.plainText?,
    Text.contains_iff]

/-- **A pattern means the text between its percent signs**, as the filter does on every row where the path
holds one text, for the texts without percent signs, underscores and backslashes, and for no others. -/
theorem pattern_finds_text_iff (path s : String) :
    (∀ t row, row.reach path = [.str t] →
        ((leaf .contains path (.text s)).holds row = true ↔ s.toList <:+: t.toList)) ∧
      ((∀ t, (leaf .contains path (.text s)).LikeBound t ↔ s.toList <:+: t.toList) ↔
        ∀ c ∈ s.toList, isSpecial c = false) := by
  refine ⟨fun t row h => holds_contains_iff h, ?_⟩
  simp only [likeBound_contains_iff]
  constructor
  · intro h c hc
    by_contra hspecial
    rw [Bool.not_eq_false] at hspecial
    obtain ⟨t, hlike, hoccurs⟩ := exists_like_not_infix hc hspecial
    have hiff := h (String.ofList t)
    rw [String.toList_ofList] at hiff
    exact hoccurs (hiff.mp hlike)
  · intro h t
    exact like_between_iff h

theorem pattern_finds_text_iff_bolt :
    (leaf .contains "name" (.text "bolt")).holds (.obj [("name", .str "carbolts")]) = true ∧
      (leaf .contains "name" (.text "bolt")).LikeBound "carbolts" := by
  obtain ⟨hholds, hlike⟩ := pattern_finds_text_iff "name" "bolt"
  have hoccurs : "bolt".toList <:+: "carbolts".toList := ⟨"car".toList, "s".toList, rfl⟩
  exact ⟨(hholds "carbolts" _ rfl).mpr hoccurs, (hlike.mpr (by simp [isSpecial]) "carbolts").mpr hoccurs⟩

/-- The percent sign of "100%" is taken for any characters: a note on 100 percent is like the pattern and
does not contain the text. -/
theorem pattern_finds_other_text :
    (leaf .contains "note" (.text "100%")).sql 0 = "note LIKE $1" ∧
      (leaf .contains "note" (.text "100%")).params = [.text "%100%%"] ∧
      (leaf .contains "note" (.text "100%")).LikeBound "100 percent" ∧
      (Json.obj [("note", .str "100 percent")]).reach "note" = [.str "100 percent"] ∧
      (leaf .contains "note" (.text "100%")).holds (.obj [("note", .str "100 percent")]) = false := by
  refine ⟨by decide +kernel, rfl, ?_, rfl, by decide⟩
  rw [likeBound_contains_iff]
  have hplain : ∀ c ∈ ['1', '0', '0'], isSpecial c = false := by simp [isSpecial]
  exact .run [] ((like_append_iff hplain).mpr ⟨" percent".toList, rfl, .run [] (like_run _)⟩)

end Filter

end Filterbook
