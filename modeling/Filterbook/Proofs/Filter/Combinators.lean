import Filterbook.Filter.Matching

/-!
# The joining functions on rows

The functions that join filters simplify as they join: what holds always is left out or takes over,
and a conjunction on the left takes the right filter in. This module says that none of this can be
seen on a row: a joined filter holds of a row as its name says (`holds_negation`, `holds_andThen`,
`holds_orElse`, `holds_conjunction`, `holds_disjunction`).
-/

namespace Filterbook.Filter

variable (row : Json)

/-- A filter that holds always by its form. -/
theorem isAlways_iff (f : Filter) : f.isAlways = true ↔ f = always := by
  cases f <;> simp [isAlways]

theorem andThen_always (f : Filter) : f.andThen always = f := by cases f <;> rfl

theorem all_andThen (fs : List Filter) {g : Filter} (hg : g ≠ always) :
    (all fs).andThen g = all (fs ++ [g]) := by
  cases g with
  | always => exact absurd rfl hg
  | leaf | all | any | not => rfl

/-- Two filters of which neither is left out and the left one takes nothing in. -/
theorem andThen_of_ne {f g : Filter} (hf : f ≠ always) (hall : ∀ fs, f ≠ all fs) (hg : g ≠ always) :
    f.andThen g = all [f, g] := by
  unfold andThen
  split
  · exact absurd rfl hf
  · exact absurd rfl hg
  · exact absurd rfl (hall _)
  · rfl

@[simp] theorem holds_always : always.holds row = true := by simp [holds]

@[simp] theorem holds_not (f : Filter) : (not f).holds row = !f.holds row := by simp [holds]

@[simp] theorem holds_leaf [Number.DecimalReader] (c : Comparator) (path : String) (operand : Value) :
    (leaf c path operand).holds row = leafHolds c path operand row := by simp [holds]

/-- A list of filters holds in every member. -/
theorem holdsAll_iff (fs : List Filter) : holdsAll row fs = true ↔ ∀ f ∈ fs, f.holds row = true := by
  induction fs with
  | nil => simp [holdsAll]
  | cons f fs ih => simp [holdsAll, ih]

/-- A list of filters holds in some member. -/
theorem holdsAny_iff (fs : List Filter) : holdsAny row fs = true ↔ ∃ f ∈ fs, f.holds row = true := by
  induction fs with
  | nil => simp [holdsAny]
  | cons f fs ih => simp [holdsAny, ih]

@[simp] theorem holds_all_iff (fs : List Filter) :
    (all fs).holds row = true ↔ ∀ f ∈ fs, f.holds row = true := by
  rw [holds]
  exact holdsAll_iff row fs

@[simp] theorem holds_any_iff (fs : List Filter) :
    (any fs).holds row = true ↔ ∃ f ∈ fs, f.holds row = true := by
  rw [holds]
  exact holdsAny_iff row fs

/-- A filter holds of two rows alike when its comparisons do. -/
theorem holds_congr {row row' : Json} {f : Filter}
    (h : ∀ leaf ∈ f.leaves, leafHolds leaf.1 leaf.2.1 leaf.2.2 row =
      leafHolds leaf.1 leaf.2.1 leaf.2.2 row') : f.holds row = f.holds row' := by
  induction f with
  | always => rw [holds_always, holds_always]
  | leaf c path operand =>
    rw [leaves, List.forall_mem_singleton] at h
    rw [holds_leaf, holds_leaf, h]
  | all fs ih =>
    rw [leaves, forall_leavesOf] at h
    rw [Bool.eq_iff_iff, holds_all_iff, holds_all_iff]
    exact forall₂_congr fun f hf => by rw [ih f hf (h f hf)]
  | any fs ih =>
    rw [leaves, forall_leavesOf] at h
    rw [Bool.eq_iff_iff, holds_any_iff, holds_any_iff]
    exact exists_congr fun f => and_congr_right fun hf => by rw [ih f hf (h f hf)]
  | not f ih =>
    rw [leaves] at h
    rw [holds_not, holds_not, ih h]

/-- A negation holds where the filter does not, unless the filter holds always by its form. -/
theorem holds_negation {f : Filter} (hf : f ≠ always) : f.negation.holds row = !f.holds row := by
  cases f with
  | always => exact absurd rfl hf
  | leaf | all | any | not =>
    rw [negation, holds_not]
    simp

/-- Both filters hold, whichever of the two is left out or takes the other in. -/
theorem holds_andThen (f g : Filter) :
    (f.andThen g).holds row = true ↔ f.holds row = true ∧ g.holds row = true := by
  unfold andThen
  split
  · simp
  · simp
  · -- a conjunction on the left: one more member
    next fs _ _ =>
    simp only [holds_all_iff, List.mem_append, List.mem_singleton]
    constructor
    · intro h
      exact ⟨fun f hf => h f (.inl hf), h g (.inr rfl)⟩
    · rintro ⟨hfs, hg⟩ f (hf | rfl)
      · exact hfs f hf
      · exact hg
  · simp

/-- One of the filters holds, also when one that holds always takes over or the left one takes the other
in. -/
theorem holds_orElse (f g : Filter) :
    (f.orElse g).holds row = true ↔ f.holds row = true ∨ g.holds row = true := by
  unfold orElse
  split
  · simp
  · simp
  · -- a disjunction on the left: one more member
    next fs _ _ =>
    simp only [holds_any_iff, List.mem_append, List.mem_singleton]
    constructor
    · rintro ⟨f, hf | rfl, h⟩
      · exact .inl ⟨f, hf, h⟩
      · exact .inr h
    · rintro (⟨f, hf, h⟩ | h)
      · exact ⟨f, .inl hf, h⟩
      · exact ⟨g, .inr rfl, h⟩
  · simp

/-- All filters of a list hold, whichever of them are left out. -/
theorem holds_conjunction (fs : List Filter) :
    (conjunction fs).holds row = true ↔ ∀ f ∈ fs, f.holds row = true := by
  have hkept : (∀ f ∈ fs.filter fun f => !f.isAlways, f.holds row = true) ↔
      ∀ f ∈ fs, f.holds row = true := by
    constructor
    · intro h f hf
      by_cases ha : f.isAlways = true
      · rw [(isAlways_iff f).mp ha]
        exact holds_always row
      · exact h f (List.mem_filter.mpr ⟨hf, by simpa using ha⟩)
    · intro h f hf
      exact h f (List.mem_filter.mp hf).1
  rw [← hkept]
  unfold conjunction
  split
  · next h => simp [h]
  · next h => simp [h]
  · exact holds_all_iff row _

/-- One filter of a list with some members holds, also when the list collapses. -/
theorem holds_disjunction {fs : List Filter} (hfs : fs ≠ []) :
    (disjunction fs).holds row = true ↔ ∃ f ∈ fs, f.holds row = true := by
  unfold disjunction
  split
  · next h =>
    -- a member that holds always by its form
    have hany : ∃ f ∈ fs, f.isAlways = true := by
      simpa [List.isEmpty_iff, hfs] using h
    obtain ⟨f, hf, ha⟩ := hany
    rw [isAlways_iff] at ha
    subst ha
    exact iff_of_true (holds_always row) ⟨_, hf, holds_always row⟩
  · split
    · simp
    · exact holds_any_iff row fs

end Filterbook.Filter
