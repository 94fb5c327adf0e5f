import Filterbook.Proofs.Filter.Combinators

/-!
# What joining keeps simple

Five functions join filters, and each of them simplifies in its own way: members that hold always are
left out or take over, a list of one member is that member, a conjunction or disjunction on the left takes
the right filter in. A filter may be built by any nesting of them. Either it holds always by its form, or
nothing in it does, and no conjunction or disjunction in it has less than two members.

## What is proved

* `Filter.IsSimple.conjunction`, `Filter.IsSimple.disjunction`, `Filter.IsSimple.negation`,
  `Filter.IsSimple.andThen`, `Filter.IsSimple.orElse`: each function makes simple filters of simple ones.
* `Filter.Joined.isSimple`: so whatever they build is simple.
* `Filter.joining_keeps_meaning_and_form`: on every row the joined filter holds as its name says, and it
  stays simple; without comparisons it holds always.
-/

namespace Filterbook.Filter

/-! ### Simple filters -/

/-- No part of the filter holds always by its form, and no conjunction or disjunction in it has less than
two members. -/
inductive IsSolid : Filter → Prop where
  /-- A comparison. -/
  | leaf (c : Comparator) (path : String) (operand : Value) : IsSolid (leaf c path operand)
  /-- All of two filters or more. -/
  | all {fs : List Filter} (hlen : 2 ≤ fs.length) (h : ∀ f ∈ fs, IsSolid f) : IsSolid (all fs)
  /-- One of two filters or more. -/
  | any {fs : List Filter} (hlen : 2 ≤ fs.length) (h : ∀ f ∈ fs, IsSolid f) : IsSolid (any fs)
  /-- A negation. -/
  | not {f : Filter} (h : IsSolid f) : IsSolid (not f)

/-- The filter holds always by its form, or nothing in it does. -/
def IsSimple (f : Filter) : Prop := f = always ∨ f.IsSolid

variable {f g : Filter} {fs : List Filter}

theorem IsSimple.solid (h : f.IsSimple) (hne : f ≠ always) : f.IsSolid := h.resolve_left hne

theorem IsSimple.solid_of_isAlways (h : f.IsSimple) (hne : f.isAlways = false) : f.IsSolid :=
  h.solid fun heq => by simp [heq, isAlways] at hne

/-- A solid filter compares something. -/
theorem IsSolid.leafCount_pos (h : f.IsSolid) : 0 < f.leafCount := by
  unfold leafCount
  induction h with
  | leaf c path operand => simp [leaves]
  | @all fs hlen _ ih | @any fs hlen _ ih =>
    -- the first member does
    obtain ⟨f, rest, rfl⟩ := List.exists_cons_of_length_pos (by omega : 0 < fs.length)
    have hfirst := ih f (List.mem_cons_self ..)
    rw [leaves, leavesOf, List.length_append]
    omega
  | not h ih => rwa [leaves]

theorem IsSimple.eq_always_iff (h : f.IsSimple) : f = always ↔ f.leafCount = 0 := by
  constructor
  · rintro rfl
    rfl
  · intro hzero
    rcases h with h | h
    · exact h
    · have := h.leafCount_pos
      omega

/-! ### What each function makes of simple filters -/

/-- Those left out hold always, so the others are solid. -/
theorem IsSimple.conjunction (h : ∀ f ∈ fs, f.IsSimple) : (conjunction fs).IsSimple := by
  have hkept : ∀ g ∈ fs.filter fun f => !f.isAlways, g.IsSolid := by
    intro g hg
    obtain ⟨hmem, hne⟩ := List.mem_filter.mp hg
    exact (h g hmem).solid_of_isAlways (by simpa using hne)
  unfold Filter.conjunction
  split
  · exact .inl rfl
  · next f heq => exact .inr (hkept f (by simp [heq]))
  · next hnil hone =>
    refine .inr (.all ?_ hkept)
    -- neither no member is left nor a single one
    generalize (fs.filter fun f => !f.isAlways) = gs at hnil hone
    match gs with
    | [] => exact absurd rfl hnil
    | [f] => exact absurd rfl (hone f)
    | _ :: _ :: _ => simp

theorem IsSimple.disjunction (h : ∀ f ∈ fs, f.IsSimple) : (disjunction fs).IsSimple := by
  unfold Filter.disjunction
  split
  · exact .inl rfl
  · next hnone =>
    simp only [Bool.or_eq_true, not_or, List.any_eq_true, not_exists, not_and, Bool.not_eq_true] at hnone
    have hsolid : ∀ g ∈ fs, g.IsSolid := fun g hg => (h g hg).solid_of_isAlways (hnone.2 g hg)
    match fs with
    | [] => simp at hnone
    | [f] => exact .inr (hsolid f (List.mem_singleton_self f))
    | f :: g :: rest => exact .inr (.any (by simp) hsolid)

theorem IsSimple.negation (h : f.IsSimple) : f.negation.IsSimple := by
  unfold Filter.negation
  split
  · exact .inl rfl
  · next hne => exact .inr (.not (h.solid hne))

/-- A conjunction on the left has two members or more, and then one more. -/
theorem IsSimple.andThen (hf : f.IsSimple) (hg : g.IsSimple) : (f.andThen g).IsSimple := by
  unfold Filter.andThen
  split
  · exact hg
  · exact hf
  · next fs _ hne =>
    have hsolid := hg.solid hne
    cases hf.solid nofun with
    | all hlen hmem =>
      refine .inr (.all (by simp; omega) ?_)
      rw [List.forall_mem_append, List.forall_mem_singleton]
      exact ⟨hmem, hsolid⟩
  · next hne _ hne' =>
    refine .inr (.all (by simp) ?_)
    rw [List.forall_mem_cons, List.forall_mem_singleton]
    exact ⟨hf.solid hne, hg.solid hne'⟩

theorem IsSimple.orElse (hf : f.IsSimple) (hg : g.IsSimple) : (f.orElse g).IsSimple := by
  unfold Filter.orElse
  split
  · exact hf
  · exact hg
  · next fs _ hne =>
    have hsolid := hg.solid hne
    cases hf.solid nofun with
    | any hlen hmem =>
      refine .inr (.any (by simp; omega) ?_)
      rw [List.forall_mem_append, List.forall_mem_singleton]
      exact ⟨hmem, hsolid⟩
  · next hne _ hne' =>
    refine .inr (.any (by simp) ?_)
    rw [List.forall_mem_cons, List.forall_mem_singleton]
    exact ⟨hf.solid hne, hg.solid hne'⟩

/-! ### Whatever they build -/

/-- The filter is built of comparisons, and of the filter that holds always, by joining. -/
inductive Joined : Filter → Prop where
  /-- The filter that holds always. -/
  | always : Joined always
  /-- A comparison. -/
  | leaf (c : Comparator) (path : String) (operand : Value) : Joined (leaf c path operand)
  /-- All of the filters. -/
  | conjunction {fs : List Filter} (h : ∀ f ∈ fs, Joined f) : Joined (conjunction fs)
  /-- One of the filters. -/
  | disjunction {fs : List Filter} (h : ∀ f ∈ fs, Joined f) : Joined (disjunction fs)
  /-- Not the filter. -/
  | negation {f : Filter} (h : Joined f) : Joined f.negation
  /-- Both filters. -/
  | andThen {f g : Filter} (hf : Joined f) (hg : Joined g) : Joined (f.andThen g)
  /-- Either filter. -/
  | orElse {f g : Filter} (hf : Joined f) (hg : Joined g) : Joined (f.orElse g)

theorem Joined.isSimple (h : f.Joined) : f.IsSimple := by
  induction h with
  | always => exact .inl rfl
  | leaf c path operand => exact .inr (.leaf c path operand)
  | conjunction _ ih => exact .conjunction ih
  | disjunction _ ih => exact .disjunction ih
  | negation _ ih => exact ih.negation
  | andThen _ _ ihf ihg => exact ihf.andThen ihg
  | orElse _ _ ihf ihg => exact ihf.orElse ihg

/-- **Joining keeps what filters mean, and keeps them simple**: on every row a joined filter holds as the
filters that it joins say, and whatever is built by joining either holds always by its form or has nothing
in it that does, no list of less than two members, and some comparison. -/
theorem joining_keeps_meaning_and_form :
    (∀ row,
      (∀ fs, (conjunction fs).holds row = true ↔ ∀ f ∈ fs, f.holds row = true) ∧
      (∀ fs, fs ≠ [] → ((disjunction fs).holds row = true ↔ ∃ f ∈ fs, f.holds row = true)) ∧
      (∀ f, f ≠ always → (f.negation.holds row = true ↔ ¬ f.holds row = true)) ∧
      (∀ f g : Filter, (f.andThen g).holds row = true ↔ f.holds row = true ∧ g.holds row = true) ∧
      ∀ f g : Filter, (f.orElse g).holds row = true ↔ f.holds row = true ∨ g.holds row = true) ∧
    ∀ f, f.Joined → (f = always ∨ f.IsSolid) ∧ (f.leafCount = 0 ↔ f = always) := by
  constructor
  · intro row
    refine ⟨holds_conjunction row, fun fs => holds_disjunction row, ?_, holds_andThen row, holds_orElse row⟩
    intro f hf
    rw [holds_negation row hf, Bool.not_eq_true', Bool.not_eq_true]
  · intro f hf
    exact ⟨hf.isSimple, hf.isSimple.eq_always_iff.symm⟩

/-- Customers whose age is known and not below 18, or who have a guardian. -/
def ofAge : Filter :=
  ((leaf .eq "age" .null).negation.andThen (conjunction [always, leaf .gte "age" (.int 18)])).orElse
    (disjunction [leaf .eq "guardian" (.bool true)])

/-- A customer of three years. -/
def toddler : Json := .obj [("age", .int 3), ("guardian", .bool true)]

theorem joining_keeps_meaning_and_form_ofAge :
    ofAge.Joined ∧ (ofAge = always ∨ ofAge.IsSolid) ∧ (ofAge.leafCount = 0 ↔ ofAge = always) ∧
      ofAge.leafCount = 3 ∧ ofAge.holds toddler = true ∧
      leaf .eq "age" .null ≠ always ∧ (leaf .eq "age" .null).negation.holds toddler = true ∧
      [leaf .eq "guardian" (.bool true)] ≠ [] ∧
      (disjunction [leaf .eq "guardian" (.bool true)]).holds toddler = true := by
  obtain ⟨hmeaning, hform⟩ := joining_keeps_meaning_and_form
  obtain ⟨-, hdisjunction, hnegation, -, horElse⟩ := hmeaning toddler
  have hjoined : ofAge.Joined := by
    refine .orElse (.andThen (.negation (.leaf ..)) (.conjunction ?_)) (.disjunction ?_)
    · simp [Joined.always, Joined.leaf]
    · simp [Joined.leaf]
  have hnull : leaf .eq "age" .null ≠ always := nofun
  have hne : [leaf .eq "guardian" (.bool true)] ≠ [] := nofun
  have hguarded : (disjunction [leaf .eq "guardian" (.bool true)]).holds toddler = true :=
    (hdisjunction _ hne).mpr ⟨_, List.mem_singleton_self _, by decide⟩
  exact ⟨hjoined, (hform ofAge hjoined).1, (hform ofAge hjoined).2, rfl,
    (horElse _ _).mpr (.inr hguarded), hnull, (hnegation _ hnull).mpr (by decide), hne, hguarded⟩

end Filterbook.Filter
