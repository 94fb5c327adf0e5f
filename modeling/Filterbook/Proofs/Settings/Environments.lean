import Filterbook.Settings.Basic
import Mathlib.Data.List.Dedup
import Mathlib.Data.List.Induction

/-!
# Settings in several environments

Settings may be taken into one environment after another. Each environment sets what is different in it
and is then used up, so of several uses of one environment only the first counts. This module says which
order of listings is in force after any number of environments.

## What is proved

* `listing_inEnvironments`: the order in force is the one set by the environment that came last, among
  those that set one, where an environment comes when it is first used; it is the order of the text when
  none sets one.
* `order_lost_iff`: an order that names no attribute is refused when the text writes it for all
  environments, but not when the text writes it for one of them. Settings that a text writes order their
  listings in every sequence of environments exactly when no environment sets such an order, and after a
  given sequence exactly when the last order set in it is not such an order.
* `environment_loses_order`: a text whose settings are accepted and have no order in an environment.
-/

namespace Filterbook.Settings

/-- The settings in several environments, taken one after another. -/
def inEnvironments (s : Settings) (names : List String) : Settings := names.foldl inEnvironment s

/-- The order of listings that an environment sets. -/
def listingIn? (s : Settings) (name : String) : Option ListingOrder :=
  (s.environments.get? name).bind fun e => e.2.listing?

/-- The environments of a sequence, each once in the place of its first use, the latest first. -/
def latestFirst (names : List String) : List String := names.reverse.dedup

variable {s : Settings}

/-! ### One environment -/

theorem listing_inEnvironment (s : Settings) (name : String) :
    (s.inEnvironment name).listing = (s.listingIn? name).getD s.listing := by
  unfold inEnvironment listingIn?
  cases s.environments.get? name with
  | none => rfl
  | some e => rfl

/-- An environment is used up. -/
theorem environments_inEnvironment (s : Settings) (name : String) :
    (s.inEnvironment name).environments = s.environments.erase name := by
  unfold inEnvironment
  cases h : s.environments.get? name with
  | none => exact (Roster.erase_of_absent h).symm
  | some e => rfl

theorem listingIn?_inEnvironment (s : Settings) (name other : String) :
    (s.inEnvironment name).listingIn? other = if name = other then none else s.listingIn? other := by
  unfold listingIn?
  rw [environments_inEnvironment, Roster.get?_erase]
  split <;> rfl

/-! ### A sequence of environments -/

theorem inEnvironments_concat (s : Settings) (names : List String) (name : String) :
    s.inEnvironments (names ++ [name]) = (s.inEnvironments names).inEnvironment name := by
  simp [inEnvironments]

/-- What an environment sets is there until the environment is used. -/
theorem listingIn?_inEnvironments (s : Settings) (names : List String) (other : String) :
    (s.inEnvironments names).listingIn? other =
      if other ∈ names then none else s.listingIn? other := by
  induction names using List.reverseRecOn with
  | nil => simp [inEnvironments]
  | append_singleton names name ih =>
    rw [inEnvironments_concat, listingIn?_inEnvironment, ih]
    by_cases h : name = other
    · simp [h]
    · simp [h, Ne.symm h]

theorem latestFirst_concat (names : List String) (name : String) :
    latestFirst (names ++ [name]) =
      if name ∈ names then latestFirst names else name :: latestFirst names := by
  unfold latestFirst
  rw [List.reverse_append, List.reverse_singleton, List.singleton_append]
  split
  · next h => exact List.dedup_cons_of_mem (List.mem_reverse.mpr h)
  · next h => exact List.dedup_cons_of_notMem (mt List.mem_reverse.mp h)

/-- **The order in force is the last one set.** -/
theorem listing_inEnvironments (s : Settings) (names : List String) :
    (s.inEnvironments names).listing =
      ((latestFirst names).findSome? s.listingIn?).getD s.listing := by
  -- the last environment of the sequence is the first to look at
  induction names using List.reverseRecOn with
  | nil => rfl
  | append_singleton names name ih =>
    rw [inEnvironments_concat, listing_inEnvironment, listingIn?_inEnvironments,
      latestFirst_concat, ih]
    by_cases hused : name ∈ names
    · rw [if_pos hused, if_pos hused]
      rfl
    · rw [if_neg hused, if_neg hused, List.findSome?_cons]
      cases s.listingIn? name with
      | none => rfl
      | some order => rfl

theorem latestFirst_singleton (name : String) : latestFirst [name] = [name] := by
  simp [latestFirst]

/-! ### Settings that a text writes -/

/-- The order that a text writes for all environments names an attribute. -/
theorem listing_ne_of_ofText {valueOf? : String → Option String} {text : String}
    (h : ofText valueOf? text = .ok s) : s.listing.entries ≠ [] := by
  unfold ofText at h
  split at h
  · cases h
  · split at h
    · cases h
    · next hne =>
      cases h
      simpa using hne

theorem listing_eq_nil_iff (hs : s.listing.entries ≠ []) (names : List String) :
    (s.inEnvironments names).listing.entries = [] ↔
      (latestFirst names).findSome? s.listingIn? = some ⟨[]⟩ := by
  rw [listing_inEnvironments]
  cases (latestFirst names).findSome? s.listingIn? with
  | none => simpa using hs
  | some order =>
    obtain ⟨entries⟩ := order
    simp

/-- **When an order is lost**: of settings that a text writes, after a sequence of environments exactly
when the last order set in the sequence names no attribute, and so in some sequence exactly when one of
the environments sets such an order. -/
theorem order_lost_iff {valueOf? : String → Option String} {text : String}
    (h : ofText valueOf? text = .ok s) :
    (∀ names, (s.inEnvironments names).listing.entries = [] ↔
        (latestFirst names).findSome? s.listingIn? = some ⟨[]⟩) ∧
      ((∀ names, (s.inEnvironments names).listing.entries ≠ []) ↔
        ∀ name, s.listingIn? name ≠ some ⟨[]⟩) := by
  have hiff := listing_eq_nil_iff (listing_ne_of_ofText h)
  refine ⟨hiff, fun hall name hname => ?_, fun hnone names hnil => ?_⟩
  · refine hall [name] ((hiff [name]).mpr ?_)
    rw [latestFirst_singleton, List.findSome?_cons, hname]
  · obtain ⟨name, -, hname⟩ := List.exists_of_findSome?_eq_some ((hiff names).mp hnil)
    exact hnone name hname

/-- Something computed from settings that a text writes tells that the text is accepted. -/
theorem exists_ofText {valueOf? : String → Option String} {text : String} {α : Type} {f : Settings → α}
    {a : α} (h : (ofText valueOf? text).toOption.map f = some a) :
    ∃ s, ofText valueOf? text = .ok s ∧ f s = a := by
  cases hs : ofText valueOf? text with
  | error e =>
    rw [hs] at h
    cases h
  | ok s =>
    rw [hs] at h
    exact ⟨s, rfl, Option.some.inj h⟩

/-- Settings for two environments that set an order of listings, one of them by a variable. -/
def stagedText : String :=
  "[environments]\ndev.listing.order = [\x7bfield = '$\x7bKEY\x7d'\x7d]\ntest.listing = \x7b\x7d"

theorem order_lost_iff_staged :
    ∃ s, ofText (fun _ => some "id") stagedText = .ok s ∧
      (s.inEnvironments ["dev", "live", "test", "dev"]).listing.entries ≠ [] := by
  obtain ⟨s, hs, hlast⟩ : ∃ s, ofText (fun _ => some "id") stagedText = .ok s ∧
      (latestFirst ["dev", "live", "test", "dev"]).findSome? s.listingIn? = some .standard :=
    exists_ofText (by decide +kernel)
  refine ⟨s, hs, fun hnil => ?_⟩
  rw [(order_lost_iff hs).1, hlast] at hnil
  cases hnil

/-- A text whose settings are accepted and lose their order in an environment. -/
theorem environment_loses_order :
    ∃ s, ofText (fun _ => none) "[environments.dev.listing]\norder = []\n" = .ok s ∧
      (s.inEnvironments ["dev"]).listing.entries = [] :=
  exists_ofText (by decide +kernel)

end Filterbook.Settings
