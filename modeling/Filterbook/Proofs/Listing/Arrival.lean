import Filterbook.Proofs.Listing.Comparison
import Filterbook.Repository
import Mathlib.Data.List.Induction

/-!
# Listings in order

A listing is sorted by the order of its query, and filters that the order does not tell apart stand in the
order in which they came into the repository. What came when is read off the changes since the repository
was empty: a filter comes in with an insertion that is not refused, it keeps its place when it is replaced,
and if it is taken out and inserted again, the latest insertion counts.

## What is proved

* `pairwise_mergeSort_of_pairwise`: a stable sort keeps what holds between the elements that the order
  does not tell apart.
* `Repository.change_cases`: a change adds one identity at the end, which was not there, or leaves some of
  the identities in their order.
* `Repository.pairwise_entries_after`: after any changes the stored filters stand in the order of their
  latest arrivals.
* `Repository.listings_are_stable`: every order is a total preorder, and a listing holds the stored filters
  that its query admits, in the order of the query, with the earlier arrival first among equals.
-/

namespace Filterbook

open Std

/-! ### Stable sorting -/

/-- What holds of the elements of a list in their order holds, after a stable sort, of those that the sort
does not tell apart. -/
theorem pairwise_mergeSort_of_pairwise {α : Type} {le : α → α → Bool} {R : α → α → Prop} {l : List α}
    (trans : ∀ a b c, le a b = true → le b c = true → le a c = true)
    (total : ∀ a b, (le a b || le b a) = true) (h : l.Pairwise R) :
    (l.mergeSort le).Pairwise fun a b => le a b = true ∧ (le b a = true → R a b) := by
  -- sort the elements with their places: the places decide between equals
  rw [← List.mergeSort_zipIdx, List.pairwise_map]
  have hsorted := List.pairwise_mergeSort (List.zipIdxLE_trans trans) (List.zipIdxLE_total total) l.zipIdx
  have hplaces : ((l.zipIdx.mergeSort (List.zipIdxLE le)).map Prod.snd).Nodup := by
    rw [((List.mergeSort_perm _ _).map Prod.snd).nodup_iff, List.zipIdx_map_snd]
    exact List.nodup_range'
  rw [List.Nodup, List.pairwise_map] at hplaces
  refine (hsorted.and hplaces).imp_of_mem ?_
  rintro ⟨a, i⟩ ⟨b, j⟩ ha hb ⟨hle, hne⟩
  have hi := List.mem_zipIdx_iff_getElem?.mp ((List.mergeSort_perm _ _).mem_iff.mp ha)
  have hj := List.mem_zipIdx_iff_getElem?.mp ((List.mergeSort_perm _ _).mem_iff.mp hb)
  simp only [List.getElem?_eq_some_iff] at hi hj hne
  obtain ⟨hilt, rfl⟩ := hi
  obtain ⟨hjlt, rfl⟩ := hj
  by_cases hab : le l[i] l[j] = true
  · refine ⟨hab, fun hba => ?_⟩
    have hij : i ≤ j := by simpa [List.zipIdxLE, hab, hba] using hle
    exact List.pairwise_iff_getElem.mp h i j hilt hjlt (by omega)
  · simp [List.zipIdxLE, hab] at hle

namespace Repository

/-! ### Changes -/

/-- A change of what is stored. -/
inductive Change where
  /-- A filter is put in. Its identity must be new. -/
  | insert (f : SavedFilter)
  /-- A filter is put in the place of the one with its identity. -/
  | replace (f : SavedFilter)
  /-- A filter is taken out. -/
  | erase (id : Uuid)

/-- The repository after a change. A change that is refused leaves it as it is. -/
def change (r : Repository) : Change → Repository
  | .insert f => (r.add f).toOption.getD r
  | .replace f => (r.replace f).toOption.getD r
  | .erase id => r.erase id

/-- The repository after changes, empty before the first. -/
def after (changes : List Change) : Repository := changes.foldl change empty

/-- The change brings an identity into the repository: it inserts a filter and is not refused. -/
def Brings (r : Repository) (c : Change) (id : Uuid) : Prop :=
  ∃ f r', c = .insert f ∧ f.id = id ∧ r.add f = .ok r'

/-- The change at a place brings an identity into the repository. -/
def Arrives (changes : List Change) (id : Uuid) (i : Nat) : Prop :=
  ∃ c, changes[i]? = some c ∧ (after (changes.take i)).Brings c id

/-- The change at a place is the last one that brings an identity into the repository. -/
def ArrivesLast (changes : List Change) (id : Uuid) (i : Nat) : Prop :=
  Arrives changes id i ∧ ∀ j, i < j → ¬ Arrives changes id j

/-- One identity came in before another, where the latest arrival of each counts. -/
def Earlier (changes : List Change) (a b : Uuid) : Prop :=
  ∃ i j, ArrivesLast changes a i ∧ ArrivesLast changes b j ∧ i < j

variable {r : Repository} {c : Change} {id : Uuid} {changes : List Change}

theorem after_concat (changes : List Change) (c : Change) :
    after (changes ++ [c]) = (after changes).change c := by
  simp [after]

/-! ### One change -/

/-- **What a change does to the identities**: it brings one that was not there, which comes last, or it
brings none, and those that stay keep their order. -/
theorem change_cases (r : Repository) (c : Change) :
    (∃ id, (∀ other, r.Brings c other ↔ other = id) ∧
        (r.change c).filters.keys = r.filters.keys ++ [id]) ∨
      (∀ id, ¬ r.Brings c id) ∧ (r.change c).filters.keys.Sublist r.filters.keys := by
  cases c with
  | insert f =>
    by_cases hold : r.filters.contains f.id = true
    · have hadd : ∃ e, r.add f = .error e := ⟨_, if_pos hold⟩
      obtain ⟨e, hadd⟩ := hadd
      refine .inr ⟨?_, ?_⟩
      · rintro id ⟨g, r', hg, -, hok⟩
        cases hg
        rw [hadd] at hok
        cases hok
      · show ((r.add f).toOption.getD r).filters.keys.Sublist r.filters.keys
        rw [hadd]
        exact List.Sublist.refl _
    · have hadd : r.add f = .ok ⟨r.filters.insert f⟩ := if_neg hold
      refine .inl ⟨f.id, fun other => ⟨?_, ?_⟩, ?_⟩
      · rintro ⟨g, r', hg, rfl, -⟩
        cases hg
        rfl
      · rintro rfl
        exact ⟨f, _, rfl, rfl, hadd⟩
      · rw [Roster.contains_iff_mem_keys] at hold
        show ((r.add f).toOption.getD r).filters.keys = r.filters.keys ++ [f.id]
        rw [hadd]
        show (r.filters.insert f).keys = r.filters.keys ++ [f.id]
        rw [Roster.keys_insert, if_neg hold]
  | replace f =>
    refine .inr ⟨fun id h => ?_, ?_⟩
    · obtain ⟨g, r', hg, -⟩ := h
      cases hg
    · show ((r.replace f).toOption.getD r).filters.keys.Sublist r.filters.keys
      unfold replace
      split
      · next hold =>
        rw [Roster.contains_iff_mem_keys] at hold
        have hkeys : (r.filters.insert f).keys = r.filters.keys := by
          rw [Roster.keys_insert, if_pos hold]
        exact hkeys.symm ▸ List.Sublist.refl _
      · exact List.Sublist.refl _
  | erase k =>
    refine .inr ⟨fun id h => ?_, ?_⟩
    · obtain ⟨g, r', hg, -⟩ := h
      cases hg
    · show (r.filters.erase k).keys.Sublist r.filters.keys
      rw [Roster.keys_erase]
      exact List.filter_sublist

/-! ### Arrivals -/

theorem Arrives.lt_length {i : Nat} (h : Arrives changes id i) : i < changes.length := by
  obtain ⟨c, hc, -⟩ := h
  exact (List.getElem?_eq_some_iff.mp hc).1

theorem arrives_concat_iff {i : Nat} :
    Arrives (changes ++ [c]) id i ↔
      Arrives changes id i ∨ i = changes.length ∧ (after changes).Brings c id := by
  by_cases hi : i < changes.length
  · have hne : i ≠ changes.length := by omega
    unfold Arrives
    rw [List.getElem?_append_left hi, List.take_append_of_le_length (by omega)]
    simp [hne]
  · have hold : ¬ Arrives changes id i := fun h => hi h.lt_length
    by_cases hlast : i = changes.length
    · subst hlast
      simp only [hold, false_or, true_and]
      unfold Arrives
      rw [List.take_left]
      simp
    · have hnone : (changes ++ [c])[i]? = none := by
        rw [List.getElem?_eq_none_iff, List.length_append, List.length_singleton]
        omega
      have hnew : ¬ Arrives (changes ++ [c]) id i := by simp [Arrives, hnone]
      simp only [hnew, hold, hlast, false_and, or_self]

/-- A change that does not bring an identity leaves its latest arrival. -/
theorem ArrivesLast.concat {i : Nat} (h : ArrivesLast changes id i)
    (hc : ¬ (after changes).Brings c id) : ArrivesLast (changes ++ [c]) id i := by
  refine ⟨arrives_concat_iff.mpr (.inl h.1), fun j hj hlater => ?_⟩
  rcases arrives_concat_iff.mp hlater with hold | ⟨-, hnew⟩
  · exact h.2 j hj hold
  · exact hc hnew

/-- A change that brings an identity is its latest arrival. -/
theorem arrivesLast_concat (hc : (after changes).Brings c id) :
    ArrivesLast (changes ++ [c]) id changes.length := by
  refine ⟨arrives_concat_iff.mpr (.inr ⟨rfl, hc⟩), fun j hj hlater => ?_⟩
  have hlt := hlater.lt_length
  rw [List.length_append, List.length_singleton] at hlt
  omega

theorem Earlier.concat {a b : Uuid} (h : Earlier changes a b) (ha : ¬ (after changes).Brings c a)
    (hb : ¬ (after changes).Brings c b) : Earlier (changes ++ [c]) a b := by
  obtain ⟨i, j, hi, hj, hij⟩ := h
  exact ⟨i, j, hi.concat ha, hj.concat hb, hij⟩

/-- What is stored has arrived, and its identities stand in the order of their latest arrivals. -/
structure InArrivalOrder (changes : List Change) (ids : List Uuid) : Prop where
  /-- Every identity has arrived. -/
  arrived : ∀ id ∈ ids, ∃ i, ArrivesLast changes id i
  /-- The earlier arrival comes first. -/
  pairwise : ids.Pairwise (Earlier changes)

theorem InArrivalOrder.change (h : InArrivalOrder changes (after changes).filters.keys) (c : Change) :
    InArrivalOrder (changes ++ [c]) ((after changes).change c).filters.keys := by
  rcases change_cases (after changes) c with ⟨id, hbrings, hkeys⟩ | ⟨hnone, hkeys⟩
  · -- the identity is new, so that no other loses its arrival
    have hnodup : (((after changes).change c).filters.keys).Nodup :=
      ((after changes).change c).filters.nodup
    rw [hkeys] at hnodup ⊢
    have hold : ∀ other ∈ (after changes).filters.keys, ¬ (after changes).Brings c other := by
      intro other hother hbrought
      rw [hbrings] at hbrought
      exact (List.nodup_append.mp hnodup).2.2 other hother id (by simp) hbrought
    have hnew : ArrivesLast (changes ++ [c]) id changes.length :=
      arrivesLast_concat ((hbrings id).mpr rfl)
    constructor
    · intro other hother
      rcases List.mem_append.mp hother with hmem | hmem
      · obtain ⟨i, hi⟩ := h.arrived other hmem
        exact ⟨i, hi.concat (hold other hmem)⟩
      · exact ⟨changes.length, List.mem_singleton.mp hmem ▸ hnew⟩
    · rw [List.pairwise_append]
      refine ⟨h.pairwise.imp_of_mem fun ha hb hearlier => hearlier.concat (hold _ ha) (hold _ hb),
        List.pairwise_singleton _ _, fun other hother new hmem => ?_⟩
      obtain ⟨i, hi⟩ := h.arrived other hother
      exact ⟨i, changes.length, hi.concat (hold other hother), List.mem_singleton.mp hmem ▸ hnew,
        hi.1.lt_length⟩
  · constructor
    · intro id hid
      obtain ⟨i, hi⟩ := h.arrived id (hkeys.subset hid)
      exact ⟨i, hi.concat (hnone id)⟩
    · exact (h.pairwise.imp fun hearlier => hearlier.concat (hnone _) (hnone _)).sublist hkeys

theorem inArrivalOrder_after (changes : List Change) :
    InArrivalOrder changes (after changes).filters.keys := by
  induction changes using List.reverseRecOn with
  | nil => exact ⟨List.forall_mem_nil _, List.Pairwise.nil⟩
  | append_singleton changes c ih =>
    rw [after_concat]
    exact ih.change c

/-- **The stored filters stand in the order of their latest arrivals.** -/
theorem pairwise_entries_after (changes : List Change) :
    (after changes).filters.entries.Pairwise fun f g => Earlier changes f.id g.id :=
  List.pairwise_map.mp (inArrivalOrder_after changes).pairwise

/-! ### Listings -/

/-- **Listings are sorted, and stably so**: every listing order is a total preorder, and after any changes
the listing of any query holds the stored filters that the query admits, each as often as it is stored,
sorted by the order of the query, and among filters that the order does not tell apart the one that arrived
earlier comes first. -/
theorem listings_are_stable :
    (∀ o : ListingOrder,
      (∀ a, o.order a a = .eq) ∧ (∀ a b, o.order b a = (o.order a b).swap) ∧
        (∀ a b c, o.order a b ≠ .gt → o.order b c ≠ .gt → o.order a c ≠ .gt) ∧
          ∀ a b c, o.order a b = .eq → o.order b c = .eq → o.order a c = .eq) ∧
      ∀ (changes : List Change) (q : ListQuery),
        ((after changes).list q).Perm ((after changes).filters.entries.filter q.admits) ∧
          ((after changes).list q).Pairwise fun f g =>
            q.order.order f g = .lt ∨ q.order.order f g = .eq ∧ Earlier changes f.id g.id := by
  constructor
  · intro o
    exact ⟨fun _ => ReflCmp.compare_self, fun _ _ => OrientedCmp.eq_swap,
      fun _ _ _ => TransCmp.le_trans, fun _ _ _ => TransCmp.eq_trans⟩
  · intro changes q
    refine ⟨List.mergeSort_perm _ _, ?_⟩
    have hentries : ((after changes).filters.entries.filter q.admits).Pairwise fun f g =>
        Earlier changes f.id g.id := (pairwise_entries_after changes).sublist List.filter_sublist
    have htrans : ∀ f g h, (q.order.order f g != .gt) = true → (q.order.order g h != .gt) = true →
        (q.order.order f h != .gt) = true := by
      simp only [bne_iff_ne]
      exact fun _ _ _ => TransCmp.le_trans
    have htotal : ∀ f g, ((q.order.order f g != .gt) || (q.order.order g f != .gt)) = true := by
      intro f g
      rw [@OrientedCmp.eq_swap _ q.order.order _ g f]
      cases q.order.order f g <;> rfl
    refine (pairwise_mergeSort_of_pairwise htrans htotal hentries).imp fun {f g} hfg => ?_
    obtain ⟨hle, hties⟩ := hfg
    rw [@OrientedCmp.eq_swap _ q.order.order _ g f] at hties
    cases hcmp : q.order.order f g with
    | lt => exact .inl rfl
    | eq => exact .inr ⟨rfl, hties (by rw [hcmp]; rfl)⟩
    | gt => simp [hcmp] at hle

end Repository

end Filterbook
