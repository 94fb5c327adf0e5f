/-!
# Rosters

A collection of entries told apart by a key, in the order in which their keys first came. Putting in
an entry with a key already there replaces the old entry in its place.
-/

namespace Filterbook

variable {α κ : Type} [DecidableEq κ]

/-- An entry put into a list: in place of the one with its key, or at the end. -/
def placeEntry (key : α → κ) (a : α) : List α → List α
  | [] => [a]
  | b :: bs => if key b = key a then a :: bs else b :: placeEntry key a bs

/-- The keys of a list keep their order, and a new one comes last. -/
theorem map_key_placeEntry (key : α → κ) (a : α) (entries : List α) :
    (placeEntry key a entries).map key =
      if key a ∈ entries.map key then entries.map key else entries.map key ++ [key a] := by
  induction entries with
  | nil => simp [placeEntry]
  | cons b bs ih =>
    by_cases h : key b = key a
    · simp [placeEntry, h]
    · have h' : ¬ key a = key b := fun e => h e.symm
      simp only [placeEntry, h, if_false, List.map_cons, ih, List.mem_cons, h', false_or]
      split <;> simp_all

/-- Placing an entry keeps the keys distinct. -/
theorem nodup_placeEntry (key : α → κ) (a : α) {entries : List α} (h : (entries.map key).Nodup) :
    ((placeEntry key a entries).map key).Nodup := by
  rw [map_key_placeEntry]
  split
  · exact h
  · next ha =>
    rw [List.nodup_append]
    refine ⟨h, by simp, ?_⟩
    intro x hx y hy e
    simp only [List.mem_singleton] at hy
    exact ha (by rw [← hy, ← e]; exact hx)

/-- Entries with distinct keys, in order. -/
structure Roster (α : Type) (key : α → κ) where
  /-- The entries. -/
  entries : List α
  /-- No two entries share a key. -/
  nodup : (entries.map key).Nodup

namespace Roster

variable {key : α → κ}

/-- No entries. -/
def empty : Roster α key := ⟨[], by simp⟩

instance : Inhabited (Roster α key) := ⟨empty⟩

/-- The entry with a key. -/
def get? (r : Roster α key) (k : κ) : Option α := r.entries.find? fun a => key a = k

/-- There is an entry with this key. -/
def contains (r : Roster α key) (k : κ) : Bool := (r.get? k).isSome

/-- The keys in order. -/
def keys (r : Roster α key) : List κ := r.entries.map key

/-- The roster with an entry put in. -/
def insert (r : Roster α key) (a : α) : Roster α key :=
  ⟨placeEntry key a r.entries, nodup_placeEntry key a r.nodup⟩

/-- The roster without the entry of a key. -/
def erase (r : Roster α key) (k : κ) : Roster α key :=
  ⟨r.entries.filter fun a => key a ≠ k, r.nodup.sublist (List.filter_sublist.map key)⟩

/-- The number of entries. -/
def size (r : Roster α key) : Nat := r.entries.length

/-- Entries put in one after another. -/
def insertAll (r : Roster α key) (entries : List α) : Roster α key := entries.foldl insert r

/-- The roster of a list: of entries with one key, the last stands in the place of the first. -/
def ofList (entries : List α) : Roster α key := empty.insertAll entries

/-- The keys after an entry is put in. -/
theorem keys_insert (r : Roster α key) (a : α) :
    (r.insert a).keys = if key a ∈ r.keys then r.keys else r.keys ++ [key a] :=
  map_key_placeEntry key a r.entries

/-- An entry put in is found under its key. -/
theorem get?_insert_self (r : Roster α key) (a : α) : (r.insert a).get? (key a) = some a := by
  obtain ⟨entries, h⟩ := r
  simp only [get?, insert]
  clear h
  induction entries with
  | nil => simp [placeEntry]
  | cons b bs ih =>
    by_cases h : key b = key a
    · simp [placeEntry, h]
    · simp [placeEntry, h, ih]

/-- Putting in an entry leaves what is found under other keys. -/
theorem get?_insert_of_ne (r : Roster α key) (a : α) {k : κ} (hk : key a ≠ k) :
    (r.insert a).get? k = r.get? k := by
  obtain ⟨entries, h⟩ := r
  simp only [get?, insert]
  clear h
  induction entries with
  | nil => simp [placeEntry, hk]
  | cons b bs ih =>
    by_cases h : key b = key a
    · simp [placeEntry, h, hk]
    · simp only [placeEntry, h, if_false, List.find?_cons]
      split <;> simp_all

/-- What is found under a key has that key. -/
theorem key_of_get? {r : Roster α key} {k : κ} {a : α} (h : r.get? k = some a) : key a = k := by
  simpa using List.find?_some h

/-- What is found after an entry is put in. -/
theorem get?_insert (r : Roster α key) (a : α) (k : κ) :
    (r.insert a).get? k = if key a = k then some a else r.get? k := by
  split
  · next h => rw [← h, get?_insert_self]
  · next h => exact get?_insert_of_ne r a h

/-- What is found after an entry is taken out. -/
theorem get?_erase (r : Roster α key) (k l : κ) :
    (r.erase k).get? l = if k = l then none else r.get? l := by
  simp only [get?, erase, List.find?_filter]
  split
  · next h =>
    rw [List.find?_eq_none]
    intro a _
    simp [h]
  · next h =>
    congr 1
    funext a
    by_cases ha : key a = l
    · simp [ha, Ne.symm h]
    · simp [ha]

theorem contains_iff {r : Roster α key} {k : κ} : r.contains k = true ↔ ∃ a, r.get? k = some a :=
  Option.isSome_iff_exists

/-- An entry of a roster is what is found under its key. -/
theorem get?_of_mem {r : Roster α key} {a : α} (h : a ∈ r.entries) : r.get? (key a) = some a := by
  obtain ⟨entries, hnodup⟩ := r
  simp only [get?] at h ⊢
  induction entries with
  | nil => cases h
  | cons b bs ih =>
    rw [List.map_cons, List.nodup_cons] at hnodup
    rcases List.mem_cons.mp h with rfl | hbs
    · simp
    · have hne : key b ≠ key a := fun e => hnodup.1 (e ▸ List.mem_map_of_mem hbs)
      rw [List.find?_cons_of_neg (by simp [hne])]
      exact ih hnodup.2 hbs

theorem mem_of_get? {r : Roster α key} {k : κ} {a : α} (h : r.get? k = some a) : a ∈ r.entries :=
  List.mem_of_find?_eq_some h

theorem get?_eq_some_iff {r : Roster α key} {k : κ} {a : α} :
    r.get? k = some a ↔ a ∈ r.entries ∧ key a = k := by
  constructor
  · intro h
    exact ⟨mem_of_get? h, key_of_get? h⟩
  · rintro ⟨ha, rfl⟩
    exact get?_of_mem ha

theorem contains_iff_mem_keys {r : Roster α key} {k : κ} : r.contains k = true ↔ k ∈ r.keys := by
  rw [contains_iff, keys, List.mem_map]
  constructor
  · rintro ⟨a, ha⟩
    exact ⟨a, mem_of_get? ha, key_of_get? ha⟩
  · rintro ⟨a, ha, rfl⟩
    exact ⟨a, get?_of_mem ha⟩

/-- The entry of a key stands between others, and no other entry has its key. -/
theorem split_of_get? {r : Roster α key} {k : κ} {a : α} (h : r.get? k = some a) :
    ∃ before after, r.entries = before ++ a :: after ∧ key a = k ∧
      (∀ b ∈ before, key b ≠ k) ∧ ∀ b ∈ after, key b ≠ k := by
  have hkey := key_of_get? h
  obtain ⟨before, after, hentries⟩ := List.append_of_mem (mem_of_get? h)
  have hnodup := r.nodup
  rw [hentries, List.map_append, List.map_cons, List.nodup_append, List.nodup_cons] at hnodup
  obtain ⟨-, ⟨hafter, -⟩, hbefore⟩ := hnodup
  refine ⟨before, after, hentries, hkey, fun b hb e => ?_, fun b hb e => ?_⟩
  · exact hbefore (key b) (List.mem_map_of_mem hb) (key a) (List.mem_cons_self ..) (e.trans hkey.symm)
  · exact hafter ((e.trans hkey.symm) ▸ List.mem_map_of_mem hb)

theorem placeEntry_append {a : α} {before after : List α} (h : ∀ b ∈ before, key b ≠ key a) :
    placeEntry key a (before ++ after) = before ++ placeEntry key a after := by
  induction before with
  | nil => rfl
  | cons b bs ih =>
    rw [List.cons_append, placeEntry, if_neg (h b (List.mem_cons_self ..)),
      ih fun c hc => h c (List.mem_cons_of_mem b hc), List.cons_append]

/-- An entry with a new key comes last. -/
theorem entries_insert_of_absent {r : Roster α key} {a : α} (h : r.get? (key a) = none) :
    (r.insert a).entries = r.entries ++ [a] := by
  have hkeys : ∀ b ∈ r.entries, key b ≠ key a := by simpa [get?] using h
  have hplace : placeEntry key a (r.entries ++ []) = r.entries ++ [a] := placeEntry_append hkeys
  rwa [List.append_nil] at hplace

/-- An entry with a key already there comes in the place of the old one. -/
theorem entries_insert_of_split {r : Roster α key} {a b : α} {before after : List α}
    (h : r.entries = before ++ b :: after) (hkey : key b = key a)
    (hbefore : ∀ c ∈ before, key c ≠ key a) : (r.insert a).entries = before ++ a :: after := by
  change placeEntry key a r.entries = before ++ a :: after
  rw [h, placeEntry_append hbefore, placeEntry, if_pos hkey]

/-- Taking an entry out leaves the others as they stand. -/
theorem entries_erase_of_split {r : Roster α key} {k : κ} {a : α} {before after : List α}
    (h : r.entries = before ++ a :: after) (hkey : key a = k)
    (hbefore : ∀ b ∈ before, key b ≠ k) (hafter : ∀ b ∈ after, key b ≠ k) :
    (r.erase k).entries = before ++ after := by
  change (r.entries.filter fun a => key a ≠ k) = before ++ after
  rw [h, List.filter_append, List.filter_cons_of_neg (by simp [hkey]),
    List.filter_eq_self.mpr (by simpa using hbefore), List.filter_eq_self.mpr (by simpa using hafter)]

/-- The keys after an entry is taken out. -/
theorem keys_erase (r : Roster α key) (k : κ) : (r.erase k).keys = r.keys.filter fun l => l ≠ k := by
  rw [keys, keys, erase, List.filter_map]
  rfl

omit [DecidableEq κ] in
theorem eq_of_entries {r s : Roster α key} (h : r.entries = s.entries) : r = s := by
  cases r
  cases s
  cases h
  rfl

/-- A key that is not there is taken out without effect. -/
theorem erase_of_absent {r : Roster α key} {k : κ} (h : r.get? k = none) : r.erase k = r := by
  have hkeys : ∀ a ∈ r.entries, key a ≠ k := by simpa [get?] using h
  exact eq_of_entries (List.filter_eq_self.mpr (by simpa using hkeys))

/-- What is there is still there after an entry is put in. -/
theorem contains_insert_of_contains {r : Roster α key} {k : κ} (h : r.contains k = true) (a : α) :
    (r.insert a).contains k = true := by
  obtain ⟨b, hb⟩ := contains_iff.mp h
  rw [contains_iff, get?_insert]
  split
  · exact ⟨a, rfl⟩
  · exact ⟨b, hb⟩

/-- An entry with a new key, put in and taken out again, leaves nothing behind. -/
theorem erase_insert_of_absent {r : Roster α key} {a : α} (h : r.contains (key a) = false) :
    (r.insert a).erase (key a) = r := by
  have habsent : r.get? (key a) = none := by simpa [contains] using h
  have hkeys : ∀ b ∈ r.entries, key b ≠ key a := by simpa [get?] using habsent
  have hentries := entries_erase_of_split (entries_insert_of_absent habsent) rfl hkeys (by simp)
  rw [List.append_nil] at hentries
  exact eq_of_entries hentries

/-- Entries with new and distinct keys come last, in their order. -/
theorem entries_insertAll {entries : List α} {r : Roster α key}
    (h : ((r.entries ++ entries).map key).Nodup) :
    (r.insertAll entries).entries = r.entries ++ entries := by
  induction entries generalizing r with
  | nil => exact (List.append_nil _).symm
  | cons a entries ih =>
    have habsent : r.get? (key a) = none := by
      have hne : ∀ b ∈ r.entries, key b ≠ key a := by
        rw [List.map_append, List.nodup_append] at h
        intro b hb
        exact h.2.2 (key b) (List.mem_map_of_mem hb) (key a) (by simp)
      simpa [get?] using hne
    have hinsert := entries_insert_of_absent habsent
    have hnodup : (((r.insert a).entries ++ entries).map key).Nodup := by
      rw [hinsert]
      simpa using h
    show ((r.insert a).insertAll entries).entries = r.entries ++ a :: entries
    rw [ih hnodup, hinsert]
    simp

/-- A roster is the roster of its entries. -/
theorem ofList_entries (r : Roster α key) : ofList r.entries = r := by
  have hnodup : (((empty : Roster α key).entries ++ r.entries).map key).Nodup := r.nodup
  exact eq_of_entries (entries_insertAll hnodup)

end Roster

end Filterbook
