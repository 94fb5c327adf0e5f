import Filterbook.ListingOrder
import Mathlib.Order.Compare

/-!
# The comparison of saved filters

Every listing order compares saved filters like the entries of a total preorder: a filter compares equal
to itself, two filters compare the other way round when they are exchanged, and "not greater" is
transitive. The library says so in one class, `Std.TransCmp`; this module puts the parts of the comparison
together in the same order as the comparison itself, from the parts of a date up to a list of attributes.
Nothing is asked of the folding of case but that it is a function of the name.

The one part that the library does not know is `orderOptional`, the comparison of values that may be
missing. Whether missing values come first or last, in either direction, makes no difference to the laws,
as long as a missing value and one that is there never compare equal.
-/

namespace Filterbook

open Std

section

variable {α β : Type}

/-- Things compare lawfully by what a function makes of them. -/
theorem transCmp_by (f : α → β) {cmp : β → β → Ordering} [TransCmp cmp] :
    TransCmp fun a b : α => cmp (f a) (f b) where
  eq_swap := OrientedCmp.eq_swap
  isLE_trans := TransCmp.isLE_trans

/-- The order of two values that may be missing, given the order of a missing value and one that is
there. -/
def orderOptional (missing : Ordering) (cmp : β → β → Ordering) : Option β → Option β → Ordering
  | some a, some b => cmp a b
  | none, none => .eq
  | none, some _ => missing
  | some _, none => missing.swap

theorem transCmp_orderOptional {missing : Ordering} (h : missing ≠ .eq) (cmp : β → β → Ordering)
    [TransCmp cmp] : TransCmp (orderOptional missing cmp) where
  eq_swap {x y} := by
    cases x <;> cases y
    case some.some a b =>
      show cmp a b = (cmp b a).swap
      exact OrientedCmp.eq_swap
    all_goals simp [orderOptional]
  isLE_trans {x y z} hxy hyz := by
    cases x <;> cases y <;> cases z
    case some.some.some a b c =>
      have hab : (cmp a b).isLE = true := hxy
      show (cmp a c).isLE = true
      exact TransCmp.isLE_trans hab hyz
    -- two values around a missing one would have it both before and after them
    case none.some.none => rfl
    case some.none.some => cases missing <;> simp_all [orderOptional]
    all_goals simp_all [orderOptional]

end

/-! ### Texts, identities and times -/

theorem Text.compareChars_eq (s t : List Char) :
    compareChars s t = List.compareLex (compareOn Char.toNat) s t := by
  induction s generalizing t with
  | nil => cases t <;> rfl
  | cons a s ih =>
    cases t with
    | nil => rfl
    | cons b t => rw [compareChars, ih, List.compareLex_cons_cons, compareOn]

instance : TransCmp Text.compareText := by
  have htexts : Text.compareText =
      fun s t : String => List.compareLex (compareOn Char.toNat) s.toList t.toList :=
    funext fun s => funext fun t => Text.compareChars_eq s.toList t.toList
  rw [htexts]
  exact transCmp_by String.toList

instance : TransCmp Uuid.order := inferInstanceAs (TransCmp (compareOn Uuid.value))

namespace Calendar

instance : TransCmp Date.order :=
  inferInstanceAs (TransCmp
    (compareLex (compareOn Date.year) (compareLex (compareOn Date.month) (compareOn Date.day))))

instance : TransCmp TimeOfDay.order :=
  inferInstanceAs (TransCmp (compareLex (compareOn TimeOfDay.hour)
    (compareLex (compareOn TimeOfDay.minute)
      (compareLex (compareOn TimeOfDay.second) (compareOn TimeOfDay.nano)))))

instance : TransCmp DateTime.order := by
  have hdates : TransCmp fun a b : DateTime => a.date.order b.date := transCmp_by DateTime.date
  have htimes : TransCmp fun a b : DateTime => a.time.order b.time := transCmp_by DateTime.time
  exact inferInstanceAs (TransCmp (compareLex (fun a b : DateTime => a.date.order b.date)
    fun a b : DateTime => a.time.order b.time))

end Calendar

/-! ### Attributes -/

namespace OrderEntry

/-- A direction turns a lawful comparison into a lawful one. -/
theorem transCmp_directed {β : Type} (e : OrderEntry) (cmp : β → β → Ordering) [TransCmp cmp] :
    TransCmp fun a b => e.directed (cmp a b) := by
  unfold directed
  cases e.direction with
  | ascending => assumption
  | descending =>
    have hswap : (fun a b => (cmp a b).swap) = fun a b => cmp b a :=
      funext fun a => funext fun b => OrientedCmp.eq_swap.symm
    show TransCmp fun a b => (cmp a b).swap
    rw [hswap]
    exact TransCmp.opposite

/-- A missing value never compares equal to one that is there. -/
theorem missingOrder_ne_eq (e : OrderEntry) : e.missingOrder ≠ .eq := by
  unfold missingOrder directed
  rcases e.nulls? with _ | _ | _ <;> cases e.direction <;> simp

theorem order_of_name {e : OrderEntry} (h : e.key = .name) (a b : SavedFilter) :
    e.order a b = orderOptional e.missingOrder (fun s t => e.directed (Text.compareText s t))
      (e.comparedName? a) (e.comparedName? b) := by
  rw [order, h]
  cases e.comparedName? a <;> cases e.comparedName? b <;> rfl

instance (e : OrderEntry) : TransCmp e.order := by
  cases h : e.key with
  | name =>
    have hnames := e.transCmp_directed Text.compareText
    have hoptional := transCmp_orderOptional e.missingOrder_ne_eq
      fun s t => e.directed (Text.compareText s t)
    rw [funext fun a => funext fun b => order_of_name h a b]
    exact transCmp_by e.comparedName?
  | created =>
    have horder : e.order = fun a b => e.directed (a.created.order b.created) := by
      funext a b
      rw [order, h]
    have hcreated : TransCmp fun a b : SavedFilter => a.created.order b.created :=
      transCmp_by SavedFilter.created
    rw [horder]
    exact e.transCmp_directed _
  | id =>
    have horder : e.order = fun a b => e.directed (a.id.order b.id) := by
      funext a b
      rw [order, h]
    have hid : TransCmp fun a b : SavedFilter => a.id.order b.id := transCmp_by SavedFilter.id
    rw [horder]
    exact e.transCmp_directed _

end OrderEntry

/-! ### Lists of attributes -/

namespace ListingOrder

theorem order_cons (e : OrderEntry) (es : List OrderEntry) :
    (⟨e :: es⟩ : ListingOrder).order = compareLex e.order (⟨es⟩ : ListingOrder).order := rfl

/-- Every listing order is a total preorder. -/
instance (o : ListingOrder) : TransCmp o.order := by
  obtain ⟨entries⟩ := o
  induction entries with
  | nil => exact { eq_swap := rfl, isLE_trans := fun _ _ => rfl }
  | cons e es ih =>
    rw [order_cons]
    infer_instance

end ListingOrder

end Filterbook
