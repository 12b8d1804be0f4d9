import Mathlib.Data.List.Nodup
import Outbound.Chain.Basic

/-!
# Arrangement by a key

A chain arranges its layers by their orders. What that comes to is the same for lists of anything
that has a whole number as its key.

## Main definitions

* `arrangedBy`: a list in ascending order of a key

## Main results

* `perm_arrangedBy`, `pairwise_arrangedBy`, `filter_arrangedBy`: the same members, in ascending
  order, those of one key in their places
* `arrangedBy_eq_of_perm`: where the keys are distinct, the order of the list does not matter
* `Chain.arrange_eq`: layers are arranged by their orders
-/

namespace Outbound

variable {α β : Type} {key : α → Int} {l l' : List α}

/-- **A list in ascending order of a key;** members of one key keep their places. -/
def arrangedBy (key : α → Int) (l : List α) : List α := l.mergeSort fun a b => decide (key a ≤ key b)

theorem keyed_trans (key : α → Int) (a b c : α) (ab : decide (key a ≤ key b) = true)
    (bc : decide (key b ≤ key c) = true) : decide (key a ≤ key c) = true :=
  decide_eq_true (Int.le_trans (of_decide_eq_true ab) (of_decide_eq_true bc))

theorem keyed_total (key : α → Int) (a b : α) :
    (decide (key a ≤ key b) || decide (key b ≤ key a)) = true := by
  simpa using Int.le_total (key a) (key b)

theorem perm_arrangedBy (key : α → Int) (l : List α) : (arrangedBy key l).Perm l :=
  List.mergeSort_perm l _

theorem pairwise_arrangedBy (key : α → Int) (l : List α) :
    (arrangedBy key l).Pairwise fun a b => key a ≤ key b := by
  have sorted := List.pairwise_mergeSort (keyed_trans key) (keyed_total key) l
  exact sorted.imp of_decide_eq_true

/-- **Members of one key keep their places.** -/
theorem filter_arrangedBy (key : α → Int) (l : List α) (o : Int) :
    (arrangedBy key l).filter (fun a => key a = o) = l.filter fun a => key a = o := by
  have equal : (l.filter fun a => key a = o).Pairwise
      fun a b => decide (key a ≤ key b) = true := by
    refine List.pairwise_of_forall_mem_list ?_
    intro a ma b mb
    have ka : key a = o := of_decide_eq_true (List.mem_filter.mp ma).2
    have kb : key b = o := of_decide_eq_true (List.mem_filter.mp mb).2
    exact decide_eq_true (Int.le_of_eq (ka.trans kb.symm))
  have kept : (l.filter fun a => key a = o).Sublist (arrangedBy key l) :=
    List.sublist_mergeSort (keyed_trans key) (keyed_total key) equal List.filter_sublist
  have within := kept.filter fun a => key a = o
  simp only [List.filter_filter, Bool.and_self] at within
  refine (within.eq_of_length ?_).symm
  exact ((perm_arrangedBy key l).filter _).length_eq.symm

/-- **Where the keys are distinct,** the order of the list does not matter. -/
theorem arrangedBy_eq_of_perm (perm : l.Perm l') (distinct : (l.map key).Nodup) :
    arrangedBy key l = arrangedBy key l' := by
  have same : (arrangedBy key l).Perm (arrangedBy key l') :=
    (perm_arrangedBy key l).trans (perm.trans (perm_arrangedBy key l').symm)
  refine List.Perm.eq_of_pairwise ?_ (pairwise_arrangedBy key l) (pairwise_arrangedBy key l') same
  intro a b ma mb ab ba
  have la : a ∈ l := (perm_arrangedBy key l).mem_iff.mp ma
  have lb : b ∈ l := perm.mem_iff.mpr ((perm_arrangedBy key l').mem_iff.mp mb)
  exact List.inj_on_of_nodup_map distinct la lb (Int.le_antisymm ab ba)

theorem map_arrangedBy {key' : β → Int} (f : α → β) (same : ∀ a, key' (f a) = key a) (l : List α) :
    arrangedBy key' (l.map f) = (arrangedBy key l).map f :=
  (List.map_mergeSort fun a _ b _ => by simp only [same]).symm

/-- **Layers are arranged by their orders.** -/
theorem Chain.arrange_eq (layers : List Layer) : arrange layers = arrangedBy Layer.order layers := rfl

end Outbound
