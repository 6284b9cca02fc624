import Mathlib.Data.List.Destutter
import Mathlib.Data.List.Sort

/-! Sorting by a comparison that follows a key on the items at hand, and sorting as a set. -/

namespace NdtSlam

section Keys

variable {Item Key : Type} [LinearOrder Key] {key : Item → Key} {before : Item → Item → Prop}
  {items : List Item}

def Follows (before : Item → Item → Prop) (key : Item → Key) (items : List Item) : Prop :=
  ∀ first ∈ items, ∀ second ∈ items, before first second ↔ key first ≤ key second

theorem Follows.of_subset {others : List Item} (follows : Follows before key items)
    (among : ∀ item ∈ others, item ∈ items) : Follows before key others :=
  fun first inside second inside' =>
    follows first (among first inside) second (among second inside')

variable [DecidableRel before]

theorem Follows.sort_eq (follows : Follows before key items) :
    items.insertionSort before
      = items.insertionSort (fun first second => key first ≤ key second) := by
  have same := @List.map_insertionSort Item Item before
    (fun first second => key first ≤ key second) _ _ id items follows
  simpa using same

theorem Follows.pairwise (follows : Follows before key items) :
    (items.insertionSort before).Pairwise fun first second => key first ≤ key second := by
  have total : Std.Total fun first second : Item => key first ≤ key second :=
    ⟨fun first second => le_total (key first) (key second)⟩
  have trans : IsTrans Item fun first second => key first ≤ key second :=
    ⟨fun _ _ _ low high => low.trans high⟩
  rw [follows.sort_eq]
  exact List.pairwise_insertionSort _ items

theorem Follows.sort_perm {others : List Item} (follows : Follows before key items)
    (distinct : ∀ first ∈ items, ∀ second ∈ items, key first = key second → first = second)
    (perm : items.Perm others) : items.insertionSort before = others.insertionSort before := by
  have follows' : Follows before key others := follows.of_subset fun item => perm.mem_iff.mpr
  have sorted : (items.insertionSort before).Perm (others.insertionSort before) :=
    (List.perm_insertionSort _ items).trans (perm.trans (List.perm_insertionSort _ others).symm)
  refine List.Perm.eq_of_pairwise (fun first second inside inside' low high => ?_)
    follows.pairwise follows'.pairwise sorted
  rw [List.mem_insertionSort] at inside inside'
  exact distinct first inside second (perm.mem_iff.mpr inside') (le_antisymm low high)

end Keys

section Sets

variable {Item : Type} [LinearOrder Item] {items others : List Item} {item : Item}

def ascending (items : List Item) : List Item :=
  (items.insertionSort (· ≤ ·)).destutter (· ≠ ·)

theorem mem_destutter' {first : Item} :
    item ∈ items.destutter' (· ≠ ·) first ↔ item = first ∨ item ∈ items := by
  -- The first item of each row of equal ones remains.
  induction items generalizing first with
  | nil => simp
  | cons head rest ih =>
    by_cases differs : first ≠ head
    · rw [List.destutter'_cons_pos _ differs, List.mem_cons, ih, List.mem_cons]
    · rw [List.destutter'_cons_neg _ differs, ih, List.mem_cons]
      rw [not_not] at differs
      subst differs
      tauto

theorem mem_ascending : item ∈ ascending items ↔ item ∈ items := by
  refine Iff.trans ?_ (List.mem_insertionSort (· ≤ ·))
  unfold ascending
  -- Sorting keeps the members, and so does dropping repetitions.
  cases items.insertionSort (· ≤ ·) with
  | nil => simp
  | cons head rest => rw [List.destutter_cons', mem_destutter', List.mem_cons]

theorem ascending_pairwise : (ascending items).Pairwise (· < ·) := by
  -- The list is sorted, and no two items in a row are equal.
  have sorted : (ascending items).Pairwise (· ≤ ·) :=
    (List.pairwise_insertionSort (· ≤ ·) items).sublist (List.destutter_sublist _ _)
  have apart : (ascending items).IsChain (· ≠ ·) := List.isChain_destutter _ _
  rw [← List.isChain_iff_pairwise]
  rw [List.isChain_iff_getElem] at apart ⊢
  rw [List.pairwise_iff_getElem] at sorted
  intro index within
  exact lt_of_le_of_ne (sorted index (index + 1) _ _ (Nat.lt_succ_self index))
    (apart index within)

theorem ascending_congr (same : ∀ item, item ∈ items ↔ item ∈ others) :
    ascending items = ascending others := by
  have perm : (ascending items).Perm (ascending others) := by
    rw [List.perm_ext_iff_of_nodup (ascending_pairwise.imp ne_of_lt)
      (ascending_pairwise.imp ne_of_lt)]
    intro item
    rw [mem_ascending, mem_ascending]
    exact same item
  exact perm.eq_of_pairwise (fun _ _ _ _ low high => absurd high (lt_asymm low))
    ascending_pairwise ascending_pairwise

end Sets

end NdtSlam
