import Mathlib.Data.List.Chain
import Mathlib.Data.List.TakeDrop

/-! Windows that keep the newest entries of a stream, oldest first. -/

namespace NdtSlam

variable {Item Entry : Type}

def pushBounded (limit : Nat) (window : List Entry) (entry : Entry) : List Entry :=
  (window ++ [entry]).drop ((window ++ [entry]).length - limit)

def replaceNewest (window : List Entry) (newest : Entry) : List Entry :=
  window.dropLast ++ [newest]

def Mirrors (read : Item → Entry) (window : List Entry) (items : List Item) : Prop :=
  window = ((items.take window.length).map read).reverse

theorem pushBounded_length_le (limit : Nat) (window : List Entry) (entry : Entry) :
    (pushBounded limit window entry).length ≤ limit := by
  simp only [pushBounded, List.length_drop]
  omega

theorem pushBounded_length_le_succ (limit : Nat) (window : List Entry) (entry : Entry) :
    (pushBounded limit window entry).length ≤ window.length + 1 := by
  simp only [pushBounded, List.length_drop, List.length_append, List.length_singleton]
  omega

theorem replaceNewest_pushBounded {limit : Nat} (positive : 0 < limit) (window : List Entry)
    (entry newest : Entry) :
    replaceNewest (pushBounded limit window entry) newest = pushBounded limit window newest := by
  -- The newest entry is never among those that are dropped.
  have kept : (window ++ [entry]).length - limit ≤ window.length := by
    simp only [List.length_append, List.length_singleton]
    omega
  have same : (window ++ [newest]).length - limit = (window ++ [entry]).length - limit := by simp
  unfold replaceNewest pushBounded
  rw [same, List.drop_append_of_le_length kept, List.drop_append_of_le_length kept,
    List.dropLast_concat]

namespace Mirrors

variable {read : Item → Entry} {window : List Entry} {items : List Item}

theorem empty (read : Item → Entry) (items : List Item) : Mirrors read [] items := by
  simp [Mirrors]

theorem single (item : Item) : Mirrors read [read item] (item :: items) := by
  simp [Mirrors]

theorem push (mirrors : Mirrors read window items) (limit : Nat) (item : Item) :
    Mirrors read (pushBounded limit window (read item)) (item :: items) := by
  -- The window with the new entry, before anything is dropped, mirrors one item more.
  have whole : window ++ [read item] =
      (((item :: items).take (window.length + 1)).map read).reverse := by
    rw [List.take_succ_cons, List.map_cons, List.reverse_cons, ← mirrors]
  have long : (((item :: items).take (window.length + 1)).map read).length
      = (window ++ [read item]).length := by
    rw [whole, List.length_reverse]
  unfold Mirrors pushBounded
  generalize (window ++ [read item]).length - limit = dropped
  rw [List.length_drop, whole, List.drop_reverse, List.length_reverse, long, ← List.map_take,
    List.take_take, Nat.min_eq_left]
  simp only [List.length_append, List.length_singleton]
  omega

theorem countP (mirrors : Mirrors read window items) (counts : Entry → Bool) :
    window.countP counts = (items.take window.length).countP (counts ∘ read) := by
  calc window.countP counts
      = ((items.take window.length).map read).reverse.countP counts := by rw [← mirrors]
    _ = (items.take window.length).countP (counts ∘ read) := by
      rw [List.countP_reverse, List.countP_map]

end Mirrors

theorem isChain_filter_take_cons {selects : Item → Bool} {follows : Item → Item → Prop}
    {items : List Item} {held kept : Nat} {item : Item}
    (chain : ((items.take held).filter selects).IsChain follows)
    (continues : selects item = true →
      ∀ newest ∈ ((items.take held).filter selects).head?, follows item newest)
    (bounded : kept ≤ held + 1) :
    (((item :: items).take kept).filter selects).IsChain follows := by
  cases kept with
  | zero => simp
  | succ kept =>
    -- The older items that stay are the newest ones of those that were held.
    have shorter : (items.take kept).filter selects <+: (items.take held).filter selects :=
      (List.take_prefix_take_left (by omega)).filter selects
    have older : ((items.take kept).filter selects).IsChain follows := by
      rw [List.prefix_iff_eq_take.mp shorter]
      exact chain.take _
    rw [List.take_succ_cons]
    by_cases selected : selects item = true
    · rw [List.filter_cons_of_pos selected]
      refine older.cons ?_
      intro newest first
      refine continues selected newest ?_
      -- Both lists start with the same item, unless the shorter one is empty.
      obtain ⟨rest, whole⟩ := shorter
      rw [← whole]
      cases filtered : (items.take kept).filter selects with
      | nil =>
        rw [filtered] at first
        cases first
      | cons head tail =>
        rw [filtered] at first
        exact first
    · rw [List.filter_cons_of_neg selected]
      exact older

end NdtSlam
