import Mathlib.Algebra.Order.Floor.Semiring
import Mathlib.Data.List.GetD
import Mathlib.Data.List.Sort
import Mathlib.Data.List.SplitBy
import Mathlib.Tactic.Linarith

/-! Ascending values: their chains of small gaps, and the quantiles between their places. -/

namespace NdtSlam

variable {K : Type} [Field K] [LinearOrder K]

def gapChains (gap : K) (values : List K) : List (List K) :=
  values.splitBy fun below above => !decide (gap < above - below)

structure MaximalChains (gap : K) (values : List K) (chains : List (List K)) : Prop where
  whole : chains.flatten.Perm values
  ordered : chains.flatten.Pairwise (· ≤ ·)
  nonempty : [] ∉ chains
  linked : ∀ chain ∈ chains, chain.IsChain fun below above => above - below ≤ gap
  apart : chains.IsChain fun lower upper =>
    ∃ some some', gap < upper.head some' - lower.getLast some

def Below (lower upper : List K) : Prop := upper ≠ [] ∧ ∀ a ∈ lower, ∀ b ∈ upper, a < b

def interpolate [FloorSemiring K] (entry : ℕ → K) (position : K) : K :=
  entry ⌊position⌋₊ * (1 - (position - ⌊position⌋₊)) +
    entry ⌈position⌉₊ * (position - ⌊position⌋₊)

def quantileOfSorted [FloorSemiring K] (sorted : List K) (q : K) : K :=
  if sorted.isEmpty then 0
  else interpolate (sorted.getD · 0) (max 0 (min q 1) * (sorted.length - 1 : ℕ))

variable [IsStrictOrderedRing K] {gap : K} {values : List K} {chains : List (List K)}

omit [IsStrictOrderedRing K] in
theorem gapChains_maximal (gap : K) (ordered : values.Pairwise (· ≤ ·)) :
    MaximalChains gap values (gapChains gap values) := by
  obtain ⟨whole, nonempty, linked, apart⟩ := (List.splitBy_eq_iff (m := values)).mp rfl
  unfold gapChains
  exact ⟨.of_eq whole.symm, whole ▸ ordered, nonempty, fun chain member =>
    (linked chain member).imp (by simp), apart.imp (by simp)⟩

theorem MaximalChains.below (maximal : MaximalChains gap values chains) (nonnegative : 0 ≤ gap) :
    chains.Pairwise Below := by
  have trans : IsTrans (List K) Below := ⟨fun lower middle upper first second => by
    obtain ⟨between, member⟩ := List.exists_mem_of_ne_nil middle first.1
    exact ⟨second.1, fun a low c high =>
      (first.2 a low between member).trans (second.2 between member c high)⟩⟩
  have sorted := (List.pairwise_flatten.mp maximal.ordered).1
  rw [← List.isChain_iff_pairwise]
  -- What ends a chain bounds it from above, and what begins the next one from below.
  refine maximal.apart.imp_of_mem_imp fun lower upper inside inside' => ?_
  rintro ⟨some, some', wide⟩
  refine ⟨some', fun a low b high => ?_⟩
  have last : a ≤ lower.getLast some := (sorted lower inside).rel_getLast low
  have first : upper.head some' ≤ b := (sorted upper inside').rel_head high
  linarith

omit [Field K] [IsStrictOrderedRing K] in
theorem Below.ne {lower upper : List K} (below : Below lower upper) : lower ≠ upper := by
  rintro rfl
  obtain ⟨value, member⟩ := List.exists_mem_of_ne_nil lower below.1
  exact lt_irrefl value (below.2 value member value member)

omit [LinearOrder K] [IsStrictOrderedRing K] in
theorem ends_mem {chain : List K} (some : chain ≠ []) :
    chain.headD 0 ∈ chain ∧ chain.getLastD 0 ∈ chain := by
  cases chain with
  | nil => exact absurd rfl some
  | cons first rest => exact ⟨List.mem_cons_self, List.getLast_mem (List.cons_ne_nil first rest)⟩

omit [IsStrictOrderedRing K] in
theorem Below.pairwise_of_heads {kept : List (List K)} (below : chains.Pairwise Below)
    (nonempty : [] ∉ chains) (among : kept.Subperm chains)
    (heads : kept.Pairwise fun lower upper => lower.headD 0 ≤ upper.headD 0) :
    kept.Pairwise Below := by
  have distinct : kept.Nodup := by
    obtain ⟨same, perm, sublist⟩ := among
    exact perm.nodup_iff.mp ((below.imp Below.ne).sublist sublist)
  have symmetric : Std.Symm fun first second : List K =>
      Below first second ∨ Below second first := ⟨fun _ _ => Or.symm⟩
  have some : ∀ chain ∈ kept, chain ≠ [] := fun chain member gone =>
    nonempty (gone ▸ among.subset member)
  refine (heads.and distinct).imp_of_mem fun {lower upper} inside inside' => ?_
  rintro ⟨less, differ⟩
  have apart : chains.Pairwise fun first second => Below first second ∨ Below second first :=
    below.imp Or.inl
  rcases apart.forall (among.subset inside) (among.subset inside') differ with first | second
  · exact first
  · exact absurd (second.2 _ (ends_mem (some upper inside')).1 _ (ends_mem (some lower inside)).1)
      (not_lt.mpr less)

section Places

variable [FloorSemiring K] (entry : ℕ → K) {position other : K}

theorem interpolate_between (start : 0 ≤ position)
    (ascends : entry ⌊position⌋₊ ≤ entry ⌈position⌉₊) :
    entry ⌊position⌋₊ ≤ interpolate entry position ∧
      interpolate entry position ≤ entry ⌈position⌉₊ := by
  have low := Nat.floor_le start
  have high := (Nat.lt_floor_add_one position).le
  unfold interpolate
  constructor <;> nlinarith

theorem interpolate_mono (start : 0 ≤ position) (later : position ≤ other)
    (ascends : ∀ i j, i ≤ j → j ≤ ⌈other⌉₊ → entry i ≤ entry j) :
    interpolate entry position ≤ interpolate entry other := by
  have start' := start.trans later
  have ceil : ⌈position⌉₊ ≤ ⌈other⌉₊ := Nat.ceil_mono later
  have between := interpolate_between entry start (ascends _ _ (Nat.floor_le_ceil position) ceil)
  have between' := interpolate_between entry start' (ascends _ _ (Nat.floor_le_ceil other) le_rfl)
  have next : ⌈position⌉₊ ≤ ⌊position⌋₊ + 1 := Nat.ceil_le_floor_add_one position
  rcases (Nat.floor_mono later).lt_or_eq with less | same
  · -- A whole place lies between the two.
    exact between.2.trans ((ascends _ _ (by omega) (Nat.floor_le_ceil other)).trans between'.1)
  · rcases (Nat.floor_le_ceil position).eq_or_lt with whole | broken
    · exact between.2.trans (by rw [← whole, same]; exact between'.1)
    · -- Both places lie between the same two entries.
      have ends : ⌈other⌉₊ = ⌈position⌉₊ := by
        have := Nat.ceil_le_floor_add_one other
        omega
      have rises := ascends _ _ broken.le ceil
      unfold interpolate
      rw [ends, ← same]
      nlinarith

variable {sorted : List K}

theorem quantileOfSorted_bounds (some : sorted ≠ []) (ordered : sorted.Pairwise (· ≤ ·))
    (q q' : K) (later : q ≤ q') : sorted.headD 0 ≤ quantileOfSorted sorted q ∧
      quantileOfSorted sorted q ≤ quantileOfSorted sorted q' ∧
      quantileOfSorted sorted q' ≤ sorted.getLastD 0 := by
  have long : 0 < sorted.length := List.length_pos_iff.mpr some
  have ascends : ∀ i j, i ≤ j → j ≤ sorted.length - 1 → sorted.getD i 0 ≤ sorted.getD j 0 := by
    intro i j less within
    rcases less.eq_or_lt with rfl | less
    · exact le_rfl
    · rw [List.getD_eq_getElem _ _ (by omega), List.getD_eq_getElem _ _ (by omega)]
      exact List.pairwise_iff_getElem.mp ordered i j _ _ less
  have place : ∀ fraction : K, 0 ≤ max 0 (min fraction 1) * (sorted.length - 1 : ℕ) ∧
      ⌈max 0 (min fraction 1) * (sorted.length - 1 : ℕ)⌉₊ ≤ sorted.length - 1 := fun fraction =>
    ⟨mul_nonneg (le_max_left _ _) (Nat.cast_nonneg _), Nat.ceil_le.mpr
      (mul_le_of_le_one_left (Nat.cast_nonneg _) (max_le zero_le_one (min_le_right _ _)))⟩
  have known : sorted.isEmpty = false := by simpa using some
  unfold quantileOfSorted
  rw [known]
  simp only [Bool.false_eq_true, if_false]
  have low := interpolate_between (sorted.getD · 0) (place q).1
    (ascends _ _ (Nat.floor_le_ceil _) (place q).2)
  have high := interpolate_between (sorted.getD · 0) (place q').1
    (ascends _ _ (Nat.floor_le_ceil _) (place q').2)
  refine ⟨?_, ?_, ?_⟩
  · have first : sorted.headD 0 = sorted.getD 0 0 := by cases sorted <;> rfl
    rw [first]
    exact (ascends 0 _ (Nat.zero_le _) ((Nat.floor_le_ceil _).trans (place q).2)).trans low.1
  · exact interpolate_mono (sorted.getD · 0) (place q).1
      (mul_le_mul_of_nonneg_right (max_le_max le_rfl (min_le_min later le_rfl))
        (Nat.cast_nonneg _)) fun i j less within => ascends i j less (within.trans (place q').2)
  · have last : sorted.getLastD 0 = sorted.getD (sorted.length - 1) 0 := by
      rw [List.getLastD_eq_getLast?, List.getLast?_eq_getElem?, List.getD_eq_getElem?_getD]
    rw [last]
    exact high.2.trans (ascends _ _ (place q').2 le_rfl)

end Places

end NdtSlam
