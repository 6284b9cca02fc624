import Mathlib.Data.List.Induction
import NdtSlam.Foundation.Scalar

/-! The largest and the smallest of finitely many scalars. -/

namespace NdtSlam.Scalar

variable {a b limit : Scalar}

section

variable (first : a.isFinite = true) (second : b.isFinite = true)
include first second

theorem maxOf_comm : maxOf a b = maxOf b a := by
  obtain ⟨a, rfl⟩ := isFinite_iff.1 first
  obtain ⟨b, rfl⟩ := isFinite_iff.1 second
  rw [maxOf_fin_fin, maxOf_fin_fin, max_comm]

theorem minOf_comm : minOf a b = minOf b a := by
  obtain ⟨a, rfl⟩ := isFinite_iff.1 first
  obtain ⟨b, rfl⟩ := isFinite_iff.1 second
  rw [minOf_fin_fin, minOf_fin_fin, min_comm]

theorem maxOf_isFinite : (maxOf a b).isFinite = true := by
  unfold maxOf
  split_ifs
  · exact second
  · exact first

theorem minOf_isFinite : (minOf a b).isFinite = true := by
  unfold minOf
  split_ifs
  · exact second
  · exact first

theorem maxOf_le_iff : maxOf a b ≤ limit ↔ a ≤ limit ∧ b ≤ limit := by
  obtain ⟨a, rfl⟩ := isFinite_iff.1 first
  obtain ⟨b, rfl⟩ := isFinite_iff.1 second
  rw [maxOf_fin_fin]
  constructor
  · intro within
    exact ⟨le_trans (fin_le_fin.2 (le_max_left a b)) within,
      le_trans (fin_le_fin.2 (le_max_right a b)) within⟩
  · rintro ⟨left, right⟩
    rcases le_total a b with less | less
    · rwa [max_eq_right less]
    · rwa [max_eq_left less]

theorem minOf_le_iff :
    minOf a b ≤ limit ↔ a ≤ limit ∨ b ≤ limit := by
  obtain ⟨a, rfl⟩ := isFinite_iff.1 first
  obtain ⟨b, rfl⟩ := isFinite_iff.1 second
  rw [minOf_fin_fin]
  constructor
  · intro within
    rcases le_total a b with less | less
    · exact .inl (by rwa [min_eq_left less] at within)
    · exact .inr (by rwa [min_eq_right less] at within)
  · rintro (left | right)
    · exact le_trans (fin_le_fin.2 (min_le_left a b)) left
    · exact le_trans (fin_le_fin.2 (min_le_right a b)) right

end

theorem sub_le_sub {c d : Scalar} (finite : b.isFinite = true) (finite' : c.isFinite = true)
    (upper : a ≤ b) (lower : c ≤ d) (low : a.isFinite = true) (high : d.isFinite = true) :
    a - d ≤ b - c := by
  obtain ⟨a, rfl⟩ := isFinite_iff.1 low
  obtain ⟨b, rfl⟩ := isFinite_iff.1 finite
  obtain ⟨c, rfl⟩ := isFinite_iff.1 finite'
  obtain ⟨d, rfl⟩ := isFinite_iff.1 high
  rw [fin_le_fin] at upper lower
  rw [fin_sub_fin, fin_sub_fin, fin_le_fin]
  linarith

variable {values : List Scalar}

theorem foldl_best {pick : Scalar → Scalar → Scalar} {start : Scalar}
    {Beats : Scalar → Scalar → Prop} (first : ∀ value, pick start (fin value) = fin value)
    (picks : ∀ a b, pick (fin a) (fin b) = fin a ∧ Beats (fin a) (fin b) ∨
      pick (fin a) (fin b) = fin b ∧ Beats (fin b) (fin a))
    (refl : ∀ value, Beats (fin value) (fin value))
    (trans : ∀ a b c, Beats a b → Beats b c → Beats a c)
    (finite : ∀ value ∈ values, value.isFinite = true) (some : values ≠ []) :
    ∃ best ∈ values, values.foldl pick start = best ∧ ∀ value ∈ values, Beats best value := by
  -- The list is taken from its end, where the fold takes its last step.
  induction values using List.reverseRecOn with
  | nil => exact absurd rfl some
  | append_singleton rest last ih =>
    obtain ⟨lastValue, rfl⟩ := isFinite_iff.1 (finite last (by simp))
    rw [List.foldl_append, List.foldl_cons, List.foldl_nil]
    rcases eq_or_ne rest [] with rfl | more
    · refine ⟨fin lastValue, by simp, first lastValue, fun value inside => ?_⟩
      obtain rfl := List.mem_singleton.mp inside
      exact refl lastValue
    · obtain ⟨best, member, equal, beats⟩ :=
        ih (fun value inside => finite value (by simp [inside])) more
      obtain ⟨bestValue, rfl⟩ := isFinite_iff.1 (finite best (by simp [member]))
      rw [equal]
      rcases picks bestValue lastValue with ⟨kept, better⟩ | ⟨taken, better⟩
      · refine ⟨fin bestValue, by simp [member], kept, fun value inside => ?_⟩
        rcases List.mem_append.mp inside with before | now
        · exact beats value before
        · exact List.mem_singleton.mp now ▸ better
      · refine ⟨fin lastValue, by simp, taken, fun value inside => ?_⟩
        rcases List.mem_append.mp inside with before | now
        · exact trans _ _ _ better (beats value before)
        · exact List.mem_singleton.mp now ▸ refl lastValue

theorem foldl_maxOf (finite : ∀ value ∈ values, value.isFinite = true) (some : values ≠ []) :
    ∃ most ∈ values, values.foldl maxOf .negInf = most ∧ ∀ value ∈ values, value ≤ most := by
  refine foldl_best (fun _ => rfl) (fun a b => ?_) (fun _ => le_refl_of_finite rfl)
    (fun _ _ _ above above' => le_trans above' above) finite some
  rw [maxOf_fin_fin]
  rcases le_total a b with less | less
  · exact .inr ⟨by rw [max_eq_right less], fin_le_fin.2 less⟩
  · exact .inl ⟨by rw [max_eq_left less], fin_le_fin.2 less⟩

theorem foldl_minOf (finite : ∀ value ∈ values, value.isFinite = true) (some : values ≠ []) :
    ∃ least ∈ values, values.foldl minOf .posInf = least ∧ ∀ value ∈ values, least ≤ value := by
  refine foldl_best (fun _ => rfl) (fun a b => ?_) (fun _ => le_refl_of_finite rfl)
    (fun _ _ _ below below' => le_trans below below') finite some
  rw [minOf_fin_fin]
  rcases le_total a b with less | less
  · exact .inl ⟨by rw [min_eq_left less], fin_le_fin.2 less⟩
  · exact .inr ⟨by rw [min_eq_right less], fin_le_fin.2 less⟩

end NdtSlam.Scalar
