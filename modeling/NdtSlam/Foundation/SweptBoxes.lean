import Mathlib.Algebra.Order.Floor.Ring
import Mathlib.Tactic.Linarith
import Mathlib.Tactic.Positivity
import Mathlib.Tactic.FieldSimp
import Mathlib.Tactic.Ring

/-! A box that moves along a line, and the larger boxes at some stations of its way. -/

namespace NdtSlam

variable {K Axis : Type} [Field K] [LinearOrder K] [IsStrictOrderedRing K] [FloorRing K]

def CoveredByStations (half stride : Axis → K) (slack : K) (count : Nat) : Prop :=
  ∀ (away : Axis → K) (time : K), (∀ axis, |away axis| ≤ half axis) → 0 ≤ time → time ≤ count →
    ∃ station ≤ count, ∀ axis, |away axis + (time - station) * stride axis| ≤ half axis + slack

/-- One stride is no longer than a larger box, and no two strides leave a corner out. -/
structure ShortStrides (half stride : Axis → K) (slack : K) : Prop where
  alone : ∀ axis, |stride axis| ≤ 2 * half axis + 2 * slack
  together : ∀ first second, first ≠ second →
    |stride first| * |stride second| ≤ slack * (|stride first| + |stride second|)

variable {half stride : Axis → K} {slack : K} {count : Nat}

theorem ShortStrides.covered (short : ShortStrides half stride slack) (positive : 0 < slack) :
    CoveredByStations half stride slack count := by
  intro away time inside low high
  -- Between two stations, a point that both leave out is beyond one side of each.
  rcases high.lt_or_eq with before | rfl
  · obtain ⟨station, floor⟩ := Int.eq_ofNat_of_zero_le (Int.floor_nonneg.mpr low)
    have lower := Int.floor_le time
    have upper := Int.lt_floor_add_one time
    rw [floor] at lower upper
    simp only [Int.cast_natCast] at lower upper
    have next : station + 1 ≤ count := by exact_mod_cast lower.trans_lt before
    by_contra none
    push Not at none
    obtain ⟨first, out⟩ := none station (by omega)
    obtain ⟨second, out'⟩ := none (station + 1) next
    push_cast at out'
    have reached : 0 ≤ time - station := sub_nonneg.mpr lower
    have rest : 0 < 1 - (time - station) := by linarith
    rw [show time - (station + 1) = -(1 - (time - station)) by ring] at out'
    generalize time - station = part at *
    have far : slack < part * |stride first| := by
      have := abs_add_le (away first) (part * stride first)
      rw [abs_mul, abs_of_nonneg reached] at this
      linarith [inside first]
    have far' : slack < (1 - part) * |stride second| := by
      have := abs_add_le (away second) (-(1 - part) * stride second)
      rw [abs_mul, abs_neg, abs_of_pos rest] at this
      linarith [inside second]
    by_cases same : first = second
    · subst same
      have alone := short.alone first
      obtain ⟨low, high⟩ := abs_le.mp (inside first)
      rcases lt_abs.mp out with above | below
      · rcases lt_abs.mp out' with above' | below'
        · nlinarith
        · linarith [le_abs_self (stride first)]
      · rcases lt_abs.mp out' with above' | below'
        · linarith [neg_abs_le (stride first)]
        · nlinarith
    · have together := short.together first second same
      have first_ : 0 < |stride first| := pos_of_mul_pos_right (positive.trans far) reached
      have second_ : 0 < |stride second| := pos_of_mul_pos_right (positive.trans far') rest.le
      nlinarith [mul_lt_mul_of_pos_right far second_, mul_lt_mul_of_pos_right far' first_]
  · refine ⟨count, le_rfl, fun axis => ?_⟩
    rw [sub_self, zero_mul, add_zero]
    linarith [inside axis]

omit [FloorRing K] in
theorem exists_end {side move : K} (thick : 0 ≤ side) :
    ∃ at_, |at_| ≤ side ∧ ∀ time, 0 ≤ time → |at_ + time * move| = side + time * |move| := by
  rcases le_total 0 move with up | down
  · refine ⟨side, (abs_of_nonneg thick).le, fun time later => ?_⟩
    rw [abs_of_nonneg up, abs_of_nonneg (add_nonneg thick (mul_nonneg later up))]
  · refine ⟨-side, (abs_neg side).trans_le (abs_of_nonneg thick).le, fun time later => ?_⟩
    have past : time * move ≤ 0 := mul_nonpos_of_nonneg_of_nonpos later down
    rw [abs_of_nonpos down, abs_of_nonpos (by linarith)]
    ring

theorem CoveredByStations.short (covered : CoveredByStations half stride slack count)
    (thick : ∀ axis, 0 ≤ half axis) (positive : 0 < slack) (moves : 0 < count) :
    ShortStrides half stride slack where
  alone axis := by
    -- Half a stride leaves the center out.
    by_contra long
    rw [not_le] at long
    have early : (1 / 2 : K) ≤ count := by
      have : (1 : K) ≤ count := by exact_mod_cast moves
      linarith
    obtain ⟨station, -, close⟩ := covered 0 (1 / 2) (fun axis => by simpa using thick axis)
      (by norm_num) early
    have away : (1 / 2 : K) ≤ |1 / 2 - (station : K)| := by
      rcases station.eq_zero_or_pos with rfl | later
      · norm_num
      · have : (1 : K) ≤ station := by exact_mod_cast later
        rw [abs_of_nonpos (by linarith)]
        linarith
    have inside := close axis
    rw [Pi.zero_apply, zero_add, abs_mul] at inside
    nlinarith [abs_nonneg (stride axis)]
  together first second other := by
    -- The corner ahead on one side and behind on the other is left out between two stations.
    classical
    by_contra long
    rw [not_le] at long
    obtain ⟨ahead, at_, ends⟩ := @exists_end K _ _ _ (half first) (stride first) (thick first)
    obtain ⟨behind, at', ends'⟩ := @exists_end K _ _ _ (half second) (stride second) (thick second)
    have first_ := abs_nonneg (stride first)
    have second_ := abs_nonneg (stride second)
    have sum : 0 < |stride first| + |stride second| := by
      rcases (add_nonneg first_ second_).lt_or_eq with some | none
      · exact some
      · nlinarith
    have part : |stride second| / (|stride first| + |stride second|) ≤ 1 :=
      (div_le_one sum).mpr (by linarith)
    have part' : 0 ≤ |stride second| / (|stride first| + |stride second|) :=
      div_nonneg second_ sum.le
    have far : slack <
        |stride second| / (|stride first| + |stride second|) * |stride first| := by
      rw [div_mul_eq_mul_div, lt_div_iff₀ sum, mul_comm |stride second|]
      exact long
    have far' : slack <
        (1 - |stride second| / (|stride first| + |stride second|)) * |stride second| := by
      rw [one_sub_div sum.ne', add_sub_cancel_right, div_mul_eq_mul_div, lt_div_iff₀ sum]
      exact long
    generalize |stride second| / (|stride first| + |stride second|) = time at *
    have one : (1 : K) ≤ count := by exact_mod_cast moves
    obtain ⟨station, -, close⟩ := covered
      (fun axis => if axis = first then ahead else if axis = second then -behind else 0) time
      (fun axis => by
        split_ifs with is is'
        · rwa [is]
        · rwa [is', abs_neg]
        · rw [abs_zero]
          exact thick axis) part' (part.trans one)
    rcases station.eq_zero_or_pos with rfl | later
    · have inside := close first
      rw [if_pos rfl, Nat.cast_zero, sub_zero, ends time part'] at inside
      linarith
    · have inside := close second
      have late : (1 : K) ≤ station := by exact_mod_cast later
      rw [if_neg other.symm, if_pos rfl, ← abs_neg, show -(-behind + (time - station) *
        stride second) = behind + (station - time) * stride second by ring,
        ends' _ (by linarith)] at inside
      nlinarith

end NdtSlam
