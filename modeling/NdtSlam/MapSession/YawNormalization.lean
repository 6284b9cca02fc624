import Mathlib.Algebra.Order.Archimedean.Basic
import NdtSlam.MapSession.YawAuthority

/-! The loops that bring the heading of a manifest into one turn, and when they come to an end. -/

namespace NdtSlam

open PersistentRegistration

/-! ### The loops -/

def loopWithin (condition : Scalar → Bool) (body : Scalar → Scalar) :
    Nat → Scalar → Option Scalar
  | 0, angle => if condition angle then none else some angle
  | rounds + 1, angle =>
    if condition angle then loopWithin condition body rounds (body angle) else some angle

def lowerWithin : Nat → Scalar → Option Scalar :=
  loopWithin (fun angle => .fin mPi < angle) fun angle => angle - .fin (2 * mPi)

def raiseWithin : Nat → Scalar → Option Scalar :=
  loopWithin (fun angle => angle ≤ .fin (-mPi)) fun angle => angle + .fin (2 * mPi)

def normalizeAngleWithin (rounds : Nat) (angle : Scalar) : Option Scalar :=
  (lowerWithin rounds angle).bind (raiseWithin rounds)

def NormalizesTo (angle normalized : Scalar) : Prop :=
  ∃ rounds, normalizeAngleWithin rounds angle = some normalized

def WithinTurn (angle : ℚ) : Prop := -mPi < angle ∧ angle ≤ mPi

def SameHeading (left right : ℚ) : Prop := ∃ turns : ℤ, left = right + 2 * mPi * turns

variable {angle other : ℚ} {rounds : Nat}

theorem mPi_pos : 0 < mPi := by norm_num [mPi]

theorem eq_of_sameHeading (left : WithinTurn angle) (right : WithinTurn other)
    (same : SameHeading angle other) : angle = other := by
  -- Less than one turn lies between them, so the number of turns is zero.
  obtain ⟨turns, rfl⟩ := same
  obtain ⟨above, below⟩ := left
  obtain ⟨otherAbove, otherBelow⟩ := right
  have positive := mPi_pos
  have less : (turns : ℚ) < 1 := by
    by_contra more
    nlinarith [not_lt.mp more]
  have greater : (-1 : ℚ) < turns := by
    by_contra fewer
    nlinarith [not_lt.mp fewer]
  have none : turns = 0 := by
    have := Int.cast_lt (R := ℚ).mp (by simpa using less : (turns : ℚ) < (1 : ℤ))
    have := Int.cast_lt (R := ℚ).mp (by simpa using greater : ((-1 : ℤ) : ℚ) < turns)
    omega
  simp [none]

theorem loopWithin_unique {condition : Scalar → Bool} {body : Scalar → Scalar} {more : Nat}
    {start left right : Scalar} (ends : loopWithin condition body rounds start = some left)
    (endsToo : loopWithin condition body more start = some right) : left = right := by
  -- Both runs take the same rounds, so neither ends before the other.
  induction rounds generalizing more start with
  | zero =>
    unfold loopWithin at ends
    split_ifs at ends with goesOn
    cases more <;> simp_all [loopWithin]
  | succ rounds ih =>
    unfold loopWithin at ends
    split_ifs at ends with goesOn
    · cases more with
      | zero => simp [loopWithin, goesOn] at endsToo
      | succ more =>
        rw [loopWithin, if_pos goesOn] at endsToo
        exact ih ends endsToo
    · cases more <;> simp_all [loopWithin]

theorem normalizesTo_unique {start left right : Scalar} (ends : NormalizesTo start left)
    (endsToo : NormalizesTo start right) : left = right := by
  obtain ⟨rounds, ends⟩ := ends
  obtain ⟨more, endsToo⟩ := endsToo
  obtain ⟨lowered, lowers, raises⟩ := Option.bind_eq_some_iff.mp ends
  obtain ⟨loweredToo, lowersToo, raisesToo⟩ := Option.bind_eq_some_iff.mp endsToo
  obtain rfl := loopWithin_unique lowers lowersToo
  exact loopWithin_unique raises raisesToo

theorem lowerWithin_fin (enough : angle ≤ mPi + 2 * mPi * rounds) :
    ∃ lowered, lowerWithin rounds (.fin angle) = some (.fin lowered) ∧
      SameHeading lowered angle ∧ lowered ≤ mPi ∧ (lowered = angle ∨ -mPi < lowered) := by
  -- Induction on the rounds: each of them takes one turn off what is still too high.
  induction rounds generalizing angle with
  | zero =>
    have low : angle ≤ mPi := by simpa using enough
    refine ⟨angle, ?_, ⟨0, by simp⟩, low, .inl rfl⟩
    simp [lowerWithin, loopWithin, low]
  | succ rounds ih =>
    by_cases high : mPi < angle
    · have less : angle - 2 * mPi ≤ mPi + 2 * mPi * rounds := by
        push_cast at enough
        linarith
      obtain ⟨lowered, ends, ⟨turns, same⟩, below, above⟩ := ih less
      refine ⟨lowered, ?_, ⟨turns - 1, ?_⟩, below, .inr ?_⟩
      · rw [← ends]
        simp [lowerWithin, loopWithin, high]
      · push_cast
        linarith
      · rcases above with rfl | above
        · linarith
        · exact above
    · refine ⟨angle, ?_, ⟨0, by simp⟩, not_lt.mp high, .inl rfl⟩
      simp [lowerWithin, loopWithin, high]

theorem raiseWithin_fin (low : angle ≤ mPi) (enough : -mPi < angle + 2 * mPi * rounds) :
    ∃ raised, raiseWithin rounds (.fin angle) = some (.fin raised) ∧
      SameHeading raised angle ∧ WithinTurn raised := by
  -- Induction on the rounds, as above: a turn more does not leave the upper half turn.
  induction rounds generalizing angle with
  | zero =>
    have high : -mPi < angle := by simpa using enough
    refine ⟨angle, ?_, ⟨0, by simp⟩, high, low⟩
    simp [raiseWithin, loopWithin, high]
  | succ rounds ih =>
    by_cases deep : angle ≤ -mPi
    · have more : -mPi < angle + 2 * mPi + 2 * mPi * rounds := by
        push_cast at enough
        linarith
      obtain ⟨raised, ends, ⟨turns, same⟩, within⟩ := ih (by linarith) more
      refine ⟨raised, ?_, ⟨turns + 1, ?_⟩, within⟩
      · rw [← ends]
        simp [raiseWithin, loopWithin, deep]
      · push_cast
        linarith
    · refine ⟨angle, ?_, ⟨0, by simp⟩, not_le.mp deep, low⟩
      simp [raiseWithin, loopWithin, not_le.mp deep]

theorem normalizesTo_fin (angle : ℚ) :
    ∃ normalized, NormalizesTo (.fin angle) (.fin normalized) ∧ SameHeading normalized angle ∧
      WithinTurn normalized := by
  -- As many rounds as the angle has turns are enough for either loop.
  have positive := mPi_pos
  obtain ⟨rounds, many⟩ := exists_nat_gt (|angle| / (2 * mPi))
  rw [div_lt_iff₀ (by linarith)] at many
  obtain ⟨lowered, ends, ⟨turns, same⟩, low, above⟩ :=
    @lowerWithin_fin angle rounds (by linarith [le_abs_self angle])
  have enough : -mPi < lowered + 2 * mPi * rounds := by
    rcases above with rfl | above
    · linarith [neg_abs_le lowered]
    · nlinarith [Nat.cast_nonneg (α := ℚ) rounds]
  obtain ⟨raised, finishes, ⟨more, raisedSame⟩, within⟩ := raiseWithin_fin low enough
  refine ⟨raised, ⟨rounds, ?_⟩, ⟨turns + more, ?_⟩, within⟩
  · unfold normalizeAngleWithin
    rw [ends]
    exact finishes
  · push_cast
    linarith

theorem normalizesTo_self (within : WithinTurn angle) : NormalizesTo (.fin angle) (.fin angle) := by
  obtain ⟨above, below⟩ := within
  refine ⟨0, ?_⟩
  simp [normalizeAngleWithin, lowerWithin, raiseWithin, loopWithin, not_lt.mpr below, above]

theorem normalizesTo_normalizeAngle (angle : ℚ) :
    NormalizesTo (.fin angle) (normalizeAngle (.fin angle)) := by
  -- Both lie within a turn, and have the heading of the angle.
  obtain ⟨normalized, ends, ⟨turns, same⟩, within⟩ := normalizesTo_fin angle
  obtain ⟨value, valueEq, above, below⟩ := normalizeAngle_fin angle
  have turned : value = angle - 2 * mPi * ⌈(angle - mPi) / (2 * mPi)⌉ :=
    (Scalar.fin.inj valueEq).symm
  have equal : value = normalized := by
    refine eq_of_sameHeading ⟨above, below⟩ within
      ⟨-⌈(angle - mPi) / (2 * mPi)⌉ - turns, ?_⟩
    push_cast
    linarith
  rw [valueEq, equal]
  exact ends

theorem normalizeAngleWithin_infinite (rounds : Nat) :
    normalizeAngleWithin rounds .posInf = none ∧ normalizeAngleWithin rounds .negInf = none := by
  -- An infinite angle stays what it is in every round.
  have kept : lowerWithin rounds .posInf = none ∧ raiseWithin rounds .negInf = none := by
    induction rounds with
    | zero => exact ⟨rfl, rfl⟩
    | succ rounds ih => exact ih
  have low : lowerWithin rounds .negInf = some .negInf := by
    cases rounds with
    | zero => rfl
    | succ rounds => rfl
  unfold normalizeAngleWithin
  rw [kept.1, low]
  exact ⟨rfl, kept.2⟩

theorem normalizesTo_iff {angle : Scalar} :
    (∃ normalized, NormalizesTo angle normalized) ↔ normalizeAngleReturns angle = true := by
  cases angle with
  | fin angle => exact ⟨fun _ => rfl, fun _ => ⟨_, normalizesTo_normalizeAngle angle⟩⟩
  | nan => exact ⟨fun _ => rfl, fun _ => ⟨.nan, 0, rfl⟩⟩
  | posInf =>
    refine ⟨?_, fun returns => by cases returns⟩
    rintro ⟨normalized, rounds, ends⟩
    rw [(normalizeAngleWithin_infinite rounds).1] at ends
    cases ends
  | negInf =>
    refine ⟨?_, fun returns => by cases returns⟩
    rintro ⟨normalized, rounds, ends⟩
    rw [(normalizeAngleWithin_infinite rounds).2] at ends
    cases ends

/-! ### The hash of a heading -/

namespace PersistentRegistration

end PersistentRegistration
end NdtSlam
