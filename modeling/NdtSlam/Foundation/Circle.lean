import Mathlib.Analysis.SpecialFunctions.Trigonometric.Angle

/-! Distances on the circle, and angles cut to an arc on the line. -/

namespace NdtSlam

open Real

noncomputable def circleDistance (first second : ℝ) : ℝ := |((first - second : ℝ) : Angle).toReal|

def OnArc (center width angle : ℝ) : Prop := circleDistance angle center ≤ width

def NearestOnArc (center width angle taken : ℝ) : Prop :=
  OnArc center width taken ∧
    ∀ other, OnArc center width other → circleDistance taken angle ≤ circleDistance other angle

noncomputable def cutAngle (center width angle : ℝ) : ℝ :=
  max (center - width) (min angle (center + width))

variable {center width angle gap line first second : ℝ}

theorem lt_abs_toReal (low : gap < line) (high : line < 2 * π - gap) :
    gap < |(line : Angle).toReal| := by
  -- Otherwise it would be a whole number of turns strictly between none and one.
  by_contra near
  obtain ⟨turns, apart⟩ := Angle.angle_eq_iff_two_pi_dvd_sub.mp (Angle.coe_toReal (line : Angle))
  obtain ⟨below, above⟩ := abs_le.mp (not_lt.mp near)
  have some : (0 : ℝ) < -turns := by nlinarith [pi_pos]
  have none : -(turns : ℝ) < 1 := by nlinarith [pi_pos]
  have some : (0 : ℤ) < -turns := by exact_mod_cast some
  have none : -turns < (1 : ℤ) := by exact_mod_cast none
  omega

theorem le_abs_toReal (low : gap ≤ line) (high : line ≤ 2 * π - gap) :
    gap ≤ |(line : Angle).toReal| := by
  refine le_of_forall_lt fun less smaller => ?_
  exact lt_abs_toReal (smaller.trans_le low) (by linarith)

theorem abs_toReal_le (line : ℝ) : |(line : Angle).toReal| ≤ |line| := by
  by_contra farther
  have within := (not_le.mp farther).trans_le (Angle.abs_toReal_le_pi _)
  obtain ⟨low, high⟩ := abs_lt.mp within
  rw [Angle.toReal_coe_eq_self_iff.mpr ⟨low, high.le⟩] at farther
  exact farther le_rfl

theorem circleDistance_neg (first second : ℝ) :
    circleDistance (-first) (-second) = circleDistance first second := by
  have mirrored : ((-first - -second : ℝ) : Angle) = -((first - second : ℝ) : Angle) := by
    rw [← Angle.coe_neg]
    congr 1
    ring
  rw [circleDistance, mirrored, Angle.abs_toReal_neg, circleDistance]

theorem nearestOnArc_neg {taken : ℝ} :
    NearestOnArc (-center) width (-angle) (-taken) ↔ NearestOnArc center width angle taken := by
  unfold NearestOnArc OnArc
  rw [circleDistance_neg, circleDistance_neg]
  refine and_congr_right fun _ => ⟨fun least other within => ?_, fun least other within => ?_⟩
  · have mirrored := least (-other) (by rwa [circleDistance_neg])
    rwa [circleDistance_neg] at mirrored
  · rw [← neg_neg other, circleDistance_neg] at within ⊢
    exact least _ within

theorem circleDistance_turned {turned : ℝ} (same : (turned : Angle) = (first - second : ℝ)) :
    circleDistance first second = |(turned : Angle).toReal| := by
  rw [circleDistance, same]

theorem upper_end_nearest_iff (center angle : ℝ) (wide : 0 ≤ width) :
    NearestOnArc center width angle (center + width) ↔
      width = 0 ∨ ((angle - center : ℝ) : Angle) = width ∨
        width < ((angle - center : ℝ) : Angle).toReal := by
  obtain ⟨low, high⟩ := Angle.toReal_mem_Ioc ((angle - center : ℝ) : Angle)
  have place := Angle.coe_toReal ((angle - center : ℝ) : Angle)
  generalize ((angle - center : ℝ) : Angle).toReal = side at low high place ⊢
  -- All distances are those of places relative to the centre.
  have relative : ∀ other : ℝ, circleDistance other angle =
      |((other - center - side : ℝ) : Angle).toReal| := by
    intro other
    refine circleDistance_turned ?_
    rw [Angle.coe_sub, place, ← Angle.coe_sub]
    congr 1
    ring
  have onArc : ∀ other : ℝ, |other - center| ≤ width → OnArc center width other := fun _ within =>
    (abs_toReal_le _).trans within
  have upper : circleDistance (center + width) angle = |((width - side : ℝ) : Angle).toReal| := by
    rw [relative, add_sub_cancel_left]
  constructor
  · rintro ⟨-, least⟩
    by_contra neither
    push Not at neither
    obtain ⟨some, elsewhere, less⟩ := neither
    rcases le_or_gt (-width) side with inside | outside
    · -- The angle itself lies on the arc.
      have own := least (center + side) (onArc _ (by
        rw [add_sub_cancel_left]
        exact abs_le.mpr ⟨inside, less⟩))
      rw [upper, relative, add_sub_cancel_left, sub_self, Angle.coe_zero, Angle.toReal_zero,
        abs_zero, abs_nonpos_iff, Angle.toReal_eq_zero_iff, Angle.coe_sub, sub_eq_zero] at own
      exact elsewhere (place.symm.trans own.symm)
    · -- The lower end is nearer.
      have other := least (center - width) (onArc _ (by
        rw [sub_sub_cancel_left, abs_neg, abs_of_nonneg wide]))
      rw [upper, relative, sub_sub_cancel_left] at other
      have short : |((-width - side : ℝ) : Angle).toReal| ≤ -width - side :=
        (abs_toReal_le _).trans_eq (abs_of_pos (by linarith))
      have long : -width - side < |((width - side : ℝ) : Angle).toReal| :=
        lt_abs_toReal (by linarith [wide.lt_of_ne' some]) (by linarith)
      exact absurd (other.trans short) (not_le.mpr long)
  · intro nearest
    refine ⟨onArc _ (by rw [add_sub_cancel_left, abs_of_nonneg wide]), fun other within => ?_⟩
    rcases nearest with point | same | follows
    · -- The arc has one angle only.
      subst point
      unfold OnArc circleDistance at within
      rw [abs_nonpos_iff, Angle.toReal_eq_zero_iff, Angle.coe_sub, sub_eq_zero] at within
      rw [add_zero, circleDistance, circleDistance, Angle.coe_sub, Angle.coe_sub, within]
    · rw [upper, Angle.coe_sub, place, same, sub_self, Angle.toReal_zero, abs_zero]
      exact abs_nonneg _
    · -- What follows the upper end at most half a turn from the centre is nearest to it.
      have short : |((width - side : ℝ) : Angle).toReal| ≤ side - width := by
        refine (abs_toReal_le _).trans_eq ?_
        rw [abs_sub_comm, abs_of_pos (by linarith)]
      obtain ⟨below, above⟩ := abs_le.mp within
      have placed := Angle.coe_toReal ((other - center : ℝ) : Angle)
      generalize ((other - center : ℝ) : Angle).toReal = offset at below above placed
      have apart : circleDistance other angle = |((side - offset : ℝ) : Angle).toReal| := by
        rw [relative, ← Angle.abs_toReal_neg, ← Angle.coe_neg, Angle.coe_sub side, placed,
          ← Angle.coe_sub]
        congr 3
        ring
      rw [upper, apart]
      exact short.trans (le_abs_toReal (by linarith) (by linarith))

theorem cutAngle_cases (center angle : ℝ) (wide : 0 ≤ width) :
    (|angle - center| ≤ width ∧ cutAngle center width angle = angle) ∨
      (width < angle - center ∧ cutAngle center width angle = center + width) ∨
      (width < center - angle ∧ cutAngle center width angle = center - width) := by
  unfold cutAngle
  rcases le_or_gt (angle - center) width with below | beyond
  · rw [min_eq_left (by linarith)]
    rcases le_or_gt (center - angle) width with above | beyond
    · exact .inl ⟨abs_le.mpr ⟨by linarith, below⟩, max_eq_right (by linarith)⟩
    · exact .inr (.inr ⟨beyond, max_eq_left (by linarith)⟩)
  · rw [min_eq_right (by linarith), max_eq_right (by linarith)]
    exact .inr (.inl ⟨beyond, rfl⟩)

theorem cutAngle_nearest_iff (wide : 0 ≤ width) :
    NearestOnArc center width angle (cutAngle center width angle) ↔
      width = 0 ∨ |angle - center| ≤ width ∨ ((|angle - center| : ℝ) : Angle) = width ∨
        width < ((|angle - center| : ℝ) : Angle).toReal := by
  rcases cutAngle_cases center angle wide with ⟨inside, taken⟩ | ⟨beyond, taken⟩ | ⟨beyond, taken⟩
  · rw [taken]
    refine iff_of_true ⟨(abs_toReal_le _).trans inside, fun other _ => ?_⟩ (.inr (.inl inside))
    rw [circleDistance, sub_self, Angle.coe_zero, Angle.toReal_zero, abs_zero]
    exact abs_nonneg _
  · rw [taken, upper_end_nearest_iff _ _ wide, abs_of_pos (by linarith),
      or_iff_right (not_le.mpr beyond)]
  · -- The lower end is the upper one in the mirror.
    have mirrored := upper_end_nearest_iff (-center) (-angle) wide
    rw [show -center + width = -(center - width) by ring, nearestOnArc_neg,
      show -angle - -center = center - angle by ring] at mirrored
    rw [taken, mirrored, abs_sub_comm, abs_of_pos (by linarith), or_iff_right (not_le.mpr beyond)]

theorem center_nearest_iff (wide : 0 ≤ width) :
    NearestOnArc center width angle center ↔ width = 0 ∨ (angle : Angle) = center := by
  have self : OnArc center width center := by
    unfold OnArc
    rw [circleDistance, sub_self, Angle.coe_zero, Angle.toReal_zero, abs_zero]
    exact wide
  constructor
  · rintro ⟨-, least⟩
    by_contra neither
    push Not at neither
    obtain ⟨some, elsewhere⟩ := neither
    -- A small step from the centre towards the angle comes nearer to it.
    have place := Angle.coe_toReal ((angle - center : ℝ) : Angle)
    have away : ((angle - center : ℝ) : Angle).toReal ≠ 0 := fun none => elsewhere (by
      rwa [Angle.toReal_eq_zero_iff, Angle.coe_sub, sub_eq_zero] at none)
    have apart : circleDistance center angle = |((angle - center : ℝ) : Angle).toReal| := by
      rw [circleDistance, ← Angle.abs_toReal_neg, ← Angle.coe_neg, neg_sub]
    generalize ((angle - center : ℝ) : Angle).toReal = side at place away apart
    have positive := wide.lt_of_ne' some
    have step := least (cutAngle center width (center + side)) (by
      rcases cutAngle_cases center (center + side) wide with
        ⟨inside, taken⟩ | ⟨-, taken⟩ | ⟨-, taken⟩ <;> rw [taken]
      · exact (abs_toReal_le _).trans inside
      · exact (abs_toReal_le _).trans (by rw [add_sub_cancel_left, abs_of_pos positive])
      · exact (abs_toReal_le _).trans (by rw [sub_sub_cancel_left, abs_neg, abs_of_pos positive]))
    have shorter : circleDistance (cutAngle center width (center + side)) angle < |side| := by
      have moved : circleDistance (cutAngle center width (center + side)) angle =
          |((cutAngle center width (center + side) - center - side : ℝ) : Angle).toReal| := by
        refine circleDistance_turned ?_
        rw [Angle.coe_sub, place, ← Angle.coe_sub]
        congr 1
        ring
      rw [moved]
      refine (abs_toReal_le _).trans_lt ?_
      rcases cutAngle_cases center (center + side) wide with
        ⟨inside, taken⟩ | ⟨beyond, taken⟩ | ⟨beyond, taken⟩ <;> rw [taken]
      · rw [add_sub_cancel_left, sub_self, abs_zero]
        exact abs_pos.mpr away
      · rw [abs_of_neg (by linarith), abs_of_pos (by linarith)]
        linarith
      · rw [abs_of_pos (by linarith), abs_of_neg (by linarith)]
        linarith
    exact absurd (apart.symm.trans_le step) (not_le.mpr shorter)
  · rintro (point | same)
    · subst point
      refine ⟨self, fun other within => ?_⟩
      unfold OnArc circleDistance at within
      rw [abs_nonpos_iff, Angle.toReal_eq_zero_iff, Angle.coe_sub, sub_eq_zero] at within
      rw [circleDistance, circleDistance, Angle.coe_sub, Angle.coe_sub, within]
    · refine ⟨self, fun other _ => ?_⟩
      rw [circleDistance, Angle.coe_sub, same, sub_self, Angle.toReal_zero, abs_zero]
      exact abs_nonneg _

theorem NearestOnArc.same {taken : ℝ} (nearest : NearestOnArc center width angle taken)
    (within : OnArc center width angle) : (taken : Angle) = angle := by
  have least := nearest.2 angle within
  unfold circleDistance at least
  rwa [sub_self, Angle.coe_zero, Angle.toReal_zero, abs_zero, abs_nonpos_iff,
    Angle.toReal_eq_zero_iff, Angle.coe_sub, sub_eq_zero] at least

theorem nearestOnArc_congr {taken turned : ℝ} (same : (turned : Angle) = taken) :
    NearestOnArc center width angle turned ↔ NearestOnArc center width angle taken := by
  unfold NearestOnArc OnArc circleDistance
  rw [Angle.coe_sub, same, ← Angle.coe_sub, Angle.coe_sub turned angle, same, ← Angle.coe_sub]

end NdtSlam
