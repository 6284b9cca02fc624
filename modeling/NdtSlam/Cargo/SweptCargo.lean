import Mathlib.Data.Rat.Sqrt
import NdtSlam.Foundation.Planar
import NdtSlam.Foundation.SweptBoxes

/-! The points that a moving cargo sweeps over between two stamps. -/

namespace NdtSlam.SweptCargo

/-- What the standard library computes of lengths and angles. The difference of two yaws is that
of the axes along them, each given by its cosine and sine. -/
class FootprintMath (K : Type) [Field K] [LinearOrder K] extends Hypot K where
  cargoAxialYawDifference : Planar K → Planar K → K
  cargoAxialYawDifference_self : ∀ yaw, cargoAxialYawDifference yaw yaw = 0

structure CargoObbFootprint (K : Type) where
  valid : Bool := false
  centerBase : Planar K
  lengthM : K
  widthM : K
  yawBase : Planar K
  minZ : K
  maxZ : K

variable {K : Type} [Field K] [LinearOrder K]

def turned (yaw vector : Planar K) : Planar K :=
  ![yaw 0 * vector 0 + yaw 1 * vector 1, -yaw 1 * vector 0 + yaw 0 * vector 1]

def containsPointInCargoObbBase (xy : Planar K) (z : K) (footprint : CargoObbFootprint K)
    (marginXyM marginZM : K) : Bool :=
  if !footprint.valid || footprint.lengthM ≤ 0 || footprint.widthM ≤ 0 ||
      footprint.maxZ ≤ footprint.minZ then false
  else
    let marginXy := max 0 marginXyM
    let marginZ := max 0 marginZM
    let place := turned footprint.yawBase (xy - footprint.centerBase)
    |place 0| ≤ 0.5 * footprint.lengthM + marginXy &&
      |place 1| ≤ 0.5 * footprint.widthM + marginXy &&
      footprint.minZ - marginZ ≤ z && z ≤ footprint.maxZ + marginZ

def interpolated (start finish : CargoObbFootprint K) (alpha : K) : CargoObbFootprint K :=
  { start with
    centerBase := fun axis => (1 - alpha) * start.centerBase axis + alpha * finish.centerBase axis
    lengthM := (1 - alpha) * start.lengthM + alpha * finish.lengthM
    widthM := (1 - alpha) * start.widthM + alpha * finish.widthM
    minZ := (1 - alpha) * start.minZ + alpha * finish.minZ
    maxZ := (1 - alpha) * start.maxZ + alpha * finish.maxZ }

/-- Two valid footprints of one cargo that has kept its size and its yaw. -/
structure Rigid (start finish : CargoObbFootprint K) : Prop where
  valid : start.valid = true ∧ finish.valid = true
  length : 0 < start.lengthM ∧ finish.lengthM = start.lengthM
  width : 0 < start.widthM ∧ finish.widthM = start.widthM
  height : start.minZ < start.maxZ ∧ finish.maxZ - finish.minZ = start.maxZ - start.minZ
  yaw : start.yawBase 0 ^ 2 + start.yawBase 1 ^ 2 = 1 ∧ finish.yawBase = start.yawBase

def halfSides (footprint : CargoObbFootprint K) : Fin 3 → K :=
  ![0.5 * footprint.lengthM, 0.5 * footprint.widthM, 0.5 * (footprint.maxZ - footprint.minZ)]

def move (start finish : CargoObbFootprint K) : Fin 3 → K :=
  let planar := turned start.yawBase (finish.centerBase - start.centerBase)
  ![planar 0, planar 1, finish.minZ - start.minZ]

def placeIn (footprint : CargoObbFootprint K) (xy : Planar K) (z : K) : Fin 3 → K :=
  let planar := turned footprint.yawBase (xy - footprint.centerBase)
  ![planar 0, planar 1, z - 0.5 * (footprint.minZ + footprint.maxZ)]

section Points

variable [IsStrictOrderedRing K] {start finish : CargoObbFootprint K} {xy : Planar K}
  {z marginXyM marginZM alpha : K}

theorem contains_interpolated_iff (rigid : Rigid start finish) (planar : 0 ≤ marginXyM)
    (vertical : 0 ≤ marginZM) :
    containsPointInCargoObbBase xy z (interpolated start finish alpha) marginXyM marginZM ↔
      ∀ axis, |placeIn start xy z axis - alpha * move start finish axis| ≤
        halfSides start axis + ![marginXyM, marginXyM, marginZM] axis := by
  obtain ⟨⟨valid, -⟩, ⟨long, length⟩, ⟨wide, width⟩, ⟨tall, height⟩, -⟩ := rigid
  have length' : (1 - alpha) * start.lengthM + alpha * finish.lengthM = start.lengthM := by
    rw [length]
    ring
  have width' : (1 - alpha) * start.widthM + alpha * finish.widthM = start.widthM := by
    rw [width]
    ring
  have top : finish.maxZ = finish.minZ + (start.maxZ - start.minZ) := by linarith
  have tall' : (1 - alpha) * start.minZ + alpha * finish.minZ <
      (1 - alpha) * start.maxZ + alpha * finish.maxZ := by
    rw [top]
    linarith
  unfold containsPointInCargoObbBase interpolated
  dsimp only
  rw [length', width', if_neg (by simp [valid, long, wide, tall']), max_eq_right planar,
    max_eq_right vertical]
  rw [Bool.and_eq_true, Bool.and_eq_true, Bool.and_eq_true, decide_eq_true_eq, decide_eq_true_eq,
    decide_eq_true_eq, decide_eq_true_eq]
  simp only [Fin.forall_fin_succ, IsEmpty.forall_iff, and_true, placeIn, move, halfSides, turned,
    Pi.sub_apply, Matrix.cons_val_zero, Matrix.cons_val_succ, Matrix.cons_val_one, and_assoc]
  refine and_congr (iff_of_eq ?_) (and_congr (iff_of_eq ?_) ?_)
  · congr 2
    ring
  · congr 2
    ring
  · rw [abs_le, top]
    constructor
    · rintro ⟨low, high⟩
      constructor <;> linarith
    · rintro ⟨low, high⟩
      constructor <;> linarith

theorem exists_place (rigid : Rigid start finish) (away : Fin 3 → K) :
    ∃ xy z, placeIn start xy z = away := by
  refine ⟨start.centerBase + turned ![start.yawBase 0, -start.yawBase 1] ![away 0, away 1],
    away 2 + 0.5 * (start.minZ + start.maxZ), ?_⟩
  have unit := rigid.yaw.1
  funext axis
  fin_cases axis
  · simp only [placeIn, turned, add_sub_cancel_left, Fin.zero_eta, Matrix.cons_val_zero,
      Matrix.cons_val_one]
    linear_combination away 0 * unit
  · simp only [placeIn, turned, add_sub_cancel_left, Fin.mk_one, Matrix.cons_val_zero,
      Matrix.cons_val_one]
    linear_combination away 1 * unit
  · exact add_sub_cancel_right _ _

end Points

variable [FloorRing K] [FootprintMath K]

def steps (start finish : CargoObbFootprint K) (maximumSampleStepM : K) : Nat :=
  let centerDistance := planarNorm (finish.centerBase - start.centerBase)
  let verticalDistance := max |finish.minZ - start.minZ| |finish.maxZ - start.maxZ|
  (max 1 (min 24 ⌈max centerDistance verticalDistance / maximumSampleStepM⌉)).toNat

def containsPointInSweptCargoObbBase (xy : Planar K) (z : K) (start finish : CargoObbFootprint K)
    (marginXyM marginZM maximumSampleStepM : K) : Bool :=
  if !start.valid || !finish.valid || maximumSampleStepM ≤ 0 ||
      1.0e-3 < FootprintMath.cargoAxialYawDifference start.yawBase finish.yawBase then false
  else
    let count := steps start finish maximumSampleStepM
    (List.range (count + 1)).any fun index =>
      containsPointInCargoObbBase xy z (interpolated start finish (index / count)) marginXyM
        marginZM

/-- The samples stand for the whole sweep, up to the step between them. -/
structure Contained (start finish : CargoObbFootprint K) (maximumSampleStepM : K) : Prop where
  sound : ∀ xy z marginXyM marginZM, 0 ≤ marginXyM → 0 ≤ marginZM →
    containsPointInSweptCargoObbBase xy z start finish marginXyM marginZM maximumSampleStepM →
      ∃ alpha, 0 ≤ alpha ∧ alpha ≤ 1 ∧
        containsPointInCargoObbBase xy z (interpolated start finish alpha) marginXyM marginZM
  complete : ∀ xy z marginXyM marginZM alpha, 0 ≤ marginXyM → 0 ≤ marginZM → 0 ≤ alpha →
    alpha ≤ 1 →
    containsPointInCargoObbBase xy z (interpolated start finish alpha) marginXyM marginZM →
      containsPointInSweptCargoObbBase xy z start finish (marginXyM + maximumSampleStepM)
        (marginZM + maximumSampleStepM) maximumSampleStepM

section Sweep

variable [IsStrictOrderedRing K] {start finish : CargoObbFootprint K} {maximumSampleStepM : K}

omit [IsStrictOrderedRing K] in
theorem steps_pos : 0 < steps start finish maximumSampleStepM := by
  unfold steps
  dsimp only
  omega

theorem swept_iff (rigid : Rigid start finish) (positive : 0 < maximumSampleStepM) {xy : Planar K}
    {z marginXyM marginZM : K} :
    containsPointInSweptCargoObbBase xy z start finish marginXyM marginZM maximumSampleStepM ↔
      ∃ station ≤ steps start finish maximumSampleStepM, containsPointInCargoObbBase xy z
        (interpolated start finish (station / steps start finish maximumSampleStepM)) marginXyM
        marginZM := by
  unfold containsPointInSweptCargoObbBase
  rw [if_neg]
  · simp
  · rw [rigid.yaw.2, FootprintMath.cargoAxialYawDifference_self]
    simp [rigid.valid.1, rigid.valid.2, positive]
    norm_num

theorem station_iff (rigid : Rigid start finish) (positive : 0 < maximumSampleStepM)
    {xy : Planar K} {z marginXyM marginZM : K} {station : Nat} (planar : 0 ≤ marginXyM)
    (vertical : 0 ≤ marginZM) (time : K) :
    containsPointInCargoObbBase xy z
        (interpolated start finish (station / steps start finish maximumSampleStepM))
        (marginXyM + maximumSampleStepM) (marginZM + maximumSampleStepM) ↔
      ∀ axis, |placeIn start xy z axis -
            time / steps start finish maximumSampleStepM * move start finish axis +
          (time - station) * (move start finish axis / steps start finish maximumSampleStepM)| ≤
        halfSides start axis + ![marginXyM, marginXyM, marginZM] axis + maximumSampleStepM := by
  rw [contains_interpolated_iff rigid (by linarith) (by linarith)]
  refine forall_congr' fun axis => ?_
  have away : placeIn start xy z axis -
      station / steps start finish maximumSampleStepM * move start finish axis =
      placeIn start xy z axis -
          time / steps start finish maximumSampleStepM * move start finish axis +
        (time - station) * (move start finish axis / steps start finish maximumSampleStepM) := by
    ring
  have margin : ![marginXyM + maximumSampleStepM, marginXyM + maximumSampleStepM,
      marginZM + maximumSampleStepM] axis =
      ![marginXyM, marginXyM, marginZM] axis + maximumSampleStepM := by
    fin_cases axis <;> rfl
  rw [away, margin, add_assoc]

/-- The samples stand for the sweep just when their strides are short. -/
theorem swept_contained_iff (rigid : Rigid start finish) (positive : 0 < maximumSampleStepM) :
    Contained start finish maximumSampleStepM ↔ ShortStrides (halfSides start)
      (fun axis => move start finish axis / steps start finish maximumSampleStepM)
      maximumSampleStepM := by
  have moves : (0 : K) < steps start finish maximumSampleStepM := Nat.cast_pos.mpr steps_pos
  have thick : ∀ axis, 0 ≤ halfSides start axis := by
    have half : ∀ {side : K}, 0 < side → 0 ≤ 0.5 * side := fun positive =>
      mul_nonneg (by norm_num) positive.le
    intro axis
    fin_cases axis
    · exact half rigid.length.1
    · exact half rigid.width.1
    · exact half (sub_pos.mpr rigid.height.1)
  constructor
  · intro contained
    suffices covered : CoveredByStations (halfSides start) _ maximumSampleStepM
        (steps start finish maximumSampleStepM) from covered.short thick positive steps_pos
    intro away time inside low high
    obtain ⟨xy, z, at_⟩ := exists_place rigid fun axis =>
      away axis + time / steps start finish maximumSampleStepM * move start finish axis
    have accepted := contained.complete xy z 0 0 _ le_rfl le_rfl (div_nonneg low moves.le)
      ((div_le_one moves).mpr high) ((contains_interpolated_iff rigid le_rfl le_rfl).mpr
        fun axis => ?_)
    · obtain ⟨station, among, sample⟩ := (swept_iff rigid positive).mp accepted
      refine ⟨station, among, fun axis => ?_⟩
      have close := (station_iff rigid positive le_rfl le_rfl time).mp sample axis
      rw [at_, add_sub_cancel_right] at close
      refine close.trans_eq ?_
      fin_cases axis <;> simp
    · rw [at_, add_sub_cancel_right]
      refine (inside axis).trans_eq ?_
      fin_cases axis <;> simp
  · intro short
    refine ⟨fun xy z _ _ planar vertical accepted => ?_,
      fun xy z marginXyM marginZM alpha planar vertical low high inside => ?_⟩
    · obtain ⟨station, among, sample⟩ := (swept_iff rigid positive).mp accepted
      exact ⟨_, div_nonneg (Nat.cast_nonneg _) moves.le,
        (div_le_one moves).mpr (Nat.cast_le.mpr among), sample⟩
    · have margins : ∀ axis, 0 ≤ ![marginXyM, marginXyM, marginZM] axis := by
        intro axis
        fin_cases axis <;> assumption
      have wider : ShortStrides (fun axis => halfSides start axis +
          ![marginXyM, marginXyM, marginZM] axis) _ maximumSampleStepM :=
        ⟨fun axis => (short.alone axis).trans (by linarith [margins axis]), short.together⟩
      have full : alpha = alpha * steps start finish maximumSampleStepM /
          steps start finish maximumSampleStepM := (mul_div_cancel_right₀ _ moves.ne').symm
      have covered : CoveredByStations _ _ _ (steps start finish maximumSampleStepM) :=
        wider.covered positive
      obtain ⟨station, among, close⟩ := covered _
        (alpha * steps start finish maximumSampleStepM)
        (fun axis => full ▸ (contains_interpolated_iff rigid planar vertical).mp inside axis)
        (mul_nonneg low moves.le) (mul_le_of_le_one_left moves.le high)
      exact (swept_iff rigid positive).mpr ⟨station, among,
        (station_iff rigid positive planar vertical _).mpr close⟩

end Sweep

/-! A cargo of one meter that flies far. -/

instance : FootprintMath ℚ where
  hypot x y := Rat.sqrt (x * x + y * y)
  cargoAxialYawDifference first second := if first = second then 0 else 1
  cargoAxialYawDifference_self _ := if_pos rfl

def flying (x : ℚ) : CargoObbFootprint ℚ := ⟨true, ![x, 0], 1, 1, ![1, 0], 0, 1⟩

theorem flying_rigid (x : ℚ) : Rigid (flying 0) (flying x) where
  valid := ⟨rfl, rfl⟩
  length := ⟨by norm_num [flying], rfl⟩
  width := ⟨by norm_num [flying], rfl⟩
  height := ⟨by norm_num [flying], rfl⟩
  yaw := ⟨by norm_num [flying], rfl⟩

theorem flying_contained : Contained (flying 0) (flying 5) 1 := by
  refine (swept_contained_iff (flying_rigid 5) one_pos).mpr ⟨?_, ?_⟩
  · with_unfolding_all decide
  · with_unfolding_all decide

theorem long_flight_not_contained : ¬Contained (flying 0) (flying 100) 1 := by
  intro contained
  have accepted := contained.complete ![100 / 48, 0] (1 / 2) 0 0 (1 / 48) le_rfl le_rfl
    (by norm_num) (by norm_num) (by with_unfolding_all decide)
  exact absurd accepted (by with_unfolding_all decide)

end NdtSlam.SweptCargo
