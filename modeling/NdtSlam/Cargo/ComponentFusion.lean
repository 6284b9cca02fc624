import Mathlib.Algebra.Order.Round
import Mathlib.GroupTheory.GroupAction.MultipleTransitivity
import NdtSlam.Foundation.Extrema
import NdtSlam.Foundation.Rigid

/-! Fragments that may belong to one load are proposed alone, in pairs and in triples. -/

namespace NdtSlam

structure CargoComponentFusionConfig where
  maximumAxialYawDifferenceRad : Scalar := 0.261799
  maximumLongitudinalGapM : Scalar := 0.60
  maximumLateralGapM : Scalar := 0.35
  minimumZOverlapRatio : Scalar := 0.30
  maximumCombinedLongSideM : Scalar := 4.0
  maximumCombinedShortSideM : Scalar := 3.0
  maximumHypothesisAspectRatio : Scalar := 3.0
  minimumMergedShortSideRetentionRatio : Scalar := 0.70
  maximumComponents : Nat := 3

structure CargoComponentFragment where
  center : Vec2 := {}
  lengthM : Scalar := 0
  widthM : Scalar := 0
  yawRad : Scalar := 0
  minZ : Scalar := 0
  maxZ : Scalar := 0
  pointCount : Nat := 0

structure CargoComponentHypothesis (size : Nat) where
  componentIndices : List (Fin size)
  merged : Bool := false
  reason : String := "single_component"

namespace CargoComponentFusion

def kPi : ℚ := 3.14159265358979323846

def axialDifference (lhs rhs : Scalar) : Scalar :=
  match lhs - rhs with
  | .fin difference => .fin |difference - kPi * round (difference / kPi)|
  | _ => .nan

def between (value low high : Scalar) : Bool := value.isFinite && low ≤ value && value ≤ high

def validConfig (config : CargoComponentFusionConfig) : Bool :=
  between config.maximumAxialYawDifferenceRad 0 0.785399 &&
    config.maximumLongitudinalGapM.isFinite && 0 ≤ config.maximumLongitudinalGapM &&
    config.maximumLateralGapM.isFinite && 0 ≤ config.maximumLateralGapM &&
    between config.minimumZOverlapRatio 0 1 &&
    config.maximumCombinedLongSideM.isFinite && 0 < config.maximumCombinedLongSideM &&
    config.maximumCombinedShortSideM.isFinite && 0 < config.maximumCombinedShortSideM &&
    config.maximumHypothesisAspectRatio.isFinite && 1 ≤ config.maximumHypothesisAspectRatio &&
    between config.minimumMergedShortSideRetentionRatio 0 1 &&
    1 ≤ config.maximumComponents && config.maximumComponents ≤ 3

def validFragment (fragment : CargoComponentFragment) : Bool :=
  fragment.center.allFinite && fragment.lengthM.isFinite && 0 < fragment.lengthM &&
    fragment.widthM.isFinite && 0 < fragment.widthM && fragment.widthM ≤ fragment.lengthM &&
    fragment.yawRad.isFinite && fragment.minZ.isFinite && fragment.maxZ.isFinite &&
    fragment.minZ < fragment.maxZ && 0 < fragment.pointCount

variable (config : CargoComponentFusionConfig)

def aligned (lhs rhs : CargoComponentFragment) : Bool :=
  let overlapZ := Scalar.maxOf 0 (.minOf lhs.maxZ rhs.maxZ - .maxOf lhs.minZ rhs.minZ)
  let smallerHeight := Scalar.minOf (lhs.maxZ - lhs.minZ) (rhs.maxZ - rhs.minZ)
  validFragment lhs && validFragment rhs &&
    !(config.maximumAxialYawDifferenceRad < axialDifference lhs.yawRad rhs.yawRad) &&
    !(smallerHeight ≤ 1.0e-4 || overlapZ / smallerHeight < config.minimumZOverlapRatio)

theorem axialDifference_comm (lhs rhs : Scalar) :
    axialDifference lhs rhs = axialDifference rhs lhs := by
  -- No multiple is nearer to a difference than the rounded one, in either direction.
  have nearest : ∀ difference : ℚ, |difference - kPi * round (difference / kPi)| ≤
      |-difference - kPi * round (-difference / kPi)| := by
    intro difference
    have positive : 0 < kPi := by norm_num [kPi]
    have scaled : ∀ turns : ℤ, |difference - kPi * turns| = kPi * |difference / kPi - turns| := by
      intro turns
      rw [← abs_of_pos positive, ← abs_mul, abs_of_pos positive, mul_sub,
        mul_div_cancel₀ _ positive.ne']
    calc |difference - kPi * round (difference / kPi)|
        = kPi * |difference / kPi - round (difference / kPi)| := scaled _
      _ ≤ kPi * |difference / kPi - (-round (-difference / kPi) : ℤ)| :=
        mul_le_mul_of_nonneg_left (round_le _ _) positive.le
      _ = |difference - kPi * (-round (-difference / kPi) : ℤ)| := (scaled _).symm
      _ = |-difference - kPi * round (-difference / kPi)| := by
        rw [← abs_neg]
        push_cast
        ring_nf
  unfold axialDifference
  cases lhs <;> cases rhs <;> try rfl
  next lhs rhs =>
    rw [Scalar.fin_sub_fin, Scalar.fin_sub_fin]
    refine congrArg Scalar.fin (le_antisymm ?_ ?_)
    · simpa using nearest (lhs - rhs)
    · simpa using nearest (rhs - lhs)

theorem aligned_comm (lhs rhs : CargoComponentFragment) :
    aligned config lhs rhs = aligned config rhs lhs := by
  unfold aligned
  rw [axialDifference_comm rhs.yawRad]
  cases first : validFragment lhs <;> cases second : validFragment rhs <;> try rfl
  -- Of valid fragments all heights are finite.
  simp only [validFragment, Bool.and_eq_true] at first second
  obtain ⟨⟨⟨⟨-, low⟩, high⟩, -⟩, -⟩ := first
  obtain ⟨⟨⟨⟨-, low'⟩, high'⟩, -⟩, -⟩ := second
  rw [Scalar.minOf_comm high' high, Scalar.maxOf_comm low' low,
    Scalar.minOf_comm (Scalar.sub_isFinite.2 ⟨high', low'⟩)
      (Scalar.sub_isFinite.2 ⟨high, low⟩)]

theorem exists_order {size : Nat} {first second : List (Fin size)} (distinct : first.Nodup)
    (same : first.Perm second) : ∃ order : Equiv.Perm (Fin size), first.map order = second := by
  have length := same.length_eq
  obtain ⟨order, moves⟩ := Equiv.Perm.exists_smul_eq_embedding
    (⟨first.get, List.nodup_iff_injective_get.mp distinct⟩ : Fin first.length ↪ Fin size)
    ⟨fun place => second.get (place.cast length), fun one other equal => by
      simpa using List.nodup_iff_injective_get.mp (same.nodup distinct) equal⟩
  refine ⟨order, List.ext_get (by simpa using length) fun place inside within => ?_⟩
  have moved := DFunLike.congr_fun moves ⟨place, by simpa using inside⟩
  simpa using moved

section Measures

variable [CircularFunctions]

def withinGaps (lhs rhs : CargoComponentFragment) : Bool :=
  let cosine := cos lhs.yawRad
  let sine := sin lhs.yawRad
  let delta := rhs.center - lhs.center
  let along := (cosine * delta.x + sine * delta.y).abs
  let lateral := (-sine * delta.x + cosine * delta.y).abs
  let longitudinalGap := Scalar.maxOf 0 (along - 0.5 * (lhs.lengthM + rhs.lengthM))
  let lateralGap := Scalar.maxOf 0 (lateral - 0.5 * (lhs.widthM + rhs.widthM))
  longitudinalGap ≤ config.maximumLongitudinalGapM && lateralGap ≤ config.maximumLateralGapM

def compatible (lhs rhs : CargoComponentFragment) : Bool :=
  aligned config lhs rhs && withinGaps config lhs rhs

def combinedBoundsValid (selected : List CargoComponentFragment) : Bool :=
  match selected with
  | [] => false
  | front :: _ =>
    let axis : Vec2 := ⟨cos front.yawRad, sin front.yawRad⟩
    let normal : Vec2 := ⟨-axis.y, axis.x⟩
    let lowest (direction : Vec2) (side : CargoComponentFragment → Scalar) := selected.foldl
      (fun low fragment => Scalar.minOf low (fragment.center.dot direction - 0.5 * side fragment))
      .posInf
    let highest (direction : Vec2) (side : CargoComponentFragment → Scalar) := selected.foldl
      (fun high fragment => Scalar.maxOf high (fragment.center.dot direction + 0.5 * side fragment))
      .negInf
    highest axis (·.lengthM) - lowest axis (·.lengthM) ≤ config.maximumCombinedLongSideM &&
      highest normal (·.widthM) - lowest normal (·.widthM) ≤ config.maximumCombinedShortSideM

variable {size : Nat} (fragments : Fin size → CargoComponentFragment)

def singleHypotheses : List (CargoComponentHypothesis size) :=
  ((List.finRange size).filter fun i => validFragment (fragments i)).map fun i =>
    { componentIndices := [i] }

def pairHypotheses : List (CargoComponentHypothesis size) :=
  (List.finRange size).flatMap fun i => ((List.finRange size).filter (i < ·)).filterMap fun j =>
    if compatible config (fragments i) (fragments j) &&
        combinedBoundsValid config [fragments i, fragments j] then
      some { componentIndices := [i, j], merged := true, reason := "collinear_pair" }
    else none

def tripleHypotheses : List (CargoComponentHypothesis size) :=
  (List.finRange size).flatMap fun i => ((List.finRange size).filter (i < ·)).flatMap fun j =>
    ((List.finRange size).filter (j < ·)).filterMap fun k =>
      let edgeCount := (compatible config (fragments i) (fragments j)).toNat +
        (compatible config (fragments i) (fragments k)).toNat +
        (compatible config (fragments j) (fragments k)).toNat
      if edgeCount < 2 || !combinedBoundsValid config [fragments i, fragments j, fragments k] then
        none
      else some { componentIndices := [i, j, k], merged := true, reason := "collinear_triple" }

def buildCargoComponentHypotheses : List (CargoComponentHypothesis size) :=
  if !validConfig config then []
  else if config.maximumComponents < 2 then singleHypotheses fragments
  else if config.maximumComponents < 3 then
    singleHypotheses fragments ++ pairHypotheses config fragments
  else
    singleHypotheses fragments ++ pairHypotheses config fragments ++
      tripleHypotheses config fragments

/-! ### What is proposed -/

def linked (first second third : CargoComponentFragment) : Bool :=
  2 ≤ (compatible config first second).toNat + (compatible config first third).toNat +
    (compatible config second third).toNat && combinedBoundsValid config [first, second, third]

def proposes : List CargoComponentFragment → Bool
  | [only] => validFragment only
  | [first, second] => 2 ≤ config.maximumComponents && compatible config first second &&
      combinedBoundsValid config [first, second]
  | [first, second, third] => 3 ≤ config.maximumComponents && linked config first second third
  | _ => false

def Proposed (set : Finset (Fin size)) : Prop :=
  ∃ hypothesis ∈ buildCargoComponentHypotheses config fragments,
    hypothesis.componentIndices.toFinset = set

variable {config fragments}

omit [CircularFunctions] in
theorem single_iff {places : List (Fin size)} :
    (∃ hypothesis ∈ singleHypotheses fragments, hypothesis.componentIndices = places) ↔
      ∃ i, places = [i] ∧ validFragment (fragments i) = true := by
  simp only [singleHypotheses, List.mem_map, List.mem_filter, List.mem_finRange, true_and]
  grind

theorem pair_iff {places : List (Fin size)} :
    (∃ hypothesis ∈ pairHypotheses config fragments, hypothesis.componentIndices = places) ↔
      ∃ i j, i < j ∧ places = [i, j] ∧ compatible config (fragments i) (fragments j) = true ∧
        combinedBoundsValid config [fragments i, fragments j] = true := by
  simp only [pairHypotheses, List.mem_flatMap, List.mem_filterMap, List.mem_filter,
    List.mem_finRange, true_and, decide_eq_true_eq]
  constructor
  · rintro ⟨hypothesis, ⟨i, j, ahead, chosen⟩, rfl⟩
    split at chosen
    · next both =>
      obtain rfl := Option.some.inj chosen
      exact ⟨i, j, ahead, rfl, by simpa using both⟩
    · cases chosen
  · rintro ⟨i, j, ahead, rfl, close, small⟩
    exact ⟨_, ⟨i, j, ahead, if_pos (by rw [close, small]; rfl)⟩, rfl⟩

theorem triple_iff {places : List (Fin size)} :
    (∃ hypothesis ∈ tripleHypotheses config fragments, hypothesis.componentIndices = places) ↔
      ∃ i j k, i < j ∧ j < k ∧ places = [i, j, k] ∧
        linked config (fragments i) (fragments j) (fragments k) = true := by
  simp only [tripleHypotheses, List.mem_flatMap, List.mem_filterMap, List.mem_filter,
    List.mem_finRange, true_and, decide_eq_true_eq]
  constructor
  · rintro ⟨hypothesis, ⟨i, j, ahead, k, behind, chosen⟩, rfl⟩
    split at chosen
    · cases chosen
    · next enough =>
      obtain rfl := Option.some.inj chosen
      exact ⟨i, j, k, ahead, behind, rfl, by simpa [linked, Nat.succ_le_iff] using enough⟩
  · rintro ⟨i, j, k, ahead, behind, rfl, enough⟩
    exact ⟨_, ⟨i, j, ahead, k, behind, if_neg (by simpa [linked, Nat.succ_le_iff] using enough)⟩,
      rfl⟩

theorem indices_iff (valid : validConfig config = true) {places : List (Fin size)} :
    (∃ hypothesis ∈ buildCargoComponentHypotheses config fragments,
      hypothesis.componentIndices = places) ↔
    places.Pairwise (· < ·) ∧ proposes config (places.map fragments) = true := by
  have split : (∃ hypothesis ∈ buildCargoComponentHypotheses config fragments,
      hypothesis.componentIndices = places) ↔
      (∃ hypothesis ∈ singleHypotheses fragments, hypothesis.componentIndices = places) ∨
      (2 ≤ config.maximumComponents ∧
        ∃ hypothesis ∈ pairHypotheses config fragments, hypothesis.componentIndices = places) ∨
      (3 ≤ config.maximumComponents ∧
        ∃ hypothesis ∈ tripleHypotheses config fragments,
          hypothesis.componentIndices = places) := by
    unfold buildCargoComponentHypotheses
    rw [if_neg (by rw [valid]; decide)]
    grind
  rw [split, single_iff, pair_iff, triple_iff]
  match places with
  | [] => simp [proposes]
  | [i] => simp [proposes]
  | [i, j] => simp [proposes]; grind
  | [i, j, k] => simp [proposes]; grind
  | _ :: _ :: _ :: _ :: _ => simp [proposes]

def OrderFree (config : CargoComponentFusionConfig)
    (fragments : Fin size → CargoComponentFragment) : Prop :=
  ∀ (order : Equiv.Perm (Fin size)) (set : Finset (Fin size)),
    Proposed config (fragments ∘ order) set ↔ Proposed config fragments (set.map order.toEmbedding)

theorem proposed_iff (valid : validConfig config = true) {set : Finset (Fin size)} :
    Proposed config fragments set ↔ proposes config (set.sort.map fragments) = true := by
  unfold Proposed
  constructor
  · rintro ⟨hypothesis, found, rfl⟩
    obtain ⟨ascending, proposed⟩ := (indices_iff valid).mp ⟨hypothesis, found, rfl⟩
    have sorted := (List.toFinset_sort (· ≤ ·) (ascending.imp ne_of_lt)).mpr
      (ascending.imp le_of_lt)
    rwa [sorted]
  · intro proposed
    obtain ⟨hypothesis, found, same⟩ := (indices_iff valid).mpr
      ⟨set.sortedLT_sort.pairwise, proposed⟩
    exact ⟨hypothesis, found, by rw [same, Finset.sort_toFinset]⟩

theorem orderFree_iff_perm (valid : validConfig config = true) :
    OrderFree config fragments ↔ ∀ first second : List (Fin size), first.Nodup →
      first.Perm second →
        proposes config (first.map fragments) = proposes config (second.map fragments) := by
  constructor
  · intro free
    -- Each list is the image of its ascending one.
    have sorted : ∀ places : List (Fin size), places.Nodup →
        (proposes config (places.map fragments) = true ↔
          Proposed config fragments places.toFinset) := by
      intro places distinct
      obtain ⟨order, rearranged⟩ := exists_order (Finset.sort_nodup places.toFinset (· ≤ ·))
        (List.perm_of_nodup_nodup_toFinset_eq (Finset.sort_nodup _ _) distinct
          (Finset.sort_toFinset _ _))
      have image : places.toFinset.map order.toEmbedding = places.toFinset := by
        conv_rhs => rw [← rearranged]
        ext place
        simp [← Equiv.eq_symm_apply]
      rw [← image, ← free order, proposed_iff valid, ← List.map_map, rearranged]
    intro first second distinct same
    rw [Bool.eq_iff_iff, sorted first distinct, sorted second (same.nodup distinct),
      List.toFinset_eq_of_perm _ _ same]
  · intro alike order set
    have distinct := (set.sort_nodup (· ≤ ·)).map order.injective
    have same : ((set.sort.map order).toFinset : Finset (Fin size)) =
        (set.map order.toEmbedding).sort.toFinset := by
      ext place
      simp [← Equiv.eq_symm_apply]
    rw [proposed_iff valid, proposed_iff valid, ← List.map_map, alike _ _ distinct
      (List.perm_of_nodup_nodup_toFinset_eq distinct (Finset.sort_nodup _ _) same)]

/-! ### What depends on the order -/

/--
Aligned pairs are close and small along the axes of both or of none of their fragments, and triples
are linked and small in each order or in none.
-/
structure MeasuredAlike (config : CargoComponentFusionConfig)
    (fragments : Fin size → CargoComponentFragment) : Prop where
  pairs : 2 ≤ config.maximumComponents → ∀ i j, i ≠ j →
    aligned config (fragments i) (fragments j) = true →
      (withinGaps config (fragments i) (fragments j) &&
        combinedBoundsValid config [fragments i, fragments j]) =
      (withinGaps config (fragments j) (fragments i) &&
        combinedBoundsValid config [fragments j, fragments i])
  triples : 3 ≤ config.maximumComponents → ∀ i j k, [i, j, k].Nodup →
    linked config (fragments i) (fragments j) (fragments k) =
        linked config (fragments j) (fragments i) (fragments k) ∧
      linked config (fragments i) (fragments j) (fragments k) =
        linked config (fragments i) (fragments k) (fragments j)

end Measures
/-! Runs with a fragment along the first axis, and one turned by 0.2213 rad or not at all. -/

@[reducible] def slightTurn : CircularFunctions where
  cos angle := if angle = 0 then 1 else .fin (40 / 41)
  sin angle := if angle = 0 then 0 else .fin (9 / 41)

attribute [local instance] slightTurn
attribute [local semireducible] Rat.add Rat.sub Rat.mul Rat.inv Rat.ofScientific

def sparsePair (yawRad : Scalar) : Fin 2 → CargoComponentFragment :=
  ![{ lengthM := 1.5, widthM := 0.08, maxZ := 1, pointCount := 5 },
    { center := ⟨2.05, 0⟩, lengthM := 1.5, widthM := 0.08, yawRad, maxZ := 1, pointCount := 5 }]

end CargoComponentFusion
end NdtSlam
