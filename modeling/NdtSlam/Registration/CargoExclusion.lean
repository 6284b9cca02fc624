import NdtSlam.Foundation.Rigid
import NdtSlam.Registration.CloudBudget
import NdtSlam.Safety.Evaluator

/-! The load is taken out of a registration cloud, by a second copy of the rules of its build. -/

namespace NdtSlam

section Outline

variable [CircularFunctions]

def containsPointInCargoObbBase (pointBase : Vec3) (footprint : CargoObbFootprint)
    (marginXyM marginZM : Scalar) : Bool :=
  if !pointBase.allFinite || !footprint.valid || !footprint.centerBase.allFinite ||
      !footprint.lengthM.isFinite || !footprint.widthM.isFinite ||
      !footprint.yawBaseRad.isFinite || !footprint.minZ.isFinite || !footprint.maxZ.isFinite ||
      footprint.lengthM ≤ 0 || footprint.widthM ≤ 0 || footprint.maxZ ≤ footprint.minZ then false
  else
    let marginXy := Scalar.maxOf 0 marginXyM
    let marginZ := Scalar.maxOf 0 marginZM
    let delta := pointBase.head2 - footprint.centerBase
    let cosine := cos footprint.yawBaseRad
    let sine := sin footprint.yawBaseRad
    let localX := cosine * delta.x + sine * delta.y
    let localY := -sine * delta.x + cosine * delta.y
    localX.abs ≤ 0.5 * footprint.lengthM + marginXy &&
      localY.abs ≤ 0.5 * footprint.widthM + marginXy &&
      footprint.minZ - marginZ ≤ pointBase.z && pointBase.z ≤ footprint.maxZ + marginZ

end Outline

namespace RegistrationCloud

def componentPoints (result : RegistrationCloudBuildResult) : List Vec3 :=
  result.staticComponent ++ result.uncertainComponent ++ result.groundComponent

section Builder

variable {config : RegistrationCloudBuildConfig}

theorem countXyCells_normalized (cloud : List Vec3) :
    countXyCells cloud ((normalized config).staticObjectVoxelSize * 2) =
      countXyCells cloud (.maxOf 0.05 (config.staticObjectVoxelSize * 2)) := by
  have side : Scalar.maxOf 0.05 ((normalized config).staticObjectVoxelSize * 2) =
      Scalar.maxOf 0.05 (.maxOf 0.05 (config.staticObjectVoxelSize * 2)) := by
    show Scalar.maxOf 0.05 (.maxOf 0.02 config.staticObjectVoxelSize * 2) = _
    cases config.staticObjectVoxelSize with
    | nan => with_unfolding_all decide
    | negInf => with_unfolding_all decide
    | posInf => decide
    | fin size =>
      show Scalar.maxOf (.fin 0.05) (.maxOf (.fin 0.02) (.fin size) * .fin 2) =
        Scalar.maxOf (.fin 0.05) (.maxOf (.fin 0.05) (.fin size * .fin 2))
      simp only [Scalar.maxOf_fin_fin, Scalar.fin_mul_fin, Scalar.fin.injEq]
      rcases le_total size 0.02 with less | more
      · rw [max_eq_left less, max_eq_left (by linarith : size * 2 ≤ 0.05)]
        norm_num
      · rw [max_eq_right more, max_eq_right (le_max_left _ _)]
  unfold countXyCells xyCell
  rw [side]

theorem foldl_choice_mem {better : Vec3 → Vec3 → Prop}
    [∀ first second, Decidable (better first second)] (points : List Vec3) (first : Vec3) :
    points.foldl (fun best point => if better point best then point else best) first ∈
      first :: points := by
  induction points generalizing first with
  | nil => exact List.mem_cons_self
  | cons point points ih =>
    rw [List.foldl_cons]
    split
    · exact List.mem_cons_of_mem _ (ih point)
    · exact List.cons_subset_cons _ (List.subset_cons_self _ _) (ih first)

theorem ranges_mem {input : List Vec3} {cellSize : Scalar} {ends : Vec3 × Vec3}
    (member : ends ∈ ranges input cellSize) :
    ends.1 ∈ finiteCopy input ∧ ends.2 ∈ finiteCopy input := by
  unfold ranges at member
  obtain ⟨cell, -, found⟩ := List.mem_filterMap.mp member
  have column : ∀ point ∈ (finiteCopy input).filter (xyCell cellSize · == cell),
      point ∈ finiteCopy input := fun point inside => (List.mem_filter.mp inside).1
  generalize (finiteCopy input).filter (xyCell cellSize · == cell) = points at column found
  cases points with
  | nil => cases found
  | cons first rest =>
    obtain rfl := Option.some.inj found
    exact ⟨column _ (foldl_choice_mem rest first), column _ (foldl_choice_mem rest first)⟩

theorem finiteCopy_finite {input : List Vec3} :
    ∀ point ∈ finiteCopy input, point.allFinite = true :=
  fun _ member => (List.mem_filter.mp member).2

theorem ends_finite {input : List Vec3} {cellSize : Scalar} {taken : Vec3 × Vec3 → List Vec3}
    (ofEnds : ∀ ends, taken ends ⊆ [ends.1, ends.2]) :
    ∀ point ∈ (ranges input cellSize).flatMap taken, point.allFinite = true := by
  intro point member
  obtain ⟨ends, column, isEnd⟩ := List.mem_flatMap.mp member
  obtain ⟨low, high⟩ := ranges_mem column
  have either := ofEnds ends isEnd
  simp only [List.mem_cons, List.not_mem_nil, or_false] at either
  rcases either with rfl | rfl
  · exact finiteCopy_finite _ low
  · exact finiteCopy_finite _ high

theorem limitUniform_finite {cloud : List Vec3} {maximum : Nat}
    (finite : ∀ point ∈ cloud, point.allFinite = true) :
    ∀ point ∈ limitUniform cloud maximum, point.allFinite = true :=
  fun point member => finite point ((limitUniform_spec cloud maximum).1.subset member)

variable [VoxelGrid] {staticObjects uncertain ground : List Vec3}

def FilterKeepsFinite : Prop :=
  ∀ leafSize cloud, (∀ point ∈ cloud, Vec3.allFinite point = true) →
    ∀ point ∈ VoxelGrid.filter leafSize cloud, Vec3.allFinite point = true

theorem voxelized_finite (keeps : FilterKeepsFinite) {input : List Vec3} {leafSize : Scalar}
    (finite : ∀ point ∈ input, point.allFinite = true) :
    ∀ point ∈ voxelized input leafSize, point.allFinite = true := by
  unfold voxelized
  split_ifs
  · simp
  · exact finite
  · exact keeps leafSize input finite

theorem selectStatic_finite (keeps : FilterKeepsFinite) (staticObjects : List Vec3) :
    ∀ point ∈ selectStatic config staticObjects, point.allFinite = true := by
  unfold selectStatic
  dsimp only
  split
  · refine voxelized_finite keeps fun point member => ?_
    rcases List.mem_append.mp member with own | recovered
    · exact finiteCopy_finite point own
    · exact ends_finite (fun (low, high) => by dsimp only; split_ifs <;> simp) point recovered
  · exact voxelized_finite keeps finiteCopy_finite

theorem enough_of_valid
    (accepted : (buildStructurePreservingRegistrationCloud staticObjects uncertain ground
      config).valid = true) :
    (buildStructurePreservingRegistrationCloud staticObjects uncertain ground
      config).structureQualityValid = true := by
  unfold buildStructurePreservingRegistrationCloud at accepted ⊢
  dsimp only at accepted ⊢
  split at accepted
  · cases accepted
  · next rich =>
    rw [if_neg rich]
    show (started _ _).structureQualityValid = true
    simpa using rich

theorem componentPoints_finite (keeps : FilterKeepsFinite)
    (enough : (buildStructurePreservingRegistrationCloud staticObjects uncertain ground
      config).structureQualityValid = true) :
    ∀ point ∈ componentPoints
      (buildStructurePreservingRegistrationCloud staticObjects uncertain ground config),
      point.allFinite = true := by
  obtain ⟨-, usedRecovery, built⟩ := assembled_of_enough enough
  rw [built]
  intro point member
  rcases List.mem_append.mp member with other | isGround
  · rcases List.mem_append.mp other with isStatic | isUncertain
    · exact limitUniform_finite (selectStatic_finite keeps staticObjects) point isStatic
    · exact limitUniform_finite (voxelized_finite keeps finiteCopy_finite) point isUncertain
  · refine limitUniform_finite (ends_finite ?_) point isGround
    intro (low, high)
    dsimp only
    split_ifs <;> simp

end Builder

section Load

variable [CircularFunctions] (footprint : CargoObbFootprint) (marginXyM marginZM : Scalar)

def filterComponent (source : List Vec3) : List Vec3 :=
  source.filter fun point =>
    point.allFinite && !containsPointInCargoObbBase point footprint marginXyM marginZM

def partlyNormalized (config : RegistrationCloudBuildConfig) : RegistrationCloudBuildConfig :=
  { config with
    staticObjectRepeat := max 1 config.staticObjectRepeat
    uncertainCandidateRepeat := max 0 config.uncertainCandidateRepeat
    groundMaxFraction := .clamp config.groundMaxFraction 0 0.49 }

def excludeCargoObbFromRegistrationCloud (input : RegistrationCloudBuildResult)
    (inputConfig : RegistrationCloudBuildConfig) : RegistrationCloudBuildResult × Nat :=
  if !footprint.valid then ({ reason := "invalid_cargo_obb" }, 0)
  else
    let static := filterComponent footprint marginXyM marginZM input.staticComponent
    let uncertain := filterComponent footprint marginXyM marginZM input.uncertainComponent
    let ground := filterComponent footprint marginXyM marginZM input.groundComponent
    let config := partlyNormalized inputConfig
    let cloud := repeated static config.staticObjectRepeat ++
      repeated uncertain config.uncertainCandidateRepeat ++ ground
    let cells := countXyCells static (.maxOf 0.05 (config.staticObjectVoxelSize * 2))
    let groundFraction := share ground.length cloud.length
    let quality := enoughStructure config static.length cells
    let valid := contractHolds config quality cloud.length groundFraction
    ({ cloud
       structureCloud := static
       staticComponent := static
       uncertainComponent := uncertain
       groundComponent := ground
       valid
       structureQualityValid := quality
       staticObjectPoints := static.length
       uncertainCandidatePoints := uncertain.length
       groundPoints := ground.length
       totalPoints := cloud.length
       structureXyCells := cells
       groundFraction
       mode := if valid then input.mode else "INSUFFICIENT_STRUCTURE"
       reason := if valid then "authorized_cargo_obb_removed_metrics_recomputed"
         else "authorized_cargo_removal_left_insufficient_structure" },
     input.totalPoints - cloud.length)

/-- Just the points outside the box are left, and without points inside nothing changes. -/
structure ExactExclusion (config : RegistrationCloudBuildConfig)
    (input result : RegistrationCloudBuildResult) (removed : Nat) : Prop where
  static : result.staticComponent =
    filterComponent footprint marginXyM marginZM input.staticComponent
  uncertain : result.uncertainComponent =
    filterComponent footprint marginXyM marginZM input.uncertainComponent
  ground : result.groundComponent =
    filterComponent footprint marginXyM marginZM input.groundComponent
  weighted : result.cloud = repeated result.staticComponent (max 1 config.staticObjectRepeat) ++
    repeated result.uncertainComponent (max 0 config.uncertainCandidateRepeat) ++
    result.groundComponent
  difference : input.cloud.length = result.cloud.length + removed
  unchanged : (∀ point ∈ componentPoints input,
      containsPointInCargoObbBase point footprint marginXyM marginZM = false) →
    result = { input with reason := result.reason }

variable {config : RegistrationCloudBuildConfig} {footprint : CargoObbFootprint}
  {marginXyM marginZM : Scalar}

theorem filterComponent_all {source : List Vec3}
    (finite : ∀ point ∈ source, point.allFinite = true)
    (outside : ∀ point ∈ source,
      containsPointInCargoObbBase point footprint marginXyM marginZM = false) :
    filterComponent footprint marginXyM marginZM source = source :=
  List.filter_eq_self.mpr fun point member => by simp [finite point member, outside point member]

theorem exclude_exact (usable : footprint.valid = true) {input : RegistrationCloudBuildResult}
    (weighted : input.cloud = repeated input.staticComponent (max 1 config.staticObjectRepeat) ++
      repeated input.uncertainComponent (max 0 config.uncertainCandidateRepeat) ++
      input.groundComponent)
    (total : input.totalPoints = input.cloud.length)
    (unchanged : (∀ point ∈ componentPoints input,
        containsPointInCargoObbBase point footprint marginXyM marginZM = false) →
      let result :=
        (excludeCargoObbFromRegistrationCloud footprint marginXyM marginZM input config).1
      result = { input with reason := result.reason }) :
    let excluded := excludeCargoObbFromRegistrationCloud footprint marginXyM marginZM input config
    ExactExclusion footprint marginXyM marginZM config input excluded.1 excluded.2 := by
  intro excluded
  have unfolded : excluded = _ := if_neg (by rw [usable]; decide)
  have fewer : ∀ source,
      (filterComponent footprint marginXyM marginZM source).length ≤ source.length := fun source =>
    List.length_filter_le _ source
  refine { static := by rw [unfolded], uncertain := by rw [unfolded], ground := by rw [unfolded]
           weighted := by rw [unfolded]; rfl, difference := ?_, unchanged := unchanged }
  have left : excluded.1.cloud.length ≤ input.cloud.length := by
    rw [unfolded, weighted]
    simp only [List.length_append, repeated_length]
    exact Nat.add_le_add (Nat.add_le_add (Nat.mul_le_mul_left _ (fewer _))
      (Nat.mul_le_mul_left _ (fewer _))) (fewer _)
  have removed : excluded.2 = input.totalPoints - excluded.1.cloud.length := by rw [unfolded]
  omega

theorem exclude_outside (usable : footprint.valid = true) {input : RegistrationCloudBuildResult}
    {static uncertain ground : List Vec3} {usedRecovery : Bool}
    (built : input = assembled (normalized config) (started (normalized config) static)
      usedRecovery uncertain ground)
    (quality : (started (normalized config) static).structureQualityValid = true)
    (finite : ∀ point ∈ componentPoints input, point.allFinite = true)
    (outside : ∀ point ∈ componentPoints input,
      containsPointInCargoObbBase point footprint marginXyM marginZM = false) :
    let result := (excludeCargoObbFromRegistrationCloud footprint marginXyM marginZM input config).1
    let valid := contractHolds (partlyNormalized config) true input.totalPoints input.groundFraction
    result = { input with
      valid, mode := if valid then input.mode else "INSUFFICIENT_STRUCTURE"
      reason := result.reason } := by
  have all : ∀ source ⊆ componentPoints input,
      filterComponent footprint marginXyM marginZM source = source := fun source part =>
    filterComponent_all (fun point member => finite point (part member))
      fun point member => outside point (part member)
  intro result valid
  unfold result valid excludeCargoObbFromRegistrationCloud
  rw [if_neg (by rw [usable]; decide), all input.staticComponent (by simp [componentPoints]),
    all input.uncertainComponent (by simp [componentPoints]),
    all input.groundComponent (by simp [componentPoints])]
  subst built
  -- Both copies count the same columns, and so they find the same quality.
  have cells : countXyCells static ((normalized config).staticObjectVoxelSize * 2) =
      countXyCells static (.maxOf 0.05 ((partlyNormalized config).staticObjectVoxelSize * 2)) :=
    countXyCells_normalized static
  have same : enoughStructure (partlyNormalized config) static.length
      (countXyCells static
        (.maxOf 0.05 ((partlyNormalized config).staticObjectVoxelSize * 2))) = true := by
    rw [← cells]
    exact quality
  dsimp only [assembled, started]
  rw [cells, same, show enoughStructure (normalized config) static.length (countXyCells static
    (.maxOf 0.05 ((partlyNormalized config).staticObjectVoxelSize * 2))) = true from same]
  rfl

theorem exclude_same_iff (usable : footprint.valid = true) {input : RegistrationCloudBuildResult}
    {static uncertain ground : List Vec3} {usedRecovery : Bool}
    (built : input = assembled (normalized config) (started (normalized config) static)
      usedRecovery uncertain ground)
    (quality : (started (normalized config) static).structureQualityValid = true)
    (accepted : input.valid = true)
    (finite : ∀ point ∈ componentPoints input, point.allFinite = true)
    (outside : ∀ point ∈ componentPoints input,
      containsPointInCargoObbBase point footprint marginXyM marginZM = false) :
    let result := (excludeCargoObbFromRegistrationCloud footprint marginXyM marginZM input config).1
    result = { input with reason := result.reason } ↔ input.totalPoints ≤ config.maxNdtPoints := by
  intro result
  have anew := exclude_outside usable built quality finite outside
  -- The upper bound apart, the input meets the second contract too.
  have contract : contractHolds (partlyNormalized config) true input.totalPoints
      input.groundFraction = true ↔ input.totalPoints ≤ config.maxNdtPoints := by
    have held : contractHolds (normalized config) true input.totalPoints
        input.groundFraction = true := by
      subst built
      change contractHolds _ (started (normalized config) static).structureQualityValid _ _ = true
        at accepted
      rwa [quality] at accepted
    unfold contractHolds at held ⊢
    simp only [Bool.true_and, Bool.and_eq_true, decide_eq_true_eq] at held ⊢
    exact ⟨fun all => all.1.2, fun most => ⟨⟨held.1.1, most⟩, held.2⟩⟩
  rw [← contract]
  constructor
  · intro same
    have valid := congrArg RegistrationCloudBuildResult.valid (anew.symm.trans same)
    exact valid.trans accepted
  · intro held
    have valid : result = { input with valid := true, reason := result.reason } := by
      simpa only [held, if_true] using anew
    rw [← accepted] at valid
    exact valid

/--
The exclusion is exact if and only if the outline is valid and either some point is in the box or
the cloud is within the upper bound as it is configured.
-/
theorem exclusion_exact_iff [VoxelGrid] {staticObjects uncertain ground : List Vec3}
    (keeps : FilterKeepsFinite)
    (accepted : (buildStructurePreservingRegistrationCloud staticObjects uncertain ground
      config).valid = true) :
    let input := buildStructurePreservingRegistrationCloud staticObjects uncertain ground config
    let excluded := excludeCargoObbFromRegistrationCloud footprint marginXyM marginZM input config
    ExactExclusion footprint marginXyM marginZM config input excluded.1 excluded.2 ↔
      footprint.valid = true ∧
        ((∃ point ∈ componentPoints input,
          containsPointInCargoObbBase point footprint marginXyM marginZM = true) ∨
        input.totalPoints ≤ config.maxNdtPoints) := by
  have enough := enough_of_valid accepted
  have finite := componentPoints_finite keeps enough
  obtain ⟨quality, usedRecovery, built⟩ := assembled_of_enough enough
  intro input excluded
  constructor
  · intro exact
    by_cases usable : footprint.valid = true
    · refine ⟨usable, ?_⟩
      by_contra neither
      rw [not_or] at neither
      have outside : ∀ point ∈ componentPoints input,
          containsPointInCargoObbBase point footprint marginXyM marginZM = false := by
        intro point member
        by_contra inside
        exact neither.1 ⟨point, member, by simpa using inside⟩
      exact neither.2 ((exclude_same_iff usable built quality accepted finite outside).mp
        (exact.unchanged outside))
    · -- Without an outline no point is inside, and yet nothing is left.
      have outside : ∀ point ∈ componentPoints input,
          containsPointInCargoObbBase point footprint marginXyM marginZM = false := by
        intro point _
        simp [containsPointInCargoObbBase, usable]
      have valid := congrArg RegistrationCloudBuildResult.valid (exact.unchanged outside)
      unfold excluded excludeCargoObbFromRegistrationCloud at valid
      rw [if_pos (by simp [usable])] at valid
      exact absurd (valid.trans accepted) (by decide)
  · rintro ⟨usable, fine⟩
    have total : input.totalPoints = input.cloud.length := by
      unfold input
      rw [built]
      rfl
    refine exclude_exact usable (by unfold input; rw [built]; rfl) total ?_
    intro outside
    have within : input.totalPoints ≤ config.maxNdtPoints := by
      refine fine.resolve_left ?_
      rintro ⟨point, member, inside⟩
      rw [outside point member] at inside
      cases inside
    exact (exclude_same_iff usable built quality accepted finite outside).mpr within

end Load

/-! Runs with a load ten metres away. -/

attribute [local instance] allPoints

@[reducible] def unturnedOutline : CircularFunctions := ⟨fun _ => 1, fun _ => 0⟩

attribute [local instance] unturnedOutline

def distantLoad : CargoObbFootprint :=
  { valid := true, centerBase := ⟨10, 0⟩, lengthM := 1, widthM := 1, maxZ := 1 }

theorem distantLoad_excluded_exactly :
    let input := buildStructurePreservingRegistrationCloud [{}] [] [] (onePoint 0.35)
    let excluded := excludeCargoObbFromRegistrationCloud distantLoad 0 0 input (onePoint 0.35)
    ExactExclusion distantLoad 0 0 (onePoint 0.35) input excluded.1 excluded.2 :=
  (exclusion_exact_iff (fun _ _ finite => finite) (by with_unfolding_all decide)).mpr
    ⟨rfl, .inr (by with_unfolding_all decide)⟩

theorem upper_bound_not_raised :
    let config := { onePoint 0.35 with maxNdtPoints := 0 }
    let input := buildStructurePreservingRegistrationCloud [{}] [] [] config
    let excluded := excludeCargoObbFromRegistrationCloud distantLoad 0 0 input config
    input.valid = true ∧ input.mode = "STRUCTURE_RICH" ∧ distantLoad.valid = true ∧
      (∀ point ∈ componentPoints input,
        containsPointInCargoObbBase point distantLoad 0 0 = false) ∧
      excluded.1.valid = false ∧ excluded.1.mode = "INSUFFICIENT_STRUCTURE" := by
  with_unfolding_all decide

end RegistrationCloud
end NdtSlam
