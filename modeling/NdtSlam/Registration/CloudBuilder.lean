import Mathlib.Data.List.Dedup
import Mathlib.Data.List.Sort
import Mathlib.Data.Prod.Lex
import NdtSlam.Foundation.Extrema
import NdtSlam.Foundation.Vector

/-! The cloud that is registered against the map: static structure first, bounded ground last. -/

namespace NdtSlam

structure RegistrationCloudBuildConfig where
  staticObjectVoxelSize : Scalar := 0.22
  uncertainCandidateVoxelSize : Scalar := 0.30
  groundGridCellM : Scalar := 0.50
  groundEdgeHeightChangeM : Scalar := 0.08
  staticObjectRepeat : Int := 2
  uncertainCandidateRepeat : Int := 1
  groundMaxFraction : Scalar := 0.35
  minStaticObjectPoints : Nat := 600
  minStructureXyCells : Nat := 40
  minRegistrationPoints : Nat := 2500
  targetRegistrationPoints : Nat := 4000
  maxNdtPoints : Nat := 6000

structure RegistrationCloudBuildResult where
  cloud : List Vec3 := []
  structureCloud : List Vec3 := []
  staticComponent : List Vec3 := []
  uncertainComponent : List Vec3 := []
  groundComponent : List Vec3 := []
  valid : Bool := false
  structureQualityValid : Bool := false
  staticObjectPoints : Nat := 0
  uncertainCandidatePoints : Nat := 0
  groundPoints : Nat := 0
  totalPoints : Nat := 0
  structureXyCells : Nat := 0
  groundFraction : Scalar := 0
  mode : String := "INSUFFICIENT_STRUCTURE"
  reason : String := "not_built"

namespace RegistrationCloud

def finiteCopy (input : List Vec3) : List Vec3 := input.filter Vec3.allFinite

/-- The filter of the point library, which takes the side of its cells. -/
class VoxelGrid where
  filter : Scalar → List Vec3 → List Vec3

def voxelized [VoxelGrid] (input : List Vec3) (leafSize : Scalar) : List Vec3 :=
  if input.isEmpty then []
  else if !leafSize.isFinite || leafSize ≤ 1.0e-6 then input
  else VoxelGrid.filter leafSize input

def sourcePlace (size maximum index : Nat) : Nat :=
  min (size - 1) ⌊index * ((size : ℚ) / maximum)⌋₊

def limitUniform (cloud : List Vec3) (maximum : Nat) : List Vec3 :=
  if maximum = 0 then []
  else if cloud.length ≤ maximum then cloud
  else (List.range maximum).map fun index =>
    cloud.getD (sourcePlace cloud.length maximum index) default

def xyCell (cellSize : Scalar) (point : Vec3) : Int × Int :=
  let cell := Scalar.maxOf 0.05 cellSize
  (⌊(point.x / cell).value⌋, ⌊(point.y / cell).value⌋)

def countXyCells (cloud : List Vec3) (cellSize : Scalar) : Nat :=
  ((finiteCopy cloud).map (xyCell cellSize)).dedup.length

def ranges (input : List Vec3) (cellSize : Scalar) : List (Vec3 × Vec3) :=
  let points := finiteCopy input
  let cells := (points.map (xyCell cellSize)).dedup.insertionSort fun first second =>
    toLex first ≤ toLex second
  cells.filterMap fun cell =>
    match points.filter fun point => xyCell cellSize point == cell with
    | [] => none
    | first :: rest =>
      some (rest.foldl (fun minimum point => if point.z < minimum.z then point else minimum) first,
        rest.foldl (fun maximum point => if maximum.z < point.z then point else maximum) first)

def verticalEdgeRecovery (input : List Vec3) (xyCellSize : Scalar) : List Vec3 :=
  (ranges input xyCellSize).flatMap fun (minimum, maximum) =>
    if maximum.z - minimum.z < 0.40 then [] else [minimum, maximum]

def gridSampleGround (input : List Vec3) (cellSize edgeHeightChange : Scalar) : List Vec3 :=
  (ranges input cellSize).flatMap fun (minimum, maximum) =>
    if edgeHeightChange ≤ maximum.z - minimum.z then [minimum, maximum] else [minimum]

def repeated (source : List Vec3) (copies : Int) : List Vec3 :=
  (List.replicate copies.toNat source).flatten

def normalized (config : RegistrationCloudBuildConfig) : RegistrationCloudBuildConfig :=
  { config with
    staticObjectVoxelSize := .maxOf 0.02 config.staticObjectVoxelSize
    uncertainCandidateVoxelSize := .maxOf 0.02 config.uncertainCandidateVoxelSize
    groundGridCellM := .maxOf 0.05 config.groundGridCellM
    groundMaxFraction := .clamp config.groundMaxFraction 0 0.49
    staticObjectRepeat := max 1 config.staticObjectRepeat
    uncertainCandidateRepeat := max 0 config.uncertainCandidateRepeat
    targetRegistrationPoints := max config.minRegistrationPoints config.targetRegistrationPoints
    maxNdtPoints := max config.minRegistrationPoints config.maxNdtPoints }

def targetPoints (config : RegistrationCloudBuildConfig) : Nat :=
  min config.targetRegistrationPoints config.maxNdtPoints

def share (groundPoints totalPoints : Nat) : Scalar :=
  if 0 < totalPoints then .ofNat groundPoints / .ofNat totalPoints else 0

section Build

variable [VoxelGrid] (config : RegistrationCloudBuildConfig)

def selectStatic (staticObjects : List Vec3) : List Vec3 :=
  let finite := finiteCopy staticObjects
  let normal := voxelized finite config.staticObjectVoxelSize
  if normal.length < config.minStaticObjectPoints then
    voxelized (finite ++ verticalEdgeRecovery finite config.staticObjectVoxelSize)
      (config.staticObjectVoxelSize * 0.5)
  else normal

def ratioCap (nonGroundPoints : Nat) : Nat :=
  let fraction := config.groundMaxFraction
  if 0 < fraction then ⌊((fraction * .ofNat nonGroundPoints) / (1 - fraction)).value⌋₊ else 0

def limitedStatic (staticObjects : List Vec3) : List Vec3 :=
  limitUniform (selectStatic config staticObjects)
    (max 1 (targetPoints config / config.staticObjectRepeat.toNat))

def enoughStructure (points cells : Nat) : Bool :=
  config.minStaticObjectPoints ≤ points && config.minStructureXyCells ≤ cells

def contractHolds (quality : Bool) (totalPoints : Nat) (groundFraction : Scalar) : Bool :=
  quality && config.minRegistrationPoints ≤ totalPoints && totalPoints ≤ config.maxNdtPoints &&
    groundFraction ≤ config.groundMaxFraction + 1.0e-9

def started (selectedStatic : List Vec3) : RegistrationCloudBuildResult :=
  let cells := countXyCells selectedStatic (config.staticObjectVoxelSize * 2)
  { structureCloud := selectedStatic
    staticComponent := selectedStatic
    structureQualityValid := enoughStructure config selectedStatic.length cells
    staticObjectPoints := selectedStatic.length
    structureXyCells := cells }

def assembled (result : RegistrationCloudBuildResult) (usedRecovery : Bool)
    (uncertain ground : List Vec3) : RegistrationCloudBuildResult :=
  let nonGround := repeated result.staticComponent config.staticObjectRepeat ++
    repeated uncertain config.uncertainCandidateRepeat
  let cloud := nonGround ++ ground
  let groundFraction := share ground.length cloud.length
  let valid := contractHolds config result.structureQualityValid cloud.length groundFraction
  let augmented := 0 < ground.length && nonGround.length < config.minRegistrationPoints
  { result with
    cloud
    uncertainComponent := uncertain
    groundComponent := ground
    valid
    uncertainCandidatePoints := uncertain.length
    groundPoints := ground.length
    totalPoints := cloud.length
    groundFraction
    mode := if !valid then "INSUFFICIENT_STRUCTURE"
      else if usedRecovery then "STRUCTURE_RECOVERY"
      else if augmented then "GROUND_AUGMENTED"
      else "STRUCTURE_RICH"
    reason := if !valid then
        if cloud.length < config.minRegistrationPoints then
          "safe_registration_points_below_minimum"
        else "ground_fraction_or_size_contract_failed"
      else if usedRecovery then "static_voxel_recovery"
      else if augmented then "bounded_grid_ground_augmentation"
      else "safe_static_structure_sufficient" }

def limitedUncertain (staticPoints : Nat) (uncertainCandidates : List Vec3) : List Vec3 :=
  limitUniform (voxelized (finiteCopy uncertainCandidates) config.uncertainCandidateVoxelSize)
    ((targetPoints config - staticPoints) / (max 1 config.uncertainCandidateRepeat).toNat)

def limitedGround (nonGroundPoints : Nat) (ground : List Vec3) : List Vec3 :=
  limitUniform
    (gridSampleGround (finiteCopy ground) config.groundGridCellM
      (.maxOf 0 config.groundEdgeHeightChangeM))
    (min (ratioCap config nonGroundPoints) (targetPoints config - nonGroundPoints))

def buildStructurePreservingRegistrationCloud
    (humanSafeStaticObjects uncertainCandidates ground : List Vec3)
    (inputConfig : RegistrationCloudBuildConfig) : RegistrationCloudBuildResult :=
  let config := normalized inputConfig
  let normalStaticCount :=
    (voxelized (finiteCopy humanSafeStaticObjects) config.staticObjectVoxelSize).length
  let usedRecovery := decide (normalStaticCount < config.minStaticObjectPoints)
  let selectedStatic := limitedStatic config humanSafeStaticObjects
  let result := started config selectedStatic
  if !result.structureQualityValid then
    { result with
      reason := if selectedStatic.length < config.minStaticObjectPoints then
          "static_object_points_below_minimum"
        else "static_structure_xy_coverage_insufficient" }
  else
    let staticPoints := (repeated selectedStatic config.staticObjectRepeat).length
    let selectedUncertain := limitedUncertain config staticPoints uncertainCandidates
    let nonGroundPoints :=
      staticPoints + (repeated selectedUncertain config.uncertainCandidateRepeat).length
    assembled config result usedRecovery selectedUncertain
      (limitedGround config nonGroundPoints ground)

end Build
end RegistrationCloud
end NdtSlam
