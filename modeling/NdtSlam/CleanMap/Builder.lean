import Mathlib.Data.List.Dedup
import Mathlib.Data.List.Sort
import NdtSlam.Foundation.Vector

/-! The clean map layer: which points of a snapshot are taken for static structure. -/

namespace NdtSlam

abbrev CleanMapCell := Int × Int

def compareCells : CleanMapCell → CleanMapCell → Ordering :=
  compareLex (compareOn Prod.fst) (compareOn Prod.snd)

abbrev CleanMapCellSet := Std.TreeSet CleanMapCell compareCells

abbrev CleanMapCellTable (Value : Type) := Std.TreeMap CleanMapCell Value compareCells

structure CleanMapDenyRange where
  zMin : Scalar := 0
  zMax : Scalar := 0
  deriving DecidableEq

structure CleanMapBuildInput where
  cellSizeM : Scalar := 0.15
  objectPoints : List Vec3 := []
  previousCleanPoints : List Vec3 := []
  payloadCandidatePoints : List Vec3 := []
  observationCounts : CleanMapCellTable Int := {}
  denyCells : CleanMapCellSet := {}
  protectCells : CleanMapCellSet := {}
  humanDenyCells : CleanMapCellSet := {}
  denyRanges : CleanMapCellTable (List CleanMapDenyRange) := {}
  useHumanDeny : Bool := false
  use3dDeny : Bool := false

structure CleanMapBuildResult where
  valid : Bool := false
  reason : String := "not_built"
  cleanPoints : List Vec3 := []
  totalCells : Int := 0
  passedCells : Int := 0
  deniedCells : Int := 0
  deniedPoints : Int := 0
  protectedCells : Int := 0
  protectedPoints : Int := 0
  humanDeniedCells : Int := 0
  retainedCells : Int := 0
  retainedPoints : Int := 0

namespace CleanMap

def cellFor (point : Vec3) (cellSize : Scalar) : CleanMapCell :=
  (⌊(point.x / cellSize).value⌋, ⌊(point.y / cellSize).value⌋)

def pointDeniedByRange (point : Vec3) (ranges : List CleanMapDenyRange) : Bool :=
  ranges.any fun range => range.zMin ≤ point.z && point.z ≤ range.zMax

def minimumHeightForDistance (distanceM : Scalar) : Scalar :=
  if distanceM < 10.0 then 0.35 else if distanceM < 20.0 then 0.25 else 0.15

def minimumObservationsForDistance (distanceM : Scalar) : Int :=
  if distanceM < 10.0 then 2 else 1

section Build

variable (input : CleanMapBuildInput)

def pointsIn (points : List Vec3) (cell : CleanMapCell) : List Vec3 :=
  points.filter fun point => point.allFinite && cellFor point input.cellSizeM == cell

def objectCells : List CleanMapCell :=
  (((input.objectPoints.filter Vec3.allFinite).map fun point =>
    cellFor point input.cellSizeM).dedup).insertionSort fun first second =>
      (compareCells first second).isLE

def globalMinZ : Scalar :=
  (input.objectPoints.filter Vec3.allFinite).foldl
    (fun lowest point => Scalar.minOf lowest point.z) .posInf

def maximumHeight (cell : CleanMapCell) : Scalar :=
  (pointsIn input input.objectPoints cell).foldl
    (fun highest point => Scalar.maxOf highest (point.z - globalMinZ input)) 0

def meanDistance [EuclideanNorm] (cell : CleanMapCell) : Scalar :=
  let points := pointsIn input input.objectPoints cell
  if points.isEmpty then 0
  else points.foldl (fun sum point => sum + point.head2.norm) 0 / .ofNat points.length

def deniedInVolume (cell : CleanMapCell) (point : Vec3) : Bool :=
  input.use3dDeny &&
    match input.denyRanges[cell]? with
    | some ranges => pointDeniedByRange point ranges
    | none => false

variable (result : CleanMapBuildResult)

def protectCell (cell : CleanMapCell) : CleanMapBuildResult :=
  let points := pointsIn input input.objectPoints cell
  let payload := pointsIn input input.payloadCandidatePoints cell
  { result with
    cleanPoints := result.cleanPoints ++ points ++ payload
    protectedCells := result.protectedCells + 1
    protectedPoints := result.protectedPoints + payload.length + points.length
    passedCells := result.passedCells + 1 }

def denyCell (cell : CleanMapCell) : CleanMapBuildResult :=
  { result with
    deniedCells := result.deniedCells + 1
    deniedPoints := result.deniedPoints + (pointsIn input input.objectPoints cell).length }

def keepHumanCell (cell : CleanMapCell) : CleanMapBuildResult :=
  let previous := pointsIn input input.previousCleanPoints cell
  let found : Int := if previous.isEmpty then 0 else 1
  { result with
    -- The denied heights of the cell are not consulted here.
    cleanPoints := result.cleanPoints ++ previous
    retainedPoints := result.retainedPoints + previous.length
    retainedCells := result.retainedCells + found
    passedCells := result.passedCells + found
    humanDeniedCells := result.humanDeniedCells + 1 }

def retainCell (cell : CleanMapCell) : CleanMapBuildResult :=
  let previous := pointsIn input input.previousCleanPoints cell
  let retained := previous.filter fun point => !deniedInVolume input cell point
  let found : Int := if retained.isEmpty then 0 else 1
  { result with
    cleanPoints := result.cleanPoints ++ retained
    deniedPoints := result.deniedPoints + (previous.length - retained.length)
    retainedPoints := result.retainedPoints + retained.length
    retainedCells := result.retainedCells + found
    passedCells := result.passedCells + found }

def learnCell (cell : CleanMapCell) : CleanMapBuildResult :=
  let points := pointsIn input input.objectPoints cell
  let learned := points.filter fun point => !deniedInVolume input cell point
  { result with
    cleanPoints := result.cleanPoints ++ learned
    deniedPoints := result.deniedPoints + (points.length - learned.length)
    passedCells := result.passedCells + 1 }

def visitCell [EuclideanNorm] (before : CleanMapBuildResult) (cell : CleanMapCell) :
    CleanMapBuildResult :=
  let result := { before with totalCells := before.totalCells + 1 }
  let distance := meanDistance input cell
  if input.protectCells.contains cell then protectCell input result cell
  else if input.denyCells.contains cell then denyCell input result cell
  else if input.useHumanDeny && input.humanDenyCells.contains cell then
    keepHumanCell input result cell
  else if input.observationCounts[cell]?.getD 0 < minimumObservationsForDistance distance then
    retainCell input result cell
  else if maximumHeight input cell < minimumHeightForDistance distance ||
      (pointsIn input input.objectPoints cell).length < 3 then
    result
  else learnCell input result cell

def buildCleanMapFromSnapshot [EuclideanNorm] : CleanMapBuildResult :=
  if !input.cellSizeM.isFinite || input.cellSizeM ≤ 0 then { reason := "invalid_cell_size" }
  else if input.objectPoints.isEmpty then { valid := true, reason := "objects_empty" }
  else if 1000 < input.objectPoints.length && input.observationCounts.isEmpty then
    { reason := "observation_history_empty" }
  else if !(globalMinZ input).isFinite then { reason := "objects_nonfinite" }
  else
    { (objectCells input).foldl (visitCell input) {} with
      valid := true
      reason := "complete" }

end Build

end CleanMap
end NdtSlam
