import NdtSlam.Obstacle.Track
import NdtSlam.StaticEvidence.Index
import Mathlib.Data.Int.Range

/-! How the index answers whether the cells of an obstacle are known to be static. -/

namespace NdtSlam

structure StaticProvenanceQuery where
  occupiedMapCells : List Int64 := []
  minZMap : Scalar := 0
  maxZMap : Scalar := 0
  cargoTrackStartSequence : Nat := 0
  expectedMapGeneration : Nat := 0

structure StaticProvenanceDecision where
  provenance : ExternalProvenance := .none
  authority : StaticEvidenceAuthority := .unverifiedLoadedClean
  authorized : Bool := false
  matchedCellRatio : Scalar := 0
  matchedIou : Scalar := 0
  heightOverlap : Scalar := 0
  stableObservationCount : Nat := 0
  stableAgeSec : Scalar := 0
  mapGeneration : Nat := 0
  expectedMapGeneration : Nat := 0
  indexRevision : Nat := 0
  indexLatestObservationSequence : Nat := 0
  cargoTrackStartSequence : Nat := 0
  indexCellCount : Nat := 0
  queryCellCount : Nat := 0
  matchedCellCount : Nat := 0
  spatiallyMatchedCellCount : Nat := 0
  reason : String := "static_index_empty"

namespace StaticObstacleEvidenceIndex

def intervalOverlapRatio (queryMin queryMax cellMin cellMax toleranceM : Scalar) : Scalar :=
  if !queryMin.isFinite || !queryMax.isFinite || !cellMin.isFinite || !cellMax.isFinite ||
      queryMax < queryMin || cellMax < cellMin || !toleranceM.isFinite || toleranceM < 0 then 0
  else
    let overlap := Scalar.maxOf 0 (.minOf (queryMax + toleranceM) (cellMax + toleranceM) -
      .maxOf (queryMin - toleranceM) (cellMin - toleranceM))
    let denominator := Scalar.maxOf 0.05 (.minOf (queryMax - queryMin + 2 * toleranceM)
      (cellMax - cellMin + 2 * toleranceM))
    (overlap / denominator).clamp 0 1

def packStaticEvidenceCell (x y : Int) : Int := CargoObstacleTracker.packCell x y

def unpackStaticEvidenceCell (key : Int) : Int × Int := CargoObstacleTracker.unpackCell key

structure CellBox where
  minX : Int := 2147483647
  maxX : Int := -2147483648
  minY : Int := 2147483647
  maxY : Int := -2147483648

namespace CellBox

def enclose (box : CellBox) (key : Int) : CellBox :=
  let (x, y) := unpackStaticEvidenceCell key
  ⟨min box.minX x, max box.maxX x, min box.minY y, max box.maxY y⟩

def around (cells : CellKeySet) : CellBox := cells.toList.foldl enclose {}

variable (box : CellBox)

def width : Int := box.maxX - box.minX + 1

def height : Int := box.maxY - box.minY + 1

def exceeds (maximum : Nat) : Bool :=
  box.width ≤ 0 || box.height ≤ 0 || (maximum : Int) < box.width || (maximum : Int) < box.height ||
    (maximum : Int) < (box.width * box.height).bmod (2 ^ 64)

def scan : List Int :=
  (Int.range box.minX (box.maxX + 1) ×ˢ Int.range box.minY (box.maxY + 1)).map fun place =>
    packStaticEvidenceCell place.1 place.2

end CellBox

section Tests

variable (config : StaticObstacleEvidenceConfig) (current : StaticEvidenceSnapshot)
  (input : StaticProvenanceQuery) (cell : StaticEvidenceCell)

def heightRatio : Scalar :=
  intervalOverlapRatio input.minZMap input.maxZMap cell.minZ cell.maxZ config.heightToleranceM

def stableHistory : Bool :=
  let operatorApproved := current.authority == .operatorApprovedBaseline
  let authorityAllowed := current.authority != .unverifiedLoadedClean
  cell.cleanMapConfirmed && authorityAllowed && (cell.temporallyMature || operatorApproved) &&
    cell.mapGeneration == input.expectedMapGeneration &&
    (operatorApproved ||
      (config.minimumObservations ≤ cell.consecutiveObservationCount &&
        config.minimumStableDurationSec ≤ cell.consecutiveStableDurationSec + stampEpsilonSec))

def isStable : Bool :=
  stableHistory config current input cell &&
    config.minimumHeightOverlap ≤ heightRatio config input cell

def isPreCargo : Bool :=
  0 < input.cargoTrackStartSequence && 0 < cell.firstObservationSequence &&
    cell.firstObservationSequence ≤ input.cargoTrackStartSequence &&
    config.preCargoMinimumSequenceGap ≤
      input.cargoTrackStartSequence - cell.firstObservationSequence

end Tests

structure QueryTally where
  matched : Nat := 0
  preCargoMatched : Nat := 0
  localEvidence : Nat := 0
  localPreCargo : Nat := 0
  spatiallyMatched : Nat := 0
  minimumHeightRatio : Scalar := 1
  minimumObservations : Nat := 4294967295
  minimumStableAge : Scalar := .posInf

def queryCells (input : StaticProvenanceQuery) : CellKeySet :=
  .ofList (input.occupiedMapCells.map Int64.toInt) compare

variable (self : StaticObstacleEvidenceIndex) (input : StaticProvenanceQuery)

def countCell (tally : QueryTally) (key : Int) (cell : StaticEvidenceCell) : QueryTally :=
  let queried := (queryCells input).contains key
  let tally :=
    if stableHistory self.config self.snapshot input cell && queried then
      { tally with spatiallyMatched := tally.spatiallyMatched + 1 }
    else tally
  if !isStable self.config self.snapshot input cell then tally
  else
    let preCargo := isPreCargo self.config input cell
    let tally := { tally with
      localEvidence := tally.localEvidence + 1
      localPreCargo := if preCargo then tally.localPreCargo + 1 else tally.localPreCargo }
    if !queried then tally
    else { tally with
      matched := tally.matched + 1
      preCargoMatched := if preCargo then tally.preCargoMatched + 1 else tally.preCargoMatched
      minimumHeightRatio :=
        .minOf tally.minimumHeightRatio (heightRatio self.config input cell)
      minimumObservations := min tally.minimumObservations cell.consecutiveObservationCount
      minimumStableAge := .minOf tally.minimumStableAge cell.consecutiveStableDurationSec }

def visitCell (tally : QueryTally) (key : Int) : QueryTally :=
  match self.snapshot.cells[key]? with
  | none => tally
  | some cell => self.countCell input tally key cell

def ratio (querySize count : Nat) : Scalar :=
  if querySize == 0 then 0 else .ofNat count / .ofNat querySize

def iou (querySize intersection evidenceSize : Nat) : Scalar :=
  let unionSize := querySize + evidenceSize - intersection
  if unionSize == 0 then 0 else .ofNat intersection / .ofNat unionSize

def emptyDecision : StaticProvenanceDecision :=
  { expectedMapGeneration := input.expectedMapGeneration
    cargoTrackStartSequence := input.cargoTrackStartSequence
    authority := self.snapshot.authority
    mapGeneration := self.snapshot.mapGeneration
    indexRevision := self.snapshot.revision
    indexLatestObservationSequence := self.snapshot.latestObservationSequence
    indexCellCount := self.snapshot.cells.size }

def conclude (tally : QueryTally) : StaticProvenanceDecision :=
  let config := self.config
  let size := (queryCells input).size
  let decision := { self.emptyDecision input with
    queryCellCount := size
    matchedCellRatio := ratio size tally.matched
    matchedIou := iou size tally.matched tally.localEvidence
    matchedCellCount := tally.matched
    spatiallyMatchedCellCount := tally.spatiallyMatched
    heightOverlap := if 0 < tally.matched then tally.minimumHeightRatio else 0
    stableObservationCount := if 0 < tally.matched then tally.minimumObservations else 0
    stableAgeSec := if 0 < tally.matched then tally.minimumStableAge else 0 }
  let preRatio := ratio size tally.preCargoMatched
  if config.minimumMatchedCells ≤ tally.preCargoMatched && config.minimumCellOverlap ≤ preRatio then
    { decision with
      provenance := .preCargoOccupancy
      authorized := true
      matchedCellRatio := preRatio
      matchedIou := iou size tally.preCargoMatched tally.localPreCargo
      reason := "pre_cargo_occupancy_confirmed" }
  else if config.minimumMatchedCells ≤ tally.matched &&
      config.minimumCellOverlap ≤ decision.matchedCellRatio then
    { decision with
      provenance := .staticMapMatch
      authorized := true
      reason := if self.snapshot.authority == .operatorApprovedBaseline then
          "operator_approved_static_map_match"
        else "static_map_match_confirmed" }
  else { decision with
    reason :=
      if 0 < tally.spatiallyMatched && tally.matched == 0 then "static_map_height_mismatch"
      else if tally.matched < config.minimumMatchedCells then
        "static_map_insufficient_matched_cells"
      else "static_map_query_coverage_below_threshold" }

def admission : Except StaticProvenanceDecision CellBox :=
  let decision := self.emptyDecision input
  let box := CellBox.around (queryCells input)
  if self.snapshot.cells.isEmpty then .error decision
  else if self.snapshot.mapGeneration != input.expectedMapGeneration then
    .error { decision with reason := "static_index_generation_mismatch" }
  else if self.snapshot.authority == .unverifiedLoadedClean then
    .error { decision with reason := "static_index_unverified_loaded_clean" }
  else if !input.minZMap.isFinite || !input.maxZMap.isFinite || input.maxZMap < input.minZMap ||
      input.occupiedMapCells.isEmpty then
    .error { decision with reason := "static_index_query_invalid" }
  else if box.exceeds self.config.maximumQueryAreaCells then
    .error { decision with
      queryCellCount := (queryCells input).size
      reason := "static_index_query_area_exceeded" }
  else .ok box

def visited : List Int :=
  match self.admission input with
  | .error _ => []
  | .ok box => box.scan

def query : StaticProvenanceDecision :=
  match self.admission input with
  | .error decision => decision
  | .ok box => self.conclude input (box.scan.foldl (self.visitCell input) {})

end StaticObstacleEvidenceIndex
end NdtSlam
