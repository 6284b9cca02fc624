import NdtSlam.Foundation.History
import NdtSlam.Foundation.Scalar
import NdtSlam.StaticEvidence.Authority

/-! The index of cells that are occupied by static obstacles, and how evidence changes it. -/

namespace NdtSlam

structure StaticObstacleEvidenceConfig where
  cellSizeM : Scalar := 0.25
  minimumObservations : Nat := 4
  minimumStableDurationSec : Scalar := 1.0
  minimumCellOverlap : Scalar := 0.60
  minimumIou : Scalar := 0.45
  minimumHeightOverlap : Scalar := 0.50
  heightToleranceM : Scalar := 0.10
  minimumMatchedCells : Nat := 6
  maximumQueryAreaCells : Nat := 4096
  preCargoMinimumSequenceGap : Nat := 2
  maximumObservationGapSec : Scalar := 30.0
  maximumObservationSequenceGap : Nat := 2

structure StaticEvidenceCellGeometry where
  minZ : Scalar := 0
  maxZ : Scalar := 0
  deriving DecidableEq

abbrev CellMap (Value : Type) := Std.ExtTreeMap Int Value compare

abbrev CellKeySet := Std.ExtTreeSet Int compare

structure StaticEvidenceCell where
  key : Int := 0
  consecutiveObservationCount : Nat := 0
  totalObservationCount : Nat := 0
  firstSeenSec : Scalar := 0
  lastSeenSec : Scalar := 0
  consecutiveStableDurationSec : Scalar := 0
  minZ : Scalar := 0
  maxZ : Scalar := 0
  cleanMapConfirmed : Bool := false
  temporallyMature : Bool := false
  firstObservationSequence : Nat := 0
  lastObservationSequence : Nat := 0
  lastObservedObjectsVersion : Nat := 0
  lastCleanConfirmedVersion : Nat := 0
  lastInvalidatedVersion : Nat := 0
  mapGeneration : Nat := 0
  deriving DecidableEq

structure StaticEvidenceSnapshot where
  schemaVersion : Nat := 3
  mapGeneration : Nat := 0
  revision : Nat := 0
  latestObservationSequence : Nat := 0
  sourceStampSec : Scalar := 0
  cellSizeM : Scalar := 0.25
  authority : StaticEvidenceAuthority := .runtimeMature
  cells : CellMap StaticEvidenceCell := {}

structure StaticEvidenceDiagnostics where
  resetByTimeGap : Nat := 0
  resetBySequenceGap : Nat := 0
  invalidatedByTombstone : Nat := 0
  generationMismatch : Nat := 0
  heightInvalid : Nat := 0
  notInView : Nat := 0
  observedFree : Nat := 0
  observedOccupied : Nat := 0

structure StaticEvidenceMutationResult where
  confirmedCells : Nat := 0
  invalidatedCells : Nat := 0
  snapshotCells : Nat := 0
  revision : Nat := 0

structure StaticObstacleEvidenceIndex where
  config : StaticObstacleEvidenceConfig := {}
  workingCells : CellMap StaticEvidenceCell := {}
  invalidatedVersions : CellMap Nat := {}
  observedFreeTombstones : CellKeySet := {}
  workingGeneration : Nat := 0
  latestObservationSequence : Nat := 0
  revision : Nat := 0
  lastObservationStampSec : Scalar := 0
  authority : StaticEvidenceAuthority := .runtimeMature
  diagnosticsTotals : StaticEvidenceDiagnostics := {}
  snapshot : StaticEvidenceSnapshot := {}

namespace StaticObstacleEvidenceIndex

def stampEpsilonSec : Scalar := 1.0e-4

def maximumBoundedQueryCells : Nat := 65536

def schemaVersion : Nat := 3

def validShare (share : Scalar) : Bool := share.isFinite && 0 < share && share ≤ 1

def validConfig (config : StaticObstacleEvidenceConfig) : Bool :=
  config.cellSizeM.isFinite && 0 < config.cellSizeM && 0 < config.minimumObservations &&
    config.minimumStableDurationSec.isFinite && 0 ≤ config.minimumStableDurationSec &&
    validShare config.minimumCellOverlap && validShare config.minimumIou &&
    validShare config.minimumHeightOverlap &&
    config.heightToleranceM.isFinite && 0 ≤ config.heightToleranceM &&
    0 < config.minimumMatchedCells &&
    config.minimumMatchedCells ≤ config.maximumQueryAreaCells &&
    config.maximumQueryAreaCells ≤ maximumBoundedQueryCells &&
    config.maximumObservationGapSec.isFinite && 0 < config.maximumObservationGapSec &&
    0 < config.maximumObservationSequenceGap

def nextCounter (counter : Nat) : Nat :=
  if (counter + 1) % 2 ^ 64 = 0 then 1 else (counter + 1) % 2 ^ 64

def setConfig (config : StaticObstacleEvidenceConfig) : StaticObstacleEvidenceIndex :=
  let accepted := if validConfig config then config else {}
  { config := accepted, snapshot := { cellSizeM := accepted.cellSizeM } }

def publishSnapshot (self : StaticObstacleEvidenceIndex) (stampSec : Scalar) :
    StaticObstacleEvidenceIndex :=
  let revision := nextCounter self.revision
  { self with
    revision := revision
    snapshot :=
      { mapGeneration := self.workingGeneration
        revision := revision
        latestObservationSequence := self.latestObservationSequence
        sourceStampSec := stampSec
        cellSizeM := self.config.cellSizeM
        authority := self.authority
        cells := self.workingCells.filter fun _ cell => cell.cleanMapConfirmed } }

def reset (self : StaticObstacleEvidenceIndex) (mapGeneration : Nat) :
    StaticObstacleEvidenceIndex :=
  publishSnapshot
    { self with
      workingCells := {}
      invalidatedVersions := {}
      observedFreeTombstones := {}
      workingGeneration := mapGeneration
      latestObservationSequence := 0
      lastObservationStampSec := 0
      authority := .runtimeMature
      diagnosticsTotals := {} } 0

def countMismatch (self : StaticObstacleEvidenceIndex) : StaticObstacleEvidenceIndex :=
  { self with diagnosticsTotals :=
    { self.diagnosticsTotals with
      generationMismatch := self.diagnosticsTotals.generationMismatch + 1 } }

def isTemporallyMature (config : StaticObstacleEvidenceConfig) (generation : Nat)
    (cell : StaticEvidenceCell) : Bool :=
  cell.cleanMapConfirmed && cell.mapGeneration == generation &&
    config.minimumObservations ≤ cell.consecutiveObservationCount &&
    config.minimumStableDurationSec ≤ cell.consecutiveStableDurationSec + stampEpsilonSec

inductive Continuation where
  | continuous
  | timeGap
  | sequenceGap
  | paused

def continuation (config : StaticObstacleEvidenceConfig) (sequence : Nat) (stampSec : Scalar)
    (cell : StaticEvidenceCell) : Continuation :=
  let delta := stampSec - cell.lastSeenSec
  let sequenceGap := sequence - cell.lastObservationSequence
  if delta.isFinite && stampEpsilonSec < delta && delta ≤ config.maximumObservationGapSec &&
      sequenceGap == 1 then .continuous
  else if sequenceGap == 1 && !cell.temporallyMature then .timeGap
  else if sequenceGap == 0 && !cell.temporallyMature then .sequenceGap
  else .paused

def firstSight (key : Int) (sequence : Nat) (stampSec : Scalar)
    (geometry : StaticEvidenceCellGeometry) : StaticEvidenceCell :=
  { key, firstSeenSec := stampSec, firstObservationSequence := sequence
    minZ := geometry.minZ, maxZ := geometry.maxZ }

def resumeStreak (continuation : Continuation) (sequence : Nat) (stampSec : Scalar)
    (geometry : StaticEvidenceCellGeometry) (cell : StaticEvidenceCell) : StaticEvidenceCell :=
  match continuation with
  | .continuous =>
    { cell with consecutiveStableDurationSec :=
        cell.consecutiveStableDurationSec + (stampSec - cell.lastSeenSec) }
  | .timeGap =>
    { cell with
      consecutiveObservationCount := 0, consecutiveStableDurationSec := 0
      firstSeenSec := stampSec, firstObservationSequence := sequence
      minZ := geometry.minZ, maxZ := geometry.maxZ }
  | .sequenceGap =>
    { cell with consecutiveObservationCount := 0, consecutiveStableDurationSec := 0 }
  | .paused => cell

def widen (cell : StaticEvidenceCell) (geometry : StaticEvidenceCellGeometry) :
    StaticEvidenceCell :=
  { cell with minZ := cell.minZ.minOf geometry.minZ, maxZ := cell.maxZ.maxOf geometry.maxZ }

def saturating (maximum counter : Nat) : Nat := if counter < maximum then counter + 1 else counter

def countObservation (cell : StaticEvidenceCell) (sequence : Nat) (stampSec : Scalar)
    (generation objectsVersion : Nat) : StaticEvidenceCell :=
  { cell with
    consecutiveObservationCount := saturating (2 ^ 32 - 1) cell.consecutiveObservationCount
    totalObservationCount := saturating (2 ^ 64 - 1) cell.totalObservationCount
    lastSeenSec := stampSec
    lastObservationSequence := sequence
    lastObservedObjectsVersion := objectsVersion
    mapGeneration := generation }

def ripen (config : StaticObstacleEvidenceConfig) (generation : Nat) (cell : StaticEvidenceCell) :
    StaticEvidenceCell :=
  if !cell.temporallyMature && isTemporallyMature config generation cell then
    { cell with temporallyMature := true } else cell

structure CleanBuild where
  occupiedCells : CellMap StaticEvidenceCellGeometry := {}
  observableCells : CellKeySet := {}
  observedFreeCells : CellKeySet := {}
  stampSec : Scalar := 0
  mapGeneration : Nat := 0
  objectsVersion : Nat := 0

structure BuildProgress where
  index : StaticObstacleEvidenceIndex
  snapshotChanged : Bool := false

def validHeights (geometry : StaticEvidenceCellGeometry) : Bool :=
  geometry.minZ.isFinite && geometry.maxZ.isFinite && !(geometry.maxZ < geometry.minZ : Bool)

def observeFreeCell (build : CleanBuild) (progress : BuildProgress) (key : Int) : BuildProgress :=
  if !build.observableCells.contains key then progress
  else if !progress.index.workingCells.contains key then
    -- A cell that was never working leaves no tombstone behind.
    progress
  else
    let index := progress.index
    { index := { index with
        observedFreeTombstones := index.observedFreeTombstones.insert key
        workingCells := index.workingCells.erase key
        diagnosticsTotals := { index.diagnosticsTotals with
          observedFree := index.diagnosticsTotals.observedFree + 1
          invalidatedByTombstone := index.diagnosticsTotals.invalidatedByTombstone + 1 } }
      snapshotChanged := true }

def countsOccupied (build : CleanBuild) (key : Int) (geometry : StaticEvidenceCellGeometry) :
    Bool :=
  (build.observableCells.isEmpty || build.observableCells.contains key) &&
    !build.observedFreeCells.contains key && validHeights geometry

def sighted (config : StaticObstacleEvidenceConfig) (sequence : Nat) (build : CleanBuild)
    (key : Int) (geometry : StaticEvidenceCellGeometry) (known : Option StaticEvidenceCell) :
    StaticEvidenceCell :=
  let seen := match known with
    | none => firstSight key sequence build.stampSec geometry
    | some cell =>
      widen (resumeStreak (continuation config sequence build.stampSec cell) sequence
        build.stampSec geometry cell) geometry
  countObservation seen sequence build.stampSec build.mapGeneration build.objectsVersion

def countSighting (index : StaticObstacleEvidenceIndex) (build : CleanBuild) (key : Int) :
    StaticEvidenceDiagnostics :=
  let totals := { index.diagnosticsTotals with
    observedOccupied := index.diagnosticsTotals.observedOccupied + 1 }
  match index.workingCells[key]? with
  | none => totals
  | some cell =>
    match continuation index.config index.latestObservationSequence build.stampSec cell with
    | .timeGap => { totals with resetByTimeGap := totals.resetByTimeGap + 1 }
    | .sequenceGap => { totals with resetBySequenceGap := totals.resetBySequenceGap + 1 }
    | .continuous | .paused => totals

def observeOccupiedCell (build : CleanBuild) (progress : BuildProgress)
    (item : Int × StaticEvidenceCellGeometry) : BuildProgress :=
  let index := progress.index
  if countsOccupied build item.1 item.2 then
    let cell := sighted index.config index.latestObservationSequence build item.1 item.2
      index.workingCells[item.1]?
    let ripened := ripen index.config index.workingGeneration cell
    { index := { index with
        observedFreeTombstones := index.observedFreeTombstones.erase item.1
        workingCells := index.workingCells.insert item.1 ripened
        diagnosticsTotals := countSighting index build item.1 }
      snapshotChanged := progress.snapshotChanged ||
        (!cell.temporallyMature && ripened.temporallyMature) }
  else if (build.observableCells.isEmpty || build.observableCells.contains item.1) &&
      !build.observedFreeCells.contains item.1 then
    { progress with index := { index with diagnosticsTotals :=
      { index.diagnosticsTotals with
        heightInvalid := index.diagnosticsTotals.heightInvalid + 1 } } }
  else progress

def unusableStamp (stampSec : Scalar) : Bool := !stampSec.isFinite || stampSec ≤ 0

def staleBuild (self : StaticObstacleEvidenceIndex) (stampSec : Scalar) : Bool :=
  0 < self.lastObservationStampSec && stampSec ≤ self.lastObservationStampSec + stampEpsilonSec

def acceptsBuild (self : StaticObstacleEvidenceIndex) (build : CleanBuild) : Bool :=
  !unusableStamp build.stampSec && self.workingGeneration == build.mapGeneration &&
    !self.staleBuild build.stampSec

def beginBuild (self : StaticObstacleEvidenceIndex) (build : CleanBuild) :
    StaticObstacleEvidenceIndex :=
  let hidden := (self.workingCells.keys.filter fun key =>
    !build.observableCells.contains key).length
  { self with
    lastObservationStampSec := build.stampSec
    latestObservationSequence := nextCounter self.latestObservationSequence
    diagnosticsTotals := { self.diagnosticsTotals with
      notInView := self.diagnosticsTotals.notInView + hidden } }

def digestBuild (self : StaticObstacleEvidenceIndex) (build : CleanBuild) : BuildProgress :=
  let freed := build.observedFreeCells.toList.foldl (observeFreeCell build)
    { index := self.beginBuild build }
  build.occupiedCells.toList.foldl (observeOccupiedCell build) freed

def observeCleanBuildCells (self : StaticObstacleEvidenceIndex) (build : CleanBuild) :
    StaticObstacleEvidenceIndex × Bool :=
  if unusableStamp build.stampSec then (self, false)
  else if self.workingGeneration != build.mapGeneration then (self.countMismatch, false)
  else if self.staleBuild build.stampSec then
    -- A rollback starts a new timing epoch, but keeps all observations.
    if build.stampSec + stampEpsilonSec < self.lastObservationStampSec then
      ({ self with lastObservationStampSec := build.stampSec }, false)
    else (self, false)
  else
    let progress := self.digestBuild build
    if progress.snapshotChanged || !build.occupiedCells.isEmpty ||
        !build.observedFreeCells.isEmpty then
      (progress.index.publishSnapshot build.stampSec, progress.snapshotChanged)
    else (progress.index, progress.snapshotChanged)

def filteredBuild (cells : CellMap StaticEvidenceCellGeometry) (stampSec : Scalar)
    (mapGeneration objectsVersion : Nat) : CleanBuild :=
  { occupiedCells := cells, observableCells := .ofList cells.keys, stampSec, mapGeneration
    objectsVersion }

def observeFilteredCells (self : StaticObstacleEvidenceIndex)
    (cells : CellMap StaticEvidenceCellGeometry) (stampSec : Scalar)
    (mapGeneration objectsVersion : Nat) : StaticObstacleEvidenceIndex × Bool :=
  self.observeCleanBuildCells (filteredBuild cells stampSec mapGeneration objectsVersion)

def invalidateCell (version : Nat) (self : StaticObstacleEvidenceIndex) (key : Int) :
    StaticObstacleEvidenceIndex :=
  { self with
    invalidatedVersions :=
      self.invalidatedVersions.insert key (max (self.invalidatedVersions.getD key 0) version)
    workingCells := self.workingCells.erase key
    diagnosticsTotals := { self.diagnosticsTotals with
      invalidatedByTombstone := self.diagnosticsTotals.invalidatedByTombstone + 1 } }

variable (self : StaticObstacleEvidenceIndex) (cells : CellKeySet)

def invalidateAll (version : Nat) : StaticObstacleEvidenceIndex :=
  cells.toList.foldl (invalidateCell version) self

def countWorking : Nat :=
  (cells.toList.filter self.workingCells.contains).length

def invalidateCells (version : Nat) (stampSec : Scalar) (mapGeneration : Nat) :
    StaticObstacleEvidenceIndex × StaticEvidenceMutationResult :=
  if version == 0 then (self, {})
  else if self.workingGeneration != mapGeneration then (self.countMismatch, {})
  else
    let erased := self.invalidateAll cells version
    let index := if cells.isEmpty then erased else erased.publishSnapshot stampSec
    (index, { invalidatedCells := self.countWorking cells
              snapshotCells := index.snapshot.cells.size
              revision := index.snapshot.revision })

structure CleanMap where
  cleanCells : CellMap StaticEvidenceCellGeometry := {}
  invalidatedCells : CellKeySet := {}
  stampSec : Scalar := 0
  mapGeneration : Nat := 0
  cleanBuildVersion : Nat := 1

def outdates (invalidated : Option Nat) (clean : CleanMap) : Bool :=
  match invalidated with
  | some version => clean.cleanBuildVersion ≤ version
  | none => false

def blocksConfirmation (freeTombstone : Bool) (invalidated : Option Nat) (clean : CleanMap)
    (key : Int) : Bool :=
  freeTombstone || clean.invalidatedCells.contains key || outdates invalidated clean

def confirmed (sequence : Nat) (invalidated : Option Nat) (clean : CleanMap) (key : Int)
    (geometry : StaticEvidenceCellGeometry) (known : Option StaticEvidenceCell) :
    StaticEvidenceCell :=
  let cell : StaticEvidenceCell := match known with
    | none =>
      { key, firstSeenSec := clean.stampSec, lastSeenSec := clean.stampSec
        firstObservationSequence := sequence, lastObservationSequence := sequence
        minZ := geometry.minZ, maxZ := geometry.maxZ, mapGeneration := clean.mapGeneration }
    | some cell => widen cell geometry
  { cell with
    cleanMapConfirmed := true
    lastCleanConfirmedVersion := max cell.lastCleanConfirmedVersion clean.cleanBuildVersion
    lastInvalidatedVersion := invalidated.getD 0 }

def confirmCell (clean : CleanMap) (progress : StaticObstacleEvidenceIndex × Nat)
    (item : Int × StaticEvidenceCellGeometry) : StaticObstacleEvidenceIndex × Nat :=
  let index := progress.1
  let invalidated := index.invalidatedVersions[item.1]?
  if blocksConfirmation (index.observedFreeTombstones.contains item.1) invalidated clean item.1 then
    progress
  else
    let cell := confirmed index.latestObservationSequence invalidated clean item.1 item.2
      index.workingCells[item.1]?
    ({ index with workingCells :=
        index.workingCells.insert item.1 (ripen index.config index.workingGeneration cell) },
      progress.2 + 1)

def confirmCleanCells (clean : CleanMap) :
    StaticObstacleEvidenceIndex × StaticEvidenceMutationResult :=
  if clean.cleanBuildVersion == 0 then (self, {})
  else if self.workingGeneration != clean.mapGeneration then (self.countMismatch, {})
  else
    -- Invalidation always wins over clean evidence of the same or an older build.
    let erased := self.invalidateAll clean.invalidatedCells clean.cleanBuildVersion
    let progress := clean.cleanCells.toList.foldl (confirmCell clean) (erased, 0)
    let index := progress.1.publishSnapshot clean.stampSec
    (index, { confirmedCells := progress.2
              invalidatedCells := self.countWorking clean.invalidatedCells
              snapshotCells := index.snapshot.cells.size
              revision := index.snapshot.revision })

def setSnapshotAuthority (authority : StaticEvidenceAuthority) : StaticObstacleEvidenceIndex :=
  publishSnapshot { self with authority } self.lastObservationStampSec

end StaticObstacleEvidenceIndex
end NdtSlam
