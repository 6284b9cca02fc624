import NdtSlam.Foundation.Outcome
import NdtSlam.StaticEvidence.Index

/-! Snapshots of the static index on disk: how they are saved, loaded and installed. -/

namespace NdtSlam

def StaticEvidenceAuthority.code : StaticEvidenceAuthority → Nat
  | .runtimeMature => 0
  | .operatorApprovedBaseline => 1
  | .unverifiedLoadedClean => 2

def StaticEvidenceAuthority.ofCode : Nat → Option StaticEvidenceAuthority
  | 0 => some .runtimeMature
  | 1 => some .operatorApprovedBaseline
  | 2 => some .unverifiedLoadedClean
  | _ => none

structure CsvFormat where
  Field : Type
  magic : Field
  isMagic : Field → Bool
  isMagic_magic : isMagic magic = true
  writeNat : Nat → Field
  writeInt : Int → Field
  writeReal : Scalar → Field
  stoul : Field → Option Nat
  stoull : Field → Option Nat
  stoll : Field → Option Int
  stof : Field → Option Scalar
  stod : Field → Option Scalar
  stoul_writeNat : ∀ value, stoul (writeNat value) = some value
  stoull_writeNat : ∀ value, stoull (writeNat value) = some value
  stoll_writeInt : ∀ value, stoll (writeInt value) = some value
  stof_writeReal : ∀ value, stof (writeReal value) = some value
  stod_writeReal : ∀ value, stod (writeReal value) = some value

inductive PlainField where
  | magic
  | number (value : Scalar)
  deriving DecidableEq

def PlainField.integer : PlainField → Option Int
  | .number (.fin value) => if value.den = 1 then some value.num else none
  | _ => none

def PlainField.real : PlainField → Option Scalar
  | .number value => some value
  | .magic => none

def PlainField.natural (field : PlainField) : Option Nat := field.integer.map Int.toNat

def plainFormat : CsvFormat where
  Field := PlainField
  magic := .magic
  isMagic := (· == .magic)
  isMagic_magic := rfl
  writeNat value := .number (.fin value)
  writeInt value := .number (.fin value)
  writeReal := .number
  stoul := PlainField.natural
  stoull := PlainField.natural
  stoll := PlainField.integer
  stof := PlainField.real
  stod := PlainField.real
  stoul_writeNat value := by simp [PlainField.natural, PlainField.integer]
  stoull_writeNat value := by simp [PlainField.natural, PlainField.integer]
  stoll_writeInt value := by simp [PlainField.integer]
  stof_writeReal value := rfl
  stod_writeReal value := rfl

abbrev CsvFormat.Line (format : CsvFormat) := List format.Field

def parsed {Value : Type} : Option Value → Except String Value
  | some value => .ok value
  | none => .error "index_parse_failed"

@[simp] theorem parsed_some {Value : Type} (value : Value) : parsed (some value) = .ok value := rfl

namespace StaticObstacleEvidenceIndex

variable (format : CsvFormat) (snapshot : StaticEvidenceSnapshot)

def headerLine : format.Line :=
  [format.magic, format.writeNat snapshot.schemaVersion, format.writeReal snapshot.cellSizeM,
    format.writeNat snapshot.mapGeneration, format.writeNat snapshot.revision,
    format.writeNat snapshot.latestObservationSequence, format.writeReal snapshot.sourceStampSec,
    format.writeNat snapshot.authority.code]

def cellLine (cell : StaticEvidenceCell) : format.Line :=
  [format.writeInt cell.key, format.writeNat cell.consecutiveObservationCount,
    format.writeNat cell.totalObservationCount, format.writeReal cell.firstSeenSec,
    format.writeReal cell.lastSeenSec, format.writeReal cell.consecutiveStableDurationSec,
    format.writeReal cell.minZ, format.writeReal cell.maxZ,
    format.writeNat cell.firstObservationSequence, format.writeNat cell.lastObservationSequence,
    format.writeNat cell.lastObservedObjectsVersion,
    format.writeNat cell.lastCleanConfirmedVersion, format.writeNat cell.lastInvalidatedVersion,
    format.writeNat (if cell.temporallyMature then 1 else 0)]

def saveSnapshot : List format.Line :=
  headerLine format snapshot :: snapshot.cells.toList.map fun item => cellLine format item.2

variable (config : StaticObstacleEvidenceConfig)

def rejectsCell (cell : StaticEvidenceCell) : Bool :=
  !cell.firstSeenSec.isFinite || !cell.lastSeenSec.isFinite ||
    !cell.consecutiveStableDurationSec.isFinite || !cell.minZ.isFinite || !cell.maxZ.isFinite ||
    (cell.consecutiveStableDurationSec < 0 : Bool) || (cell.maxZ < cell.minZ : Bool) ||
    cell.consecutiveObservationCount == 0 ||
    cell.totalObservationCount < cell.consecutiveObservationCount ||
    cell.lastObservationSequence < cell.firstObservationSequence ||
    (cell.temporallyMature &&
      (cell.consecutiveObservationCount < config.minimumObservations ||
        (cell.consecutiveStableDurationSec + stampEpsilonSec <
          config.minimumStableDurationSec : Bool)))

def loadCell (self : StaticObstacleEvidenceIndex) (sourceGeneration : Nat) :
    format.Line → Except String StaticEvidenceCell
  | [key, count, total, first, last, duration, low, high, firstSequence, lastSequence, observed,
      confirmed, invalidated, mature] => do
    let key ← parsed (format.stoll key)
    let count ← parsed (format.stoul count)
    refuseIf (2 ^ 32 - 1 < count) "index_observation_count_invalid"
    let total ← parsed (format.stoull total)
    let first ← parsed (format.stod first)
    let last ← parsed (format.stod last)
    let duration ← parsed (format.stod duration)
    let low ← parsed (format.stof low)
    let high ← parsed (format.stof high)
    let firstSequence ← parsed (format.stoull firstSequence)
    let lastSequence ← parsed (format.stoull lastSequence)
    let observed ← parsed (format.stoull observed)
    let confirmed ← parsed (format.stoull confirmed)
    let invalidated ← parsed (format.stoull invalidated)
    let mature ← parsed (format.stoul mature)
    refuseIf (1 < mature) "index_temporal_maturity_invalid"
    let cell : StaticEvidenceCell :=
      { key, consecutiveObservationCount := count, totalObservationCount := total
        firstSeenSec := first, lastSeenSec := last, consecutiveStableDurationSec := duration
        minZ := low, maxZ := high, cleanMapConfirmed := true, temporallyMature := mature == 1
        firstObservationSequence := firstSequence, lastObservationSequence := lastSequence
        lastObservedObjectsVersion := observed, lastCleanConfirmedVersion := confirmed
        lastInvalidatedVersion := invalidated, mapGeneration := sourceGeneration }
    refuseIf (rejectsCell self.config cell) "index_cell_nonfinite"
    return cell
  | _ => throw "index_cell_invalid"

def loadCells (self : StaticObstacleEvidenceIndex) (sourceGeneration : Nat) :
    List format.Line → CellMap StaticEvidenceCell × Nat →
      Except String (CellMap StaticEvidenceCell × Nat)
  | [], loaded => .ok loaded
  | line :: lines, (loaded, latest) =>
    -- Empty lines are skipped.
    if line.isEmpty then loadCells self sourceGeneration lines (loaded, latest)
    else do
      let cell ← loadCell format self sourceGeneration line
      refuseIf (loaded.contains cell.key) "index_duplicate_cell"
      loadCells self sourceGeneration lines
        (loaded.insert cell.key cell, max latest cell.lastObservationSequence)

def differsInResolution (cellSizeM : Scalar) : Bool :=
  ((1.0e-5 : Scalar) < (cellSizeM - config.cellSizeM).abs : Bool)

def invalidSourceStamp (stampSec : Scalar) : Bool := !stampSec.isFinite || (stampSec < 0 : Bool)

def loadAuthority : format.Line → Except String StaticEvidenceAuthority
  | [field] => do
    match StaticEvidenceAuthority.ofCode (← parsed (format.stoul field)) with
    | some authority => return authority
    | none => throw "index_authority_invalid"
  | _ => return .runtimeMature

def loadSnapshotCandidate (self : StaticObstacleEvidenceIndex) (file : Option (List format.Line))
    (expectedSourceGeneration expectedRevision : Nat) : Except String StaticEvidenceSnapshot :=
  match file with
  | none => throw "index_missing"
  | some [] => throw "index_header_missing"
  | some ((magic :: schema :: cellSize :: generation :: revision :: latest :: stamp :: rest)
      :: lines) => do
    refuseIf (!format.isMagic magic || 1 < rest.length) "index_header_invalid"
    let schema := (← parsed (format.stoul schema)) % 2 ^ 32
    let cellSize ← parsed (format.stof cellSize)
    let generation ← parsed (format.stoull generation)
    let revision ← parsed (format.stoull revision)
    let authority ← loadAuthority format rest
    refuseIf
      (schema != schemaVersion || differsInResolution self.config cellSize || generation == 0 ||
        revision == 0 || generation != expectedSourceGeneration || revision != expectedRevision)
      "index_schema_or_resolution_mismatch"
    let latest ← parsed (format.stoull latest)
    let stamp ← parsed (format.stod stamp)
    refuseIf (invalidSourceStamp stamp) "index_source_stamp_invalid"
    let (cells, newest) ← loadCells format self generation lines ({}, latest)
    return { schemaVersion := schema, mapGeneration := generation, revision
             latestObservationSequence := newest, sourceStampSec := stamp, cellSizeM := cellSize
             authority, cells }
  | some (_ :: _) => throw "index_header_invalid"

end StaticObstacleEvidenceIndex

variable (snapshot : StaticEvidenceSnapshot)

def StaticEvidenceSnapshot.adoptedCells (generation : Nat) : CellMap StaticEvidenceCell :=
  snapshot.cells.map fun _ cell => { cell with mapGeneration := generation }

def StaticEvidenceSnapshot.adopt (generation : Nat) : StaticEvidenceSnapshot :=
  { snapshot with mapGeneration := generation, cells := snapshot.adoptedCells generation }

structure PreparedStaticEvidenceInstall where
  mapGeneration : Nat
  latestObservationSequence : Nat
  revision : Nat
  authority : StaticEvidenceAuthority
  workingCells : CellMap StaticEvidenceCell
  snapshot : StaticEvidenceSnapshot
  cells_agree : workingCells = snapshot.cells
  generation_agrees : snapshot.mapGeneration = mapGeneration
  revision_agrees : snapshot.revision = revision
  revision_nonzero : revision ≠ 0

namespace PreparedStaticEvidenceInstall

variable (prepared : PreparedStaticEvidenceInstall)

def forGeneration (generation : Nat) : PreparedStaticEvidenceInstall :=
  { prepared with
    mapGeneration := generation
    workingCells := prepared.workingCells.map fun _ cell =>
      { cell with mapGeneration := generation }
    snapshot := prepared.snapshot.adopt generation
    cells_agree := by rw [prepared.cells_agree]; rfl
    generation_agrees := rfl
    revision_agrees := prepared.revision_agrees }

def installedAs (currentMapGeneration : Nat) : PreparedStaticEvidenceInstall :=
  if currentMapGeneration ≠ 0 ∧ currentMapGeneration ≠ prepared.mapGeneration then
    prepared.forGeneration currentMapGeneration
  else prepared

@[simp] theorem installedAs_zero :
    prepared.installedAs 0 = prepared := rfl

end PreparedStaticEvidenceInstall

namespace StaticObstacleEvidenceIndex

variable (self : StaticObstacleEvidenceIndex) (candidate : StaticEvidenceSnapshot)

def prepareSnapshotInstall (currentMapGeneration : Nat) :
    Except String PreparedStaticEvidenceInstall :=
  if valid : candidate.schemaVersion ≠ schemaVersion ∨
      differsInResolution self.config candidate.cellSizeM = true ∨ candidate.revision = 0 ∨
      currentMapGeneration = 0 then
    .error "candidate_schema_or_generation_invalid"
  else
    .ok
      { mapGeneration := currentMapGeneration
        latestObservationSequence := candidate.latestObservationSequence
        revision := candidate.revision
        authority := candidate.authority
        workingCells := candidate.adoptedCells currentMapGeneration
        snapshot := candidate.adopt currentMapGeneration
        cells_agree := rfl
        generation_agrees := rfl
        revision_agrees := rfl
        revision_nonzero := by
          simp only [not_or] at valid
          exact valid.2.2.1 }

def installPreparedSnapshot
    (prepared : PreparedStaticEvidenceInstall) (currentMapGeneration : Nat) :
    StaticObstacleEvidenceIndex :=
  let installed := prepared.installedAs currentMapGeneration
  { self with
    workingCells := installed.workingCells
    invalidatedVersions := {}
    observedFreeTombstones := {}
    workingGeneration := installed.mapGeneration
    authority := installed.authority
    latestObservationSequence := installed.latestObservationSequence
    revision := installed.revision
    lastObservationStampSec := 0
    snapshot := installed.snapshot }

def restoreSnapshotWithoutRevisionIncrement (currentMapGeneration : Nat) :
    StaticObstacleEvidenceIndex × Except String Unit :=
  match self.prepareSnapshotInstall candidate currentMapGeneration with
  | .error reason => (self, .error reason)
  | .ok prepared => (self.installPreparedSnapshot prepared 0, .ok ())

def loadSnapshot (format : CsvFormat) (self : StaticObstacleEvidenceIndex)
    (file : Option (List format.Line))
    (currentMapGeneration expectedSourceGeneration expectedRevision : Nat) :
    StaticObstacleEvidenceIndex × Except String Unit :=
  match loadSnapshotCandidate format self file expectedSourceGeneration expectedRevision with
  | .error reason => (self, .error reason)
  | .ok candidate => self.restoreSnapshotWithoutRevisionIncrement candidate currentMapGeneration

end StaticObstacleEvidenceIndex
end NdtSlam
