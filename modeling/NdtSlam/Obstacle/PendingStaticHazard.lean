import NdtSlam.Foundation.History
import NdtSlam.Foundation.KeyedSort
import NdtSlam.Obstacle.Track

/-! The tracker that confirms a hazard of the static map while the load is still pending. -/

namespace NdtSlam

structure PendingStaticHazardTrackerConfig where
  minimumConfirmations : Int := 3
  maximumObservationGapSec : Scalar := 0.60
  minimumCellOverlap : Scalar := 0.20

structure PendingStaticHazardObservation where
  stampSec : Scalar := 0
  cargoLifecycleId : Nat := 0
  mapGeneration : Nat := 0
  authorityValid : Bool := false
  queryValid : Bool := false
  queryBounded : Bool := false
  hazard : Bool := false
  warningCode : Int := 0
  matchedCellKeys : List Int := []
  poseAuthority : TemporalEvidenceAuthority := {}

structure PendingStaticHazardDecision where
  valid : Bool := false
  hazardObserved : Bool := false
  authorized : Bool := false
  warningCode : Int := 0
  obstacleId : BitVec 32 := 0
  confirmations : Nat := 0
  farFieldConfirmations : Nat := 0
  farFieldHistoryValid : Bool := false
  cellOverlap : Scalar := 0
  reason : String := "not_evaluated"
  poseAuthority : TemporalEvidenceAuthority := {}

structure PendingStaticHazardTracker where
  config : PendingStaticHazardTrackerConfig := {}
  active : Bool := false
  lastStampSec : Scalar := 0
  cargoLifecycleId : Nat := 0
  mapGeneration : Nat := 0
  obstacleId : BitVec 32 := 0
  confirmations : Nat := 0
  farFieldConfirmations : Nat := 0
  farFieldHistoryValid : Bool := false
  matchedCellKeys : List Int := []
  poseAuthority : TemporalEvidenceAuthority := {}

namespace PendingStaticHazardTracker

def near3m : Int := 17
def near5m : Int := 18

def stampEpsilonSec : Scalar := 1.0e-4

def warningCode (code : Int) : Bool := code == near3m || code == near5m

def validConfig (config : PendingStaticHazardTrackerConfig) : Bool :=
  2 ≤ config.minimumConfirmations && config.maximumObservationGapSec.isFinite &&
    0 < config.maximumObservationGapSec && config.minimumCellOverlap.isFinite &&
    0 < config.minimumCellOverlap && config.minimumCellOverlap ≤ 1

def normalizeCells (cells : List Int) : List Int := ascending cells

def intersectionCount (left right : List Int) : Nat :=
  CargoObstacleTracker.cellIntersectionCount left right

def cellOverlap (left right : List Int) : Scalar :=
  let denominator := min left.length right.length
  if denominator == 0 then 0
  else .ofNat (intersectionCount left right) / .ofNat denominator

def mix (hash value : BitVec 64) : BitVec 64 :=
  ((List.range 8).foldl (fun (mixed : BitVec 64 × BitVec 64) _ =>
    ((mixed.1 ^^^ (mixed.2 &&& 0xFF)) * 1099511628211, mixed.2 >>> 8)) (hash, value)).1

def makeStaticObstacleId (mapGeneration : Nat) (cells : List Int) : BitVec 32 :=
  let seed := mix 1469598103934665603 (.ofNat 64 mapGeneration)
  let hash := cells.foldl (fun hash cell => mix hash (.ofInt 64 cell)) seed
  -- The highest bit tells the ids of the static map from those of live tracks.
  0x80000000 ||| ((hash ^^^ (hash >>> 32)) &&& 0x7FFFFFFF).truncate 32

variable (self : PendingStaticHazardTracker)

def reset : PendingStaticHazardTracker :=
  { config := self.config }

variable (config : PendingStaticHazardTrackerConfig)

def setConfig : PendingStaticHazardTracker :=
  { config := if validConfig config then config else {} }

variable (observation : PendingStaticHazardObservation)

def hazardObserved : Bool :=
  observation.hazard && warningCode observation.warningCode

def evidenceValid : Bool :=
  observation.cargoLifecycleId != 0 && observation.mapGeneration != 0 &&
    observation.authorityValid && observation.queryValid && observation.queryBounded &&
    hazardObserved observation && !(normalizeCells observation.matchedCellKeys).isEmpty &&
    observation.poseAuthority.valid

def refusal : String :=
  if !observation.authorityValid then "static_authority_not_valid"
  else if !observation.queryValid || !observation.queryBounded then "static_query_not_reliable"
  else if !hazardObserved observation then "no_static_positive_hazard"
  else "static_hazard_identity_missing"

def regionOverlap : Scalar :=
  if self.active then
    cellOverlap (normalizeCells observation.matchedCellKeys) self.matchedCellKeys
  else 0

def sameContext : Bool :=
  self.active && observation.cargoLifecycleId == self.cargoLifecycleId &&
    observation.mapGeneration == self.mapGeneration &&
    sameTemporalEvidenceAuthority observation.poseAuthority self.poseAuthority &&
    observation.stampSec - self.lastStampSec ≤
      self.config.maximumObservationGapSec + stampEpsilonSec &&
    self.config.minimumCellOverlap ≤ self.regionOverlap observation

def confirm : PendingStaticHazardTracker :=
  let far := observation.warningCode == near5m
  let identified :=
    if self.sameContext observation then
      { self with
        confirmations := self.confirmations + 1
        farFieldConfirmations :=
          if far then self.farFieldConfirmations + 1 else self.farFieldConfirmations }
    else
      { self with
        active := true
        cargoLifecycleId := observation.cargoLifecycleId
        mapGeneration := observation.mapGeneration
        obstacleId := makeStaticObstacleId observation.mapGeneration
          (normalizeCells observation.matchedCellKeys)
        confirmations := 1
        farFieldConfirmations := if far then 1 else 0
        farFieldHistoryValid := false }
  { identified with
    farFieldHistoryValid := identified.farFieldHistoryValid ||
      self.config.minimumConfirmations ≤ identified.farFieldConfirmations
    lastStampSec := observation.stampSec
    matchedCellKeys := normalizeCells observation.matchedCellKeys
    poseAuthority := observation.poseAuthority }

def answer (cellOverlap : Scalar) (pending : String) : PendingStaticHazardDecision :=
  let authorized : Bool := self.config.minimumConfirmations ≤ self.confirmations
  { valid := true
    hazardObserved := hazardObserved observation
    authorized
    warningCode := observation.warningCode
    obstacleId := self.obstacleId
    confirmations := self.confirmations
    farFieldConfirmations := self.farFieldConfirmations
    farFieldHistoryValid := self.farFieldHistoryValid
    cellOverlap
    reason := if authorized then "static_pending_hazard_authorized" else pending
    poseAuthority := self.poseAuthority }

def inputInvalid : Bool :=
  !validConfig self.config || !observation.stampSec.isFinite || observation.stampSec ≤ 0

def rollBack : PendingStaticHazardTracker :=
  if self.active && observation.stampSec + stampEpsilonSec < self.lastStampSec then self.reset
  else self

def repeatsStamp : Bool :=
  self.sameContext observation && observation.stampSec ≤ self.lastStampSec + stampEpsilonSec

def update : PendingStaticHazardTracker × PendingStaticHazardDecision :=
  if self.inputInvalid observation then
    (self.reset, { reason := "invalid_static_hazard_tracker_input" })
  else if !evidenceValid observation then
    -- Whatever is no evidence ends the region.
    (self.reset, {
      valid := true
      hazardObserved := hazardObserved observation
      reason := refusal observation })
  else
    let current := self.rollBack observation
    let overlap := current.regionOverlap observation
    if current.repeatsStamp observation then
      (current, current.answer observation overlap "repeated_static_hazard_stamp")
    else
      let confirmed := current.confirm observation
      (confirmed,
        confirmed.answer observation overlap "static_pending_hazard_confirmation_pending")

def machine :
    Machine PendingStaticHazardTracker PendingStaticHazardObservation
      PendingStaticHazardDecision where
  start := setConfig config
  step := update

end PendingStaticHazardTracker
end NdtSlam
