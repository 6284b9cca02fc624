import NdtSlam.Obstacle.Track

/-! The association of the observations of a frame with the tracks that may own them. -/

namespace NdtSlam.CargoObstacleTracker

structure AssociationPair where
  observationIndex : Nat
  trackIndex : Nat
  cost : Scalar
  overlap : Scalar
  iou : Scalar
  neighborOverlap : Scalar

inductive AssociationOutcome where
  | contested (trackIndices : List Nat)
  | unowned
  | ambiguous (pair : AssociationPair)
  | reciprocal (pair : AssociationPair)

section Pairs

variable [EuclideanNorm]

def centroidDistance (stampSec : Scalar) (observation : CargoObstacleObservation)
    (track : CargoObstacleTrack) : Scalar :=
  let gapSec := stampSec - track.lastStampSec
  -- The track is expected to have gone on with its last velocity.
  let predicted := track.centroidMap + track.velocityMap.scale (.maxOf 0 gapSec)
  (observation.centroidMap.head2 - predicted.head2).norm

variable (config : CargoObstacleTrackerConfig)

def legalPair (stampSec : Scalar) (observationIndex : Nat) (observation : CargoObstacleObservation)
    (trackIndex : Nat) (track : CargoObstacleTrack) :
    Option AssociationPair :=
  let gapSec := stampSec - track.lastStampSec
  if gapSec < -stampEpsilonSec ||
      config.maximumObservationGapSec + stampEpsilonSec < gapSec then none
  else
    let distance := centroidDistance stampSec observation track
    let overlap := cellOverlap observation.occupiedMapCells track.occupiedMapCells
    let iou := cellIou observation.occupiedMapCells track.occupiedMapCells
    let neighborOverlap := neighborCellOverlap observation.occupiedMapCells
      track.occupiedMapCells config.associationNeighborCellRadius
    -- Fragments of one obstacle may lie side by side.
    let neighboringFragmentMatch : Bool :=
      config.staticTrackCellOverlapMin ≤ neighborOverlap &&
        distance ≤ 2.0 * config.associationMaxCentroidDistanceM
    let spatialMatch : Bool :=
      distance ≤ config.associationMaxCentroidDistanceM ||
        config.staticTrackCellOverlapMin ≤ overlap || config.staticTrackIouMin ≤ iou ||
        neighboringFragmentMatch
    if !spatialMatch ||
        config.associationMaxTopStepM < (observation.topZ95Map - track.topZ95Map).abs then none
    else
      -- Without cells to compare, the cells add the full cost.
      let cellTerm : Scalar :=
        if observation.occupiedMapCells.isEmpty || track.occupiedMapCells.isEmpty then 1.0
        else 1.0 - .maxOf (.maxOf overlap iou) (0.80 * neighborOverlap)
      some {
        observationIndex
        trackIndex
        cost := distance / config.associationMaxCentroidDistanceM + cellTerm
        overlap
        iou
        neighborOverlap }

def allLegalPairs (stampSec : Scalar) (observations : List CargoObstacleObservation)
    (tracks : List CargoObstacleTrack) :
    List AssociationPair :=
  observations.zipIdx.flatMap fun observed =>
    tracks.zipIdx.filterMap fun tracked =>
      legalPair config stampSec observed.2 observed.1 tracked.2 tracked.1

def pairTrackId (tracks : List CargoObstacleTrack) (pair : AssociationPair) : Nat :=
  ((tracks[pair.trackIndex]?).map (·.trackId)).getD 0

def pairLess (tracks : List CargoObstacleTrack) (left right : AssociationPair) : Bool :=
  if !left.cost.same right.cost then left.cost < right.cost
  else if pairTrackId tracks left != pairTrackId tracks right then
    pairTrackId tracks left < pairTrackId tracks right
  else left.observationIndex < right.observationIndex

def legalPairs (stampSec : Scalar) (observations : List CargoObstacleObservation)
    (tracks : List CargoObstacleTrack) :
    List AssociationPair :=
  (allLegalPairs config stampSec observations tracks).insertionSort
    fun left right => pairLess tracks right left = false

end Pairs

def accumulateBest (best : Scalar × Nat) (cost : Scalar) : Scalar × Nat :=
  if cost + associationCostEpsilon < best.1 then (cost, 1)
  else if (cost - best.1).abs ≤ associationCostEpsilon then (best.1, best.2 + 1)
  else best

variable (pairs : List AssociationPair)

def bestCost : Scalar × Nat :=
  (pairs.map (·.cost)).foldl accumulateBest (.posInf, 0)

def pairsOfObservation (observationIndex : Nat) : List AssociationPair :=
  pairs.filter fun pair => pair.observationIndex == observationIndex

def pairsOfTrack (trackIndex : Nat) : List AssociationPair :=
  pairs.filter fun pair => pair.trackIndex == trackIndex

def grant (granted : List AssociationPair) (pair : AssociationPair) : List AssociationPair :=
  if granted.any fun other =>
      other.observationIndex == pair.observationIndex || other.trackIndex == pair.trackIndex then
    granted
  else granted ++ [pair]

def grantedPairs : List AssociationPair :=
  pairs.foldl grant []

def reciprocalUniqueMatch (pair : AssociationPair) : Bool :=
  -- The pair is the only one of least cost on either side.
  let observationBest := bestCost (pairsOfObservation pairs pair.observationIndex)
  let trackBest := bestCost (pairsOfTrack pairs pair.trackIndex)
  observationBest.2 == 1 && trackBest.2 == 1 &&
    (pair.cost - observationBest.1).abs ≤ associationCostEpsilon &&
    (pair.cost - trackBest.1).abs ≤ associationCostEpsilon

def outcomeOf (observationIndex : Nat) : AssociationOutcome :=
  match (grantedPairs pairs).find? fun pair => pair.observationIndex == observationIndex with
  | some pair => if reciprocalUniqueMatch pairs pair then .reciprocal pair else .ambiguous pair
  | none =>
    -- A plausible owner that was given away is competition, and no new obstacle.
    let owned := pairsOfObservation pairs observationIndex
    if 0 < (bestCost owned).2 then .contested (owned.map (·.trackIndex)) else .unowned

def outcomes (observations : List CargoObstacleObservation) :
    List (CargoObstacleObservation × AssociationOutcome) :=
  observations.zipIdx.map fun observed => (observed.1, outcomeOf pairs observed.2)

end NdtSlam.CargoObstacleTracker
