import Mathlib.Data.List.Sort
import NdtSlam.Swing.Config

/-! What the offsets of the load over the last seconds say about its motion. -/

namespace NdtSlam

/-- The roots, angles and axes of the numeric libraries. -/
class SwingMath extends EuclideanNorm where
  sqrt : Scalar → Scalar
  atan2 : Scalar → Scalar → Scalar
  principalAxis : (xx xy yy : Scalar) → Option Vec2

namespace CargoSwingMonitor

def kRadToDeg : Scalar := 57.2957795130823208768

def kPi : Scalar := 3.14159265358979323846

def normalizeCargoAxialYaw (yawRad : Scalar) : Scalar :=
  if !yawRad.isFinite then 0
  -- Whole half turns are taken away until the axis lies in the interval.
  else .fin (yawRad.value - kPi.value * ⌊(yawRad.value + kPi.value / 2) / kPi.value⌋)

def shortestAxialAngle (lhsRad rhsRad : Scalar) : Scalar :=
  normalizeCargoAxialYaw (lhsRad - rhsRad)

def percentile (values : List Scalar) (q : Scalar) : Scalar :=
  if values.isEmpty then 0
  else
    let sorted := values.insertionSort (· ≤ ·)
    let position := (Scalar.clamp q 0 1 * .ofNat (values.length - 1)).value
    -- Between two ranks, the value is interpolated.
    let low := ⌊position⌋.toNat
    let high := ⌈position⌉.toNat
    let fraction : Scalar := .fin (position - low)
    sorted.getD low 0 * (1 - fraction) + sorted.getD high 0 * fraction

structure Sample where
  stampSec : Scalar
  offset : Vec2
  angleDeg : Scalar
  yawErrorDeg : Scalar

def signOf (deadbandM projection : Scalar) : Int :=
  if deadbandM < projection then 1 else if projection < -deadbandM then -1 else 0

def crossings (deadbandM : Scalar) (projections : List Scalar) : Int :=
  let count := projections.foldl (fun (seen : Int × Int) projection =>
    let sign := signOf deadbandM projection
    -- The first component is the side of the last projection outside the dead band.
    if sign = 0 then seen
    else (sign, if seen.1 ≠ 0 ∧ sign ≠ seen.1 then seen.2 + 1 else seen.2)) (0, 0)
  count.2

structure Statistics where
  meanOffset : Vec2
  oscillationAmplitude : Scalar
  oscillationZeroCrossings : Int
  directionConsistency : Scalar
  dcOffsetM : Scalar
  acRmsM : Scalar
  dcToAcRatio : Scalar
  oscillationConfidence : Scalar
  skewConfidence : Scalar
  historyDuration : Scalar
  zeroCrossings : Int

section Evaluation

variable [SwingMath] (config : CargoSwingConfig) (history : List Sample)

def total (values : List Scalar) : Scalar := values.foldl (· + ·) 0

def meanOffset : Vec2 :=
  (history.foldl (fun (sum : Vec2) sample => sum + sample.offset) {}).divide
    (.ofNat history.length)

def principalAxis : Vec2 :=
  let detrended := history.map fun sample => sample.offset - meanOffset history
  let size := Scalar.ofNat history.length
  let entry (product : Vec2 → Scalar) := total (detrended.map product) / size
  match SwingMath.principalAxis (entry fun offset => offset.x * offset.x)
    (entry fun offset => offset.x * offset.y) (entry fun offset => offset.y * offset.y) with
  | some axis => axis
  | none => { x := 1 }

def historyDuration : Scalar :=
  match history.head?, history.getLast? with
  | some first, some last =>
    if 1 < history.length then last.stampSec - first.stampSec else 0
  | _, _ => 0

def evaluate : Statistics :=
  let size := Scalar.ofNat history.length
  let mean := meanOffset history
  let meanNorm := total (history.map fun sample => sample.offset.norm) / size
  let axis := principalAxis history
  let projections := history.map fun sample => (sample.offset - mean).dot axis
  let oscillationZeroCrossings := crossings config.crossingDeadbandM projections
  let directionConsistency :=
    if 1.0e-5 < meanNorm then Scalar.clamp (mean.norm / meanNorm) 0 1 else 0
  let squares := history.map fun sample => (sample.offset - mean).dot (sample.offset - mean)
  let acRmsM := SwingMath.sqrt (total squares / size)
  let dcToAcRatio := mean.norm / .maxOf acRmsM 0.01
  -- The skew is judged along the mean offset, if there is one.
  let skewAxis := if 1.0e-5 < mean.norm then mean.divide mean.norm else axis
  { meanOffset := mean
    oscillationAmplitude := percentile projections 0.95 - percentile projections 0.05
    oscillationZeroCrossings
    directionConsistency
    dcOffsetM := mean.norm
    acRmsM
    dcToAcRatio
    oscillationConfidence := Scalar.clamp
      (0.5 * acRmsM / .maxOf config.warningOffsetM 0.01 +
        0.25 * .fin oscillationZeroCrossings) 0 1
    skewConfidence := Scalar.clamp
      (directionConsistency * (dcToAcRatio / .maxOf config.skewMinDcToAcRatio 0.1)) 0 1
    historyDuration := historyDuration history
    zeroCrossings := crossings config.crossingDeadbandM
      (history.map fun sample => sample.offset.dot skewAxis) }

end Evaluation

end CargoSwingMonitor

end NdtSlam
