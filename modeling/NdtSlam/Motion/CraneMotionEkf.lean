import Mathlib.Data.Matrix.ColumnRowPartitioned
import Mathlib.LinearAlgebra.Matrix.Trace
import NdtSlam.Foundation.History
import NdtSlam.Foundation.Planar

/-! The filter that estimates position and velocity of the crane, over any ordered field. -/

namespace NdtSlam

open Matrix

abbrev MotionIndex := Fin 2 ⊕ Fin 2

structure MotionState (K : Type) where
  position : Planar K
  velocity : Planar K

structure NdtObservabilityConfig (K : Type) [Field K] where
  enabled : Bool := true
  moderateWeakInflation : K := 5
  severeWeakInflation : K := 20

structure NdtObservability (K : Type) [Field K] where
  valid : Bool := false
  degenerate : Bool := true
  severelyDegenerate : Bool := true
  eigenvalueRatio : K := 0
  strongDirection : Planar K := ![1, 0]
  weakDirection : Planar K := ![0, 1]

structure CraneMotionEKFConfig (K : Type) [Field K] where
  qPos : K := 0.05
  qVel : K := 0.30
  rNdtBase : K := 0.02
  rNdtMax : K := 2
  fitnessToRScale : K := 5
  innovationGateM : K := 0.35
  innovationRejectM : K := 1
  maxSpeedX : K := 2
  maxSpeedY : K := 2
  maxAccelX : K := 1
  maxAccelY : K := 1
  slowFrameGuardEnabled : Bool := true
  slowFrameWarnMs : K := 100
  slowFrameEmergencyMs : K := 120
  slowFrameExtraR : K := 0.30
  maxSpeedMps : K := 0.50
  maxStepSafetyFactor : K := 1.5
  maxStepMinM : K := 0.08
  maxStepMaxM : K := 0.25
  stationaryPositionHoldVariance : K := 0.0025
  stationaryVelocityHoldVariance : K := 0.001
  observability : NdtObservabilityConfig K := {}
  axisIndependentGate : Bool := true
  diagonalEnabled : Bool := false
  diagonalMinVx : K := 0.05
  diagonalMinVy : K := 0.05
  diagonalMinSpeed : K := 0.10
  lateralGateM : K := 0.20
  tangentialGateM : K := 0.40
  lateralDamping : K := 0.70
  tangentialDamping : K := 0.40
  nisRejectThreshold : K := 13.82
  maxFramesSinceGoodNdt : Int := 30
  maxHighFitnessFrames : Int := 10
  maxRejectInnovationFrames : Int := 5
  highFitnessThreshold : K := 0.15
  rejectHighFitness : Bool := true
  ndtFitnessRejectThreshold : K := 0.30

structure CraneMotionEKFStatus (K : Type) [Field K] where
  initialized : Bool := false
  ndtAccepted : Bool := false
  diagonalMode : Bool := false
  recovered : Bool := false
  predictionOnly : Bool := false
  stepLimited : Bool := false
  predictedPos : Planar K := 0
  ndtPos : Planar K := 0
  outputPos : Planar K := 0
  velocity : Planar K := 0
  innovation : Planar K := 0
  innovationNorm : K := 0
  lateralError : K := 0
  tangentialError : K := 0
  measurementR : K := 0
  measurementCovariance : Matrix (Fin 2) (Fin 2) K := 0
  observabilityRatio : K := 1
  weakVarianceInflation : K := 1
  pTrace : K := 0
  fitness : K := 0
  sensorDt : K := 0
  ndtTimeMs : K := 0
  nis : K := 0
  outputStep : K := 0
  maxAllowedStep : K := 0
  framesSinceGoodNdt : Int := 0
  highFitnessFrames : Int := 0
  rejectInnovationFrames : Int := 0
  rejectReason : String := "NONE"

structure CraneMotionEKF (K : Type) [Field K] where
  status : CraneMotionEKFStatus K := {}
  x : MotionState K := ⟨0, 0⟩
  P : Matrix MotionIndex MotionIndex K := 1
  initialized : Bool := false
  lastStamp : K := 0
  lastGoodFitness : K := 0.05

section Arithmetic

variable {K : Type} [Field K] [LinearOrder K]

def axisCovariance (position velocity : K) : Matrix MotionIndex MotionIndex K :=
  fromBlocks (position • 1) 0 0 (velocity • 1)

def inverse2 (S : Matrix (Fin 2) (Fin 2) K) : Matrix (Fin 2) (Fin 2) K :=
  (S 0 0 * S 1 1 - S 0 1 * S 1 0)⁻¹ • !![S 1 1, -S 0 1; -S 1 0, S 0 0]

variable (K) in
def measurementMatrix : Matrix (Fin 2) MotionIndex K := fromCols 1 0

variable (P : Matrix MotionIndex MotionIndex K)

def gain (R : Matrix (Fin 2) (Fin 2) K) : Matrix MotionIndex (Fin 2) K :=
  P * (measurementMatrix K)ᵀ * inverse2 (measurementMatrix K * P * (measurementMatrix K)ᵀ + R)

def josephUpdate (R : Matrix (Fin 2) (Fin 2) K) : Matrix MotionIndex MotionIndex K :=
  (1 - gain P R * measurementMatrix K) * P * (1 - gain P R * measurementMatrix K)ᵀ
    + gain P R * R * (gain P R)ᵀ

def MotionState.correct (state : MotionState K) (K' : Matrix MotionIndex (Fin 2) K)
    (innovation : Planar K) : MotionState K where
  position axis := state.position axis + (K' *ᵥ innovation) (.inl axis)
  velocity axis := state.velocity axis + (K' *ᵥ innovation) (.inr axis)

def boundEntry (index : MotionIndex) (bound : K) : Matrix MotionIndex MotionIndex K :=
  of fun row column =>
    if row = index ∧ column = index then min (P row column) bound else P row column

end Arithmetic

variable {K : Type} [Field K] [LinearOrder K] [Hypot K]

def buildObservabilityAwareMeasurementCovariance (baseVariance : K)
    (observability : NdtObservability K) (config : NdtObservabilityConfig K) :
    Matrix (Fin 2) (Fin 2) K :=
  let base := max 1.0e-9 baseVariance
  if !config.enabled || !observability.valid then base • 1
  else
    let weakInflation :=
      if observability.severelyDegenerate then max 1 config.severeWeakInflation
      else if observability.degenerate then max 1 config.moderateWeakInflation
      else 1
    let directions : Matrix (Fin 2) (Fin 2) K :=
      (of ![planarNormalized observability.strongDirection,
        planarNormalized observability.weakDirection])ᵀ
    directions * diagonal ![base, base * weakInflation] * directionsᵀ

namespace CraneMotionEKF

variable (config : CraneMotionEKFConfig K) (filter : CraneMotionEKF K)

def sanitizeDt (stamp : K) : K :=
  let rawDt := stamp - filter.lastStamp
  if rawDt ≤ 1.0e-4 ∨ 1 < rawDt then 0.10 else rawDt

def boundedDt (dt : K) : K := max 1.0e-3 (min dt 1)

def computeMaxOutputStep (dt : K) : K :=
  let dt := boundedDt dt
  let accelNorm := hypot config.maxAccelX config.maxAccelY
  let physicalStep := config.maxSpeedMps * dt * config.maxStepSafetyFactor
    + 0.5 * accelNorm * dt * dt
  stdClamp physicalStep config.maxStepMinM config.maxStepMaxM

def boundAxes (velocity : Planar K) : Planar K :=
  ![stdClamp (velocity 0) (-config.maxSpeedX) config.maxSpeedX,
    stdClamp (velocity 1) (-config.maxSpeedY) config.maxSpeedY]

def boundSpeed (velocity : Planar K) : Planar K :=
  let speed := planarNorm velocity
  if 0 < config.maxSpeedMps ∧ config.maxSpeedMps < speed then
    fun axis => velocity axis * (config.maxSpeedMps / speed)
  else velocity

def enforceVelocityAndAcceleration (previousVelocity : Planar K) (dt : K)
    (state : MotionState K) : MotionState K :=
  let dt := boundedDt dt
  let dvX := max 0 config.maxAccelX * dt
  let dvY := max 0 config.maxAccelY * dt
  let reachable : Planar K :=
    ![stdClamp (state.velocity 0) (previousVelocity 0 - dvX) (previousVelocity 0 + dvX),
      stdClamp (state.velocity 1) (previousVelocity 1 - dvY) (previousVelocity 1 + dvY)]
  { state with velocity := boundSpeed config (boundAxes config reachable) }

structure OutputStep (K : Type) where
  limited : Bool
  state : MotionState K
  outputStep : K
  maxAllowedStep : K

def enforceOutputStep (previousPos : Planar K) (dt : K) (state : MotionState K) :
    OutputStep K :=
  let delta : Planar K := state.position - previousPos
  let step := planarNorm delta
  let maxStep := computeMaxOutputStep config dt
  if step ≤ maxStep ∨ step < 1.0e-9 then ⟨false, state, step, maxStep⟩
  else
    let limitedDelta : Planar K := fun axis => delta axis * (maxStep / step)
    { limited := true
      state := {
        position := previousPos + limitedDelta
        velocity := boundAxes config fun axis => limitedDelta axis / max dt 1.0e-3 }
      outputStep := maxStep
      maxAllowedStep := maxStep }

def noteOutputStep (status : CraneMotionEKFStatus K) (step : OutputStep K) :
    CraneMotionEKFStatus K :=
  { status with
    outputStep := step.outputStep
    maxAllowedStep := step.maxAllowedStep
    stepLimited := step.limited }

def transition (dt : K) : Matrix MotionIndex MotionIndex K := fromBlocks 1 (dt • 1) 0 1

def processNoise (dt : K) : Matrix MotionIndex MotionIndex K :=
  let dt2 := dt * dt
  let dt3 := dt2 * dt
  let dt4 := dt2 * dt2
  fromBlocks ((config.qPos * dt + 0.25 * config.qVel * dt4) • 1) ((0.5 * config.qVel * dt3) • 1)
    ((0.5 * config.qVel * dt3) • 1) ((config.qVel * dt2) • 1)

def predictState (dt : K) : MotionState K :=
  let velocity := boundSpeed config (boundAxes config filter.x.velocity)
  { position := fun axis => filter.x.position axis + boundedDt dt * velocity axis
    velocity }

def predictCovariance (dt : K) : Matrix MotionIndex MotionIndex K :=
  transition (boundedDt dt) * filter.P * (transition (boundedDt dt))ᵀ
    + processNoise config (boundedDt dt)

def maybeRecover : CraneMotionEKF K :=
  if filter.status.framesSinceGoodNdt ≤ config.maxFramesSinceGoodNdt ∧
      filter.status.rejectInnovationFrames ≤ config.maxRejectInnovationFrames ∧
      filter.status.highFitnessFrames ≤ config.maxHighFitnessFrames then filter
  else
    { filter with
      P := axisCovariance 0.5 1
      status := {
        filter.status with
        framesSinceGoodNdt := 0
        rejectInnovationFrames := 0
        highFitnessFrames := 0
        recovered := true } }

def initializeAt (firstPose : Planar K) (stamp : K) :
    CraneMotionEKF K where
  x := ⟨firstPose, 0⟩
  P := axisCovariance 1 2
  initialized := true
  lastStamp := stamp
  lastGoodFitness := filter.lastGoodFitness
  status := {
    initialized := true
    ndtAccepted := true
    ndtPos := firstPose
    predictedPos := firstPose
    outputPos := firstPose }

def predictWithoutMeasurement (poseTemplate : Planar K) (stamp : K) (reason : String) :
    CraneMotionEKF K × Planar K :=
  if !filter.initialized then
    ({ filter with
        status := {
          filter.status with
          ndtAccepted := false, predictionOnly := true, rejectReason := reason } },
      poseTemplate)
  else
    let dt := filter.sanitizeDt stamp
    let step := enforceOutputStep config filter.x.position dt (predictState config filter dt)
    let P := predictCovariance config filter dt
    let status := noteOutputStep filter.status step
    let predicted := maybeRecover config {
      filter with
      x := step.state
      P
      lastStamp := stamp
      status := {
        status with
        initialized := true
        ndtAccepted := false
        predictionOnly := true
        recovered := false
        framesSinceGoodNdt := status.framesSinceGoodNdt + 1
        predictedPos := step.state.position
        outputPos := step.state.position
        velocity := step.state.velocity
        innovation := 0
        innovationNorm := 0
        measurementR := 0
        measurementCovariance := 0
        observabilityRatio := 0
        weakVarianceInflation := 1
        nis := 0
        sensorDt := dt
        ndtTimeMs := 0
        pTrace := P.trace
        rejectReason := if step.limited then reason ++ "_STEP_LIMIT" else reason } }
    (predicted, predicted.x.position)

def computeSlowFrameExtraR (ndtTimeMs : K) : K :=
  if !config.slowFrameGuardEnabled then 0
  else if config.slowFrameEmergencyMs < ndtTimeMs then 2 * config.slowFrameExtraR
  else if config.slowFrameWarnMs < ndtTimeMs then config.slowFrameExtraR
  else 0

structure NdtFrame (K : Type) [Field K] where
  pose : Planar K
  fitness : K
  poseTemplate : Planar K
  stamp : K
  timeMs : K := 0
  observability : Option (NdtObservability K) := none

variable (frame : NdtFrame K)

def measurementR : K :=
  stdClamp (config.rNdtBase + config.fitnessToRScale * frame.fitness * frame.fitness
    + computeSlowFrameExtraR config frame.timeMs) config.rNdtBase config.rNdtMax

def measurementCovariance : Matrix (Fin 2) (Fin 2) K :=
  match frame.observability with
  | some observability =>
    buildObservabilityAwareMeasurementCovariance (measurementR config frame) observability
      config.observability
  | none => measurementR config frame • 1

def directionalGate : Option (NdtObservability K) :=
  frame.observability.filter fun observability =>
    observability.valid && observability.degenerate

def grossAxisInnovation (innovation : Planar K) : Bool :=
  match directionalGate frame with
  | some observability =>
    config.innovationRejectM < |innovation ⬝ᵥ observability.strongDirection|
  | none =>
    config.innovationRejectM < |innovation 0| || config.innovationRejectM < |innovation 1|

def dampExcess (innovation direction : Planar K) (error gate damping : K) : Planar K :=
  if gate < |error| then
    innovation - ((error - (if 0 < error then 1 else -1) * gate) * damping) • direction
  else innovation

def diagonalMode (velocity : Planar K) : Bool :=
  (directionalGate frame).isNone && !config.axisIndependentGate && config.diagonalEnabled &&
    config.diagonalMinSpeed < planarNorm velocity && config.diagonalMinVx < |velocity 0| &&
    config.diagonalMinVy < |velocity 1|

def gateInnovation (velocity innovation : Planar K) : Planar K × K × K :=
  let gated : Planar K × K × K :=
    match directionalGate frame with
    | some observability =>
      (stdClamp (innovation ⬝ᵥ observability.strongDirection) (-config.innovationGateM)
          config.innovationGateM • observability.strongDirection
        + stdClamp (innovation ⬝ᵥ observability.weakDirection) (-config.innovationGateM)
          config.innovationGateM • observability.weakDirection, 0, 0)
    | none =>
      if config.axisIndependentGate then
        (![stdClamp (innovation 0) (-config.innovationGateM) config.innovationGateM,
          stdClamp (innovation 1) (-config.innovationGateM) config.innovationGateM], 0, 0)
      else if diagonalMode config frame velocity then
        let vDir := planarNormalized velocity
        let nDir : Planar K := ![-vDir 1, vDir 0]
        let lateralError := innovation ⬝ᵥ nDir
        let tangentialError := innovation ⬝ᵥ vDir
        let lateral := dampExcess innovation nDir lateralError config.lateralGateM
          config.lateralDamping
        (dampExcess lateral vDir tangentialError config.tangentialGateM config.tangentialDamping,
          lateralError, tangentialError)
      else (innovation, 0, 0)
  if !config.axisIndependentGate && config.innovationGateM < planarNorm gated.1 then
    ((config.innovationGateM / planarNorm gated.1) • gated.1, gated.2)
  else gated

def reportedInflation : K :=
  match frame.observability with
  | some observability =>
    if observability.valid && observability.severelyDegenerate then
      max 1 config.observability.severeWeakInflation
    else if observability.valid && observability.degenerate then
      max 1 config.observability.moderateWeakInflation
    else 1
  | none => 1

def reportedRatio : K :=
  match frame.observability with
  | some observability => if observability.valid then observability.eigenvalueRatio else 1
  | none => 1

def innovationCovariance : Matrix (Fin 2) (Fin 2) K :=
  measurementMatrix K * predictCovariance config filter (filter.sanitizeDt frame.stamp)
      * (measurementMatrix K)ᵀ + measurementCovariance config frame

def frameInnovation : Planar K :=
  frame.pose - (predictState config filter (filter.sanitizeDt frame.stamp)).position

def frameNis : K :=
  frameInnovation config filter frame ⬝ᵥ
    inverse2 (innovationCovariance config filter frame) *ᵥ frameInnovation config filter frame

def rejectsInnovation : Bool :=
  (grossAxisInnovation config frame (frameInnovation config filter frame) ||
      config.nisRejectThreshold < frameNis config filter frame) &&
    max 0.03 (filter.lastGoodFitness * 1.5) < frame.fitness

def measuredStatus : CraneMotionEKFStatus K :=
  { filter.status with
    recovered := false
    predictionOnly := false
    stepLimited := false
    ndtPos := frame.pose
    predictedPos := (predictState config filter (filter.sanitizeDt frame.stamp)).position
    fitness := frame.fitness
    rejectReason := "NONE"
    sensorDt := filter.sanitizeDt frame.stamp
    ndtTimeMs := frame.timeMs
    nis := frameNis config filter frame
    measurementR := measurementR config frame
    measurementCovariance := measurementCovariance config frame
    observabilityRatio := reportedRatio frame
    weakVarianceInflation := reportedInflation config frame }

def rejectFrame : CraneMotionEKF K :=
  let dt := filter.sanitizeDt frame.stamp
  let step := enforceOutputStep config filter.x.position dt (predictState config filter dt)
  let status := noteOutputStep (measuredStatus config filter frame) step
  let recovered := maybeRecover config {
    filter with
    x := step.state
    P := predictCovariance config filter dt
    status := {
      status with
      ndtAccepted := false
      predictionOnly := true
      framesSinceGoodNdt := status.framesSinceGoodNdt + 1
      rejectInnovationFrames := status.rejectInnovationFrames + 1
      rejectReason :=
        if config.nisRejectThreshold < frameNis config filter frame then "NIS_INNOVATION_REJECT"
        else "AXIS_INNOVATION_REJECT" } }
  { recovered with
    lastStamp := frame.stamp
    status := {
      recovered.status with
      outputPos := recovered.x.position
      velocity := recovered.x.velocity
      innovation := frameInnovation config filter frame
      innovationNorm := planarNorm (frameInnovation config filter frame)
      pTrace := recovered.P.trace } }

def candidateState : MotionState K :=
  let dt := filter.sanitizeDt frame.stamp
  let predicted := predictState config filter dt
  let innovation :=
    (gateInnovation config frame predicted.velocity (frameInnovation config filter frame)).1
  enforceVelocityAndAcceleration config filter.x.velocity dt
    (predicted.correct (gain (predictCovariance config filter dt)
      (measurementCovariance config frame)) innovation)

def correctFrame : CraneMotionEKF K :=
  let dt := filter.sanitizeDt frame.stamp
  let predicted := predictState config filter dt
  let gated := gateInnovation config frame predicted.velocity (frameInnovation config filter frame)
  let step := enforceOutputStep config filter.x.position dt (candidateState config filter frame)
  let status := noteOutputStep (measuredStatus config filter frame) step
  { filter with
    x := step.state
    P := josephUpdate (predictCovariance config filter dt) (measurementCovariance config frame)
    status := {
      status with
      diagonalMode := diagonalMode config frame predicted.velocity
      lateralError := gated.2.1
      tangentialError := gated.2.2
      ndtAccepted := !step.limited
      predictionOnly := false } }

def countFrame (corrected : CraneMotionEKF K) : CraneMotionEKF K :=
  if corrected.status.stepLimited then
    maybeRecover config {
      corrected with
      status := {
        corrected.status with
        framesSinceGoodNdt := corrected.status.framesSinceGoodNdt + 1
        rejectInnovationFrames := corrected.status.rejectInnovationFrames + 1
        rejectReason := "OUTPUT_STEP_LIMIT" } }
  else
    { corrected with
      status := { corrected.status with framesSinceGoodNdt := 0, rejectInnovationFrames := 0 } }

def rateFrame (counted : CraneMotionEKF K) (fitness : K) : CraneMotionEKF K :=
  if config.highFitnessThreshold < fitness then
    { counted with
      status := {
        counted.status with highFitnessFrames := counted.status.highFitnessFrames + 1 } }
  else
    { counted with
      lastGoodFitness := fitness
      status := { counted.status with highFitnessFrames := 0 } }

def recoverRated (rated : CraneMotionEKF K) : CraneMotionEKF K :=
  if config.maxHighFitnessFrames < rated.status.highFitnessFrames then maybeRecover config rated
  else rated

def acceptFrame : CraneMotionEKF K :=
  let predicted := predictState config filter (filter.sanitizeDt frame.stamp)
  let counted := countFrame config (correctFrame config filter frame)
  let recovered := recoverRated config (rateFrame config counted frame.fitness)
  { recovered with
    lastStamp := frame.stamp
    status := {
      recovered.status with
      innovation := (gateInnovation config frame predicted.velocity
        (frameInnovation config filter frame)).1
      innovationNorm := planarNorm (frameInnovation config filter frame)
      measurementR := measurementR config frame
      measurementCovariance := measurementCovariance config frame
      pTrace := recovered.P.trace
      outputPos := recovered.x.position
      velocity := recovered.x.velocity } }

def noteHighFitness : CraneMotionEKF K :=
  { filter with
    status := {
      filter.status with
      recovered := false
      predictionOnly := false
      stepLimited := false
      highFitnessFrames := filter.status.highFitnessFrames + 1
      fitness := frame.fitness
      ndtPos := frame.pose
      ndtTimeMs := frame.timeMs } }

def updateWithNDT : CraneMotionEKF K × Planar K :=
  if !filter.initialized then
    let started := filter.initializeAt frame.pose frame.stamp
    ({ started with
        status := { started.status with fitness := frame.fitness, ndtTimeMs := frame.timeMs } },
      frame.pose)
  else if config.rejectHighFitness && config.ndtFitnessRejectThreshold < frame.fitness then
    let predicted := predictWithoutMeasurement config (filter.noteHighFitness frame)
      frame.poseTemplate frame.stamp "HIGH_FITNESS"
    ({ predicted.1 with
        status := {
          predicted.1.status with fitness := frame.fitness, ndtTimeMs := frame.timeMs } },
      predicted.2)
  else if rejectsInnovation config filter frame then
    let rejected := rejectFrame config filter frame
    (rejected, rejected.x.position)
  else
    let accepted := acceptFrame config filter frame
    (accepted, accepted.x.position)

def applyStationaryConstraint (poseTemplate anchorPosition : Planar K) (stamp : K) :
    CraneMotionEKF K × Planar K :=
  if !filter.initialized then (filter, poseTemplate)
  else
    let positionVariance := max 1.0e-9 config.stationaryPositionHoldVariance
    let velocityVariance := max 1.0e-9 config.stationaryVelocityHoldVariance
    let updated := josephUpdate filter.P (positionVariance • 1)
    let separated := fromBlocks updated.toBlocks₁₁ 0 0 updated.toBlocks₂₂
    let P := boundEntry (boundEntry (boundEntry (boundEntry separated
      (.inl 0) positionVariance) (.inl 1) positionVariance)
      (.inr 0) velocityVariance) (.inr 1) velocityVariance
    ({ filter with
        x := ⟨anchorPosition, 0⟩
        P
        lastStamp := stamp
        status := {
          filter.status with
          initialized := true
          outputPos := anchorPosition
          velocity := 0
          pTrace := P.trace } },
      anchorPosition)

def applyZeroVelocityConstraint : CraneMotionEKF K :=
  if !filter.initialized then filter
  else
    { filter with
      x := ⟨filter.x.position, 0⟩
      P := boundEntry (boundEntry filter.P (.inr 0) 0.0004) (.inr 1) 0.0004
      status := { filter.status with outputPos := filter.x.position, velocity := 0 } }

end CraneMotionEKF

inductive CraneMotionCall (K : Type) [Field K] where
  | initializeAt (firstPose : Planar K) (stamp : K)
  | predictWithoutMeasurement (poseTemplate : Planar K) (stamp : K) (reason : String)
  | updateWithNDT (frame : CraneMotionEKF.NdtFrame K)
  | applyStationaryConstraint (poseTemplate anchorPosition : Planar K) (stamp : K)
  | applyZeroVelocityConstraint

def craneMotionMachine (config : CraneMotionEKFConfig K) :
    Machine (CraneMotionEKF K) (CraneMotionCall K) Unit where
  start := {}
  step filter
    | .initializeAt firstPose stamp => (filter.initializeAt firstPose stamp, ())
    | .predictWithoutMeasurement poseTemplate stamp reason =>
      ((filter.predictWithoutMeasurement config poseTemplate stamp reason).1, ())
    | .updateWithNDT frame => ((filter.updateWithNDT config frame).1, ())
    | .applyStationaryConstraint poseTemplate anchorPosition stamp =>
      ((filter.applyStationaryConstraint config poseTemplate anchorPosition stamp).1, ())
    | .applyZeroVelocityConstraint => (filter.applyZeroVelocityConstraint, ())

end NdtSlam
