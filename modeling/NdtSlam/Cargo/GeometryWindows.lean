import NdtSlam.Cargo.GeometryEvidence

/-! Which frames the windows of a geometry that is being confirmed stand for. -/

namespace NdtSlam

def CargoGeometryFrame.Succeeds (config : CargoGeometryFusionConfig)
    (frame older : CargoGeometryFrame) : Prop :=
  older.stampSec < frame.stampSec ∧
    frame.stampSec - older.stampSec ≤ config.maximumObservationGapSec

namespace CargoGeometryFusion

variable {self : CargoGeometryFusion} {frame : CargoGeometryFrame}
  {seen : List CargoGeometryFrame}

/-! ### What is left of the past -/

inductive Ready (self : CargoGeometryFusion) (frame : CargoGeometryFrame) :
    CargoGeometryFusion → Prop
  | frozen (already : self.result.frozen = true) (same : self.changesLifecycle frame = false) :
    Ready self frame { self with lastStampSec := frame.stampSec }
  | kept (unfrozen : self.result.frozen = false) (timely : self.leavesGap frame = false)
    (same : self.changesLifecycle frame = false) :
    Ready self frame { self with lastStampSec := frame.stampSec }
  | expired (unfrozen : self.result.frozen = false) (late : self.leavesGap frame = true)
    (same : self.changesLifecycle frame = false) :
    Ready self frame { self.expire with lastStampSec := frame.stampSec }
  | restarted (other : self.changesLifecycle frame = true) :
    Ready self frame { self.reset with lastStampSec := frame.stampSec }

theorem adopt_advance_ready : Ready self frame ((self.advance frame).adopt frame) := by
  have sameOwner : (self.advance frame).changesLifecycle frame = self.changesLifecycle frame := by
    unfold advance
    split <;> rfl
  unfold adopt
  rw [sameOwner]
  cases other : self.changesLifecycle frame with
  | true =>
    -- What expired before the owner changed is forgotten in any case.
    have same : (self.advance frame).reset = self.reset := by
      unfold advance
      split <;> rfl
    rw [if_pos rfl, same]
    exact .restarted other
  | false =>
    rw [if_neg Bool.false_ne_true]
    unfold advance
    cases already : self.result.frozen with
    | true => exact .frozen already other
    | false =>
      cases late : self.leavesGap frame with
      | true => exact .expired already late other
      | false => exact .kept already late other

theorem owner_of_same (same : self.changesLifecycle frame = false) :
    self.result.cargoLifecycleId = 0 ∨
      self.result.cargoLifecycleId = frame.cargoLifecycleId := by
  simp only [changesLifecycle, Bool.and_eq_false_iff, bne_eq_false_iff_eq] at same
  exact same

/-! ### The window of the footprints -/

structure ShapesHeld (before : CargoGeometryFusion) (seen : List CargoGeometryFrame) : Prop where
  mirrors : Mirrors (fun frame => validDimensionEvidence frame before.config
    before.config.minimumInitialShapeConfidence) before.shapeQualityWindow seen
  segment : ∀ older ∈ seen.take before.shapeQualityWindow.length,
    older.trackSegmentId = before.shapeConfirmTrackSegmentId

theorem ShapesHeld.empty (nothing : self.shapeQualityWindow = []) : self.ShapesHeld seen where
  mirrors := by
    rw [nothing]
    exact .empty _ _
  segment := by
    rw [nothing]
    simp

def heldShapes (self : CargoGeometryFusion) (seen : List CargoGeometryFrame) :
    List CargoGeometryFrame :=
  (seen.take self.shapeQualityWindow.length).filter fun frame =>
    validDimensionEvidence frame self.config self.config.minimumInitialShapeConfidence

theorem ShapesHeld.count (held : self.ShapesHeld seen) :
    countTrue self.shapeQualityWindow = (self.heldShapes seen).length := by
  calc countTrue self.shapeQualityWindow
      = self.shapeQualityWindow.countP (· == true) := rfl
    _ = (self.heldShapes seen).length := by
      rw [held.mirrors.countP, heldShapes, ← List.countP_eq_length_filter]
      refine List.countP_congr ?_
      simp

theorem ShapesHeld.enter {after : CargoGeometryFusion} (held : self.ShapesHeld seen)
    (config : after.config = self.config)
    (segment : self.shapeConfirmTrackSegmentId = frame.trackSegmentId)
    (sameSegment : after.shapeConfirmTrackSegmentId = self.shapeConfirmTrackSegmentId)
    {limit : Nat} (pushed : after.shapeQualityWindow = pushBounded limit self.shapeQualityWindow
      (validDimensionEvidence frame self.config self.config.minimumInitialShapeConfidence)) :
    after.ShapesHeld (frame :: seen) where
  mirrors := by
    rw [config, pushed]
    exact held.mirrors.push limit frame
  segment := by
    intro older member
    rw [sameSegment]
    -- The window grew by at most the new frame.
    have grown : older ∈ (frame :: seen).take (self.shapeQualityWindow.length + 1) := by
      refine (List.take_subset_take_left _ ?_) member
      rw [pushed]
      exact pushBounded_length_le_succ _ _ _
    rw [List.take_succ_cons] at grown
    rcases List.mem_cons.mp grown with rfl | grown
    · exact segment.symm
    · exact held.segment older grown

/-! ### The window of the thicknesses -/

theorem countConfirmed_le {config : CargoGeometryFusionConfig} {window : List Scalar}
    {fused : Scalar} : countConfirmed config window fused ≤ window.countP Scalar.isFinite := by
  unfold countConfirmed
  dsimp only
  split_ifs
  · rw [List.countP_eq_length_filter (p := Scalar.isFinite)]
    exact List.countP_le_length
  · exact Nat.zero_le _

section Roots

variable [GeometryMath]

def heldEvidence (self : CargoGeometryFusion) (seen : List CargoGeometryFrame) :
    List CargoGeometryFrame :=
  (seen.take self.thicknessCandidateWindow.length).filter (formalEvidence self.config)

structure ThicknessHeld (before : CargoGeometryFusion) (seen : List CargoGeometryFrame) :
    Prop where
  mirrors : Mirrors (thicknessEntry before.config before.thicknessConfirmationFormalMode)
    before.thicknessCandidateWindow seen
  segment : ∀ older ∈ seen.take before.thicknessCandidateWindow.length,
    older.trackSegmentId = before.thicknessConfirmTrackSegmentId
  owner : ∀ older ∈ seen.take before.thicknessCandidateWindow.length, older.placed = true →
    older.cargoLifecycleId = before.result.cargoLifecycleId
  chain : before.thicknessConfirmationFormalMode = true →
    (before.heldEvidence seen).IsChain (CargoGeometryFrame.Succeeds before.config)

theorem ThicknessHeld.empty (nothing : self.thicknessCandidateWindow = []) :
    self.ThicknessHeld seen where
  mirrors := by
    rw [nothing]
    exact .empty _ _
  segment := by
    rw [nothing]
    simp
  owner := by
    rw [nothing]
    simp
  chain := by
    intro formal
    simp [heldEvidence, nothing]

theorem ThicknessHeld.count (held : self.ThicknessHeld seen)
    (formal : self.thicknessConfirmationFormalMode = true) :
    self.thicknessCandidateWindow.countP Scalar.isFinite = (self.heldEvidence seen).length := by
  rw [held.mirrors.countP, heldEvidence, ← List.countP_eq_length_filter, formal]
  refine List.countP_congr ?_
  intro older member
  rw [Function.comp_apply, thicknessEntry_isFinite]

theorem ThicknessHeld.enter {after : CargoGeometryFusion} (held : self.ThicknessHeld seen)
    (config : after.config = self.config)
    (segment : self.thicknessConfirmTrackSegmentId = frame.trackSegmentId)
    (sameSegment : after.thicknessConfirmTrackSegmentId = self.thicknessConfirmTrackSegmentId)
    (owner : ∀ older ∈ frame :: seen.take self.thicknessCandidateWindow.length,
      older.placed = true → older.cargoLifecycleId = after.result.cargoLifecycleId)
    (continues : self.thicknessConfirmationFormalMode = true →
      formalEvidence self.config frame = true →
      ∀ newest ∈ (self.heldEvidence seen).head?, frame.Succeeds self.config newest)
    {limit : Nat} (pushed :
      (after.thicknessConfirmationFormalMode = self.thicknessConfirmationFormalMode ∧
        after.thicknessCandidateWindow = pushBounded limit self.thicknessCandidateWindow
          (thicknessEntry self.config after.thicknessConfirmationFormalMode frame)) ∨
      after.thicknessCandidateWindow =
        [thicknessEntry self.config after.thicknessConfirmationFormalMode frame]) :
    after.ThicknessHeld (frame :: seen) := by
  -- Whether the window went on or started over, it grew by at most the new frame.
  have grown : after.thicknessCandidateWindow.length
      ≤ self.thicknessCandidateWindow.length + 1 := by
    rcases pushed with ⟨-, pushed⟩ | pushed
    · rw [pushed]
      exact pushBounded_length_le_succ _ _ _
    · rw [pushed]
      simp
  have among : ∀ older ∈ (frame :: seen).take after.thicknessCandidateWindow.length,
      older ∈ frame :: seen.take self.thicknessCandidateWindow.length := by
    intro older member
    have longer := List.take_subset_take_left (frame :: seen) grown member
    rwa [List.take_succ_cons] at longer
  refine ⟨?_, ?_, fun older member => owner older (among older member), ?_⟩
  · rw [config]
    rcases pushed with ⟨same, pushed⟩ | pushed
    · rw [pushed, same]
      exact held.mirrors.push limit frame
    · rw [pushed]
      exact .single frame
  · intro older member
    rw [sameSegment]
    rcases List.mem_cons.mp (among older member) with rfl | member
    · exact segment.symm
    · exact held.segment older member
  · intro formal
    unfold heldEvidence
    rw [config]
    rcases pushed with ⟨same, -⟩ | pushed
    · rw [same] at formal
      exact isChain_filter_take_cons (held.chain formal) (continues formal) grown
    · -- A window of one entry holds no two frames.
      have single : after.thicknessCandidateWindow.length ≤ 0 + 1 := by simp [pushed]
      exact @isChain_filter_take_cons _ (formalEvidence self.config) _ seen 0 _ frame (by simp)
        (by simp) single

end Roots
end CargoGeometryFusion
end NdtSlam
