import NdtSlam.Cargo.GeometryWindows

/-! What one frame does to a geometry that is being confirmed. -/

namespace NdtSlam
namespace CargoGeometryFusion

variable {self : CargoGeometryFusion} {frame : CargoGeometryFrame}
  {seen : List CargoGeometryFrame}

def entered (self : CargoGeometryFusion) (frame : CargoGeometryFrame) : CargoGeometryFusion :=
  (self.alignWindows frame).enterFrame frame

def owned (self : CargoGeometryFusion) (frame : CargoGeometryFrame) : CargoGeometryFusion :=
  ((self.entered frame).recordOwner frame).switchMode (hasFormalPair self.config frame)

/-! ### The windows of the segment -/

theorem alignWindows_rest :
    (self.alignWindows frame).config = self.config ∧
      (self.alignWindows frame).configValidation = self.configValidation ∧
      (self.alignWindows frame).result = self.result ∧
      (self.alignWindows frame).lastStampSec = self.lastStampSec ∧
      (self.alignWindows frame).formalPromotionConfirmCount = self.formalPromotionConfirmCount ∧
      (self.alignWindows frame).thicknessConfirmationFormalMode
        = self.thicknessConfirmationFormalMode := by
  unfold alignWindows
  split_ifs <;> exact ⟨rfl, rfl, rfl, rfl, rfl, rfl⟩

theorem alignWindows_result :
    (self.alignWindows frame).result.frozen = self.result.frozen ∧
      (self.alignWindows frame).result.formalAuthorized = self.result.formalAuthorized ∧
      (self.alignWindows frame).result.cargoLifecycleId = self.result.cargoLifecycleId := by
  rw [alignWindows_rest.2.2.1]
  exact ⟨rfl, rfl, rfl⟩

theorem alignWindows_segments :
    (self.alignWindows frame).shapeConfirmTrackSegmentId = frame.trackSegmentId ∧
      (self.alignWindows frame).thicknessConfirmTrackSegmentId = frame.trackSegmentId := by
  unfold alignWindows
  by_cases shape : self.shapeConfirmTrackSegmentId = frame.trackSegmentId
  · by_cases thickness : self.thicknessConfirmTrackSegmentId = frame.trackSegmentId
    · simp [shape, thickness]
    · simp [shape, thickness]
  · by_cases thickness : self.thicknessConfirmTrackSegmentId = frame.trackSegmentId
    · simp [shape, thickness]
    · simp [shape, thickness]

theorem alignWindows_shapes :
    (self.shapeConfirmTrackSegmentId = frame.trackSegmentId ∧
      (self.alignWindows frame).shapeQualityWindow = self.shapeQualityWindow) ∨
    (self.alignWindows frame).shapeQualityWindow = [] := by
  unfold alignWindows
  by_cases shape : self.shapeConfirmTrackSegmentId = frame.trackSegmentId
  · refine .inl ⟨shape, ?_⟩
    rw [if_neg (not_not.mpr shape)]
    dsimp only
    split_ifs <;> rfl
  · refine .inr ?_
    rw [if_pos shape]
    dsimp only
    split_ifs <;> rfl

theorem alignWindows_thickness :
    (self.thicknessConfirmTrackSegmentId = frame.trackSegmentId ∧
      (self.alignWindows frame).thicknessCandidateWindow = self.thicknessCandidateWindow) ∨
    (self.alignWindows frame).thicknessCandidateWindow = [] := by
  unfold alignWindows
  by_cases thickness : self.thicknessConfirmTrackSegmentId = frame.trackSegmentId
  · refine .inl ⟨thickness, ?_⟩
    dsimp only
    rw [if_neg (not_not.mpr thickness)]
    split_ifs <;> rfl
  · refine .inr ?_
    dsimp only
    rw [if_pos thickness]

theorem ShapesHeld.align (held : self.ShapesHeld seen) :
    (self.alignWindows frame).ShapesHeld seen := by
  rcases @alignWindows_shapes self frame with ⟨segment, window⟩ | nothing
  · refine ⟨?_, ?_⟩
    · rw [window, alignWindows_rest.1]
      exact held.mirrors
    · rw [window, alignWindows_segments.1, ← segment]
      exact held.segment
  · exact .empty nothing

/-! ### The kind of evidence -/

theorem switchMode_rest (formal : Bool) :
    (self.switchMode formal).config = self.config ∧
      (self.switchMode formal).configValidation = self.configValidation ∧
      (self.switchMode formal).result = self.result ∧
      (self.switchMode formal).lastStampSec = self.lastStampSec ∧
      (self.switchMode formal).formalPromotionConfirmCount = self.formalPromotionConfirmCount ∧
      (self.switchMode formal).shapeQualityWindow = self.shapeQualityWindow ∧
      (self.switchMode formal).shapeConfirmCount = self.shapeConfirmCount ∧
      (self.switchMode formal).shapeConfirmTrackSegmentId = self.shapeConfirmTrackSegmentId ∧
      (self.switchMode formal).thicknessConfirmTrackSegmentId
        = self.thicknessConfirmTrackSegmentId ∧
      (self.switchMode formal).thicknessConfirmationFormalMode = formal := by
  unfold switchMode
  split_ifs with switched
  · exact ⟨rfl, rfl, rfl, rfl, rfl, rfl, rfl, rfl, rfl, rfl⟩
  · simp only [Bool.or_eq_true, Bool.not_eq_true', not_or, Bool.not_eq_false, bne_iff_ne, ne_eq,
      not_not] at switched
    exact ⟨rfl, rfl, rfl, rfl, rfl, rfl, rfl, rfl, rfl, switched.2⟩

theorem switchMode_window (formal : Bool) :
    (self.thicknessConfirmationFormalMode = formal ∧
      (self.switchMode formal).thicknessCandidateWindow = self.thicknessCandidateWindow) ∨
    (self.switchMode formal).thicknessCandidateWindow = [.nan] := by
  unfold switchMode
  split_ifs with switched
  · exact .inr rfl
  · simp only [Bool.or_eq_true, Bool.not_eq_true', not_or, Bool.not_eq_false, bne_iff_ne, ne_eq,
      not_not] at switched
    exact .inl ⟨switched.2, rfl⟩

theorem owned_rest :
    (self.owned frame).config = self.config ∧
      (self.owned frame).configValidation = self.configValidation ∧
      (self.owned frame).result.frozen = self.result.frozen ∧
      (self.owned frame).result.formalAuthorized = self.result.formalAuthorized ∧
      (self.owned frame).result.cargoLifecycleId = frame.cargoLifecycleId ∧
      (self.owned frame).lastStampSec = self.lastStampSec ∧
      (self.owned frame).formalPromotionConfirmCount = self.formalPromotionConfirmCount ∧
      (self.owned frame).shapeQualityWindow = (self.entered frame).shapeQualityWindow ∧
      (self.owned frame).shapeConfirmCount = (self.entered frame).shapeConfirmCount ∧
      (self.owned frame).shapeConfirmTrackSegmentId = frame.trackSegmentId ∧
      (self.owned frame).thicknessConfirmTrackSegmentId = frame.trackSegmentId ∧
      (self.owned frame).thicknessConfirmationFormalMode = hasFormalPair self.config frame := by
  obtain ⟨config, validation, result, clock, count, quality, shapes, shapeSegment,
    thicknessSegment, mode⟩ := @switchMode_rest ((self.entered frame).recordOwner frame)
      (hasFormalPair self.config frame)
  obtain ⟨configA, validationA, -, clockA, countA, -⟩ := @alignWindows_rest self frame
  obtain ⟨frozenA, formalA, -⟩ := @alignWindows_result self frame
  obtain ⟨shapeA, thicknessA⟩ := @alignWindows_segments self frame
  unfold owned
  refine ⟨config.trans configA, validation.trans validationA, ?_, ?_, ?_, clock.trans clockA,
    count.trans countA, quality, shapes, shapeSegment.trans shapeA,
    thicknessSegment.trans thicknessA, mode⟩
  · rw [result]
    exact frozenA
  · rw [result]
    exact formalA
  · rw [result]
    rfl

theorem owned_window (positive : 0 < self.config.shapeConfirmationWindowFrames.toNat)
    (newest : Scalar) :
    (hasFormalPair self.config frame = self.thicknessConfirmationFormalMode ∧
      replaceNewest (self.owned frame).thicknessCandidateWindow newest =
        pushBounded self.config.shapeConfirmationWindowFrames.toNat
          (self.alignWindows frame).thicknessCandidateWindow newest) ∨
    replaceNewest (self.owned frame).thicknessCandidateWindow newest = [newest] := by
  obtain ⟨configA, -, -, -, -, modeA⟩ := @alignWindows_rest self frame
  have pushed : (self.entered frame).thicknessCandidateWindow =
      pushBounded self.config.shapeConfirmationWindowFrames.toNat
        (self.alignWindows frame).thicknessCandidateWindow .nan := by
    rw [← configA]
    rfl
  have started := @switchMode_window ((self.entered frame).recordOwner frame)
    (hasFormalPair self.config frame)
  rcases started with ⟨same, window⟩ | window
  · refine .inl ⟨same.symm.trans modeA, ?_⟩
    show replaceNewest (((self.entered frame).recordOwner frame).switchMode
      (hasFormalPair self.config frame)).thicknessCandidateWindow newest = _
    rw [window]
    show replaceNewest (self.entered frame).thicknessCandidateWindow newest = _
    rw [pushed, replaceNewest_pushBounded positive]
  · refine .inr ?_
    show replaceNewest (((self.entered frame).recordOwner frame).switchMode
      (hasFormalPair self.config frame)).thicknessCandidateWindow newest = _
    rw [window]
    rfl

/-! ### The ways a frame can go -/

section Roots

variable [GeometryMath]

inductive Confirmation (self : CargoGeometryFusion) (frame : CargoGeometryFrame) :
    CargoGeometryFusion → Prop
  | unplaced (missing : frame.placed = false) (result : CargoFrozenGeometry)
    (frozen : result.frozen = self.result.frozen)
    (formal : result.formalAuthorized = self.result.formalAuthorized)
    (owner : result.cargoLifecycleId = self.result.cargoLifecycleId) :
    Confirmation self frame { self.entered frame with result := result }
  | pending (placed : frame.placed = true) (nothing : entersThickness self.config frame = false)
    (result : CargoFrozenGeometry) (frozen : result.frozen = self.result.frozen)
    (formal : result.formalAuthorized = self.result.formalAuthorized)
    (owner : result.cargoLifecycleId = frame.cargoLifecycleId) :
    Confirmation self frame { self.owned frame with result := result }
  | waiting (placed : frame.placed = true) (enters : entersThickness self.config frame = true)
    (result : CargoFrozenGeometry) (frozen : result.frozen = self.result.frozen)
    (formal : result.formalAuthorized = self.result.formalAuthorized)
    (owner : result.cargoLifecycleId = frame.cargoLifecycleId) :
    Confirmation self frame { (self.owned frame).enterThickness frame with result := result }
  | frozen (placed : frame.placed = true) (enters : entersThickness self.config frame = true)
    (thick : requiredConfirmFrames self.config frame ≤
      (((self.owned frame).enterThickness frame).result.confirmFrames : Int))
    (shaped : requiredConfirmFrames self.config frame ≤
      ((self.entered frame).shapeConfirmCount : Int)) :
    Confirmation self frame (((self.owned frame).enterThickness frame).freeze frame)

theorem confirm_confirmation : Confirmation self frame (self.confirm frame) := by
  obtain ⟨config, -, frozen, formal, owner, -, -, -, shapes, -⟩ := @owned_rest self frame
  obtain ⟨frozenA, formalA, ownerA⟩ := @alignWindows_result self frame
  unfold confirm
  dsimp only
  cases placed : frame.placed with
  | false =>
    rw [if_pos (by simp)]
    exact .unplaced placed _ frozenA formalA ownerA
  | true =>
    rw [if_neg (by simp)]
    by_cases candidate : (!hasFormalPair self.config frame &&
        !(confirmationReading self.config frame).positiveOnlyCandidate self.config frame) = true
    · rw [if_pos candidate]
      have nothing : entersThickness self.config frame = false := by
        simp only [Bool.and_eq_true, Bool.not_eq_true'] at candidate
        simp [entersThickness, candidate.1, candidate.2]
      exact .pending placed nothing _ frozen formal owner
    · rw [if_neg candidate]
      cases accepted : fusionAccepted self.config frame with
      | false =>
        rw [if_pos (by simp)]
        exact .pending placed (by simp [entersThickness, accepted]) _ frozen formal owner
      | true =>
        rw [if_neg (by simp)]
        have enters : entersThickness self.config frame = true := by
          simp only [Bool.and_eq_true, Bool.not_eq_true', not_and, Bool.not_eq_false] at candidate
          simp only [entersThickness, placed, accepted, Bool.and_true, Bool.true_and,
            Bool.or_eq_true]
          cases pair : hasFormalPair self.config frame with
          | true => exact .inl rfl
          | false => exact .inr (candidate pair)
        show Confirmation self frame (((self.owned frame).enterThickness frame).settle frame)
        have sameConfig : ((self.owned frame).enterThickness frame).config = self.config := config
        have sameShapes : ((self.owned frame).enterThickness frame).shapeConfirmCount
            = (self.entered frame).shapeConfirmCount := shapes
        unfold settle
        dsimp only
        split_ifs with ready agreed
        · rw [sameConfig, sameShapes] at ready
          exact .frozen placed enters ready.1 ready.2.1
        all_goals exact .waiting placed enters _ frozen formal owner

/-! ### The windows after a frame -/

theorem confirm_shapes :
    (self.confirm frame).config = self.config ∧
      (self.confirm frame).configValidation = self.configValidation ∧
      (self.confirm frame).lastStampSec = self.lastStampSec ∧
      (self.confirm frame).formalPromotionConfirmCount = self.formalPromotionConfirmCount ∧
      (self.confirm frame).shapeConfirmTrackSegmentId = frame.trackSegmentId ∧
      (self.confirm frame).thicknessConfirmTrackSegmentId = frame.trackSegmentId ∧
      (self.confirm frame).shapeQualityWindow =
        pushBounded self.config.shapeConfirmationWindowFrames.toNat
          (self.alignWindows frame).shapeQualityWindow
          (validDimensionEvidence frame self.config
            self.config.minimumInitialShapeConfidence) := by
  obtain ⟨config, validation, -, -, -, clock, count, quality, -, shapes, thickness, -⟩ :=
    @owned_rest self frame
  obtain ⟨configA, validationA, -, clockA, countA, -⟩ := @alignWindows_rest self frame
  obtain ⟨shapesA, thicknessA⟩ := @alignWindows_segments self frame
  have pushed : (self.entered frame).shapeQualityWindow =
      pushBounded self.config.shapeConfirmationWindowFrames.toNat
        (self.alignWindows frame).shapeQualityWindow
        (validDimensionEvidence frame self.config self.config.minimumInitialShapeConfidence) := by
    rw [← configA]
    rfl
  have way := @confirm_confirmation self frame _
  generalize self.confirm frame = after at way
  cases way with
  | unplaced => exact ⟨configA, validationA, clockA, countA, shapesA, thicknessA, pushed⟩
  | pending =>
    exact ⟨config, validation, clock, count, shapes, thickness, quality.trans pushed⟩
  | waiting =>
    exact ⟨config, validation, clock, count, shapes, thickness, quality.trans pushed⟩
  | frozen =>
    exact ⟨config, validation, clock, count, shapes, thickness, quality.trans pushed⟩

theorem confirm_owner :
    (frame.placed = true →
      (self.confirm frame).result.cargoLifecycleId = frame.cargoLifecycleId) ∧
    (frame.placed = false →
      (self.confirm frame).result.cargoLifecycleId = self.result.cargoLifecycleId) := by
  have way := @confirm_confirmation self frame _
  generalize self.confirm frame = after at way
  cases way with
  | unplaced missing _ _ _ owner =>
    exact ⟨fun placed => absurd (missing.symm.trans placed) (by simp), fun _ => owner⟩
  | pending placed _ _ _ _ owner =>
    exact ⟨fun _ => owner, fun missing => absurd (missing.symm.trans placed) (by simp)⟩
  | waiting placed _ _ _ _ owner =>
    exact ⟨fun _ => owner, fun missing => absurd (missing.symm.trans placed) (by simp)⟩
  | frozen placed =>
    have owner : (self.owned frame).result.cargoLifecycleId = frame.cargoLifecycleId :=
      (@owned_rest self frame).2.2.2.2.1
    exact ⟨fun _ => owner, fun missing => absurd (missing.symm.trans placed) (by simp)⟩

theorem window_of_entry {after : CargoGeometryFusion}
    (positive : 0 < self.config.shapeConfirmationWindowFrames.toNat)
    (enters : entersThickness self.config frame = true)
    (mode : after.thicknessConfirmationFormalMode = hasFormalPair self.config frame)
    (window : after.thicknessCandidateWindow =
      replaceNewest (self.owned frame).thicknessCandidateWindow
        (fuseThickness self.config frame).height) :
    (after.thicknessConfirmationFormalMode
        = (self.alignWindows frame).thicknessConfirmationFormalMode ∧
      after.thicknessCandidateWindow =
        pushBounded self.config.shapeConfirmationWindowFrames.toNat
          (self.alignWindows frame).thicknessCandidateWindow
          (thicknessEntry self.config after.thicknessConfirmationFormalMode frame)) ∨
    after.thicknessCandidateWindow =
      [thicknessEntry self.config after.thicknessConfirmationFormalMode frame] := by
  have entry : thicknessEntry self.config (hasFormalPair self.config frame) frame
      = (fuseThickness self.config frame).height := by
    simp [thicknessEntry, enters]
  obtain ⟨-, -, -, -, -, modeA⟩ := @alignWindows_rest self frame
  rw [mode, entry, window]
  rcases @owned_window self frame positive (fuseThickness self.config frame).height with
    ⟨same, pushed⟩ | started
  · exact .inl ⟨same.trans modeA.symm, pushed⟩
  · exact .inr started

theorem confirm_thickness (positive : 0 < self.config.shapeConfirmationWindowFrames.toNat) :
    ((self.confirm frame).thicknessConfirmationFormalMode
        = (self.alignWindows frame).thicknessConfirmationFormalMode ∧
      (self.confirm frame).thicknessCandidateWindow =
        pushBounded self.config.shapeConfirmationWindowFrames.toNat
          (self.alignWindows frame).thicknessCandidateWindow
          (thicknessEntry self.config (self.confirm frame).thicknessConfirmationFormalMode
            frame)) ∨
    (self.confirm frame).thicknessCandidateWindow =
      [thicknessEntry self.config (self.confirm frame).thicknessConfirmationFormalMode frame] := by
  obtain ⟨configA, -, -, -, -, modeA⟩ := @alignWindows_rest self frame
  obtain ⟨config, -, -, -, -, -, -, -, -, -, -, mode⟩ := @owned_rest self frame
  have way := @confirm_confirmation self frame _
  generalize self.confirm frame = after at way
  cases way with
  | unplaced missing =>
    -- The place that was kept for a thickness stays empty.
    have entry : ∀ formal, thicknessEntry self.config formal frame = .nan := by
      intro formal
      simp [thicknessEntry, entersThickness, missing]
    rw [entry]
    refine .inl ⟨rfl, ?_⟩
    rw [← configA]
    rfl
  | pending placed nothing =>
    have entry : ∀ formal, thicknessEntry self.config formal frame = .nan := by
      intro formal
      simp [thicknessEntry, nothing]
    rw [entry]
    show ((self.owned frame).thicknessConfirmationFormalMode = _ ∧
      (self.owned frame).thicknessCandidateWindow = _) ∨
        (self.owned frame).thicknessCandidateWindow = _
    -- The newest place is empty already, so nothing changes when it is emptied again.
    have started := @switchMode_window ((self.entered frame).recordOwner frame)
      (hasFormalPair self.config frame)
    rcases started with ⟨same, window⟩ | window
    · refine .inl ⟨mode.trans same.symm, window.trans ?_⟩
      rw [← configA]
      rfl
    · exact .inr window
  | waiting placed enters => exact window_of_entry positive enters mode (config ▸ rfl)
  | frozen placed enters => exact window_of_entry positive enters mode (config ▸ rfl)

theorem confirm_formal (unauthorized : self.result.formalAuthorized = false)
    (formal : (self.confirm frame).result.formalAuthorized = true) :
    formalEvidence self.config frame = true ∧
      (self.confirm frame).result.frozen = true ∧
      (self.confirm frame).thicknessConfirmationFormalMode = true ∧
      self.config.minimumConfirmFrames ≤
        ((self.confirm frame).thicknessCandidateWindow.countP Scalar.isFinite : Int) ∧
      self.config.minimumConfirmFrames ≤
        (countTrue (self.confirm frame).shapeQualityWindow : Int) := by
  obtain ⟨-, -, -, -, -, -, -, quality, -, -, -, mode⟩ := @owned_rest self frame
  have way := @confirm_confirmation self frame _
  generalize self.confirm frame = after at way formal
  cases way with
  | unplaced _ _ _ same => cases unauthorized.symm.trans (same.symm.trans formal)
  | pending _ _ _ _ same => cases unauthorized.symm.trans (same.symm.trans formal)
  | waiting _ _ _ _ same => cases unauthorized.symm.trans (same.symm.trans formal)
  | frozen placed enters thick shaped =>
    have pair : hasFormalPair self.config frame = true := by
      have same : hasFormalPair (self.owned frame).config frame = true := formal
      rwa [(@owned_rest self frame).1] at same
    have required : requiredConfirmFrames self.config frame = self.config.minimumConfirmFrames := by
      simp [requiredConfirmFrames, pair]
    have accepted : fusionAccepted self.config frame = true := by
      simp only [entersThickness, Bool.and_eq_true] at enters
      exact enters.2
    rw [required] at thick shaped
    refine ⟨by simp [formalEvidence, placed, pair, accepted], rfl, mode.trans pair, ?_, ?_⟩
    · refine thick.trans ?_
      exact_mod_cast countConfirmed_le
    · refine shaped.trans (le_of_eq ?_)
      show (countTrue (self.entered frame).shapeQualityWindow : Int) =
        (countTrue (self.owned frame).shapeQualityWindow : Int)
      rw [quality]

theorem confirm_frozen (unfrozen : self.result.frozen = false)
    (frozen : (self.confirm frame).result.frozen = true) : frame.placed = true := by
  have way := @confirm_confirmation self frame _
  generalize self.confirm frame = after at way frozen
  cases way with
  | unplaced _ _ same => cases unfrozen.symm.trans (same.symm.trans frozen)
  | pending placed => exact placed
  | waiting placed => exact placed
  | frozen placed => exact placed

/-! ### The windows stay in step with the frames -/

theorem ThicknessHeld.align (held : self.ThicknessHeld seen) :
    (self.alignWindows frame).ThicknessHeld seen := by
  obtain ⟨config, -, result, -, -, mode⟩ := @alignWindows_rest self frame
  rcases @alignWindows_thickness self frame with ⟨segment, window⟩ | nothing
  · refine ⟨?_, ?_, ?_, ?_⟩
    · rw [window, config, mode]
      exact held.mirrors
    · rw [window, alignWindows_segments.2, ← segment]
      exact held.segment
    · rw [window, result]
      exact held.owner
    · unfold heldEvidence
      rw [window, config, mode]
      exact held.chain
  · exact .empty nothing

theorem ShapesHeld.confirm (held : self.ShapesHeld seen) :
    (self.confirm frame).ShapesHeld (frame :: seen) := by
  obtain ⟨config, -, -, -, segment, -, pushed⟩ := @confirm_shapes self frame _
  have sameConfig : (self.alignWindows frame).config = self.config := alignWindows_rest.1
  have aligned : (self.alignWindows frame).shapeConfirmTrackSegmentId = frame.trackSegmentId :=
    alignWindows_segments.1
  have heldAligned : (self.alignWindows frame).ShapesHeld seen := held.align
  rw [← sameConfig] at pushed
  exact heldAligned.enter (config.trans sameConfig.symm) aligned (segment.trans aligned.symm)
    pushed

theorem ThicknessHeld.confirm (held : self.ThicknessHeld seen)
    (positive : 0 < self.config.shapeConfirmationWindowFrames.toNat)
    (tracked : ∀ older ∈ seen, older.cargoLifecycleId ≠ 0)
    (owner : self.result.cargoLifecycleId = 0 ∨
      self.result.cargoLifecycleId = frame.cargoLifecycleId)
    (continues : self.thicknessConfirmTrackSegmentId = frame.trackSegmentId →
      self.thicknessConfirmationFormalMode = true → formalEvidence self.config frame = true →
      ∀ newest ∈ (self.heldEvidence seen).head?, frame.Succeeds self.config newest) :
    (self.confirm frame).ThicknessHeld (frame :: seen) := by
  obtain ⟨config, -, -, -, -, segment, -⟩ := @confirm_shapes self frame _
  obtain ⟨sameConfig, -, sameResult, -, -, mode⟩ := @alignWindows_rest self frame
  have aligned : (self.alignWindows frame).thicknessConfirmTrackSegmentId
      = frame.trackSegmentId := alignWindows_segments.2
  have heldAligned : (self.alignWindows frame).ThicknessHeld seen := held.align
  have pushed := @confirm_thickness self frame _ positive
  rw [← sameConfig] at pushed
  refine heldAligned.enter (config.trans sameConfig.symm) aligned (segment.trans aligned.symm)
    ?_ ?_ pushed
  · intro older member placed
    rcases List.mem_cons.mp member with rfl | member
    · exact (confirm_owner.1 placed).symm
    · -- An older frame that was placed has made its cargo the owner.
      have recorded : older.cargoLifecycleId = self.result.cargoLifecycleId := by
        rw [← sameResult]
        exact heldAligned.owner older member placed
      have real : older.cargoLifecycleId ≠ 0 := tracked older (List.mem_of_mem_take member)
      have same : self.result.cargoLifecycleId = frame.cargoLifecycleId := by
        rcases owner with nobody | same
        · exact absurd (recorded.trans nobody) real
        · exact same
      cases seenAt : frame.placed with
      | true => rw [confirm_owner.1 seenAt, recorded, same]
      | false => rw [confirm_owner.2 seenAt, recorded]
  · rw [mode, sameConfig]
    intro formal evidence newest first
    rcases @alignWindows_thickness self frame with ⟨same, window⟩ | nothing
    · refine continues same formal evidence newest ?_
      unfold heldEvidence at first ⊢
      rwa [window, sameConfig] at first
    · simp [heldEvidence, nothing] at first

end Roots
end CargoGeometryFusion
end NdtSlam
