import NdtSlam.Cargo.GeometryWindows

/-! What one frame does to a geometry that is frozen. -/

namespace NdtSlam
namespace CargoGeometryFusion

variable {self : CargoGeometryFusion} {frame : CargoGeometryFrame} {continuous : Bool}

structure KeepsAuthority (before after : CargoGeometryFusion) : Prop where
  config : after.config = before.config
  validation : after.configValidation = before.configValidation
  clock : after.lastStampSec = before.lastStampSec
  frozen : after.result.frozen = before.result.frozen
  formal : after.result.formalAuthorized = before.result.formalAuthorized
  owner : after.result.cargoLifecycleId = before.result.cargoLifecycleId
  count : after.formalPromotionConfirmCount = before.formalPromotionConfirmCount
  segment : after.formalPromotionTrackSegmentId = before.formalPromotionTrackSegmentId

namespace KeepsAuthority

variable {first second third : CargoGeometryFusion}

theorem trans (early : KeepsAuthority first second) (late : KeepsAuthority second third) :
    KeepsAuthority first third :=
  ⟨late.config.trans early.config, late.validation.trans early.validation,
    late.clock.trans early.clock, late.frozen.trans early.frozen, late.formal.trans early.formal,
    late.owner.trans early.owner, late.count.trans early.count, late.segment.trans early.segment⟩

end KeepsAuthority

theorem alignDimensions_keeps : KeepsAuthority self (self.alignDimensions frame continuous) := by
  unfold alignDimensions
  dsimp only
  split_ifs <;> exact ⟨rfl, rfl, rfl, rfl, rfl, rfl, rfl, rfl⟩

theorem followPose_keeps {config : CargoGeometryFusionConfig} {result : CargoFrozenGeometry} :
    (followPose config frame result).frozen = result.frozen ∧
      (followPose config frame result).formalAuthorized = result.formalAuthorized ∧
      (followPose config frame result).cargoLifecycleId = result.cargoLifecycleId := by
  unfold followPose
  dsimp only
  split_ifs <;> exact ⟨rfl, rfl, rfl⟩

theorem expandSlowly_keeps : KeepsAuthority self (self.expandSlowly frame) := by
  unfold expandSlowly
  dsimp only
  split <;> exact ⟨rfl, rfl, rfl, rfl, rfl, rfl, rfl, rfl⟩

theorem shrinkSlowly_keeps : KeepsAuthority self (self.shrinkSlowly frame) := by
  unfold shrinkSlowly
  dsimp only
  split <;> exact ⟨rfl, rfl, rfl, rfl, rfl, rfl, rfl, rfl⟩

theorem reshape_keeps : KeepsAuthority self (self.reshape frame) := by
  have cleared : KeepsAuthority self self.clearShrink := ⟨rfl, rfl, rfl, rfl, rfl, rfl, rfl, rfl⟩
  have pushed : KeepsAuthority self
      (self.clearExpand.pushShrink true frame.lengthM frame.widthM) :=
    ⟨rfl, rfl, rfl, rfl, rfl, rfl, rfl, rfl⟩
  unfold reshape
  split
  · dsimp only
    split
    · exact ⟨rfl, rfl, rfl, rfl, rfl, rfl, rfl, rfl⟩
    · split
      · exact cleared.trans expandSlowly_keeps
      · split
        · exact ⟨rfl, rfl, rfl, rfl, rfl, rfl, rfl, rfl⟩
        · split
          · exact pushed.trans shrinkSlowly_keeps
          · exact ⟨rfl, rfl, rfl, rfl, rfl, rfl, rfl, rfl⟩
  · exact ⟨rfl, rfl, rfl, rfl, rfl, rfl, rfl, rfl⟩

theorem alignPromotion_cases :
    (frame.trackSegmentId = self.formalPromotionTrackSegmentId ∧ continuous = true ∧
      self.alignPromotion frame continuous = self) ∨
    self.alignPromotion frame continuous = { self with
      formalPromotionConfirmCount := 0
      formalPromotionTrackSegmentId := frame.trackSegmentId } := by
  unfold alignPromotion
  split_ifs with broken
  · exact .inr rfl
  · simp only [Bool.or_eq_true, decide_eq_true_eq, Bool.not_eq_true', not_or, not_not,
      Bool.not_eq_false] at broken
    exact .inl ⟨broken.1, broken.2, rfl⟩

section Roots

variable [GeometryMath]

theorem maintain_keeps :
    KeepsAuthority
      (if (self.alignPromotion frame continuous).result.formalAuthorized = true then
        self.alignPromotion frame continuous
      else (self.alignPromotion frame continuous).promote frame)
      (self.maintain frame continuous) := by
  unfold maintain
  dsimp only
  generalize (if (self.alignPromotion frame continuous).result.formalAuthorized = true then
      self.alignPromotion frame continuous
    else (self.alignPromotion frame continuous).promote frame) = promoted
  -- The stages after the promotion follow one another.
  have posed : KeepsAuthority promoted
      { promoted.alignDimensions frame continuous with
        result := followPose (promoted.alignDimensions frame continuous).config frame
          (promoted.alignDimensions frame continuous).result } := by
    refine (@alignDimensions_keeps promoted frame continuous).trans ?_
    obtain ⟨frozen, formal, owner⟩ := @followPose_keeps frame
      (promoted.alignDimensions frame continuous).config
      (promoted.alignDimensions frame continuous).result
    exact ⟨rfl, rfl, rfl, frozen, formal, owner, rfl, rfl⟩
  refine (posed.trans (@reshape_keeps _ frame)).trans ?_
  exact ⟨rfl, rfl, rfl, rfl, rfl, rfl, rfl, rfl⟩

structure Promoted (before : CargoGeometryFusion) (frame : CargoGeometryFrame)
    (after : CargoGeometryFusion) : Prop where
  config : after.config = before.config
  validation : after.configValidation = before.configValidation
  clock : after.lastStampSec = before.lastStampSec
  frozen : after.result.frozen = before.result.frozen
  owner : after.result.cargoLifecycleId = before.result.cargoLifecycleId
  segment : after.formalPromotionTrackSegmentId = before.formalPromotionTrackSegmentId
  count : after.formalPromotionConfirmCount = if promotionConsistent before.config frame then
    before.formalPromotionConfirmCount + 1 else 0
  formal : after.result.formalAuthorized = true ↔
    before.config.minimumConfirmFrames ≤ (after.formalPromotionConfirmCount : Int)

theorem promote_promoted (unauthorized : self.result.formalAuthorized = false) :
    Promoted self frame (self.promote frame) := by
  unfold promote
  dsimp only
  split_ifs with consistent enough enough
  · exact ⟨rfl, rfl, rfl, rfl, rfl, rfl, by rw [if_pos consistent], iff_of_true rfl enough⟩
  · exact ⟨rfl, rfl, rfl, rfl, rfl, rfl, by rw [if_pos consistent],
      iff_of_false (by simp [unauthorized]) enough⟩
  · exact ⟨rfl, rfl, rfl, rfl, rfl, rfl, by rw [if_neg consistent], iff_of_true rfl enough⟩
  · exact ⟨rfl, rfl, rfl, rfl, rfl, rfl, by rw [if_neg consistent],
      iff_of_false (by simp [unauthorized]) enough⟩

end Roots
end CargoGeometryFusion
end NdtSlam
