import NdtSlam.Cargo.GeometryConfirmation
import NdtSlam.Cargo.GeometryPromotion
import NdtSlam.Foundation.History

/-! What stands behind a geometry that is authorized formally. -/

namespace NdtSlam

variable {config : CargoGeometryFusionConfig} {frame : CargoGeometryFrame}
  {seen : List CargoGeometryFrame}

structure FormallyConfirmed (config : CargoGeometryFusionConfig) (seen : List CargoGeometryFrame)
    (lifecycle segment : Nat) (thicknesses shapes : List CargoGeometryFrame) : Prop where
  thicknessesWithin :
    thicknesses.Sublist (seen.take config.shapeConfirmationWindowFrames.toNat)
  shapesWithin : shapes.Sublist (seen.take config.shapeConfirmationWindowFrames.toNat)
  enoughThicknesses : config.minimumConfirmFrames ≤ (thicknesses.length : Int)
  enoughShapes : config.minimumConfirmFrames ≤ (shapes.length : Int)
  measured : ∀ frame ∈ thicknesses, frame.cargoLifecycleId = lifecycle ∧
    frame.trackSegmentId = segment ∧ frame.formalTrackLocked = true ∧ frame.SourcesAgree config
  timely : thicknesses.IsChain (CargoGeometryFrame.Succeeds config)
  complete : ∀ frame ∈ shapes, frame.cargoLifecycleId = lifecycle ∧
    frame.trackSegmentId = segment ∧
    (validDimensionEvidence frame config config.minimumInitialShapeConfidence = true ∨
      validDimensionEvidence frame config config.minimumLiveShapeConfidenceForShrink = true)

def Warranted (config : CargoGeometryFusionConfig) (seen : List CargoGeometryFrame)
    (lifecycle : Nat) : Prop :=
  ∃ segment thicknesses shapes,
    FormallyConfirmed config seen lifecycle segment thicknesses shapes

theorem validate_frames (valid : (validateCargoGeometryFusionConfig config).valid = true) :
    0 < config.minimumConfirmFrames ∧
      config.minimumConfirmFrames ≤ config.shapeConfirmationWindowFrames := by
  have passes := (ConfigCheck.validate_valid _).mp valid
  have demanded := passes (.failsWhen "minimum_confirm_frames" "must_be_positive"
    (config.minimumConfirmFrames ≤ 0)) (by simp [geometryConfigChecks])
  have room := passes (.failsWhen "shape_confirmation_window_frames" "must_be_positive"
    (config.shapeConfirmationWindowFrames ≤ 0)) (by simp [geometryConfigChecks])
  have enough := passes (.failsWhen "shape_confirmation_window_frames"
    "below_minimum_confirm_frames" (0 < config.shapeConfirmationWindowFrames &&
      config.shapeConfirmationWindowFrames < config.minimumConfirmFrames))
    (by simp [geometryConfigChecks])
  simp only [ConfigCheck.failsWhen, ite_eq_right_iff, reduceCtorEq, imp_false, decide_eq_true_eq,
    Bool.and_eq_true, not_and, not_lt, not_le] at demanded room enough
  exact ⟨demanded, enough room⟩

namespace CargoGeometryFusion

variable {self : CargoGeometryFusion}

def AuthorizedFor (self : CargoGeometryFusion) (lifecycle : Nat) : Prop :=
  self.result.formalAuthorized = true ∧ self.result.cargoLifecycleId = lifecycle

structure TakesIn (before : CargoGeometryFusion) (frame : CargoGeometryFrame) : Prop where
  advances : before.rejectsStamp frame = false
  tracked : frame.cargoLifecycleId ≠ 0
  same : before.changesLifecycle frame = false

section Roots

variable [GeometryMath]

structure Attributes (before : CargoGeometryFusion) (seen : List CargoGeometryFrame)
    (frame : CargoGeometryFrame) : Prop where
  shapes : before.TakesIn frame → before.result.frozen = false → before.leavesGap frame = false →
    before.shapeConfirmTrackSegmentId = frame.trackSegmentId →
    formalEvidence before.config frame = true →
    ∀ older ∈ before.heldShapes seen, older.cargoLifecycleId = frame.cargoLifecycleId
  thicknesses : before.TakesIn frame → before.result.frozen = false →
    before.leavesGap frame = false →
    before.thicknessConfirmTrackSegmentId = frame.trackSegmentId →
    before.thicknessConfirmationFormalMode = true → formalEvidence before.config frame = true →
    ∀ newest ∈ (before.heldEvidence seen).head?,
      frame.stampSec - newest.stampSec ≤ before.config.maximumObservationGapSec
  promotion : before.TakesIn frame → before.result.frozen = true →
    before.result.formalAuthorized = false → before.observationContinuous frame = true →
    frame.trackSegmentId = before.formalPromotionTrackSegmentId →
    promotionConsistent before.config frame = true →
    ∀ newest ∈ (seen.take before.formalPromotionConfirmCount).head?,
      frame.stampSec - newest.stampSec ≤ before.config.maximumObservationGapSec

/-! ### What every run keeps -/

structure PromotionHeld (before : CargoGeometryFusion) (seen : List CargoGeometryFrame) :
    Prop where
  available : before.formalPromotionConfirmCount ≤ seen.length
  below : (before.formalPromotionConfirmCount : Int) < before.config.minimumConfirmFrames
  consistent : ∀ older ∈ seen.take before.formalPromotionConfirmCount,
    promotionConsistent before.config older = true ∧
      older.trackSegmentId = before.formalPromotionTrackSegmentId ∧
      older.cargoLifecycleId = before.result.cargoLifecycleId
  chain : (seen.take before.formalPromotionConfirmCount).IsChain
    (CargoGeometryFrame.Succeeds before.config)

theorem PromotionHeld.idle (none : self.formalPromotionConfirmCount = 0)
    (demanded : 0 < self.config.minimumConfirmFrames) : self.PromotionHeld seen := by
  refine ⟨?_, ?_, ?_, ?_⟩ <;> rw [none]
  · exact Nat.zero_le _
  · exact demanded
  · simp
  · simp

structure Accounted (config : CargoGeometryFusionConfig) (seen : List CargoGeometryFrame)
    (before : CargoGeometryFusion) : Prop where
  config : before.config = config
  valid : before.configValidation.valid = true
  clock : before.lastStampSec.isFinite = true
  stamps : ∀ older ∈ seen, 0 < older.stampSec ∧ older.stampSec ≤ before.lastStampSec
  tracked : ∀ older ∈ seen, older.cargoLifecycleId ≠ 0
  shapes : before.result.frozen = false → before.ShapesHeld seen
  thicknesses : before.result.frozen = false → before.ThicknessHeld seen
  idle : before.result.frozen = false → before.formalPromotionConfirmCount = 0
  unauthorized : before.result.frozen = false → before.result.formalAuthorized = false
  owned : before.result.frozen = true → before.result.cargoLifecycleId ≠ 0
  promotion : before.result.frozen = true → before.result.formalAuthorized = false →
    before.PromotionHeld seen

theorem Accounted.blank {after : CargoGeometryFusion} (sameConfig : after.config = config)
    (valid : after.configValidation.valid = true) (clock : after.lastStampSec.isFinite = true)
    (stamps : ∀ older ∈ seen, 0 < older.stampSec ∧ older.stampSec ≤ after.lastStampSec)
    (tracked : ∀ older ∈ seen, older.cargoLifecycleId ≠ 0)
    (unfrozen : after.result.frozen = false) (unauthorized : after.result.formalAuthorized = false)
    (shapes : after.shapeQualityWindow = []) (thicknesses : after.thicknessCandidateWindow = [])
    (idle : after.formalPromotionConfirmCount = 0) : Accounted config seen after where
  config := sameConfig
  valid := valid
  clock := clock
  stamps := stamps
  tracked := tracked
  shapes := fun _ => .empty shapes
  thicknesses := fun _ => .empty thicknesses
  idle := fun _ => idle
  unauthorized := fun _ => unauthorized
  owned := fun frozen => absurd (unfrozen.symm.trans frozen) (by simp)
  promotion := fun frozen => absurd (unfrozen.symm.trans frozen) (by simp)

theorem Accounted.retime (accounted : Accounted config seen self) {stamp : Scalar}
    (finite : stamp.isFinite = true)
    (stamps : ∀ older ∈ seen, 0 < older.stampSec ∧ older.stampSec ≤ stamp)
    (valid : Bool) (reason : String) :
    Accounted config seen { self with
      lastStampSec := stamp, result := { self.result with valid := valid, reason := reason } } := by
  refine ⟨accounted.config, accounted.valid, finite, stamps, accounted.tracked, ?_, ?_,
    accounted.idle, accounted.unauthorized, accounted.owned, ?_⟩
  · intro unfrozen
    obtain ⟨mirrors, segment⟩ := accounted.shapes unfrozen
    exact ⟨mirrors, segment⟩
  · intro unfrozen
    obtain ⟨mirrors, segment, owner, chain⟩ := accounted.thicknesses unfrozen
    exact ⟨mirrors, segment, owner, chain⟩
  · intro frozen informal
    obtain ⟨available, below, consistent, chain⟩ := accounted.promotion frozen informal
    exact ⟨available, below, consistent, chain⟩

theorem Accounted.later (accounted : Accounted config seen self)
    (advances : self.rejectsStamp frame = false) :
    frame.stampSec.isFinite = true ∧ 0 < frame.stampSec ∧
      (∀ older ∈ seen, older.stampSec < frame.stampSec) ∧
      ∀ older ∈ seen, 0 < older.stampSec ∧ older.stampSec ≤ frame.stampSec := by
  simp only [rejectsStamp, Bool.or_eq_false_iff, Bool.not_eq_eq_eq_not, Bool.not_false,
    decide_eq_false_iff_not, Bool.and_eq_false_iff] at advances
  obtain ⟨⟨finite, positive⟩, follows⟩ := advances
  obtain ⟨stamp, sameStamp⟩ := Scalar.isFinite_iff.1 finite
  obtain ⟨last, sameLast⟩ := Scalar.isFinite_iff.1 accounted.clock
  rw [sameStamp] at positive follows
  rw [sameLast] at follows
  have positive : (0 : ℚ) < stamp := by
    by_contra nonpositive
    exact positive (Scalar.fin_le_fin.2 (by exact_mod_cast not_lt.mp nonpositive))
  have later : ∀ older ∈ seen, older.stampSec < frame.stampSec := by
    intro older member
    obtain ⟨started, bounded⟩ := accounted.stamps older member
    rw [sameLast] at bounded
    rw [sameStamp]
    -- The time has begun, so that the stamp has to exceed the newest one.
    have begun : Scalar.fin 0 < Scalar.fin last := by
      cases stampOf : older.stampSec with
      | fin value =>
        rw [stampOf] at started bounded
        have first : (0 : ℚ) < value := by exact_mod_cast Scalar.fin_lt_fin.1 started
        exact Scalar.fin_lt_fin.2 (first.trans_le (Scalar.fin_le_fin.1 bounded))
      | nan => rw [stampOf] at bounded; cases bounded
      | posInf => rw [stampOf] at bounded; cases bounded
      | negInf => rw [stampOf] at started; cases started
    have exceeds : last < stamp := by
      rcases follows with unstarted | within
      · exact absurd begun unstarted
      · exact not_le.mp fun below => within (Scalar.fin_le_fin.2 below)
    exact Scalar.lt_of_le_of_lt bounded (Scalar.fin_lt_fin.2 exceeds)
  refine ⟨finite, ?_, later, fun older member =>
    ⟨(accounted.stamps older member).1, Scalar.le_of_lt (later older member)⟩⟩
  rw [sameStamp]
  exact Scalar.fin_lt_fin.2 (by exact_mod_cast positive)

/-! ### A frame while the geometry is confirmed -/

theorem heldShapes_confirm {older : CargoGeometryFrame}
    (member : older ∈ (self.confirm frame).heldShapes (frame :: seen)) :
    older = frame ∨
      self.shapeConfirmTrackSegmentId = frame.trackSegmentId ∧ older ∈ self.heldShapes seen := by
  obtain ⟨config, -, -, -, -, -, pushed⟩ := @confirm_shapes self frame _
  obtain ⟨among, complete⟩ := List.mem_filter.mp member
  have grown : older ∈ (frame :: seen).take
      ((self.alignWindows frame).shapeQualityWindow.length + 1) := by
    refine (List.take_subset_take_left _ ?_) among
    rw [pushed]
    exact pushBounded_length_le_succ _ _ _
  rw [List.take_succ_cons] at grown
  rcases List.mem_cons.mp grown with same | grown
  · exact .inl same
  · rcases @alignWindows_shapes self frame with ⟨segment, window⟩ | nothing
    · rw [window] at grown
      rw [config] at complete
      exact .inr ⟨segment, List.mem_filter.mpr ⟨grown, complete⟩⟩
    · simp [nothing] at grown

theorem confirm_bounded (positive : 0 < self.config.shapeConfirmationWindowFrames.toNat) :
    (self.confirm frame).thicknessCandidateWindow.length
        ≤ self.config.shapeConfirmationWindowFrames.toNat ∧
      (self.confirm frame).shapeQualityWindow.length
        ≤ self.config.shapeConfirmationWindowFrames.toNat := by
  obtain ⟨-, -, -, -, -, -, shapes⟩ := @confirm_shapes self frame _
  refine ⟨?_, ?_⟩
  · rcases @confirm_thickness self frame _ positive with ⟨-, thicknesses⟩ | thicknesses
    · rw [thicknesses]
      exact pushBounded_length_le _ _ _
    · rw [thicknesses]
      exact positive
  · rw [shapes]
    exact pushBounded_length_le _ _ _

structure Continues (before : CargoGeometryFusion) (seen : List CargoGeometryFrame)
    (frame : CargoGeometryFrame) : Prop where
  stamp : before.lastStampSec = frame.stampSec
  positive : 0 < frame.stampSec
  later : ∀ older ∈ seen, older.stampSec < frame.stampSec
  tracked : frame.cargoLifecycleId ≠ 0
  owner : before.result.cargoLifecycleId = 0 ∨
    before.result.cargoLifecycleId = frame.cargoLifecycleId
  shapes : before.result.frozen = false →
    before.shapeConfirmTrackSegmentId = frame.trackSegmentId →
    formalEvidence before.config frame = true →
    ∀ older ∈ before.heldShapes seen, older.cargoLifecycleId = frame.cargoLifecycleId
  thicknesses : before.result.frozen = false →
    before.thicknessConfirmTrackSegmentId = frame.trackSegmentId →
    before.thicknessConfirmationFormalMode = true → formalEvidence before.config frame = true →
    ∀ newest ∈ (before.heldEvidence seen).head?,
      frame.stampSec - newest.stampSec ≤ before.config.maximumObservationGapSec

theorem Continues.stamps (continues : self.Continues seen frame)
    (stamps : ∀ older ∈ seen, 0 < older.stampSec ∧ older.stampSec ≤ self.lastStampSec)
    (finite : self.lastStampSec.isFinite = true) :
    ∀ older ∈ frame :: seen, 0 < older.stampSec ∧ older.stampSec ≤ self.lastStampSec := by
  intro older member
  rcases List.mem_cons.mp member with rfl | member
  · refine ⟨continues.positive, ?_⟩
    rw [continues.stamp] at finite ⊢
    exact Scalar.le_refl_of_finite finite
  · exact stamps older member

theorem Accounted.held (accounted : Accounted config seen self)
    (positive : 0 < config.shapeConfirmationWindowFrames.toNat)
    (unfrozen : self.result.frozen = false) (continues : self.Continues seen frame) :
    (self.confirm frame).ShapesHeld (frame :: seen) ∧
      (self.confirm frame).ThicknessHeld (frame :: seen) := by
  refine ⟨(accounted.shapes unfrozen).confirm, ?_⟩
  refine (accounted.thicknesses unfrozen).confirm ?_ accounted.tracked continues.owner ?_
  · rw [accounted.config]
    exact positive
  · intro segment formal evidence newest first
    -- A frame that is held was seen before, and thus lies in the past.
    have member : newest ∈ seen := by
      have held := List.mem_of_mem_head? first
      exact List.mem_of_mem_take (List.mem_filter.mp held).1
    exact ⟨continues.later newest member,
      continues.thicknesses unfrozen segment formal evidence newest first⟩

section

variable (valid : (validateCargoGeometryFusionConfig config).valid = true)
include valid

theorem Accounted.confirm (accounted : Accounted config seen self)
    (unfrozen : self.result.frozen = false) (continues : self.Continues seen frame) :
    Accounted config (frame :: seen) (self.confirm frame) := by
  obtain ⟨demanded, room⟩ := validate_frames valid
  obtain ⟨shapes, thicknesses⟩ := accounted.held (by omega) unfrozen continues
  obtain ⟨sameConfig, validation, clock, count, -⟩ := @confirm_shapes self frame _
  have idle : (self.confirm frame).formalPromotionConfirmCount = 0 :=
    count.trans (accounted.idle unfrozen)
  refine ⟨sameConfig.trans accounted.config, ?_, ?_, ?_, ?_, fun _ => shapes,
    fun _ => thicknesses, fun _ => idle, ?_, ?_, ?_⟩
  · rw [validation]
    exact accounted.valid
  · rw [clock]
    exact accounted.clock
  · rw [clock]
    exact continues.stamps accounted.stamps accounted.clock
  · exact List.forall_mem_cons.mpr ⟨continues.tracked, accounted.tracked⟩
  · intro still
    cases formal : (self.confirm frame).result.formalAuthorized with
    | false => rfl
    | true =>
      -- A formal authority would come with a frozen geometry.
      have frozen := (confirm_formal (accounted.unauthorized unfrozen) formal).2.1
      exact absurd (still.symm.trans frozen) (by simp)
  · intro frozen
    rw [confirm_owner.1 (confirm_frozen unfrozen frozen)]
    exact continues.tracked
  · intro frozen informal
    exact .idle idle (by rwa [sameConfig, accounted.config])

theorem Accounted.confirm_warranted (accounted : Accounted config seen self)
    (unfrozen : self.result.frozen = false) (continues : self.Continues seen frame)
    (formal : (self.confirm frame).result.formalAuthorized = true) :
    Warranted config (frame :: seen) (self.confirm frame).result.cargoLifecycleId := by
  obtain ⟨demanded, room⟩ := validate_frames valid
  have positive : 0 < config.shapeConfirmationWindowFrames.toNat := by omega
  obtain ⟨shapes, thicknesses⟩ := accounted.held positive unfrozen continues
  obtain ⟨evidence, -, mode, enough, shaped⟩ :=
    confirm_formal (accounted.unauthorized unfrozen) formal
  obtain ⟨sameConfig, -, -, -, shapeSegment, thicknessSegment, -⟩ := @confirm_shapes self frame _
  obtain ⟨thicknessBound, shapeBound⟩ := @confirm_bounded frame self _
    (by rw [accounted.config]; exact positive)
  have placed : frame.placed = true := by
    simp only [formalEvidence, Bool.and_eq_true] at evidence
    exact evidence.1.1
  have owner : (self.confirm frame).result.cargoLifecycleId = frame.cargoLifecycleId :=
    confirm_owner.1 placed
  rw [accounted.config] at thicknessBound shapeBound enough shaped
  have same : (self.confirm frame).config = config := sameConfig.trans accounted.config
  refine ⟨frame.trackSegmentId, (self.confirm frame).heldEvidence (frame :: seen),
    (self.confirm frame).heldShapes (frame :: seen), ?_, ?_, ?_, ?_, ?_, ?_, ?_⟩
  · exact List.filter_sublist.trans (List.take_sublist_take_left thicknessBound)
  · exact List.filter_sublist.trans (List.take_sublist_take_left shapeBound)
  · rw [← thicknesses.count mode]
    exact enough
  · rw [← shapes.count]
    exact shaped
  · intro older member
    obtain ⟨among, counted⟩ := List.mem_filter.mp member
    rw [same] at counted
    simp only [formalEvidence, Bool.and_eq_true] at counted
    obtain ⟨locked, agree⟩ := hasFormalPair_agree counted.1.2
    exact ⟨thicknesses.owner older among counted.1.1,
      (thicknesses.segment older among).trans thicknessSegment, locked, agree⟩
  · have chain := thicknesses.chain mode
    rwa [same] at chain
  · intro older member
    obtain ⟨among, complete⟩ := List.mem_filter.mp member
    rw [same] at complete
    refine ⟨?_, (shapes.segment older among).trans shapeSegment, .inl complete⟩
    rw [owner]
    rcases heldShapes_confirm member with rfl | ⟨segment, held⟩
    · rfl
    · exact continues.shapes unfrozen segment evidence older held

/-! ### A frame while the geometry is frozen -/

theorem Accounted.aligned {continuous : Bool} (accounted : Accounted config seen self)
    (frozen : self.result.frozen = true) (informal : self.result.formalAuthorized = false)
    (recent : continuous = true → frame.trackSegmentId = self.formalPromotionTrackSegmentId →
      promotionConsistent self.config frame = true →
      ∀ newest ∈ (seen.take self.formalPromotionConfirmCount).head?,
        frame.Succeeds self.config newest) :
    (self.alignPromotion frame continuous).PromotionHeld seen ∧
      (self.alignPromotion frame continuous).formalPromotionTrackSegmentId
        = frame.trackSegmentId ∧
      (promotionConsistent self.config frame = true →
        ∀ newest ∈ (seen.take (self.alignPromotion frame continuous).formalPromotionConfirmCount
          ).head?, frame.Succeeds self.config newest) := by
  have held := accounted.promotion frozen informal
  rcases @alignPromotion_cases self frame continuous with ⟨segment, goesOn, same⟩ | started
  · rw [same]
    exact ⟨held, segment.symm, recent goesOn segment⟩
  · rw [started]
    refine ⟨.idle rfl ?_, rfl, by simp⟩
    show 0 < self.config.minimumConfirmFrames
    rw [accounted.config]
    exact (validate_frames valid).1

end

variable {before after : CargoGeometryFusion}

theorem promoted_warranted (held : before.PromotionHeld seen)
    (promoted : Promoted before frame after)
    (segment : before.formalPromotionTrackSegmentId = frame.trackSegmentId)
    (owner : before.result.cargoLifecycleId = frame.cargoLifecycleId)
    (recent : promotionConsistent before.config frame = true →
      ∀ newest ∈ (seen.take before.formalPromotionConfirmCount).head?,
        frame.Succeeds before.config newest)
    (demanded : 0 < before.config.minimumConfirmFrames)
    (room : before.config.minimumConfirmFrames ≤ before.config.shapeConfirmationWindowFrames) :
    (after.result.formalAuthorized = false → after.PromotionHeld (frame :: seen)) ∧
      (after.result.formalAuthorized = true →
        Warranted before.config (frame :: seen) after.result.cargoLifecycleId) := by
  have below := held.below
  have available := held.available
  cases consistent : promotionConsistent before.config frame with
  | false =>
    -- The streak is over, and none is long enough when nothing is demanded of it.
    have ended : after.formalPromotionConfirmCount = 0 := by
      rw [promoted.count, consistent]
      rfl
    refine ⟨fun _ => .idle ended (by rwa [promoted.config]), fun formal => ?_⟩
    have enough := promoted.formal.mp formal
    rw [ended] at enough
    omega
  | true =>
    have longer : after.formalPromotionConfirmCount = before.formalPromotionConfirmCount + 1 := by
      rw [promoted.count, consistent]
      rfl
    have streak : (frame :: seen).take after.formalPromotionConfirmCount =
        frame :: seen.take before.formalPromotionConfirmCount := by
      rw [longer, List.take_succ_cons]
    have chain : ((frame :: seen).take after.formalPromotionConfirmCount).IsChain
        (CargoGeometryFrame.Succeeds before.config) := by
      rw [streak]
      exact held.chain.cons (recent consistent)
    have all : ∀ older ∈ (frame :: seen).take after.formalPromotionConfirmCount,
        promotionConsistent before.config older = true ∧
          older.trackSegmentId = frame.trackSegmentId ∧
          older.cargoLifecycleId = before.result.cargoLifecycleId := by
      rw [streak]
      refine List.forall_mem_cons.mpr ⟨⟨consistent, rfl, owner.symm⟩, ?_⟩
      rw [← segment]
      exact held.consistent
    refine ⟨fun informal => ⟨?_, ?_, ?_, ?_⟩, ?_⟩
    · rw [longer, List.length_cons]
      omega
    · rw [promoted.config]
      by_contra long
      have formal := promoted.formal.mpr (not_lt.mp long)
      exact absurd (informal.symm.trans formal) (by simp)
    · rw [promoted.config, promoted.segment, promoted.owner, segment]
      exact all
    · rw [promoted.config]
      exact chain
    · intro formal
      have enough := promoted.formal.mp formal
      have length : ((frame :: seen).take after.formalPromotionConfirmCount).length
          = after.formalPromotionConfirmCount := by
        rw [List.length_take, List.length_cons]
        omega
      have within : ((frame :: seen).take after.formalPromotionConfirmCount).Sublist
          ((frame :: seen).take before.config.shapeConfirmationWindowFrames.toNat) :=
        List.take_sublist_take_left (by omega)
      rw [promoted.owner]
      refine ⟨frame.trackSegmentId, _, _, ⟨within, within, ?_, ?_, ?_, chain, ?_⟩⟩
      · rwa [length]
      · rwa [length]
      · intro older member
        obtain ⟨argues, sameSegment, sameOwner⟩ := all older member
        obtain ⟨locked, agree, -⟩ := promotionConsistent_agree argues
        exact ⟨sameOwner, sameSegment, locked, agree⟩
      · intro older member
        obtain ⟨argues, sameSegment, sameOwner⟩ := all older member
        exact ⟨sameOwner, sameSegment, .inr (promotionConsistent_agree argues).2.2⟩

theorem PromotionHeld.carry (held : before.PromotionHeld seen)
    (keeps : KeepsAuthority before after) : after.PromotionHeld seen where
  available := by
    rw [keeps.count]
    exact held.available
  below := by
    rw [keeps.count, keeps.config]
    exact held.below
  consistent := by
    rw [keeps.count, keeps.config, keeps.segment, keeps.owner]
    exact held.consistent
  chain := by
    rw [keeps.count, keeps.config]
    exact held.chain

section

variable (accounted : Accounted config seen self)
include accounted

theorem Accounted.maintain {continuous : Bool}
    (valid : (validateCargoGeometryFusionConfig config).valid = true)
    (frozen : self.result.frozen = true) (continues : self.Continues seen frame)
    (recent : self.result.formalAuthorized = false → continuous = true →
      frame.trackSegmentId = self.formalPromotionTrackSegmentId →
      promotionConsistent self.config frame = true →
      ∀ newest ∈ (seen.take self.formalPromotionConfirmCount).head?,
        frame.Succeeds self.config newest) :
    Accounted config (frame :: seen) (self.maintain frame continuous) ∧
      (self.maintain frame continuous).result.cargoLifecycleId = self.result.cargoLifecycleId ∧
      (self.result.formalAuthorized = false →
        (self.maintain frame continuous).result.formalAuthorized = true →
        Warranted config (frame :: seen) self.result.cargoLifecycleId) := by
  obtain ⟨demanded, room⟩ := validate_frames valid
  have keeps := @maintain_keeps self frame continuous _
  generalize self.maintain frame continuous = after at keeps
  have sameResult : (self.alignPromotion frame continuous).result = self.result := by
    unfold alignPromotion
    split_ifs <;> rfl
  have sameRest : (self.alignPromotion frame continuous).config = self.config ∧
      (self.alignPromotion frame continuous).configValidation = self.configValidation ∧
      (self.alignPromotion frame continuous).lastStampSec = self.lastStampSec := by
    unfold alignPromotion
    split_ifs <;> exact ⟨rfl, rfl, rfl⟩
  -- Whatever becomes of the promotion, the rest of the account does not depend on it.
  have account : ∀ promoted : CargoGeometryFusion, KeepsAuthority promoted after →
      promoted.config = self.config → promoted.configValidation = self.configValidation →
      promoted.lastStampSec = self.lastStampSec → promoted.result.frozen = true →
      promoted.result.cargoLifecycleId = self.result.cargoLifecycleId →
      (after.result.formalAuthorized = false → after.PromotionHeld (frame :: seen)) →
      Accounted config (frame :: seen) after := by
    intro promoted keeps sameConfig validation clock stillFrozen owner held
    have ends : after.result.frozen = true := keeps.frozen.trans stillFrozen
    have newest : after.lastStampSec = self.lastStampSec := keeps.clock.trans clock
    refine ⟨(keeps.config.trans sameConfig).trans accounted.config, ?_, ?_, ?_, ?_,
      fun unfrozen => absurd (ends.symm.trans unfrozen) (by simp),
      fun unfrozen => absurd (ends.symm.trans unfrozen) (by simp),
      fun unfrozen => absurd (ends.symm.trans unfrozen) (by simp),
      fun unfrozen => absurd (ends.symm.trans unfrozen) (by simp), ?_, fun _ => held⟩
    · rw [keeps.validation, validation]
      exact accounted.valid
    · rw [newest]
      exact accounted.clock
    · rw [newest]
      exact continues.stamps accounted.stamps accounted.clock
    · exact List.forall_mem_cons.mpr ⟨continues.tracked, accounted.tracked⟩
    · intro _
      rw [keeps.owner, owner]
      exact accounted.owned frozen
  cases formal : self.result.formalAuthorized with
  | true =>
    rw [if_pos (by rw [sameResult]; exact formal)] at keeps
    have still : after.result.formalAuthorized = true :=
      keeps.formal.trans (by rw [sameResult]; exact formal)
    refine ⟨account _ keeps sameRest.1 sameRest.2.1 sameRest.2.2 (by rw [sameResult]; exact frozen)
      (by rw [sameResult]) (fun informal => absurd (still.symm.trans informal) (by simp)),
      keeps.owner.trans (by rw [sameResult]), fun informal => by cases informal⟩
  | false =>
    have unauthorized : (self.alignPromotion frame continuous).result.formalAuthorized = false := by
      rw [sameResult]
      exact formal
    rw [if_neg (by simp [unauthorized])] at keeps
    have promoted : Promoted (self.alignPromotion frame continuous) frame
        ((self.alignPromotion frame continuous).promote frame) := promote_promoted unauthorized
    obtain ⟨held, segment, newest⟩ := accounted.aligned valid frozen formal (recent formal)
    have sameOwner : self.result.cargoLifecycleId = frame.cargoLifecycleId := by
      rcases continues.owner with nobody | same
      · exact absurd nobody (accounted.owned frozen)
      · exact same
    rw [← sameRest.1] at newest
    obtain ⟨goesOn, warranted⟩ := promoted_warranted held promoted segment
      (by rw [sameResult]; exact sameOwner) newest
      (by rw [sameRest.1, accounted.config]; exact demanded)
      (by rw [sameRest.1, accounted.config]; exact room)
    rw [sameRest.1, accounted.config] at warranted
    have owner : ((self.alignPromotion frame continuous).promote frame).result.cargoLifecycleId
        = self.result.cargoLifecycleId := by
      rw [promoted.owner, sameResult]
    refine ⟨account _ keeps (promoted.config.trans sameRest.1)
      (promoted.validation.trans sameRest.2.1) (promoted.clock.trans sameRest.2.2)
      (promoted.frozen.trans (by rw [sameResult]; exact frozen)) owner ?_,
      keeps.owner.trans owner, fun _ authorized => ?_⟩
    · intro informal
      exact (goesOn (keeps.formal.symm.trans informal)).carry keeps
    · rw [← owner]
      exact warranted (keeps.formal.symm.trans authorized)

/-! ### Any frame -/

theorem Accounted.continues {ready : CargoGeometryFusion}
    (advances : self.rejectsStamp frame = false) (tracked : frame.cargoLifecycleId ≠ 0)
    (attributes : self.Attributes seen frame) (prepared : Ready self frame ready) :
    Accounted config seen ready ∧ ready.Continues seen frame := by
  obtain ⟨finite, positive, later, stamps⟩ :=
    @Accounted.later config frame seen self _ accounted advances
  have retimed : Accounted config seen { self with lastStampSec := frame.stampSec } :=
    accounted.retime finite stamps self.result.valid self.result.reason
  have blank : ∀ state : CargoGeometryFusion, state.config = self.config →
      state.configValidation = self.configValidation → state.lastStampSec = frame.stampSec →
      state.result.frozen = false → state.result.formalAuthorized = false →
      state.shapeQualityWindow = [] → state.thicknessCandidateWindow = [] →
      state.formalPromotionConfirmCount = 0 →
      (state.result.cargoLifecycleId = 0 ∨
        state.result.cargoLifecycleId = frame.cargoLifecycleId) →
      Accounted config seen state ∧ state.Continues seen frame := by
    intro state config validation clock unfrozen unauthorized shapes thicknesses idle owner
    refine ⟨.blank (config.trans accounted.config) (validation ▸ accounted.valid)
      (clock ▸ finite) (clock ▸ stamps) accounted.tracked unfrozen unauthorized shapes thicknesses
      idle, clock, positive, later, tracked, owner, ?_, ?_⟩
    · intro _ _ _ older member
      simp [heldShapes, shapes] at member
    · intro _ _ _ _ newest first
      simp [heldEvidence, thicknesses] at first
  cases prepared with
  | frozen already same =>
    refine ⟨retimed, rfl, positive, later, tracked, owner_of_same same, ?_, ?_⟩
    · intro unfrozen
      exact absurd (already.symm.trans unfrozen) (by simp)
    · intro unfrozen
      exact absurd (already.symm.trans unfrozen) (by simp)
  | kept unfrozen timely same =>
    have takesIn : self.TakesIn frame := ⟨advances, tracked, same⟩
    exact ⟨retimed, rfl, positive, later, tracked, owner_of_same same,
      fun _ => attributes.shapes takesIn unfrozen timely,
      fun _ => attributes.thicknesses takesIn unfrozen timely⟩
  | expired unfrozen late same =>
    exact blank _ rfl rfl rfl unfrozen (accounted.unauthorized unfrozen) rfl rfl
      (accounted.idle unfrozen) (owner_of_same same)
  | restarted other => exact blank _ rfl rfl rfl rfl rfl rfl rfl rfl (.inl rfl)

theorem Accounted.next (valid : (validateCargoGeometryFusionConfig config).valid = true)
    (advances : self.rejectsStamp frame = false) (tracked : frame.cargoLifecycleId ≠ 0)
    (attributes : self.Attributes seen frame) :
    Accounted config (frame :: seen) (self.next frame) ∧
      ∀ lifecycle, ¬self.AuthorizedFor lifecycle → (self.next frame).AuthorizedFor lifecycle →
        Warranted config (frame :: seen) lifecycle := by
  have prepared := @adopt_advance_ready self frame
  obtain ⟨ready, continues⟩ := accounted.continues advances tracked attributes prepared
  have step : self.next frame = if ((self.advance frame).adopt frame).result.frozen = true then
      ((self.advance frame).adopt frame).maintain frame (self.observationContinuous frame)
      else ((self.advance frame).adopt frame).confirm frame := by
    unfold CargoGeometryFusion.next
    rw [if_neg (by simp [accounted.valid]), if_neg (by simp [advances]), if_neg tracked]
  rw [step]
  generalize (self.advance frame).adopt frame = state at prepared ready continues
  cases frozen : state.result.frozen with
  | false =>
    rw [if_neg (by simp)]
    refine ⟨ready.confirm valid frozen continues, ?_⟩
    rintro lifecycle - ⟨formal, rfl⟩
    exact ready.confirm_warranted valid frozen continues formal
  | true =>
    rw [if_pos rfl]
    -- A geometry that is still frozen belongs to the cargo of the frame.
    cases prepared with
    | kept unfrozen => exact absurd (unfrozen.symm.trans frozen) (by simp)
    | expired unfrozen => exact absurd (unfrozen.symm.trans frozen) (by simp)
    | restarted => cases frozen
    | frozen already same =>
      have recent : self.result.formalAuthorized = false →
          self.observationContinuous frame = true →
          frame.trackSegmentId = self.formalPromotionTrackSegmentId →
          promotionConsistent self.config frame = true →
          ∀ newest ∈ (seen.take self.formalPromotionConfirmCount).head?,
            frame.Succeeds self.config newest := by
        intro informal continuous segment consistent newest first
        have member : newest ∈ seen := List.mem_of_mem_take (List.mem_of_mem_head? first)
        exact ⟨continues.later newest member, attributes.promotion ⟨advances, tracked, same⟩
          already informal continuous segment consistent newest first⟩
      obtain ⟨account, owner, warranted⟩ := ready.maintain valid frozen continues recent
      refine ⟨account, ?_⟩
      rintro lifecycle unauthorized ⟨formal, sameOwner⟩
      have owned : self.result.cargoLifecycleId = lifecycle := owner.symm.trans sameOwner
      rw [← owned]
      refine warranted ?_ formal
      cases before : self.result.formalAuthorized with
      | false => rfl
      | true => exact absurd ⟨before, owned⟩ unauthorized

theorem Accounted.skip (advances : self.rejectsStamp frame = false)
    (untracked : frame.cargoLifecycleId = 0) :
    Accounted config seen (self.next frame) ∧
      ∀ lifecycle, (self.next frame).AuthorizedFor lifecycle → self.AuthorizedFor lifecycle := by
  obtain ⟨finite, positive, later, stamps⟩ :=
    @Accounted.later config frame seen self _ accounted advances
  have step : self.next frame = { self.advance frame with
      result := { (self.advance frame).result with
        valid := false
        reason := "cargo_lifecycle_invalid" } } := by
    unfold CargoGeometryFusion.next
    rw [if_neg (by simp [accounted.valid]), if_neg (by simp [advances]), if_pos untracked]
  rw [step]
  unfold advance
  by_cases expires : (!self.result.frozen && self.leavesGap frame) = true
  · rw [if_pos expires]
    have unfrozen : self.result.frozen = false := by
      simp only [Bool.and_eq_true, Bool.not_eq_true'] at expires
      exact expires.1
    exact ⟨.blank accounted.config accounted.valid finite stamps accounted.tracked unfrozen
      (accounted.unauthorized unfrozen) rfl rfl (accounted.idle unfrozen),
      fun _ authorized => authorized⟩
  · rw [if_neg expires]
    exact ⟨accounted.retime finite stamps _ _, fun _ authorized => authorized⟩

theorem Accounted.rollback (rejects : self.rejectsStamp frame = true) :
    Accounted config [] (self.next frame) ∧
      ∀ lifecycle, ¬(self.next frame).AuthorizedFor lifecycle := by
  have step : self.next frame = { self.reset with
      result := { self.reset.result with reason := "source_time_invalid_or_rollback" } } := by
    unfold CargoGeometryFusion.next
    rw [if_neg (by simp [accounted.valid]), if_pos rejects]
  rw [step]
  refine ⟨.blank accounted.config accounted.valid rfl (by simp) (by simp) rfl rfl rfl rfl rfl, ?_⟩
  rintro lifecycle ⟨formal, -⟩
  cases formal

end

end Roots
end CargoGeometryFusion

/-! ### Runs -/

section Roots

variable [GeometryMath]

def geometryMachine (config : CargoGeometryFusionConfig) :
    Machine CargoGeometryFusion CargoGeometryFrame CargoFrozenGeometry where
  start := .setConfig config
  step := fun state frame => state.update frame

def seenFrames (config : CargoGeometryFusionConfig) :
    List CargoGeometryFrame → List CargoGeometryFrame
  | [] => []
  | frame :: older =>
    if ((geometryMachine config).run older).rejectsStamp frame then []
    else if frame.cargoLifecycleId = 0 then seenFrames config older
    else frame :: seenFrames config older

def AttributedRun (config : CargoGeometryFusionConfig) (frames : List CargoGeometryFrame) : Prop :=
  ∀ later frame earlier, frames = later ++ frame :: earlier →
    ((geometryMachine config).run earlier).Attributes (seenFrames config earlier) frame

variable {frames : List CargoGeometryFrame}

theorem AttributedRun.older (attributed : AttributedRun config (frame :: frames)) :
    AttributedRun config frames := by
  rintro later event earlier rfl
  exact attributed (frame :: later) event earlier rfl

theorem seen_step
    (valid : (validateCargoGeometryFusionConfig config).valid = true)
    (accounted : CargoGeometryFusion.Accounted config (seenFrames config frames)
      ((geometryMachine config).run frames))
    (attributes : ((geometryMachine config).run frames).Attributes (seenFrames config frames)
      frame) :
    CargoGeometryFusion.Accounted config (seenFrames config (frame :: frames))
        ((geometryMachine config).run (frame :: frames)) ∧
      ∀ lifecycle, ¬((geometryMachine config).run frames).AuthorizedFor lifecycle →
        ((geometryMachine config).run (frame :: frames)).AuthorizedFor lifecycle →
        Warranted config (seenFrames config (frame :: frames)) lifecycle := by
  show CargoGeometryFusion.Accounted config (seenFrames config (frame :: frames))
      (((geometryMachine config).run frames).next frame) ∧
    ∀ lifecycle, _ → (((geometryMachine config).run frames).next frame).AuthorizedFor lifecycle →
      Warranted config (seenFrames config (frame :: frames)) lifecycle
  unfold seenFrames
  cases rejects : ((geometryMachine config).run frames).rejectsStamp frame with
  | true =>
    rw [if_pos rfl]
    obtain ⟨account, nothing⟩ := accounted.rollback rejects
    exact ⟨account, fun lifecycle _ authorized => absurd authorized (nothing lifecycle)⟩
  | false =>
    rw [if_neg (by simp)]
    by_cases untracked : frame.cargoLifecycleId = 0
    · rw [if_pos untracked]
      obtain ⟨account, same⟩ := accounted.skip rejects untracked
      exact ⟨account, fun lifecycle unauthorized authorized =>
        absurd (same lifecycle authorized) unauthorized⟩
    · rw [if_neg untracked]
      exact accounted.next valid rejects untracked attributes

theorem run_accounted (valid : (validateCargoGeometryFusionConfig config).valid = true)
    (attributed : AttributedRun config frames) :
    CargoGeometryFusion.Accounted config (seenFrames config frames)
      ((geometryMachine config).run frames) := by
  induction frames with
  | nil => exact .blank rfl valid rfl (by simp [seenFrames]) (by simp [seenFrames]) rfl rfl rfl rfl rfl
  | cons frame frames ih =>
    exact (seen_step valid (ih attributed.older) (attributed [] frame frames rfl)).1

/-- In an attributed run, the update that authorized a cargo was warranted by its own frames. -/
theorem formal_authority_warranted
    (valid : (validateCargoGeometryFusionConfig config).valid = true)
    {frames : List CargoGeometryFrame} (attributed : AttributedRun config frames) {lifecycle : Nat}
    (authorized : ((geometryMachine config).run frames).AuthorizedFor lifecycle) :
    ∃ later frame earlier, frames = later ++ frame :: earlier ∧
      ¬((geometryMachine config).run earlier).AuthorizedFor lifecycle ∧
      (∀ newer older, later = newer ++ older →
        ((geometryMachine config).run (older ++ frame :: earlier)).AuthorizedFor lifecycle) ∧
      Warranted config (seenFrames config (frame :: earlier)) lifecycle := by
  induction frames with
  | nil =>
    obtain ⟨formal, -⟩ := authorized
    cases formal
  | cons frame frames ih =>
    by_cases before : ((geometryMachine config).run frames).AuthorizedFor lifecycle
    · -- The authority is older than the newest frame.
      obtain ⟨later, event, earlier, rfl, first, since, warranted⟩ := ih attributed.older before
      refine ⟨frame :: later, event, earlier, rfl, first, ?_, warranted⟩
      intro newer older split
      cases newer with
      | nil =>
        have whole : older = frame :: later := split.symm
        subst whole
        exact authorized
      | cons head rest => exact since rest older (List.cons.inj split).2
    · -- The newest frame is the one that authorized the cargo.
      obtain ⟨-, warranted⟩ := seen_step valid (run_accounted valid attributed.older)
        (attributed [] frame frames rfl)
      refine ⟨[], frame, frames, rfl, before, ?_, warranted lifecycle before authorized⟩
      intro newer older split
      obtain ⟨-, rfl⟩ := List.append_eq_nil_iff.mp split.symm
      exact authorized

end Roots

/-! ### Two runs -/

section Samples

@[reducible] def squareRoots : GeometryMath where
  sqrt
    | .fin value => .fin ((value.num.toNat.sqrt : ℚ) / value.den.sqrt)
    | _ => .nan

attribute [local instance] squareRoots

def pairConfig : CargoGeometryFusionConfig := { minimumConfirmFrames := 2 }

def singleConfig : CargoGeometryFusionConfig := { minimumConfirmFrames := 1 }

def metreThick (source : CargoThicknessSource) : CargoThicknessObservation where
  source := source
  heightM := 1
  uncertaintyM := 0.1
  confidence := 0.5
  valid := true

def seenCompletely (lifecycle : Nat) (stamp : Scalar) : CargoGeometryFrame where
  cargoLifecycleId := lifecycle
  trackSegmentId := 1
  stampSec := stamp
  formalTrackLocked := true
  centerValid := true
  footprintValid := true
  lengthM := 2
  widthM := 1
  dimensionSupportPoints := 40
  dimensionShapeConfidence := 0.9
  dimensionObservationComplete := true
  thickness := [metreThick .staticOriginTopSupport, metreThick .mapDiffRevealedSupport]

theorem formal_authority_pair :
    ∃ later frame earlier,
      [seenCompletely 1 1.2, seenCompletely 1 1] = later ++ frame :: earlier ∧
      ¬((geometryMachine pairConfig).run earlier).AuthorizedFor 1 ∧
      (∀ newer older, later = newer ++ older →
        ((geometryMachine pairConfig).run (older ++ frame :: earlier)).AuthorizedFor 1) ∧
      Warranted pairConfig (seenFrames pairConfig (frame :: earlier)) 1 := by
  have first : ((geometryMachine pairConfig).run []).Attributes (seenFrames pairConfig [])
      (seenCompletely 1 1) :=
    ⟨fun _ _ _ _ _ => by decide, fun _ _ _ _ formal => absurd formal (by decide),
      fun _ frozen => absurd frozen (by decide)⟩
  have second : ((geometryMachine pairConfig).run [seenCompletely 1 1]).Attributes
      (seenFrames pairConfig [seenCompletely 1 1]) (seenCompletely 1 1.2) :=
    ⟨fun _ _ _ _ _ => by with_unfolding_all decide, fun _ _ _ _ _ _ => by with_unfolding_all decide,
      fun _ frozen => absurd frozen (by with_unfolding_all decide)⟩
  refine formal_authority_warranted (by with_unfolding_all decide) ?_
    ⟨by with_unfolding_all decide, by with_unfolding_all decide⟩
  intro later frame earlier split
  rcases later with - | ⟨newest, later⟩
  · obtain ⟨rfl, rfl⟩ := List.cons.inj split
    exact second
  · rcases later with - | ⟨oldest, later⟩
    · obtain ⟨rfl, rfl⟩ := List.cons.inj (List.cons.inj split).2
      exact first
    · have short := congrArg List.length split
      simp at short

theorem formal_authority_borrowed :
    (validateCargoGeometryFusionConfig singleConfig).valid = true ∧
      ((geometryMachine singleConfig).run
        [{ seenCompletely 2 1.2 with dimensionObservationComplete := false },
          { seenCompletely 1 1 with centerValid := false }]).AuthorizedFor 2 ∧
      ¬((geometryMachine singleConfig).run
        [{ seenCompletely 1 1 with centerValid := false }]).AuthorizedFor 2 ∧
      ¬Warranted singleConfig (seenFrames singleConfig
        [{ seenCompletely 2 1.2 with dimensionObservationComplete := false },
          { seenCompletely 1 1 with centerValid := false }]) 2 := by
  refine ⟨by with_unfolding_all decide, ⟨by with_unfolding_all decide,
    by with_unfolding_all decide⟩, ?_, ?_⟩
  · rintro ⟨formal, -⟩
    exact absurd formal (by with_unfolding_all decide)
  · rintro ⟨segment, thicknesses, shapes, confirmed⟩
    -- No frame of the second cargo shows its dimensions.
    have enough : (1 : Int) ≤ shapes.length := confirmed.enoughShapes
    cases shapes with
    | nil => simp at enough
    | cons shape rest =>
      obtain ⟨owner, -, complete⟩ := confirmed.complete shape (by simp)
      have member := List.mem_of_mem_take
        (confirmed.shapesWithin.subset (List.mem_cons_self (a := shape)))
      have none : ∀ frame ∈ seenFrames singleConfig
          [{ seenCompletely 2 1.2 with dimensionObservationComplete := false },
            { seenCompletely 1 1 with centerValid := false }], frame.cargoLifecycleId = 2 →
          ¬(validDimensionEvidence frame singleConfig
              singleConfig.minimumInitialShapeConfidence = true ∨
            validDimensionEvidence frame singleConfig
              singleConfig.minimumLiveShapeConfidenceForShrink = true) := by
        with_unfolding_all decide
      exact none shape member owner complete

end Samples
end NdtSlam
