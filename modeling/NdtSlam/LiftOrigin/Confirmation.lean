import NdtSlam.LiftOrigin.Binder

/-! What stands behind a confirmed lift and a ready thickness. -/

namespace NdtSlam
namespace CargoLiftOriginBinder

abbrev LiftUpdate := Event CargoLiftOriginBinder CargoLiftOriginInput

section Predicates

variable [LiftMath]

def LiftUpdate.after (event : LiftUpdate) : CargoLiftOriginBinder :=
  event.before.advance event.call

structure Loaded (event : LiftUpdate) : Prop where
  inTime : event.before.timeInvalid event.call = false
  hookValid : event.call.hookSignalValid = true
  hookLoaded : event.call.hookLoaded = true

structure Keeps (config : CargoLiftOriginConfig) (origin : CargoOriginCandidate)
    (event : LiftUpdate) : Prop extends Loaded event where
  bound : event.before.result.valid = true
  same : event.before.result.origin = origin
  present : boundIdentityPresent config origin event.call = true
  settled : formalStaticOrigin origin = true ∨ upgrade config event.call = none

structure Binds (config : CargoLiftOriginConfig) (origin : CargoOriginCandidate)
    (event : LiftUpdate) : Prop extends Loaded event where
  anew : ¬Keeps config origin event
  bound : event.after.result.valid = true
  same : event.after.result.origin = origin

variable (config : CargoLiftOriginConfig) (origin : CargoOriginCandidate)

def BoundSince (since : List LiftUpdate) : Prop :=
  ∃ newer binding, since = newer ++ [binding] ∧ Binds config origin binding ∧
    ∀ event ∈ newer, Keeps config origin event

structure Fresh (config : CargoLiftOriginConfig) (input : CargoLiftOriginInput)
    (stampSec : Scalar) : Prop where
  finite : stampSec.isFinite = true
  positive : 0 < stampSec
  recent : (input.stampSec - stampSec).abs ≤ config.maximumSourceAgeSec

structure LiftSeen (config : CargoLiftOriginConfig) (origin : CargoOriginCandidate)
    (event : LiftUpdate) : Prop extends Loaded event where
  valid : event.call.currentTopValid = true
  fresh : Fresh config event.call event.call.currentTopStampSec
  finite : event.call.currentTopZMap.isFinite = true
  sourceCovered : config.minimumSourceCoverage ≤ event.call.sourceCoverage
  topCovered : config.minimumTopCoverage ≤ event.call.topCoverage
  significant : changeThreshold config origin event.call ≤
    event.call.currentTopZMap - origin.topZ95Map

structure ThicknessSeen (config : CargoLiftOriginConfig) (origin : CargoOriginCandidate)
    (event : LiftUpdate) : Prop extends Loaded event where
  confirmed : event.after.result.liftConfirmed = true
  valid : event.call.revealedSupportValid = true
  fresh : Fresh config event.call event.call.revealedSupportStampSec
  finite : event.call.revealedSupportZMap.isFinite = true
  covered : config.minimumRevealedSupportCoverage ≤ event.call.revealedSupportCoverage
  significant : changeThreshold config origin event.call ≤
    origin.topZ95Map - event.call.revealedSupportZMap
  highEnough : config.minimumHeightM ≤ origin.topZ95Map - event.call.revealedSupportZMap
  lowEnough : origin.topZ95Map - event.call.revealedSupportZMap ≤ config.maximumHeightM

structure Advances (config : CargoLiftOriginConfig) (stamp : CargoLiftOriginInput → Scalar)
    (earlier later : LiftUpdate) : Prop where
  newer : stamp earlier.call + evidenceStampEpsilonSec < stamp later.call
  soon : later.call.stampSec - earlier.call.stampSec ≤ config.maximumObservationGapSec

abbrev LiftChain :=
  EvidenceChain (LiftSeen config origin) (LiftSeen config origin)
    (Advances config CargoLiftOriginInput.currentTopStampSec)

abbrev ThicknessChain :=
  EvidenceChain (ThicknessSeen config origin) (ThicknessSeen config origin)
    (Advances config CargoLiftOriginInput.revealedSupportStampSec)

def Completed (chain : Nat → LiftUpdate → LiftUpdate → List LiftUpdate → Prop) (frames : Int)
    (since : List LiftUpdate) : Prop :=
  ∃ newer window, ∃ count : Nat, ∃ opening last, since = newer ++ window ∧
    frames ≤ (count : Int) ∧ chain count opening last window

structure LiftCounts (config : CargoLiftOriginConfig) (since : List LiftUpdate)
    (binder : CargoLiftOriginBinder) : Prop where
  pending : binder.result.liftConfirmed = false → 0 < binder.result.liftConfirmCount →
    ∃ opening last,
      LiftChain config binder.result.origin binder.result.liftConfirmCount opening last since ∧
      last.call.stampSec = binder.lastValidLiftStampSec ∧
      last.call.currentTopStampSec = binder.lastConsumedTopStampSec
  confirmed : binder.result.liftConfirmed = true →
    Completed (LiftChain config binder.result.origin) config.liftConfirmFrames since

structure ThicknessCounts (config : CargoLiftOriginConfig) (since : List LiftUpdate)
    (binder : CargoLiftOriginBinder) : Prop where
  pending : binder.result.thicknessReady = false → 0 < binder.result.thicknessConfirmCount →
    ∃ opening last,
      ThicknessChain config binder.result.origin binder.result.thicknessConfirmCount opening last
        since ∧
      last.call.stampSec = binder.lastValidThicknessStampSec ∧
      last.call.revealedSupportStampSec = binder.lastConsumedSupportStampSec
  ready : binder.result.thicknessReady = true →
    Completed (ThicknessChain config binder.result.origin) config.thicknessConfirmFrames since
  liftFirst : binder.result.thicknessReady = true → binder.result.liftConfirmed = true

structure Supported (config : CargoLiftOriginConfig) (since : List LiftUpdate)
    (binder : CargoLiftOriginBinder) : Prop where
  bound : BoundSince config binder.result.origin since
  lift : LiftCounts config since binder
  thickness : ThicknessCounts config since binder

end Predicates

section Limits

variable {config : CargoLiftOriginConfig}

theorem effective_valid : validConfig (effective config) = true := by
  unfold effective
  by_cases valid : validConfig config = true
  · rw [if_pos valid]
    exact valid
  · -- The default configuration stands in for a refused one.
    rw [if_neg valid]
    with_unfolding_all decide

structure Limits (config : CargoLiftOriginConfig) : Prop where
  liftFrames : 0 < config.liftConfirmFrames
  thicknessFrames : 0 < config.thicknessConfirmFrames
  gap : config.maximumObservationGapSec ≠ .nan

theorem effective_limits : Limits (effective config) := by
  have valid := @effective_valid config
  simp only [validConfig, Bool.and_eq_true, decide_eq_true_eq] at valid
  -- A bound above zero is a number.
  refine ⟨valid.1.1.1.1.2, valid.1.1.1.2, ?_⟩
  intro undefined
  have positive := valid.1.1.2
  rw [undefined] at positive
  exact absurd positive (by decide)

end Limits

section Evidence

variable {config : CargoLiftOriginConfig} {input : CargoLiftOriginInput} {stampSec : Scalar}

theorem fresh_iff : fresh config input stampSec = true ↔ Fresh config input stampSec := by
  simp only [fresh, Bool.and_eq_true, decide_eq_true_eq]
  exact ⟨fun ⟨⟨finite, positive⟩, recent⟩ => ⟨finite, positive, recent⟩,
    fun ⟨finite, positive, recent⟩ => ⟨⟨finite, positive⟩, recent⟩⟩

theorem inTime_stamp {self : CargoLiftOriginBinder} (inTime : self.timeInvalid input = false) :
    ∃ stamp : ℚ, input.stampSec = .fin stamp ∧ 0 < stamp := by
  simp only [timeInvalid, Bool.or_eq_false_iff, Bool.not_eq_false', decide_eq_false_iff_not]
    at inTime
  obtain ⟨stamp, isStamp⟩ := Scalar.isFinite_iff.1 inTime.1.1
  refine ⟨stamp, isStamp, ?_⟩
  -- A number that is not at most zero is positive.
  rw [isStamp] at inTime
  exact not_le.mp fun below => inTime.1.2 (by exact_mod_cast Scalar.fin_le_fin.2 below)

end Evidence

section Chains

variable {config : CargoLiftOriginConfig} {since : List LiftUpdate} {event : LiftUpdate}
  {chain : Nat → LiftUpdate → LiftUpdate → List LiftUpdate → Prop} {frames : Int}

theorem Completed.later (completed : Completed chain frames since) :
    Completed chain frames (event :: since) := by
  obtain ⟨newer, window, count, opening, last, rfl, enough, run⟩ := completed
  exact ⟨event :: newer, window, count, opening, last, rfl, enough, run⟩

theorem Completed.now {count : Nat} {opening last : LiftUpdate} (enough : frames ≤ (count : Int))
    (run : chain count opening last since) : Completed chain frames since :=
  ⟨[], since, count, opening, last, rfl, enough, run⟩

theorem soon_of_not_late [LiftMath] (limits : Limits config) {last : LiftUpdate}
    {lastSec : Scalar} (counted : Loaded last) (stamped : last.call.stampSec = lastSec)
    (loaded : Loaded event)
    (punctual : ¬((decide (0 < lastSec) &&
      decide (config.maximumObservationGapSec < event.call.stampSec - lastSec)) = true)) :
    event.call.stampSec - last.call.stampSec ≤ config.maximumObservationGapSec := by
  -- Both stamps are positive numbers, so that the test compares their difference with the gap.
  obtain ⟨earlier, isEarlier, positive⟩ := inTime_stamp counted.inTime
  obtain ⟨now, isNow, -⟩ := inTime_stamp loaded.inTime
  rw [← stamped, isEarlier, isNow] at punctual
  rw [isEarlier, isNow, Scalar.fin_sub_fin]
  have begun : (0 : Scalar) < .fin earlier := by exact_mod_cast Scalar.fin_lt_fin.2 positive
  simp only [begun, decide_true, Bool.true_and, decide_eq_true_eq, Scalar.fin_sub_fin] at punctual
  exact Scalar.fin_le_of_not_lt limits.gap punctual

end Chains

section Counting

variable [LiftMath] {config : CargoLiftOriginConfig} {event : LiftUpdate}
  {self : CargoLiftOriginBinder}

structure Measured (config : CargoLiftOriginConfig) (event : LiftUpdate)
    (binder : CargoLiftOriginBinder) : Prop where
  configured : binder.config = config
  loaded : Loaded event
  threshold : binder.result.changeThresholdM =
    changeThreshold config binder.result.origin event.call
  delta : topValid config event.call = true →
    binder.result.liftDeltaM = event.call.currentTopZMap - binder.result.origin.topZ95Map

theorem Measured.lift_seen (measured : Measured config event self)
    (lifted : self.lifted event.call = true) : LiftSeen config self.result.origin event := by
  simp only [CargoLiftOriginBinder.lifted, Bool.and_eq_true, decide_eq_true_eq,
    measured.configured] at lifted
  obtain ⟨usable, above⟩ := lifted
  -- With a valid top, the reported height is that of this update.
  rw [measured.delta usable, measured.threshold] at above
  simp only [topValid, Bool.and_eq_true, decide_eq_true_eq, fresh_iff] at usable
  obtain ⟨⟨⟨⟨valid, fresh⟩, finite⟩, source⟩, top⟩ := usable
  exact ⟨measured.loaded, valid, fresh, finite, source, top, above⟩

theorem Measured.thickness_seen (measured : Measured config event self)
    (confirmed : event.after.result.liftConfirmed = true)
    (thick : self.thicknessValid event.call = true) :
    ThicknessSeen config self.result.origin event := by
  simp only [thicknessValid, Bool.and_eq_true, decide_eq_true_eq, measured.configured] at thick
  obtain ⟨⟨seen, high⟩, low⟩ := thick
  rw [if_pos seen] at high low
  -- With a revealed support, the tested thickness is that of this update.
  simp only [revealed, Bool.and_eq_true, decide_eq_true_eq, fresh_iff, measured.configured,
    measured.threshold] at seen
  obtain ⟨⟨⟨⟨valid, fresh⟩, finite⟩, covered⟩, above⟩ := seen
  exact ⟨measured.loaded, confirmed, valid, fresh, finite, covered, above, high, low⟩

theorem LiftCounts.tally (counts : LiftCounts config since self) (limits : Limits config)
    (measured : Measured config event self) (unconfirmed : self.result.liftConfirmed = false)
    (positive : 0 < (self.tallyLift event.call).result.liftConfirmCount) :
    ∃ opening last,
      LiftChain config self.result.origin (self.tallyLift event.call).result.liftConfirmCount
        opening last (event :: since) ∧
      last.call.stampSec = (self.tallyLift event.call).lastValidLiftStampSec ∧
      last.call.currentTopStampSec = (self.tallyLift event.call).lastConsumedTopStampSec := by
  unfold tallyLift at positive ⊢
  by_cases advanced : self.topEvidenceAdvanced event.call = true
  · rw [if_pos advanced] at positive ⊢
    simp only [topEvidenceAdvanced, Bool.and_eq_true, decide_eq_true_eq] at advanced
    have seen := measured.lift_seen advanced.1
    -- The frame prolongs the chain, unless there is none or it comes too late.
    by_cases late : (decide (0 < self.lastValidLiftStampSec) &&
      decide (self.config.maximumObservationGapSec <
        event.call.stampSec - self.lastValidLiftStampSec)) = true
    · refine ⟨event, event, ?_, rfl, rfl⟩
      simp only [countLift, late, if_true]
      exact .first seen since
    · simp only [countLift, if_neg late]
      cases known : self.result.liftConfirmCount with
      | zero => exact ⟨event, event, .first seen since, rfl, rfl⟩
      | succ earlier =>
        obtain ⟨opening, last, chain, stamped, consumed⟩ :=
          counts.pending unconfirmed (by rw [known]; exact Nat.succ_pos earlier)
        rw [known] at chain
        rw [measured.configured] at late
        have soon := soon_of_not_late limits chain.last_counted.toLoaded stamped measured.loaded late
        exact ⟨opening, event, .next chain seen ⟨by rw [consumed]; exact advanced.2, soon⟩, rfl, rfl⟩
  · rw [if_neg advanced] at positive ⊢
    by_cases lifted : self.lifted event.call = true
    · -- The lift is seen again on evidence that has been counted.
      have kept : ¬((!self.lifted event.call) = true) := by simp [lifted]
      rw [if_neg kept] at positive ⊢
      obtain ⟨opening, last, chain, stamped, consumed⟩ := counts.pending unconfirmed positive
      exact ⟨opening, last, .idle chain (measured.lift_seen lifted), stamped, consumed⟩
    · -- Without a lift the count is over.
      rw [if_pos (by simpa using lifted)] at positive
      cases positive

theorem LiftCounts.confirm (counts : LiftCounts config since self) (limits : Limits config)
    (measured : Measured config event self) :
    LiftCounts config (event :: since) (self.confirmLift event.call) := by
  unfold confirmLift
  cases known : self.result.liftConfirmed with
  | true =>
    -- A confirmed lift stays as it is.
    refine ⟨fun pending => absurd known (by simpa using pending), fun _ => ?_⟩
    exact (counts.confirmed known).later
  | false =>
    have same : (self.tallyLift event.call).result.origin = self.result.origin := by
      unfold tallyLift
      split_ifs
      all_goals rfl
    have kept : (self.tallyLift event.call).config = config := by
      rw [← measured.configured]
      unfold tallyLift
      split_ifs
      all_goals rfl
    have tally := counts.tally limits measured known
    refine ⟨fun _ positive => ?_, fun confirmed => ?_⟩
    · simp only [Bool.not_false, if_true, same] at positive ⊢
      exact tally positive
    · simp only [Bool.not_false, if_true, same, kept, decide_eq_true_eq] at confirmed ⊢
      -- Enough frames are at least one, so that there is a chain.
      have frames := limits.liftFrames
      obtain ⟨opening, last, chain, -, -⟩ := tally (by omega)
      exact .now confirmed chain

theorem ThicknessCounts.tally (counts : ThicknessCounts config since self)
    (limits : Limits config) (measured : Measured config event self)
    (lift : event.after.result.liftConfirmed = true)
    (unready : self.result.thicknessReady = false)
    (positive : 0 < (self.tallyThickness event.call).result.thicknessConfirmCount) :
    ∃ opening last,
      ThicknessChain config self.result.origin
        (self.tallyThickness event.call).result.thicknessConfirmCount opening last
        (event :: since) ∧
      last.call.stampSec = (self.tallyThickness event.call).lastValidThicknessStampSec ∧
      last.call.revealedSupportStampSec =
        (self.tallyThickness event.call).lastConsumedSupportStampSec := by
  unfold tallyThickness at positive ⊢
  by_cases advanced : self.supportEvidenceAdvanced event.call = true
  · rw [if_pos advanced] at positive ⊢
    simp only [supportEvidenceAdvanced, Bool.and_eq_true, decide_eq_true_eq] at advanced
    have seen := measured.thickness_seen lift advanced.1
    -- The frame prolongs the chain, unless there is none or it comes too late.
    by_cases late : (decide (0 < self.lastValidThicknessStampSec) &&
      decide (self.config.maximumObservationGapSec <
        event.call.stampSec - self.lastValidThicknessStampSec)) = true
    · refine ⟨event, event, ?_, rfl, rfl⟩
      simp only [countThickness, late, if_true]
      exact .first seen since
    · simp only [countThickness, if_neg late]
      cases known : self.result.thicknessConfirmCount with
      | zero => exact ⟨event, event, .first seen since, rfl, rfl⟩
      | succ earlier =>
        obtain ⟨opening, last, chain, stamped, consumed⟩ :=
          counts.pending unready (by rw [known]; exact Nat.succ_pos earlier)
        rw [known] at chain
        rw [measured.configured] at late
        have soon := soon_of_not_late limits chain.last_counted.toLoaded stamped measured.loaded late
        exact ⟨opening, event, .next chain seen ⟨by rw [consumed]; exact advanced.2, soon⟩, rfl, rfl⟩
  · rw [if_neg advanced] at positive ⊢
    by_cases ended : (!self.revealed event.call || !self.thicknessValid event.call) = true
    · -- Without a plausible thickness the count is over.
      rw [if_pos ended] at positive
      cases positive
    · -- The thickness is seen again on evidence that has been counted.
      rw [if_neg ended] at positive ⊢
      simp only [Bool.or_eq_true, not_or, Bool.not_eq_true', Bool.not_eq_false] at ended
      obtain ⟨opening, last, chain, stamped, consumed⟩ := counts.pending unready positive
      exact ⟨opening, last, .idle chain (measured.thickness_seen lift ended.2), stamped, consumed⟩

theorem ThicknessCounts.confirm (counts : ThicknessCounts config since self)
    (limits : Limits config) (measured : Measured config event self)
    (lift : event.after.result.liftConfirmed = true) (lifted : self.result.liftConfirmed = true) :
    ThicknessCounts config (event :: since) (self.confirmThickness event.call) := by
  unfold confirmThickness
  cases known : self.result.thicknessReady with
  | true =>
    -- A ready thickness stays as it is.
    refine ⟨fun pending => absurd known (by simpa using pending), fun _ => ?_, fun _ => ?_⟩
    · exact (counts.ready known).later
    · exact lifted
  | false =>
    have same : (self.tallyThickness event.call).result.origin = self.result.origin ∧
        (self.tallyThickness event.call).result.liftConfirmed = self.result.liftConfirmed := by
      unfold tallyThickness
      split_ifs
      all_goals exact ⟨rfl, rfl⟩
    have kept : (self.tallyThickness event.call).config = config := by
      rw [← measured.configured]
      unfold tallyThickness
      split_ifs
      all_goals rfl
    have tally := counts.tally limits measured lift known
    refine ⟨fun _ positive => ?_, fun ready => ?_, fun _ => ?_⟩
    · simp only [Bool.not_false, if_true, same.1] at positive ⊢
      exact tally positive
    · simp only [Bool.not_false, if_true, same.1, kept, decide_eq_true_eq] at ready ⊢
      -- Enough frames are at least one, so that there is a chain.
      have frames := limits.thicknessFrames
      obtain ⟨opening, last, chain, -, -⟩ := tally (by omega)
      exact .now ready chain
    · simp only [Bool.not_false, if_true, same.2]
      exact lifted

end Counting

section Stages

variable {self : CargoLiftOriginBinder} {input : CargoLiftOriginInput}

theorem confirmLift_frame :
    (self.confirmLift input).config = self.config ∧
      (self.confirmLift input).result.valid = self.result.valid ∧
      (self.confirmLift input).result.origin = self.result.origin ∧
      (self.confirmLift input).result.changeThresholdM = self.result.changeThresholdM ∧
      (self.confirmLift input).result.liftDeltaM = self.result.liftDeltaM ∧
      (self.confirmLift input).result.thicknessReady = self.result.thicknessReady ∧
      (self.confirmLift input).result.thicknessConfirmCount =
        self.result.thicknessConfirmCount ∧
      (self.confirmLift input).lastValidThicknessStampSec = self.lastValidThicknessStampSec ∧
      (self.confirmLift input).lastConsumedSupportStampSec =
        self.lastConsumedSupportStampSec := by
  unfold confirmLift tallyLift
  split_ifs
  all_goals exact ⟨rfl, rfl, rfl, rfl, rfl, rfl, rfl, rfl, rfl⟩

theorem confirmLift_latched (confirmed : self.result.liftConfirmed = true) :
    self.confirmLift input = self := by
  unfold confirmLift
  rw [if_neg (by simp [confirmed])]

theorem confirmThickness_frame :
    (self.confirmThickness input).config = self.config ∧
      (self.confirmThickness input).result.valid = self.result.valid ∧
      (self.confirmThickness input).result.origin = self.result.origin ∧
      (self.confirmThickness input).result.liftConfirmed = self.result.liftConfirmed ∧
      (self.confirmThickness input).result.liftConfirmCount = self.result.liftConfirmCount ∧
      (self.confirmThickness input).lastValidLiftStampSec = self.lastValidLiftStampSec ∧
      (self.confirmThickness input).lastConsumedTopStampSec = self.lastConsumedTopStampSec := by
  unfold confirmThickness tallyThickness
  split_ifs
  all_goals exact ⟨rfl, rfl, rfl, rfl, rfl, rfl, rfl⟩

theorem freeze_eq : self.freeze = { self with
    result := { self.result with
      state := self.freeze.result.state, reason := self.freeze.result.reason } } := by
  unfold freeze
  split_ifs
  all_goals rfl

end Stages

section Gaps

variable {self : CargoLiftOriginBinder} {input : CargoLiftOriginInput}

theorem acceptStamp_frame :
    (self.acceptStamp input).config = self.config ∧
      (self.acceptStamp input).result.valid = self.result.valid ∧
      (self.acceptStamp input).result.origin = self.result.origin := by
  unfold acceptStamp clearThickness clearLift
  dsimp only
  split_ifs
  all_goals exact ⟨rfl, rfl, rfl⟩

end Gaps

section Weighing

variable [LiftMath] {config : CargoLiftOriginConfig} {event : LiftUpdate}
  {self after : CargoLiftOriginBinder}

theorem LiftCounts.ofSame (counts : LiftCounts config since self)
    (origin : after.result.origin = self.result.origin)
    (confirmed : after.result.liftConfirmed = self.result.liftConfirmed)
    (count : after.result.liftConfirmCount = self.result.liftConfirmCount)
    (stamped : after.lastValidLiftStampSec = self.lastValidLiftStampSec)
    (consumed : after.lastConsumedTopStampSec = self.lastConsumedTopStampSec) :
    LiftCounts config since after := by
  refine ⟨?_, ?_⟩
  · rw [origin, confirmed, count, stamped, consumed]
    exact counts.pending
  · rw [origin, confirmed]
    exact counts.confirmed

theorem ThicknessCounts.ofSame (counts : ThicknessCounts config since self)
    (origin : after.result.origin = self.result.origin)
    (ready : after.result.thicknessReady = self.result.thicknessReady)
    (count : after.result.thicknessConfirmCount = self.result.thicknessConfirmCount)
    (stamped : after.lastValidThicknessStampSec = self.lastValidThicknessStampSec)
    (consumed : after.lastConsumedSupportStampSec = self.lastConsumedSupportStampSec)
    (lift : self.result.liftConfirmed = true → after.result.liftConfirmed = true) :
    ThicknessCounts config since after := by
  refine ⟨?_, ?_, ?_⟩
  · rw [origin, ready, count, stamped, consumed]
    exact counts.pending
  · rw [origin, ready]
    exact counts.ready
  · rw [ready]
    exact fun reached => lift (counts.liftFirst reached)

theorem LiftCounts.none (unconfirmed : self.result.liftConfirmed = false)
    (zero : self.result.liftConfirmCount = 0) : LiftCounts config since self := by
  refine ⟨fun _ positive => ?_, fun confirmed => ?_⟩
  · omega
  · rw [unconfirmed] at confirmed
    cases confirmed

theorem ThicknessCounts.none (unready : self.result.thicknessReady = false)
    (zero : self.result.thicknessConfirmCount = 0) : ThicknessCounts config since self := by
  refine ⟨fun _ positive => ?_, fun ready => ?_, fun ready => ?_⟩
  · omega
  · rw [unready] at ready
    cases ready
  · rw [unready] at ready
    cases ready

theorem counts_clearLift (lift : LiftCounts config since self)
    (thickness : ThicknessCounts config since self) :
    LiftCounts config since self.clearLift ∧ ThicknessCounts config since self.clearLift := by
  unfold clearLift
  cases confirmed : self.result.liftConfirmed with
  | true => exact ⟨lift, thickness⟩
  | false => exact ⟨.none confirmed rfl, thickness.ofSame rfl rfl rfl rfl rfl id⟩

theorem counts_clearThickness (lift : LiftCounts config since self)
    (thickness : ThicknessCounts config since self) :
    LiftCounts config since self.clearThickness ∧
      ThicknessCounts config since self.clearThickness := by
  unfold clearThickness
  cases ready : self.result.thicknessReady with
  | true => exact ⟨lift, thickness⟩
  | false => exact ⟨lift.ofSame rfl rfl rfl rfl rfl, .none ready rfl⟩

theorem counts_acceptStamp {input : CargoLiftOriginInput} (lift : LiftCounts config since self)
    (thickness : ThicknessCounts config since self) :
    LiftCounts config since (self.acceptStamp input) ∧
      ThicknessCounts config since (self.acceptStamp input) := by
  have stampedLift : LiftCounts config since { self with lastStampSec := input.stampSec } :=
    lift.ofSame rfl rfl rfl rfl rfl
  have stampedThickness :
      ThicknessCounts config since { self with lastStampSec := input.stampSec } :=
    thickness.ofSame rfl rfl rfl rfl rfl id
  unfold acceptStamp
  dsimp only
  split_ifs
  · -- A gap clears both of them.
    obtain ⟨clearedLift, clearedThickness⟩ := counts_clearLift stampedLift stampedThickness
    exact counts_clearThickness clearedLift clearedThickness
  · exact ⟨stampedLift, stampedThickness⟩

theorem measure_measured (configured : self.config = config) (loaded : Loaded event) :
    Measured config event (self.measure event.call) where
  configured := configured
  loaded := loaded
  threshold := by
    show changeThreshold self.config _ _ = _
    rw [configured]
    rfl
  delta := by
    intro usable
    show (if topValid self.config event.call = true then _ else _) = _
    rw [configured, if_pos usable]
    rfl

theorem weigh_frame {input : CargoLiftOriginInput} :
    (self.weigh input).config = self.config ∧
      (self.weigh input).result.valid = self.result.valid ∧
      (self.weigh input).result.origin = self.result.origin ∧
      (self.weigh input).result.liftConfirmed =
        ((self.measure input).confirmLift input).result.liftConfirmed := by
  obtain ⟨config, valid, origin, -⟩ := @confirmLift_frame (self.measure input) input
  unfold weigh
  dsimp only
  split_ifs
  · exact ⟨config, valid, origin, rfl⟩
  · -- The thickness stage follows the lift stage.
    obtain ⟨config', valid', origin', lift, -⟩ :=
      @confirmThickness_frame ((self.measure input).confirmLift input) input
    rw [freeze_eq]
    exact ⟨config'.trans config, valid'.trans valid, origin'.trans origin, lift⟩

theorem weigh_counts (limits : Limits config) (configured : self.config = config)
    (loaded : Loaded event) (weighed : event.after = self.weigh event.call)
    (lift : LiftCounts config since self) (thickness : ThicknessCounts config since self) :
    LiftCounts config (event :: since) (self.weigh event.call) ∧
      ThicknessCounts config (event :: since) (self.weigh event.call) := by
  have measured := measure_measured configured loaded
  have before : LiftCounts config since (self.measure event.call) :=
    lift.ofSame rfl rfl rfl rfl rfl
  have lifted := before.confirm limits measured
  obtain ⟨configured', -, origin, threshold, delta, ready, count, stamped, consumed⟩ :=
    @confirmLift_frame (self.measure event.call) event.call
  have known := (@weigh_frame _ self event.call).2.2.2
  unfold weigh at known ⊢
  dsimp only at known ⊢
  by_cases confirmed :
      ((self.measure event.call).confirmLift event.call).result.liftConfirmed = true
  · rw [if_neg (by simp [confirmed])] at known ⊢
    -- The thickness stage works on what the lift stage leaves.
    have carried : ThicknessCounts config since
        ((self.measure event.call).confirmLift event.call) :=
      thickness.ofSame origin ready count stamped consumed (fun _ => confirmed)
    have remeasured : Measured config event
        ((self.measure event.call).confirmLift event.call) :=
      ⟨configured'.trans measured.configured, loaded,
        by rw [threshold, origin]; exact measured.threshold,
        fun usable => by rw [delta, origin]; exact measured.delta usable⟩
    have shown : event.after.result.liftConfirmed = true := by
      rw [weighed]
      unfold weigh
      dsimp only
      rw [if_neg (by simp [confirmed]), known]
      exact confirmed
    have thick := carried.confirm limits remeasured shown confirmed
    obtain ⟨-, -, origin', confirmed', count', stamped', consumed'⟩ :=
      @confirmThickness_frame ((self.measure event.call).confirmLift event.call) event.call
    -- Neither the thickness stage nor the freeze touches the lift.
    have after := lifted.ofSame origin' confirmed' count' stamped' consumed'
    rw [freeze_eq]
    exact ⟨after.ofSame rfl rfl rfl rfl rfl, thick.ofSame rfl rfl rfl rfl rfl id⟩
  · rw [if_pos (by simpa using confirmed)]
    -- Without a confirmed lift the thickness has not been ready either.
    have unready : self.result.thicknessReady = false := by
      by_contra reached
      rw [Bool.not_eq_false] at reached
      have latched : (self.measure event.call).result.liftConfirmed = true :=
        thickness.liftFirst reached
      rw [confirmLift_latched latched] at confirmed
      exact confirmed latched
    refine ⟨lifted.ofSame rfl rfl rfl rfl rfl, .none ?_ rfl⟩
    exact ready.trans unready

end Weighing

section Binding

variable [LiftMath] {config : CargoLiftOriginConfig} {event : LiftUpdate}
  {self : CargoLiftOriginBinder} {input : CargoLiftOriginInput}

structure Uncounted (binder : CargoLiftOriginBinder) : Prop where
  unconfirmed : binder.result.liftConfirmed = false
  unready : binder.result.thicknessReady = false
  noLift : binder.result.liftConfirmCount = 0
  noThickness : binder.result.thicknessConfirmCount = 0

theorem bindOrigin_uncounted : Uncounted (self.bindOrigin input) := by
  unfold bindOrigin
  dsimp only
  by_cases unanchored : (!input.anchorValid || !input.hookAnchorMap.allFinite) = true
  · rw [if_pos unanchored]
    exact ⟨rfl, rfl, rfl, rfl⟩
  · rw [if_neg unanchored]
    cases self.selectOrigin input with
    | none => exact ⟨rfl, rfl, rfl, rfl⟩
    | some selected => exact ⟨rfl, rfl, rfl, rfl⟩

theorem settleOrigin_cases (valid : (self.settleOrigin input).result.valid = true) :
    (self.result.valid = true ∧
        boundIdentityPresent self.config self.result.origin input = true ∧
        (formalStaticOrigin self.result.origin = true ∨ upgrade self.config input = none) ∧
        self.settleOrigin input = self) ∨
      Uncounted (self.settleOrigin input) := by
  unfold settleOrigin at valid ⊢
  dsimp only at valid ⊢
  by_cases searches : (!(self.reviewOrigin input).result.valid &&
      ((!self.previousLoaded || input.hookWasEmpty) || input.nodeStartedLoaded ||
        (self.reviewOrigin input).result.state == .invalid)) = true
  · rw [if_pos searches]
    exact .inr bindOrigin_uncounted
  rw [if_neg searches] at valid ⊢
  unfold reviewOrigin at valid ⊢
  by_cases bound : self.result.valid = true
  · rw [if_pos bound] at valid ⊢
    -- The bound component is lost, upgraded or kept.
    by_cases lost : (!boundIdentityPresent self.config self.result.origin input) = true
    · rw [if_pos lost] at valid
      cases valid
    · rw [if_neg lost] at valid ⊢
      have present : boundIdentityPresent self.config self.result.origin input = true := by
        simpa using lost
      by_cases provisional : (!formalStaticOrigin self.result.origin) = true
      · rw [if_pos provisional] at valid ⊢
        cases found : upgrade self.config input with
        | none => exact .inl ⟨bound, present, .inr rfl, rfl⟩
        | some origin => exact .inr ⟨rfl, rfl, rfl, rfl⟩
      · rw [if_neg provisional]
        exact .inl ⟨bound, present, .inl (by simpa using provisional), rfl⟩
  · rw [if_neg bound] at valid
    exact absurd valid bound

theorem settleOrigin_config (self : CargoLiftOriginBinder) (input : CargoLiftOriginInput) :
    (self.settleOrigin input).config = self.config := by
  have reviewed : (self.reviewOrigin input).config = self.config := by
    unfold reviewOrigin
    split_ifs
    · rfl
    · cases upgrade self.config input with
      | none => rfl
      | some origin => rfl
    · rfl
    · rfl
  have searched (binder : CargoLiftOriginBinder) :
      (binder.bindOrigin input).config = binder.config := by
    unfold bindOrigin
    dsimp only
    by_cases unanchored : (!input.anchorValid || !input.hookAnchorMap.allFinite) = true
    · rw [if_pos unanchored]
    · rw [if_neg unanchored]
      cases binder.selectOrigin input with
      | none => rfl
      | some selected => rfl
  unfold settleOrigin
  dsimp only
  split_ifs
  · exact (searched _).trans reviewed
  · exact reviewed

theorem advance_loaded (loaded : Loaded event) :
    ∃ settled, settled = { (event.before.acceptStamp event.call).settleOrigin event.call with
        previousLoaded := true } ∧
      event.after = if !settled.result.valid then settled else settled.weigh event.call := by
  refine ⟨_, rfl, ?_⟩
  unfold LiftUpdate.after advance
  rw [if_neg (by simp [loaded.inTime])]
  dsimp only
  rw [if_neg (by simp [loaded.hookValid]), if_neg (by simp [loaded.hookLoaded])]

theorem loaded_of_valid (valid : event.after.result.valid = true) : Loaded event := by
  unfold LiftUpdate.after advance at valid
  -- The three refusals leave an invalid result.
  by_cases invalid : event.before.timeInvalid event.call = true
  · rw [if_pos invalid] at valid
    cases valid
  rw [if_neg invalid] at valid
  dsimp only at valid
  by_cases hookless : (!event.call.hookSignalValid) = true
  · rw [if_pos hookless] at valid
    cases valid
  rw [if_neg hookless] at valid
  by_cases unloaded : (!event.call.hookLoaded) = true
  · rw [if_pos unloaded] at valid
    cases valid
  exact ⟨by simpa using invalid, by simpa using hookless, by simpa using unloaded⟩

end Binding

section Runs

variable [LiftMath] {config : CargoLiftOriginConfig} {past : List LiftUpdate}

structure Accounts (config : CargoLiftOriginConfig) (past : List LiftUpdate)
    (binder : CargoLiftOriginBinder) : Prop where
  configured : binder.config = config
  supported : binder.result.valid = true →
    ∃ since older, past = since ++ older ∧ Supported config since binder

theorem advance_config (self : CargoLiftOriginBinder) (input : CargoLiftOriginInput) :
    (self.advance input).config = self.config := by
  have stamped := (@acceptStamp_frame self input).1
  unfold advance
  dsimp only
  -- The refusals keep every field they do not name.
  by_cases invalid : self.timeInvalid input = true
  · rw [if_pos invalid]
    rfl
  rw [if_neg invalid]
  by_cases hookless : (!input.hookSignalValid) = true
  · rw [if_pos hookless]
    exact stamped
  rw [if_neg hookless]
  by_cases unloaded : (!input.hookLoaded) = true
  · rw [if_pos unloaded]
    exact stamped
  rw [if_neg unloaded]
  have settled := (settleOrigin_config (self.acceptStamp input) input).trans stamped
  split_ifs
  · exact settled
  · exact weigh_frame.1.trans settled

theorem settled_counts {event : LiftUpdate} (accounts : Accounts config past event.before)
    (loaded : Loaded event)
    (valid : ((event.before.acceptStamp event.call).settleOrigin event.call).result.valid = true)
    (bound : event.after.result.valid = true)
    (same : event.after.result.origin =
      ((event.before.acceptStamp event.call).settleOrigin event.call).result.origin) :
    ∃ since older, past = since ++ older ∧
      BoundSince config event.after.result.origin (event :: since) ∧
      LiftCounts config since
        ((event.before.acceptStamp event.call).settleOrigin event.call) ∧
      ThicknessCounts config since
        ((event.before.acceptStamp event.call).settleOrigin event.call) := by
  obtain ⟨configured, known, origin⟩ := @acceptStamp_frame event.before event.call
  rw [accounts.configured] at configured
  by_cases keeps : Keeps config event.after.result.origin event
  · obtain ⟨since, older, split, supported⟩ := accounts.supported keeps.bound
    obtain ⟨newer, binding, isSince, binds, kepts⟩ := supported.bound
    rw [keeps.same] at binds kepts
    have continues : BoundSince config event.after.result.origin (event :: since) :=
      ⟨event :: newer, binding, by rw [isSince]; rfl, binds,
        List.forall_mem_cons.mpr ⟨keeps, kepts⟩⟩
    refine ⟨since, older, split, continues, ?_⟩
    -- The counts go on, and a binding made anew would have none.
    rcases settleOrigin_cases valid with ⟨-, -, -, kept⟩ | uncounted
    · rw [kept]
      exact counts_acceptStamp supported.lift supported.thickness
    · exact ⟨.none uncounted.unconfirmed uncounted.noLift,
        .none uncounted.unready uncounted.noThickness⟩
  · -- A binding that is not kept is made by this update.
    have begins : BoundSince config event.after.result.origin [event] :=
      ⟨[], event, rfl, ⟨loaded, keeps, bound, rfl⟩, by simp⟩
    rcases settleOrigin_cases valid with ⟨was, present, formal, kept⟩ | uncounted
    · rw [configured] at present formal
      rw [kept] at same
      rw [← same] at present formal
      exact absurd ⟨loaded, known ▸ was, origin ▸ same.symm, present, formal⟩ keeps
    · exact ⟨[], past, rfl, begins, .none uncounted.unconfirmed uncounted.noLift,
        .none uncounted.unready uncounted.noThickness⟩

theorem Accounts.step {event : LiftUpdate} (limits : Limits config)
    (accounts : Accounts config past event.before) :
    Accounts config (event :: past) event.after := by
  refine ⟨(advance_config _ _).trans accounts.configured, fun valid => ?_⟩
  have loaded := loaded_of_valid valid
  obtain ⟨settled, isSettled, weighed⟩ := advance_loaded loaded
  by_cases bound : settled.result.valid = true
  · rw [if_neg (by simp [bound])] at weighed
    have configured : settled.config = config := by
      rw [isSettled]
      exact ((settleOrigin_config _ _).trans acceptStamp_frame.1).trans accounts.configured
    have origin : event.after.result.origin = settled.result.origin := by
      rw [weighed]
      exact weigh_frame.2.2.1
    -- The evidence of the update is weighed for the binding in force.
    obtain ⟨since, older, split, since', lift, thickness⟩ :=
      settled_counts accounts loaded (by rw [isSettled] at bound; exact bound) valid
        (by rw [origin, isSettled])
    have lift' : LiftCounts config since settled := by
      rw [isSettled]
      exact lift.ofSame rfl rfl rfl rfl rfl
    have thickness' : ThicknessCounts config since settled := by
      rw [isSettled]
      exact thickness.ofSame rfl rfl rfl rfl rfl id
    obtain ⟨liftNow, thicknessNow⟩ := weigh_counts limits configured loaded weighed lift' thickness'
    rw [← weighed] at liftNow thicknessNow
    exact ⟨event :: since, older, by rw [split]; rfl, since', liftNow, thicknessNow⟩
  · -- Without a binding the result is not valid.
    rw [if_pos (by simpa using bound)] at weighed
    rw [weighed] at valid
    exact absurd valid bound

theorem run_accounts (config : CargoLiftOriginConfig) (calls : List CargoLiftOriginInput) :
    Accounts (effective config) ((machine config).trace calls) ((machine config).run calls) := by
  refine @Machine.run_invariant _ _ _ (machine config)
    (fun past binder => Accounts (effective config) past binder) ?_ ?_ calls
  · exact ⟨rfl, fun valid => by cases valid⟩
  · intro past binder input accounts
    exact @Accounts.step _ _ past ⟨binder, input⟩ effective_limits accounts

/-- A valid result stands for the updates since the binding of its origin, in every run. -/
theorem lift_origin_sound (config : CargoLiftOriginConfig) (calls : List CargoLiftOriginInput)
    (valid : ((machine config).run calls).result.valid = true) :
    ∃ since older, (machine config).trace calls = since ++ older ∧
      BoundSince (effective config) ((machine config).run calls).result.origin since ∧
      (((machine config).run calls).result.liftConfirmed = true →
        Completed (LiftChain (effective config) ((machine config).run calls).result.origin)
          (effective config).liftConfirmFrames since) ∧
      (((machine config).run calls).result.thicknessReady = true →
        Completed (ThicknessChain (effective config) ((machine config).run calls).result.origin)
          (effective config).thicknessConfirmFrames since) := by
  obtain ⟨since, older, split, supported⟩ := (run_accounts config calls).supported valid
  exact ⟨since, older, split, supported.bound, supported.lift.confirmed,
    supported.thickness.ready⟩

end Runs

section Samples

@[reducible] def axisLift : LiftMath where
  toEuclideanNorm := axisNorm
  sqrt a := a

attribute [local instance] axisLift

def sampleOrigin : CargoOriginCandidate :=
  { componentId := 1, source := .operatorApprovedBaseline, authority := .operatorApprovedBaseline
    lengthM := 1, widthM := 1, topZ95Map := 1, supportZMap := 0, uncertaintyM := 0 }

def sampleLift (stampSec : Scalar) : CargoLiftOriginInput :=
  { stampSec := stampSec, hookSignalValid := true, hookLoaded := true, anchorValid := true
    candidates := [sampleOrigin]
    currentTopValid := true, currentTopStampSec := stampSec, currentTopZMap := 1.5
    currentTopUncertaintyM := 0, sourceCoverage := 1, topCoverage := 1
    revealedSupportValid := true, revealedSupportStampSec := stampSec, revealedSupportZMap := 0
    revealedSupportCoverage := 1 }

def sampleConfig : CargoLiftOriginConfig := { liftConfirmFrames := 2, thicknessConfirmFrames := 2 }

def sampleRun : List CargoLiftOriginInput := [sampleLift 1.2, sampleLift 1.1, sampleLift 1.0]

theorem sample_lift_confirmed :
    ∃ since older, (machine sampleConfig).trace sampleRun = since ++ older ∧
      BoundSince (effective sampleConfig)
        ((machine sampleConfig).run sampleRun).result.origin since ∧
      Completed (LiftChain (effective sampleConfig)
        ((machine sampleConfig).run sampleRun).result.origin)
        (effective sampleConfig).liftConfirmFrames since ∧
      Completed (ThicknessChain (effective sampleConfig)
        ((machine sampleConfig).run sampleRun).result.origin)
        (effective sampleConfig).thicknessConfirmFrames since := by
  obtain ⟨since, older, split, bound, lift, thickness⟩ :=
    lift_origin_sound sampleConfig sampleRun (by with_unfolding_all decide)
  exact ⟨since, older, split, bound, lift (by with_unfolding_all decide),
    thickness (by with_unfolding_all decide)⟩

end Samples

end CargoLiftOriginBinder
end NdtSlam
