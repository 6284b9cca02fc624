import NdtSlam.Foundation.ClearTimer
import NdtSlam.Swing.Monitor

/-! Which observations release the latched alarms of the swinging load. -/

namespace NdtSlam

abbrev SwingEvent := Event CargoSwingMonitor CargoSwingInput

namespace CargoSwingMonitor

section Frames

variable (self : CargoSwingMonitor) (input : CargoSwingInput)

structure Latches where
  sway : SwayLatch := {}
  skew : SkewLatch := {}
  torsion : TorsionLatch := {}

def latches : Latches where
  sway := self.sway
  skew := self.skew
  torsion := self.torsion

theorem noteMotion_frame : (noteMotion self input).config = self.config ∧
    (noteMotion self input).latches = self.latches := by
  unfold noteMotion
  by_cases same : input.craneMotionState = self.previousCraneMotionState
  · rw [if_pos same]
    exact ⟨rfl, rfl⟩
  · rw [if_neg same]
    cases input.craneMotionState
    all_goals exact ⟨rfl, rfl⟩

theorem noteMotion_identity :
    (noteMotion self input).cargoLifecycleId = self.cargoLifecycleId ∧
      (noteMotion self input).hookAnchorSource = self.hookAnchorSource ∧
      (noteMotion self input).lastInputStampSec = self.lastInputStampSec := by
  unfold noteMotion
  by_cases same : input.craneMotionState = self.previousCraneMotionState
  · rw [if_pos same]
    exact ⟨rfl, rfl, rfl⟩
  · rw [if_neg same]
    cases input.craneMotionState
    all_goals exact ⟨rfl, rfl, rfl⟩

@[simp] theorem admitted_config : (admitted self input).config = self.config :=
  (noteMotion_frame _ _).1

@[simp] theorem admitted_latches : (admitted self input).latches = self.latches :=
  (noteMotion_frame _ _).2

@[simp] theorem forgetBeforeGap_config : (forgetBeforeGap self input).config = self.config := by
  unfold forgetBeforeGap
  by_cases gap : measurementGapReset self input = true
  · rw [if_pos gap]
  · rw [if_neg gap]

theorem forgetBeforeGap_sway : (forgetBeforeGap self input).sway =
    if measurementGapReset self input then { self.sway with swayBelowEndStampSec := 0 }
    else self.sway := by
  unfold forgetBeforeGap
  by_cases gap : measurementGapReset self input = true
  · rw [if_pos gap, if_pos gap]
  · rw [if_neg gap, if_neg gap]

theorem forgetBeforeGap_skew : ∃ candidate, (forgetBeforeGap self input).skew =
    { self.skew with skewAlarmCandidateStampSec := candidate } := by
  unfold forgetBeforeGap
  by_cases gap : measurementGapReset self input = true
  · rw [if_pos gap]
    exact ⟨0, rfl⟩
  · rw [if_neg gap]
    exact ⟨self.skew.skewAlarmCandidateStampSec, rfl⟩

@[simp] theorem forgetBeforeGap_torsion :
    (forgetBeforeGap self input).torsion = self.torsion := by
  unfold forgetBeforeGap
  by_cases gap : measurementGapReset self input = true
  · rw [if_pos gap]
  · rw [if_neg gap]

def Latches.stopped (latches : Latches) : Latches where
  sway := { latches.sway with swayBelowEndStampSec := 0 }
  skew := { latches.skew with skewAlarmCandidateStampSec := 0, skewClearCandidateStampSec := 0 }
  torsion := { latches.torsion with torsionClearCandidateStampSec := 0 }

def identity : Nat × String := (self.cargoLifecycleId, self.hookAnchorSource)

theorem admitted_bookkeeping :
    (admitted self input).identity = (input.cargoLifecycleId, input.hookAnchorSource) ∧
      (admitted self input).lastInputStampSec = input.stampSec := by
  obtain ⟨lifecycle, source, stamp⟩ := noteMotion_identity ((ready self input).adopt input) input
  exact ⟨Prod.ext lifecycle source, stamp⟩

theorem forgetBeforeGap_bookkeeping : (forgetBeforeGap self input).identity = self.identity ∧
    (forgetBeforeGap self input).lastInputStampSec = self.lastInputStampSec := by
  unfold forgetBeforeGap
  by_cases gap : measurementGapReset self input = true
  · rw [if_pos gap]
    exact ⟨rfl, rfl⟩
  · rw [if_neg gap]
    exact ⟨rfl, rfl⟩

theorem evaluateMeasurement_frame [SwingMath] :
    (evaluateMeasurement self input).config = self.config ∧
      (evaluateMeasurement self input).identity = self.identity ∧
      (evaluateMeasurement self input).lastInputStampSec = self.lastInputStampSec := by
  obtain ⟨sameIdentity, sameStamp⟩ := forgetBeforeGap_bookkeeping self input
  exact ⟨forgetBeforeGap_config self input, sameIdentity, sameStamp⟩

@[simp] theorem advance_config [SwingMath] : (advance self input).config = self.config := by
  unfold advance
  cases gate self input with
  | notMeasured => exact admitted_config self input
  | poorQuality => exact admitted_config self input
  | measured =>
    exact (evaluateMeasurement_frame (admitted self input) input).1.trans (admitted_config _ _)
  | disabled => rfl
  | invalidTimestamp => rfl
  | timestampRollback => rfl
  | notLoaded => rfl
  | anchorStale => rfl
  | identityChanged => rfl
  | segmentChanged => rfl

theorem advance_identity [SwingMath] : (advance self input).identity = self.identity ∨
    (advance self input).identity.1 = 0 ∨
    (advance self input).identity = (input.cargoLifecycleId, input.hookAnchorSource) := by
  unfold advance
  have admits := (admitted_bookkeeping self input).1
  cases gate self input with
  | disabled => exact .inr (.inl rfl)
  | timestampRollback => exact .inr (.inl rfl)
  | notLoaded => exact .inr (.inl rfl)
  | invalidTimestamp => exact .inl rfl
  | anchorStale => exact .inl rfl
  | identityChanged => exact .inr (.inr rfl)
  | segmentChanged => exact .inr (.inr rfl)
  | notMeasured => exact .inr (.inr admits)
  | poorQuality => exact .inr (.inr admits)
  | measured =>
    have keeps := (evaluateMeasurement_frame (admitted self input) input).2.1
    exact .inr (.inr (keeps.trans admits))

theorem advance_lastInput [SwingMath] :
    (advance self input).lastInputStampSec = self.lastInputStampSec ∨
      (advance self input).lastInputStampSec = 0 ∨
      (advance self input).lastInputStampSec = input.stampSec := by
  unfold advance
  have admits := (admitted_bookkeeping self input).2
  cases gate self input with
  | disabled => exact .inr (.inl rfl)
  | invalidTimestamp => exact .inl rfl
  | timestampRollback => exact .inr (.inr rfl)
  | notLoaded => exact .inr (.inr rfl)
  | anchorStale => exact .inr (.inr rfl)
  | identityChanged => exact .inr (.inr rfl)
  | segmentChanged => exact .inr (.inr rfl)
  | notMeasured => exact .inr (.inr admits)
  | poorQuality => exact .inr (.inr admits)
  | measured =>
    have keeps := (evaluateMeasurement_frame (admitted self input) input).2.2
    exact .inr (.inr (keeps.trans admits))

def Gate.Forgets : Gate → Prop
  | .disabled | .timestampRollback | .notLoaded | .identityChanged => True
  | _ => False

theorem advance_unmeasured [SwingMath] (skipped : gate self input ≠ .measured) :
    (advance self input).latches = self.latches ∨
      (advance self input).latches = self.latches.stopped ∨
      ((gate self input).Forgets ∧ (advance self input).latches = {}) := by
  unfold advance
  have admits := admitted_latches self input
  cases passed : gate self input with
  | disabled => exact .inr (.inr ⟨trivial, rfl⟩)
  | timestampRollback => exact .inr (.inr ⟨trivial, rfl⟩)
  | notLoaded => exact .inr (.inr ⟨trivial, rfl⟩)
  | identityChanged => exact .inr (.inr ⟨trivial, rfl⟩)
  | segmentChanged => exact .inr (.inl rfl)
  | invalidTimestamp => exact .inl rfl
  | anchorStale => exact .inl rfl
  | notMeasured => exact .inl admits
  | poorQuality => exact .inl admits
  | measured => exact absurd passed skipped

theorem gate_forgets (forgets : (gate self input).Forgets) :
    self.config.enabled = false ∨
      (0 < self.lastInputStampSec ∧ input.stampSec ≤ self.lastInputStampSec) ∨
      (input.hookLoaded = false ∨ input.cargoLifecycleId = 0) ∨
      (self.identity.1 ≠ 0 ∧ self.identity ≠ (input.cargoLifecycleId, input.hookAnchorSource)) := by
  unfold gate at forgets
  -- Only four of the gates forget, each for its own reason.
  by_cases disabled : (!self.config.enabled) = true
  · exact .inl (by simpa using disabled)
  rw [if_neg disabled] at forgets
  by_cases invalid : (!input.stampSec.isFinite || input.stampSec ≤ 0) = true
  · rw [if_pos invalid] at forgets
    exact forgets.elim
  rw [if_neg invalid] at forgets
  by_cases rollback :
      (0 < self.lastInputStampSec && input.stampSec ≤ self.lastInputStampSec) = true
  · exact .inr (.inl (by simpa using rollback))
  rw [if_neg rollback] at forgets
  by_cases unloaded : (!input.hookLoaded || input.cargoLifecycleId == 0) = true
  · exact .inr (.inr (.inl (by simpa using unloaded)))
  rw [if_neg unloaded] at forgets
  by_cases stale : (!input.hookAnchorValid || !input.hookAnchorBase.allFinite) = true
  · rw [if_pos stale] at forgets
    exact forgets.elim
  rw [if_neg stale] at forgets
  by_cases changed : (self.cargoLifecycleId != 0 && (self.cargoLifecycleId != input.cargoLifecycleId
      || self.hookAnchorSource != input.hookAnchorSource)) = true
  · refine .inr (.inr (.inr ?_))
    simp only [Bool.and_eq_true, Bool.or_eq_true, bne_iff_ne, ne_eq] at changed
    refine ⟨changed.1, ?_⟩
    intro same
    obtain ⟨lifecycle, source⟩ := Prod.mk.inj same
    rcases changed.2 with other | other
    · exact other lifecycle
    · exact other source
  · rw [if_neg changed] at forgets
    -- The gates after this one keep the latches.
    split at forgets
    · exact forgets.elim
    · split at forgets
      · exact forgets.elim
      · split at forgets
        · exact forgets.elim
        · exact forgets.elim

theorem gate_measured (passes : gate self input = .measured) :
    self.config.enabled = true ∧ input.cargoLifecycleId ≠ 0 := by
  unfold gate at passes
  by_cases disabled : (!self.config.enabled) = true
  · rw [if_pos disabled] at passes
    cases passes
  rw [if_neg disabled] at passes
  by_cases invalid : (!input.stampSec.isFinite || input.stampSec ≤ 0) = true
  · rw [if_pos invalid] at passes
    cases passes
  rw [if_neg invalid] at passes
  by_cases rollback :
      (0 < self.lastInputStampSec && input.stampSec ≤ self.lastInputStampSec) = true
  · rw [if_pos rollback] at passes
    cases passes
  rw [if_neg rollback] at passes
  by_cases unloaded : (!input.hookLoaded || input.cargoLifecycleId == 0) = true
  · rw [if_pos unloaded] at passes
    cases passes
  exact ⟨by simpa using disabled, fun none => unloaded (by simp [none])⟩

end Frames

section Latching

variable (config : CargoSwingConfig) (input : CargoSwingInput) (measurement : Measurement)

theorem settleSway_latched (previous : CargoSwayState) {latch : SwayLatch}
    (held : latch.immediateAlarmLatched = true) :
    ClearStep (swayHoldComplete config input latch = true ∧ belowEnd config measurement = true)
      ((settleSway config input measurement previous latch).1.immediateAlarmLatched = false)
      config.swayEndConfirmSec input.stampSec latch.swayBelowEndStampSec
      (settleSway config input measurement previous latch).1.swayBelowEndStampSec := by
  have kept : ¬latch.immediateAlarmLatched = false := by simp [held]
  unfold settleSway
  rw [if_pos held]
  -- Only a measurement that clears lets the timer run.
  by_cases clears : (swayHoldComplete config input latch && belowEnd config measurement) = true
  · rw [if_pos clears]
    have holds := Bool.and_eq_true_iff.mp clears
    have started : (if latch.swayBelowEndStampSec ≤ 0 then
        { latch with swayBelowEndStampSec := input.stampSec } else latch) =
          { latch with swayBelowEndStampSec :=
              startTimer input.stampSec latch.swayBelowEndStampSec } := by
      unfold startTimer
      split_ifs
      · rfl
      · rfl
    dsimp only
    rw [started]
    by_cases elapsed : config.swayEndConfirmSec ≤
        input.stampSec - startTimer input.stampSec latch.swayBelowEndStampSec
    · rw [if_pos elapsed]
      exact .confirms holds elapsed false
    · rw [if_neg elapsed]
      exact .runs holds kept
  · rw [if_neg clears]
    exact .stops kept

theorem settleSway_unlatched (previous : CargoSwayState) {latch : SwayLatch}
    (free : latch.immediateAlarmLatched = false) :
    (settleSway config input measurement previous latch).1.swayBelowEndStampSec =
        latch.swayBelowEndStampSec ∧
      ((settleSway config input measurement previous latch).1.immediateAlarmLatched = true →
        (settleSway config input measurement previous latch).1.swayAlarmEnterStampSec =
          input.stampSec) := by
  have unheld : latch.immediateAlarmLatched = true → False := by simp [free]
  unfold settleSway
  rw [if_neg unheld]
  split_ifs
  · exact ⟨rfl, fun _ => rfl⟩
  · exact ⟨rfl, fun held => (unheld held).elim⟩
  · exact ⟨rfl, fun held => (unheld held).elim⟩
  · exact ⟨rfl, fun held => (unheld held).elim⟩
  · exact ⟨rfl, fun held => (unheld held).elim⟩

theorem raiseSway_cases (latch : SwayLatch) :
    ((raiseSway config input measurement latch).swayBelowEndStampSec = 0 ∧
        (raiseSway config input measurement latch).immediateAlarmLatched = true) ∨
      ((raiseSway config input measurement latch).swayBelowEndStampSec =
          latch.swayBelowEndStampSec ∧
        (raiseSway config input measurement latch).immediateAlarmLatched =
          latch.immediateAlarmLatched ∧
        (raiseSway config input measurement latch).swayAlarmEnterStampSec =
          latch.swayAlarmEnterStampSec) := by
  unfold raiseSway
  by_cases immediate : immediateSwayAlarm config measurement = true
  · rw [if_pos immediate]
    split_ifs
    · exact .inl ⟨rfl, rfl⟩
    · exact .inl ⟨rfl, rfl⟩
  · rw [if_neg immediate]
    split_ifs
    · exact .inr ⟨rfl, rfl, rfl⟩
    · exact .inr ⟨rfl, rfl, rfl⟩

theorem latchSkew_latched (state : CargoSkewPullState) {latch : SkewLatch}
    (held : latch.skewAlarmLatched = true) :
    ClearStep (state ≠ .skewPullAlarm ∧ skewHoldComplete config input latch = true ∧
        skewClearEvidence config input measurement = true)
      ((latchSkew config input measurement state latch).1.skewAlarmLatched = false)
      config.skewClearConfirmSec input.stampSec latch.skewClearCandidateStampSec
      (latchSkew config input measurement state latch).1.skewClearCandidateStampSec := by
  have kept : ¬latch.skewAlarmLatched = false := by simp [held]
  unfold latchSkew
  by_cases alarm : state = .skewPullAlarm
  · -- A new alarm stops the timer.
    rw [if_pos alarm]
    exact .stops (by simp)
  · rw [if_neg alarm, if_pos held]
    by_cases clears : (skewHoldComplete config input latch &&
        skewClearEvidence config input measurement) = true
    · rw [if_pos clears]
      have holds := Bool.and_eq_true_iff.mp clears
      dsimp only
      by_cases elapsed : config.skewClearConfirmSec ≤
          input.stampSec - startTimer input.stampSec latch.skewClearCandidateStampSec
      · have released := elapsed
        unfold startTimer at released
        rw [if_pos released]
        exact .confirms ⟨alarm, holds⟩ elapsed true
      · have running := elapsed
        unfold startTimer at running
        rw [if_neg running]
        exact .runs ⟨alarm, holds⟩ kept
    · rw [if_neg clears]
      exact .stops kept

theorem latchSkew_unlatched (state : CargoSkewPullState) {latch : SkewLatch}
    (free : latch.skewAlarmLatched = false) :
    (latchSkew config input measurement state latch).1.skewAlarmLatched = false ∨
      (latchSkew config input measurement state latch).1.skewClearCandidateStampSec = 0 := by
  unfold latchSkew
  by_cases alarm : state = .skewPullAlarm
  · rw [if_pos alarm]
    exact .inr rfl
  · rw [if_neg alarm, if_neg (by simp [free])]
    exact .inl free

def torsionSeverity : CargoTorsionState → Nat
  | .torsionAlarm => 2
  | .torsionWarning => 1
  | _ => 0

theorem releaseTorsion_held (state : CargoTorsionState) {latch : TorsionLatch}
    (held : torsionHeld latch.torsionLatchedState = true) :
    ClearStep (measurement.yawErrorDeg ≤ torsionClearDeg config latch.torsionLatchedState)
      (torsionSeverity
          (releaseTorsion config input measurement state latch).torsionLatchedState <
        torsionSeverity latch.torsionLatchedState)
      config.torsionClearConfirmSec input.stampSec latch.torsionClearCandidateStampSec
      (releaseTorsion config input measurement state latch).torsionClearCandidateStampSec := by
  unfold releaseTorsion
  rw [if_neg (by simp [held])]
  by_cases clears :
      measurement.yawErrorDeg ≤ torsionClearDeg config latch.torsionLatchedState
  · rw [if_pos clears]
    dsimp only
    by_cases elapsed : config.torsionClearConfirmSec ≤
        input.stampSec - startTimer input.stampSec latch.torsionClearCandidateStampSec
    · have released := elapsed
      unfold startTimer at released
      rw [if_pos released]
      exact .confirms clears elapsed true
    · have running := elapsed
      unfold startTimer at running
      rw [if_neg running]
      exact .runs clears (Nat.lt_irrefl _)
  · rw [if_neg clears]
    exact .stops (Nat.lt_irrefl _)

theorem raiseTorsion_cases (state : CargoTorsionState) (latch : TorsionLatch) :
    raiseTorsion state latch = latch ∨
      ((raiseTorsion state latch).torsionClearCandidateStampSec = 0 ∧
        torsionSeverity latch.torsionLatchedState ≤
          torsionSeverity (raiseTorsion state latch).torsionLatchedState) := by
  unfold raiseTorsion
  by_cases alarm : state = .torsionAlarm
  · rw [if_pos alarm]
    refine .inr ⟨rfl, ?_⟩
    show torsionSeverity latch.torsionLatchedState ≤ 2
    cases latch.torsionLatchedState
    all_goals decide
  · rw [if_neg alarm]
    by_cases warns : state = .torsionWarning ∧ latch.torsionLatchedState ≠ .torsionAlarm
    · rw [if_pos warns]
      refine .inr ⟨rfl, ?_⟩
      obtain ⟨_, other⟩ := warns
      show torsionSeverity latch.torsionLatchedState ≤ 1
      revert other
      cases latch.torsionLatchedState
      all_goals decide
    · rw [if_neg warns]
      exact .inl rfl

end Latching

section Channels

variable [SwingMath] (event : SwingEvent)

def stampOf : Scalar := event.call.stampSec

def Evaluated : Prop := gate event.before event.call = .measured

def baseOf : CargoSwingMonitor :=
  forgetBeforeGap (admitted event.before event.call) event.call

def measurementOf : Measurement := (measure event.before.config event.call (baseOf event)).1

def raisedSway : SwayLatch :=
  raiseSway event.before.config event.call (measurementOf event) (baseOf event).sway

def skewJudgement : SkewJudgement :=
  judgeSkew event.before.config event.call (measurementOf event)
    (SwingMath.atan2 (measurementOf event).statistics.meanOffset.norm
      (measurementOf event).ropeLengthM * kRadToDeg) (baseOf event).skew.skewAlarmCandidateStampSec

def raisedTorsion : TorsionLatch :=
  raiseTorsion (judgeTorsion event.before.config (measurementOf event))
    { event.before.torsion with lastTorsionEvidenceStampSec := event.call.stampSec }

def SwayClears : Prop :=
  Evaluated event ∧ swayHoldComplete event.before.config event.call (raisedSway event) = true ∧
    belowEnd event.before.config (measurementOf event) = true

def SkewClears : Prop :=
  Evaluated event ∧ (skewJudgement event).state ≠ .skewPullAlarm ∧
    skewHoldComplete event.before.config event.call event.before.skew = true ∧
    skewClearEvidence event.before.config event.call (measurementOf event) = true

def TorsionObserved : Prop := Evaluated event ∧ (measurementOf event).yawEvidenceValid = true

def TorsionClears : Prop :=
  TorsionObserved event ∧ (measurementOf event).yawErrorDeg ≤
    torsionClearDeg event.before.config (raisedTorsion event).torsionLatchedState

def WithinGap (earlier later : SwingEvent) : Prop :=
  stampOf later - stampOf earlier ≤ later.before.config.maximumObservationGapSec

def afterOf : CargoSwingMonitor := event.before.advance event.call

structure ReleasesConfirmed (past : List SwingEvent) (event : SwingEvent) : Prop where
  sway : event.before.sway.immediateAlarmLatched = true →
    (afterOf event).sway.immediateAlarmLatched = false →
      ConfirmedBy SwayClears Evaluated WithinGap stampOf
        event.before.config.swayEndConfirmSec past event
  skew : event.before.skew.skewAlarmLatched = true →
    (afterOf event).skew.skewAlarmLatched = false →
      ConfirmedBy SkewClears Evaluated WithinGap stampOf
        event.before.config.skewClearConfirmSec past event
  torsion : torsionSeverity (afterOf event).torsion.torsionLatchedState <
      torsionSeverity event.before.torsion.torsionLatchedState →
    ConfirmedBy TorsionClears TorsionObserved WithinGap stampOf
      event.before.config.torsionClearConfirmSec past event

/--
No clear measurement resumes a timer of its channel across a gap in the observations.

Neither does one resume a timer that was running before the alarm it would clear.
-/
structure SteadyStep (past : List SwingEvent) (event : SwingEvent) : Prop where
  sway : SwayClears event → (raisedSway event).immediateAlarmLatched = true →
    ¬(raisedSway event).swayBelowEndStampSec ≤ 0 →
      (raisedSway event).swayAlarmEnterStampSec ≤ (raisedSway event).swayBelowEndStampSec ∧
        Continues Evaluated WithinGap past event
  skew : SkewClears event → event.before.skew.skewAlarmLatched = true →
    ¬event.before.skew.skewClearCandidateStampSec ≤ 0 → Continues Evaluated WithinGap past event
  torsion : TorsionClears event →
    torsionHeld (raisedTorsion event).torsionLatchedState = true →
    ¬(raisedTorsion event).torsionClearCandidateStampSec ≤ 0 →
      Continues TorsionObserved WithinGap past event

variable {event : SwingEvent}

theorem advance_evaluated (evaluated : Evaluated event) : ∃ previous,
    (afterOf event).sway = (settleSway event.before.config event.call (measurementOf event)
      previous (raisedSway event)).1 ∧
    (afterOf event).skew = (latchSkew event.before.config event.call (measurementOf event)
      (skewJudgement event).state { (baseOf event).skew with
        skewAlarmCandidateStampSec := (skewJudgement event).alarmCandidateStampSec }).1 ∧
    (afterOf event).torsion = (latchTorsion event.before.config event.call (measurementOf event)
      event.before.torsion).1 := by
  unfold afterOf advance
  have passes : gate event.before event.call = .measured := evaluated
  rw [passes]
  -- Admitting the frame keeps the configuration, and a gap keeps the torsion.
  have sameConfig := admitted_config event.before event.call
  have sameTorsion : (baseOf event).torsion = event.before.torsion :=
    (forgetBeforeGap_torsion _ _).trans (congrArg Latches.torsion (admitted_latches _ _))
  refine ⟨(admitted event.before event.call).result.swayState, ?_, ?_, ?_⟩
  · unfold raisedSway measurementOf
    rw [← sameConfig]
    rfl
  · unfold skewJudgement measurementOf
    rw [← sameConfig]
    rfl
  · unfold measurementOf
    rw [← sameConfig, ← sameTorsion]
    rfl

end Channels

section Tracking

variable [SwingMath] {lifecycle : Nat} {source : String} {past : List SwingEvent}
  {event : SwingEvent}

def Stamped (past : List SwingEvent) (timer : Scalar) : Prop :=
  timer ≤ 0 ∨ ∃ event ∈ past, stampOf event = timer

structure Tracks (lifecycle : Nat) (source : String) (past : List SwingEvent)
    (monitor : CargoSwingMonitor) : Prop where
  lastInput : Stamped past monitor.lastInputStampSec
  identity : monitor.identity.1 = 0 ∨ monitor.identity = (lifecycle, source)
  forgotten : monitor.config.enabled = false ∨ lifecycle = 0 → monitor.latches = {}

structure TimersTrue (past : List SwingEvent) (latches : Latches) : Prop where
  belowEnd : Stamped past latches.sway.swayBelowEndStampSec
  sway : latches.sway.immediateAlarmLatched = true →
    latches.sway.swayAlarmEnterStampSec ≤ latches.sway.swayBelowEndStampSec →
      Timed SwayClears Evaluated WithinGap stampOf past latches.sway.swayBelowEndStampSec
  skew : latches.skew.skewAlarmLatched = true →
    Timed SkewClears Evaluated WithinGap stampOf past latches.skew.skewClearCandidateStampSec
  torsion : torsionHeld latches.torsion.torsionLatchedState = true →
    Timed TorsionClears TorsionObserved WithinGap stampOf past
      latches.torsion.torsionClearCandidateStampSec

structure Shows (lifecycle : Nat) (source : String) (past : List SwingEvent)
    (event : SwingEvent) : Prop where
  later : ∀ earlier ∈ past, stampOf earlier < stampOf event
  loaded : event.call.hookLoaded = true
  identity : (event.call.cargoLifecycleId, event.call.hookAnchorSource) = (lifecycle, source)

omit [SwingMath] in
theorem Stamped.zero (past : List SwingEvent) : Stamped past 0 :=
  .inl (Scalar.le_refl_of_finite rfl)

omit [SwingMath] in
theorem Stamped.now : Stamped (event :: past) (stampOf event) :=
  .inr ⟨event, List.mem_cons_self, rfl⟩

omit [SwingMath] in
theorem Stamped.later {timer : Scalar} (stamped : Stamped past timer) :
    Stamped (event :: past) timer := by
  rcases stamped with none | ⟨earlier, member, stamps⟩
  · exact .inl none
  · exact .inr ⟨earlier, List.mem_cons_of_mem _ member, stamps⟩

omit [SwingMath] in
theorem Tracks.forgets (tracks : Tracks lifecycle source past event.before)
    (shows : Shows lifecycle source past event)
    (forgets : (gate event.before event.call).Forgets) : event.before.latches = {} := by
  rcases gate_forgets _ _ forgets with disabled | ⟨positive, rollback⟩ | unloaded | changed
  · exact tracks.forgotten (.inl disabled)
  · -- The stamps of the past all lie before the current one.
    rcases tracks.lastInput with none | ⟨earlier, member, stamps⟩
    · exact absurd positive (Scalar.not_lt_of_le none)
    · have before : stampOf earlier < event.call.stampSec := shows.later earlier member
      rw [stamps] at before
      exact absurd before (Scalar.not_lt_of_le rollback)
  · rcases unloaded with empty | invalid
    · exact absurd (shows.loaded.symm.trans empty) (by simp)
    · have same := (Prod.mk.inj shows.identity).1
      exact tracks.forgotten (.inr (same.symm.trans invalid))
  · obtain ⟨known, other⟩ := changed
    rcases tracks.identity with none | same
    · exact absurd none known
    · exact absurd (same.trans shows.identity.symm) other

theorem Tracks.step (tracks : Tracks lifecycle source past event.before)
    (shows : Shows lifecycle source past event) :
    Tracks lifecycle source (event :: past) (afterOf event) := by
  refine ⟨?_, ?_, ?_⟩
  · rcases advance_lastInput event.before event.call with kept | none | current
    · unfold afterOf
      rw [kept]
      exact tracks.lastInput.later
    · unfold afterOf
      rw [none]
      exact .zero _
    · unfold afterOf
      rw [current]
      exact .now
  · rcases advance_identity event.before event.call with kept | none | current
    · unfold afterOf
      rw [kept]
      exact tracks.identity
    · exact .inl none
    · exact .inr (current.trans shows.identity)
  · intro hidden
    have sameConfig : (afterOf event).config = event.before.config := advance_config _ _
    rw [sameConfig] at hidden
    have empty := tracks.forgotten hidden
    -- Neither a disabled monitor nor a load without an identity is evaluated.
    have skipped : gate event.before event.call ≠ .measured := by
      intro passes
      obtain ⟨enabled, identified⟩ := gate_measured _ _ passes
      rcases hidden with disabled | invalid
      · exact absurd (enabled.symm.trans disabled) (by simp)
      · exact identified ((Prod.mk.inj shows.identity).1.trans invalid)
    rcases advance_unmeasured _ _ skipped with kept | stopped | ⟨_, none⟩
    · exact kept.trans empty
    · exact stopped.trans (by rw [empty]; rfl)
    · exact none

theorem TimersTrue.unlatched (past : List SwingEvent) : TimersTrue past {} where
  belowEnd := .zero past
  sway latched := by cases latched
  skew latched := by cases latched
  torsion held := by cases held

theorem TimersTrue.stopped (past : List SwingEvent) (latches : Latches) :
    TimersTrue past latches.stopped where
  belowEnd := .zero past
  sway _ _ := .stopped past
  skew _ := .stopped past
  torsion _ := .stopped past

theorem TimersTrue.unmeasured {latches : Latches} (timers : TimersTrue past latches)
    (skipped : ¬Evaluated event) : TimersTrue (event :: past) latches where
  belowEnd := timers.belowEnd.later
  sway latched fresh := (timers.sway latched fresh).unobserved skipped
  skew latched := (timers.skew latched).unobserved skipped
  torsion held := (timers.torsion held).unobserved fun observed => skipped observed.1

omit [SwingMath] in
theorem baseOf_sway : ((baseOf event).sway.swayBelowEndStampSec = 0 ∨
      (baseOf event).sway.swayBelowEndStampSec = event.before.sway.swayBelowEndStampSec) ∧
    (baseOf event).sway.immediateAlarmLatched = event.before.sway.immediateAlarmLatched ∧
    (baseOf event).sway.swayAlarmEnterStampSec = event.before.sway.swayAlarmEnterStampSec := by
  have same : (admitted event.before event.call).sway = event.before.sway :=
    congrArg Latches.sway (admitted_latches _ _)
  unfold baseOf
  rw [forgetBeforeGap_sway, same]
  split_ifs
  · exact ⟨.inl rfl, rfl, rfl⟩
  · exact ⟨.inr rfl, rfl, rfl⟩

section

variable (timers : TimersTrue past event.before.latches)
include timers

theorem TimersTrue.sway_measured (evaluated : Evaluated event)
    (later : ∀ earlier ∈ past, stampOf earlier < stampOf event) (steady : SteadyStep past event) :
    Stamped (event :: past) (afterOf event).sway.swayBelowEndStampSec ∧
      ((afterOf event).sway.immediateAlarmLatched = true →
        (afterOf event).sway.swayAlarmEnterStampSec ≤
          (afterOf event).sway.swayBelowEndStampSec →
        Timed SwayClears Evaluated WithinGap stampOf (event :: past)
          (afterOf event).sway.swayBelowEndStampSec) ∧
      (event.before.sway.immediateAlarmLatched = true →
        (afterOf event).sway.immediateAlarmLatched = false →
        ConfirmedBy SwayClears Evaluated WithinGap stampOf
          event.before.config.swayEndConfirmSec past event) := by
  obtain ⟨previous, settled, _, _⟩ := advance_evaluated evaluated
  rw [settled]
  obtain ⟨baseTimer, baseLatched, baseEnter⟩ := @baseOf_sway event
  have raised := raiseSway_cases event.before.config event.call (measurementOf event)
    (baseOf event).sway
  change ((raisedSway event).swayBelowEndStampSec = 0 ∧
      (raisedSway event).immediateAlarmLatched = true) ∨
    ((raisedSway event).swayBelowEndStampSec = (baseOf event).sway.swayBelowEndStampSec ∧
      (raisedSway event).immediateAlarmLatched = (baseOf event).sway.immediateAlarmLatched ∧
      (raisedSway event).swayAlarmEnterStampSec =
        (baseOf event).sway.swayAlarmEnterStampSec) at raised
  have stampedBefore : Stamped past (raisedSway event).swayBelowEndStampSec := by
    rcases raised with ⟨none, _⟩ | ⟨kept, _⟩
    · rw [none]
      exact .zero past
    · rw [kept]
      rcases baseTimer with none | same
      · rw [none]
        exact .zero past
      · rw [same]
        exact timers.belowEnd
  cases latched : (raisedSway event).immediateAlarmLatched with
  | false =>
    -- A new alarm is younger than every timer.
    obtain ⟨sameTimer, enters⟩ := settleSway_unlatched event.before.config event.call
      (measurementOf event) previous latched
    rw [sameTimer]
    refine ⟨stampedBefore.later, ?_, ?_⟩
    · intro held fresh
      rw [enters held] at fresh
      rcases stampedBefore with none | ⟨earlier, member, stamps⟩
      · exact .inl none
      · have before : stampOf earlier < event.call.stampSec := later earlier member
        rw [stamps] at before
        exact absurd before (Scalar.not_lt_of_le fresh)
    · intro held _
      rcases raised with ⟨_, raises⟩ | ⟨_, same, _⟩
      · exact absurd (latched.symm.trans raises) (by simp)
      · exact absurd (latched.symm.trans (same.trans (baseLatched.trans held))) (by simp)
  | true =>
    have step := settleSway_latched event.before.config event.call (measurementOf event) previous
      latched
    have counted : ClearStep (SwayClears event) _ _ _ _ _ := step.countedAs fun clears =>
      ⟨evaluated, clears⟩
    have stampedAfter : Stamped (event :: past) (settleSway event.before.config event.call
        (measurementOf event) previous (raisedSway event)).1.swayBelowEndStampSec := by
      rcases step.timer_cases with none | current | kept
      · rw [none]
        exact .zero _
      · rw [current]
        exact .now
      · rw [kept]
        exact stampedBefore.later
    have timed : SwayClears event → Timed SwayClears Evaluated WithinGap stampOf past
        (raisedSway event).swayBelowEndStampSec := by
      intro clears
      by_cases stands : (raisedSway event).swayBelowEndStampSec ≤ 0
      · exact .inl stands
      · -- A running timer is the one from before, of the same alarm.
        obtain ⟨fresh, _⟩ := steady.sway clears latched stands
        rcases raised with ⟨none, _⟩ | ⟨kept, sameLatched, sameEnter⟩
        · rw [none]
          exact .stopped past
        · rw [kept, sameEnter] at fresh
          rw [kept]
          rcases baseTimer with none | same
          · rw [none]
            exact .stopped past
          · rw [same, baseEnter] at fresh
            rw [same]
            exact timers.sway (baseLatched.symm.trans (sameLatched.symm.trans latched)) fresh
    obtain ⟨running, confirms⟩ := counted.confirmed timed (fun _ clears => clears.1)
      fun clears stands => (steady.sway clears latched stands).2
    exact ⟨stampedAfter, fun _ _ => running, fun _ => confirms⟩

theorem TimersTrue.skew_measured (evaluated : Evaluated event) (steady : SteadyStep past event) :
    ((afterOf event).skew.skewAlarmLatched = true →
        Timed SkewClears Evaluated WithinGap stampOf (event :: past)
          (afterOf event).skew.skewClearCandidateStampSec) ∧
      (event.before.skew.skewAlarmLatched = true →
        (afterOf event).skew.skewAlarmLatched = false →
        ConfirmedBy SkewClears Evaluated WithinGap stampOf
          event.before.config.skewClearConfirmSec past event) := by
  obtain ⟨_, _, latchedBy, _⟩ := advance_evaluated evaluated
  rw [latchedBy]
  -- Apart from the timer of the alarm, the latch is the one from before.
  have admits : (admitted event.before event.call).skew = event.before.skew :=
    congrArg Latches.skew (admitted_latches _ _)
  obtain ⟨candidate, based⟩ := forgetBeforeGap_skew (admitted event.before event.call) event.call
  change (baseOf event).skew = _ at based
  rw [based, admits]
  let judged : SkewLatch := { event.before.skew with
    skewAlarmCandidateStampSec := (skewJudgement event).alarmCandidateStampSec }
  cases latched : event.before.skew.skewAlarmLatched with
  | false =>
    refine ⟨fun held => ?_, fun held => by cases held⟩
    have unheld : judged.skewAlarmLatched = false := latched
    rcases latchSkew_unlatched event.before.config event.call (measurementOf event)
      (skewJudgement event).state unheld with free | none
    · exact absurd (free.symm.trans held) (by simp)
    · rw [none]
      exact .stopped _
  | true =>
    have held : judged.skewAlarmLatched = true := latched
    have step := latchSkew_latched event.before.config event.call (measurementOf event)
      (skewJudgement event).state held
    have counted : ClearStep (SkewClears event) _ _ _ _ _ := step.countedAs fun clears =>
      ⟨evaluated, clears⟩
    obtain ⟨running, confirms⟩ := counted.confirmed (fun _ => timers.skew latched)
      (fun _ clears => clears.1) fun clears stands => steady.skew clears latched stands
    exact ⟨fun _ => running, fun _ => confirms⟩

theorem TimersTrue.torsion_observed (observed : TorsionObserved event)
    (steady : SteadyStep past event) :
    (torsionHeld (afterOf event).torsion.torsionLatchedState = true →
        Timed TorsionClears TorsionObserved WithinGap stampOf (event :: past)
          (afterOf event).torsion.torsionClearCandidateStampSec) ∧
      (torsionSeverity (afterOf event).torsion.torsionLatchedState <
          torsionSeverity event.before.torsion.torsionLatchedState →
        ConfirmedBy TorsionClears TorsionObserved WithinGap stampOf
          event.before.config.torsionClearConfirmSec past event) := by
  obtain ⟨_, _, _, latchedBy⟩ := advance_evaluated observed.1
  have judged : (afterOf event).torsion = releaseTorsion event.before.config event.call
      (measurementOf event) (judgeTorsion event.before.config (measurementOf event))
      (raisedTorsion event) := by
    rw [latchedBy]
    unfold latchTorsion
    rw [if_pos observed.2]
    rfl
  rw [judged]
  have raised : raisedTorsion event =
        { event.before.torsion with lastTorsionEvidenceStampSec := event.call.stampSec } ∨
      ((raisedTorsion event).torsionClearCandidateStampSec = 0 ∧
        torsionSeverity event.before.torsion.torsionLatchedState ≤
          torsionSeverity (raisedTorsion event).torsionLatchedState) :=
    raiseTorsion_cases _ _
  have severe : torsionSeverity event.before.torsion.torsionLatchedState ≤
      torsionSeverity (raisedTorsion event).torsionLatchedState := by
    rcases raised with kept | ⟨_, atLeast⟩
    · rw [kept]
    · exact atLeast
  cases held : torsionHeld (raisedTorsion event).torsionLatchedState with
  | false =>
    -- Nothing is held, so that there is nothing to release.
    have same : releaseTorsion event.before.config event.call (measurementOf event)
        (judgeTorsion event.before.config (measurementOf event)) (raisedTorsion event) =
          raisedTorsion event := by
      unfold releaseTorsion
      rw [if_pos (by simp [held])]
    rw [same]
    refine ⟨fun holds => absurd (held.symm.trans holds) (by simp), fun eased => ?_⟩
    exact absurd (severe.trans_lt' eased) (Nat.lt_irrefl _)
  | true =>
    have step := releaseTorsion_held event.before.config event.call (measurementOf event)
      (judgeTorsion event.before.config (measurementOf event)) held
    have counted : ClearStep (TorsionClears event) _ _ _ _ _ := step.countedAs fun clears =>
      ⟨observed, clears⟩
    have timed : Timed TorsionClears TorsionObserved WithinGap stampOf past
        (raisedTorsion event).torsionClearCandidateStampSec := by
      rcases raised with kept | ⟨none, _⟩
      · rw [kept] at held ⊢
        exact timers.torsion held
      · rw [none]
        exact .stopped past
    obtain ⟨running, confirms⟩ := counted.confirmed (fun _ => timed)
      (fun _ clears => clears.1) fun clears stands => steady.torsion clears held stands
    exact ⟨fun _ => running, fun eased => confirms (eased.trans_le severe)⟩

theorem TimersTrue.torsion_measured (evaluated : Evaluated event) (steady : SteadyStep past event) :
    (torsionHeld (afterOf event).torsion.torsionLatchedState = true →
        Timed TorsionClears TorsionObserved WithinGap stampOf (event :: past)
          (afterOf event).torsion.torsionClearCandidateStampSec) ∧
      (torsionSeverity (afterOf event).torsion.torsionLatchedState <
          torsionSeverity event.before.torsion.torsionLatchedState →
        ConfirmedBy TorsionClears TorsionObserved WithinGap stampOf
          event.before.config.torsionClearConfirmSec past event) := by
  by_cases oriented : (measurementOf event).yawEvidenceValid = true
  · exact timers.torsion_observed ⟨evaluated, oriented⟩ steady
  · -- Without an orientation, the latch stays as it is.
    have silent : ¬TorsionObserved event := fun observed => oriented observed.2
    obtain ⟨_, _, _, latchedBy⟩ := advance_evaluated evaluated
    have kept : (afterOf event).torsion = event.before.torsion := by
      rw [latchedBy]
      unfold latchTorsion
      rw [if_neg oriented, apply_ite Prod.fst]
      exact ite_self _
    rw [kept]
    exact ⟨fun held => (timers.torsion held).unobserved silent,
      fun eased => absurd eased (Nat.lt_irrefl _)⟩

end

def Latches.flags (latches : Latches) : Bool × Bool × CargoTorsionState :=
  (latches.sway.immediateAlarmLatched, latches.skew.skewAlarmLatched,
    latches.torsion.torsionLatchedState)

theorem ReleasesConfirmed.ofKept
    (kept : (afterOf event).latches.flags = event.before.latches.flags) :
    ReleasesConfirmed past event := by
  obtain ⟨sway, others⟩ := Prod.mk.inj kept
  obtain ⟨skew, torsion⟩ := Prod.mk.inj others
  refine ⟨?_, ?_, ?_⟩
  · intro held free
    exact absurd (free.symm.trans (sway.trans held)) (by simp)
  · intro held free
    exact absurd (free.symm.trans (skew.trans held)) (by simp)
  · intro eased
    change torsionSeverity (afterOf event).latches.torsion.torsionLatchedState < _ at eased
    rw [torsion] at eased
    exact absurd eased (Nat.lt_irrefl _)

theorem TimersTrue.step (timers : TimersTrue past event.before.latches)
    (tracks : Tracks lifecycle source past event.before)
    (shows : Shows lifecycle source past event) (steady : SteadyStep past event) :
    TimersTrue (event :: past) (afterOf event).latches ∧ ReleasesConfirmed past event := by
  by_cases evaluated : Evaluated event
  · obtain ⟨belowEnd, sway, swayReleases⟩ :=
      timers.sway_measured evaluated shows.later steady
    obtain ⟨skew, skewReleases⟩ := timers.skew_measured evaluated steady
    obtain ⟨torsion, torsionReleases⟩ := timers.torsion_measured evaluated steady
    exact ⟨⟨belowEnd, sway, skew, torsion⟩, swayReleases, skewReleases, torsionReleases⟩
  · -- Without a measurement nothing is released, for the latches are not forgotten.
    rcases advance_unmeasured event.before event.call evaluated with
      kept | stopped | ⟨forgets, none⟩
    · change (afterOf event).latches = _ at kept
      rw [kept]
      exact ⟨timers.unmeasured evaluated, .ofKept (congrArg Latches.flags kept)⟩
    · change (afterOf event).latches = _ at stopped
      rw [stopped]
      have flags : event.before.latches.stopped.flags = event.before.latches.flags := rfl
      exact ⟨.stopped _ _, .ofKept ((congrArg Latches.flags stopped).trans flags)⟩
    · change (afterOf event).latches = _ at none
      have empty := tracks.forgets shows forgets
      rw [none]
      exact ⟨.unlatched _, .ofKept (congrArg Latches.flags (none.trans empty.symm))⟩

end Tracking

section Runs

variable [SwingMath] {lifecycle : Nat} {source : String}

/-- The frames of a run, most recent first, show one load under one hook, in order of time. -/
structure OneLoad (lifecycle : Nat) (source : String) (calls : List CargoSwingInput) : Prop where
  ascending : calls.Pairwise fun later earlier => earlier.stampSec < later.stampSec
  loaded : ∀ call ∈ calls, call.hookLoaded = true
  identity : ∀ call ∈ calls, (call.cargoLifecycleId, call.hookAnchorSource) = (lifecycle, source)

def Steady : List SwingEvent → Prop
  | [] => True
  | event :: past => SteadyStep past event ∧ Steady past

variable {calls : List CargoSwingInput}

theorem OneLoad.shows {config : CargoSwingConfig} {call : CargoSwingInput}
    (load : OneLoad lifecycle source (call :: calls)) :
    Shows lifecycle source ((machine config).trace calls)
      ⟨(machine config).run calls, call⟩ where
  later _ member :=
    (List.pairwise_cons.mp load.ascending).1 _ (Machine.call_mem_of_mem_trace _ member)
  loaded := load.loaded call List.mem_cons_self
  identity := load.identity call List.mem_cons_self

omit [SwingMath] in
theorem OneLoad.older {call : CargoSwingInput} (load : OneLoad lifecycle source (call :: calls)) :
    OneLoad lifecycle source calls where
  ascending := (List.pairwise_cons.mp load.ascending).2
  loaded earlier member := load.loaded earlier (List.mem_cons_of_mem _ member)
  identity earlier member := load.identity earlier (List.mem_cons_of_mem _ member)

theorem run_tracks (config : CargoSwingConfig) (load : OneLoad lifecycle source calls)
    (steady : Steady ((machine config).trace calls)) :
    Tracks lifecycle source ((machine config).trace calls) ((machine config).run calls) ∧
      TimersTrue ((machine config).trace calls) ((machine config).run calls).latches := by
  -- The run and its trace grow by the same frame.
  induction calls with
  | nil =>
    refine ⟨⟨.zero _, .inl rfl, fun _ => rfl⟩, .unlatched _⟩
  | cons call older ih =>
    obtain ⟨now, before⟩ := steady
    obtain ⟨tracks, timers⟩ := ih load.older before
    have shows : Shows lifecycle source ((machine config).trace older)
        ⟨(machine config).run older, call⟩ := load.shows
    exact ⟨tracks.step shows, (TimersTrue.step timers tracks shows now).1⟩

/-- In a steady run over one load, whatever a frame releases has been confirmed without a gap. -/
theorem steady_releases_confirmed (config : CargoSwingConfig) (calls : List CargoSwingInput)
    (call : CargoSwingInput) (lifecycle : Nat) (source : String)
    (load : OneLoad lifecycle source (call :: calls))
    (steady : Steady ((machine config).trace (call :: calls))) :
    ReleasesConfirmed ((machine config).trace calls) ⟨(machine config).run calls, call⟩ := by
  obtain ⟨now, before⟩ := steady
  obtain ⟨tracks, timers⟩ := run_tracks config load.older before
  exact (TimersTrue.step timers tracks load.shows now).2

theorem run_config (config : CargoSwingConfig) (calls : List CargoSwingInput) :
    ((machine config).run calls).config = (new config).config := by
  induction calls with
  | nil => rfl
  | cons call older ih => exact (advance_config _ _).trans ih

end Runs

@[reducible] def straightSwing : SwingMath where
  toEuclideanNorm := axisNorm
  sqrt := id
  atan2 _ _ := 0
  principalAxis _ _ _ := some { y := 1 }

def turnedFrame (stampSec yawRad : Scalar) : CargoSwingInput where
  stampSec
  localizationValid := true
  hookLoaded := true
  hookAnchorValid := true
  hookAnchorBase := { z := 5 }
  hookAnchorAuthority := .topicMeasured
  hookAnchorXyAuthoritative := true
  hookAnchorZAuthoritative := true
  trackRetained := true
  trackLocked := true
  observationAssociatedCurrent := true
  cargoLifecycleId := 1
  trackSegmentId := 1
  measuredCenterValid := true
  measuredCenterBase := { z := 2 }
  identityConfidence := 1
  shapeConfidence := 1
  lockedYawValid := true
  measuredYawValid := true
  measuredYawBaseRad := yawRad
  orientationConfidence := 1
  cargoLengthM := 2
  cargoWidthM := 1

def turnedBack : List CargoSwingInput :=
  [turnedFrame 1.75 0, turnedFrame 1.5 0.25, turnedFrame 1.25 0.25, turnedFrame 1 0.25]

def laterFrames (stampSec : Scalar) : List CargoSwingInput := turnedFrame stampSec 0 :: turnedBack

theorem laterFrames_oneLoad {stampSec : Scalar} (later : ∀ call ∈ turnedBack,
    call.stampSec < stampSec) : OneLoad 1 "config" (laterFrames stampSec) where
  ascending := List.pairwise_cons.mpr ⟨later, by with_unfolding_all decide⟩
  loaded := List.forall_mem_cons.mpr ⟨rfl, by decide⟩
  identity := List.forall_mem_cons.mpr ⟨rfl, by decide⟩

theorem SteadyStep.ofStill [SwingMath] {past : List SwingEvent} {event : SwingEvent}
    (sway : (raisedSway event).swayBelowEndStampSec ≤ 0)
    (skew : event.before.skew.skewClearCandidateStampSec ≤ 0)
    (torsion : (raisedTorsion event).torsionClearCandidateStampSec ≤ 0 ∨
      Continues TorsionObserved WithinGap past event) : SteadyStep past event where
  sway _ _ runs := absurd sway runs
  skew _ _ runs := absurd skew runs
  torsion _ _ runs := torsion.resolve_left runs

def briefConfig : CargoSwingConfig := { torsionClearConfirmSec := 0.25 }

theorem steady_release_of_turned :
    let machine := @machine straightSwing briefConfig
    torsionSeverity (machine.run (laterFrames 2)).torsion.torsionLatchedState <
        torsionSeverity (machine.run turnedBack).torsion.torsionLatchedState ∧
      @ReleasesConfirmed straightSwing (machine.trace turnedBack)
        ⟨machine.run turnedBack, turnedFrame 2 0⟩ := by
  let := straightSwing
  refine ⟨by with_unfolding_all decide, ?_⟩
  apply steady_releases_confirmed briefConfig turnedBack (turnedFrame 2 0) 1 "config"
    (laterFrames_oneLoad (by with_unfolding_all decide))
  -- The last frame goes on with the timer that the one before it has started.
  refine ⟨.ofStill ?_ ?_ (.inr (.ofHead ⟨?_, ?_⟩ ?_)), .ofStill ?_ ?_ (.inl ?_),
    .ofStill ?_ ?_ (.inl ?_), .ofStill ?_ ?_ (.inl ?_), .ofStill ?_ ?_ (.inl ?_), trivial⟩
  all_goals try unfold Evaluated
  all_goals try unfold WithinGap
  all_goals with_unfolding_all decide

theorem torsion_released_across_gap :
    ¬ ∀ [SwingMath] (config : CargoSwingConfig) (calls : List CargoSwingInput)
      (call : CargoSwingInput) (lifecycle : Nat) (source : String),
      OneLoad lifecycle source (call :: calls) →
      ReleasesConfirmed ((machine config).trace calls) ⟨(machine config).run calls, call⟩ := by
  intro claimed
  let := straightSwing
  have releases := (claimed {} turnedBack (turnedFrame 3 0) 1 "config"
    (laterFrames_oneLoad (by with_unfolding_all decide))).torsion (by with_unfolding_all decide)
  obtain ⟨count, opening, chain, elapsed⟩ := releases
  cases chain with
  | first =>
    -- One measurement lasts no time.
    exact absurd elapsed (by with_unfolding_all decide)
  | next chain _ followed =>
    -- No earlier frame lies within the longest gap.
    have far : ∀ call ∈ turnedBack,
        ¬3 - call.stampSec ≤ (new {}).config.maximumObservationGapSec := by
      with_unfolding_all decide
    unfold WithinGap at followed
    rw [run_config] at followed
    exact absurd followed (far _ (Machine.call_mem_of_mem_trace _ chain.ends_in_past.2))
  | idle _ silent =>
    refine absurd ⟨?_, by with_unfolding_all decide⟩ silent
    unfold Evaluated
    with_unfolding_all decide

end CargoSwingMonitor

end NdtSlam
