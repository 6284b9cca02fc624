import NdtSlam.HookLoad.Filter

/-! What stands behind a load state: recent samples, enough of them, and clocks that advance. -/

namespace NdtSlam

def HookCall.wallTimeSec : HookCall → Scalar
  | .ingest _ _ wallTimeSec => wallTimeSec
  | .tick wallTimeSec => wallTimeSec

def HookCall.sourceTimeSec : HookCall → Scalar
  | .ingest _ sourceTimeSec _ => sourceTimeSec
  | .tick _ => .nan

variable (voltage sourceTimeSec wallTimeSec : Scalar)

@[simp] theorem HookCall.wallTimeSec_ingest :
    (HookCall.ingest voltage sourceTimeSec wallTimeSec).wallTimeSec = wallTimeSec := rfl

@[simp] theorem HookCall.wallTimeSec_tick (wallTimeSec : Scalar) :
    (HookCall.tick wallTimeSec).wallTimeSec = wallTimeSec := rfl

@[simp] theorem HookCall.sourceTimeSec_ingest :
    (HookCall.ingest voltage sourceTimeSec wallTimeSec).sourceTimeSec = sourceTimeSec := rfl

namespace HookLoadStateFilter

abbrev HookEvent := Event HookLoadStateFilter HookCall

def HookEvent.after (event : HookEvent) : HookLoadStateFilter :=
  (event.before.step event.call).1

def HookEvent.answer (event : HookEvent) : HookLoadStateResult :=
  (event.before.step event.call).2

section Predicates

variable (self : HookLoadStateFilter)

def accepts : HookCall → Bool
  | .ingest voltage sourceTimeSec wallTimeSec =>
    configValid self.config && timeUsable sourceTimeSec && timeUsable wallTimeSec &&
      !self.wallRolledBack wallTimeSec && !self.sourceRolledBack sourceTimeSec &&
      !self.sourceRepeated sourceTimeSec && voltageUsable self.config voltage
  | .tick _ => false

def setsWallClock : HookCall → Bool
  | .ingest _ sourceTimeSec wallTimeSec =>
    configValid self.config && timeUsable sourceTimeSec && timeUsable wallTimeSec &&
      (self.wallRolledBack wallTimeSec || self.sourceRolledBack sourceTimeSec ||
        !self.sourceRepeated sourceTimeSec)
  | .tick wallTimeSec => configValid self.config && timeUsable wallTimeSec

def setsSourceClock : HookCall → Bool
  | .ingest _ sourceTimeSec wallTimeSec =>
    configValid self.config && timeUsable sourceTimeSec && timeUsable wallTimeSec &&
      !self.wallRolledBack wallTimeSec &&
      (self.sourceRolledBack sourceTimeSec || !self.sourceRepeated sourceTimeSec)
  | .tick _ => false

def spokenFor : HookCall → HookLoadState
  | .ingest voltage _ _ => self.classify voltage
  | .tick _ => .unknown

def Accepted (event : HookEvent) : Prop := event.before.accepts event.call = true

def SpeaksFor (state : HookLoadState) (event : HookEvent) : Prop :=
  Accepted event ∧ event.before.spokenFor event.call = state

def Waits (event : HookEvent) : Prop :=
  ¬Accepted event ∧ event.after.pendingState ≠ .unknown

def TakenLater (earlier later : HookEvent) : Prop :=
  earlier.call.sourceTimeSec + timeEpsilonSec < later.call.sourceTimeSec

abbrev SampleChain (state : HookLoadState) := EvidenceChain (SpeaksFor state) Waits TakenLater

def Holds : Prop :=
  self.stableState ≠ .unknown ∨ self.pendingState ≠ .unknown

def Newest (kind : HookEvent → Prop) (past : List HookEvent) (newest : HookEvent) : Prop :=
  ∃ between older, past = between ++ newest :: older ∧ kind newest ∧
    ∀ later ∈ between, ¬kind later

structure FilterSound (config : HookLoadStateConfig) (event : HookEvent)
    (past : List HookEvent) : Prop where
  reports : event.answer.state = event.after.stableState ∧
    event.answer.valid = (event.after.stableState != .unknown)
  fresh : Holds event.after → ∃ sample, Newest Accepted (event :: past) sample ∧
    event.call.wallTimeSec - sample.call.wallTimeSec < config.staleTimeoutSec
  confirmed : event.after.stableState ≠ event.before.stableState →
    event.after.stableState ≠ .unknown →
    ∃ count opening, config.confirmSamples ≤ count ∧
      SampleChain event.after.stableState count opening event (event :: past) ∧
      config.minimumTransitionDurationSec ≤
        event.call.sourceTimeSec - opening.call.sourceTimeSec + timeEpsilonSec
  wallClock : ∀ newest, Newest (fun earlier => earlier.before.setsWallClock earlier.call = true)
      past newest →
    event.call.wallTimeSec + timeEpsilonSec < newest.call.wallTimeSec →
    event.after.stableState = .unknown ∨
      (event.before.hasSample = false ∧ Accepted event ∧ config.confirmSamples ≤ 1)
  sourceClock : ∀ newest,
    Newest (fun earlier => earlier.before.setsSourceClock earlier.call = true) past newest →
    event.call.sourceTimeSec + timeEpsilonSec < newest.call.sourceTimeSec →
    event.after.stableState = .unknown

end Predicates

section Steps

variable {self : HookLoadStateFilter}

structure Quiet (filter : HookLoadStateFilter) (call : HookCall) : Prop where
  configured : configValid filter.config = true
  wallUsable : timeUsable call.wallTimeSec = true
  wallKept : filter.wallRolledBack call.wallTimeSec = false
  sourceKept : filter.sourceRolledBack call.sourceTimeSec = false
  young : filter.hasSample = true → filter.signalStale call.wallTimeSec = false

inductive Course (self : HookLoadStateFilter) : HookCall → HookLoadStateFilter → Prop where
  | drops {call : HookCall} (base : HookLoadStateFilter) (reason : String) (voltage : Scalar)
      (rejected : self.accepts call = false) : Course self call (base.dropped reason voltage)
  | waits {call : HookCall} (wallTimeSec : Scalar) (rejected : self.accepts call = false)
      (quiet : Quiet self call) :
      Course self call { self with lastWallTimeSec := wallTimeSec }
  | accepts {voltage sourceTimeSec wallTimeSec : Scalar}
      (accepted : self.accepts (.ingest voltage sourceTimeSec wallTimeSec) = true) :
      Course self (.ingest voltage sourceTimeSec wallTimeSec)
        ((self.stamp sourceTimeSec wallTimeSec).digest voltage sourceTimeSec).1

structure AcceptedSample (filter : HookLoadStateFilter)
    (voltage sourceTimeSec wallTimeSec : Scalar) : Prop where
  configured : configValid filter.config = true
  sourceUsable : timeUsable sourceTimeSec = true
  wallUsable : timeUsable wallTimeSec = true
  wallKept : filter.wallRolledBack wallTimeSec = false
  sourceKept : filter.sourceRolledBack sourceTimeSec = false
  unseen : filter.sourceRepeated sourceTimeSec = false
  voltageUsable : voltageUsable filter.config voltage = true

theorem accepts_iff {voltage sourceTimeSec wallTimeSec : Scalar} :
    self.accepts (.ingest voltage sourceTimeSec wallTimeSec) = true ↔
      AcceptedSample self voltage sourceTimeSec wallTimeSec := by
  simp only [accepts, Bool.and_eq_true, Bool.not_eq_true']
  exact ⟨fun ⟨⟨⟨⟨⟨⟨first, second⟩, third⟩, fourth⟩, fifth⟩, sixth⟩, last⟩ =>
      ⟨first, second, third, fourth, fifth, sixth, last⟩,
    fun passes => ⟨⟨⟨⟨⟨⟨passes.configured, passes.sourceUsable⟩, passes.wallUsable⟩,
      passes.wallKept⟩, passes.sourceKept⟩, passes.unseen⟩, passes.voltageUsable⟩⟩

theorem rejected_of_fails {voltage sourceTimeSec wallTimeSec : Scalar}
    (fails : ¬AcceptedSample self voltage sourceTimeSec wallTimeSec) :
    self.accepts (.ingest voltage sourceTimeSec wallTimeSec) = false :=
  Bool.eq_false_iff.mpr fun accepted => fails (accepts_iff.1 accepted)

theorem tick_course (wallTimeSec : Scalar) :
    Course self (.tick wallTimeSec) (self.tick wallTimeSec).1 := by
  unfold tick
  dsimp only
  by_cases unconfigured : (!configValid self.config) = true
  · rw [if_pos unconfigured]
    exact .drops _ _ _ rfl
  rw [if_neg unconfigured]
  by_cases unusable : (!timeUsable wallTimeSec) = true
  · rw [if_pos unusable]
    exact .drops _ _ _ rfl
  rw [if_neg unusable]
  by_cases rolledBack : self.wallRolledBack wallTimeSec = true
  · rw [if_pos rolledBack]
    exact .drops _ _ _ rfl
  rw [if_neg rolledBack]
  have timeless : self.sourceRolledBack (HookCall.tick wallTimeSec).sourceTimeSec = false := by
    show (self.hasSeenSourceTime && false) = false
    exact Bool.and_false _
  by_cases unsampled : (!self.hasSample) = true
  · -- Without a sample there is nothing that could be too old.
    rw [if_pos unsampled]
    refine .waits _ rfl ⟨by simpa using unconfigured, by simpa using unusable,
      by simpa using rolledBack, timeless, fun sampled => ?_⟩
    rw [sampled] at unsampled
    cases unsampled
  rw [if_neg unsampled]
  by_cases stale : self.signalStale wallTimeSec = true
  · rw [if_pos stale]
    exact .drops _ _ _ rfl
  · rw [if_neg stale]
    have young : self.signalStale wallTimeSec = false := by simpa using stale
    exact .waits _ rfl ⟨by simpa using unconfigured, by simpa using unusable,
      by simpa using rolledBack, timeless, fun _ => young⟩

theorem ingest_course :
    Course self (.ingest voltage sourceTimeSec wallTimeSec)
      (self.ingest voltage sourceTimeSec wallTimeSec).1 := by
  unfold ingest
  dsimp only
  -- The branches come in the order of the tests of an accepted sample.
  by_cases unconfigured : (!configValid self.config) = true
  · rw [if_pos unconfigured]
    refine .drops _ _ _ (rejected_of_fails fun passes => ?_)
    simp [passes.configured] at unconfigured
  rw [if_neg unconfigured]
  by_cases sourceless : (!timeUsable sourceTimeSec) = true
  · rw [if_pos sourceless]
    refine .drops _ _ _ (rejected_of_fails fun passes => ?_)
    simp [passes.sourceUsable] at sourceless
  rw [if_neg sourceless]
  by_cases wallless : (!timeUsable wallTimeSec) = true
  · rw [if_pos wallless]
    refine .drops _ _ _ (rejected_of_fails fun passes => ?_)
    simp [passes.wallUsable] at wallless
  rw [if_neg wallless]
  by_cases wallBack : self.wallRolledBack wallTimeSec = true
  · rw [if_pos wallBack]
    refine .drops _ _ _ (rejected_of_fails fun passes => ?_)
    simp [passes.wallKept] at wallBack
  rw [if_neg wallBack]
  by_cases sourceBack : self.sourceRolledBack sourceTimeSec = true
  · rw [if_pos sourceBack]
    refine .drops _ _ _ (rejected_of_fails fun passes => ?_)
    simp [passes.sourceKept] at sourceBack
  rw [if_neg sourceBack]
  by_cases repeated : self.sourceRepeated sourceTimeSec = true
  · rw [if_pos repeated]
    have rejected : self.accepts (.ingest voltage sourceTimeSec wallTimeSec) = false := by
      refine rejected_of_fails fun passes => ?_
      simp [passes.unseen] at repeated
    by_cases stale : self.signalStale wallTimeSec = true
    · rw [if_pos stale]
      exact .drops _ _ _ rejected
    · -- A repeated sample leaves everything as it is.
      rw [if_neg stale]
      have young : self.signalStale wallTimeSec = false := by simpa using stale
      exact .waits self.lastWallTimeSec rejected ⟨by simpa using unconfigured,
        by simpa using wallless, by simpa using wallBack, by simpa using sourceBack, fun _ => young⟩
  rw [if_neg repeated]
  by_cases outside : (!voltageUsable self.config voltage) = true
  · have rejected : self.accepts (.ingest voltage sourceTimeSec wallTimeSec) = false := by
      refine rejected_of_fails fun passes => ?_
      simp [passes.voltageUsable] at outside
    by_cases undefined : (!voltage.isFinite) = true
    · rw [if_pos undefined]
      exact .drops _ _ _ rejected
    · rw [if_neg undefined, if_pos outside]
      exact .drops _ _ _ rejected
  · have usable : voltageUsable self.config voltage = true := by simpa using outside
    have defined : voltage.isFinite = true := by
      simp only [voltageUsable, Bool.and_eq_true] at usable
      exact usable.1
    rw [if_neg (by simp [defined]), if_neg outside]
    exact .accepts (accepts_iff.2 ⟨by simpa using unconfigured, by simpa using sourceless,
      by simpa using wallless, by simpa using wallBack, by simpa using sourceBack,
      by simpa using repeated, usable⟩)

theorem step_course (call : HookCall) : Course self call (self.step call).1 := by
  cases call with
  | ingest voltage sourceTimeSec wallTimeSec => exact ingest_course voltage sourceTimeSec wallTimeSec
  | tick wallTimeSec => exact tick_course wallTimeSec

inductive Verdict (self : HookLoadStateFilter) (candidate : HookLoadState)
    (sourceTimeSec : Scalar) : HookLoadStateFilter → Prop where
  | settles : Verdict self candidate sourceTimeSec self.settle
  | confirms (other : self.stableState = .unknown ∨ candidate ≠ self.stableState)
      (ready : (self.count candidate sourceTimeSec).transitionReady sourceTimeSec = true) :
      Verdict self candidate sourceTimeSec (self.count candidate sourceTimeSec).confirm
  | counts (other : self.stableState = .unknown ∨ candidate ≠ self.stableState) :
      Verdict self candidate sourceTimeSec (self.count candidate sourceTimeSec)

theorem digest_verdict (voltage sourceTimeSec : Scalar) :
    Verdict (self.measured voltage) (self.classify voltage) sourceTimeSec
      (self.digest voltage sourceTimeSec).1 := by
  unfold digest
  dsimp only
  -- The verdict first asks whether the sample speaks for the state in force.
  by_cases agrees : (self.measured voltage).classify voltage =
      (self.measured voltage).stableState ∧ (self.measured voltage).stableState ≠ .unknown
  · rw [if_pos agrees]
    exact .settles
  rw [if_neg agrees]
  have other : self.stableState = .unknown ∨ self.classify voltage ≠ self.stableState := by
    by_cases known : self.stableState = .unknown
    · exact .inl known
    · exact .inr fun same => agrees ⟨same, known⟩
  split_ifs with ready
  · exact .confirms other ready
  · exact .counts other

theorem classify_known (voltage : Scalar) : self.classify voltage ≠ .unknown := by
  unfold classify
  -- No branch of any state names the unknown one.
  cases self.stableState
  all_goals
    dsimp only
    split_ifs
    all_goals exact HookLoadState.noConfusion

end Steps

section Clocks

variable {self : HookLoadStateFilter} {voltage sourceTimeSec wallTimeSec : Scalar}

theorem timeUsable_finite {timeSec : Scalar} (usable : timeUsable timeSec = true) :
    ∃ time : ℚ, timeSec = .fin time := by
  simp only [timeUsable, Bool.and_eq_true] at usable
  exact Scalar.isFinite_iff.1 usable.1

theorem timeEpsilonSec_eq : ∃ epsilon : ℚ, timeEpsilonSec = .fin epsilon ∧ 0 < epsilon :=
  ⟨1 / 1000000, by with_unfolding_all decide, by norm_num⟩

theorem AcceptedSample.later {last : ℚ}
    (accepted : AcceptedSample self voltage sourceTimeSec wallTimeSec)
    (seen : self.hasSeenSourceTime = true) (known : self.lastSeenSourceTimeSec = .fin last) :
    Scalar.fin last + timeEpsilonSec < sourceTimeSec := by
  obtain ⟨now, rfl⟩ := timeUsable_finite accepted.sourceUsable
  obtain ⟨epsilon, isEpsilon, positive⟩ := timeEpsilonSec_eq
  have kept := accepted.sourceKept
  have unseen := accepted.unseen
  simp only [sourceRolledBack, sourceRepeated, seen, known, isEpsilon, Bool.true_and,
    Scalar.fin_add_fin, Scalar.fin_sub_fin, Scalar.abs_fin, Scalar.fin_lt_fin, Scalar.fin_le_fin,
    decide_eq_false_iff_not, not_lt, not_le] at kept unseen
  rw [isEpsilon, Scalar.fin_add_fin, Scalar.fin_lt_fin]
  -- Not earlier and not the same means later.
  rcases lt_abs.mp unseen with later | earlier
  · linarith
  · linarith

theorem accepted_times {event : HookEvent} (accepted : Accepted event) :
    configValid event.before.config = true ∧
      (∃ time : ℚ, event.call.sourceTimeSec = .fin time) ∧
      ∃ time : ℚ, event.call.wallTimeSec = .fin time := by
  unfold Accepted at accepted
  cases called : event.call with
  | tick wallTimeSec =>
    rw [called] at accepted
    cases accepted
  | ingest voltage sourceTimeSec wallTimeSec =>
    rw [called] at accepted
    have passes := accepts_iff.1 accepted
    exact ⟨passes.configured, timeUsable_finite passes.sourceUsable,
      timeUsable_finite passes.wallUsable⟩

theorem staleTimeout_positive {config : HookLoadStateConfig} (valid : configValid config = true) :
    ∃ timeout : ℚ, config.staleTimeoutSec = .fin timeout ∧ 0 < timeout := by
  simp only [configValid, Bool.and_eq_true, decide_eq_true_eq] at valid
  obtain ⟨timeout, isTimeout⟩ := Scalar.isFinite_iff.1 valid.1.1.1.1.2
  refine ⟨timeout, isTimeout, ?_⟩
  have positive := valid.1.1.1.2
  rw [isTimeout] at positive
  exact_mod_cast Scalar.fin_lt_fin.1 positive

theorem chainState_known {state : HookLoadState} {count : Nat} {opening last : HookEvent}
    {past : List HookEvent} (chain : SampleChain state count opening last past) :
    state ≠ .unknown := by
  obtain ⟨accepted, speaks⟩ := chain.last_counted
  rw [← speaks]
  unfold Accepted at accepted
  cases called : last.call with
  | tick wallTimeSec =>
    rw [called] at accepted
    cases accepted
  | ingest voltage sourceTimeSec wallTimeSec => exact classify_known voltage

end Clocks

section Invariant

variable {past : List HookEvent} {event : HookEvent} {self : HookLoadStateFilter}

structure Backed (past : List HookEvent) (filter : HookLoadStateFilter) : Prop where
  unsampled : filter.hasSample = false →
    filter.stableState = .unknown ∧ filter.pendingState = .unknown
  recent : Holds filter → ∃ sample, Newest Accepted past sample ∧
    sample.call.wallTimeSec = filter.lastSampleWallTimeSec
  settled : filter.pendingSinceValid = false →
    filter.pendingState = .unknown ∨ filter.pendingState = filter.stableState
  pending : filter.pendingSinceValid = true → filter.hasSeenSourceTime = true ∧
    ∃ count opening last, filter.pendingSamples ≤ count ∧
      SampleChain filter.pendingState count opening last past ∧
      opening.call.sourceTimeSec = filter.pendingSinceSourceTimeSec ∧
      last.call.sourceTimeSec = filter.lastSeenSourceTimeSec

theorem Newest.now {kind : HookEvent → Prop} (holds : kind event) :
    Newest kind (event :: past) event :=
  ⟨[], past, rfl, holds, by simp⟩

theorem Newest.later {kind : HookEvent → Prop} {newest : HookEvent}
    (found : Newest kind past newest) (other : ¬kind event) :
    Newest kind (event :: past) newest := by
  obtain ⟨between, older, split, holds, silent⟩ := found
  exact ⟨event :: between, older, by rw [split]; rfl, holds,
    List.forall_mem_cons.mpr ⟨other, silent⟩⟩

theorem Backed.dropped (base : HookLoadStateFilter) (reason : String) (voltage : Scalar) :
    Backed past (base.dropped reason voltage) where
  unsampled _ := ⟨rfl, rfl⟩
  recent holds := by
    rcases holds with stable | pending
    · exact absurd rfl stable
    · exact absurd rfl pending
  settled _ := .inl rfl
  pending valid := by cases valid

theorem Backed.count (backed : Backed past event.before)
    {voltage sourceTimeSec wallTimeSec : Scalar}
    (called : event.call = .ingest voltage sourceTimeSec wallTimeSec)
    (accepted : AcceptedSample event.before voltage sourceTimeSec wallTimeSec)
    (kept : self.pendingState = event.before.pendingState ∧
      self.pendingSamples = event.before.pendingSamples ∧
      self.pendingSinceValid = event.before.pendingSinceValid ∧
      self.pendingSinceSourceTimeSec = event.before.pendingSinceSourceTimeSec)
    (other : event.before.stableState = .unknown ∨
      event.before.classify voltage ≠ event.before.stableState) :
    let counted := self.count (event.before.classify voltage) sourceTimeSec
    counted.pendingSinceValid = true ∧ counted.pendingState = event.before.classify voltage ∧
      ∃ count opening, counted.pendingSamples ≤ count ∧
        SampleChain (event.before.classify voltage) count opening event (event :: past) ∧
        opening.call.sourceTimeSec = counted.pendingSinceSourceTimeSec := by
  have speaks : SpeaksFor (event.before.classify voltage) event := by
    refine ⟨?_, ?_⟩
    · show event.before.accepts event.call = true
      rw [called]
      exact accepts_iff.2 accepted
    · rw [called]
      rfl
  have source : event.call.sourceTimeSec = sourceTimeSec := by
    rw [called]
    rfl
  obtain ⟨sameState, sameSamples, sameValid, sameSince⟩ := kept
  dsimp only
  unfold HookLoadStateFilter.count
  by_cases continues : event.before.classify voltage = self.pendingState
  · rw [if_pos continues]
    have known := @classify_known event.before voltage
    -- A known state other than the one in force is pending only since a valid time.
    have valid : event.before.pendingSinceValid = true := by
      by_contra invalid
      rw [Bool.not_eq_true] at invalid
      rw [sameState] at continues
      rcases backed.settled invalid with none | same
      · exact known (continues.trans none)
      · rcases other with unknown | differs
        · exact known (continues.trans (same.trans unknown))
        · exact differs (continues.trans same)
    obtain ⟨seen, count, opening, last, enough, chain, first, newest⟩ := backed.pending valid
    rw [← sameState, ← continues] at chain
    refine ⟨sameValid.trans valid, continues.symm, count + 1, opening, ?_, ?_, ?_⟩
    · -- The counter may wrap around, which only makes it smaller.
      show (self.pendingSamples + 1) % counterRange ≤ count + 1
      rw [sameSamples]
      exact (Nat.mod_le _ _).trans (Nat.succ_le_succ enough)
    · refine .next chain speaks ?_
      obtain ⟨-, ⟨time, isTime⟩, -⟩ := accepted_times chain.last_counted.1
      show last.call.sourceTimeSec + timeEpsilonSec < event.call.sourceTimeSec
      rw [source, isTime]
      exact accepted.later seen (newest.symm.trans isTime)
    · show opening.call.sourceTimeSec = self.pendingSinceSourceTimeSec
      rw [sameSince]
      exact first
  · rw [if_neg continues]
    exact ⟨rfl, rfl, 1, event, le_rfl, .first speaks past, source⟩

end Invariant

section Frames

variable {self : HookLoadStateFilter}

theorem digest_frame (voltage sourceTimeSec : Scalar) :
    (self.digest voltage sourceTimeSec).1.config = self.config ∧
      (self.digest voltage sourceTimeSec).1.lastWallTimeSec = self.lastWallTimeSec ∧
      (self.digest voltage sourceTimeSec).1.lastSeenSourceTimeSec = self.lastSeenSourceTimeSec ∧
      (self.digest voltage sourceTimeSec).1.hasSeenSourceTime = self.hasSeenSourceTime ∧
      (self.digest voltage sourceTimeSec).1.lastSampleWallTimeSec =
        self.lastSampleWallTimeSec ∧
      (self.digest voltage sourceTimeSec).1.hasSample = self.hasSample := by
  unfold digest HookLoadStateFilter.count
  dsimp only
  split_ifs
  all_goals exact ⟨rfl, rfl, rfl, rfl, rfl, rfl⟩

variable (call : HookCall)

theorem step_config : (self.step call).1.config = self.config := by
  cases call with
  | ingest voltage sourceTimeSec wallTimeSec =>
    show (self.ingest voltage sourceTimeSec wallTimeSec).1.config = self.config
    unfold ingest
    dsimp only
    split_ifs
    all_goals first | rfl | exact (digest_frame _ _).1
  | tick wallTimeSec =>
    show (self.tick wallTimeSec).1.config = self.config
    unfold tick
    dsimp only
    split_ifs
    all_goals rfl

variable {sourceTimeSec : Scalar}

theorem count_frame {candidate : HookLoadState} :
    (self.count candidate sourceTimeSec).config = self.config ∧
      (self.count candidate sourceTimeSec).stableState = self.stableState := by
  unfold HookLoadStateFilter.count
  split_ifs
  all_goals exact ⟨rfl, rfl⟩

theorem count_other {candidate : HookLoadState} (other : candidate ≠ self.pendingState) :
    (self.count candidate sourceTimeSec).pendingSamples = 1 := by
  unfold HookLoadStateFilter.count
  rw [if_neg other]

theorem enough_of_ready (valid : self.pendingSinceValid = true)
    (ready : self.transitionReady sourceTimeSec = true) :
    self.config.confirmSamples ≤ self.pendingSamples ∧
      self.config.minimumTransitionDurationSec ≤
        sourceTimeSec - self.pendingSinceSourceTimeSec + timeEpsilonSec := by
  simp only [transitionReady, valid, if_true, Bool.and_eq_true, decide_eq_true_eq] at ready
  exact ⟨ready.1.1, ready.2⟩

theorem step_wallClock : (self.step call).1.lastWallTimeSec =
    if self.setsWallClock call then call.wallTimeSec else self.lastWallTimeSec := by
  cases call with
  | ingest voltage sourceTimeSec wallTimeSec =>
    show (self.ingest voltage sourceTimeSec wallTimeSec).1.lastWallTimeSec = _
    unfold ingest
    dsimp only
    split_ifs <;> simp_all [setsWallClock, HookCall.wallTimeSec, fail, dropped, stamp, digest_frame]
  | tick wallTimeSec =>
    show (self.tick wallTimeSec).1.lastWallTimeSec = _
    unfold tick
    dsimp only
    split_ifs <;> simp_all [setsWallClock, HookCall.wallTimeSec, fail, dropped]

theorem step_sourceClock :
    (self.step call).1.hasSeenSourceTime = (self.setsSourceClock call || self.hasSeenSourceTime) ∧
      (self.step call).1.lastSeenSourceTimeSec =
        if self.setsSourceClock call then call.sourceTimeSec else self.lastSeenSourceTimeSec := by
  cases call with
  | ingest voltage sourceTimeSec wallTimeSec =>
    show (self.ingest voltage sourceTimeSec wallTimeSec).1.hasSeenSourceTime = _ ∧
      (self.ingest voltage sourceTimeSec wallTimeSec).1.lastSeenSourceTimeSec = _
    unfold ingest
    dsimp only
    split_ifs <;>
      simp_all [setsSourceClock, HookCall.sourceTimeSec, fail, dropped, stamp, digest_frame]
  | tick wallTimeSec =>
    show (self.tick wallTimeSec).1.hasSeenSourceTime = _ ∧
      (self.tick wallTimeSec).1.lastSeenSourceTimeSec = _
    unfold tick
    dsimp only
    split_ifs <;> simp_all [setsSourceClock, fail, dropped]

def Reported (outcome : HookLoadStateFilter × HookLoadStateResult) : Prop :=
  ∃ reason, outcome.2 = outcome.1.result reason

theorem Reported.ite {condition : Prop} [Decidable condition]
    {first second : HookLoadStateFilter × HookLoadStateResult} (reported : Reported first)
    (otherwise : Reported second) : Reported (if condition then first else second) := by
  split_ifs
  · exact reported
  · exact otherwise

theorem reported_fail (base : HookLoadStateFilter) (reason : String) (voltage : Scalar) :
    Reported (base.fail reason voltage) := ⟨reason, rfl⟩

theorem step_reported : Reported (self.step call) := by
  cases call with
  | ingest voltage sourceTimeSec wallTimeSec =>
    have digested (base : HookLoadStateFilter) : Reported (base.digest voltage sourceTimeSec) :=
      .ite ⟨_, rfl⟩ (.ite ⟨_, rfl⟩ ⟨_, rfl⟩)
    -- The branches of the source, one after the other.
    exact .ite (reported_fail _ _ _) (.ite (reported_fail _ _ _) (.ite (reported_fail _ _ _)
      (.ite (reported_fail _ _ _) (.ite (reported_fail _ _ _) (.ite
        (.ite (reported_fail _ _ _) ⟨_, rfl⟩)
        (.ite (reported_fail _ _ _) (.ite (reported_fail _ _ _) (digested _))))))))
  | tick wallTimeSec =>
    exact .ite (reported_fail _ _ _) (.ite (reported_fail _ _ _) (.ite (reported_fail _ _ _)
      (.ite ⟨_, rfl⟩ (.ite (reported_fail _ _ _) ⟨_, rfl⟩))))

end Frames

section Steps

variable {config : HookLoadStateConfig} {past : List HookEvent} {event : HookEvent}

theorem Backed.waits (backed : Backed past event.before) (wallTimeSec : Scalar)
    (rejected : ¬Accepted event)
    (left : event.after = { event.before with lastWallTimeSec := wallTimeSec }) :
    Backed (event :: past) event.after := by
  rw [left]
  refine ⟨backed.unsampled, fun holds => ?_, backed.settled, fun valid => ?_⟩
  · obtain ⟨sample, newest, wall⟩ := backed.recent holds
    exact ⟨sample, newest.later rejected, wall⟩
  · obtain ⟨seen, count, opening, last, enough, chain, first, newest⟩ := backed.pending valid
    -- The pending state is one that a sample spoke for.
    have known : event.after.pendingState ≠ .unknown := by
      rw [left]
      exact chainState_known chain
    exact ⟨seen, count, opening, last, enough, .idle chain ⟨rejected, known⟩, first, newest⟩

inductive Judged (past : List HookEvent) (event : HookEvent) : Prop where
  | settles (stable : event.after.stableState = event.before.stableState)
      (pending : event.after.pendingState = event.after.stableState)
      (invalid : event.after.pendingSinceValid = false)
  | confirms (pending : event.after.pendingState = event.after.stableState)
      (invalid : event.after.pendingSinceValid = false)
      (alone : event.before.pendingState = .unknown → event.before.config.confirmSamples ≤ 1) {count : Nat} {opening : HookEvent}
      (chain : SampleChain event.after.stableState count opening event (event :: past))
      (enough : event.before.config.confirmSamples ≤ count)
      (long : event.before.config.minimumTransitionDurationSec ≤
        event.call.sourceTimeSec - opening.call.sourceTimeSec + timeEpsilonSec)
  | counts (stable : event.after.stableState = event.before.stableState) {count : Nat}
      {opening : HookEvent}
      (chain : SampleChain event.after.pendingState count opening event (event :: past))
      (enough : event.after.pendingSamples ≤ count)
      (valid : event.after.pendingSinceValid = true)
      (first : opening.call.sourceTimeSec = event.after.pendingSinceSourceTimeSec)

theorem Backed.judged (backed : Backed past event.before)
    {voltage sourceTimeSec wallTimeSec : Scalar}
    (called : event.call = .ingest voltage sourceTimeSec wallTimeSec)
    (accepted : AcceptedSample event.before voltage sourceTimeSec wallTimeSec)
    (left : event.after =
      ((event.before.stamp sourceTimeSec wallTimeSec).digest voltage sourceTimeSec).1) :
    Judged past event := by
  have verdict := @digest_verdict (event.before.stamp sourceTimeSec wallTimeSec) voltage
    sourceTimeSec
  have source : event.call.sourceTimeSec = sourceTimeSec := by
    rw [called]
    rfl
  rw [← left] at verdict
  generalize result : event.after = after at verdict
  cases verdict with
  | settles => exact .settles (by rw [result]; rfl) (by rw [result]; rfl) (by rw [result]; rfl)
  | confirms other ready =>
    obtain ⟨valid, state, count, opening, enough, chain, first⟩ :=
      @Backed.count past event ((event.before.stamp sourceTimeSec wallTimeSec).measured voltage)
        backed voltage sourceTimeSec wallTimeSec called accepted ⟨rfl, rfl, rfl, rfl⟩ other
    have stable : event.after.stableState = event.before.classify voltage := by
      rw [result]
      exact state
    rw [← stable] at chain
    obtain ⟨samples, long⟩ := enough_of_ready valid ready
    rw [count_frame.1] at samples long
    -- The duration is measured from the first sample of the chain.
    rw [← first, ← source] at long
    refine .confirms (by rw [result]; rfl) (by rw [result]; rfl) (fun nothing => ?_) chain
      (samples.trans enough) long
    -- The first sample of a state is counted as one.
    have first : event.before.classify voltage ≠
        ((event.before.stamp sourceTimeSec wallTimeSec).measured voltage).pendingState :=
      fun same => classify_known voltage (same.trans nothing)
    rw [count_other first] at samples
    exact samples
  | counts other =>
    obtain ⟨valid, state, count, opening, enough, chain, first⟩ :=
      @Backed.count past event ((event.before.stamp sourceTimeSec wallTimeSec).measured voltage)
        backed voltage sourceTimeSec wallTimeSec called accepted ⟨rfl, rfl, rfl, rfl⟩ other
    have pending : event.after.pendingState = event.before.classify voltage := by
      rw [result]
      exact state
    rw [← pending] at chain
    exact .counts (by rw [result]; exact count_frame.2) chain (by rw [result]; exact enough)
      (by rw [result]; exact valid) (by rw [result]; exact first)

theorem Backed.accepts (backed : Backed past event.before)
    {voltage sourceTimeSec wallTimeSec : Scalar}
    (called : event.call = .ingest voltage sourceTimeSec wallTimeSec)
    (accepted : AcceptedSample event.before voltage sourceTimeSec wallTimeSec)
    (left : event.after =
      ((event.before.stamp sourceTimeSec wallTimeSec).digest voltage sourceTimeSec).1) :
    Backed (event :: past) event.after := by
  obtain ⟨-, -, newestSource, seen, newestWall, sampled⟩ :=
    @digest_frame (event.before.stamp sourceTimeSec wallTimeSec) voltage sourceTimeSec
  rw [← left] at newestSource seen newestWall sampled
  have now : Accepted event := by
    show event.before.accepts event.call = true
    rw [called]
    exact accepts_iff.2 accepted
  have judged := backed.judged called accepted left
  refine ⟨fun unsampled => ?_, fun _ => ⟨event, .now now, ?_⟩, fun invalid => ?_, fun valid => ?_⟩
  · have held : event.after.hasSample = true := sampled
    rw [held] at unsampled
    cases unsampled
  · rw [newestWall, called]
    rfl
  · cases judged with
    | settles stable pending => exact .inr pending
    | confirms pending => exact .inr pending
    | counts stable chain enough valid =>
      rw [valid] at invalid
      cases invalid
  · refine ⟨seen, ?_⟩
    rw [newestSource]
    cases judged with
    | settles stable pending invalid =>
      rw [invalid] at valid
      cases valid
    | confirms pending invalid =>
      rw [invalid] at valid
      cases valid
    | counts stable chain enough valid first =>
      exact ⟨_, _, event, enough, chain, first, by rw [called]; rfl⟩

theorem event_cases (event : HookEvent) :
    (∃ base reason voltage, event.after = dropped base reason voltage) ∨
      (∃ wallTimeSec, ¬Accepted event ∧ Quiet event.before event.call ∧
        event.after = { event.before with lastWallTimeSec := wallTimeSec }) ∨
      ∃ voltage sourceTimeSec wallTimeSec,
        event.call = .ingest voltage sourceTimeSec wallTimeSec ∧
        AcceptedSample event.before voltage sourceTimeSec wallTimeSec ∧
        event.after =
          ((event.before.stamp sourceTimeSec wallTimeSec).digest voltage sourceTimeSec).1 := by
  have course := @step_course event.before event.call
  generalize left : (event.before.step event.call).1 = after at course
  generalize called : event.call = call at course
  cases course with
  | drops base reason voltage => exact .inl ⟨base, reason, voltage, left⟩
  | waits wallTimeSec rejected quiet =>
    refine .inr (.inl ⟨wallTimeSec, fun accepted => ?_, called ▸ quiet, left⟩)
    rw [Accepted, called, rejected] at accepted
    cases accepted
  | @accepts voltage sourceTimeSec wallTimeSec accepted =>
    exact .inr (.inr ⟨voltage, sourceTimeSec, wallTimeSec, rfl, accepts_iff.1 accepted, left⟩)

theorem Backed.step (backed : Backed past event.before) : Backed (event :: past) event.after := by
  rcases event_cases event with ⟨base, reason, voltage, left⟩ | ⟨wall, rejected, -, left⟩ |
    ⟨voltage, source, wall, called, accepted, left⟩
  · rw [left]
    exact .dropped base reason voltage
  · exact backed.waits wall rejected left
  · exact backed.accepts called accepted left

end Steps

section Soundness

variable {config : HookLoadStateConfig} {past : List HookEvent} {event : HookEvent}

theorem Newest.uncons {kind : HookEvent → Prop} {newest : HookEvent}
    (found : Newest kind (event :: past) newest) :
    (kind event ∧ newest = event) ∨ (¬kind event ∧ Newest kind past newest) := by
  obtain ⟨between, older, split, holds, silent⟩ := found
  -- The events after the newest one are either none or start with the most recent one.
  cases between with
  | nil =>
    obtain ⟨rfl, -⟩ := List.cons.inj split
    exact .inl ⟨holds, rfl⟩
  | cons head rest =>
    obtain ⟨rfl, rfl⟩ := List.cons.inj split
    refine .inr ⟨silent _ List.mem_cons_self, rest, older, rfl, holds, fun later member => ?_⟩
    exact silent later (List.mem_cons_of_mem _ member)

structure ClocksShow (past : List HookEvent) (filter : HookLoadStateFilter) : Prop where
  wall : ∀ newest, Newest (fun earlier => earlier.before.setsWallClock earlier.call = true)
    past newest → newest.call.wallTimeSec = filter.lastWallTimeSec
  source : ∀ newest, Newest (fun earlier => earlier.before.setsSourceClock earlier.call = true)
    past newest → filter.hasSeenSourceTime = true ∧
      newest.call.sourceTimeSec = filter.lastSeenSourceTimeSec

theorem ClocksShow.step (clocks : ClocksShow past event.before) :
    ClocksShow (event :: past) event.after := by
  refine ⟨fun newest found => ?_, fun newest found => ?_⟩
  · have shown : event.after.lastWallTimeSec = _ := step_wallClock event.call
    rw [shown]
    rcases found.uncons with ⟨sets, rfl⟩ | ⟨keeps, older⟩
    · rw [if_pos sets]
    · rw [if_neg keeps]
      exact clocks.wall newest older
  · obtain ⟨seen, shown⟩ := @step_sourceClock event.before event.call
    show (event.before.step event.call).1.hasSeenSourceTime = true ∧
      _ = (event.before.step event.call).1.lastSeenSourceTimeSec
    rw [seen, shown]
    rcases found.uncons with ⟨sets, rfl⟩ | ⟨keeps, older⟩
    · rw [if_pos sets, sets]
      exact ⟨rfl, rfl⟩
    · obtain ⟨before, same⟩ := clocks.source newest older
      rw [if_neg keeps, before, Bool.or_true]
      exact ⟨rfl, same⟩

theorem within_timeout (quiet : Quiet event.before event.call)
    (young : event.before.signalStale event.call.wallTimeSec = false) {sample : HookEvent}
    (accepted : Accepted sample)
    (newest : sample.call.wallTimeSec = event.before.lastSampleWallTimeSec) :
    event.call.wallTimeSec - sample.call.wallTimeSec < event.before.config.staleTimeoutSec := by
  obtain ⟨timeout, isTimeout, -⟩ := staleTimeout_positive quiet.configured
  obtain ⟨now, isNow⟩ := timeUsable_finite quiet.wallUsable
  obtain ⟨-, -, earlier, isEarlier⟩ := accepted_times accepted
  obtain ⟨epsilon, isEpsilon, positive⟩ := timeEpsilonSec_eq
  simp only [signalStale, ← newest, isTimeout, isNow, isEarlier, isEpsilon, Scalar.fin_sub_fin,
    Scalar.fin_add_fin, Scalar.fin_le_fin, decide_eq_false_iff_not, not_le] at young
  rw [isTimeout, isNow, isEarlier, Scalar.fin_sub_fin, Scalar.fin_lt_fin]
  linarith

theorem Backed.fresh (backed : Backed past event.before) (holds : Holds event.after) :
    ∃ sample, Newest Accepted (event :: past) sample ∧
      event.call.wallTimeSec - sample.call.wallTimeSec < event.before.config.staleTimeoutSec := by
  rcases event_cases event with ⟨base, reason, voltage, left⟩ | ⟨wall, rejected, quiet, left⟩ |
    ⟨voltage, source, wall, called, accepted, left⟩
  · -- A filter that has dropped its states holds none.
    rw [left] at holds
    rcases holds with stable | pending
    · exact absurd rfl stable
    · exact absurd rfl pending
  · rw [left] at holds
    obtain ⟨sample, newest, same⟩ := backed.recent holds
    have sampled : event.before.hasSample = true := by
      by_contra unsampled
      obtain ⟨stable, pending⟩ := backed.unsampled (by simpa using unsampled)
      rcases holds with known | known
      · exact known stable
      · exact known pending
    obtain ⟨between, older, split, accepted, silent⟩ := newest
    exact ⟨sample, .later ⟨between, older, split, accepted, silent⟩ rejected,
      within_timeout quiet (quiet.young sampled) accepted same⟩
  · -- A sample that arrives now is not late.
    have now : Accepted event := by
      show event.before.accepts event.call = true
      rw [called]
      exact accepts_iff.2 accepted
    obtain ⟨timeout, isTimeout, positive⟩ := staleTimeout_positive accepted.configured
    obtain ⟨-, -, time, isTime⟩ := accepted_times now
    refine ⟨event, .now now, ?_⟩
    rw [isTime, isTimeout, Scalar.fin_sub_fin, Scalar.fin_lt_fin, sub_self]
    exact positive

theorem Backed.confirmed (backed : Backed past event.before)
    (changed : event.after.stableState ≠ event.before.stableState)
    (known : event.after.stableState ≠ .unknown) :
    ∃ count opening, event.before.config.confirmSamples ≤ count ∧
      SampleChain event.after.stableState count opening event (event :: past) ∧
      event.before.config.minimumTransitionDurationSec ≤
        event.call.sourceTimeSec - opening.call.sourceTimeSec + timeEpsilonSec := by
  rcases event_cases event with ⟨base, reason, voltage, left⟩ | ⟨wall, rejected, quiet, left⟩ |
    ⟨voltage, source, wall, called, accepted, left⟩
  · rw [left] at known
    exact absurd rfl known
  · rw [left] at changed
    exact absurd rfl changed
  · cases backed.judged called accepted left with
    | settles stable => exact absurd stable changed
    | @confirms pending invalid alone count opening chain enough long =>
      exact ⟨count, opening, enough, chain, long⟩
    | counts stable => exact absurd stable changed

theorem Backed.wallClock (backed : Backed past event.before)
    (early : event.call.wallTimeSec + timeEpsilonSec < event.before.lastWallTimeSec) :
    event.after.stableState = .unknown ∨
      (event.before.hasSample = false ∧ Accepted event ∧
        event.before.config.confirmSamples ≤ 1) := by
  -- Only a filter without a sample lets such a call pass.
  have unsampled (kept : event.before.wallRolledBack event.call.wallTimeSec = false) :
      event.before.hasSample = false := by
    by_contra sampled
    rw [Bool.not_eq_false] at sampled
    simp [wallRolledBack, sampled, early] at kept
  rcases event_cases event with ⟨base, reason, voltage, left⟩ | ⟨wall, rejected, quiet, left⟩ |
    ⟨voltage, source, wall, called, accepted, left⟩
  · rw [left]
    exact .inl rfl
  · rw [left]
    exact .inl (backed.unsampled (unsampled quiet.wallKept)).1
  · have none := unsampled (by rw [called]; exact accepted.wallKept)
    obtain ⟨stable, pending⟩ := backed.unsampled none
    have now : Accepted event := by
      show event.before.accepts event.call = true
      rw [called]
      exact accepts_iff.2 accepted
    cases backed.judged called accepted left with
    | settles same => exact .inl (same.trans stable)
    | confirms _ _ alone => exact .inr ⟨none, now, alone pending⟩
    | counts same => exact .inl (same.trans stable)

theorem sourceClock_drops (seen : event.before.hasSeenSourceTime = true)
    (early : event.call.sourceTimeSec + timeEpsilonSec < event.before.lastSeenSourceTimeSec) :
    event.after.stableState = .unknown := by
  have rolledBack : event.before.sourceRolledBack event.call.sourceTimeSec = true := by
    simp [sourceRolledBack, seen, early]
  rcases event_cases event with ⟨base, reason, voltage, left⟩ | ⟨wall, rejected, quiet, left⟩ |
    ⟨voltage, source, wall, called, accepted, left⟩
  · rw [left]
    rfl
  · rw [quiet.sourceKept] at rolledBack
    cases rolledBack
  · rw [called] at rolledBack
    exact absurd (accepted.sourceKept.symm.trans rolledBack) (by decide)

theorem run_backed (config : HookLoadStateConfig) (calls : List HookCall) :
    ((machine config).run calls).config = config ∧
      Backed ((machine config).trace calls) ((machine config).run calls) ∧
      ClocksShow ((machine config).trace calls) ((machine config).run calls) := by
  refine @Machine.run_invariant _ _ _ (machine config)
    (fun past filter => filter.config = config ∧ Backed past filter ∧ ClocksShow past filter)
    ?_ ?_ calls
  · -- A fresh filter has nothing to show.
    have none (kind : HookEvent → Prop) (newest : HookEvent) : ¬Newest kind [] newest := by
      rintro ⟨between, older, split, -⟩
      cases between <;> cases split
    refine ⟨rfl, ⟨fun _ => ⟨rfl, rfl⟩, fun holds => ?_, fun _ => .inl rfl, fun valid => ?_⟩,
      ⟨fun newest found => (none _ _ found).elim, fun newest found => (none _ _ found).elim⟩⟩
    · rcases holds with known | known
      · exact absurd rfl known
      · exact absurd rfl known
    · cases valid
  · rintro past filter call ⟨configured, backed, clocks⟩
    exact ⟨(step_config call).trans configured, @Backed.step past ⟨filter, call⟩ backed,
      @ClocksShow.step past ⟨filter, call⟩ clocks⟩

/-- Every call of every run keeps the promises. -/
theorem hook_filter_sound (config : HookLoadStateConfig) (older : List HookCall)
    (call : HookCall) :
    FilterSound config ⟨(machine config).run older, call⟩ ((machine config).trace older) := by
  obtain ⟨configured, backed, clocks⟩ := run_backed config older
  refine ⟨?_, fun holds => ?_, fun changed known => ?_, fun newest found early => ?_,
    fun newest found early => ?_⟩
  · obtain ⟨reason, answered⟩ := @step_reported ((machine config).run older) call
    show (((machine config).run older).step call).2.state = _ ∧
      (((machine config).run older).step call).2.valid = _
    rw [answered]
    exact ⟨rfl, rfl⟩
  · simpa only [configured] using
      @Backed.fresh _ ⟨(machine config).run older, call⟩ backed holds
  · simpa only [configured] using
      @Backed.confirmed _ ⟨(machine config).run older, call⟩ backed changed known
  · rw [clocks.wall newest found] at early
    simpa only [configured] using
      @Backed.wallClock _ ⟨(machine config).run older, call⟩ backed early
  · obtain ⟨seen, shown⟩ := clocks.source newest found
    rw [shown] at early
    exact @sourceClock_drops ⟨(machine config).run older, call⟩ seen early

end Soundness

section Samples

def answerAfter (config : HookLoadStateConfig) (older : List HookCall) (call : HookCall) :
    HookLoadStateResult :=
  (((machine config).run older).step call).2

def promptConfig : HookLoadStateConfig := { confirmSamples := 1 }

def steadyConfig : HookLoadStateConfig := { minimumTransitionDurationSec := 0.5 }

/-- States are reported in spite of earlier wall times, short durations and long gaps. -/
theorem hook_filter_departs :
    -- A rolled back wall clock is followed from its new time on.
    (answerAfter promptConfig [.tick 5, .ingest 5 0 10] (.ingest 5 1 6)).valid = true ∧
    -- Half a microsecond is no rollback, of either clock, and no missing duration.
    (answerAfter promptConfig [.ingest 5 0 10] (.tick 9.9999995)).valid = true ∧
    (answerAfter promptConfig [.ingest 5 1 0] (.ingest 5 0.9999995 1)).valid = true ∧
    (answerAfter steadyConfig [.ingest 5 0 0] (.ingest 5 0.4999995 0.5)).valid = true ∧
    -- A filter that has gone stale does not compare wall times.
    (answerAfter promptConfig [.tick 20, .ingest 5 0 10] (.ingest 5 1 15)).valid = true ∧
    -- A repeated sample does not move the wall clock.
    (answerAfter promptConfig [.ingest 5 0 2, .ingest 5 0 0] (.tick 1)).valid = true ∧
    -- A new sample is counted however late it comes.
    (answerAfter {} [.ingest 5 0 0] (.ingest 5 1 100)).valid = true := by
  with_unfolding_all decide

end Samples

end HookLoadStateFilter
end NdtSlam
