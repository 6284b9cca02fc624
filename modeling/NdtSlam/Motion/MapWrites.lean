import NdtSlam.Motion.StationaryPolicy

/-! Which observations are allowed to write the maps. -/

namespace NdtSlam.StationaryMotionPolicy

section Writes

variable [EuclideanNorm] (event : Event StationaryMotionPolicy StationaryMotionInput)

def GrantsWrite : Prop :=
  (event.before.update event.call).2.allowLocalMapUpdate = true ∨
    (event.before.update event.call).2.allowPersistentMapCommit = true

omit [EuclideanNorm] in
def AcceptedStamp : Prop :=
  event.before.isFreshTimestamp event.call.stampSec = true

structure WriteJustified (older : List (Event StationaryMotionPolicy StationaryMotionInput))
    (event : Event StationaryMotionPolicy StationaryMotionInput) : Prop where
  finiteStamp : event.call.stampSec.isFinite = true
  newerStamp : ∀ earlier ∈ older, AcceptedStamp earlier →
    earlier.call.stampSec < event.call.stampSec
  reliable : isReliableMeasurement event.call = true
  moving : (event.before.update event.call).2.state = .moving
  noReleaseGuard : event.before.state ≠ .catchUp

def StaleWhileMoving : Prop :=
  (event.call.stampSec.isFinite = false ∨
      (event.before.hasLastStamp = true ∧ ¬ event.before.lastStampSec < event.call.stampSec)) ∧
    event.before.state = .moving ∧ isReliableMeasurement event.call = true

section Steps

variable {self : StationaryMotionPolicy} {input : StationaryMotionInput}

omit [EuclideanNorm] in
theorem baseDecision_writes :
    (self.baseDecision input).allowLocalMapUpdate =
        (self.state == .moving && isReliableMeasurement input) ∧
      (self.baseDecision input).allowPersistentMapCommit =
        (self.state == .moving && isReliableMeasurement input) ∧
      (self.baseDecision input).state = self.state := by
  unfold baseDecision
  cases state : self.state <;> simp

def Withheld (answer : StationaryMotionPolicy × StationaryMotionDecision) : Prop :=
  answer.2.allowLocalMapUpdate = false ∧ answer.2.allowPersistentMapCommit = false

variable {yes no : StationaryMotionPolicy × StationaryMotionDecision}

omit [EuclideanNorm] in
theorem Withheld.ite {condition : Prop} [Decidable condition] (left : Withheld yes)
    (right : Withheld no) : Withheld (if condition then yes else no) :=
  iteInduction (fun _ => left) (fun _ => right)

omit [EuclideanNorm] in
theorem withheld_of_base {after : StationaryMotionPolicy} {decision : StationaryMotionDecision}
    (idle : self.state ≠ .moving)
    (locally : decision.allowLocalMapUpdate = (self.baseDecision input).allowLocalMapUpdate)
    (persistent : decision.allowPersistentMapCommit =
      (self.baseDecision input).allowPersistentMapCommit) : Withheld (after, decision) := by
  obtain ⟨baseLocally, basePersistent, -⟩ := @baseDecision_writes self input
  constructor
  · simp [locally, baseLocally, idle]
  · simp [persistent, basePersistent, idle]

def WritesMoving (input : StationaryMotionInput)
    (answer : StationaryMotionPolicy × StationaryMotionDecision) : Prop :=
  Withheld answer ∨ (isReliableMeasurement input = true ∧ answer.2.state = .moving)

omit [EuclideanNorm] in
theorem writesMoving_base (after : StationaryMotionPolicy) (reason : String) :
    WritesMoving input (after, { after.baseDecision input with reason }) := by
  obtain ⟨locally, persistent, state⟩ := @baseDecision_writes after input
  by_cases writes : (after.state == .moving && isReliableMeasurement input) = true
  · rw [Bool.and_eq_true, beq_iff_eq] at writes
    exact .inr ⟨writes.2, state.trans writes.1⟩
  · rw [Bool.not_eq_true] at writes
    exact .inl ⟨locally.trans writes, persistent.trans writes⟩

theorem updateMoving_writes : WritesMoving input (self.updateMoving input) := by
  -- Both answers take their permissions from the state that is reached.
  unfold updateMoving
  exact iteInduction (fun _ => writesMoving_base _ _) (fun _ => writesMoving_base _ _)

theorem updateCatchUp_withheld (state : self.state = .catchUp) :
    Withheld (self.updateCatchUp input) := by
  have idle : self.state ≠ .moving := by rw [state]; decide
  have waiting := fun after decision => @withheld_of_base self input after decision idle
  exact .ite (waiting _ _ rfl rfl) (.ite ⟨rfl, rfl⟩ (waiting _ _ rfl rfl))

theorem updateHold_withheld (idle : self.state ≠ .moving) (credible : Bool) :
    Withheld (self.updateHold input credible) := by
  have windowed : (self.updateWindow input credible).state ≠ .moving := by
    rw [(@updateWindow_frame _ self input credible).1]
    exact idle
  unfold updateHold
  dsimp only
  -- The hold goes on in the same state, or a confirmation begins.
  generalize currentIs : (if ((self.updateWindow input credible).state == .stationaryHold &&
    (credible && decide (self.config.exitMinIncrementM ≤
      (self.updateWindow input credible).confirmedPathLengthM + lengthEpsilon))) = true then
    (self.updateWindow input credible).beginMovementConfirmation input.stampSec
    else self.updateWindow input credible) = current
  have steady : current.state ≠ .moving := by
    subst currentIs
    split
    · simp [beginMovementConfirmation]
    · exact windowed
  have released : ({ current with state := .catchUp, catchUpCompleteCount := 0 } :
      StationaryMotionPolicy).state ≠ .moving := by simp
  have rejected : (current.rejectMovementEvidence input).state ≠ .moving := by
    simp [rejectMovementEvidence]
  have answer := fun policy after decision => @withheld_of_base policy input after decision
  exact .ite (answer _ _ _ released rfl rfl)
    (.ite (.ite (answer _ _ _ rejected rfl rfl) (answer _ _ _ steady rfl rfl))
      (answer _ _ _ steady rfl rfl))

theorem update_fresh_writes (fresh : self.isFreshTimestamp input.stampSec = true)
    (grants : GrantsWrite ⟨self, input⟩) :
    isReliableMeasurement input = true ∧ self.state = .moving ∧
      (self.update input).2.state = .moving := by
  have recorded := (@recordObservation_frame self input).1
  have none : ∀ {answer : StationaryMotionPolicy × StationaryMotionDecision} {outcome : Prop},
      Withheld answer → (answer.2.allowLocalMapUpdate = true ∨
        answer.2.allowPersistentMapCommit = true) → outcome := by
    rintro answer outcome ⟨locally, persistent⟩ (grant | grant)
    · exact absurd (locally.symm.trans grant) (by simp)
    · exact absurd (persistent.symm.trans grant) (by simp)
  unfold GrantsWrite update at grants
  unfold update
  simp only [fresh, Bool.not_true, Bool.false_eq_true, if_false] at grants ⊢
  cases state : self.state with
  | moving =>
    rw [state] at grants
    obtain withheld | writes := @updateMoving_writes _ (self.recordObservation input) input
    · exact none withheld grants
    · exact ⟨writes.1, rfl, writes.2⟩
  | catchUp =>
    rw [state] at grants recorded
    exact none (updateCatchUp_withheld recorded) grants
  | stationaryHold =>
    rw [state] at grants recorded
    exact none (updateHold_withheld (by rw [recorded]; decide) _) grants
  | movingConfirm =>
    rw [state] at grants recorded
    exact none (updateHold_withheld (by rw [recorded]; decide) _) grants

def SameStamps (before : StationaryMotionPolicy)
    (answer : StationaryMotionPolicy × StationaryMotionDecision) : Prop :=
  answer.1.config = before.config ∧ answer.1.hasLastStamp = before.hasLastStamp ∧
    answer.1.lastStampSec = before.lastStampSec

omit [EuclideanNorm] in
theorem SameStamps.ite {condition : Prop} [Decidable condition] (left : SameStamps self yes)
    (right : SameStamps self no) : SameStamps self (if condition then yes else no) :=
  iteInduction (fun _ => left) (fun _ => right)

theorem digest_sameStamps (credible : Bool) :
    SameStamps self (self.updateMoving input) ∧ SameStamps self (self.updateCatchUp input) ∧
      SameStamps self (self.updateHold input credible) := by
  refine ⟨.ite ⟨rfl, rfl, rfl⟩ ⟨rfl, rfl, rfl⟩,
    .ite ⟨rfl, rfl, rfl⟩ (.ite ⟨rfl, rfl, rfl⟩ ⟨rfl, rfl, rfl⟩), ?_⟩
  -- The window may change before the frame is judged.
  obtain ⟨-, config, stamped, newest⟩ := @updateWindow_frame _ self input credible
  unfold updateHold
  dsimp only
  split_ifs <;> exact ⟨config, stamped, newest⟩

theorem update_stamps :
    (self.update input).1.config = self.config ∧
      (self.isFreshTimestamp input.stampSec = true →
        (self.update input).1.hasLastStamp = true ∧
          (self.update input).1.lastStampSec = input.stampSec) ∧
      (self.isFreshTimestamp input.stampSec = false → (self.update input).1 = self) := by
  obtain ⟨-, config, -, -, stamped, newest⟩ := @recordObservation_frame self input
  obtain ⟨moving, catchUp, hold⟩ := @digest_sameStamps _ (self.recordObservation input) input
    (self.physicallyPlausible input)
  have recorded : ∀ {answer}, SameStamps (self.recordObservation input) answer →
      answer.1.config = self.config ∧ answer.1.hasLastStamp = true ∧
        answer.1.lastStampSec = input.stampSec :=
    fun same => ⟨same.1.trans config, same.2.1.trans stamped, same.2.2.trans newest⟩
  by_cases fresh : self.isFreshTimestamp input.stampSec = true
  · -- Whatever the state, the recorded frame is digested.
    have digested : (self.update input).1.config = self.config ∧
        (self.update input).1.hasLastStamp = true ∧
          (self.update input).1.lastStampSec = input.stampSec := by
      unfold update
      simp only [fresh, Bool.not_true, Bool.false_eq_true, if_false]
      cases self.state with
      | moving => exact recorded moving
      | catchUp => exact recorded catchUp
      | stationaryHold => exact recorded hold
      | movingConfirm => exact recorded hold
    exact ⟨digested.1, fun _ => digested.2, fun stale => absurd (stale.symm.trans fresh) (by simp)⟩
  · simp [update, fresh]

structure Newest (config : StationaryMotionPolicyConfig)
    (past : List (Event StationaryMotionPolicy StationaryMotionInput))
    (state : StationaryMotionPolicy) : Prop where
  configured : state.config = normalizeConfig config
  finite : state.hasLastStamp = true → state.lastStampSec.isFinite = true
  bounds : ∀ earlier ∈ past, AcceptedStamp earlier →
    state.hasLastStamp = true ∧ earlier.call.stampSec ≤ state.lastStampSec
  attained : state.hasLastStamp = true →
    ∃ earlier ∈ past, AcceptedStamp earlier ∧ earlier.call.stampSec = state.lastStampSec

variable {config : StationaryMotionPolicyConfig}

omit [EuclideanNorm] in
theorem fresh_increasing {stampSec : Scalar} (configured : self.config = normalizeConfig config)
    (stamped : self.hasLastStamp = true) (finite : self.lastStampSec.isFinite = true)
    (fresh : self.isFreshTimestamp stampSec = true) : self.lastStampSec < stampSec := by
  obtain ⟨newest, newestEq⟩ := Scalar.isFinite_iff.1 finite
  simp only [isFreshTimestamp, stamped, Bool.not_true, Bool.false_or, Bool.and_eq_true,
    decide_eq_true_eq] at fresh
  obtain ⟨stampFinite, later⟩ := fresh
  obtain ⟨stamp, stampEq⟩ := Scalar.isFinite_iff.1 stampFinite
  have tolerance : self.config.timestampEpsilonSec =
      Scalar.maxOf 0 config.timestampEpsilonSec := by
    rw [configured]
    rfl
  rw [tolerance, newestEq, stampEq] at later
  rw [newestEq, stampEq, Scalar.fin_lt_fin]
  -- An infinite tolerance would admit no second stamp at all.
  obtain infinite | ⟨epsilon, nonnegative, finiteEpsilon⟩ :=
    Scalar.maxOf_zero_cases config.timestampEpsilonSec
  · rw [infinite] at later
    have unbounded : (Scalar.posInf.lt (.fin stamp)) = true := later
    exact absurd unbounded (by simp [Scalar.lt])
  · rw [finiteEpsilon, Scalar.fin_add_fin, Scalar.fin_lt_fin] at later
    linarith

omit [EuclideanNorm] in
theorem finite_of_fresh {stampSec : Scalar} (fresh : self.isFreshTimestamp stampSec = true) :
    stampSec.isFinite = true := by
  simp only [isFreshTimestamp, Bool.and_eq_true] at fresh
  exact fresh.1

theorem run_newest (config : StationaryMotionPolicyConfig) (calls : List StationaryMotionInput) :
    Newest config ((machine config).trace calls) ((machine config).run calls) := by
  apply (machine config).run_invariant
  · have unstamped : ¬ (machine config).start.hasLastStamp = true := by simp [machine, setConfig]
    exact ⟨rfl, fun stamped => absurd stamped unstamped, by simp,
      fun stamped => absurd stamped unstamped⟩
  · intro past state call newest
    obtain ⟨kept, advances, stays⟩ := @update_stamps _ state call
    by_cases fresh : state.isFreshTimestamp call.stampSec = true
    · -- The new stamp lies after the newest one, and so after all earlier ones.
      obtain ⟨stamped, latest⟩ := advances fresh
      have stampFinite := finite_of_fresh fresh
      refine ⟨kept.trans newest.configured, fun _ => latest ▸ stampFinite, ?_, ?_⟩
      · intro earlier member accepted
        refine ⟨stamped, latest ▸ ?_⟩
        rcases List.mem_cons.mp member with rfl | member
        · exact Scalar.le_refl_of_finite stampFinite
        · obtain ⟨had, bounded⟩ := newest.bounds earlier member accepted
          have later := fresh_increasing newest.configured had (newest.finite had) fresh
          exact Scalar.le_of_lt (Scalar.lt_of_le_of_lt bounded later)
      · exact fun _ => ⟨⟨state, call⟩, List.mem_cons_self .., fresh, latest.symm⟩
    · -- A stale stamp is not accepted, and the policy stays as it was.
      have same : ((machine config).step state call).1 = state := stays (by simpa using fresh)
      rw [same]
      refine ⟨newest.configured, newest.finite, ?_, ?_⟩
      · intro earlier member accepted
        rcases List.mem_cons.mp member with rfl | member
        · exact absurd accepted fresh
        · exact newest.bounds earlier member accepted
      · intro stamped
        obtain ⟨earlier, member, accepted, stamp⟩ := newest.attained stamped
        exact ⟨earlier, List.mem_cons_of_mem _ member, accepted, stamp⟩

variable {past : List (Event StationaryMotionPolicy StationaryMotionInput)}

theorem stale_not_justified (newest : Newest config past self)
    (stale : StaleWhileMoving ⟨self, input⟩) :
    GrantsWrite ⟨self, input⟩ ∧ ¬ WriteJustified past ⟨self, input⟩ := by
  obtain ⟨old, moving, reliable⟩ := stale
  dsimp only at old moving reliable
  have notFresh : self.isFreshTimestamp input.stampSec = false := by
    by_contra fresh
    rw [Bool.not_eq_false] at fresh
    rcases old with infinite | ⟨stamped, old⟩
    · exact absurd (infinite.symm.trans (finite_of_fresh fresh)) (by simp)
    · exact old (fresh_increasing newest.configured stamped (newest.finite stamped) fresh)
  refine ⟨.inl ?_, fun justified => ?_⟩
  · -- The early return takes its permissions from the state.
    have locally := (@baseDecision_writes self input).1
    simp [update, notFresh, locally, moving, reliable]
  · rcases old with infinite | ⟨stamped, old⟩
    · exact absurd (infinite.symm.trans justified.finiteStamp) (by simp)
    · obtain ⟨earlier, member, accepted, stamp⟩ := newest.attained stamped
      exact old (stamp ▸ justified.newerStamp earlier member accepted)

theorem write_justified (newest : Newest config past self) (grants : GrantsWrite ⟨self, input⟩)
    (current : ¬ StaleWhileMoving ⟨self, input⟩) : WriteJustified past ⟨self, input⟩ := by
  have granted : isReliableMeasurement input = true ∧ self.state = .moving ∧
      (self.update input).2.state = .moving := by
    by_cases fresh : self.isFreshTimestamp input.stampSec = true
    · exact update_fresh_writes fresh grants
    · -- An observation that is not accepted is answered from the state alone.
      have notFresh : self.isFreshTimestamp input.stampSec = false := by simpa using fresh
      obtain ⟨locally, persistent, state⟩ := @baseDecision_writes self input
      have writes : (self.state == .moving && isReliableMeasurement input) = true := by
        simpa [GrantsWrite, update, notFresh, locally, persistent] using grants
      rw [Bool.and_eq_true, beq_iff_eq] at writes
      exact ⟨writes.2, writes.1, by simp [update, notFresh, state, writes.1]⟩
  obtain ⟨reliable, moving, stays⟩ := granted
  have fresh : input.stampSec.isFinite = true ∧
      (self.hasLastStamp = true → self.lastStampSec < input.stampSec) := by
    constructor
    · by_contra infinite
      exact current ⟨.inl (by simpa using infinite), moving, reliable⟩
    · intro stamped
      by_contra old
      exact current ⟨.inr ⟨stamped, old⟩, moving, reliable⟩
  refine ⟨fresh.1, ?_, reliable, stays, by rw [moving]; decide⟩
  intro earlier member accepted
  obtain ⟨stamped, bounded⟩ := newest.bounds earlier member accepted
  exact Scalar.lt_of_le_of_lt bounded (fresh.2 stamped)

/-- In a run every write permission is justified exactly when no stale frame meets a moving pose. -/
theorem writes_justified_iff (config : StationaryMotionPolicyConfig)
    (calls : List StationaryMotionInput) :
    (∀ newer event older, (machine config).trace calls = newer ++ event :: older →
      GrantsWrite event → WriteJustified older event) ↔
      ∀ event ∈ (machine config).trace calls, ¬ StaleWhileMoving event := by
  -- Below every event of the trace the invariant holds of what came before.
  have newest : ∀ {newer event older}, (machine config).trace calls = newer ++ event :: older →
      Newest config older event.before := by
    intro newer event older split
    obtain ⟨earlier, rfl, before⟩ := (machine config).trace_split split
    rw [before]
    exact run_newest config earlier
  constructor
  · intro justified event member stale
    obtain ⟨newer, older, split⟩ := List.append_of_mem member
    obtain ⟨grants, unjustified⟩ := stale_not_justified (newest split) stale
    exact unjustified (justified newer event older split grants)
  · intro current newer event older split grants
    exact write_justified (newest split) grants (current event (by simp [split]))

end Steps

end Writes

def agreedObservation (stampSec position : Scalar) : StationaryMotionInput :=
  { stampSec, ndtConverged := true, ndtAccepted := true, registrationQualityValid := true
    rawPosition := ⟨position, 0⟩, filteredPosition := ⟨position, 0⟩
    rawIncrementM := 0.001, allowedPhysicalStepM := 0.25 }

/-- The frame that releases a catch-up may write the maps when it is presented again. -/
theorem repeated_release_frame_writes :
    ¬ ∀ [EuclideanNorm] (config : StationaryMotionPolicyConfig)
      (calls : List StationaryMotionInput) newer event older,
      (machine config).trace calls = newer ++ event :: older →
      GrantsWrite event → WriteJustified older event := by
  intro claimed
  -- The first frame enters the hold, three end it, and the fifth completes the catch-up.
  let config : StationaryMotionPolicyConfig := { enterConfirmFrames := 1, catchUpConfirmFrames := 1 }
  let moved : List StationaryMotionInput :=
    [agreedObservation 1.3 0.3, agreedObservation 1.2 0.2, agreedObservation 1.1 0.1,
      agreedObservation 1 0]
  let release := agreedObservation 1.4 0.3
  let event : Event StationaryMotionPolicy StationaryMotionInput :=
    ⟨(@machine axisNorm config).run (release :: moved), release⟩
  have grants : @GrantsWrite axisNorm event := .inl (by with_unfolding_all decide)
  have justified := @claimed axisNorm config (release :: release :: moved) [] event
    ((@machine axisNorm config).trace (release :: moved)) rfl grants
  -- The same stamp was accepted one call earlier, by the release guard.
  have accepted : AcceptedStamp ⟨(@machine axisNorm config).run moved, release⟩ :=
    show ((@machine axisNorm config).run moved).isFreshTimestamp 1.4 = true by
      with_unfolding_all decide
  have newer := @WriteJustified.newerStamp axisNorm _ _ justified _ (List.mem_cons_self ..) accepted
  exact absurd newer (by with_unfolding_all decide)

end NdtSlam.StationaryMotionPolicy
