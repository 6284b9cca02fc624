import NdtSlam.Motion.MapWrites

/-! A held pose moves again only through a completed catch-up, made of bounded steps. -/

namespace NdtSlam.StationaryMotionPolicy

section Steps

variable [EuclideanNorm] {self : StationaryMotionPolicy} {input : StationaryMotionInput}

def residual (config : StationaryMotionPolicyConfig) (input : StationaryMotionInput) : Scalar :=
  let length := (input.rawPosition - input.filteredPosition).norm
  Scalar.maxOf 0 (length - length.minOf config.catchUpMaxStepM)

def Completes (tolerance : Scalar) (config : StationaryMotionPolicyConfig)
    (input : StationaryMotionInput) : Prop :=
  isReliableMeasurement input = true ∧
    residual config input ≤ config.catchUpCompleteErrorM + tolerance

def steppedPosition (config : StationaryMotionPolicyConfig) (input : StationaryMotionInput) :
    Vec2 :=
  let error := input.rawPosition - input.filteredPosition
  if 1.0e-12 < error.norm then
    input.filteredPosition + error.scale (error.norm.minOf config.catchUpMaxStepM / error.norm)
  else input.filteredPosition

inductive CatchUpStep (self : StationaryMotionPolicy) (input : StationaryMotionInput)
    (answer : StationaryMotionPolicy × StationaryMotionDecision) : Prop where
  | restarted (state : answer.1.state = .catchUp) (count : answer.1.catchUpCompleteCount = 0)
      (place : isReliableMeasurement input = true →
        answer.2.constrainedPosition = steppedPosition self.config input)
  | counted (completes : Completes lengthEpsilon self.config input)
      (state : answer.1.state = .catchUp)
      (count : answer.1.catchUpCompleteCount = self.catchUpCompleteCount + 1)
      (place : answer.2.constrainedPosition = steppedPosition self.config input)
  | released (completes : Completes lengthEpsilon self.config input)
      (enough : self.config.catchUpConfirmFrames ≤ (self.catchUpCompleteCount + 1 : Nat))
      (state : answer.1.state = .moving) (decided : answer.2.state = .moving)

theorem updateCatchUp_step (state : self.state = .catchUp)
    (confirms : 1 ≤ self.config.catchUpConfirmFrames) :
    CatchUpStep self input (self.updateCatchUp input) := by
  unfold updateCatchUp
  dsimp only
  by_cases unreliable : (!isReliableMeasurement input) = true
  · rw [if_pos unreliable]
    rw [Bool.not_eq_true'] at unreliable
    exact .restarted state rfl fun reliable => by simp [unreliable] at reliable
  · rw [if_neg unreliable]
    rw [Bool.not_eq_true, Bool.not_eq_false'] at unreliable
    -- Without a step to take, the answer from the state stays at the filtered position.
    have base : (self.baseDecision input).constrainedPosition = input.filteredPosition := by
      simp [baseDecision, state]
    have place : (if (1.0e-12 : Scalar) < (input.rawPosition - input.filteredPosition).norm then
        input.filteredPosition + (input.rawPosition - input.filteredPosition).scale
          ((input.rawPosition - input.filteredPosition).norm.minOf self.config.catchUpMaxStepM /
            (input.rawPosition - input.filteredPosition).norm)
        else (self.baseDecision input).constrainedPosition) =
          steppedPosition self.config input := by
      rw [base]
      rfl
    -- The count rises or falls to zero before it is compared.
    by_cases within : residual self.config input ≤
        self.config.catchUpCompleteErrorM + lengthEpsilon
    · have within' := within
      unfold residual at within'
      simp only [if_pos within']
      by_cases enough : self.config.catchUpConfirmFrames ≤ (self.catchUpCompleteCount + 1 : Nat)
      · rw [if_pos enough]
        exact .released ⟨unreliable, within⟩ enough rfl rfl
      · rw [if_neg enough]
        exact .counted ⟨unreliable, within⟩ state rfl place
    · unfold residual at within
      simp only [if_neg within]
      have few : ¬self.config.catchUpConfirmFrames ≤ ((0 : Nat) : Int) := by omega
      rw [if_neg few]
      exact .restarted state rfl fun _ => place

inductive HoldStep (input : StationaryMotionInput)
    (answer : StationaryMotionPolicy × StationaryMotionDecision) : Prop where
  | begins (state : answer.1.state = .catchUp) (count : answer.1.catchUpCompleteCount = 0)
      (place : answer.2.constrainedPosition = input.filteredPosition)
  | stays (held : answer.1.state = .stationaryHold ∨ answer.1.state = .movingConfirm)
      (decided : answer.2.state = answer.1.state)

omit [EuclideanNorm] in
theorem HoldStep.ite {condition : Prop} [Decidable condition]
    {yes no : StationaryMotionPolicy × StationaryMotionDecision} (left : HoldStep input yes)
    (right : HoldStep input no) : HoldStep input (if condition then yes else no) :=
  iteInduction (fun _ => left) (fun _ => right)

theorem updateHold_step (held : self.state = .stationaryHold ∨ self.state = .movingConfirm)
    (credible : Bool) : HoldStep input (self.updateHold input credible) := by
  have windowed : (self.updateWindow input credible).state = self.state :=
    (@updateWindow_frame _ self input credible).1
  unfold updateHold
  dsimp only
  -- The hold goes on in the same state, or a confirmation begins.
  generalize currentIs : (if ((self.updateWindow input credible).state == .stationaryHold &&
    (credible && decide (self.config.exitMinIncrementM ≤
      (self.updateWindow input credible).confirmedPathLengthM + lengthEpsilon))) = true then
    (self.updateWindow input credible).beginMovementConfirmation input.stampSec
    else self.updateWindow input credible) = current
  have steady : current.state = .stationaryHold ∨ current.state = .movingConfirm := by
    subst currentIs
    split
    · exact .inr rfl
    · rwa [windowed]
  refine .ite (.begins rfl rfl rfl) (.ite (.ite ?_ ?_) ?_)
  · exact .stays (.inl rfl) (@baseDecision_writes (current.rejectMovementEvidence input) input).2.2
  · exact .stays steady (@baseDecision_writes current input).2.2
  · exact .stays steady (@baseDecision_writes current input).2.2

theorem updateMoving_state :
    (self.updateMoving input).1.state = .stationaryHold ∨
      (self.updateMoving input).1.state = self.state := by
  unfold updateMoving
  exact iteInduction (motive := fun answer : StationaryMotionPolicy × StationaryMotionDecision =>
    answer.1.state = .stationaryHold ∨ answer.1.state = self.state)
    (fun _ => .inl rfl) (fun _ => .inr rfl)

inductive Course (self : StationaryMotionPolicy) (input : StationaryMotionInput)
    (answer : StationaryMotionPolicy × StationaryMotionDecision) : Prop where
  | stale (stale : self.isFreshTimestamp input.stampSec = false) (kept : answer.1 = self)
      (decided : answer.2.state = self.state)
      (place : self.state = .catchUp → answer.2.constrainedPosition = input.filteredPosition)
  | moving (fresh : self.isFreshTimestamp input.stampSec = true) (before : self.state = .moving)
      (idle : answer.1.state ≠ .catchUp) (decided : answer.2.state = answer.1.state)
  | held (fresh : self.isFreshTimestamp input.stampSec = true)
      (before : self.state = .stationaryHold ∨ self.state = .movingConfirm)
      (step : HoldStep input answer)
  | catchUp (fresh : self.isFreshTimestamp input.stampSec = true)
      (before : self.state = .catchUp) (step : CatchUpStep self input answer)

theorem update_course (confirms : 1 ≤ self.config.catchUpConfirmFrames) :
    Course self input (self.update input) := by
  unfold update
  by_cases stale : (!self.isFreshTimestamp input.stampSec) = true
  · rw [if_pos stale]
    rw [Bool.not_eq_true'] at stale
    refine .stale stale rfl (@baseDecision_writes self input).2.2 fun catching => ?_
    simp [baseDecision, catching]
  · rw [if_neg stale]
    rw [Bool.not_eq_true, Bool.not_eq_false'] at stale
    -- The stamp is noted before the observation is digested in the state that it meets.
    obtain ⟨same, config, _⟩ := @recordObservation_frame self input
    cases state : self.state with
    | moving =>
      dsimp only
      have after := @updateMoving_state _ (self.recordObservation input) input
      rw [same, state] at after
      refine .moving stale state ?_ ?_
      · rcases after with held | moving
        · simp [held]
        · simp [moving]
      · unfold updateMoving
        exact iteInduction
          (motive := fun answer : StationaryMotionPolicy × StationaryMotionDecision =>
            answer.2.state = answer.1.state)
          (fun _ => baseDecision_writes.2.2) (fun _ => baseDecision_writes.2.2)
    | catchUp =>
      have step := @updateCatchUp_step _ (self.recordObservation input) input
        (same.trans state) (by rwa [config])
      have count : (self.recordObservation input).catchUpCompleteCount =
          self.catchUpCompleteCount := by
        unfold recordObservation
        dsimp only
        split_ifs
        · rfl
        · rfl
      refine .catchUp stale state ?_
      cases step with
      | restarted state count place =>
        rw [config] at place
        exact .restarted state count place
      | counted completes state raised place =>
        rw [config] at completes place
        exact .counted completes state (by rw [← count]; exact raised) place
      | released completes enough state decided =>
        rw [config] at completes enough
        exact .released completes (by rw [← count]; exact enough) state decided
    | stationaryHold =>
      exact .held stale (.inl state) (updateHold_step (.inl (same.trans state)) _)
    | movingConfirm =>
      exact .held stale (.inr state) (updateHold_step (.inr (same.trans state)) _)

end Steps

section Lengths

variable [EuclideanNorm]

structure LengthsScale : Prop where
  nonnegative : ∀ step : Vec2, step.allFinite = true → ∃ length : ℚ, 0 ≤ length ∧
    step.norm = .fin length
  scales : ∀ step : Vec2, step.allFinite = true → ∀ share : ℚ, 0 ≤ share →
    (step.scale (.fin share)).norm = .fin share * step.norm

/-- The position lies on the way from the filtered to the raw position, within a length of the
filtered one. -/
def WithinStep (limit : Scalar) (input : StationaryMotionInput) (position : Vec2) : Prop :=
  ∃ share : ℚ, 0 ≤ share ∧ share ≤ 1 ∧
    position = input.filteredPosition +
      (input.rawPosition - input.filteredPosition).scale (.fin share) ∧
    (position - input.filteredPosition).norm ≤ limit

variable {self : StationaryMotionPolicy} {input : StationaryMotionInput}

omit [EuclideanNorm] in
theorem reliable_finite (reliable : isReliableMeasurement input = true) :
    ∃ x y filteredX filteredY : ℚ, input.rawPosition = ⟨.fin x, .fin y⟩ ∧
      input.filteredPosition = ⟨.fin filteredX, .fin filteredY⟩ := by
  simp only [isReliableMeasurement, Vec2.allFinite, Bool.and_eq_true] at reliable
  obtain ⟨⟨⟨⟨⟨⟨⟨_, rawX, rawY⟩, filteredX, filteredY⟩, _⟩, _⟩, _⟩, _⟩, _⟩ := reliable
  obtain ⟨x, xEq⟩ := Scalar.isFinite_iff.1 rawX
  obtain ⟨y, yEq⟩ := Scalar.isFinite_iff.1 rawY
  obtain ⟨x', xEq'⟩ := Scalar.isFinite_iff.1 filteredX
  obtain ⟨y', yEq'⟩ := Scalar.isFinite_iff.1 filteredY
  refine ⟨x, y, x', y', ?_, ?_⟩
  · rw [← xEq, ← yEq]
  · rw [← xEq', ← yEq']

theorem withinStep_share (lengths : LengthsScale) (reliable : isReliableMeasurement input = true)
    {length share : ℚ} {limit : Scalar} (nonnegative : 0 ≤ share) (part : share ≤ 1)
    (way : (input.rawPosition - input.filteredPosition).norm = .fin length)
    (bounded : .fin (share * length) ≤ limit) :
    WithinStep limit input (input.filteredPosition +
      (input.rawPosition - input.filteredPosition).scale (.fin share)) := by
  obtain ⟨x, y, x', y', raw, filtered⟩ := reliable_finite reliable
  refine ⟨share, nonnegative, part, rfl, ?_⟩
  -- Back from the position to the filtered one is the same share of the way.
  have back : input.filteredPosition +
        (input.rawPosition - input.filteredPosition).scale (.fin share) -
      input.filteredPosition = (input.rawPosition - input.filteredPosition).scale (.fin share) := by
    rw [raw, filtered]
    show Vec2.mk (.fin x' + (.fin x - .fin x') * .fin share - .fin x')
      (.fin y' + (.fin y - .fin y') * .fin share - .fin y') =
        ⟨(.fin x - .fin x') * .fin share, (.fin y - .fin y') * .fin share⟩
    simp
  have finite : (input.rawPosition - input.filteredPosition).allFinite = true := by
    rw [raw, filtered]
    rfl
  rw [back, lengths.scales _ finite share nonnegative, way, Scalar.fin_mul_fin]
  exact bounded

omit [EuclideanNorm] in
theorem maxStep_positive (config : StationaryMotionPolicyConfig) :
    (normalizeConfig config).catchUpMaxStepM = .posInf ∨
      ∃ limit : ℚ, 0 < limit ∧ (normalizeConfig config).catchUpMaxStepM = .fin limit := by
  show Scalar.maxOf 1.0e-6 config.catchUpMaxStepM = _ ∨ ∃ limit : ℚ, _ ∧
    Scalar.maxOf 1.0e-6 config.catchUpMaxStepM = _
  have least : (1.0e-6 : Scalar) = .fin (1 / 1000000) := by
    show Scalar.fin (OfScientific.ofScientific 10 true 7) = _
    norm_num
  rw [least]
  unfold Scalar.maxOf
  split_ifs with larger
  · cases value : config.catchUpMaxStepM with
    | fin limit =>
      rw [value, Scalar.fin_lt_fin] at larger
      exact .inr ⟨limit, by linarith, rfl⟩
    | posInf => exact .inl rfl
    | negInf =>
      rw [value] at larger
      cases larger
    | nan =>
      rw [value] at larger
      cases larger
  · exact .inr ⟨1 / 1000000, by norm_num, rfl⟩

theorem withinStep_rest (lengths : LengthsScale) (reliable : isReliableMeasurement input = true)
    {limit : Scalar} (positive : limit = .posInf ∨ ∃ bound : ℚ, 0 < bound ∧ limit = .fin bound) :
    WithinStep limit input input.filteredPosition := by
  obtain ⟨x, y, x', y', raw, filtered⟩ := reliable_finite reliable
  have finite : (input.rawPosition - input.filteredPosition).allFinite = true := by
    rw [raw, filtered]
    rfl
  obtain ⟨length, _, way⟩ := lengths.nonnegative _ finite
  -- It is no share of the way at all.
  have rest : input.filteredPosition +
      (input.rawPosition - input.filteredPosition).scale (.fin 0) = input.filteredPosition := by
    rw [raw, filtered]
    show Vec2.mk (.fin x' + (.fin x - .fin x') * .fin 0) (.fin y' + (.fin y - .fin y') * .fin 0) =
      ⟨.fin x', .fin y'⟩
    simp
  have bounded : Scalar.fin (0 * length) ≤ limit := by
    rw [zero_mul]
    rcases positive with rfl | ⟨bound, positive, rfl⟩
    · rfl
    · exact Scalar.fin_le_fin.2 positive.le
  have within := withinStep_share lengths reliable le_rfl zero_le_one way bounded
  rwa [rest] at within

variable {config : StationaryMotionPolicyConfig}

theorem steppedPosition_within (lengths : LengthsScale)
    (reliable : isReliableMeasurement input = true)
    (positive : config.catchUpMaxStepM = .posInf ∨
      ∃ bound : ℚ, 0 < bound ∧ config.catchUpMaxStepM = .fin bound) :
    WithinStep config.catchUpMaxStepM input (steppedPosition config input) := by
  obtain ⟨x, y, x', y', raw, filtered⟩ := reliable_finite reliable
  have finite : (input.rawPosition - input.filteredPosition).allFinite = true := by
    rw [raw, filtered]
    rfl
  obtain ⟨length, _, way⟩ := lengths.nonnegative _ finite
  have tiny : (1.0e-12 : Scalar) = .fin (1 / 1000000000000) := by
    show Scalar.fin (OfScientific.ofScientific 10 true 13) = _
    norm_num
  unfold steppedPosition
  dsimp only
  rw [way, tiny]
  split_ifs with apart
  · have far : (0 : ℚ) < length := by
      rw [Scalar.fin_lt_fin] at apart
      linarith
    -- The step is the whole way or the longest one, and in both cases a share of the way.
    obtain ⟨step, notNegative, short, bounded, stepEq⟩ : ∃ step : ℚ, 0 ≤ step ∧ step ≤ length ∧
        .fin step ≤ config.catchUpMaxStepM ∧
        (Scalar.fin length).minOf config.catchUpMaxStepM = .fin step := by
      rcases positive with infinite | ⟨bound, positive, bounded⟩
      · rw [infinite]
        exact ⟨length, far.le, le_rfl, rfl, rfl⟩
      · rw [bounded, Scalar.minOf_fin_fin]
        exact ⟨min length bound, le_min far.le positive.le, min_le_left _ _,
          Scalar.fin_le_fin.2 (min_le_right _ _), rfl⟩
    have share : Scalar.fin step / .fin length = .fin (step / length) := by
      show (Scalar.fin step).div (.fin length) = _
      rw [Scalar.div, if_neg far.ne']
    rw [stepEq, share]
    refine withinStep_share lengths reliable (div_nonneg notNegative far.le)
      ((div_le_one far).mpr short) way ?_
    rw [div_mul_cancel₀ _ far.ne']
    exact bounded
  · exact withinStep_rest lengths reliable positive

theorem update_withinStep (lengths : LengthsScale)
    (configured : self.config = normalizeConfig config)
    (reliable : isReliableMeasurement input = true)
    (catching : (self.update input).2.state = .catchUp) :
    WithinStep self.config.catchUpMaxStepM input (self.update input).2.constrainedPosition := by
  have confirms : 1 ≤ self.config.catchUpConfirmFrames := by
    rw [configured]
    exact le_max_left _ _
  have limit := maxStep_positive config
  rw [← configured] at limit
  -- In most of the courses the pose catches up in place.
  cases @update_course _ self input confirms with
  | stale stale kept decided place =>
    rw [place (decided.symm.trans catching)]
    exact withinStep_rest lengths reliable limit
  | moving fresh before idle decided => exact absurd (decided.symm.trans catching) idle
  | held fresh before step =>
    cases step with
    | begins state count place =>
      rw [place]
      exact withinStep_rest lengths reliable limit
    | stays held decided =>
      rw [decided] at catching
      rw [catching] at held
      rcases held with hold | confirm
      · cases hold
      · cases confirm
  | catchUp fresh before step =>
    cases step with
    | restarted state count place =>
      rw [place reliable]
      exact steppedPosition_within lengths reliable limit
    | counted completes state count place =>
      rw [place]
      exact steppedPosition_within lengths reliable limit
    | released completes enough state decided =>
      rw [decided] at catching
      cases catching

end Lengths

section Runs

variable [EuclideanNorm]

def CompletesStep (tolerance : Scalar)
    (event : Event StationaryMotionPolicy StationaryMotionInput) : Prop :=
  event.before.state = .catchUp ∧ AcceptedStamp event ∧
    Completes tolerance event.before.config event.call

variable (event : Event StationaryMotionPolicy StationaryMotionInput)

omit [EuclideanNorm] in
def Stale : Prop :=
  ¬AcceptedStamp event

omit [EuclideanNorm] in
def Later (earlier later : Event StationaryMotionPolicy StationaryMotionInput) : Prop :=
  earlier.call.stampSec < later.call.stampSec

abbrev CompletedSteps (tolerance : Scalar) :=
  EvidenceChain (CompletesStep tolerance) Stale Later

def Returns : Prop :=
  event.before.state ≠ .moving ∧ (event.before.update event.call).1.state = .moving

def Counted (past : List (Event StationaryMotionPolicy StationaryMotionInput))
    (state : StationaryMotionPolicy) : Prop :=
  state.state = .catchUp → 0 < state.catchUpCompleteCount → ∃ opening last,
    last.call.stampSec = state.lastStampSec ∧
      CompletedSteps lengthEpsilon state.catchUpCompleteCount opening last past

variable {config : StationaryMotionPolicyConfig} {self : StationaryMotionPolicy}
  {input : StationaryMotionInput}
  {past : List (Event StationaryMotionPolicy StationaryMotionInput)}

theorem Counted.prolong (counted : Counted past self) (newest : Newest config past self)
    (fresh : self.isFreshTimestamp input.stampSec = true) (catching : self.state = .catchUp)
    (completes : Completes lengthEpsilon self.config input) :
    ∃ opening, CompletedSteps lengthEpsilon (self.catchUpCompleteCount + 1) opening ⟨self, input⟩
      (⟨self, input⟩ :: past) := by
  have counts : CompletesStep lengthEpsilon ⟨self, input⟩ := ⟨catching, fresh, completes⟩
  rcases Nat.eq_zero_or_pos self.catchUpCompleteCount with none | some
  · -- The step is the first one that is counted.
    rw [none]
    exact ⟨_, .first counts past⟩
  · obtain ⟨opening, last, stamp, chain⟩ := counted catching some
    refine ⟨opening, .next chain counts ?_⟩
    -- The last counted stamp is the newest one, before which no fresh stamp lies.
    have stamped := (newest.bounds last chain.ends_in_past.2 chain.last_counted.2.1).1
    show last.call.stampSec < input.stampSec
    rw [stamp]
    exact fresh_increasing newest.configured stamped (newest.finite stamped) fresh

omit [EuclideanNorm] in
theorem Newest.confirms (newest : Newest config past self) :
    1 ≤ self.config.catchUpConfirmFrames := by
  rw [newest.configured]
  exact le_max_left _ _

theorem Counted.step (counted : Counted past self) (newest : Newest config past self) :
    Counted (⟨self, input⟩ :: past) (self.update input).1 := by
  intro catching positive
  cases @update_course _ self input newest.confirms with
  | stale stale kept =>
    -- A stale observation is one between two counted steps.
    rw [kept] at catching positive ⊢
    obtain ⟨opening, last, stamp, chain⟩ := counted catching positive
    have ignored : Stale ⟨self, input⟩ := by
      intro accepted
      cases stale.symm.trans accepted
    exact ⟨opening, last, stamp, .idle chain ignored⟩
  | moving fresh before idle decided => exact absurd catching idle
  | held fresh before step =>
    cases step with
    | begins state count place =>
      rw [count] at positive
      cases positive
    | stays held decided =>
      rw [catching] at held
      rcases held with hold | confirm
      · cases hold
      · cases confirm
  | catchUp fresh before step =>
    cases step with
    | restarted state count =>
      rw [count] at positive
      cases positive
    | counted completes state count =>
      obtain ⟨opening, chain⟩ := counted.prolong newest fresh before completes
      rw [count]
      exact ⟨opening, _, (update_stamps.2.1 fresh).2.symm, chain⟩
    | released completes enough state decided =>
      rw [state] at catching
      cases catching

theorem run_counted (config : StationaryMotionPolicyConfig)
    (calls : List StationaryMotionInput) :
    Counted ((machine config).trace calls) ((machine config).run calls) := by
  induction calls with
  | nil =>
    -- A new policy does not catch up.
    intro catching
    cases catching
  | cons call older ih => exact ih.step (run_newest config older)

theorem Counted.returns (counted : Counted past self) (newest : Newest config past self)
    (returns : Returns ⟨self, input⟩) : self.state = .catchUp ∧ ∃ (count : Nat) (opening : _),
      (normalizeConfig config).catchUpConfirmFrames ≤ (count : Int) ∧
        CompletedSteps lengthEpsilon count opening ⟨self, input⟩ (⟨self, input⟩ :: past) := by
  obtain ⟨still, moving⟩ := returns
  dsimp only at still moving
  cases @update_course _ self input newest.confirms with
  | stale stale kept =>
    rw [kept] at moving
    exact absurd moving still
  | moving fresh before idle decided => exact absurd before still
  | held fresh before step =>
    -- A held pose stays held or begins to catch up.
    cases step with
    | begins state count place =>
      rw [state] at moving
      cases moving
    | stays held decided =>
      rw [moving] at held
      rcases held with hold | confirm
      · cases hold
      · cases confirm
  | catchUp fresh before step =>
    cases step with
    | restarted state count =>
      rw [state] at moving
      cases moving
    | counted completes state count =>
      rw [state] at moving
      cases moving
    | released completes enough state decided =>
      obtain ⟨opening, chain⟩ := counted.prolong newest fresh before completes
      rw [newest.configured] at enough
      exact ⟨before, _, opening, enough, chain⟩

theorem grantsWrite_moving (grants : GrantsWrite ⟨self, input⟩) : self.state = .moving := by
  by_cases fresh : self.isFreshTimestamp input.stampSec = true
  · exact (update_fresh_writes fresh grants).2.1
  · -- A stale observation is answered from the state alone.
    rw [Bool.not_eq_true] at fresh
    obtain ⟨locally, persistent, _⟩ := @baseDecision_writes self input
    have writes : (self.state == .moving && isReliableMeasurement input) = true := by
      simpa [GrantsWrite, update, fresh, locally, persistent] using grants
    rw [Bool.and_eq_true, beq_iff_eq] at writes
    exact writes.1

theorem moving_after_return {calls : List StationaryMotionInput}
    {middle older : List (Event StationaryMotionPolicy StationaryMotionInput)}
    {entry : Event StationaryMotionPolicy StationaryMotionInput}
    (split : (machine config).trace calls = middle ++ entry :: older)
    (rests : (entry.before.update entry.call).1.state ≠ .moving)
    (moves : ((machine config).run calls).state = .moving) : ∃ event ∈ middle, Returns event := by
  -- Either the most recent event is the return, or the pose moved before it.
  induction middle generalizing calls with
  | nil =>
    cases calls with
    | nil => cases split
    | cons call earlier =>
      obtain ⟨rfl, _⟩ := List.cons.inj split
      exact absurd moves rests
  | cons head rest ih =>
    cases calls with
    | nil => cases split
    | cons call earlier =>
      obtain ⟨rfl, split'⟩ := List.cons.inj split
      by_cases moved : ((machine config).run earlier).state = .moving
      · obtain ⟨event, member, returns⟩ := ih split' moved
        exact ⟨event, List.mem_cons_of_mem _ member, returns⟩
      · exact ⟨_, List.mem_cons_self, moved, moves⟩

/-- A held pose moves again only after a completed catch-up, made of bounded steps. -/
theorem catch_up_disciplined (lengths : LengthsScale) (config : StationaryMotionPolicyConfig)
    (calls : List StationaryMotionInput) :
    (∀ newer event older, (machine config).trace calls = newer ++ event :: older →
        Returns event → event.before.state = .catchUp ∧ ∃ (count : Nat) (opening : _),
          (normalizeConfig config).catchUpConfirmFrames ≤ (count : Int) ∧
            CompletedSteps lengthEpsilon count opening event (event :: older)) ∧
      (∀ event ∈ (machine config).trace calls, isReliableMeasurement event.call = true →
        (event.before.update event.call).2.state = .catchUp →
          WithinStep (normalizeConfig config).catchUpMaxStepM event.call
            (event.before.update event.call).2.constrainedPosition) ∧
      ∀ newer event middle entry older,
        (machine config).trace calls = newer ++ event :: (middle ++ entry :: older) →
        (entry.before.update entry.call).1.state = .stationaryHold → GrantsWrite event →
          ∃ release ∈ middle, release.before.state = .catchUp ∧ Returns release := by
  -- Every event of the trace is received by the state that the earlier calls have led to.
  have returned : ∀ newer event older, (machine config).trace calls = newer ++ event :: older →
      Returns event → event.before.state = .catchUp ∧ ∃ (count : Nat) (opening : _),
        (normalizeConfig config).catchUpConfirmFrames ≤ (count : Int) ∧
          CompletedSteps lengthEpsilon count opening event (event :: older) := by
    intro newer event older split returns
    obtain ⟨earlier, rfl, before⟩ := (machine config).trace_split split
    obtain ⟨self, input⟩ := event
    dsimp only at before
    subst before
    exact (run_counted config earlier).returns (run_newest config earlier) returns
  refine ⟨returned, ?_, ?_⟩
  · intro event member reliable catching
    obtain ⟨newer, older, split⟩ := List.append_of_mem member
    obtain ⟨earlier, _, before⟩ := (machine config).trace_split split
    have configured : event.before.config = normalizeConfig config := by
      rw [before]
      exact (run_newest config earlier).configured
    have within := update_withinStep lengths configured reliable catching
    rwa [configured] at within
  · intro newer event middle entry older split held grants
    obtain ⟨earlier, past, before⟩ := (machine config).trace_split split
    have moves : ((machine config).run earlier).state = .moving := by
      rw [← before]
      exact grantsWrite_moving grants
    have rests : (entry.before.update entry.call).1.state ≠ .moving := by
      rw [held]
      nofun
    obtain ⟨release, among, returns⟩ := moving_after_return past.symm rests moves
    -- The return is an event of the trace as well.
    obtain ⟨later, before', inside⟩ := List.append_of_mem among
    have split' : (machine config).trace calls =
        (newer ++ event :: later) ++ release :: (before' ++ entry :: older) := by
      rw [split, inside]
      simp
    exact ⟨release, among, (returned _ release _ split' returns).1, returns⟩

end Runs

def movedFrames : List StationaryMotionInput :=
  [agreedObservation 1.3 0.3, agreedObservation 1.2 0.2, agreedObservation 1.1 0.1,
    agreedObservation 1 0]

theorem catch_up_disciplined_agreed :
    ∃ (count : Nat) (opening : _), 1 ≤ (count : Int) ∧
      @CompletedSteps axisNorm lengthEpsilon count opening
        ⟨(@machine axisNorm { enterConfirmFrames := 1, catchUpConfirmFrames := 1 }).run
          movedFrames, agreedObservation 1.4 0.3⟩
        ((@machine axisNorm { enterConfirmFrames := 1, catchUpConfirmFrames := 1 }).trace
          (agreedObservation 1.4 0.3 :: movedFrames)) := by
  have lengths : @LengthsScale axisNorm := by
    refine @LengthsScale.mk axisNorm ?_ ?_
    · intro step finite
      rw [Vec2.allFinite, Bool.and_eq_true] at finite
      obtain ⟨x, xEq⟩ := Scalar.isFinite_iff.1 finite.1
      obtain ⟨y, yEq⟩ := Scalar.isFinite_iff.1 finite.2
      refine ⟨|x| + |y|, by positivity, ?_⟩
      show step.x.abs + step.y.abs = _
      rw [xEq, yEq]
      rfl
    · intro step finite share nonnegative
      rw [Vec2.allFinite, Bool.and_eq_true] at finite
      obtain ⟨x, xEq⟩ := Scalar.isFinite_iff.1 finite.1
      obtain ⟨y, yEq⟩ := Scalar.isFinite_iff.1 finite.2
      show (step.x * .fin share).abs + (step.y * .fin share).abs =
        .fin share * (step.x.abs + step.y.abs)
      rw [xEq, yEq]
      show Scalar.fin (|x * share| + |y * share|) = .fin (share * (|x| + |y|))
      rw [abs_mul, abs_mul, abs_of_nonneg nonnegative]
      ring_nf
  have returns : @Returns axisNorm
      ⟨(@machine axisNorm { enterConfirmFrames := 1, catchUpConfirmFrames := 1 }).run movedFrames,
        agreedObservation 1.4 0.3⟩ := by
    constructor
    · with_unfolding_all decide
    · with_unfolding_all decide
  exact ((@catch_up_disciplined axisNorm lengths
    { enterConfirmFrames := 1, catchUpConfirmFrames := 1 }
    (agreedObservation 1.4 0.3 :: movedFrames)).1 [] _ _ rfl returns).2

theorem catch_up_slack :
    ¬ ∀ [EuclideanNorm] (config : StationaryMotionPolicyConfig)
      (calls : List StationaryMotionInput) newer event older,
      (machine config).trace calls = newer ++ event :: older → Returns event →
      ∃ (count : Nat) (opening : _), (normalizeConfig config).catchUpConfirmFrames ≤ (count : Int) ∧
        CompletedSteps 0 count opening event (event :: older) := by
  intro claimed
  let config : StationaryMotionPolicyConfig :=
    { enterConfirmFrames := 1, catchUpConfirmFrames := 1, catchUpCompleteErrorM := 0 }
  -- The raw position lies half a nanometre beyond the longest step.
  let ahead : StationaryMotionInput :=
    { agreedObservation 1.4 0.3 with rawPosition := ⟨0.3800000005, 0⟩ }
  have returns : @Returns axisNorm ⟨(@machine axisNorm config).run movedFrames, ahead⟩ := by
    constructor
    · with_unfolding_all decide
    · with_unfolding_all decide
  obtain ⟨count, opening, _, chain⟩ := @claimed axisNorm config (ahead :: movedFrames) [] _ _ rfl
    returns
  have short : @residual axisNorm ((@machine axisNorm config).run movedFrames).config ahead ≤
      ((@machine axisNorm config).run movedFrames).config.catchUpCompleteErrorM + 0 :=
    (@EvidenceChain.last_counted _ _ _ _ _ _ _ _ chain).2.2.2
  exact absurd short (by with_unfolding_all decide)

end NdtSlam.StationaryMotionPolicy
