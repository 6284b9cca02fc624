import NdtSlam.Safety.TemporalFilter

/-! Every published code is backed by an unbroken window of accepted frames. -/

namespace NdtSlam.CargoSafetyTemporalFilter

structure AcceptedFrame (config : CargoSafetyTemporalConfig) (code : Nat)
    (identity : PoseAuthorityIdentity) (filter : CargoSafetyTemporalFilter)
    (input : CargoSafetyTemporalInput) : Prop where
  usable : invalidRaw input = false
  authorized : authorityMismatch input = false
  advanced : filter.rolledBack input = true ∨ filter.repeatedStamp input = false
  sameCode : input.rawCode = code
  cargoIdentity : input.cargoPoseAuthority.poseIdentity = identity
  obstacleIdentity : input.obstaclePoseAuthority.poseIdentity = identity
  robust : isHazard code = true → robustHazard config input = true

structure FrameContinues [EuclideanNorm] (tolerance : Scalar) (config : CargoSafetyTemporalConfig)
    (code : Nat) (earlier later : CargoSafetyTemporalInput) : Prop where
  increasing : earlier.stampSec < later.stampSec
  gap : later.stampSec - earlier.stampSec ≤ config.maximumEvidenceGapSec + tolerance
  centroidStep : isHazard code = true →
    (later.clusterCentroid - earlier.clusterCentroid).norm ≤ config.maximumCentroidStepM
  distanceStep : isHazard code = true →
    (later.footprintDistanceM - earlier.footprintDistanceM).abs ≤ config.maximumDistanceStepM
  clearanceStep : isHazard code = true →
    (later.conservativeClearanceM - earlier.conservativeClearanceM).abs ≤
      config.maximumClearanceStepM

def Accepted (config : CargoSafetyTemporalConfig) (code : Nat) (identity : PoseAuthorityIdentity)
    (event : Event CargoSafetyTemporalFilter Call) : Prop :=
  ∃ input, event.call = .update input ∧ AcceptedFrame config code identity event.before input

def Continues [EuclideanNorm] (tolerance : Scalar) (config : CargoSafetyTemporalConfig)
    (code : Nat) (earlier later : Event CargoSafetyTemporalFilter Call) : Prop :=
  ∃ first second, earlier.call = .update first ∧ later.call = .update second ∧
    FrameContinues tolerance config code first second

def Ignored (event : Event CargoSafetyTemporalFilter Call) : Prop :=
  ∃ input, event.call = .update input ∧ invalidRaw input = false ∧
    authorityMismatch input = false ∧ event.before.rolledBack input = false ∧
    event.before.repeatedStamp input = true

abbrev Window [EuclideanNorm] (tolerance : Scalar) (config : CargoSafetyTemporalConfig)
    (code : Nat) (identity : PoseAuthorityIdentity) :=
  EvidenceChain (Accepted config code identity) Ignored (Continues tolerance config code)

structure Remembers (filter : CargoSafetyTemporalFilter) (identity : PoseAuthorityIdentity)
    (input : CargoSafetyTemporalInput) : Prop where
  stamped : filter.hasSourceStamp = true
  newest : filter.lastSourceStampSec = input.stampSec
  stamp : filter.candidateStampSec = input.stampSec
  cargo : filter.candidateCargoPoseAuthority.poseIdentity = identity
  centroid : isHazard filter.candidateCode = true →
    filter.candidateCentroid = input.clusterCentroid
  distance : isHazard filter.candidateCode = true →
    filter.candidateDistanceM = input.footprintDistanceM
  clearance : isHazard filter.candidateCode = true →
    filter.candidateClearanceM = input.conservativeClearanceM

structure Backed [EuclideanNorm] (config : CargoSafetyTemporalConfig)
    (past : List (Event CargoSafetyTemporalFilter Call)) (filter : CargoSafetyTemporalFilter) :
    Prop where
  configured : filter.config = config
  finiteStamp : filter.hasSourceStamp = true → filter.lastSourceStampSec.isFinite = true
  window : filter.candidateValid = true → ∃ identity opening earlier input,
    Window stampEpsilonSec config filter.candidateCode identity filter.candidateCount opening
      ⟨earlier, .update input⟩ past ∧ Remembers filter identity input

section Facts

variable {config : CargoSafetyTemporalConfig} {self original : CargoSafetyTemporalFilter}
  {input : CargoSafetyTemporalInput} {past : List (Event CargoSafetyTemporalFilter Call)}

theorem stampEpsilonSec_eq : stampEpsilonSec = .fin (1 / 10000) := by
  show Scalar.fin (OfScientific.ofScientific 10 true 5) = _
  norm_num

theorem finite_of_usable (usable : invalidRaw input = false) : input.stampSec.isFinite = true := by
  -- Finiteness is one of the four conditions a usable frame meets.
  simp only [invalidRaw, Bool.or_eq_false_iff, Bool.not_eq_false'] at usable
  exact usable.1.1.2

theorem protocol_of_usable (usable : invalidRaw input = false) :
    isProtocolCode input.rawCode = true := by
  simp only [invalidRaw, Bool.or_eq_false_iff, Bool.not_eq_false'] at usable
  exact usable.2

theorem identity_of_authorized (authorized : authorityMismatch input = false) :
    input.obstaclePoseAuthority.poseIdentity = input.cargoPoseAuthority.poseIdentity := by
  -- The two authorities were compared with each other.
  simp only [authorityMismatch, Bool.or_eq_false_iff, Bool.not_eq_false'] at authorized
  exact (sameTemporalEvidenceAuthority_iff.1 authorized.2).2.2.symm

theorem increasing_of_fresh (stamped : self.hasSourceStamp = true)
    (finite : self.lastSourceStampSec.isFinite = true) (usable : invalidRaw input = false)
    (fresh : self.repeatedStamp input = false) : self.lastSourceStampSec < input.stampSec := by
  -- Both stamps are rationals, so the failed comparison is a strict one the other way.
  obtain ⟨newest, newestEq⟩ := Scalar.isFinite_iff.1 finite
  obtain ⟨stamp, stampEq⟩ := Scalar.isFinite_iff.1 (finite_of_usable usable)
  simp only [repeatedStamp, stamped, Bool.true_and, decide_eq_false_iff_not, newestEq, stampEq,
    stampEpsilonSec_eq, Scalar.fin_add_fin, Scalar.fin_le_fin, not_le] at fresh
  rw [newestEq, stampEq, Scalar.fin_lt_fin]
  linarith

theorem robust_of_kept (kept : (isHazard input.rawCode && !robustHazard config input) = false)
    (hazard : isHazard input.rawCode = true) : robustHazard config input = true := by
  simpa [hazard] using kept

theorem of_continuous [EuclideanNorm] (continuous : self.continuous input = true) :
    self.candidateValid = true ∧ self.candidateCode = input.rawCode ∧
      self.candidateCargoPoseAuthority.poseIdentity = input.cargoPoseAuthority.poseIdentity ∧
      input.stampSec - self.candidateStampSec ≤
        self.config.maximumEvidenceGapSec + stampEpsilonSec ∧
      (isHazard input.rawCode = true → self.spatiallyContinuous input = true) := by
  -- Read the conjunction of the two continuity tests off.
  simp only [CargoSafetyTemporalFilter.continuous, gapContinuous, sameCandidate,
    Bool.and_eq_true, beq_iff_eq, decide_eq_true_eq, Bool.or_eq_true, Bool.not_eq_true'] at continuous
  obtain ⟨⟨⟨⟨⟨running, code⟩, cargo⟩, obstacle⟩, gap⟩, spatial⟩ := continuous
  refine ⟨running, code, (sameTemporalEvidenceAuthority_iff.1 cargo).2.2, gap, ?_⟩
  intro hazard
  simpa [hazard] using spatial

theorem frameContinues [EuclideanNorm] {identity : PoseAuthorityIdentity}
    {remembered : CargoSafetyTemporalInput} (configured : self.config = config)
    (remembers : Remembers self identity remembered) (continuous : self.continuous input = true)
    (increasing : self.lastSourceStampSec < input.stampSec) :
    FrameContinues stampEpsilonSec config self.candidateCode remembered input := by
  obtain ⟨-, sameCode, -, gap, spatial⟩ := of_continuous continuous
  -- The three steps are measured from the candidate record, which is the remembered frame.
  have steps : isHazard self.candidateCode = true →
      (input.clusterCentroid - remembered.clusterCentroid).norm ≤ config.maximumCentroidStepM ∧
      (input.footprintDistanceM - remembered.footprintDistanceM).abs ≤
        config.maximumDistanceStepM ∧
      (input.conservativeClearanceM - remembered.conservativeClearanceM).abs ≤
        config.maximumClearanceStepM := by
    intro hazard
    have near := spatial (sameCode ▸ hazard)
    simp only [spatiallyContinuous, Bool.and_eq_true, decide_eq_true_eq] at near
    rw [remembers.centroid hazard, remembers.distance hazard, remembers.clearance hazard,
      configured] at near
    exact ⟨near.1.1, near.1.2, near.2⟩
  exact {
    increasing := remembers.newest ▸ increasing
    gap := by rw [← remembers.stamp, ← configured]; exact gap
    centroidStep := fun hazard => (steps hazard).1
    distanceStep := fun hazard => (steps hazard).2.1
    clearanceStep := fun hazard => (steps hazard).2.2 }

theorem extendCandidate_window [EuclideanNorm] (backed : Backed config past self)
    (counts : AcceptedFrame config input.rawCode input.cargoPoseAuthority.poseIdentity
      original input)
    (increasing : self.hasSourceStamp = true → self.lastSourceStampSec < input.stampSec) :
    ∃ opening, Window stampEpsilonSec config input.rawCode input.cargoPoseAuthority.poseIdentity
      (self.extendCandidate input).candidateCount opening ⟨original, .update input⟩
      (⟨original, .update input⟩ :: past) := by
  have counted : Accepted config input.rawCode input.cargoPoseAuthority.poseIdentity
      ⟨original, .update input⟩ := ⟨input, rfl, counts⟩
  by_cases continuous : self.continuous input = true
  · -- The candidate's own window is prolonged by the frame.
    obtain ⟨running, sameCode, sameIdentity, -, -⟩ := of_continuous continuous
    obtain ⟨identity, opening, earlier, remembered, window, remembers⟩ := backed.window running
    have followed := frameContinues backed.configured remembers continuous
      (increasing remembers.stamped)
    have identityEq : identity = input.cargoPoseAuthority.poseIdentity :=
      remembers.cargo.symm.trans sameIdentity
    subst identityEq
    rw [sameCode] at window followed
    refine ⟨opening, ?_⟩
    have count : (self.extendCandidate input).candidateCount = self.candidateCount + 1 := by
      simp [extendCandidate, continuous]
    rw [count]
    exact .next window counted ⟨remembered, input, rfl, rfl, followed⟩
  · -- Otherwise the frame opens a window of its own.
    refine ⟨⟨original, .update input⟩, ?_⟩
    have count : (self.extendCandidate input).candidateCount = 1 := by
      simp [extendCandidate, continuous]
    rw [count]
    exact .first counted past

theorem extendCandidate_remembers [EuclideanNorm] (stamped : self.hasSourceStamp = true)
    (newest : self.lastSourceStampSec = input.stampSec) :
    (self.extendCandidate input).candidateCode = input.rawCode ∧
      Remembers (self.extendCandidate input) input.cargoPoseAuthority.poseIdentity input := by
  -- The candidate keeps its code only when it is the frame's code.
  have sameCode : (self.extendCandidate input).candidateCode = input.rawCode := by
    by_cases continuous : self.continuous input = true
    · simp [extendCandidate, continuous, (of_continuous continuous).2.1]
    · simp [extendCandidate, continuous]
  refine ⟨sameCode, ⟨stamped, newest, rfl, rfl, ?_, ?_, ?_⟩⟩
  all_goals
    intro hazard
    rw [sameCode] at hazard
    simp [extendCandidate, hazard]

theorem confirm_backed [EuclideanNorm] (backed : Backed config past self) :
    Backed config past (self.confirm input) := by
  refine ⟨backed.configured, backed.finiteStamp, fun running => ?_⟩
  obtain ⟨identity, opening, earlier, frame, window, remembers⟩ := backed.window running
  exact ⟨identity, opening, earlier, frame, window,
    { stamped := remembers.stamped, newest := remembers.newest, stamp := remembers.stamp
      cargo := remembers.cargo, centroid := remembers.centroid
      distance := remembers.distance, clearance := remembers.clearance }⟩

theorem absorb_backed [EuclideanNorm] (backed : Backed config past self)
    (usable : invalidRaw input = false) (authorized : authorityMismatch input = false)
    (advanced : original.rolledBack input = true ∨ original.repeatedStamp input = false)
    (increasing : self.hasSourceStamp = true → self.lastSourceStampSec < input.stampSec) :
    Backed config (⟨original, .update input⟩ :: past) (self.absorb input).1 ∧
      ((self.absorb input).2.code ≠ 0 →
        (self.absorb input).2.code = input.rawCode ∧ ∃ (frames : Nat) (opening : _),
          requiredFrames config input.rawCode ≤ (frames : Int) ∧
          Window stampEpsilonSec config input.rawCode input.cargoPoseAuthority.poseIdentity
            frames opening ⟨original, .update input⟩ (⟨original, .update input⟩ :: past)) := by
  have configured : (self.recordStamp input).config = config := backed.configured
  by_cases sparse : (isHazard input.rawCode && !robustHazard config input) = true
  · -- A sparse hazard leaves no candidate and no code.
    simp only [absorb, configured, sparse, if_true]
    refine ⟨⟨configured, fun _ => finite_of_usable usable, ?_⟩, ?_⟩
    · intro running
      simp [dropCandidate] at running
    · intro published
      simp [pendingDecision] at published
  · have kept : (isHazard input.rawCode && !robustHazard config input) = false := by
      simpa using sparse
    -- The frame ends a window, and the candidate record becomes that of the frame.
    have counts : AcceptedFrame config input.rawCode input.cargoPoseAuthority.poseIdentity
        original input :=
      { usable, authorized, advanced, sameCode := rfl, cargoIdentity := rfl
        obstacleIdentity := identity_of_authorized authorized
        robust := robust_of_kept kept }
    obtain ⟨opening, window⟩ := extendCandidate_window backed counts increasing
    have stamped : (self.recordStamp input).hasSourceStamp = true := rfl
    have newest : (self.recordStamp input).lastSourceStampSec = input.stampSec := rfl
    obtain ⟨sameCode, remembers⟩ := extendCandidate_remembers stamped newest
    have extended : Backed config (⟨original, .update input⟩ :: past)
        ((self.recordStamp input).extendCandidate input) := by
      refine ⟨configured, fun _ => finite_of_usable usable, fun _ => ?_⟩
      refine ⟨_, opening, original, input, ?_, remembers⟩
      rw [sameCode]
      exact window
    have configuredLater : ((self.recordStamp input).extendCandidate input).config = config :=
      configured
    -- The frame is published when the window has reached the required length.
    by_cases enough : requiredFrames config input.rawCode ≤
        (((self.recordStamp input).extendCandidate input).candidateCount : Int)
    · simp only [absorb, configured, configuredLater, kept, enough, Bool.false_eq_true, if_true,
        if_false]
      refine ⟨confirm_backed extended, fun _ => ⟨rfl, ?_⟩⟩
      exact ⟨_, opening, enough, window⟩
    · simp only [absorb, configured, configuredLater, kept, enough, Bool.false_eq_true, if_false]
      refine ⟨extended, ?_⟩
      intro published
      simp [pendingDecision] at published

/-- An answer that publishes a code ends a window of frames for that code. -/
def Justified [EuclideanNorm] (tolerance : Scalar) (config : CargoSafetyTemporalConfig)
    (past : List (Event CargoSafetyTemporalFilter Call)) (self : CargoSafetyTemporalFilter)
    (input : CargoSafetyTemporalInput) (decision : CargoSafetyTemporalDecision) : Prop :=
  decision.code ≠ 0 → isProtocolCode decision.code = true ∧
    ∃ (frames : Nat) (identity : PoseAuthorityIdentity) (opening : Event _ Call),
      requiredFrames config decision.code ≤ (frames : Int) ∧
      Window tolerance config decision.code identity frames opening ⟨self, .update input⟩
        (⟨self, .update input⟩ :: past)

theorem idle_backed [EuclideanNorm] (configured : self.config = config)
    (finiteStamp : self.hasSourceStamp = true → self.lastSourceStampSec.isFinite = true)
    (idle : self.candidateValid = false) : Backed config past self := by
  refine ⟨configured, finiteStamp, fun running => ?_⟩
  rw [idle] at running
  exact absurd running (by simp)

theorem reset_backed [EuclideanNorm] (configured : self.config = config) :
    Backed config past self.reset :=
  idle_backed configured (fun stamped => absurd stamped (by simp [reset])) rfl

theorem update_backed [EuclideanNorm] (backed : Backed config past self) :
    Backed config (⟨self, .update input⟩ :: past) (self.update input).1 ∧
      Justified stampEpsilonSec config past self input (self.update input).2 := by
  -- Whatever digests the frame, a code it publishes is the frame's own.
  have digested : ∀ current : CargoSafetyTemporalFilter, Backed config past current →
      invalidRaw input = false → authorityMismatch input = false →
      (self.rolledBack input = true ∨ self.repeatedStamp input = false) →
      (current.hasSourceStamp = true → current.lastSourceStampSec < input.stampSec) →
      Backed config (⟨self, .update input⟩ :: past) (current.absorb input).1 ∧
        Justified stampEpsilonSec config past self input (current.absorb input).2 := by
    intro current currentBacked usable authorized advanced increasing
    obtain ⟨kept, justified⟩ := absorb_backed currentBacked usable authorized advanced increasing
    refine ⟨kept, fun published => ?_⟩
    obtain ⟨code, frames, opening, enough, window⟩ := justified published
    rw [code]
    exact ⟨protocol_of_usable usable, frames, _, opening, enough, window⟩
  -- Every other answer is pending and publishes nothing.
  have pending : ∀ (current : CargoSafetyTemporalFilter) (reason : String),
      Justified stampEpsilonSec config past self input (current.pendingDecision reason) :=
    fun current reason published => absurd rfl published
  unfold update
  by_cases invalid : (!self.configValidation.valid || invalidRaw input) = true
  · rw [if_pos invalid]
    exact ⟨idle_backed backed.configured backed.finiteStamp rfl, pending _ _⟩
  rw [if_neg invalid]
  have usable : invalidRaw input = false := by
    simp only [Bool.or_eq_true, not_or, Bool.not_eq_true] at invalid
    exact invalid.2
  by_cases mismatch : authorityMismatch input = true
  · rw [if_pos mismatch]
    exact ⟨idle_backed backed.configured backed.finiteStamp rfl, pending _ _⟩
  rw [if_neg mismatch]
  have authorized : authorityMismatch input = false := by simpa using mismatch
  by_cases rollback : self.rolledBack input = true
  · -- The frame is digested by an emptied filter.
    rw [if_pos rollback]
    exact digested self.reset (reset_backed backed.configured) usable authorized (.inl rollback)
      (fun stamped => by simp [reset] at stamped)
  rw [if_neg rollback]
  by_cases repeated : self.repeatedStamp input = true
  · -- The frame is ignored, and so is idle in the window of the candidate.
    rw [if_pos repeated]
    refine ⟨⟨backed.configured, backed.finiteStamp, fun running => ?_⟩, pending _ _⟩
    obtain ⟨identity, opening, earlier, frame, window, remembers⟩ := backed.window running
    have ignored : Ignored ⟨self, .update input⟩ :=
      ⟨input, rfl, usable, authorized, by simpa using rollback, repeated⟩
    exact ⟨identity, opening, earlier, frame, .idle window ignored, remembers⟩
  · rw [if_neg repeated]
    have fresh : self.repeatedStamp input = false := by simpa using repeated
    exact digested self backed usable authorized (.inr fresh)
      (fun stamped => increasing_of_fresh stamped (backed.finiteStamp stamped) usable fresh)

end Facts

section Runs

variable [EuclideanNorm] (config : CargoSafetyTemporalConfig)

theorem run_backed (calls : List Call) :
    Backed config ((machine config).trace calls) ((machine config).run calls) := by
  apply (machine config).run_invariant
  · exact idle_backed rfl (fun stamped => absurd stamped (by simp [machine, setConfig])) rfl
  · intro past self call backed
    cases call with
    | update input => exact (update_backed backed).1
    | reset => exact reset_backed backed.configured

/-- Every published code ends a window of accepted frames of the required length. -/
theorem published_code_backed (calls : List Call) (input : CargoSafetyTemporalInput) :
    Justified stampEpsilonSec config ((machine config).trace calls) ((machine config).run calls)
        input (((machine config).run calls).update input).2 ∧
      (((machine config).run calls).rolledBack input = false →
        ((machine config).run calls).repeatedStamp input = true →
        (((machine config).run calls).update input).2.code = 0) := by
  refine ⟨(update_backed (run_backed config calls)).2, fun rollback repeated => ?_⟩
  generalize (machine config).run calls = filter at rollback repeated ⊢
  -- Whichever check sends the frame away, the answer is a pending one.
  unfold update
  by_cases invalid : (!filter.configValidation.valid || invalidRaw input) = true
  · rw [if_pos invalid]
    rfl
  by_cases mismatch : authorityMismatch input = true
  · rw [if_neg invalid, if_pos mismatch]
    rfl
  have steady : ¬filter.rolledBack input = true := by simp [rollback]
  rw [if_neg invalid, if_neg mismatch, if_neg steady, if_pos repeated]
  rfl

end Runs

def clearFrame (stampSec : Scalar) : CargoSafetyTemporalInput :=
  { stampSec, rawValid := true, rawCode := clearCode
    cargoPoseAuthority := { valid := true }, obstaclePoseAuthority := { valid := true } }

attribute [local semireducible] Rat.add Rat.sub Rat.mul Rat.inv Rat.ofScientific

theorem published_code_backed_clear :
    let config : CargoSafetyTemporalConfig := {}
    let filter := (@machine axisNorm config).run [.update (clearFrame 1)]
    (@update axisNorm filter (clearFrame 1.5)).2.code = clearCode ∧
      ∃ (frames : Nat) (identity : PoseAuthorityIdentity) (opening : Event _ Call),
        2 ≤ (frames : Int) ∧
        @Window axisNorm stampEpsilonSec config clearCode identity frames opening
          ⟨filter, .update (clearFrame 1.5)⟩
          ((@machine axisNorm config).trace [.update (clearFrame 1.5), .update (clearFrame 1)]) := by
  intro config filter
  have published : (@update axisNorm filter (clearFrame 1.5)).2.code = clearCode := by
    decide
  refine ⟨published, ?_⟩
  have backed := (@published_code_backed axisNorm config [.update (clearFrame 1)]
    (clearFrame 1.5)).1
  have justified := (backed (by rw [published]; decide)).2
  rw [published] at justified
  exact justified

theorem gap_exceeds_maximum :
    ¬ ∀ [EuclideanNorm] (config : CargoSafetyTemporalConfig) (calls : List Call)
      (input : CargoSafetyTemporalInput),
      (validateCargoSafetyTemporalConfig config).valid = true →
      Justified 0 config ((machine config).trace calls) ((machine config).run calls) input
        (((machine config).run calls).update input).2 := by
  intro claimed
  have valid : (validateCargoSafetyTemporalConfig {}).valid = true := by decide
  have backed := @claimed axisNorm {} [.update (clearFrame 1)] (clearFrame 1.60005) valid
  have published : (@update axisNorm ((@machine axisNorm {}).run [.update (clearFrame 1)])
      (clearFrame 1.60005)).2.code = clearCode := by
    decide
  obtain ⟨-, frames, identity, opening, enough, window⟩ := backed (by rw [published]; decide)
  rw [published] at enough window
  -- A window of two frames over two calls joins these two calls.
  have two : 2 ≤ (frames : Int) := enough
  cases window with
  | first => exact absurd two (by decide)
  | next chain _ continues =>
    have start : ∀ {count opening last}, @Window axisNorm 0 {} clearCode identity count opening last
        ((@machine axisNorm {}).trace [.update (clearFrame 1)]) →
        last = ⟨setConfig {}, .update (clearFrame 1)⟩ := by
      intro count opening last chain
      cases chain with
      | first => rfl
      | next chain => cases chain
      | idle chain => cases chain
    rw [start chain] at continues
    obtain ⟨first, second, firstEq, secondEq, continued⟩ := continues
    cases firstEq
    cases secondEq
    have gap := @FrameContinues.gap axisNorm _ _ _ _ _ continued
    exact absurd gap (by decide)
  | idle _ ignored =>
    obtain ⟨frame, frameEq, -, -, -, repeated⟩ := ignored
    cases frameEq
    exact absurd repeated (by decide)

end NdtSlam.CargoSafetyTemporalFilter
