import NdtSlam.Localization.Relocalization

/-! What the policy decides about a result, and what each operation does to the node. -/

namespace NdtSlam
namespace Relocalization

section Policy

variable {input : RelocalizationConfirmationInput} {config : RelocalizationConfirmationConfig}

structure Fresh (input : RelocalizationConfirmationInput)
    (config : RelocalizationConfirmationConfig) : Prop where
  begun : input.result.frameIndex ≤ input.currentFrameIndex
  recent : input.currentFrameIndex ≤ input.result.frameIndex + config.maximumAgeFrames
  finite : (input.currentStampSec - input.result.stampSec).isFinite = true
  notAhead : ¬input.currentStampSec - input.result.stampSec < -0.05
  notOld : ¬config.maximumAgeSec < input.currentStampSec - input.result.stampSec

theorem fresh_of_not_stale (current : staleResult input config = false) : Fresh input config := by
  -- None of the five reasons for a stale result applies.
  unfold staleResult at current
  simp only [Bool.or_eq_false_iff, Bool.and_eq_false_iff, Bool.not_eq_false', decide_eq_true_eq,
    decide_eq_false_iff_not, Nat.not_lt] at current
  obtain ⟨⟨⟨⟨begun, recent⟩, finite⟩, notAhead⟩, notOld⟩ := current
  refine ⟨begun, ?_, by simpa using finite, notAhead, notOld⟩
  rcases recent with ahead | recent
  · omega
  · omega

end Policy

section Decisions

variable [PlaneMath] (settings : RelocalizationSettings)

def correctionOf (result : RelocalizationResult) : Isometry :=
  if settings.railAuthority then railCorrection result
  else result.pose.compose result.referencePose.inverse

def Close (correction previous : Isometry) : Prop :=
  translationDelta correction previous ≤ settings.confirmTranslationM ∧
    (settings.railAuthority = false → yawDeltaDeg correction previous ≤ settings.confirmYawDeg)

structure Acceptable (input : RelocalizationConfirmationInput) : Prop where
  valid : input.result.valid = true
  sameMap : input.result.mapGeneration = input.expectedMapGeneration
  samePoses : input.result.poseVersion = input.expectedPoseVersion
  sameHeading : settings.railAuthority = true →
    input.result.fixedYawVerified = true ∧
      input.result.yawAuthorityGeneration = input.expectedYawAuthorityGeneration ∧
      input.result.yawReferenceHash = input.expectedYawReferenceHash
  fresh : Fresh input (settings.confirmationConfig input.result.mode)
  later : input.lastResultFrame < input.result.frameIndex

structure Counts (input : RelocalizationConfirmationInput)
    (decision : RelocalizationConfirmationDecision) : Prop where
  acceptable : Acceptable settings input
  noted : decision.updateLastResultFrame = true ∧
    decision.lastResultFrame = input.result.frameIndex
  corrects : decision.correction = correctionOf settings input.result
  counted : decision.confirmationCount = 1 ∨
    decision.confirmationCount = input.previousConfirmationCount + 1 ∧
      0 < input.previousConfirmationCount ∧
        Close settings decision.correction input.previousCorrection
  outcome : decision.outcome =
    if settings.confirmFrames ≤ decision.confirmationCount then .confirmed else .confirming

inductive DecisionCourse (input : RelocalizationConfirmationInput)
    (decision : RelocalizationConfirmationDecision) : Prop where
  | discards
    (outcome : decision.outcome = .discardIdentity ∨ decision.outcome = .discardStale ∨
      decision.outcome = .discardInvalid)
    (noted : decision.updateLastResultFrame = true →
      decision.lastResultFrame = input.result.frameIndex)
  | repeats (outcome : decision.outcome = .discardDuplicate)
    (unnoted : decision.updateLastResultFrame = false)
    (late : input.result.frameIndex ≤ input.lastResultFrame)
  | counts (counts : Counts settings input decision)

variable {settings} {input : RelocalizationConfirmationInput}

theorem countCorrection_counts {config : RelocalizationConfirmationConfig}
    {consistent : Bool} {confirmed continued restarted : String}
    (required : config.requiredConfirmations = settings.confirmFrames)
    (acceptable : Acceptable settings input)
    (close : consistent = true → 0 < input.previousConfirmationCount ∧
      Close settings (correctionOf settings input.result) input.previousCorrection) :
    DecisionCourse settings input
      (countCorrection input config (correctionOf settings input.result) consistent confirmed
        continued restarted
        { updateLastResultFrame := true, lastResultFrame := input.result.frameIndex }) := by
  refine .counts ⟨acceptable, ⟨rfl, rfl⟩, rfl, ?_, ?_⟩
  · -- A consistent correction prolongs the count, any other one starts it.
    cases consistent with
    | true => exact .inr ⟨rfl, close rfl⟩
    | false => exact .inl rfl
  · simp only [countCorrection, required, decide_eq_true_eq]

theorem free_course (free : settings.railAuthority = false) :
    DecisionCourse settings input (evaluateRelocalizationConfirmation input
      (settings.confirmationConfig input.result.mode)) := by
  have correction : correctionOf settings input.result =
      input.result.pose.compose input.result.referencePose.inverse := by
    rw [correctionOf, free, if_neg (by simp)]
  -- The checks are gone through in their order.
  unfold evaluateRelocalizationConfirmation
  simp only
  split
  · exact .discards (.inr (.inr rfl)) (by simp)
  split
  · exact .discards (.inl rfl) (by simp)
  rename_i same
  split
  · rename_i late
    exact .repeats rfl rfl late
  rename_i later
  split
  · exact .discards (.inr (.inl rfl)) (fun _ => rfl)
  rename_i current
  split
  · exact .discards (.inr (.inr rfl)) (fun _ => rfl)
  rename_i valid
  split
  · exact .discards (.inr (.inr rfl)) (fun _ => rfl)
  split
  · exact .discards (.inr (.inr rfl)) (fun _ => rfl)
  rw [← correction]
  simp only [otherGeneration, Bool.or_eq_true, bne_iff_ne, not_or, not_not] at same
  refine countCorrection_counts rfl ?_ ?_
  · exact {
      valid := by simpa using valid
      sameMap := same.1
      samePoses := same.2
      sameHeading := fun rail => absurd rail (by simp [free])
      fresh := fresh_of_not_stale (by simpa using current)
      later := by omega }
  · intro consistent
    simp only [Bool.and_eq_true, decide_eq_true_eq] at consistent
    exact ⟨consistent.1.1.1, consistent.1.2, fun _ => consistent.2⟩

theorem rail_course (rail : settings.railAuthority = true) :
    DecisionCourse settings input (evaluateRailRelocalizationConfirmation input
      (settings.confirmationConfig input.result.mode)) := by
  have correction : correctionOf settings input.result = railCorrection input.result := by
    rw [correctionOf, if_pos rail]
  -- The checks are gone through in their order.
  unfold evaluateRailRelocalizationConfirmation
  simp only
  split
  · exact .discards (.inr (.inr rfl)) (by simp)
  split
  · exact .discards (.inl rfl) (by simp)
  rename_i same
  split
  · exact .discards (.inl rfl) (by simp)
  rename_i heading
  split
  · rename_i late
    exact .repeats rfl rfl late
  rename_i later
  split
  · exact .discards (.inr (.inl rfl)) (fun _ => rfl)
  rename_i current
  split
  · exact .discards (.inr (.inr rfl)) (fun _ => rfl)
  rename_i valid
  split
  · exact .discards (.inr (.inr rfl)) (fun _ => rfl)
  rw [← correction]
  simp only [otherGeneration, Bool.or_eq_true, bne_iff_ne, not_or, not_not] at same
  simp only [otherYawReference, Bool.or_eq_true, bne_iff_ne, not_or, not_not, beq_iff_eq,
    Bool.not_eq_true', Bool.not_eq_false] at heading
  simp only [Bool.or_eq_true, not_or, Bool.not_eq_true', Bool.not_eq_false] at valid
  refine countCorrection_counts rfl ?_ ?_
  · exact {
      valid := valid.1.1.1
      sameMap := same.1
      samePoses := same.2
      sameHeading := fun _ => ⟨heading.1.1.1.1, heading.1.1.2, heading.2⟩
      fresh := fresh_of_not_stale (by simpa using current)
      later := by omega }
  · intro consistent
    simp only [Bool.and_eq_true, decide_eq_true_eq] at consistent
    exact ⟨consistent.1.1, consistent.2, fun free => absurd free (by simp [rail])⟩

theorem evaluate_course : DecisionCourse settings input (settings.evaluate input) := by
  unfold RelocalizationSettings.evaluate
  simp only
  split
  · rename_i rail
    exact rail_course rail
  · rename_i free
    exact free_course (by simpa using free)

end Decisions

structure Basis where
  mapGeneration : Nat
  poseVersion : Nat
  yawAuthorityGeneration : UInt64
  yawReferenceHash : String

namespace RelocalizationNode

def basis (node : RelocalizationNode) : Basis where
  mapGeneration := node.mapRebuildGeneration
  poseVersion := node.keyframePoseVersion
  yawAuthorityGeneration := node.binding.authority.generation
  yawReferenceHash :=
    if node.binding.authority.valid then node.binding.authority.reference.referenceHash else ""

def inFlight (node : RelocalizationNode) : List Nat :=
  node.result.toList.map RelocalizationResult.frameIndex ++
    (node.runningJob.toList.map RelocalizationJob.frameIndex ++
      node.pendingJob.toList.map RelocalizationJob.frameIndex)

theorem verifyFixedYaw_frame (settings : RelocalizationSettings) (solvers : RailSolvers)
    (node : RelocalizationNode) (result : RelocalizationResult) :
    (node.verifyFixedYaw settings solvers result).frameIndex = result.frameIndex := by
  -- Whatever the verification finds, it only touches the pose and the verdict.
  have verdict : ∀ authority targetSnapshotId verified,
      (result.verifiedAt authority targetSnapshotId verified).frameIndex = result.frameIndex := by
    intro authority targetSnapshotId verified
    unfold RelocalizationResult.verifiedAt
    split
    · rfl
    · rfl
  unfold verifyFixedYaw
  split
  · simp only
    split
    · rfl
    · split
      · exact verdict _ _ _
      · rfl
  · rfl

section Taking

variable (settings : RelocalizationSettings) (solvers : RailSolvers)
  (node : RelocalizationNode) (stampSec : Scalar)

def taken : Option RelocalizationResult := if settings.enabled then node.result else none

def judged : Option RelocalizationConfirmationInput :=
  if node.ignoresResults then none
  else (node.taken settings).map fun result =>
    node.confirmationInput stampSec (node.verifyFixedYaw settings solvers result)

def confirming (input : RelocalizationConfirmationInput) (count : Nat) : RelocalizationNode :=
  { node with
    result := none
    lastResultFrame := input.result.frameIndex
    confirmationPose := correctionOf settings input.result
    confirmationCount := count
    state := .confirming }

theorem judged_frame {settings : RelocalizationSettings} {solvers : RailSolvers}
    {node : RelocalizationNode} {stampSec : Scalar} {input : RelocalizationConfirmationInput}
    (judged : node.judged settings solvers stampSec = some input) :
    ∃ found, node.taken settings = some found ∧ node.result = some found ∧
      input.result.frameIndex = found.frameIndex ∧
      input = node.confirmationInput stampSec (node.verifyFixedYaw settings solvers found) := by
  unfold RelocalizationNode.judged at judged
  split at judged
  · cases judged
  · obtain ⟨found, takes, rfl⟩ := Option.map_eq_some_iff.mp judged
    refine ⟨found, takes, ?_, verifyFixedYaw_frame settings solvers node found, rfl⟩
    unfold taken at takes
    split at takes
    · exact takes
    · cases takes

variable [PlaneMath]

structure Confirms (input : RelocalizationConfirmationInput) (count : Nat) : Prop where
  judged : node.judged settings solvers stampSec = some input
  acceptable : Acceptable settings input
  counted : count = 1 ∨ count = node.confirmationCount + 1 ∧ 0 < node.confirmationCount ∧
    Close settings (correctionOf settings input.result) node.confirmationPose

inductive ConsumeCourse : RelocalizationNode → Option Isometry → Prop where
  | nothing (absent : node.taken settings = none) : ConsumeCourse node none
  | ignores (ignored : node.ignoresResults = true) : ConsumeCourse { node with result := none } none
  | repeats (input : RelocalizationConfirmationInput)
    (judged : node.judged settings solvers stampSec = some input)
    (late : input.result.frameIndex ≤ node.lastResultFrame) :
    ConsumeCourse { node with result := none } none
  | discards (input : RelocalizationConfirmationInput) (frame : Nat)
    (judged : node.judged settings solvers stampSec = some input)
    (noted : frame = node.lastResultFrame ∨ frame = input.result.frameIndex) :
    ConsumeCourse { node with result := none, lastResultFrame := frame }.discarded none
  | confirms (input : RelocalizationConfirmationInput) (count : Nat)
    (confirms : node.Confirms settings solvers stampSec input count) :
    ConsumeCourse (node.confirming settings input count) none
  | applies (input : RelocalizationConfirmationInput) (count : Nat) (pose : Isometry)
    (confirms : node.Confirms settings solvers stampSec input count)
    (enough : settings.confirmFrames ≤ count) :
    ConsumeCourse ((node.confirming settings input count).settled settings pose) (some pose)

variable {settings solvers node stampSec}

theorem consume_course (constraint : Isometry → Isometry) :
    node.ConsumeCourse settings solvers stampSec
      (node.consumeRelocalizationResult settings solvers stampSec constraint).1
      (node.consumeRelocalizationResult settings solvers stampSec constraint).2 := by
  unfold consumeRelocalizationResult
  by_cases enabled : settings.enabled = true
  · rw [if_pos enabled]
    cases there : node.result with
    | none => exact .nothing (by simp [taken, there])
    | some found =>
      simp only
      by_cases ignored : node.ignoresResults = true
      · rw [if_pos ignored]
        exact .ignores ignored
      · rw [if_neg ignored]
        -- From here on the result is judged, and the decision about it is followed.
        have judged : node.judged settings solvers stampSec = some
            (node.confirmationInput stampSec (node.verifyFixedYaw settings solvers found)) := by
          simp [RelocalizationNode.judged, taken, ignored, enabled, there]
        generalize same : node.confirmationInput stampSec
          (node.verifyFixedYaw settings solvers found) = input at judged ⊢
        have previous : input.previousConfirmationCount = node.confirmationCount ∧
            input.previousCorrection = node.confirmationPose ∧
            input.lastResultFrame = node.lastResultFrame := by
          rw [← same]
          exact ⟨rfl, rfl, rfl⟩
        rw [show node.verifyFixedYaw settings solvers found = input.result from same ▸ rfl]
        cases @evaluate_course _ settings input with
        | discards outcome noted =>
          have frame : ∃ frame,
              (frame = node.lastResultFrame ∨ frame = input.result.frameIndex) ∧
              (if (settings.evaluate input).updateLastResultFrame = true then
                { node with
                  result := none, lastResultFrame := (settings.evaluate input).lastResultFrame }
              else { node with result := none })
                = { node with result := none, lastResultFrame := frame } := by
            split
            · rename_i updates
              exact ⟨_, .inr (noted updates), rfl⟩
            · exact ⟨_, .inl rfl, rfl⟩
          obtain ⟨frame, noted, notes⟩ := frame
          unfold follow
          rcases outcome with outcome | outcome | outcome
          all_goals
            simp only [outcome, notes]
            exact .discards input frame judged noted
        | repeats outcome unnoted late =>
          simp only [follow, outcome, unnoted]
          exact .repeats input judged (previous.2.2 ▸ late)
        | counts counts =>
          have confirms : node.Confirms settings solvers stampSec input
              (settings.evaluate input).confirmationCount := by
            refine ⟨judged, counts.acceptable, ?_⟩
            rw [← counts.corrects, ← previous.1, ← previous.2.1]
            exact counts.counted
          unfold follow
          simp only [counts.outcome, counts.noted.1, counts.noted.2, counts.corrects, if_true]
          by_cases enough : settings.confirmFrames ≤ (settings.evaluate input).confirmationCount
          · simp only [if_pos enough]
            exact .applies input _ _ confirms enough
          · simp only [if_neg enough]
            exact .confirms input _ confirms
  · rw [if_neg enabled]
    exact .nothing (by simp [taken, enabled])

end Taking

section Updating

variable {settings : RelocalizationSettings} {node : RelocalizationNode} {stampSec : Scalar}
  {maps : SearchMaps}

inductive SearchCourse (node : RelocalizationNode) : RelocalizationNode → Prop where
  | waits (unforced : node.forceGlobal = false) : SearchCourse node node
  | degrades : SearchCourse node { node with poseReliable := false, state := .degraded }
  | submits (job : RelocalizationJob) (state : RelocalizationState)
    (begun : job.frameIndex = node.runtimeFrameIndex) (free : node.runningJob = none)
    (searching : state = .searchingGlobal ∨ state = .searchingLocal) :
    SearchCourse node { node with
      poseReliable := false
      state
      pendingJob := some job
      lastSubmitFrame := node.runtimeFrameIndex }

theorem search_course : node.SearchCourse (node.search settings stampSec maps) := by
  unfold search
  split
  · rename_i patient
    simp only [Bool.and_eq_true, Bool.not_eq_true'] at patient
    exact .waits patient.1
  simp only
  split
  · exact .degrades
  · rename_i free
    simp only [Bool.or_eq_true, not_or, Bool.not_eq_true, Option.isSome_eq_false_iff,
      Option.isNone_iff_eq_none] at free
    unfold submit
    simp only
    generalize (node.forceGlobal || decide (settings.globalTriggerFrames ≤ node.badFrames)) = wide
    -- A search needs a map, and something to start from.
    cases maps.selectedMap node.mapRebuildGeneration
        (if wide = true then .globalSearch else .localSearch) with
    | none => exact .degrades
    | some selected =>
      by_cases accepted : maps.submits (if wide = true then .globalSearch else .localSearch) = true
      · simp only [if_pos accepted]
        refine .submits _ _ ?_ free.1 ?_
        · rfl
        · cases wide with
          | true => exact .inl rfl
          | false => exact .inr rfl
      · simp only [if_neg accepted]
        exact .degrades

inductive UpdateCourse (settings : RelocalizationSettings) (node : RelocalizationNode)
    (ndtHealthy : Bool) : RelocalizationNode → Prop where
  | disabled (off : settings.enabled = false) : UpdateCourse settings node ndtHealthy node
  | settles (state : RelocalizationState) (healthy : ndtHealthy = true)
    (cooling : node.state = .cooldown) (settled : state = .idle ∨ state = .cooldown) :
    UpdateCourse settings node ndtHealthy { node with badFrames := 0, goodFrames := 0, state }
  | stays (healthy : ndtHealthy = true) (unforced : node.forceGlobal = false)
    (idle : node.state = .idle) :
    UpdateCourse settings node ndtHealthy
      { node with goodFrames := node.goodFrames + 1, badFrames := 0 }
  | recovers (healthy : ndtHealthy = true) (unforced : node.forceGlobal = false)
    (enough : 3 ≤ node.goodFrames + 1) :
    UpdateCourse settings node ndtHealthy (node.recovered settings)
  | hopes (healthy : ndtHealthy = true) (unforced : node.forceGlobal = false)
    (few : node.goodFrames + 1 < 3) {after : RelocalizationNode}
    (searches : { node with goodFrames := node.goodFrames + 1 }.SearchCourse after) :
    UpdateCourse settings node ndtHealthy after
  | fails {after : RelocalizationNode}
    (searches : { node with goodFrames := 0, badFrames := node.badFrames + 1 }.SearchCourse after) :
    UpdateCourse settings node ndtHealthy after

theorem update_course {ndtHealthy : Bool} :
    node.UpdateCourse settings ndtHealthy
      (node.updateRelocalization settings stampSec ndtHealthy maps) := by
  unfold updateRelocalization
  split
  · rename_i off
    exact .disabled (by simpa using off)
  split
  · rename_i cooling
    simp only [Bool.and_eq_true, beq_iff_eq] at cooling
    refine .settles _ cooling.1.1 cooling.2 ?_
    split
    · exact .inl rfl
    · exact .inr rfl
  split
  · rename_i good
    simp only [Bool.and_eq_true, Bool.not_eq_true'] at good
    simp only
    -- An idle node only counts, any other one recovers with the third healthy frame.
    split
    · rename_i idle
      exact .stays good.1 good.2 idle
    split
    · rename_i enough
      exact .recovers good.1 good.2 enough
    · rename_i few
      exact .hopes good.1 good.2 (by omega) search_course
  · exact .fails search_course

end Updating

end RelocalizationNode

end Relocalization
end NdtSlam
