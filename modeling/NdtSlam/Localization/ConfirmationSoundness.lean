import NdtSlam.Localization.RelocalizationSteps

/-! A relocalized pose is applied on enough results in a row that belong together. -/

namespace NdtSlam
namespace Relocalization

open RelocalizationNode

section Promise

variable [PlaneMath] (settings : RelocalizationSettings) (solvers : RailSolvers)
  (event : RelocalizationEvent)

def consumed : Option RelocalizationResult :=
  match event.call with
  | .consume _ _ => event.before.taken settings
  | _ => none

def judgedAt : Option RelocalizationConfirmationInput :=
  match event.call with
  | .consume stampSec _ => event.before.judged settings solvers stampSec
  | _ => none

def applied : Option Isometry :=
  (event.before.step settings solvers event.call).2

def Belongs (basis : Basis) (result : RelocalizationResult) : Prop :=
  result.mapGeneration = basis.mapGeneration ∧ result.poseVersion = basis.poseVersion ∧
    (settings.railAuthority = true →
      result.fixedYawVerified = true ∧
        result.yawAuthorityGeneration = basis.yawAuthorityGeneration ∧
        result.yawReferenceHash = basis.yawReferenceHash)

def Counted (basis : Basis) (event : RelocalizationEvent) : Prop :=
  ∃ input, judgedAt settings solvers event = some input ∧ input.result.valid = true ∧
    Fresh input (settings.confirmationConfig input.result.mode) ∧
    Belongs settings basis input.result

variable (event : RelocalizationEvent)

def Silent : Prop := consumed settings event = none

def Continues (earlier later : RelocalizationEvent) : Prop :=
  ∃ previous input, judgedAt settings solvers earlier = some previous ∧
    judgedAt settings solvers later = some input ∧
    previous.result.frameIndex < input.result.frameIndex ∧
    Close settings (correctionOf settings input.result) (correctionOf settings previous.result)

def Confirmed (older : List RelocalizationEvent) : Prop :=
  ∃ (count : Nat) (opening : RelocalizationEvent), settings.confirmFrames ≤ count ∧
    EvidenceChain (Counted settings solvers event.before.basis) (Silent settings)
      (Continues settings solvers) count opening event (event :: older)

def undisturbed : Bool :=
  match event.call with
  | .loopClosure result =>
    !event.before.loopClosureCurrent result || event.before.confirmationCount == 0
  | .rebuildMap => event.before.confirmationCount == 0
  | _ => true

end Promise

section Order

variable {node after : RelocalizationNode}

structure Ordered (node : RelocalizationNode) : Prop where
  ordered : (node.lastResultFrame :: node.inFlight).Pairwise (· < ·)
  bounded : ∀ frame ∈ node.lastResultFrame :: node.inFlight, frame ≤ node.lastUpdateFrame

theorem Ordered.sublist (held : Ordered node)
    (fewer : List.Sublist (after.lastResultFrame :: after.inFlight)
      (node.lastResultFrame :: node.inFlight))
    (updated : node.lastUpdateFrame ≤ after.lastUpdateFrame) : Ordered after where
  ordered := held.ordered.sublist fewer
  bounded frame member := Nat.le_trans (held.bounded frame (fewer.subset member)) updated

theorem Ordered.restart (held : Ordered node) (forgotten : after.lastResultFrame = 0)
    (same : after.inFlight = node.inFlight)
    (updated : after.lastUpdateFrame = node.lastUpdateFrame) : Ordered after := by
  obtain ⟨ordered, bounded⟩ := held
  rw [List.pairwise_cons] at ordered
  constructor
  · rw [forgotten, same, List.pairwise_cons]
    refine ⟨?_, ordered.2⟩
    -- Whatever is in flight comes after some frame, so it is not the frame zero.
    intro frame member
    have later := ordered.1 frame member
    omega
  · rw [forgotten, same, updated]
    intro frame member
    rcases List.mem_cons.mp member with rfl | member
    · omega
    · exact bounded frame (List.mem_cons_of_mem _ member)

theorem Ordered.submit (held : Ordered node) {job : RelocalizationJob}
    (same : after.lastResultFrame = node.lastResultFrame ∧ after.result = node.result ∧
      after.runningJob = node.runningJob)
    (pending : after.pendingJob = some job) (begun : job.frameIndex = after.lastUpdateFrame)
    (updated : node.lastUpdateFrame < after.lastUpdateFrame) : Ordered after := by
  have grown : after.lastResultFrame :: after.inFlight =
      (node.lastResultFrame :: (node.result.toList.map RelocalizationResult.frameIndex ++
        node.runningJob.toList.map RelocalizationJob.frameIndex)) ++ [after.lastUpdateFrame] := by
    simp [inFlight, same.1, same.2.1, same.2.2, pending, begun]
  have fewer : List.Sublist
      (node.lastResultFrame :: (node.result.toList.map RelocalizationResult.frameIndex ++
        node.runningJob.toList.map RelocalizationJob.frameIndex))
      (node.lastResultFrame :: node.inFlight) := by
    refine List.Sublist.cons_cons _ ?_
    unfold inFlight
    rw [← List.append_assoc]
    exact List.sublist_append_left _ _
  constructor
  · rw [grown, List.pairwise_append]
    refine ⟨held.ordered.sublist fewer, List.pairwise_singleton _ _, ?_⟩
    -- The frame of the update is later than that of every earlier one.
    intro frame member last equal
    rw [List.mem_singleton.mp equal]
    have earlier := held.bounded frame (fewer.subset member)
    omega
  · rw [grown]
    intro frame member
    rcases List.mem_append.mp member with member | equal
    · have earlier := held.bounded frame (fewer.subset member)
      omega
    · rw [List.mem_singleton.mp equal]

theorem inFlight_found {found : RelocalizationResult} (there : node.result = some found) :
    node.inFlight = found.frameIndex :: { node with result := none }.inFlight := by
  simp [inFlight, there]

theorem inFlight_dropped (node : RelocalizationNode) :
    List.Sublist { node with result := none }.inFlight node.inFlight := by
  cases there : node.result with
  | none => simp [inFlight, there]
  | some found =>
    rw [inFlight_found there]
    exact List.sublist_cons_self _ _

theorem Ordered.update {settings : RelocalizationSettings} (held : Ordered node)
    {ndtHealthy : Bool} (begun : node.lastUpdateFrame < node.runtimeFrameIndex)
    (course : node.UpdateCourse settings ndtHealthy after) :
    Ordered { after with lastUpdateFrame := node.runtimeFrameIndex } := by
  have later := Nat.le_of_lt begun
  cases course with
  | disabled => exact held.sublist (List.Sublist.refl _) later
  | settles => exact held.sublist (List.Sublist.refl _) later
  | stays => exact held.sublist (List.Sublist.refl _) later
  | recovers => exact held.sublist (List.Sublist.refl _) later
  | hopes _ _ _ searches =>
    cases searches with
    | waits => exact held.sublist (List.Sublist.refl _) later
    | degrades => exact held.sublist (List.Sublist.refl _) later
    | submits job state started => exact held.submit ⟨rfl, rfl, rfl⟩ rfl started begun
  | fails searches =>
    cases searches with
    | waits => exact held.sublist (List.Sublist.refl _) later
    | degrades => exact held.sublist (List.Sublist.refl _) later
    | submits job state started => exact held.submit ⟨rfl, rfl, rfl⟩ rfl started begun

theorem Ordered.finish (held : Ordered node) (solution : RelocalizationSolution) :
    Ordered (node.finish solution) := by
  unfold RelocalizationNode.finish
  cases running : node.runningJob with
  | none => exact held
  | some job =>
    refine held.sublist (List.Sublist.cons_cons _ ?_) (Nat.le_refl _)
    -- The new result has the frame of its job, and takes the place of an older result.
    simp only [inFlight, running]
    exact List.sublist_append_right _ _

theorem Ordered.takeJob (held : Ordered node) : Ordered node.takeJob := by
  unfold RelocalizationNode.takeJob
  split
  · rename_i free
    refine held.sublist (List.Sublist.cons_cons _ ?_) (Nat.le_refl _)
    simp [inFlight, Option.isNone_iff_eq_none.mp free]
  · exact held

variable [PlaneMath] {settings : RelocalizationSettings} {solvers : RailSolvers}

theorem Ordered.consume (held : Ordered node) {stampSec : Scalar} {applied : Option Isometry}
    (course : node.ConsumeCourse settings solvers stampSec after applied) : Ordered after := by
  -- A result that is noted was the first one in flight.
  have noted : ∀ {input}, node.judged settings solvers stampSec = some input →
      List.Sublist (input.result.frameIndex :: { node with result := none }.inFlight)
        (node.lastResultFrame :: node.inFlight) := by
    intro input judged
    obtain ⟨found, -, there, frame, -⟩ := judged_frame judged
    rw [frame, inFlight_found there]
    exact List.sublist_cons_self _ _
  have dropped := List.Sublist.cons_cons node.lastResultFrame (inFlight_dropped node)
  cases course with
  | nothing => exact held
  | ignores => exact held.sublist dropped (Nat.le_refl _)
  | repeats => exact held.sublist dropped (Nat.le_refl _)
  | discards input frame judged takes =>
    rcases takes with rfl | rfl
    · exact held.sublist dropped (Nat.le_refl _)
    · exact held.sublist (noted judged) (Nat.le_refl _)
  | confirms input count confirms => exact held.sublist (noted confirms.judged) (Nat.le_refl _)
  | applies input count pose confirms => exact held.sublist (noted confirms.judged) (Nat.le_refl _)

theorem Ordered.step (held : Ordered node) (call : RelocalizationCall) :
    Ordered (node.step settings solvers call).1 := by
  have same {after : RelocalizationNode} (last : after.lastResultFrame = node.lastResultFrame)
      (flight : after.inFlight = node.inFlight)
      (updated : after.lastUpdateFrame = node.lastUpdateFrame) : Ordered after :=
    held.sublist (by rw [last, flight]) (by rw [updated])
  cases call with
  | frame => exact same rfl rfl rfl
  | consume stampSec constraint => exact held.consume (consume_course constraint)
  | update stampSec ndtHealthy maps =>
    unfold RelocalizationNode.step
    simp only
    split
    · rename_i begun
      exact held.update begun update_course
    · exact held
  | register pose => exact same rfl rfl rfl
  | loopClosure result =>
    show Ordered (node.consumeLoopClosureResult settings solvers result)
    unfold consumeLoopClosureResult
    split
    · exact same rfl rfl rfl
    · exact held
  | reset => exact held.restart rfl rfl rfl
  | loadCloud generated => exact held.restart rfl rfl rfl
  | loadSession heading => exact held.restart rfl rfl rfl
  | relocalize =>
    show Ordered (node.relocalizeService settings)
    unfold relocalizeService
    split
    · exact same rfl rfl rfl
    · exact held
  | rebuildMap => exact same rfl rfl rfl
  | rollback => exact held.restart rfl rfl rfl
  | takeJob => exact held.takeJob
  | finish solution => exact held.finish solution

end Order

section Chains

variable [PlaneMath] {settings : RelocalizationSettings} {solvers : RailSolvers}
  {past : List RelocalizationEvent} {node after : RelocalizationNode}

def Chained (settings : RelocalizationSettings) (solvers : RailSolvers)
    (past : List RelocalizationEvent) (node : RelocalizationNode) : Prop :=
  0 < node.confirmationCount → ∃ opening last input,
    EvidenceChain (Counted settings solvers node.basis) (Silent settings)
      (Continues settings solvers) node.confirmationCount opening last past ∧
    judgedAt settings solvers last = some input ∧
    node.confirmationPose = correctionOf settings input.result ∧
    node.lastResultFrame = input.result.frameIndex

theorem chained_of_zero (none : after.confirmationCount = 0) :
    Chained settings solvers past after :=
  fun positive => absurd positive (by omega)

theorem Chained.keep (held : Chained settings solvers past node) {event : RelocalizationEvent}
    (silent : Silent settings event) (basis : after.basis = node.basis)
    (count : after.confirmationCount = node.confirmationCount)
    (correction : after.confirmationPose = node.confirmationPose)
    (last : after.lastResultFrame = node.lastResultFrame) :
    Chained settings solvers (event :: past) after := by
  intro positive
  obtain ⟨opening, latest, input, chain, judged, corrects, frame⟩ := held (count ▸ positive)
  refine ⟨opening, latest, input, ?_, judged, correction ▸ corrects, last ▸ frame⟩
  rw [basis, count]
  exact chain.idle silent

theorem Chained.confirms (held : Chained settings solvers past node) (ordered : Ordered node)
    {stampSec : Scalar} {constraint : Isometry → Isometry}
    {input : RelocalizationConfirmationInput} {count : Nat}
    (confirms : node.Confirms settings solvers stampSec input count) :
    ∃ opening, EvidenceChain (Counted settings solvers node.basis) (Silent settings)
      (Continues settings solvers) count opening ⟨node, .consume stampSec constraint⟩
      (⟨node, .consume stampSec constraint⟩ :: past) := by
  obtain ⟨judged, acceptable, counts⟩ := confirms
  obtain ⟨found, -, there, frame, same⟩ := judged_frame judged
  have counted : Counted settings solvers node.basis ⟨node, .consume stampSec constraint⟩ := by
    refine ⟨input, judged, acceptable.valid, acceptable.fresh, ?_⟩
    have map := acceptable.sameMap
    have poses := acceptable.samePoses
    have heading := acceptable.sameHeading
    -- What the policy expected is what the node is based on.
    rw [show input.expectedMapGeneration = node.mapRebuildGeneration by rw [same]; rfl] at map
    rw [show input.expectedPoseVersion = node.keyframePoseVersion by rw [same]; rfl] at poses
    refine ⟨map, poses, fun rail => ?_⟩
    obtain ⟨verified, generation, hash⟩ := heading rail
    refine ⟨verified, ?_, ?_⟩
    · rw [generation, same]
      rfl
    · rw [hash, same]
      rfl
  rcases counts with rfl | ⟨rfl, positive, close⟩
  · exact ⟨_, .first counted past⟩
  · obtain ⟨opening, latest, previous, chain, before, corrects, last⟩ := held positive
    refine ⟨opening, chain.next counted ⟨previous, input, before, judged, ?_, corrects ▸ close⟩⟩
    -- The result that was there comes after the last one that was taken.
    have later := (List.pairwise_cons.mp ordered.ordered).1 found.frameIndex
      (by rw [inFlight_found there]; exact List.mem_cons_self)
    omega

structure Confirming (settings : RelocalizationSettings) (solvers : RailSolvers)
    (past : List RelocalizationEvent) (node : RelocalizationNode) : Prop where
  ordered : Ordered node
  quiet : node.state = .idle ∨ node.state = .cooldown → node.confirmationCount = 0
  chained : Chained settings solvers past node

section

variable (held : Confirming settings solvers past node)
include held

theorem Confirming.consume {stampSec : Scalar} {constraint : Isometry → Isometry}
    {applied : Option Isometry}
    (course : node.ConsumeCourse settings solvers stampSec after applied) :
    (after.state = .idle ∨ after.state = .cooldown → after.confirmationCount = 0) ∧
      Chained settings solvers (⟨node, .consume stampSec constraint⟩ :: past) after := by
  obtain ⟨ordered, quiet, chained⟩ := held
  cases course with
  | nothing absent => exact ⟨quiet, chained.keep absent rfl rfl rfl rfl⟩
  | ignores ignored =>
    -- Results are ignored by an idle node, which counts none.
    simp only [ignoresResults, Bool.and_eq_true, beq_iff_eq] at ignored
    have zero := quiet (.inl ignored.1.1)
    exact ⟨fun _ => zero, chained_of_zero zero⟩
  | repeats input judged late =>
    obtain ⟨found, -, there, frame, -⟩ := judged_frame judged
    have later := (List.pairwise_cons.mp ordered.ordered).1 found.frameIndex
      (by rw [inFlight_found there]; exact List.mem_cons_self)
    omega
  | discards => exact ⟨fun _ => rfl, chained_of_zero rfl⟩
  | confirms input count confirms =>
    refine ⟨fun resting => ?_, fun _ => ?_⟩
    · rcases resting with idle | cooling
      · cases idle
      · cases cooling
    · obtain ⟨opening, chain⟩ := @chained.confirms _ _ _ _ _ ordered _ constraint _ _ confirms
      exact ⟨opening, _, input, chain, confirms.judged, rfl, rfl⟩
  | applies => exact ⟨fun _ => rfl, chained_of_zero rfl⟩

theorem Confirming.search (course : node.SearchCourse after) {event : RelocalizationEvent}
    (silent : Silent settings event) :
    (after.state = .idle ∨ after.state = .cooldown → after.confirmationCount = 0) ∧
      Chained settings solvers (event :: past) after := by
  cases course with
  | waits => exact ⟨held.quiet, held.chained.keep silent rfl rfl rfl rfl⟩
  | degrades =>
    refine ⟨fun resting => ?_, held.chained.keep silent rfl rfl rfl rfl⟩
    rcases resting with idle | cooling
    · cases idle
    · cases cooling
  | submits job state begun free searching =>
    refine ⟨fun resting => ?_, held.chained.keep silent rfl rfl rfl rfl⟩
    rcases searching with rfl | rfl
    all_goals
      rcases resting with idle | cooling
      · cases idle
      · cases cooling

theorem Confirming.update {ndtHealthy : Bool} (course : node.UpdateCourse settings ndtHealthy after)
    {event : RelocalizationEvent} (silent : Silent settings event) :
    (after.state = .idle ∨ after.state = .cooldown → after.confirmationCount = 0) ∧
      Chained settings solvers (event :: past) after := by
  -- Counting frames changes nothing that a confirmation rests on.
  have counting (goodFrames badFrames : Nat) :
      Confirming settings solvers past { node with goodFrames, badFrames } :=
    ⟨⟨held.ordered.ordered, held.ordered.bounded⟩, held.quiet, held.chained⟩
  cases course with
  | disabled => exact ⟨held.quiet, held.chained.keep silent rfl rfl rfl rfl⟩
  | settles state healthy cooling =>
    exact ⟨fun _ => held.quiet (.inr cooling), held.chained.keep silent rfl rfl rfl rfl⟩
  | stays => exact ⟨held.quiet, held.chained.keep silent rfl rfl rfl rfl⟩
  | recovers => exact ⟨fun _ => rfl, chained_of_zero rfl⟩
  | hopes _ _ _ searches => exact (counting _ _).search searches silent
  | fails searches => exact (counting _ _).search searches silent

theorem Confirming.step {call : RelocalizationCall} (calm : undisturbed ⟨node, call⟩ = true) :
    Confirming settings solvers (⟨node, call⟩ :: past) (node.step settings solvers call).1 := by
  have ordered : Ordered (node.step settings solvers call).1 := held.ordered.step call
  suffices kept : ((node.step settings solvers call).1.state = .idle ∨
        (node.step settings solvers call).1.state = .cooldown →
      (node.step settings solvers call).1.confirmationCount = 0) ∧
      Chained settings solvers (⟨node, call⟩ :: past) (node.step settings solvers call).1 from
    ⟨ordered, kept.1, kept.2⟩
  clear ordered
  cases call with
  | frame => exact ⟨held.quiet, held.chained.keep rfl rfl rfl rfl rfl⟩
  | consume stampSec constraint => exact held.consume (consume_course constraint)
  | update stampSec ndtHealthy maps =>
    unfold RelocalizationNode.step
    simp only
    split
    · exact held.update (@update_course _ _ stampSec maps ndtHealthy) rfl
    · exact ⟨held.quiet, held.chained.keep rfl rfl rfl rfl rfl⟩
  | register pose => exact ⟨held.quiet, held.chained.keep rfl rfl rfl rfl rfl⟩
  | loopClosure result =>
    unfold RelocalizationNode.step consumeLoopClosureResult
    simp only
    split
    · rename_i current
      -- A loop closure leaves the count, so there must not be any.
      have zero : node.confirmationCount = 0 := by simpa [undisturbed, current] using calm
      exact ⟨fun _ => zero, chained_of_zero zero⟩
    · exact ⟨held.quiet, held.chained.keep rfl rfl rfl rfl rfl⟩
  | reset => exact ⟨fun _ => rfl, chained_of_zero rfl⟩
  | loadCloud generated => exact ⟨fun _ => rfl, chained_of_zero rfl⟩
  | loadSession heading => exact ⟨fun _ => rfl, chained_of_zero rfl⟩
  | relocalize =>
    unfold RelocalizationNode.step relocalizeService
    simp only
    split
    · exact ⟨fun _ => rfl, chained_of_zero rfl⟩
    · exact ⟨held.quiet, held.chained.keep rfl rfl rfl rfl rfl⟩
  | rebuildMap =>
    have zero : node.confirmationCount = 0 := by simpa [undisturbed] using calm
    exact ⟨fun _ => zero, chained_of_zero zero⟩
  | rollback => exact ⟨fun _ => rfl, chained_of_zero rfl⟩
  | takeJob =>
    unfold RelocalizationNode.step RelocalizationNode.takeJob
    simp only
    split
    · exact ⟨held.quiet, held.chained.keep rfl rfl rfl rfl rfl⟩
    · exact ⟨held.quiet, held.chained.keep rfl rfl rfl rfl rfl⟩
  | finish solution =>
    unfold RelocalizationNode.step RelocalizationNode.finish
    simp only
    split
    · exact ⟨held.quiet, held.chained.keep rfl rfl rfl rfl rfl⟩
    · exact ⟨held.quiet, held.chained.keep rfl rfl rfl rfl rfl⟩

theorem Confirming.applies {call : RelocalizationCall}
    (pose : (applied settings solvers ⟨node, call⟩).isSome = true) :
    Confirmed settings solvers ⟨node, call⟩ past := by
  cases call with
  | consume stampSec constraint =>
    have course : node.ConsumeCourse settings solvers stampSec _ _ := consume_course constraint
    unfold applied RelocalizationNode.step at pose
    simp only at pose
    generalize (node.consumeRelocalizationResult settings solvers stampSec constraint).1 = after
      at course
    generalize (node.consumeRelocalizationResult settings solvers stampSec constraint).2 = applied
      at course pose
    cases course with
    | applies input count recovered confirms enough =>
      obtain ⟨opening, chain⟩ :=
        @held.chained.confirms _ _ _ _ _ held.ordered _ constraint _ _ confirms
      exact ⟨count, opening, enough, chain⟩
    | nothing => cases pose
    | ignores => cases pose
    | repeats => cases pose
    | discards => cases pose
    | confirms => cases pose
  | update stampSec ndtHealthy maps =>
    unfold applied RelocalizationNode.step at pose
    simp only at pose
    split at pose
    · cases pose
    · cases pose
  | frame => cases pose
  | register => cases pose
  | loopClosure => cases pose
  | reset => cases pose
  | loadCloud => cases pose
  | loadSession => cases pose
  | relocalize => cases pose
  | rebuildMap => cases pose
  | rollback => cases pose
  | takeJob => cases pose
  | finish => cases pose

end

theorem confirming_run (binding : MapBinding) (calls : List RelocalizationCall)
    (calm : ∀ event ∈ (machine settings solvers binding).trace calls, undisturbed event = true) :
    Confirming settings solvers ((machine settings solvers binding).trace calls)
      ((machine settings solvers binding).run calls) := by
  -- The run grows by one call, which finds what the earlier ones have left.
  induction calls with
  | nil =>
    refine ⟨⟨List.pairwise_singleton _ _, ?_⟩, fun _ => rfl, chained_of_zero rfl⟩
    intro frame member
    rw [List.mem_singleton.mp member]
    exact Nat.le_refl _
  | cons call older ih =>
    simp only [Machine.trace, List.mem_cons, forall_eq_or_imp] at calm
    exact (ih calm.2).step calm.1

/--
Where the poses and the map are replaced only while nothing is being confirmed, a relocalized pose
is applied on enough results in a row that are computed against what holds then.
-/
theorem applied_pose_confirmed (settings : RelocalizationSettings) (solvers : RailSolvers)
    (binding : MapBinding) (calls : List RelocalizationCall)
    (calm : ∀ event ∈ (machine settings solvers binding).trace calls, undisturbed event = true)
    {newer older : List RelocalizationEvent} {event : RelocalizationEvent}
    (split : (machine settings solvers binding).trace calls = newer ++ event :: older)
    (pose : (applied settings solvers event).isSome = true) :
    Confirmed settings solvers event older := by
  obtain ⟨earlier, rfl, before⟩ := (machine settings solvers binding).trace_split split
  have past := @confirming_run _ settings solvers binding earlier fun event member =>
    calm event (by rw [split]; exact List.mem_append_right _ (List.mem_cons_of_mem _ member))
  rw [← before] at past
  exact past.applies pose

end Chains

section Samples

@[reducible] def straightPlane : PlaneMath where
  toEuclideanNorm := axisNorm
  cos _ := 1
  sin _ := 0
  atan2 _ _ := 0

attribute [local instance] straightPlane

def freeSettings : RelocalizationSettings where
  requestIntervalFrames := 1
  yaw := MapBinding.siteSettings

def noSolvers : RailSolvers where
  solve _ := {}
  applyRailYawAuthorityConstraint _ pose := pose

def freshBinding : MapBinding := .start MapBinding.siteSettings ⟨"fresh", by decide⟩

def foundInPlace : RelocalizationSolution where
  valid := true
  fitness := 0
  probability := 0

def searchedFrame : List RelocalizationCall :=
  [.consume 1 id, .finish foundInPlace, .takeJob, .update 1 false { globalMap := true }, .frame]

def freeMachine : Machine RelocalizationNode RelocalizationCall (Option Isometry) :=
  machine freeSettings noSolvers freshBinding

def beforeSecondResult : List RelocalizationCall :=
  searchedFrame.tail ++ searchedFrame ++ [.relocalize]

theorem second_result_confirmed :
    (applied freeSettings noSolvers
        ⟨freeMachine.run beforeSecondResult, .consume 1 id⟩).isSome = true ∧
      Confirmed freeSettings noSolvers ⟨freeMachine.run beforeSecondResult, .consume 1 id⟩
        (freeMachine.trace beforeSecondResult) := by
  have pose : (applied freeSettings noSolvers
      ⟨freeMachine.run beforeSecondResult, .consume 1 id⟩).isSome = true := by
    with_unfolding_all decide
  have calm : (freeMachine.trace (.consume 1 id :: beforeSecondResult)).all undisturbed = true := by
    decide
  exact ⟨pose, applied_pose_confirmed freeSettings noSolvers freshBinding
    (.consume 1 id :: beforeSecondResult) (List.all_eq_true.mp calm) (List.nil_append _).symm pose⟩

def earlyLoopClosure : LoopClosureResult where
  valid := true
  candidate := (0, 9)

theorem loop_closure_keeps_count :
    ¬∀ (settings : RelocalizationSettings) (solvers : RailSolvers) (binding : MapBinding)
      (calls : List RelocalizationCall) (newer older : List RelocalizationEvent)
      (event : RelocalizationEvent),
      (machine settings solvers binding).trace calls = newer ++ event :: older →
      (applied settings solvers event).isSome = true →
      Confirmed settings solvers event older := by
  intro confirms
  let earlier : List RelocalizationCall :=
    searchedFrame.tail ++ [.loopClosure earlyLoopClosure] ++ searchedFrame ++ [.relocalize]
  let event : RelocalizationEvent := ⟨freeMachine.run earlier, .consume 1 id⟩
  have pose : (applied freeSettings noSolvers event).isSome = true := by with_unfolding_all decide
  obtain ⟨count, opening, enough, chain⟩ := confirms freeSettings noSolvers freshBinding
    (.consume 1 id :: earlier) [] (freeMachine.trace earlier) event rfl pose
  -- Only one of the results was computed against the poses after the loop closure.
  let moved (event : RelocalizationEvent) : Bool :=
    ((judgedAt freeSettings noSolvers event).map fun input => input.result.poseVersion) == some 1
  have once : (event :: freeMachine.trace earlier).countP moved = 1 := by with_unfolding_all decide
  have version : (freeMachine.run earlier).keyframePoseVersion = 1 := by with_unfolding_all decide
  have fewer : count ≤ (event :: freeMachine.trace earlier).countP moved := by
    refine chain.count_le fun occurrence counted => ?_
    obtain ⟨input, judged, -, -, -, poses, -⟩ := counted
    have same : input.result.poseVersion = 1 := poses.trans version
    simp only [moved, judged, Option.map_some, same]
    rfl
  rw [once] at fewer
  have required : (2 : Int) ≤ count := enough
  omega

end Samples

end Relocalization
end NdtSlam
