import NdtSlam.Localization.ConfirmationSoundness

/-! A pose that has been given up becomes reliable on evidence only. -/

namespace NdtSlam
namespace Relocalization

open RelocalizationNode

section Promise

variable [PlaneMath] (settings : RelocalizationSettings) (solvers : RailSolvers)
  (event : RelocalizationEvent)

def outcome : RelocalizationNode × Option Isometry :=
  event.before.step settings solvers event.call

def Regains : Prop :=
  event.before.poseReliable = false ∧ (outcome settings solvers event).1.poseReliable = true

def updates : Bool :=
  match event.call with
  | .update _ _ _ => event.before.lastUpdateFrame < event.before.runtimeFrameIndex
  | _ => false

def HealthyUpdate : Prop :=
  updates event = true ∧ event.before.forceGlobal = false ∧
    ∃ stampSec maps, event.call = .update stampSec true maps

def breaks : Bool :=
  match event.call with
  | .consume _ _ => (outcome settings solvers event).2.isSome
  | .loopClosure result => event.before.loopClosureCurrent result
  | .reset | .loadCloud _ | .loadSession _ | .rollback => true
  | _ => false

def Between : Prop :=
  updates event = false ∧ breaks settings solvers event = false

def HealthyInARow (count : Nat) (event : RelocalizationEvent) (past : List RelocalizationEvent) :
    Prop :=
  ∃ opening, EvidenceChain HealthyUpdate (Between settings solvers) (fun _ _ => True) count opening
    event past

def Justified (event : RelocalizationEvent) (older : List RelocalizationEvent) : Prop :=
  HealthyInARow settings solvers 3 event (event :: older) ∨
    (outcome settings solvers event).2.isSome = true ∨ event.call = .reset

def RegainsOnEvidence (past : List RelocalizationEvent) : Prop :=
  ∀ newer event older, past = newer ++ event :: older → Regains settings solvers event →
    Justified settings solvers event older

end Promise

theorem search_watches {node after : RelocalizationNode} (course : node.SearchCourse after) :
    after.goodFrames = node.goodFrames ∧
      (after.poseReliable = false ∧ after.state ≠ .idle ∧ after.state ≠ .cooldown ∨
        after.poseReliable = node.poseReliable ∧ after.state = node.state) := by
  cases course with
  | waits => exact ⟨rfl, .inr ⟨rfl, rfl⟩⟩
  | degrades => exact ⟨rfl, .inl ⟨rfl, by simp, by simp⟩⟩
  | submits job state begun free searching =>
    refine ⟨rfl, .inl ⟨rfl, ?_, ?_⟩⟩
    · rcases searching with rfl | rfl <;> simp
    · rcases searching with rfl | rfl <;> simp

section Streaks

variable [PlaneMath] {settings : RelocalizationSettings} {solvers : RailSolvers}
  {past : List RelocalizationEvent} {node after : RelocalizationNode}

structure Watching (settings : RelocalizationSettings) (solvers : RailSolvers)
    (past : List RelocalizationEvent) (node : RelocalizationNode) : Prop where
  rests : node.state = .idle ∨ node.state = .cooldown → node.poseReliable = true
  streak : 0 < node.goodFrames → ∃ last, HealthyInARow settings solvers node.goodFrames last past
  few : node.poseReliable = false → node.goodFrames < 3

variable {event : RelocalizationEvent}

theorem Watching.keep (held : Watching settings solvers past node)
    (between : Between settings solvers event) (state : after.state = node.state)
    (reliable : after.poseReliable = node.poseReliable)
    (good : after.goodFrames = node.goodFrames) :
    Watching settings solvers (event :: past) after := by
  refine ⟨by rw [state, reliable]; exact held.rests, fun positive => ?_, ?_⟩
  · obtain ⟨last, opening, chain⟩ := held.streak (good ▸ positive)
    exact ⟨last, opening, by rw [good]; exact chain.idle between⟩
  · rw [reliable, good]
    exact held.few

theorem watching_of_zero (rests : after.state = .idle ∨ after.state = .cooldown →
      after.poseReliable = true) (none : after.goodFrames = 0) :
    Watching settings solvers past after :=
  ⟨rests, fun positive => absurd positive (by omega), fun _ => by omega⟩

theorem Watching.healthy (held : Watching settings solvers past node)
    (healthy : HealthyUpdate event) :
    HealthyInARow settings solvers (node.goodFrames + 1) event (event :: past) := by
  cases good : node.goodFrames with
  | zero => exact ⟨event, .first healthy past⟩
  | succ count =>
    obtain ⟨last, opening, chain⟩ := held.streak (by omega)
    rw [good] at chain
    exact ⟨opening, chain.next healthy trivial⟩

theorem Watching.search {counted : RelocalizationNode} (course : counted.SearchCourse after)
    (rests : counted.state = .idle ∨ counted.state = .cooldown → counted.poseReliable = true)
    (few : counted.goodFrames < 3)
    (streak : 0 < counted.goodFrames →
      ∃ last, HealthyInARow settings solvers counted.goodFrames last past) :
    Watching settings solvers past after := by
  obtain ⟨good, resting⟩ := search_watches course
  refine ⟨fun resumes => ?_, by rw [good]; exact streak, fun _ => good ▸ few⟩
  rcases resting with ⟨-, active, busy⟩ | ⟨reliable, state⟩
  · exact absurd resumes (by simp [active, busy])
  · rw [reliable]
    exact rests (state ▸ resumes)

theorem Watching.update (held : Watching settings solvers past node) {stampSec : Scalar}
    {ndtHealthy : Bool} {maps : SearchMaps}
    (begun : node.lastUpdateFrame < node.runtimeFrameIndex) (enabled : settings.enabled = true)
    (course : node.UpdateCourse settings ndtHealthy after) :
    Watching settings solvers (⟨node, .update stampSec ndtHealthy maps⟩ :: past) after ∧
      (node.poseReliable = false → after.poseReliable = true →
        HealthyInARow settings solvers 3 ⟨node, .update stampSec ndtHealthy maps⟩
          (⟨node, .update stampSec ndtHealthy maps⟩ :: past)) := by
  have counted (healthy : ndtHealthy = true) (unforced : node.forceGlobal = false) :
      HealthyInARow settings solvers (node.goodFrames + 1) ⟨node, .update stampSec ndtHealthy maps⟩
        (⟨node, .update stampSec ndtHealthy maps⟩ :: past) :=
    held.healthy ⟨by simp [updates, begun], unforced, stampSec, maps, by rw [healthy]⟩
  cases course with
  | disabled off => exact absurd enabled (by simp [off])
  | settles state healthy cooling settled =>
    have reliable := held.rests (.inr cooling)
    exact ⟨watching_of_zero (fun _ => reliable) rfl,
      fun lost => absurd lost (by simp [reliable])⟩
  | stays healthy unforced idle =>
    have reliable := held.rests (.inl idle)
    refine ⟨⟨fun _ => reliable, fun _ => ⟨_, counted healthy unforced⟩, fun lost => ?_⟩,
      fun lost => absurd lost (by simp [reliable])⟩
    exact absurd lost (by simp [reliable])
  | recovers healthy unforced enough =>
    refine ⟨watching_of_zero (fun _ => rfl) rfl, fun lost _ => ?_⟩
    -- An unreliable pose has been waiting for exactly this frame.
    have few := held.few lost
    rw [show 3 = node.goodFrames + 1 by omega]
    exact counted healthy unforced
  | hopes healthy unforced few searches =>
    refine ⟨.search searches held.rests few fun _ => ⟨_, counted healthy unforced⟩, ?_⟩
    intro lost reliable
    rcases (search_watches searches).2 with ⟨stays, -⟩ | ⟨stays, -⟩
    · exact absurd reliable (by simp [stays])
    · exact absurd reliable (by simp [stays, lost])
  | fails searches =>
    refine ⟨.search searches held.rests (by simp) fun positive => absurd positive (by simp), ?_⟩
    intro lost reliable
    rcases (search_watches searches).2 with ⟨stays, -⟩ | ⟨stays, -⟩
    · exact absurd reliable (by simp [stays])
    · exact absurd reliable (by simp [stays, lost])

theorem Watching.loopClosure (held : Watching settings solvers past node)
    (result : LoopClosureResult) :
    Watching settings solvers (⟨node, .loopClosure result⟩ :: past)
        (node.consumeLoopClosureResult settings solvers result) ∧
      (node.poseReliable = false →
        (node.consumeLoopClosureResult settings solvers result).poseReliable = false) := by
  unfold consumeLoopClosureResult
  by_cases current : node.loopClosureCurrent result = true
  · rw [if_pos current]
    refine ⟨watching_of_zero (fun resting => ?_) rfl, fun _ => rfl⟩
    rcases resting with idle | cooling
    · cases idle
    · cases cooling
  · rw [if_neg current]
    exact ⟨held.keep ⟨rfl, by simpa [breaks] using current⟩ rfl rfl rfl, fun lost => lost⟩

theorem Watching.consume (held : Watching settings solvers past node) {stampSec : Scalar}
    {constraint : Isometry → Isometry} :
    Watching settings solvers (⟨node, .consume stampSec constraint⟩ :: past)
        (node.step settings solvers (.consume stampSec constraint)).1 ∧
      (node.poseReliable = false →
        (node.step settings solvers (.consume stampSec constraint)).1.poseReliable = true →
        (node.step settings solvers (.consume stampSec constraint)).2.isSome = true) := by
  have course : node.ConsumeCourse settings solvers stampSec _ _ := consume_course constraint
  have between : (node.consumeRelocalizationResult settings solvers stampSec constraint).2 = none →
      Between settings solvers ⟨node, .consume stampSec constraint⟩ := by
    intro nothing
    refine ⟨rfl, ?_⟩
    show Option.isSome (node.consumeRelocalizationResult settings solvers stampSec constraint).2 = _
    rw [nothing]
    rfl
  unfold RelocalizationNode.step
  simp only
  generalize (node.consumeRelocalizationResult settings solvers stampSec constraint).1 = after
    at course ⊢
  generalize (node.consumeRelocalizationResult settings solvers stampSec constraint).2 = applied
    at course between ⊢
  -- Only an applied pose touches the flag, and a result that is judged ends a rest.
  have active {next : RelocalizationNode} (reliable : next.poseReliable = node.poseReliable)
      (good : next.goodFrames = node.goodFrames) (busy : next.state = .degraded ∨
        next.state = .confirming) (silent : Between settings solvers
          ⟨node, .consume stampSec constraint⟩) :
      Watching settings solvers (⟨node, .consume stampSec constraint⟩ :: past) next := by
    refine ⟨fun resting => ?_, fun positive => ?_, by rw [reliable, good]; exact held.few⟩
    · rcases busy with busy | busy <;> simp [busy] at resting
    · obtain ⟨last, opening, chain⟩ := held.streak (good ▸ positive)
      exact ⟨last, opening, by rw [good]; exact chain.idle silent⟩
  cases course with
  | nothing => exact ⟨held.keep (between rfl) rfl rfl rfl, fun lost found => by simp_all⟩
  | ignores => exact ⟨held.keep (between rfl) rfl rfl rfl, fun lost found => by simp_all⟩
  | repeats => exact ⟨held.keep (between rfl) rfl rfl rfl, fun lost found => by simp_all⟩
  | discards =>
    exact ⟨active rfl rfl (.inl rfl) (between rfl), fun lost found => absurd found (by
      simp [RelocalizationNode.discarded, lost])⟩
  | confirms =>
    exact ⟨active rfl rfl (.inr rfl) (between rfl), fun lost found => absurd found (by
      simp [RelocalizationNode.confirming, lost])⟩
  | applies => exact ⟨watching_of_zero (fun _ => rfl) rfl, fun _ _ => rfl⟩

theorem Watching.step (held : Watching settings solvers past node) (call : RelocalizationCall)
    (enabled : settings.enabled = true) :
    Watching settings solvers (⟨node, call⟩ :: past) (node.step settings solvers call).1 ∧
      (call ≠ .rollback → Regains settings solvers ⟨node, call⟩ →
        Justified settings solvers ⟨node, call⟩ past) := by
  -- A call that leaves the flag alone does not regain anything.
  have unmoved {event : RelocalizationEvent}
      (same : (outcome settings solvers event).1.poseReliable = event.before.poseReliable)
      (regains : Regains settings solvers event) : Justified settings solvers event past := by
    obtain ⟨lost, found⟩ := regains
    rw [same, lost] at found
    cases found
  cases call with
  | frame => exact ⟨held.keep ⟨rfl, rfl⟩ rfl rfl rfl, fun _ => unmoved rfl⟩
  | consume stampSec constraint =>
    obtain ⟨watching, applies⟩ := @held.consume _ _ _ _ _ stampSec constraint
    exact ⟨watching, fun _ regains => .inr (.inl (applies regains.1 regains.2))⟩
  | update stampSec ndtHealthy maps =>
    by_cases begun : node.lastUpdateFrame < node.runtimeFrameIndex
    · have ran : node.step settings solvers (.update stampSec ndtHealthy maps) =
          ({ node.updateRelocalization settings stampSec ndtHealthy maps with
            lastUpdateFrame := node.runtimeFrameIndex }, none) := if_pos begun
      obtain ⟨⟨rests, streak, few⟩, regains⟩ := @held.update _ _ _ _ _ _ stampSec _ maps begun
        enabled (@update_course _ _ stampSec maps ndtHealthy)
      refine ⟨?_, fun _ regained => .inl (regains regained.1 ?_)⟩
      · rw [ran]
        exact ⟨rests, streak, few⟩
      · have found := regained.2
        unfold outcome at found
        rw [ran] at found
        exact found
    · have skipped : node.step settings solvers (.update stampSec ndtHealthy maps) =
          (node, none) := if_neg begun
      rw [skipped]
      refine ⟨held.keep ⟨by simp [updates, begun], rfl⟩ rfl rfl rfl, fun _ => unmoved ?_⟩
      unfold outcome
      rw [skipped]
  | register pose => exact ⟨held.keep ⟨rfl, rfl⟩ rfl rfl rfl, fun _ => unmoved rfl⟩
  | loopClosure result =>
    obtain ⟨watching, lost⟩ := held.loopClosure result
    refine ⟨watching, fun _ regains => ?_⟩
    exact absurd regains.2 (by rw [outcome]; simpa [RelocalizationNode.step] using lost regains.1)
  | reset => exact ⟨watching_of_zero (fun _ => rfl) rfl, fun _ _ => .inr (.inr rfl)⟩
  | loadCloud generated =>
    refine ⟨watching_of_zero (fun resting => ?_) rfl, fun _ regains => ?_⟩
    · simp [RelocalizationNode.step, loadMap, enabled] at resting
    · exact absurd regains.2 (by simp [outcome, RelocalizationNode.step, loadMap, enabled])
  | loadSession heading =>
    refine ⟨watching_of_zero (fun resting => ?_) rfl, fun _ regains => ?_⟩
    · simp [RelocalizationNode.step, loadMap, enabled] at resting
    · exact absurd regains.2 (by simp [outcome, RelocalizationNode.step, loadMap, enabled])
  | relocalize =>
    unfold RelocalizationNode.step relocalizeService
    rw [if_pos enabled]
    refine ⟨held.keep ⟨rfl, rfl⟩ rfl rfl rfl, fun _ => unmoved ?_⟩
    simp [outcome, RelocalizationNode.step, relocalizeService, enabled]
  | rebuildMap => exact ⟨held.keep ⟨rfl, rfl⟩ rfl rfl rfl, fun _ => unmoved rfl⟩
  | rollback => exact ⟨watching_of_zero (fun _ => rfl) rfl, fun other => absurd rfl other⟩
  | takeJob =>
    have same : (node.takeJob).state = node.state ∧
        (node.takeJob).poseReliable = node.poseReliable ∧
        (node.takeJob).goodFrames = node.goodFrames := by
      unfold RelocalizationNode.takeJob
      split
      · exact ⟨rfl, rfl, rfl⟩
      · exact ⟨rfl, rfl, rfl⟩
    exact ⟨held.keep ⟨rfl, rfl⟩ same.1 same.2.1 same.2.2, fun _ => unmoved same.2.1⟩
  | finish solution =>
    have same : (node.finish solution).state = node.state ∧
        (node.finish solution).poseReliable = node.poseReliable ∧
        (node.finish solution).goodFrames = node.goodFrames := by
      unfold RelocalizationNode.finish
      split
      · exact ⟨rfl, rfl, rfl⟩
      · exact ⟨rfl, rfl, rfl⟩
    exact ⟨held.keep ⟨rfl, rfl⟩ same.1 same.2.1 same.2.2, fun _ => unmoved same.2.1⟩

theorem watching_run (enabled : settings.enabled = true) (binding : MapBinding)
    (calls : List RelocalizationCall) :
    Watching settings solvers ((machine settings solvers binding).trace calls)
      ((machine settings solvers binding).run calls) := by
  refine @Machine.run_invariant _ _ _ (machine settings solvers binding)
    (Watching settings solvers) ?_ ?_ calls
  · exact watching_of_zero (fun _ => rfl) rfl
  · intro past node call held
    exact (held.step call enabled).1

theorem rollback_unjustified (rolls : event.call = .rollback) :
    ¬Justified settings solvers event past := by
  rintro (⟨opening, chain⟩ | applied | resets)
  · obtain ⟨-, -, stampSec, maps, updates⟩ := chain.last_counted
    rw [rolls] at updates
    cases updates
  · unfold outcome at applied
    rw [rolls] at applied
    cases applied
  · rw [rolls] at resets
    cases resets

/--
A pose that has been given up becomes reliable on evidence only, exactly if time goes back only
while the pose is reliable.
-/
theorem regains_on_evidence_iff (settings : RelocalizationSettings) (solvers : RailSolvers)
    (enabled : settings.enabled = true) (binding : MapBinding) (calls : List RelocalizationCall) :
    RegainsOnEvidence settings solvers ((machine settings solvers binding).trace calls) ↔
      ∀ event ∈ (machine settings solvers binding).trace calls, event.call = .rollback →
        event.before.poseReliable = true := by
  constructor
  · intro justified event member rolls
    obtain ⟨newer, older, split⟩ := List.append_of_mem member
    by_contra lost
    refine rollback_unjustified rolls (justified newer event older split ⟨by simpa using lost, ?_⟩)
    unfold outcome
    rw [rolls]
    rfl
  · intro safe newer event older split regains
    obtain ⟨earlier, rfl, before⟩ := (machine settings solvers binding).trace_split split
    have held := @watching_run _ settings solvers enabled binding earlier
    rw [← before] at held
    refine (held.step event.call enabled).2 (fun rolls => ?_) regains
    -- Such a rollback would have found an unreliable pose.
    have reliable := safe event (by rw [split]; simp) rolls
    rw [regains.1] at reliable
    cases reliable

end Streaks

section Samples

attribute [local instance] straightPlane

def healthyFrame : List RelocalizationCall := [.update 1 true {}, .frame]

def beforeThirdUpdate : List RelocalizationCall :=
  healthyFrame.tail ++ healthyFrame ++ healthyFrame ++ [.loopClosure earlyLoopClosure]

theorem third_frame_regains :
    Regains freeSettings noSolvers ⟨freeMachine.run beforeThirdUpdate, .update 1 true {}⟩ ∧
      RegainsOnEvidence freeSettings noSolvers
        (freeMachine.trace (.update 1 true {} :: beforeThirdUpdate)) := by
  have lost : (freeMachine.run beforeThirdUpdate).poseReliable = false := by decide
  have found : (freeMachine.run (.update 1 true {} :: beforeThirdUpdate)).poseReliable = true := by
    decide
  refine ⟨⟨lost, found⟩,
    (regains_on_evidence_iff freeSettings noSolvers rfl freshBinding _).mpr ?_⟩
  -- Time does not go back in this run.
  intro event member rolls
  have forward : (freeMachine.trace (.update 1 true {} :: beforeThirdUpdate)).all (fun event =>
      match event.call with
      | .rollback => false
      | _ => true) = true := by
    decide
  have other := List.all_eq_true.mp forward event member
  rw [rolls] at other
  cases other

/-- A loop closure gives the pose up, and going back in time makes it reliable again. -/
theorem rollback_reauthorizes_pose :
    ¬∀ (settings : RelocalizationSettings) (solvers : RailSolvers) (binding : MapBinding)
      (calls : List RelocalizationCall), settings.enabled = true →
      RegainsOnEvidence settings solvers ((machine settings solvers binding).trace calls) := by
  intro justified
  have lost : (freeMachine.run [.loopClosure earlyLoopClosure]).poseReliable = false := by
    decide
  exact rollback_unjustified rfl (justified freeSettings noSolvers freshBinding
    [.rollback, .loopClosure earlyLoopClosure] rfl [] ⟨_, .rollback⟩ _ rfl ⟨lost, rfl⟩)

end Samples

end Relocalization
end NdtSlam
