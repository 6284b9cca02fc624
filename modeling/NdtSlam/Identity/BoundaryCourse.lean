import NdtSlam.Identity.SingleWriter

/-! The course of a certificate across the boundary, as the past of a run shows it. -/

namespace NdtSlam

inductive BoundaryStage where
  | kept
  | waiting (phase : PreLoadBoundaryPhase) (firstEdgeStampSec : Scalar)
  | closed (loadEdgeStampSec : Scalar)

def BoundaryStage.AfterLifecycle : BoundaryStage → Prop
  | .kept => False
  | .waiting phase _ => phase = .waitingForLoad
  | .closed _ => True

namespace CargoPhysicalIdentityAuthority

section Edges

variable (self : CargoPhysicalIdentityAuthority) (input : CargoPhysicalIdentityInput)

def bringsFirstEdge : PreLoadBoundaryPhase → Bool
  | .waitingForLoad => self.lifecycleChanged input
  | .waitingForLifecycle => self.emptyToLoadedTransition input

def bringsSecondEdge : PreLoadBoundaryPhase → Bool
  | .waitingForLoad => self.emptyToLoadedTransition input
  | .waitingForLifecycle => self.lifecycleChanged input

def loadEdgeAt (firstEdgeStampSec : Scalar) : PreLoadBoundaryPhase → Scalar
  | .waitingForLoad => input.pipelineStampSec
  | .waitingForLifecycle => firstEdgeStampSec

structure TakesToBoundary (before : CargoPhysicalIdentityAuthority)
    (input : CargoPhysicalIdentityInput) (certificate : FrozenPreloadReferenceCertificate)
    (phase : PreLoadBoundaryPhase) : Prop where
  taken : before.handover.certificate = some certificate
  edge : before.bringsFirstEdge input phase = true
  waiting : ∃ boundary, (before.coalesced input).handover.boundary = some boundary ∧
    boundary.reference.certificate = certificate ∧ boundary.phase = phase ∧
    boundary.firstEdgeStampSec = input.pipelineStampSec

structure TakesAcross (before : CargoPhysicalIdentityAuthority)
    (input : CargoPhysicalIdentityInput) (certificate : FrozenPreloadReferenceCertificate) :
    Prop where
  taken : before.handover.certificate = some certificate
  lifecycle : before.lifecycleChanged input = true
  load : before.emptyToLoadedTransition input = true
  across : (before.coalesced input).handover.handoff =
    some { certificate, loadEdgeStampSec := input.pipelineStampSec }

structure ClosesBoundary (before : CargoPhysicalIdentityAuthority)
    (input : CargoPhysicalIdentityInput) (certificate : FrozenPreloadReferenceCertificate)
    (phase : PreLoadBoundaryPhase) (firstEdgeStampSec : Scalar) : Prop where
  waiting : ∃ boundary, before.handover.boundary = some boundary ∧
    boundary.reference.certificate = certificate ∧ boundary.phase = phase ∧
    boundary.firstEdgeStampSec = firstEdgeStampSec
  edge : before.bringsSecondEdge input phase = true
  inOrder : 0 ≤ input.pipelineStampSec - firstEdgeStampSec
  inTime : input.pipelineStampSec - firstEdgeStampSec ≤ before.config.maximumObservationGapSec
  across : (before.coalesced input).handover.handoff =
    some { certificate, loadEdgeStampSec := loadEdgeAt input firstEdgeStampSec phase }

variable [IdentityMath]

def settlesCertificate (certificate : FrozenPreloadReferenceCertificate) : Prop :=
  self.stampValid input = true ∧ (self.passed input).certificateCreated = true ∧
    (self.passed input).handover.certificate = some certificate

end Edges

/-- The way of a certificate from where it was settled to a stage of the boundary. -/
inductive BoundaryCourse [IdentityMath] (quiet : IdentityEvent → Prop)
    (certificate : FrozenPreloadReferenceCertificate) :
    BoundaryStage → List IdentityEvent → Prop where
  | settled {self : CargoPhysicalIdentityAuthority} {input : CargoPhysicalIdentityInput}
      (settles : self.settlesCertificate input certificate) (older : List IdentityEvent) :
      BoundaryCourse quiet certificate .kept (⟨self, .update input⟩ :: older)
  | stays {stage : BoundaryStage} {event : IdentityEvent} {past : List IdentityEvent}
      (course : BoundaryCourse quiet certificate stage past) (calm : quiet event) :
      BoundaryCourse quiet certificate stage (event :: past)
  | first {self : CargoPhysicalIdentityAuthority} {input : CargoPhysicalIdentityInput}
      {phase : PreLoadBoundaryPhase} {past : List IdentityEvent}
      (course : BoundaryCourse quiet certificate .kept past)
      (calm : quiet ⟨self, .update input⟩)
      (takes : self.TakesToBoundary input certificate phase) :
      BoundaryCourse quiet certificate (.waiting phase input.pipelineStampSec)
        (⟨self, .update input⟩ :: past)
  | both {self : CargoPhysicalIdentityAuthority} {input : CargoPhysicalIdentityInput}
      {past : List IdentityEvent} (course : BoundaryCourse quiet certificate .kept past)
      (calm : quiet ⟨self, .update input⟩) (takes : self.TakesAcross input certificate) :
      BoundaryCourse quiet certificate (.closed input.pipelineStampSec)
        (⟨self, .update input⟩ :: past)
  | second {self : CargoPhysicalIdentityAuthority} {input : CargoPhysicalIdentityInput}
      {phase : PreLoadBoundaryPhase} {firstEdgeStampSec : Scalar} {past : List IdentityEvent}
      (course : BoundaryCourse quiet certificate (.waiting phase firstEdgeStampSec) past)
      (calm : quiet ⟨self, .update input⟩)
      (closes : self.ClosesBoundary input certificate phase firstEdgeStampSec) :
      BoundaryCourse quiet certificate
        (.closed (loadEdgeAt input firstEdgeStampSec phase)) (⟨self, .update input⟩ :: past)

section Courses

variable [IdentityMath] {quiet : IdentityEvent → Prop}
  {certificate : FrozenPreloadReferenceCertificate} {stage : BoundaryStage}
  {past : List IdentityEvent}

theorem BoundaryCourse.since (course : BoundaryCourse quiet certificate stage past) :
    Since quiet (fun event => ∃ input, event.call = .update input ∧
      event.before.settlesCertificate input certificate) past := by
  -- Every call after the settling one is quiet, whether it moves the certificate or not.
  induction course with
  | settled settles older => exact .now ⟨_, rfl, settles⟩ older
  | stays _ calm ih => exact .later calm ih
  | first _ calm _ ih => exact .later calm ih
  | both _ calm _ ih => exact .later calm ih
  | second _ calm _ ih => exact .later calm ih

def bringsLifecycle (event : IdentityEvent) : Prop :=
  ∃ input, event.call = .update input ∧ event.before.lifecycleChanged input = true

theorem BoundaryCourse.lifecycle (course : BoundaryCourse quiet certificate stage past) :
    ∃ newer event older, past = newer ++ event :: older ∧
      (∃ input, event.call = .update input ∧
        event.before.settlesCertificate input certificate) ∧
      (stage.AfterLifecycle → ∃ later ∈ newer, bringsLifecycle later) := by
  induction course with
  | settled settles older =>
    exact ⟨[], _, older, rfl, ⟨_, rfl, settles⟩, fun absurd => absurd.elim⟩
  | @stays stage event past course calm ih =>
    obtain ⟨newer, settling, older, rfl, settles, seen⟩ := ih
    refine ⟨event :: newer, settling, older, rfl, settles, fun after => ?_⟩
    obtain ⟨later, member, brings⟩ := seen after
    exact ⟨later, List.mem_cons_of_mem _ member, brings⟩
  | @first self input phase past course calm takes ih =>
    obtain ⟨newer, settling, older, rfl, settles, -⟩ := ih
    refine ⟨⟨self, .update input⟩ :: newer, settling, older, rfl, settles, fun after => ?_⟩
    -- The boundary that waits for its load began with the lifecycle edge.
    have edge := takes.edge
    obtain rfl : phase = .waitingForLoad := after
    exact ⟨_, List.mem_cons_self, input, rfl, edge⟩
  | @both self input past course calm takes ih =>
    obtain ⟨newer, settling, older, rfl, settles, -⟩ := ih
    exact ⟨⟨self, .update input⟩ :: newer, settling, older, rfl, settles,
      fun _ => ⟨_, List.mem_cons_self, input, rfl, takes.lifecycle⟩⟩
  | @second self input phase firstEdgeStampSec past course calm closes ih =>
    obtain ⟨newer, settling, older, rfl, settles, seen⟩ := ih
    refine ⟨⟨self, .update input⟩ :: newer, settling, older, rfl, settles, fun _ => ?_⟩
    -- Either the second edge is the lifecycle edge, or the first one was.
    cases phase with
    | waitingForLoad =>
      obtain ⟨later, member, brings⟩ := seen rfl
      exact ⟨later, List.mem_cons_of_mem _ member, brings⟩
    | waitingForLifecycle => exact ⟨_, List.mem_cons_self, input, rfl, closes.edge⟩

end Courses

section Captures

variable {self : CargoPhysicalIdentityAuthority} {input : CargoPhysicalIdentityInput}

def Recorded (boundary : PendingPreLoadBoundary) : Prop :=
  boundary.phase = .waitingForLifecycle →
    boundary.reference.loadEdgeStampSec = boundary.firstEdgeStampSec

variable {boundary : PendingPreLoadBoundary}

theorem handedOver_eq (recorded : Recorded boundary) :
    boundary.handedOver (self.boundaryEdges input) = {
      certificate := boundary.reference.certificate
      loadEdgeStampSec := loadEdgeAt input boundary.firstEdgeStampSec boundary.phase } := by
  unfold PendingPreLoadBoundary.handedOver loadEdgeAt
  cases phase : boundary.phase with
  | waitingForLoad => rfl
  | waitingForLifecycle =>
    have stamp := recorded phase
    simp only
    rw [← stamp]

theorem closesBoundary_of_closes
    (waiting : self.handover.boundary = some boundary)
    (recorded : Recorded boundary)
    (closes : boundary.closes (self.boundaryEdges input) = true)
    (across : (self.coalesced input).handover.handoff =
      some (boundary.handedOver (self.boundaryEdges input))) :
    self.ClosesBoundary input boundary.reference.certificate boundary.phase
      boundary.firstEdgeStampSec := by
  simp only [PendingPreLoadBoundary.closes, PendingPreLoadBoundary.complementary,
    PendingPreLoadBoundary.pendingAge, Bool.and_eq_true] at closes
  obtain ⟨⟨edge, inOrder⟩, inTime⟩ := closes
  refine ⟨⟨boundary, waiting, rfl, rfl, rfl⟩, ?_, of_decide_eq_true inOrder,
    of_decide_eq_true inTime, ?_⟩
  · -- The edge that closes the boundary is the one it waited for.
    unfold bringsSecondEdge
    cases phase : boundary.phase with
    | waitingForLoad => simpa [phase, boundaryEdges] using edge
    | waitingForLifecycle => simpa [phase, boundaryEdges] using edge
  · rw [across, handedOver_eq recorded]

variable (self input) in
def changesLifecycleAlone : Prop :=
  self.lifecycleChanged input = true ∧ self.emptyToLoadedTransition input = false ∧
    input.gravityEmpty = false

inductive Taken (before : CargoPhysicalIdentityAuthority) (input : CargoPhysicalIdentityInput)
    (certificate : FrozenPreloadReferenceCertificate) (after : PreloadHandover) : Prop where
  | across (takes : before.TakesAcross input certificate) (noBoundary : after.boundary = none)
      (authorized : after.formalLiftBoundaryAuthorized = true)
  | toBoundary {boundary : PendingPreLoadBoundary}
      (takes : before.TakesToBoundary input certificate boundary.phase)
      (waiting : after.boundary = some boundary)
      (same : boundary.reference.certificate = certificate)
      (stamp : boundary.firstEdgeStampSec = input.pipelineStampSec)
      (recorded : Recorded boundary) (noHandoff : after.handoff = none)
      (authorized : after.formalLiftBoundaryAuthorized =
        before.handover.formalLiftBoundaryAuthorized)
  | unloaded (alone : before.changesLifecycleAlone input)

theorem taken_of_capture {certificate : FrozenPreloadReferenceCertificate}
    (edge : ((self.boundaryEdges input).lifecycle || (self.boundaryEdges input).load) = true)
    (present : self.handover.certificate = some certificate)
    (captured : (self.coalesced input).handover = ({ self.handover with
      handoff := none
      boundary := none } : PreloadHandover).capture (self.boundaryEdges input) certificate) :
    Taken self input certificate (self.coalesced input).handover := by
  have after := captured
  unfold PreloadHandover.capture at after
  dsimp only at after
  -- Both edges at once close the boundary, and one edge alone opens it.
  cases lifecycle : self.lifecycleChanged input with
  | true =>
    cases load : self.emptyToLoadedTransition input with
    | true =>
      rw [if_pos (by simp [boundaryEdges, lifecycle, load])] at after
      exact .across ⟨present, lifecycle, load, by rw [after]; rfl⟩ (by rw [after]; rfl)
        (by rw [after])
    | false =>
      cases empty : input.gravityEmpty with
      | true =>
        rw [if_neg (by simp [boundaryEdges, load]),
          if_pos (by simp [boundaryEdges, lifecycle, empty])] at after
        have waiting : (self.coalesced input).handover.boundary = some {
            reference := { certificate }
            phase := .waitingForLoad
            firstEdgeStampSec := input.pipelineStampSec } := by
          rw [after]
          rfl
        have takes : self.TakesToBoundary input certificate .waitingForLoad :=
          ⟨present, lifecycle, _, waiting, rfl, rfl, rfl⟩
        exact .toBoundary takes waiting rfl rfl (by rintro ⟨⟩) (by rw [after]; rfl) (by rw [after]; rfl)
      | false => exact .unloaded ⟨lifecycle, load, empty⟩
  | false =>
    have load : self.emptyToLoadedTransition input = true := by
      simpa [boundaryEdges, lifecycle] using edge
    rw [if_neg (by simp [boundaryEdges, lifecycle]),
      if_neg (by simp [boundaryEdges, lifecycle])] at after
    have waiting : (self.coalesced input).handover.boundary = some {
        reference := { certificate, loadEdgeStampSec := input.pipelineStampSec }
        phase := .waitingForLifecycle
        firstEdgeStampSec := input.pipelineStampSec } := by
      rw [after]
      rfl
    have takes : self.TakesToBoundary input certificate .waitingForLifecycle :=
      ⟨present, load, _, waiting, rfl, rfl, rfl⟩
    exact .toBoundary takes waiting rfl rfl (fun _ => rfl) (by rw [after]; rfl)
      (by rw [after]; rfl)

end Captures

end CargoPhysicalIdentityAuthority

end NdtSlam
