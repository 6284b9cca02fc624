import NdtSlam.Identity.ReferencePass

/-! What a frame does to the reference of a load on its way across the boundary. -/

namespace NdtSlam

namespace PreloadHandover

section Boundaries

variable {edges : BoundaryEdges} {before : PreloadHandover}

theorem expireHandoff_cases : before.expireHandoff edges = before ∨
    before.expireHandoff edges = { before with handoff := none } := by
  unfold expireHandoff
  split
  · exact .inl rfl
  · dsimp only
    split
    · exact .inr rfl
    · exact .inl rfl

theorem expireHandoff_some {handoff : PreLoadHandoffSnapshot}
    (kept : (before.expireHandoff edges).handoff = some handoff) :
    before.expireHandoff edges = before ∧ before.handoff = some handoff ∧
      edges.gravityLoaded = true ∧ 0 ≤ edges.stampSec - handoff.loadEdgeStampSec ∧
      ¬edges.maximumGapSec < edges.stampSec - handoff.loadEdgeStampSec := by
  unfold expireHandoff at kept ⊢
  cases present : before.handoff with
  | none =>
    rw [present] at kept
    simp [present] at kept
  | some pending =>
    simp only [present] at kept ⊢
    split at kept
    · cases kept
    · rename_i fresh
      rw [if_neg fresh]
      obtain rfl := Option.some.inj (present.symm.trans kept)
      simp only [Bool.or_eq_true, Bool.not_eq_true', decide_eq_true_eq, not_or,
        Bool.not_eq_false, decide_eq_false_iff_not, not_not] at fresh
      exact ⟨rfl, rfl, fresh.1.1, fresh.1.2, fresh.2⟩

inductive Coalesced (edges : BoundaryEdges) (before : PreloadHandover) :
    PreloadHandover → Prop where
  | pending {handoff : PreLoadHandoffSnapshot}
      (kept : (before.expireHandoff edges).handoff = some handoff) : Coalesced edges before before
  | closed {boundary : PendingPreLoadBoundary}
      (expired : (before.expireHandoff edges).handoff = none)
      (waiting : before.boundary = some boundary) (closes : boundary.closes edges = true) :
      Coalesced edges before { before with
        handoff := some (boundary.handedOver edges)
        boundary := none
        formalLiftBoundaryAuthorized := true }
  | waits {boundary : PendingPreLoadBoundary}
      (expired : (before.expireHandoff edges).handoff = none)
      (waiting : before.boundary = some boundary) (unclosed : boundary.closes edges = false)
      (kept : boundary.givenUp edges = false) :
      Coalesced edges before { before with handoff := none }
  | idle (expired : (before.expireHandoff edges).handoff = none)
      (free : ∀ boundary, before.boundary = some boundary →
        boundary.closes edges = false ∧ boundary.givenUp edges = true)
      (quiet : before.certificate = none ∨ (edges.lifecycle || edges.load) = false) :
      Coalesced edges before { before with
        handoff := none
        boundary := none }
  | captured {certificate : FrozenPreloadReferenceCertificate}
      (expired : (before.expireHandoff edges).handoff = none)
      (free : ∀ boundary, before.boundary = some boundary →
        boundary.closes edges = false ∧ boundary.givenUp edges = true)
      (edge : (edges.lifecycle || edges.load) = true)
      (present : before.certificate = some certificate) :
      Coalesced edges before (({ before with
        handoff := none
        boundary := none } : PreloadHandover).capture edges certificate)

theorem captureBoundary_free (noHandoff : before.handoff = none)
    (noBoundary : before.boundary = none) :
    (before.captureBoundary edges = before ∧
        (before.certificate = none ∨ (edges.lifecycle || edges.load) = false)) ∨
      ∃ certificate, before.certificate = some certificate ∧
        (edges.lifecycle || edges.load) = true ∧
        before.captureBoundary edges = before.capture edges certificate := by
  have free : before.underway = false := by simp [underway, noHandoff, noBoundary]
  unfold captureBoundary
  rw [free]
  cases edge : (edges.lifecycle || edges.load) with
  | false => exact .inl ⟨rfl, .inr rfl⟩
  | true =>
    cases present : before.certificate with
    | none => exact .inl ⟨rfl, .inl rfl⟩
    | some certificate => exact .inr ⟨certificate, rfl, rfl, rfl⟩

theorem captureBoundary_underway (busy : before.underway = true) :
    before.captureBoundary edges = before := by
  unfold captureBoundary
  simp [busy]

theorem coalesce_spec : Coalesced edges before (before.coalesce edges false true) := by
  have same : before.coalesce edges false true =
      ((before.expireHandoff edges).promoteBoundary edges).captureBoundary edges := rfl
  rw [same]
  cases kept : (before.expireHandoff edges).handoff with
  | some handoff =>
    obtain ⟨unchanged, present, -⟩ := expireHandoff_some kept
    rw [unchanged]
    have still : before.promoteBoundary edges = before := by
      unfold promoteBoundary
      simp only [present]
      split
      · rename_i absent
        cases absent
      · rfl
    rw [still, captureBoundary_underway (by simp [underway, present])]
    exact .pending kept
  | none =>
    have dropped : before.expireHandoff edges = { before with handoff := none } := by
      rcases @expireHandoff_cases edges before with unchanged | dropped
      · rw [unchanged] at kept ⊢
        rw [← kept]
      · exact dropped
    rw [dropped]
    -- Only a frame that leaves nothing on its way may take the certificate away.
    have captures (free : ∀ boundary, before.boundary = some boundary →
        boundary.closes edges = false ∧ boundary.givenUp edges = true) :
        Coalesced edges before (({ before with
          handoff := none
          boundary := none } : PreloadHandover).captureBoundary edges) := by
      rcases @captureBoundary_free edges { before with handoff := none, boundary := none } rfl rfl
        with ⟨unchanged, quiet⟩ | ⟨certificate, present, edge, captured⟩
      · rw [unchanged]
        exact .idle kept free quiet
      · rw [captured]
        exact .captured kept free edge present
    cases waiting : before.boundary with
    | none =>
      exact captures (fun boundary present => by rw [waiting] at present; cases present)
    | some boundary =>
      unfold promoteBoundary
      dsimp only
      cases closes : boundary.closes edges with
      | true =>
        rw [if_pos rfl, captureBoundary_underway (by simp [underway])]
        exact .closed kept waiting closes
      | false =>
        rw [if_neg (by simp)]
        cases givenUp : boundary.givenUp edges with
        | true =>
          rw [if_pos rfl]
          refine captures (fun other present => ?_)
          obtain rfl := Option.some.inj (waiting.symm.trans present)
          exact ⟨closes, givenUp⟩
        | false =>
          rw [if_neg (by simp), captureBoundary_underway (by simp [underway])]
          have waits : Coalesced edges before { before with handoff := none } :=
            .waits kept waiting closes givenUp
          rwa [waiting] at waits

theorem coalesce_rearm : (before.coalesce edges true false).handoff = none ∧
    (before.coalesce edges true false).boundary = none ∧
    (before.coalesce edges true false).formalLiftBoundaryAuthorized =
      (!(before.expireHandoff edges).underway && before.formalLiftBoundaryAuthorized) := by
  have same : before.coalesce edges true false = (before.expireHandoff edges).clearAtRearm := rfl
  rw [same]
  unfold clearAtRearm
  cases busy : (before.expireHandoff edges).underway with
  | true => exact ⟨rfl, rfl, rfl⟩
  | false =>
    simp only [underway, Bool.or_eq_false_iff, Option.isSome_eq_false_iff,
      Option.isNone_iff_eq_none] at busy
    refine ⟨busy.1, busy.2, ?_⟩
    rcases @expireHandoff_cases edges before with unchanged | dropped
    · rw [unchanged]
      rfl
    · rw [dropped]
      rfl

end Boundaries

end PreloadHandover

namespace PreloadHandover

section Certificates

variable {edges : BoundaryEdges} {before : PreloadHandover}

theorem promoteBoundary_certificate :
    (before.promoteBoundary edges).certificate = before.certificate := by
  unfold promoteBoundary
  split
  · split
    · rfl
    · split
      · rfl
      · rfl
  · rfl

theorem coalesce_certificate : (before.coalesce edges false true).certificate =
    if (edges.lifecycle || edges.load) &&
        !((before.expireHandoff edges).promoteBoundary edges).underway then none
    else before.certificate := by
  have same : before.coalesce edges false true =
      ((before.expireHandoff edges).promoteBoundary edges).captureBoundary edges := rfl
  have kept : ((before.expireHandoff edges).promoteBoundary edges).certificate =
      before.certificate := by
    rw [promoteBoundary_certificate]
    rcases @expireHandoff_cases edges before with unchanged | dropped
    · rw [unchanged]
    · rw [dropped]
  rw [same]
  generalize (before.expireHandoff edges).promoteBoundary edges = promoted at kept ⊢
  unfold captureBoundary
  rw [Bool.and_comm]
  split
  · -- A certificate that is taken away is gone on every path.
    split
    · rename_i absent
      exact absent
    · unfold capture
      dsimp only
      split
      · rfl
      · split
        · rfl
        · rfl
  · exact kept

end Certificates

end PreloadHandover

namespace CargoPhysicalIdentityAuthority

section Frames

variable {self : CargoPhysicalIdentityAuthority} {input : CargoPhysicalIdentityInput}

theorem coalesced_handover_back (back : self.timeRollback input = true) :
    (self.coalesced input).handover.certificate = none ∧
      (self.coalesced input).handover.boundary = none ∧
      (self.coalesced input).handover.handoff = none ∧
      (self.coalesced input).handover.formalLiftBoundaryAuthorized = false := by
  have cleared : (self.coalesced input).handover =
      ({ invalidateReason := "SOURCE_TIME_ROLLBACK" } : PreloadHandover).coalesce
        (self.boundaryEdges input) input.rearm false := by
    simp [coalesced, rolledBack, back]
  rw [cleared]
  cases input.rearm
  · exact ⟨rfl, rfl, rfl, rfl⟩
  · exact ⟨rfl, rfl, rfl, rfl⟩

theorem coalesced_handover (forward : self.timeRollback input = false) :
    (self.coalesced input).handover =
      self.handover.coalesce (self.boundaryEdges input) input.rearm !input.rearm := by
  simp [coalesced, rolledBack, forward]

theorem entered_handover :
    (self.entered input).handover.boundary = (self.coalesced input).handover.boundary ∧
      (self.entered input).handover.handoff = (self.coalesced input).handover.handoff ∧
      (self.entered input).handover.certificate =
        (if self.endsEpoch input || self.unloads input then none
          else (self.coalesced input).handover.certificate) ∧
      (self.entered input).handover.formalLiftBoundaryAuthorized =
        (!(!self.endsEpoch input && self.unloads input) &&
          (self.coalesced input).handover.formalLiftBoundaryAuthorized) := by
  have picked : (self.entered input).handover =
      ((self.epochEntered input).unloaded input).handover := by
    unfold entered pickedUp
    split
    · split
      · rfl
      · rfl
    · rfl
  have puts := @unloads_epochEntered self input
  rw [picked]
  unfold unloaded
  rw [puts]
  -- Ending the epoch and putting down the load are looked at one after the other.
  cases ends : self.endsEpoch input with
  | true => simp [epochEntered, ends, PreloadHandover.invalidate]
  | false =>
    cases self.unloads input with
    | true => simp [epochEntered, ends, PreloadHandover.invalidate]
    | false => simp [epochEntered, ends]

theorem entered_referenceLock : (self.entered input).referenceLock =
    if self.timeRollback input then {} else self.referenceLock := by
  -- Neither epochs nor loads concern the formal reference.
  have picked (authority : CargoPhysicalIdentityAuthority) :
      (authority.pickedUp input).referenceLock = authority.referenceLock := by
    unfold pickedUp
    split
    · split
      · rfl
      · rfl
    · rfl
  have put (authority : CargoPhysicalIdentityAuthority) :
      (authority.unloaded input).referenceLock = authority.referenceLock := by
    unfold unloaded
    split
    · rfl
    · rfl
  have epoch : (self.epochEntered input).referenceLock = (self.rolledBack input).referenceLock := by
    unfold epochEntered
    dsimp only
    split
    · rfl
    · rfl
  unfold entered
  rw [picked, put, epoch]
  unfold rolledBack
  split
  · rfl
  · rfl

end Frames

section Passes

variable [IdentityMath] {self : CargoPhysicalIdentityAuthority}
  {input : CargoPhysicalIdentityInput}

theorem handoverOffered_frame :
    (self.handoverOffered input).certificate = (self.entered input).handover.certificate ∧
      (self.handoverOffered input).boundary = (self.entered input).handover.boundary ∧
      (self.handoverOffered input).formalLiftBoundaryAuthorized =
        (self.entered input).handover.formalLiftBoundaryAuthorized := by
  unfold handoverOffered
  dsimp only
  split
  · exact ⟨rfl, rfl, rfl⟩
  · exact ⟨rfl, rfl, rfl⟩

theorem passed_boundary :
    (self.passed input).handover.boundary = (self.entered input).handover.boundary ∧
      (self.passed input).handover.formalLiftBoundaryAuthorized =
        (self.entered input).handover.formalLiftBoundaryAuthorized := by
  obtain ⟨boundary, authorized⟩ := @GroupPass.through_boundary _ (self.observationContext input)
    (self.passStart input) (self.framed input)
  obtain ⟨-, sameBoundary, sameAuthorized⟩ := @handoverOffered_frame _ self input
  exact ⟨boundary.trans sameBoundary, authorized.trans sameAuthorized⟩

theorem passed_handoff (left : (self.passed input).handover.handoff.isSome) :
    (self.entered input).handover.handoff.isSome := by
  have handed := @GroupPass.through_handed _ (self.observationContext input)
    (self.passStart input) (self.framed input) rfl
  have passed : (self.passed input).handover.handoff = (self.handoverOffered input).handoff := by
    cases handed with
    | kept same => exact same
    | spent _ gone =>
      have absent : (self.passed input).handover.handoff = none := gone
      rw [absent] at left
      cases left
  rw [passed] at left
  unfold handoverOffered at left
  dsimp only at left
  split at left
  · cases left
  · exact left

variable (self input) in
def contradicted : Bool :=
  input.gravityEmpty && (self.passed input).handover.certificate.any fun certificate =>
    (self.framed input).any (contradicts self.config certificate)

theorem advanced_handover :
    (self.advanced input).handover.certificate =
        (if self.contradicted input then none
          else (self.passed input).handover.certificate) ∧
      (self.advanced input).handover.boundary = (self.passed input).handover.boundary ∧
      (self.advanced input).handover.handoff = (self.passed input).handover.handoff ∧
      (self.advanced input).handover.formalLiftBoundaryAuthorized =
        (self.passed input).handover.formalLiftBoundaryAuthorized := by
  have judged : (self.advanced input).handover = handoverJudged self.config input
    (self.framed input) (self.passed input).handover := rfl
  rw [judged]
  unfold handoverJudged contradicted
  cases present : (self.passed input).handover.certificate with
  | none => simp [present]
  | some certificate =>
    simp only [Option.any_some]
    split
    · exact ⟨rfl, rfl, rfl, rfl⟩
    · exact ⟨present, rfl, rfl, rfl⟩

end Passes

end CargoPhysicalIdentityAuthority

namespace DiagnosticSurfaceReferenceLock

variable [IdentityMath] {config : CargoPhysicalIdentityConfig}
  {input : CargoPhysicalIdentityInput} {lock : DiagnosticSurfaceReferenceLock}

def writing (lock : DiagnosticSurfaceReferenceLock) : FormalReference × Nat × Nat :=
  (lock.reference, lock.freezeCount, lock.overwriteAttemptCount)

omit [IdentityMath] in
theorem activated_writing {authorized gravityLoaded : Bool} :
    (lock.activated authorized gravityLoaded).writing = lock.writing := by
  unfold activated
  split
  · rfl
  · rfl

theorem afterFrame_writing : (lock.afterFrame config input).writing = lock.writing := by
  unfold afterFrame followed
  dsimp only
  split
  · -- What a frame says about the lift only concerns the counts.
    unfold confirm record
    split
    · rfl
    · split
      · rfl
      · rfl
    · rfl
  · rfl

theorem afterFrame_phase : (lock.afterFrame config input).phase = lock.phase := by
  unfold afterFrame followed
  dsimp only
  split
  · unfold confirm record
    split
    · rfl
    · split
      · rfl
      · rfl
    · rfl
  · rfl

end DiagnosticSurfaceReferenceLock

namespace CargoPhysicalIdentityAuthority

theorem advanced_writing [IdentityMath] {self : CargoPhysicalIdentityAuthority}
    {input : CargoPhysicalIdentityInput} : (self.advanced input).referenceLock.writing =
      (self.passed input).referenceLock.writing :=
  DiagnosticSurfaceReferenceLock.afterFrame_writing.trans
    DiagnosticSurfaceReferenceLock.activated_writing

end CargoPhysicalIdentityAuthority

end NdtSlam
