import NdtSlam.Identity.BoundaryCourse

/-! When the lift of the formal reference begins only behind the boundary of its certificate. -/

namespace NdtSlam.CargoPhysicalIdentityAuthority

section Conditions

variable (self : CargoPhysicalIdentityAuthority)

def interrupts : Call → Prop
  | .reset => True
  | .update input => self.timeRollback input = true ∨
      self.stampValid input = true ∧ (input.rearm = true ∨ self.unloads input = true)

def uninterrupted (event : IdentityEvent) : Prop := ¬event.before.interrupts event.call

def takesCertificate (input : CargoPhysicalIdentityInput) : Prop :=
  self.handover.certificate.isSome ∧
    ((self.handover.expireHandoff (self.boundaryEdges input)).promoteBoundary
      (self.boundaryEdges input)).underway = false

variable [IdentityMath]

structure BoundarySound (before : CargoPhysicalIdentityAuthority)
    (input : CargoPhysicalIdentityInput) : Prop where
  settles : (before.passed input).certificateCreated = true →
    (before.entered input).handover.formalLiftBoundaryAuthorized = false ∧
      (before.entered input).handover.boundary = none
  edges : before.changesLifecycleAlone input → ¬before.takesCertificate input
  ends : input.rearm = true ∨ before.unloads input = true →
    (before.entered input).handover.boundary = none ∧
      ((before.entered input).handover.formalLiftBoundaryAuthorized = true →
        (before.entered input).referenceLock.phase ≠ .preloadActive)

def SoundCall (event : IdentityEvent) : Prop :=
  ∀ input, event.call = .update input → event.before.stampValid input = true →
    event.before.BoundarySound input

def beginsLift (input : CargoPhysicalIdentityInput) : Prop :=
  self.stampValid input = true ∧
    (self.passed input).referenceLock.phase = .preloadActive ∧
    (self.advanced input).referenceLock.phase = .postloadActive

structure BoundaryTrack (past : List IdentityEvent) (handover : PreloadHandover)
    (lock : DiagnosticSurfaceReferenceLock) : Prop where
  kept : ∀ certificate, handover.certificate = some certificate →
    lock.phase = .preloadActive ∧ lock.reference = certificate.reference ∧
      handover.formalLiftBoundaryAuthorized = false ∧ handover.boundary = none ∧
      BoundaryCourse uninterrupted certificate .kept past
  waiting : ∀ boundary, handover.boundary = some boundary →
    lock.phase = .preloadActive ∧ lock.reference = boundary.reference.certificate.reference ∧
      handover.formalLiftBoundaryAuthorized = false ∧ Recorded boundary ∧
      BoundaryCourse uninterrupted boundary.reference.certificate
        (.waiting boundary.phase boundary.firstEdgeStampSec) past
  authorized : handover.formalLiftBoundaryAuthorized = true → lock.phase = .preloadActive →
    ∃ certificate loadEdgeStampSec, lock.reference = certificate.reference ∧
      BoundaryCourse uninterrupted certificate (.closed loadEdgeStampSec) past
  handedOver : handover.handoff.isSome → handover.formalLiftBoundaryAuthorized = true

end Conditions

section Stages

variable [IdentityMath] {self : CargoPhysicalIdentityAuthority}
  {input : CargoPhysicalIdentityInput} {past : List IdentityEvent}

omit [IdentityMath] in
theorem takesCertificate_of_coalesced {certificate : FrozenPreloadReferenceCertificate}
    (present : self.handover.certificate = some certificate)
    (edge : ((self.boundaryEdges input).lifecycle || (self.boundaryEdges input).load) = true)
    (taken : (self.handover.coalesce (self.boundaryEdges input) false true).certificate = none) :
    self.takesCertificate input := by
  refine ⟨by rw [present]; rfl, ?_⟩
  rw [PreloadHandover.coalesce_certificate, present, edge, Bool.true_and] at taken
  by_contra busy
  rw [Bool.not_eq_false] at busy
  rw [busy] at taken
  cases taken

omit [IdentityMath] in
theorem capture_certificate {edges : BoundaryEdges} {handover : PreloadHandover}
    {certificate : FrozenPreloadReferenceCertificate} :
    (handover.capture edges certificate).certificate = none := by
  unfold PreloadHandover.capture
  dsimp only
  split
  · rfl
  · split
    · rfl
    · rfl

theorem coalesced_track (sound : self.BoundarySound input)
    (forward : self.timeRollback input = false) (noRearm : input.rearm = false)
    (calm : uninterrupted ⟨self, .update input⟩)
    (track : BoundaryTrack past self.handover self.referenceLock) :
    BoundaryTrack (⟨self, .update input⟩ :: past) (self.coalesced input).handover
      self.referenceLock := by
  have followed := coalesced_handover forward
  rw [noRearm, Bool.not_false] at followed
  have spec := @PreloadHandover.coalesce_spec (self.boundaryEdges input) self.handover
  have taken := @taken_of_capture self input
  have closed := @closesBoundary_of_closes self input
  have takes := @takesCertificate_of_coalesced self input
  rw [← followed] at spec takes
  -- What stays where it is has only seen one more quiet call.
  have carried (handoff : Option PreLoadHandoffSnapshot)
      (boundary : Option PendingPreLoadBoundary)
      (sameBoundary : boundary = self.handover.boundary ∨ boundary = none)
      (sameHandoff : handoff = self.handover.handoff ∨ handoff = none) :
      BoundaryTrack (⟨self, .update input⟩ :: past)
        { self.handover with
          handoff
          boundary } self.referenceLock := by
    refine ⟨?_, ?_, ?_, ?_⟩
    · intro certificate present
      obtain ⟨phase, same, unauthorized, noBoundary, course⟩ := track.kept certificate present
      refine ⟨phase, same, unauthorized, ?_, .stays course calm⟩
      rcases sameBoundary with same | none
      · exact same.trans noBoundary
      · exact none
    · intro waiting found
      rcases sameBoundary with same | none
      · obtain ⟨phase, sameReference, unauthorized, recorded, course⟩ :=
          track.waiting waiting (same.symm.trans found)
        exact ⟨phase, sameReference, unauthorized, recorded, .stays course calm⟩
      · rw [none] at found
        cases found
    · intro authorized phase
      obtain ⟨certificate, stamp, same, course⟩ := track.authorized authorized phase
      exact ⟨certificate, stamp, same, .stays course calm⟩
    · intro present
      rcases sameHandoff with same | none
      · exact track.handedOver (same ▸ present)
      · rw [none] at present
        cases present
  generalize after : (self.coalesced input).handover = handover at spec taken closed takes ⊢
  cases spec with
  | pending => exact carried _ _ (.inl rfl) (.inl rfl)
  | waits => exact carried none self.handover.boundary (.inl rfl) (.inr rfl)
  | idle => exact carried none none (.inr rfl) (.inr rfl)
  | @closed boundary expired waiting closes =>
    -- The second edge closes the boundary of the lock.
    obtain ⟨phase, same, unauthorized, recorded, course⟩ := track.waiting boundary waiting
    have closing := closed waiting recorded closes rfl
    refine ⟨?_, ?_, ?_, fun _ => rfl⟩
    · intro certificate present
      obtain ⟨-, -, -, noBoundary, -⟩ := track.kept certificate present
      rw [noBoundary] at waiting
      cases waiting
    · intro other found
      cases found
    · intro _ _
      exact ⟨_, _, same, .second course calm closing⟩
  | @captured certificate expired free edge present =>
    obtain ⟨phase, same, unauthorized, noBoundary, course⟩ := track.kept certificate present
    have gone := @capture_certificate (self.boundaryEdges input)
      { self.handover with handoff := none, boundary := none } certificate
    cases taken edge present rfl with
    | across crossing noBoundary' authorized =>
      refine ⟨?_, ?_, ?_, fun _ => authorized⟩
      · intro other found
        rw [gone] at found
        cases found
      · intro other found
        rw [noBoundary'] at found
        cases found
      · intro _ _
        exact ⟨certificate, _, same, .both course calm crossing⟩
    | @toBoundary boundary opening waiting sameCertificate stamp recorded noHandoff sameAuthorized =>
      refine ⟨?_, ?_, ?_, ?_⟩
      · intro other found
        rw [gone] at found
        cases found
      · intro other found
        obtain rfl := Option.some.inj (waiting.symm.trans found)
        rw [sameCertificate, stamp]
        exact ⟨phase, same, sameAuthorized.trans unauthorized, recorded,
          .first course calm opening⟩
      · intro authorized _
        rw [sameAuthorized, unauthorized] at authorized
        cases authorized
      · intro found
        rw [noHandoff] at found
        cases found
    | unloaded alone => exact absurd (takes present edge gone) (sound.edges alone)

omit [IdentityMath] in
theorem handedOver_of_ends (forward : self.timeRollback input = false)
    (ends : input.rearm = true ∨ self.unloads input = true)
    (present : (self.entered input).handover.handoff.isSome) :
    (self.entered input).handover.formalLiftBoundaryAuthorized = true := by
  obtain ⟨-, handoff, -, authorized⟩ := @entered_handover self input
  have followed := coalesced_handover forward
  rw [handoff] at present
  rw [authorized]
  by_cases rearm : input.rearm = true
  · rw [followed, rearm, Bool.not_true, (PreloadHandover.coalesce_rearm).1] at present
    cases present
  · -- A hook that is empty keeps no handoff, and only another lifecycle gives it one.
    have noRearm : input.rearm = false := by simpa using rearm
    have puts := ends.resolve_left rearm
    have empty : input.gravityLoaded = false := by
      simp only [unloads, CargoPhysicalIdentityInput.gravityEmpty, Bool.and_eq_true,
        beq_iff_eq] at puts
      simp [CargoPhysicalIdentityInput.gravityLoaded, puts.1.1.2]
    have noLoad : self.emptyToLoadedTransition input = false := by
      simp [emptyToLoadedTransition, empty]
    rw [noRearm, Bool.not_false] at followed
    have spec := @PreloadHandover.coalesce_spec (self.boundaryEdges input) self.handover
    rw [← followed] at spec
    generalize (self.coalesced input).handover = after at spec present ⊢
    cases spec with
    | pending kept =>
      obtain ⟨-, -, loaded, -⟩ := PreloadHandover.expireHandoff_some kept
      have loaded' : input.gravityLoaded = true := loaded
      rw [empty] at loaded'
      cases loaded'
    | waits => cases present
    | idle => cases present
    | @closed boundary _ _ closes =>
      have lifecycle : self.lifecycleChanged input = true := by
        simp only [PendingPreLoadBoundary.closes, PendingPreLoadBoundary.complementary,
          Bool.and_eq_true] at closes
        have edge := closes.1.1
        cases phase : boundary.phase with
        | waitingForLoad => simp [phase, boundaryEdges, noLoad] at edge
        | waitingForLifecycle => simpa [phase, boundaryEdges] using edge
      simp [endsEpoch, lifecycle]
    | captured =>
      unfold PreloadHandover.capture at present
      rw [if_neg (by simp [boundaryEdges, noLoad])] at present
      split at present
      · cases present
      · cases present

theorem entered_track (sound : self.BoundarySound input)
    (track : BoundaryTrack past self.handover self.referenceLock) :
    BoundaryTrack (⟨self, .update input⟩ :: past) (self.entered input).handover
      (self.entered input).referenceLock := by
  obtain ⟨boundary, handoff, certificate, authorized⟩ := @entered_handover self input
  have lock := @entered_referenceLock self input
  by_cases back : self.timeRollback input = true
  · -- Going back in time leaves nothing to keep track of.
    obtain ⟨noCertificate, noBoundary, noHandoff, unauthorized⟩ := coalesced_handover_back back
    rw [noBoundary] at boundary
    rw [noHandoff] at handoff
    rw [noCertificate, ite_self] at certificate
    rw [unauthorized, Bool.and_false] at authorized
    refine ⟨?_, ?_, ?_, ?_⟩
    · intro other present
      rw [certificate] at present
      cases present
    · intro other waiting
      rw [boundary] at waiting
      cases waiting
    · intro allowed
      rw [authorized] at allowed
      cases allowed
    · intro present
      rw [handoff] at present
      cases present
  · have forward : self.timeRollback input = false := by simpa using back
    rw [if_neg back] at lock
    by_cases ends : input.rearm = true ∨ self.unloads input = true
    · obtain ⟨noBoundary, idle⟩ := sound.ends ends
      have noCertificate : (self.entered input).handover.certificate = none := by
        rw [certificate, if_pos]
        rcases ends with rearm | puts
        · simp [endsEpoch, rearm]
        · simp [puts]
      refine ⟨?_, ?_, ?_, ?_⟩
      · intro other present
        rw [noCertificate] at present
        cases present
      · intro other waiting
        rw [noBoundary] at waiting
        cases waiting
      · intro allowed phase
        exact absurd phase (idle allowed)
      · intro present
        exact handedOver_of_ends forward ends present
    · obtain ⟨noRearm, holds⟩ := not_or.mp ends
      rw [Bool.not_eq_true] at noRearm holds
      have calm : uninterrupted ⟨self, .update input⟩ := by
        rintro (gone | ⟨-, rearm | puts⟩)
        · exact back gone
        · rw [noRearm] at rearm
          cases rearm
        · rw [holds] at puts
          cases puts
      have followed := coalesced_track sound forward noRearm calm track
      rw [holds, Bool.and_false, Bool.not_false, Bool.true_and] at authorized
      -- The end of an epoch at most drops the certificate.
      refine ⟨?_, ?_, ?_, ?_⟩
      · intro other present
        rw [certificate] at present
        split at present
        · cases present
        · rw [lock, authorized, boundary]
          exact followed.kept other present
      · intro other waiting
        rw [boundary] at waiting
        rw [lock, authorized]
        exact followed.waiting other waiting
      · intro allowed
        rw [authorized] at allowed
        rw [lock]
        exact followed.authorized allowed
      · intro present
        rw [handoff] at present
        rw [authorized]
        exact followed.handedOver present

theorem passed_track (sound : self.BoundarySound input) (accepted : self.stampValid input = true)
    (track : BoundaryTrack (⟨self, .update input⟩ :: past) (self.entered input).handover
      (self.entered input).referenceLock) :
    BoundaryTrack (⟨self, .update input⟩ :: past) (self.passed input).handover
      (self.passed input).referenceLock := by
  obtain ⟨boundary, authorized⟩ := @passed_boundary _ self input
  have handedOver : (self.passed input).handover.handoff.isSome →
      (self.passed input).handover.formalLiftBoundaryAuthorized = true := by
    intro left
    rw [authorized]
    exact track.handedOver (passed_handoff left)
  have recorded := @passed_recorded _ self input
  cases recorded with
  | counted vacant certificate lock created =>
    have sameCertificate : (self.passed input).handover.certificate =
        (self.entered input).handover.certificate :=
      certificate.trans (@handoverOffered_frame _ self input).1
    have phase : (self.passed input).referenceLock.phase =
        (self.entered input).referenceLock.phase := by
      rw [lock]
      rfl
    have reference : (self.passed input).referenceLock.reference =
        (self.entered input).referenceLock.reference := by
      rw [lock]
      rfl
    refine ⟨?_, ?_, ?_, handedOver⟩
    · intro other present
      rw [sameCertificate] at present
      rw [phase, reference, authorized, boundary]
      exact track.kept other present
    · intro other waiting
      rw [boundary] at waiting
      rw [phase, reference, authorized]
      exact track.waiting other waiting
    · intro allowed active
      rw [authorized] at allowed
      rw [phase] at active
      rw [reference]
      exact track.authorized allowed active
  | created vacant found settled certificate number lock created =>
    -- A certificate that is settled begins its way with nothing else on the way.
    obtain ⟨unauthorized, noBoundary⟩ := sound.settles created
    rw [unauthorized] at authorized
    rw [noBoundary] at boundary
    refine ⟨?_, ?_, ?_, handedOver⟩
    · intro other present
      obtain rfl := Option.some.inj (certificate.symm.trans present)
      refine ⟨by rw [lock]; rfl, by rw [lock]; rfl, authorized, boundary, ?_⟩
      exact .settled ⟨accepted, created, certificate⟩ past
    · intro other waiting
      rw [boundary] at waiting
      cases waiting
    · intro allowed
      rw [authorized] at allowed
      cases allowed

theorem advanced_track
    (track : BoundaryTrack (⟨self, .update input⟩ :: past) (self.passed input).handover
      (self.passed input).referenceLock) :
    BoundaryTrack (⟨self, .update input⟩ :: past) (self.advanced input).handover
      (self.advanced input).referenceLock := by
  obtain ⟨certificate, boundary, handoff, authorized⟩ := @advanced_handover _ self input
  have reference : (self.advanced input).referenceLock.reference =
      (self.passed input).referenceLock.reference := congrArg (·.1) advanced_writing
  have phase : (self.advanced input).referenceLock.phase =
      (lockActivated input (self.passed input)).phase :=
    DiagnosticSurfaceReferenceLock.afterFrame_phase
  -- A lock that may not begin its lift keeps its phase.
  have idle (unauthorized : (self.passed input).handover.formalLiftBoundaryAuthorized = false) :
      (self.advanced input).referenceLock.phase = (self.passed input).referenceLock.phase := by
    rw [phase]
    unfold lockActivated DiagnosticSurfaceReferenceLock.activated
      DiagnosticSurfaceReferenceLock.activates
    rw [unauthorized]
    simp
  refine ⟨?_, ?_, ?_, ?_⟩
  · intro other present
    rw [certificate] at present
    split at present
    · cases present
    · have kept := track.kept other present
      rw [idle kept.2.2.1, reference, authorized, boundary]
      exact kept
  · intro other waiting
    rw [boundary] at waiting
    have waits := track.waiting other waiting
    rw [idle waits.2.2.1, reference, authorized]
    exact waits
  · intro allowed active
    rw [authorized] at allowed
    rw [reference]
    refine track.authorized allowed ?_
    -- Only a lock that was active before the load can still be.
    rw [phase] at active
    unfold lockActivated DiagnosticSurfaceReferenceLock.activated at active
    split at active
    · cases active
    · exact active
  · intro present
    rw [handoff] at present
    rw [authorized]
    exact track.handedOver present

end Stages

section Runs

variable [IdentityMath] {config : CargoPhysicalIdentityConfig}

theorem track_start {past : List IdentityEvent} {reason : String}
    {lock : DiagnosticSurfaceReferenceLock} :
    BoundaryTrack past { invalidateReason := reason } lock where
  kept _ present := nomatch present
  waiting _ found := nomatch found
  authorized allowed := nomatch allowed
  handedOver present := nomatch present

theorem run_track (calls : List Call)
    (sound : ∀ event ∈ (machine config).trace calls, SoundCall event) :
    BoundaryTrack ((machine config).trace calls) ((machine config).run calls).handover
      ((machine config).run calls).referenceLock := by
  -- The run and its past grow by the same call.
  induction calls with
  | nil => exact track_start
  | cons call older ih =>
    have before := ih fun event member => sound event (List.mem_cons_of_mem _ member)
    have here := sound ⟨(machine config).run older, call⟩ List.mem_cons_self
    show BoundaryTrack (⟨(machine config).run older, call⟩ :: (machine config).trace older)
      ((machine config).step ((machine config).run older) call).1.handover
      ((machine config).step ((machine config).run older) call).1.referenceLock
    cases call with
    | reset => exact track_start
    | update input =>
      by_cases accepted : ((machine config).run older).stampValid input = true
      · have frame := here input rfl accepted
        rw [step_accepted accepted]
        exact advanced_track (passed_track frame accepted (entered_track frame before))
      · rw [step_refused accepted]
        unfold rolledBack
        by_cases back : ((machine config).run older).timeRollback input = true
        · rw [if_pos back]
          exact track_start
        · -- A frame that is refused is one more quiet call.
          rw [if_neg back]
          have calm : uninterrupted ⟨(machine config).run older, .update input⟩ := by
            rintro (gone | ⟨stamped, -⟩)
            · exact back gone
            · exact accepted stamped
          refine ⟨?_, ?_, ?_, before.handedOver⟩
          · intro certificate present
            obtain ⟨phase, same, unauthorized, noBoundary, course⟩ :=
              before.kept certificate present
            exact ⟨phase, same, unauthorized, noBoundary, .stays course calm⟩
          · intro boundary waiting
            obtain ⟨phase, same, unauthorized, recorded, course⟩ :=
              before.waiting boundary waiting
            exact ⟨phase, same, unauthorized, recorded, .stays course calm⟩
          · intro allowed active
            obtain ⟨certificate, stamp, same, course⟩ := before.authorized allowed active
            exact ⟨certificate, stamp, same, .stays course calm⟩

/-- A lift that begins has the boundary of its own certificate behind it. -/
def LiftsBehindBoundary (config : CargoPhysicalIdentityConfig) (calls : List Call) : Prop :=
  ∀ newer older event input, (machine config).trace calls = newer ++ event :: older →
    event.call = .update input → event.before.beginsLift input →
      ∃ certificate loadEdgeStampSec,
        (event.before.advanced input).referenceLock.reference = certificate.reference ∧
          BoundaryCourse uninterrupted certificate (.closed loadEdgeStampSec) (event :: older)

/--
In a sound run, a lift only begins behind the boundary of the certificate that the formal
reference was settled with.
-/
theorem formal_lift_behind_boundary (config : CargoPhysicalIdentityConfig) (calls : List Call)
    (sound : ∀ event ∈ (machine config).trace calls, SoundCall event) :
    LiftsBehindBoundary config calls := by
  rintro newer older ⟨before, call⟩ input split rfl ⟨accepted, preload, begun⟩
  obtain ⟨earlier, rfl, start⟩ := Machine.trace_split _ split
  obtain rfl : before = (machine config).run earlier := start
  have frame := sound ⟨(machine config).run earlier, .update input⟩ (by rw [split]; simp) input rfl
    accepted
  have tracked := @run_track _ config earlier fun event member =>
    sound event (by rw [split]; simp [member])
  have track := passed_track frame accepted (entered_track frame tracked)
  -- The lock only leaves its phase where the boundary was authorized.
  have allowed : (((machine config).run earlier).passed input).handover.formalLiftBoundaryAuthorized =
      true := by
    have phase : (((machine config).run earlier).advanced input).referenceLock.phase =
        (lockActivated input (((machine config).run earlier).passed input)).phase :=
      DiagnosticSurfaceReferenceLock.afterFrame_phase
    rw [phase] at begun
    unfold lockActivated DiagnosticSurfaceReferenceLock.activated at begun
    split at begun
    · rename_i activates
      simp only [DiagnosticSurfaceReferenceLock.activates, Bool.and_eq_true] at activates
      exact activates.1.2
    · rw [preload] at begun
      cases begun
  obtain ⟨certificate, stamp, same, course⟩ := track.authorized allowed preload
  exact ⟨certificate, stamp, (congrArg (·.1) advanced_writing).trans same, course⟩

end Runs

section Samples

attribute [local instance] axisMath
attribute [local semireducible] Rat.add Rat.sub Rat.mul Rat.inv Rat.ofScientific

theorem lift_begins_at_both_edges :
    let machine := machine { liftConfirmFrames := 1 }
    let first : Call := .update (shownFrame 1 1 .empty [shownGroup 1 0 1 2])
    let second := shownFrame 1.1 2 .loaded []
    (machine.run [first]).beginsLift second ∧
      LiftsBehindBoundary { liftConfirmFrames := 1 } [.update second, first] := by
  intro machine first second
  refine ⟨⟨by decide, by decide, by decide⟩, ?_⟩
  refine formal_lift_behind_boundary _ _ ?_
  intro event member
  rcases List.mem_cons.mp member with rfl | member
  · rintro input same -
    obtain rfl := Call.update.inj same
    -- Both edges are seen, and nothing is settled any more.
    refine ⟨fun created => ?_, fun alone => ?_, fun ends => ?_⟩
    · exact absurd created (by decide)
    · exact absurd alone.2.1 (by decide)
    · exact absurd ends (by decide)
  · obtain rfl := List.mem_singleton.mp member
    rintro input same -
    obtain rfl := Call.update.inj same
    -- The first frame settles the reference while nothing is on its way.
    refine ⟨fun _ => ⟨by decide, ?_⟩, fun alone => ?_, fun ends => ?_⟩
    · exact Option.isNone_iff_eq_none.mp (by decide)
    · exact absurd alone.1 (by decide)
    · exact absurd ends (by decide)

/-- The boundary of an earlier load begins the lift of a later one, by the load edge alone. -/
theorem earlier_boundary_begins_lift :
    ¬LiftsBehindBoundary { liftConfirmFrames := 1 } [
      .update (shownFrame 1.3 3 .loaded []),
      .update (shownFrame 1.2 3 .empty [shownGroup 1.2 0 1 2]),
      .update (shownFrame 1.1 2 .loaded []),
      .update (shownFrame 1 1 .empty [shownGroup 1 0 1 2])] := by
  intro lifts
  obtain ⟨certificate, stamp, same, course⟩ := lifts [] _ _ _ rfl rfl
    ⟨by decide, by decide, by decide⟩
  have number : certificate.sourceHistoryId = 2 := by
    have source := congrArg FormalReference.sourceHistoryId same
    have second : (((machine { liftConfirmFrames := 1 }).run [
        .update (shownFrame 1.2 3 .empty [shownGroup 1.2 0 1 2]),
        .update (shownFrame 1.1 2 .loaded []),
        .update (shownFrame 1 1 .empty [shownGroup 1 0 1 2])]).advanced
        (shownFrame 1.3 3 .loaded [])).referenceLock.reference.sourceHistoryId = 2 := by
      decide
    exact source.symm.trans second
  obtain ⟨newer, settling, older, split, ⟨input, called, settles⟩, seen⟩ := course.lifecycle
  obtain ⟨later, member, input', called', brings⟩ := seen trivial
  -- The reference was settled by the third frame, and no lifecycle edge comes after it.
  rcases newer with _ | ⟨fourth, _ | ⟨third, _ | ⟨second, _ | ⟨first, rest⟩⟩⟩⟩
  · cases member
  · obtain ⟨rfl, -⟩ := List.cons.inj split
    obtain rfl := List.mem_singleton.mp member
    obtain rfl := Call.update.inj called'
    exact absurd brings (by decide)
  · obtain ⟨-, split⟩ := List.cons.inj split
    obtain ⟨-, split⟩ := List.cons.inj split
    obtain ⟨rfl, -⟩ := List.cons.inj split
    obtain rfl := Call.update.inj called
    exact absurd settles.2.1 (by decide)
  · obtain ⟨-, split⟩ := List.cons.inj split
    obtain ⟨-, split⟩ := List.cons.inj split
    obtain ⟨-, split⟩ := List.cons.inj split
    obtain ⟨rfl, -⟩ := List.cons.inj split
    obtain rfl := Call.update.inj called
    have first : ((((machine { liftConfirmFrames := 1 }).start.passed
        (shownFrame 1 1 .empty [shownGroup 1 0 1 2])).handover.certificate).map
          (·.sourceHistoryId)) = some 1 := by
      decide
    have settled := congrArg (Option.map (·.sourceHistoryId)) settles.2.2
    have one := settled.symm.trans first
    simp [number] at one
  · have lengths := congrArg List.length split
    simp [Machine.trace] at lengths

end Samples

end NdtSlam.CargoPhysicalIdentityAuthority
