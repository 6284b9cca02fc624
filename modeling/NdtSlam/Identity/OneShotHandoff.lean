import NdtSlam.Identity.HandoffPass

/-! When a certificate hands its reference over to one load at most. -/

namespace NdtSlam.CargoPhysicalIdentityAuthority

section Events

variable [IdentityMath] (self : CargoPhysicalIdentityAuthority)
  (input : CargoPhysicalIdentityInput) (certificate : FrozenPreloadReferenceCertificate)

def seedsAt (position id : Nat) : Prop :=
  ∃ diagnostic, (self.passed input).diagnostics[position]? = some diagnostic ∧
    diagnostic.preloadHandoffConsumed = true ∧ diagnostic.matchedHistoryId = some id

def offers : Prop :=
  ∃ handoff, (self.entered input).handover.handoff = some handoff ∧
    handoff.certificate = certificate

def seedsFrom : Call → Prop
  | .reset => False
  | .update input => self.stampValid input = true ∧ self.offers input certificate ∧
      ∃ position id, self.seedsAt input position id

omit [IdentityMath] in
def strands : Prop :=
  ∃ boundary, self.handover.boundary = some boundary ∧
    boundary.reference.certificate = certificate ∧
    (boundary.repeatEdge (self.boundaryEdges input) = true ∨
      (self.boundaryEdges input).maximumGapSec < boundary.pendingAge (self.boundaryEdges input))

def misses : Prop :=
  self.offers input certificate ∧ (self.handoffMatch input).isNone ∧ input.groups ≠ []

def discards : Call → Prop
  | .reset => True
  | .update input => self.timeRollback input = true ∨ self.stampValid input = true ∧
      (input.rearm = true ∨ self.strands input certificate ∨ self.misses input certificate)

def undiscarded (event : IdentityEvent) : Prop := ¬event.before.discards certificate event.call

def unspent (event : IdentityEvent) : Prop :=
  undiscarded certificate event ∧ ¬event.before.seedsFrom certificate event.call

def settles (event : IdentityEvent) : Prop :=
  ∃ input, event.call = .update input ∧ event.before.settlesCertificate input certificate

structure HandoffSound (before : CargoPhysicalIdentityAuthority)
    (input : CargoPhysicalIdentityInput) : Prop where
  edges : before.changesLifecycleAlone input → ¬before.takesCertificate input
  loaded : ∀ boundary, before.handover.boundary = some boundary →
    boundary.closes (before.boundaryEdges input) = true →
      input.gravityLoaded = true ∨ before.handoffMatch input = none
  apart : ∀ boundary, before.handover.boundary = some boundary →
    boundary.closes (before.boundaryEdges input) = true →
      boundary.repeatEdge (before.boundaryEdges input) = false

structure Carried (seen earlier : List IdentityEvent)
    (certificate : FrozenPreloadReferenceCertificate) (stage : BoundaryStage) : Prop where
  course : BoundaryCourse (undiscarded certificate) certificate stage seen
  once : Since (unspent certificate) (settles certificate) earlier

structure HandoffTrack (seen earlier : List IdentityEvent) (settled : Nat → Prop)
    (missed : FrozenPreloadReferenceCertificate → Prop) (handover : PreloadHandover) : Prop where
  kept : ∀ certificate, handover.certificate = some certificate →
    Carried seen earlier certificate .kept ∧ settled certificate.sourceHistoryId ∧
      (∀ boundary, handover.boundary = some boundary →
        boundary.reference.certificate.sourceHistoryId ≠ certificate.sourceHistoryId) ∧
      ∀ handoff, handover.handoff = some handoff →
        handoff.certificate.sourceHistoryId ≠ certificate.sourceHistoryId
  waiting : ∀ boundary, handover.boundary = some boundary →
    Carried seen earlier boundary.reference.certificate
        (.waiting boundary.phase boundary.firstEdgeStampSec) ∧
      settled boundary.reference.certificate.sourceHistoryId ∧ Recorded boundary ∧
      handover.handoff = none
  pending : ∀ handoff, handover.handoff = some handoff → ¬missed handoff.certificate →
    Carried seen earlier handoff.certificate (.closed handoff.loadEdgeStampSec) ∧
      settled handoff.certificate.sourceHistoryId

end Events

section Stages

variable [IdentityMath] {self : CargoPhysicalIdentityAuthority} {input : CargoPhysicalIdentityInput}
  {past : List IdentityEvent} {settled : Nat → Prop}
  {certificate : FrozenPreloadReferenceCertificate}

theorem undiscarded_of (forward : self.timeRollback input = false) (noRearm : input.rearm = false)
    (notStranded : ¬self.strands input certificate) (notMissed : ¬self.misses input certificate) :
    undiscarded certificate ⟨self, .update input⟩ := by
  rintro (back | ⟨-, rearm | stranded | missed⟩)
  · rw [forward] at back
    cases back
  · rw [noRearm] at rearm
    cases rearm
  · exact notStranded stranded
  · exact notMissed missed

omit [IdentityMath] in
theorem offers_coalesced (offered : self.offers input certificate) :
    ∃ handoff, (self.coalesced input).handover.handoff = some handoff ∧
      handoff.certificate = certificate := by
  obtain ⟨handoff, found, same⟩ := offered
  exact ⟨handoff, (@entered_handover self input).2.1.symm.trans found, same⟩

def nothingMissed (_ : FrozenPreloadReferenceCertificate) : Prop := False

theorem coalesced_handoffTrack (sound : self.HandoffSound input)
    (forward : self.timeRollback input = false) (noRearm : input.rearm = false)
    (track : HandoffTrack past past settled nothingMissed self.handover) :
    HandoffTrack (⟨self, .update input⟩ :: past) past settled (self.misses input)
      (self.coalesced input).handover := by
  have followed := coalesced_handover forward
  rw [noRearm, Bool.not_false] at followed
  have spec := @PreloadHandover.coalesce_spec (self.boundaryEdges input) self.handover
  have taken := @taken_of_capture self input
  have closed := @closesBoundary_of_closes self input
  have takes := @takesCertificate_of_coalesced self input
  have offered := @offers_coalesced self input
  rw [← followed] at spec takes
  -- A certificate that is kept differs from everything that the frame could discard.
  have keeps {certificate : FrozenPreloadReferenceCertificate}
      (present : self.handover.certificate = some certificate)
      (apart : ∀ handoff, (self.coalesced input).handover.handoff = some handoff →
        handoff.certificate.sourceHistoryId ≠ certificate.sourceHistoryId) :
      undiscarded certificate ⟨self, .update input⟩ := by
    obtain ⟨-, -, apartBoundary, -⟩ := track.kept certificate present
    refine undiscarded_of forward noRearm ?_ ?_
    · rintro ⟨boundary, waiting, same, -⟩
      exact apartBoundary boundary waiting (by rw [same])
    · rintro ⟨offering, -⟩
      obtain ⟨handoff, found, same⟩ := offered offering
      exact apart handoff found (by rw [same])
  -- While nothing has been handed over, the frame misses nothing.
  have unmissed (certificate : FrozenPreloadReferenceCertificate)
      (noHandoff : (self.coalesced input).handover.handoff = none) :
      ¬self.misses input certificate := by
    rintro ⟨offering, -⟩
    obtain ⟨handoff, found, -⟩ := offered offering
    rw [noHandoff] at found
    cases found
  generalize result : (self.coalesced input).handover = after
    at spec taken closed takes keeps unmissed ⊢
  cases spec with
  | @pending handoff kept =>
    obtain ⟨-, present, -⟩ := PreloadHandover.expireHandoff_some kept
    refine ⟨?_, ?_, ?_⟩
    · intro certificate found
      obtain ⟨carried, known, apartBoundary, apartHandoff⟩ := track.kept certificate found
      exact ⟨⟨.stays carried.course (keeps found apartHandoff), carried.once⟩, known,
        apartBoundary, apartHandoff⟩
    · intro boundary waiting
      obtain ⟨-, -, -, noHandoff⟩ := track.waiting boundary waiting
      rw [present] at noHandoff
      cases noHandoff
    · intro other found notMissed
      obtain ⟨carried, known⟩ := track.pending other found id
      refine ⟨⟨.stays carried.course (undiscarded_of forward noRearm ?_ notMissed),
        carried.once⟩, known⟩
      rintro ⟨boundary, waiting, -⟩
      obtain ⟨-, -, -, noHandoff⟩ := track.waiting boundary waiting
      rw [present] at noHandoff
      cases noHandoff
  | @closed boundary expired waiting closes =>
    obtain ⟨carried, known, recorded, -⟩ := track.waiting boundary waiting
    have across := @handedOver_eq self input boundary recorded
    have closing := closed waiting recorded closes rfl
    refine ⟨?_, ?_, ?_⟩
    · intro certificate found
      obtain ⟨kept, knownCertificate, apartBoundary, -⟩ := track.kept certificate found
      have apart : ∀ handoff, some (boundary.handedOver (self.boundaryEdges input)) =
          some handoff → handoff.certificate.sourceHistoryId ≠ certificate.sourceHistoryId := by
        rintro handoff handed
        obtain rfl := Option.some.inj handed
        rw [across]
        exact apartBoundary boundary waiting
      exact ⟨⟨.stays kept.course (keeps found apart), kept.once⟩, knownCertificate,
        (fun other none => by cases none), apart⟩
    · intro other found
      cases found
    · intro handoff handed notMissed
      obtain rfl := Option.some.inj handed
      rw [across] at notMissed ⊢
      -- A frame that closes the boundary in time neither repeats an edge nor comes too late.
      have calm : undiscarded boundary.reference.certificate ⟨self, .update input⟩ := by
        refine undiscarded_of forward noRearm ?_ notMissed
        rintro ⟨other, waiting', -, repeated | late⟩
        · obtain rfl := Option.some.inj (waiting.symm.trans waiting')
          rw [sound.apart boundary waiting closes] at repeated
          cases repeated
        · obtain rfl := Option.some.inj (waiting.symm.trans waiting')
          exact Scalar.not_lt_of_le closing.inTime late
      refine ⟨⟨?_, carried.once⟩, known⟩
      exact .second carried.course calm closing
  | @waits boundary expired waiting unclosed kept =>
    refine ⟨?_, ?_, ?_⟩
    · intro certificate found
      obtain ⟨carried, known, apartBoundary, -⟩ := track.kept certificate found
      exact ⟨⟨.stays carried.course (keeps found (fun handoff none => by cases none)), carried.once⟩,
        known, apartBoundary, (fun handoff none => by cases none)⟩
    · intro other found
      obtain ⟨carried, known, recorded, -⟩ := track.waiting other found
      obtain rfl := Option.some.inj (waiting.symm.trans found)
      -- A boundary that is not given up has seen nothing twice, and is not too old.
      simp only [PendingPreLoadBoundary.givenUp, Bool.or_eq_false_iff,
        decide_eq_false_iff_not] at kept
      refine ⟨⟨.stays carried.course (undiscarded_of forward noRearm ?_ (unmissed _ rfl)),
        carried.once⟩, known, recorded, rfl⟩
      rintro ⟨other, waiting', -, repeated | late⟩
      · obtain rfl := Option.some.inj (waiting.symm.trans waiting')
        rw [kept.1.2] at repeated
        cases repeated
      · obtain rfl := Option.some.inj (waiting.symm.trans waiting')
        exact kept.1.1 late
    · intro handoff none
      cases none
  | idle expired free quiet =>
    refine ⟨?_, ?_, ?_⟩
    · intro certificate found
      obtain ⟨carried, known, -, -⟩ := track.kept certificate found
      exact ⟨⟨.stays carried.course (keeps found (fun handoff none => by cases none)), carried.once⟩,
        known, (fun boundary none => by cases none), (fun handoff none => by cases none)⟩
    · intro boundary none
      cases none
    · intro handoff none
      cases none
  | @captured certificate expired free edge present =>
    obtain ⟨carried, known, apartBoundary, apartHandoff⟩ := track.kept certificate present
    have gone := @capture_certificate (self.boundaryEdges input)
      { self.handover with handoff := none, boundary := none } certificate
    -- The certificate differs from a boundary that the frame gives up.
    have notStranded : ¬self.strands input certificate := by
      rintro ⟨boundary, waiting, same, -⟩
      exact apartBoundary boundary waiting (by rw [same])
    cases taken edge present rfl with
    | across crossing noBoundary authorized =>
      refine ⟨?_, ?_, ?_⟩
      · intro other found
        rw [gone] at found
        cases found
      · intro other found
        rw [noBoundary] at found
        cases found
      · intro handoff handed notMissed
        have across := crossing.across
        rw [result] at across
        obtain rfl := Option.some.inj (handed.symm.trans across)
        exact ⟨⟨.both carried.course (undiscarded_of forward noRearm notStranded notMissed) crossing,
          carried.once⟩, known⟩
    | @toBoundary boundary opening waiting same stamp recorded noHandoff sameAuthorized =>
      refine ⟨?_, ?_, ?_⟩
      · intro other found
        rw [gone] at found
        cases found
      · intro other found
        obtain rfl := Option.some.inj (waiting.symm.trans found)
        rw [same, stamp]
        have calm := undiscarded_of forward noRearm notStranded (unmissed certificate noHandoff)
        exact ⟨⟨.first carried.course calm opening, carried.once⟩, known, recorded, noHandoff⟩
      · intro other found
        rw [noHandoff] at found
        cases found
    | unloaded alone => exact absurd (takes present edge gone) (sound.edges alone)

theorem handoffTrack_empty {seen earlier : List IdentityEvent}
    {missed : FrozenPreloadReferenceCertificate → Prop} {handover : PreloadHandover}
    (noCertificate : handover.certificate = none) (noBoundary : handover.boundary = none)
    (noHandoff : handover.handoff = none) :
    HandoffTrack seen earlier settled missed handover where
  kept certificate present := by
    rw [noCertificate] at present
    cases present
  waiting boundary waits := by
    rw [noBoundary] at waits
    cases waits
  pending handoff found := by
    rw [noHandoff] at found
    cases found

theorem handoverOffered_handoff {handoff : PreLoadHandoffSnapshot}
    (offered : (self.handoverOffered input).handoff = some handoff) :
    (self.entered input).handover.handoff = some handoff ∧
      ¬self.misses input handoff.certificate := by
  unfold handoverOffered at offered
  dsimp only at offered
  split at offered
  · cases offered
  · rename_i matched
    refine ⟨offered, ?_⟩
    rintro ⟨-, unmatched, shown⟩
    -- A frame that shows groups and matches none of them drops the handoff.
    apply matched
    simp [unmatched, shown]

theorem offered_handoffTrack (sound : self.HandoffSound input)
    (track : HandoffTrack past past settled nothingMissed self.handover) :
    HandoffTrack (⟨self, .update input⟩ :: past) past settled nothingMissed
      (self.handoverOffered input) := by
  obtain ⟨boundary, handoff, certificate, -⟩ := @entered_handover self input
  obtain ⟨sameCertificate, sameBoundary, -⟩ := @handoverOffered_frame _ self input
  have offered {other : PreLoadHandoffSnapshot}
      (found : (self.handoverOffered input).handoff = some other) :=
    handoverOffered_handoff found
  have noHandoff (gone : (self.coalesced input).handover.handoff = none) :
      (self.handoverOffered input).handoff = none := by
    cases found : (self.handoverOffered input).handoff with
    | none => rfl
    | some other =>
      have before := (offered found).1
      rw [handoff, gone] at before
      cases before
  by_cases back : self.timeRollback input = true
  · -- Going back in time leaves nothing on its way.
    obtain ⟨noCertificate, noBoundary, gone, -⟩ := coalesced_handover_back back
    refine handoffTrack_empty ?_ ?_ (noHandoff gone)
    · rw [sameCertificate, certificate, noCertificate, ite_self]
    · rw [sameBoundary, boundary, noBoundary]
  · have forward : self.timeRollback input = false := by simpa using back
    by_cases rearm : input.rearm = true
    · -- A rearm leaves nothing on its way either.
      have followed := coalesced_handover forward
      rw [rearm, Bool.not_true] at followed
      obtain ⟨gone, noBoundary, -⟩ :=
        @PreloadHandover.coalesce_rearm (self.boundaryEdges input) self.handover
      refine handoffTrack_empty ?_ ?_ (noHandoff (by rw [followed, gone]))
      · rw [sameCertificate, certificate]
        simp [endsEpoch, rearm]
      · rw [sameBoundary, boundary, followed, noBoundary]
    · have noRearm : input.rearm = false := by simpa using rearm
      obtain ⟨kept, waiting, pending⟩ := coalesced_handoffTrack sound forward noRearm track
      refine ⟨?_, ?_, ?_⟩
      · intro other present
        have before : (self.coalesced input).handover.certificate = some other := by
          rw [sameCertificate, certificate] at present
          split at present
          · cases present
          · exact present
        obtain ⟨carried, known, apartBoundary, apartHandoff⟩ := kept other before
        refine ⟨carried, known, ?_, ?_⟩
        · intro waits found
          exact apartBoundary waits (by rw [← boundary, ← sameBoundary]; exact found)
        · intro pends found
          exact apartHandoff pends (by rw [← handoff]; exact (offered found).1)
      · intro other found
        obtain ⟨carried, known, recorded, gone⟩ := waiting other
          (by rw [← boundary, ← sameBoundary]; exact found)
        exact ⟨carried, known, recorded, noHandoff gone⟩
      · intro other found _
        obtain ⟨before, notMissed⟩ := offered found
        exact pending other (by rw [← handoff]; exact before) notMissed

theorem seedsFrom_offered (seeds : self.seedsFrom certificate (.update input)) :
    ∃ handoff, (self.handoverOffered input).handoff = some handoff ∧
      handoff.certificate = certificate ∧ (self.passed input).handover.handoff = none := by
  obtain ⟨-, ⟨handoff, found, same⟩, position, id, diagnostic, noted, spent, -⟩ := seeds
  have handed := @GroupPass.through_handed _ (self.observationContext input)
    (self.passStart input) (self.framed input) rfl
  cases handed with
  | kept _ unspent =>
    rw [unspent diagnostic (List.mem_of_getElem? noted)] at spent
    cases spent
  | @spent _ _ _ other _ present gone =>
    have offered : (self.handoverOffered input).handoff = some other := present
    obtain ⟨before, -⟩ := handoverOffered_handoff offered
    obtain rfl := Option.some.inj (before.symm.trans found)
    exact ⟨other, offered, same, gone⟩

theorem Carried.later {event : IdentityEvent} {stage : BoundaryStage}
    (carried : Carried (event :: past) past certificate stage)
    (calm : undiscarded certificate event)
    (unspent : ¬event.before.seedsFrom certificate event.call) :
    Carried (event :: past) (event :: past) certificate stage :=
  ⟨carried.course, .later ⟨calm, unspent⟩ carried.once⟩

end Stages

end NdtSlam.CargoPhysicalIdentityAuthority
