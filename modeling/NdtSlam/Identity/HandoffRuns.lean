import NdtSlam.Identity.OneShotHandoff

/-! What every load has behind it that inherits the reference of a certificate. -/

namespace NdtSlam.CargoPhysicalIdentityAuthority

section Frames

variable [IdentityMath] {self : CargoPhysicalIdentityAuthority}
  {input : CargoPhysicalIdentityInput} {past : List IdentityEvent}

def Settled (self : CargoPhysicalIdentityAuthority) (id : Nat) : Prop :=
  id < self.nextHistoryId ∧ History.SettledId id self.histories

theorem HandoffTrack.weaken {seen earlier : List IdentityEvent} {settled settled' : Nat → Prop}
    {missed : FrozenPreloadReferenceCertificate → Prop} {handover : PreloadHandover}
    (track : HandoffTrack seen earlier settled missed handover)
    (weaker : ∀ id, settled id → settled' id) :
    HandoffTrack seen earlier settled' missed handover where
  kept certificate present := by
    obtain ⟨carried, known, apart⟩ := track.kept certificate present
    exact ⟨carried, weaker _ known, apart⟩
  waiting boundary found := by
    obtain ⟨carried, known, rest⟩ := track.waiting boundary found
    exact ⟨carried, weaker _ known, rest⟩
  pending handoff found notMissed := by
    obtain ⟨carried, known⟩ := track.pending handoff found notMissed
    exact ⟨carried, weaker _ known⟩

theorem Carried.pass {event : IdentityEvent} {certificate : FrozenPreloadReferenceCertificate}
    {stage : BoundaryStage} (carried : Carried (event :: past) past certificate stage)
    (unspent : ¬event.before.seedsFrom certificate event.call) :
    Carried (event :: past) (event :: past) certificate stage := by
  -- The frame either settles the certificate or leaves it alone.
  rcases carried.course.since.uncons with anchor | ⟨calm, -⟩
  · have anchored : settles certificate event := anchor
    exact ⟨carried.course, .now anchored past⟩
  · exact carried.later calm unspent

omit [IdentityMath] in
theorem Settled.entered {id : Nat} (known : Settled self id) : Settled (self.entered input) id := by
  obtain ⟨given, settled⟩ := known
  unfold Settled
  rw [entered_nextHistoryId, entered_histories]
  refine ⟨given, ?_⟩
  split
  · exact fun history member => nomatch member
  · split
    · -- Picking up a load leaves a settled reference as it is.
      refine History.settledId_map ?_ ?_ settled
      · intro history
        unfold historyAtLoadEdge
        dsimp only
        split
        · rfl
        · rfl
      · intro history frozen
        simp only [historyAtLoadEdge, frozen, if_true]
    · exact settled

theorem settledId_afterFrame {id : Nat} {lock : DiagnosticSurfaceReferenceLock}
    {config : CargoPhysicalIdentityConfig} {groupHistoryIds : List (Option Nat)}
    {histories : List History} (settled : History.SettledId id histories) :
    History.SettledId id (lock.historiesAfterFrame config input groupHistoryIds histories) := by
  unfold DiagnosticSurfaceReferenceLock.historiesAfterFrame
    DiagnosticSurfaceReferenceLock.projectOnto
  split
  · split
    · exact settled
    · -- The projection only concerns the lift of a history.
      refine History.settledId_map ?_ ?_ settled
      · intro history
        unfold DiagnosticSurfaceReferenceLock.projected
        split
        · rfl
        · split
          · rfl
          · rfl
      · intro history frozen
        unfold DiagnosticSurfaceReferenceLock.projected
        split
        · exact frozen
        · split
          · exact frozen
          · exact frozen
  · exact settled

variable {handoff : PreLoadHandoffSnapshot}

theorem passed_offered (left : (self.passed input).handover.handoff = some handoff) :
    (self.handoverOffered input).handoff = some handoff := by
  have handed := @GroupPass.through_handed _ (self.observationContext input)
    (self.passStart input) (self.framed input) rfl
  cases handed with
  | kept same =>
    have kept : (self.passed input).handover.handoff = (self.handoverOffered input).handoff := same
    rw [← kept, left]
  | spent _ gone =>
    have absent : (self.passed input).handover.handoff = none := gone
    rw [absent] at left
    cases left

theorem passed_handoffTrack (accepted : self.stampValid input = true)
    (numbered : GroupPass.Numbered (self.entered input).histories (self.entered input).nextHistoryId)
    (track : HandoffTrack (⟨self, .update input⟩ :: past) past
      (GroupPass.KnownSettled · (self.passStart input)) nothingMissed
      (self.handoverOffered input)) :
    HandoffTrack (⟨self, .update input⟩ :: past) (⟨self, .update input⟩ :: past)
      (GroupPass.KnownSettled · (self.passed input)) nothingMissed
      (self.passed input).handover := by
  have stays {id : Nat} (known : GroupPass.KnownSettled id (self.passStart input)) :
      GroupPass.KnownSettled id (self.passed input) := GroupPass.through_knownSettled known
  have sameBoundary : (self.passed input).handover.boundary =
      (self.handoverOffered input).boundary :=
    (@passed_boundary _ self input).1.trans (@handoverOffered_frame _ self input).2.1.symm
  refine ⟨?_, ?_, ?_⟩
  · intro certificate present
    have recorded := @passed_recorded _ self input
    cases recorded with
    | counted vacant same lock created =>
      obtain ⟨carried, known, apartBoundary, apartHandoff⟩ :=
        track.kept certificate (same.symm.trans present)
      refine ⟨carried.pass ?_, stays known, ?_, ?_⟩
      · -- A frame spends the handoff that it offers, and no other certificate.
        intro seeds
        obtain ⟨handoff, found, rfl, -⟩ := seedsFrom_offered seeds
        exact apartHandoff handoff found rfl
      · intro boundary waiting
        exact apartBoundary boundary (sameBoundary.symm.trans waiting)
      · intro handoff left
        exact apartHandoff handoff (passed_offered left)
    | created vacant found settled same number lock created =>
      obtain rfl := Option.some.inj (same.symm.trans present)
      have here : self.settlesCertificate input _ := ⟨accepted, created, same⟩
      obtain ⟨fresh, known⟩ := GroupPass.settledAt_id numbered settled
      have anchored : settles _ ⟨self, .update input⟩ := ⟨input, rfl, here⟩
      refine ⟨⟨.settled here past, .now anchored past⟩, known, ?_, ?_⟩
      · intro boundary waiting
        obtain ⟨-, earlier, -⟩ := track.waiting boundary (sameBoundary.symm.trans waiting)
        exact fun same => fresh _ earlier same.symm
      · intro handoff left
        obtain ⟨-, earlier⟩ := track.pending handoff (passed_offered left) id
        exact fun same => fresh _ earlier same.symm
  · intro boundary waiting
    obtain ⟨carried, known, recorded, noHandoff⟩ :=
      track.waiting boundary (sameBoundary.symm.trans waiting)
    refine ⟨carried.pass ?_, stays known, recorded, ?_⟩
    · intro seeds
      obtain ⟨handoff, found, -⟩ := seedsFrom_offered seeds
      rw [noHandoff] at found
      cases found
    · cases left : (self.passed input).handover.handoff with
      | none => rfl
      | some handoff =>
        have offered := passed_offered left
        rw [noHandoff] at offered
        cases offered
  · intro handoff left _
    obtain ⟨carried, known⟩ := track.pending handoff (passed_offered left) id
    refine ⟨carried.pass ?_, stays known⟩
    -- A handoff that is spent is not left after the pass.
    intro seeds
    obtain ⟨_, -, -, gone⟩ := seedsFrom_offered seeds
    rw [gone] at left
    cases left

theorem advanced_handoffTrack
    (track : HandoffTrack (⟨self, .update input⟩ :: past) (⟨self, .update input⟩ :: past)
      (GroupPass.KnownSettled · (self.passed input)) nothingMissed
      (self.passed input).handover) :
    HandoffTrack (⟨self, .update input⟩ :: past) (⟨self, .update input⟩ :: past)
      (Settled (self.advanced input)) nothingMissed (self.advanced input).handover := by
  obtain ⟨certificate, boundary, handoff, -⟩ := @advanced_handover _ self input
  have stays {id : Nat} (known : GroupPass.KnownSettled id (self.passed input)) :
      Settled (self.advanced input) id := ⟨known.1, settledId_afterFrame known.2⟩
  refine ⟨?_, ?_, ?_⟩
  · intro other present
    rw [certificate] at present
    rw [boundary, handoff]
    split at present
    · cases present
    · obtain ⟨carried, known, apart⟩ := track.kept other present
      exact ⟨carried, stays known, apart⟩
  · intro other waiting
    rw [boundary] at waiting
    rw [handoff]
    obtain ⟨carried, known, rest⟩ := track.waiting other waiting
    exact ⟨carried, stays known, rest⟩
  · intro other found notMissed
    rw [handoff] at found
    obtain ⟨carried, known⟩ := track.pending other found notMissed
    exact ⟨carried, stays known⟩

omit [IdentityMath] in
def AllRecorded (handover : PreloadHandover) : Prop :=
  ∀ boundary, handover.boundary = some boundary → Recorded boundary

theorem coalesced_loaded (sound : self.HandoffSound input) (accepted : self.stampValid input = true)
    (gap : 0 < self.config.maximumObservationGapSec) (recorded : AllRecorded self.handover)
    (matched : self.handoffMatch input ≠ none)
    (found : (self.coalesced input).handover.handoff = some handoff) :
    input.gravityLoaded = true ∧ 0 ≤ input.pipelineStampSec - handoff.loadEdgeStampSec ∧
      input.pipelineStampSec - handoff.loadEdgeStampSec
        ≤ self.config.maximumObservationGapSec := by
  have finite : input.pipelineStampSec.isFinite = true := by
    simp only [stampValid, Bool.and_eq_true] at accepted
    exact accepted.1.1
  have now : 0 ≤ input.pipelineStampSec - input.pipelineStampSec ∧
      input.pipelineStampSec - input.pipelineStampSec ≤ self.config.maximumObservationGapSec := by
    rw [Scalar.sub_self_of_finite finite]
    exact ⟨Scalar.le_refl_of_finite rfl, Scalar.le_of_lt gap⟩
  by_cases back : self.timeRollback input = true
  · rw [(coalesced_handover_back back).2.2.1] at found
    cases found
  · have forward : self.timeRollback input = false := by simpa using back
    have followed := coalesced_handover forward
    by_cases rearm : input.rearm = true
    · rw [followed, rearm, Bool.not_true, (PreloadHandover.coalesce_rearm).1] at found
      cases found
    · have noRearm : input.rearm = false := by simpa using rearm
      rw [noRearm, Bool.not_false] at followed
      have spec := @PreloadHandover.coalesce_spec (self.boundaryEdges input) self.handover
      rw [← followed] at spec
      generalize (self.coalesced input).handover = after at spec found
      cases spec with
      | @pending other kept =>
        obtain ⟨-, present, loaded, inOrder, inTime⟩ := PreloadHandover.expireHandoff_some kept
        obtain rfl := Option.some.inj (present.symm.trans found)
        exact ⟨loaded, inOrder, Scalar.le_of_not_lt inOrder gap inTime⟩
      | @closed boundary expired waiting closes =>
        obtain rfl := Option.some.inj found
        rw [handedOver_eq (recorded boundary waiting)]
        refine ⟨(sound.loaded boundary waiting closes).resolve_right matched, ?_⟩
        -- The load edge is either the one that closes the boundary or the one it began with.
        simp only [PendingPreLoadBoundary.closes, PendingPreLoadBoundary.pendingAge,
          Bool.and_eq_true] at closes
        cases boundary.phase with
        | waitingForLoad => exact now
        | waitingForLifecycle =>
          exact ⟨of_decide_eq_true closes.1.2, of_decide_eq_true closes.2⟩
      | waits => cases found
      | idle => cases found
      | @captured certificate expired free edge present =>
        unfold PreloadHandover.capture at found
        dsimp only at found
        split at found
        · rename_i both
          obtain rfl := Option.some.inj found
          simp only [boundaryEdges, emptyToLoadedTransition, Bool.and_eq_true] at both
          exact ⟨both.2.2, now⟩
        · split at found
          · cases found
          · cases found

theorem framed_measured {position : Nat} {framed : FramedGroup}
    (found : (self.framed input)[position]? = some framed)
    (measured : framed.handoffVertical.isSome) :
    ∃ vertical, self.handoffMatch input = some (position, vertical) := by
  unfold CargoPhysicalIdentityAuthority.framed framedGroups at found
  rw [List.getElem?_map, List.getElem?_zipIdx] at found
  obtain ⟨⟨group, index⟩, listed, rfl⟩ := Option.map_eq_some_iff.mp found
  obtain ⟨_, -, same⟩ := Option.map_eq_some_iff.mp listed
  obtain ⟨rfl, rfl⟩ := Prod.mk.inj same
  dsimp only at measured
  cases matched : self.handoffMatch input with
  | none => simp [matched] at measured
  | some pair =>
    obtain ⟨place, vertical⟩ := pair
    simp only [matched, Option.filter] at measured
    -- Only the group at the place of the match was measured.
    split at measured
    · rename_i here
      obtain rfl : place = position := by simpa using here
      exact ⟨vertical, rfl⟩
    · cases measured

theorem handoffMatch_spec {position : Nat} {vertical : AssociationOnlyReacquiredVerticalEvidence}
    (present : (self.entered input).handover.handoff = some handoff)
    (matched : self.handoffMatch input = some (position, vertical)) :
    geometricCandidates self.config input handoff (self.entered input).histories = [position] ∧
      (postLoadVertical input handoff position).valid = true := by
  unfold handoffMatch at matched
  dsimp only at matched
  rw [present, Option.bind_some] at matched
  unfold postLoadMatch at matched
  split at matched
  · rename_i sole alone
    dsimp only at matched
    split at matched
    · rename_i proved
      obtain ⟨rfl, -⟩ := Prod.mk.inj (Option.some.inj matched)
      exact ⟨alone, proved⟩
    · cases matched
  · cases matched

end Frames

section Runs

variable [IdentityMath] {config : CargoPhysicalIdentityConfig}

structure Inherits (before : CargoPhysicalIdentityAuthority) (input : CargoPhysicalIdentityInput)
    (certificate : FrozenPreloadReferenceCertificate) (older : List IdentityEvent)
    (loadEdgeStampSec : Scalar) : Prop where
  loaded : input.gravityLoaded = true
  inOrder : 0 ≤ input.pipelineStampSec - loadEdgeStampSec
  inTime : input.pipelineStampSec - loadEdgeStampSec ≤ before.config.maximumObservationGapSec
  course : BoundaryCourse (undiscarded certificate) certificate (.closed loadEdgeStampSec)
    (⟨before, .update input⟩ :: older)
  once : Since (unspent certificate) (settles certificate) older
  sole : ∃ position,
    geometricCandidates before.config input { certificate, loadEdgeStampSec }
        (before.entered input).histories = [position] ∧
      (postLoadVertical input { certificate, loadEdgeStampSec } position).valid = true ∧
      ∀ other id, before.seedsAt input other id →
        other = position ∧ ∀ history ∈ before.histories, history.id ≠ id

def OneShot (config : CargoPhysicalIdentityConfig) (calls : List Call) : Prop :=
  ∀ newer older event input certificate, (machine config).trace calls = newer ++ event :: older →
    event.call = .update input → event.before.seedsFrom certificate event.call →
      ∃ loadEdgeStampSec, event.before.Inherits input certificate older loadEdgeStampSec

def SoundHandoff (event : IdentityEvent) : Prop :=
  ∀ input, event.call = .update input → event.before.stampValid input = true →
    event.before.HandoffSound input

variable (calls : List Call)

theorem run_config :
    ((machine config).run calls).config = config.normalized := by
  induction calls with
  | nil => rfl
  | cons call older ih =>
    show ((machine config).step ((machine config).run older) call).1.config = _
    cases call with
    | reset => exact ih
    | update input =>
      by_cases accepted : ((machine config).run older).stampValid input = true
      · rw [step_accepted accepted]
        exact entered_config.trans ih
      · rw [step_refused accepted]
        exact (congrArg (·.1) (rolledBack_frame ((machine config).run older) input).1).trans ih

theorem run_gap :
    0 < ((machine config).run calls).config.maximumObservationGapSec := by
  rw [run_config]
  show 0 < positiveOr _ _
  unfold positiveOr
  split
  · assumption
  · exact Scalar.fin_lt_fin.2 (by norm_num)

theorem Carried.refused {past : List IdentityEvent} {self : CargoPhysicalIdentityAuthority}
    {input : CargoPhysicalIdentityInput} {certificate : FrozenPreloadReferenceCertificate}
    {stage : BoundaryStage} (carried : Carried past past certificate stage)
    (refused : ¬self.stampValid input = true) (forward : ¬self.timeRollback input = true) :
    Carried (⟨self, .update input⟩ :: past) (⟨self, .update input⟩ :: past) certificate stage := by
  have calm : undiscarded certificate ⟨self, .update input⟩ := by
    rintro (back | ⟨accepted, -⟩)
    · exact forward back
    · exact refused accepted
  exact ⟨.stays carried.course calm, .later ⟨calm, fun seeds => refused seeds.1⟩ carried.once⟩

theorem run_handoffTrack (sound : ∀ event ∈ (machine config).trace calls, SoundHandoff event) :
    HandoffTrack ((machine config).trace calls) ((machine config).trace calls)
      (Settled ((machine config).run calls)) nothingMissed
      ((machine config).run calls).handover := by
  induction calls with
  | nil => exact handoffTrack_empty rfl rfl rfl
  | cons call older ih =>
    have before := ih fun event member => sound event (List.mem_cons_of_mem _ member)
    have here := sound ⟨(machine config).run older, call⟩ List.mem_cons_self
    have numbered := @run_numbered _ config older
    show HandoffTrack (⟨(machine config).run older, call⟩ :: (machine config).trace older)
      (⟨(machine config).run older, call⟩ :: (machine config).trace older)
      (Settled ((machine config).step ((machine config).run older) call).1) nothingMissed
      ((machine config).step ((machine config).run older) call).1.handover
    cases call with
    | reset => exact handoffTrack_empty rfl rfl rfl
    | update input =>
      by_cases accepted : ((machine config).run older).stampValid input = true
      · rw [step_accepted accepted]
        have offered := offered_handoffTrack (here input rfl accepted) before
        have entered : ∀ id, Settled ((machine config).run older) id →
            GroupPass.KnownSettled id (((machine config).run older).passStart input) :=
          fun _ known => known.entered
        exact advanced_handoffTrack (passed_handoffTrack accepted (entered_numbered numbered)
          (offered.weaken entered))
      · rw [step_refused accepted]
        unfold rolledBack
        by_cases back : ((machine config).run older).timeRollback input = true
        · rw [if_pos back]
          exact handoffTrack_empty rfl rfl rfl
        · rw [if_neg back]
          obtain ⟨kept, waiting, pending⟩ := before
          refine ⟨?_, ?_, ?_⟩
          · intro certificate present
            obtain ⟨carried, rest⟩ := kept certificate present
            exact ⟨carried.refused accepted back, rest⟩
          · intro boundary found
            obtain ⟨carried, rest⟩ := waiting boundary found
            exact ⟨carried.refused accepted back, rest⟩
          · intro handoff found notMissed
            obtain ⟨carried, known⟩ := pending handoff found notMissed
            exact ⟨carried.refused accepted back, known⟩

/--
In a sound run, every certificate hands its reference over to one load at most, by a frame of a
loaded hook that shows the load alone, behind both edges of its boundary.
-/
theorem one_shot_handoff (config : CargoPhysicalIdentityConfig) (calls : List Call)
    (sound : ∀ event ∈ (machine config).trace calls, SoundHandoff event) :
    OneShot config calls := by
  rintro newer older ⟨before, call⟩ input certificate split rfl seeds
  obtain ⟨earlier, rfl, start⟩ := Machine.trace_split _ split
  obtain rfl : before = (machine config).run earlier := start
  have accepted := seeds.1
  have frame := sound ⟨(machine config).run earlier, .update input⟩ (by rw [split]; simp) input rfl
    accepted
  have track := @run_handoffTrack _ config earlier fun event member =>
    sound event (by rw [split]; simp [member])
  have numbered := @run_numbered _ config earlier
  have gap := @run_gap _ config earlier
  generalize (machine config).run earlier = self at *
  obtain ⟨handoff, found, rfl, gone⟩ := seedsFrom_offered seeds
  obtain ⟨carried, -⟩ := (offered_handoffTrack frame track).pending handoff found id
  obtain ⟨present, -⟩ := handoverOffered_handoff found
  obtain ⟨-, -, position, id, diagnostic, noted, spent, named⟩ := seeds
  -- The group that inherits was measured for the handoff, and no other group was.
  have handed := @GroupPass.through_handed _ (self.observationContext input)
    (self.passStart input) (self.framed input) rfl
  cases handed with
  | kept _ unspent =>
    rw [unspent diagnostic (List.mem_of_getElem? noted)] at spent
    cases spent
  | @spent place given framed other first _ _ listed measured noted' named' range sole =>
    obtain ⟨vertical, matched⟩ := framed_measured listed measured
    have coalesced : (self.coalesced input).handover.handoff = some handoff :=
      (@entered_handover self input).2.1.symm.trans present
    obtain ⟨loaded, inOrder, inTime⟩ := coalesced_loaded frame accepted gap
      (fun boundary waiting => (track.waiting boundary waiting).2.2.1)
      (by rw [matched]; simp) coalesced
    refine ⟨handoff.loadEdgeStampSec, loaded, inOrder, inTime, carried.course, carried.once,
      place, ?_⟩
    obtain ⟨alone, proved⟩ := handoffMatch_spec present matched
    refine ⟨alone, proved, ?_⟩
    rintro place' id' ⟨diagnostic', noted'', spent', named''⟩
    obtain rfl := sole place' diagnostic' noted'' spent'
    refine ⟨rfl, fun history known same => ?_⟩
    -- The load that inherits has an id that was not given out before the frame.
    obtain rfl := Option.some.inj (noted'.symm.trans noted'')
    obtain rfl := Option.some.inj (named'.symm.trans named'')
    have old := numbered.2 _ (List.mem_map_of_mem known)
    have new : self.nextHistoryId ≤ given := by
      rw [← @entered_nextHistoryId self input]
      exact range.1
    omega

end Runs

section Samples

theorem seedsAt_of_noted [IdentityMath] {self : CargoPhysicalIdentityAuthority}
    {input : CargoPhysicalIdentityInput} {position id : Nat}
    (noted : ((self.passed input).diagnostics[position]?).map (fun diagnostic =>
      (diagnostic.preloadHandoffConsumed, diagnostic.matchedHistoryId)) = some (true, some id)) :
    self.seedsAt input position id := by
  obtain ⟨diagnostic, found, same⟩ := Option.map_eq_some_iff.mp noted
  obtain ⟨consumed, matched⟩ := Prod.mk.inj same
  exact ⟨diagnostic, found, consumed, matched⟩

attribute [local instance] axisMath
attribute [local semireducible] Rat.add Rat.sub Rat.mul Rat.inv Rat.ofScientific

theorem load_at_both_edges_inherits :
    let machine := machine { liftConfirmFrames := 1 }
    let first : Call := .update (shownFrame 1 1 .empty [shownGroup 1 0 1 2])
    let second := shownFrame 1.1 2 .loaded [shownGroup 1.1 0 1 2]
    (machine.run [first]).seedsAt second 0 2 ∧
      OneShot { liftConfirmFrames := 1 } [.update second, first] := by
  intro machine first second
  refine ⟨seedsAt_of_noted (by decide), ?_⟩
  refine one_shot_handoff _ _ ?_
  intro event member
  rcases List.mem_cons.mp member with rfl | member
  · rintro input same -
    obtain rfl := Call.update.inj same
    -- Both edges are seen in one frame, and no boundary waits.
    have noBoundary : (machine.run [first]).handover.boundary = none :=
      Option.isNone_iff_eq_none.mp (by decide)
    refine ⟨fun alone => ?_, fun boundary waiting => ?_, fun boundary waiting => ?_⟩
    · exact absurd alone.2.1 (by decide)
    · cases noBoundary.symm.trans waiting
    · cases noBoundary.symm.trans waiting
  · obtain rfl := List.mem_singleton.mp member
    rintro input same -
    obtain rfl := Call.update.inj same
    refine ⟨fun alone => ?_, fun boundary waiting => ?_, fun boundary waiting => ?_⟩
    · exact absurd alone.1 (by decide)
    · cases waiting
    · cases waiting

theorem empty_hook_inherits :
    ¬OneShot { liftConfirmFrames := 1 } [
      .update (shownFrame 1.2 2 .empty [shownGroup 1.2 0 1 2]),
      .update (shownFrame 1.1 1 .loaded []),
      .update (shownFrame 1 1 .empty [shownGroup 1 0 1 2])] := by
  intro oneShot
  let before := (machine { liftConfirmFrames := 1 }).run [
    .update (shownFrame 1.1 1 .loaded []),
    .update (shownFrame 1 1 .empty [shownGroup 1 0 1 2])]
  let input := shownFrame 1.2 2 .empty [shownGroup 1.2 0 1 2]
  have offered : ((before.entered input).handover.handoff).isSome := by decide
  obtain ⟨handoff, found⟩ := Option.isSome_iff_exists.mp offered
  have seeds : before.seedsFrom handoff.certificate (.update input) := by
    have seeded : before.seedsAt input 0 2 := seedsAt_of_noted (by decide)
    exact ⟨by decide, ⟨handoff, found, rfl⟩, 0, 2, seeded⟩
  obtain ⟨stamp, inherits⟩ := oneShot [] _ ⟨before, .update input⟩ input _ rfl rfl seeds
  exact absurd inherits.loaded (by decide)

end Samples

end NdtSlam.CargoPhysicalIdentityAuthority
