import NdtSlam.Identity.HandoffRuns

/-! The count of the frames that confirm the lift of the formal reference. -/

namespace NdtSlam

def CompleteMask (frame : CargoShadowFrameEvidence) : Prop :=
  ∀ cloud, frame.rangeCloudCurrentFrame = some cloud →
    ∃ mask, frame.rangeStaticConflictMask = some mask ∧ mask.length = cloud.length

def MeasuredUnmasked [IdentityMath] (frame : CargoShadowFrameEvidence)
    (footprint : CargoFootprintSnapshot) (config : CargoVerticalEvidenceConfig)
    (surfaceZ : Scalar) : Prop :=
  ∃ (cloud : List Vec3) (mask : List Nat) (points : List Vec3),
    frame.rangeCloudCurrentFrame = some cloud ∧
    frame.rangeStaticConflictMask = some mask ∧ mask.length = cloud.length ∧
    (∀ point ∈ points, ∃ (index value : Nat), cloud[index]? = some point ∧ mask[index]? = some value ∧
      value ≠ 1) ∧
    surfaceZ = (extractCargoVerticalEvidence
      { footprintInput footprint frame with selectedPointsBase := points } config).topZBase

section Surfaces

variable [IdentityMath] {frame : CargoShadowFrameEvidence} {footprint : CargoFootprintSnapshot}
  {config : CargoVerticalEvidenceConfig} {competing : List Vec3}
  {cells : List CargoFootprintGridIndex}

theorem precluster_unmasked (context : frame.staticConflictContextValid = true)
    (complete : CompleteMask frame)
    (found : (computePreClusterSurfaceVertical frame footprint config competing
      cells).surfaceZ.isFinite = true) :
    MeasuredUnmasked frame footprint config
      (computePreClusterSurfaceVertical frame footprint config competing cells).surfaceZ := by
  unfold computePreClusterSurfaceVertical at found ⊢
  cases there : frame.rangeCloudCurrentFrame with
  | none =>
    rw [there] at found
    cases found
  | some cloud =>
    obtain ⟨mask, masked, size⟩ := complete cloud there
    have whole : (frame.rangeStaticConflictMask.filter fun mask =>
        mask.length == cloud.length).getD [] = mask := by
      rw [masked, Option.filter_some, if_pos (beq_iff_eq.mpr size)]
      rfl
    simp only [there, context, whole, if_true] at found ⊢
    -- Wherever the measurement is given up, there is no height.
    split at found
    · cases found
    rename_i usable
    rw [if_neg usable]
    split at found
    · cases found
    rename_i present
    rw [if_neg present]
    split at found
    · cases found
    rename_i measured
    rw [if_neg measured]
    split at found
    · cases found
    rename_i alone
    rw [if_neg alone]
    refine ⟨cloud, mask, _, there, masked, size, ?_, rfl⟩
    intro point member
    obtain ⟨⟨point, index⟩, moving, rfl⟩ := List.mem_map.mp member
    obtain ⟨inside, unmasked⟩ := List.mem_filter.mp moving
    obtain ⟨place, same⟩ := List.mem_zipIdx' (List.mem_filter.mp inside).1
    have within : index < mask.length := by omega
    refine ⟨index, mask[index], ?_, List.getElem?_eq_getElem within, ?_⟩
    · exact (List.getElem?_eq_getElem place).trans (congrArg some same.symm)
    · simpa [List.getD_eq_getElem?_getD, List.getElem?_eq_getElem within] using unmasked

end Surfaces

theorem significant_of_positive {significant ownerValid ownerAmbiguous surfaceValid : Bool}
    (positive : classifyLiftEvidence significant ownerValid ownerAmbiguous surfaceValid =
      .positive) : significant = true := by
  unfold classifyLiftEvidence at positive
  cases significant with
  | true => rfl
  | false =>
    simp only [Bool.false_eq_true, if_false] at positive
    split at positive
    · cases positive
    · cases positive

namespace DiagnosticSurfaceReferenceLock

variable [IdentityMath] {config : CargoPhysicalIdentityConfig}
  {input : CargoPhysicalIdentityInput} {lock : DiagnosticSurfaceReferenceLock}

theorem positive_surface (positive : lock.evidence config input = .positive) :
    input.frameEvidence.staticConflictContextValid = true ∧
      ∃ competing cells, (preclusterSurface input (lock.logicalOwner config input)) =
          computePreClusterSurfaceVertical input.frameEvidence
            (lock.logicalOwner config input).currentFootprint input.verticalConfig competing cells ∧
        (preclusterSurface input (lock.logicalOwner config input)).surfaceZ.isFinite = true := by
  have finite : (preclusterSurface input (lock.logicalOwner config input)).surfaceZ.isFinite =
      true := by
    have rises := significant_of_positive positive
    simp only [significant, Bool.and_eq_true] at rises
    exact rises.1.1
  generalize lock.logicalOwner config input = owner at finite ⊢
  unfold preclusterSurface at finite ⊢
  simp only at finite ⊢
  split at finite
  · rename_i current
    rw [if_pos current]
    split at finite
    · rename_i context
      rw [if_pos context]
      exact ⟨context, _, _, rfl, finite⟩
    · cases finite
  · cases finite

theorem positive_unmasked (positive : lock.evidence config input = .positive)
    (complete : CompleteMask input.frameEvidence) :
    MeasuredUnmasked input.frameEvidence (lock.logicalOwner config input).currentFootprint
      input.verticalConfig (preclusterSurface input (lock.logicalOwner config input)).surfaceZ := by
  obtain ⟨context, competing, cells, same, finite⟩ := positive_surface positive
  rw [same] at finite ⊢
  exact precluster_unmasked context complete finite

theorem followed_count :
    (lock.followed config input).preclusterLiftConfirmCount =
        (lock.record config input.pipelineStampSec
          (lock.evidence config input)).preclusterLiftConfirmCount ∧
      (lock.followed config input).lastPositiveEvidenceStamp =
        (lock.record config input.pipelineStampSec
          (lock.evidence config input)).lastPositiveEvidenceStamp ∧
      (lock.followed config input).preclusterLiftConfirmed =
        (lock.preclusterLiftConfirmed || decide (max 1 config.liftConfirmFrames ≤
          ((lock.record config input.pipelineStampSec
            (lock.evidence config input)).preclusterLiftConfirmCount : Int))) := by
  unfold followed confirm record countAssembly
  cases lock.evidence config input with
  | positive => exact ⟨rfl, rfl, rfl⟩
  | contradictory => exact ⟨rfl, rfl, rfl⟩
  | unobservable =>
    simp only
    split
    · exact ⟨rfl, rfl, rfl⟩
    · exact ⟨rfl, rfl, rfl⟩

end DiagnosticSurfaceReferenceLock

namespace CargoPhysicalIdentityAuthority

section Promise

variable [IdentityMath] (self : CargoPhysicalIdentityAuthority)
  (input : CargoPhysicalIdentityInput)

def liftLock : DiagnosticSurfaceReferenceLock := lockActivated input (self.passed input)

def Shows (evidence : LiftEvidenceClass) : Prop :=
  self.stampValid input = true ∧ (self.liftLock input).phase = .postloadActive ∧
    (self.liftLock input).evidence self.config input = evidence

def KeepsReference : Prop :=
  self.timeRollback input = false ∧
    (self.stampValid input = true → (self.passed input).certificateCreated = false)

variable (event : IdentityEvent)

def Proves : Prop :=
  ∃ input, event.call = .update input ∧ event.before.Shows input .positive ∧
    input.frameEvidence.staticConflictContextValid = true ∧
    MeasuredUnmasked input.frameEvidence
      ((event.before.liftLock input).logicalOwner event.before.config input).currentFootprint
      input.verticalConfig
      (DiagnosticSurfaceReferenceLock.preclusterSurface input
        ((event.before.liftLock input).logicalOwner event.before.config input)).surfaceZ

def Withholds : Prop :=
  ∃ input, event.call = .update input ∧ event.before.KeepsReference input ∧
    (event.before.stampValid input = true → event.before.Shows input .unobservable)

def Resumes (gapSec : Scalar) (earlier later : IdentityEvent) : Prop :=
  ∃ first second, earlier.call = .update first ∧ later.call = .update second ∧
    later.before.KeepsReference second ∧ second.pipelineStampSec - first.pipelineStampSec ≤ gapSec

def ConfirmsLift : Prop :=
  self.stampValid input = true ∧ (self.liftLock input).preclusterLiftConfirmed = false ∧
    (self.advanced input).referenceLock.preclusterLiftConfirmed = true

/--
A frame that speaks for the lift has a complete mask, and does not come too long after the last
one that was counted.
-/
def SteadyLift : Prop :=
  ∀ input, event.call = .update input → event.before.Shows input .positive →
    CompleteMask input.frameEvidence ∧
      (0 < (event.before.liftLock input).preclusterLiftConfirmCount →
        input.pipelineStampSec - (event.before.liftLock input).lastPositiveEvidenceStamp ≤
          event.before.config.maximumObservationGapSec)

/-- A confirmed lift rests on as many frames as are required, the last ones that spoke for it. -/
def LiftProved (config : CargoPhysicalIdentityConfig) (event : IdentityEvent)
    (older : List IdentityEvent) : Prop :=
  ∃ (count : Nat) (opening : IdentityEvent), (count : Int) = max 1 config.liftConfirmFrames ∧
    EvidenceChain Proves Withholds (Resumes config.maximumObservationGapSec) count opening event
      (event :: older)

end Promise

section Runs

variable [IdentityMath] {config : CargoPhysicalIdentityConfig}
  {self : CargoPhysicalIdentityAuthority} {input : CargoPhysicalIdentityInput}
  {past : List IdentityEvent} {lock : DiagnosticSurfaceReferenceLock}

structure LiftTrack (config : CargoPhysicalIdentityConfig) (past : List IdentityEvent)
    (lock : DiagnosticSurfaceReferenceLock) : Prop where
  active : 0 < lock.preclusterLiftConfirmCount → lock.phase = .postloadActive
  short : lock.preclusterLiftConfirmed = false →
    (lock.preclusterLiftConfirmCount : Int) < max 1 config.liftConfirmFrames
  chain : 0 < lock.preclusterLiftConfirmCount → ∃ opening last input,
    EvidenceChain Proves Withholds (Resumes config.maximumObservationGapSec)
      lock.preclusterLiftConfirmCount opening last past ∧
    last.call = .update input ∧ lock.lastPositiveEvidenceStamp = input.pipelineStampSec

theorem liftTrack_of_zero (none : lock.preclusterLiftConfirmCount = 0) :
    LiftTrack config past lock :=
  ⟨fun positive => absurd positive (by omega), fun _ => by omega,
    fun positive => absurd positive (by omega)⟩

theorem liftLock_cases :
    (self.liftLock input).preclusterLiftConfirmCount = 0 ∧
        (self.liftLock input).preclusterLiftConfirmed = false ∨
      self.KeepsReference input ∧
        ∃ attempts, self.liftLock input = self.referenceLock.noteOverwriteAttempts attempts := by
  have recorded := @passed_recorded _ self input
  have start : (self.passStart input).referenceLock =
      if self.timeRollback input then {} else self.referenceLock := entered_referenceLock
  unfold liftLock lockActivated DiagnosticSurfaceReferenceLock.activated
  split
  · exact .inl ⟨rfl, rfl⟩
  · cases recorded with
    | counted vacant certificate same created =>
      rw [start] at same
      by_cases back : self.timeRollback input = true
      · rw [if_pos back] at same
        rw [same]
        exact .inl ⟨rfl, rfl⟩
      · rw [if_neg back] at same
        exact .inr ⟨⟨by simpa using back, fun _ => created⟩, _, same⟩
    | created vacant found settled certificate number same =>
      rw [same]
      exact .inl ⟨rfl, rfl⟩

theorem LiftTrack.liftLock (held : LiftTrack config past self.referenceLock) :
    LiftTrack config past (self.liftLock input) ∧
      (0 < (self.liftLock input).preclusterLiftConfirmCount → self.KeepsReference input) := by
  rcases @liftLock_cases _ self input with ⟨zero, -⟩ | ⟨keeps, attempts, same⟩
  · exact ⟨liftTrack_of_zero zero, fun positive => absurd positive (by omega)⟩
  · rw [same]
    exact ⟨⟨held.active, held.short, held.chain⟩, fun _ => keeps⟩

theorem LiftTrack.advanced (held : LiftTrack self.config past self.referenceLock)
    (accepted : self.stampValid input = true) (steady : SteadyLift ⟨self, .update input⟩) :
    LiftTrack self.config (⟨self, .update input⟩ :: past) (self.advanced input).referenceLock ∧
      (self.ConfirmsLift input → LiftProved self.config ⟨self, .update input⟩ past) := by
  have after : (self.advanced input).referenceLock =
      (self.liftLock input).afterFrame self.config input := rfl
  obtain ⟨before, keeps⟩ := @held.liftLock _ _ _ input
  by_cases active : (self.liftLock input).phase = .postloadActive
  · -- The count goes by what the frame shows of the lift.
    have follows : (self.advanced input).referenceLock =
        (self.liftLock input).followed self.config input := by
      rw [after]
      exact if_pos active
    obtain ⟨count, stamp, confirmed⟩ :=
      @DiagnosticSurfaceReferenceLock.followed_count _ self.config input (self.liftLock input)
    rw [← follows] at count stamp confirmed
    have phase : (self.advanced input).referenceLock.phase = .postloadActive := by
      rw [after]
      exact DiagnosticSurfaceReferenceLock.afterFrame_phase.trans active
    cases shown : (self.liftLock input).evidence self.config input with
    | positive =>
      obtain ⟨complete, soon⟩ := steady input rfl ⟨accepted, active, shown⟩
      have counted : (self.advanced input).referenceLock.preclusterLiftConfirmCount =
          (self.liftLock input).preclusterLiftConfirmCount + 1 := by
        rw [count, shown]
        rfl
      have marked : (self.advanced input).referenceLock.lastPositiveEvidenceStamp =
          input.pipelineStampSec := by
        rw [stamp, shown]
        rfl
      have proves : Proves ⟨self, .update input⟩ := ⟨input, rfl, ⟨accepted, active, shown⟩,
        (DiagnosticSurfaceReferenceLock.positive_surface shown).1,
        DiagnosticSurfaceReferenceLock.positive_unmasked shown complete⟩
      have chain : ∃ opening, EvidenceChain Proves Withholds
          (Resumes self.config.maximumObservationGapSec)
          ((self.liftLock input).preclusterLiftConfirmCount + 1) opening ⟨self, .update input⟩
          (⟨self, .update input⟩ :: past) := by
        rcases Nat.eq_zero_or_pos (self.liftLock input).preclusterLiftConfirmCount with
          zero | positive
        · rw [zero]
          exact ⟨_, .first proves past⟩
        · obtain ⟨opening, last, earlier, chain, called, same⟩ := before.chain positive
          have gap := soon positive
          rw [same] at gap
          exact ⟨opening, chain.next proves ⟨earlier, input, called, rfl, keeps positive, gap⟩⟩
      obtain ⟨opening, chain⟩ := chain
      rw [shown] at confirmed
      have reached : (self.advanced input).referenceLock.preclusterLiftConfirmed =
          ((self.liftLock input).preclusterLiftConfirmed ||
            decide (max 1 self.config.liftConfirmFrames ≤
              (((self.liftLock input).preclusterLiftConfirmCount + 1 : Nat) : Int))) := confirmed
      refine ⟨⟨fun _ => phase, fun unconfirmed => ?_, fun _ => ?_⟩, ?_⟩
      · rw [reached, Bool.or_eq_false_iff, decide_eq_false_iff_not] at unconfirmed
        rw [counted]
        omega
      · exact ⟨opening, _, input, counted ▸ chain, rfl, marked⟩
      · rintro ⟨-, unconfirmed, confirms⟩
        -- The lift was not confirmed before, so exactly the last frame was missing.
        have missing := before.short unconfirmed
        rw [reached, unconfirmed, Bool.false_or, decide_eq_true_eq] at confirms
        exact ⟨_, opening, by omega, chain⟩
    | unobservable =>
      have counted : (self.advanced input).referenceLock.preclusterLiftConfirmCount = 0 ∨
          (self.advanced input).referenceLock.preclusterLiftConfirmCount =
            (self.liftLock input).preclusterLiftConfirmCount ∧
          (self.advanced input).referenceLock.lastPositiveEvidenceStamp =
            (self.liftLock input).lastPositiveEvidenceStamp := by
        rw [count, stamp, shown]
        unfold DiagnosticSurfaceReferenceLock.record
        simp only
        split
        · exact .inl rfl
        · exact .inr ⟨rfl, rfl⟩
      rw [← count] at confirmed
      have never : ¬self.ConfirmsLift input := by
        rintro ⟨-, unconfirmed, confirms⟩
        have missing := before.short unconfirmed
        rw [confirmed, unconfirmed, Bool.false_or, decide_eq_true_eq] at confirms
        rcases counted with zero | ⟨same, -⟩
        · omega
        · omega
      refine ⟨?_, fun confirms => absurd confirms never⟩
      rcases counted with zero | ⟨same, marked⟩
      · exact liftTrack_of_zero zero
      · refine ⟨fun _ => phase, fun unconfirmed => ?_, fun positive => ?_⟩
        · rw [confirmed, Bool.or_eq_false_iff] at unconfirmed
          rw [same]
          exact before.short unconfirmed.1
        · rw [same] at positive
          obtain ⟨opening, last, earlier, chain, called, stamped⟩ := before.chain positive
          refine ⟨opening, last, earlier, ?_, called, marked.trans stamped⟩
          rw [same]
          exact chain.idle ⟨input, rfl, keeps positive, fun _ => ⟨accepted, active, shown⟩⟩
    | contradictory =>
      have zero : (self.advanced input).referenceLock.preclusterLiftConfirmCount = 0 := by
        rw [count, shown]
        rfl
      refine ⟨liftTrack_of_zero zero, ?_⟩
      rintro ⟨-, unconfirmed, confirms⟩
      rw [← count, zero] at confirmed
      rw [confirmed, unconfirmed, Bool.false_or, decide_eq_true_eq] at confirms
      omega
  · -- Before the lift begins nothing is counted.
    have same : (self.advanced input).referenceLock = self.liftLock input := by
      rw [after]
      exact if_neg active
    have zero : (self.liftLock input).preclusterLiftConfirmCount = 0 := by
      by_contra some
      exact active (before.active (by omega))
    rw [same]
    refine ⟨liftTrack_of_zero zero, ?_⟩
    rintro ⟨-, unconfirmed, confirms⟩
    rw [same, unconfirmed] at confirms
    cases confirms

theorem run_liftTrack (calls : List Call)
    (steady : ∀ event ∈ (machine config).trace calls, SteadyLift event) :
    LiftTrack config.normalized ((machine config).trace calls)
      ((machine config).run calls).referenceLock := by
  -- The run and its past grow by the same call.
  induction calls with
  | nil => exact liftTrack_of_zero rfl
  | cons call older ih =>
    have before := ih fun event member => steady event (List.mem_cons_of_mem _ member)
    have here := steady ⟨(machine config).run older, call⟩ List.mem_cons_self
    show LiftTrack _ (⟨(machine config).run older, call⟩ :: (machine config).trace older)
      ((machine config).step ((machine config).run older) call).1.referenceLock
    cases call with
    | reset => exact liftTrack_of_zero rfl
    | update input =>
      by_cases accepted : ((machine config).run older).stampValid input = true
      · rw [step_accepted accepted]
        rw [← run_config older] at before ⊢
        exact (before.advanced accepted here).1
      · rw [step_refused accepted]
        unfold rolledBack
        by_cases back : ((machine config).run older).timeRollback input = true
        · rw [if_pos back]
          exact liftTrack_of_zero rfl
        · -- A frame that is refused leaves the count alone.
          rw [if_neg back]
          refine ⟨before.active, before.short, fun positive => ?_⟩
          obtain ⟨opening, last, earlier, chain, called, stamped⟩ := before.chain positive
          refine ⟨opening, last, earlier, chain.idle ⟨input, rfl, ?_, ?_⟩, called, stamped⟩
          · exact ⟨by simpa using back, fun stamped => absurd stamped accepted⟩
          · exact fun stamped => absurd stamped accepted

/--
Where every frame that speaks for a lift has a complete mask and comes soon enough after the last
one that was counted, a confirmed lift is proved by the last frames that spoke for it.
-/
theorem confirmed_lift_proved (config : CargoPhysicalIdentityConfig) (calls : List Call)
    (steady : ∀ event ∈ (machine config).trace calls, SteadyLift event)
    {newer older : List IdentityEvent} {event : IdentityEvent} {input : CargoPhysicalIdentityInput}
    (split : (machine config).trace calls = newer ++ event :: older)
    (called : event.call = .update input) (confirms : event.before.ConfirmsLift input) :
    LiftProved config.normalized event older := by
  obtain ⟨earlier, rfl, start⟩ := Machine.trace_split _ split
  obtain ⟨before, call⟩ := event
  obtain rfl : before = (machine config).run earlier := start
  obtain rfl : call = .update input := called
  have here := steady ⟨(machine config).run earlier, .update input⟩ (by rw [split]; simp)
  have past := @run_liftTrack _ config earlier fun event member =>
    steady event (by rw [split]; simp [member])
  rw [← run_config earlier] at past ⊢
  exact (past.advanced confirms.1 here).2 confirms

end Runs

section Samples

attribute [local instance] axisMath

def corneredGroup (stampSec z : Scalar) : CargoPhysicalGroupObservation :=
  { shownGroup stampSec 0 z 2 with
    unionPointsBase := [⟨1, 1, z⟩, ⟨1, -1, z⟩, ⟨-1, 1, z⟩, ⟨-1, -1, z⟩] }

def corneredFrame (stampSec : Scalar) (lifecycleId : Nat) (gravityState : HookLoadState)
    (z : Scalar) : CargoPhysicalIdentityInput :=
  let shown := shownFrame stampSec lifecycleId gravityState [corneredGroup stampSec z]
  { shown with
    frameEvidence := { shown.frameEvidence with rangeStaticConflictMask := some [0, 0, 0, 0] } }

theorem corneredFrame_complete (stampSec : Scalar) (lifecycleId : Nat)
    (gravityState : HookLoadState) (z : Scalar) :
    CompleteMask (corneredFrame stampSec lifecycleId gravityState z).frameEvidence := by
  intro cloud found
  obtain rfl := Option.some.inj found
  exact ⟨_, rfl, rfl⟩

def corneredLifted : List Call := [
  .update (corneredFrame 1.2 2 .loaded 3),
  .update (corneredFrame 1.1 1 .empty 1),
  .update (corneredFrame 1 1 .empty 1)]

theorem second_frame_proves_lift :
    let machine := machine { liftConfirmFrames := 2 }
    (machine.run corneredLifted).ConfirmsLift (corneredFrame 1.3 2 .loaded 3) ∧
      LiftProved { liftConfirmFrames := 2 : CargoPhysicalIdentityConfig }.normalized
        ⟨machine.run corneredLifted, .update (corneredFrame 1.3 2 .loaded 3)⟩
        (machine.trace corneredLifted) := by
  intro machine
  have confirms : (machine.run corneredLifted).ConfirmsLift (corneredFrame 1.3 2 .loaded 3) :=
    ⟨by with_unfolding_all decide, by decide +kernel, by decide +kernel⟩
  refine ⟨confirms, confirmed_lift_proved { liftConfirmFrames := 2 }
    (.update (corneredFrame 1.3 2 .loaded 3) :: corneredLifted) ?_ (List.nil_append _).symm rfl
    confirms⟩
  intro event member input called _
  simp only [Machine.trace, corneredLifted, List.mem_cons, List.not_mem_nil, or_false] at member
  -- No frame comes more than half a second after another one.
  rcases member with rfl | rfl | rfl | rfl
  all_goals
    obtain rfl := Call.update.inj called
    exact ⟨corneredFrame_complete _ _ _ _, by decide +kernel⟩

/-- A second frame confirms the lift no matter how long it comes after the first one. -/
theorem late_frame_confirms_lift :
    ¬∀ (config : CargoPhysicalIdentityConfig) (calls : List Call)
      (newer older : List IdentityEvent) (event : IdentityEvent)
      (input : CargoPhysicalIdentityInput),
      (machine config).trace calls = newer ++ event :: older → event.call = .update input →
      event.before.ConfirmsLift input → LiftProved config.normalized event older := by
  intro proves
  let machine := machine { liftConfirmFrames := 2 }
  obtain ⟨count, opening, two, chain⟩ := proves { liftConfirmFrames := 2 }
    (.update (corneredFrame 100 2 .loaded 3) :: corneredLifted) [] (machine.trace corneredLifted)
    ⟨machine.run corneredLifted, .update (corneredFrame 100 2 .loaded 3)⟩ _ rfl rfl
    ⟨by with_unfolding_all decide, by decide +kernel, by decide +kernel⟩
  obtain rfl : count = 2 := by
    have required : (count : Int) = 2 := two
    omega
  cases chain with
  | next chain counts continues =>
    -- Every earlier frame came much more than half a second before.
    obtain ⟨first, second, called, called', -, soon⟩ := continues
    obtain rfl := Call.update.inj called'
    have member := chain.ends_in_past.2
    simp only [Machine.trace, corneredLifted, List.mem_cons, List.not_mem_nil, or_false] at member
    rcases member with rfl | rfl | rfl
    all_goals
      obtain rfl := Call.update.inj called
      exact absurd soon (by with_unfolding_all decide)
  | idle chain ignored =>
    -- The late frame does show the load.
    obtain ⟨input, called, -, unobservable⟩ := ignored
    obtain rfl := Call.update.inj called
    exact absurd (unobservable (by with_unfolding_all decide)).2.2 (by decide +kernel)

end Samples

end CargoPhysicalIdentityAuthority

end NdtSlam
