import NdtSlam.Identity.HandoverFrames
import NdtSlam.Identity.OneGroupPerHistory
import NdtSlam.Identity.OwnerRuns

/-! When the formal reference is written at most once between two ends of an epoch. -/

namespace NdtSlam.CargoPhysicalIdentityAuthority

section Events

variable [IdentityMath] (self : CargoPhysicalIdentityAuthority)

def freezesIn : Call → Nat
  | .reset => 0
  | .update input =>
    if self.stampValid input then
      GroupPass.freezes (self.observationContext input) (self.passStart input) (self.framed input)
    else 0

def createsCertificate : Call → Prop
  | .reset => False
  | .update input => self.stampValid input = true ∧ (self.passed input).certificateCreated = true

omit [IdentityMath] in
def takesOnLoadEdge (input : CargoPhysicalIdentityInput) : Bool :=
  let edges := self.boundaryEdges input
  edges.load && !self.timeRollback input && !self.endsEpoch input &&
    self.handover.certificate.isSome &&
    !((self.handover.expireHandoff edges).promoteBoundary edges).underway

def vacates : Call → Prop
  | .reset => False
  | .update input => self.stampValid input = true ∧
      (self.takesOnLoadEdge input = true ∨ self.contradicted input = true)

end Events

section Claims

variable [IdentityMath] (before : CargoPhysicalIdentityAuthority)

structure WrittenOnce (input : CargoPhysicalIdentityInput)
    (next : CargoPhysicalIdentityAuthority) : Prop where
  reference : ∃ certificate, (before.passed input).handover.certificate = some certificate ∧
    next.referenceLock.reference = certificate.reference
  freezeCount : next.referenceLock.freezeCount =
    (before.entered input).referenceLock.freezeCount + 1
  counted : next.referenceLock.overwriteAttemptCount + 1 =
    (before.entered input).referenceLock.overwriteAttemptCount +
      before.freezesIn (.update input)

structure CountedOnly (call : Call) (next : CargoPhysicalIdentityAuthority) : Prop where
  silent : ¬before.createsCertificate call
  reference : next.referenceLock.reference = before.referenceLock.reference
  freezeCount : next.referenceLock.freezeCount = before.referenceLock.freezeCount
  counted : next.referenceLock.overwriteAttemptCount =
    before.referenceLock.overwriteAttemptCount + before.freezesIn call

end Claims

section Runs

variable [IdentityMath]

def staysInEpoch (event : IdentityEvent) : Prop := ¬event.before.clears event.call

def SettledInEpoch (past : List IdentityEvent) : Prop :=
  Since staysInEpoch (fun event => event.before.createsCertificate event.call) past

def VacatedInEpoch (past : List IdentityEvent) : Prop :=
  Since staysInEpoch (fun event => event.before.vacates event.call) past

structure WritesOnce (config : CargoPhysicalIdentityConfig) (calls : List Call) : Prop where
  first : ∀ newer older event input, (machine config).trace calls = newer ++ event :: older →
    event.call = .update input → event.before.createsCertificate event.call →
      event.before.WrittenOnce input ((machine config).step event.before event.call).1
  later : ∀ newer older event, (machine config).trace calls = newer ++ event :: older →
    staysInEpoch event → SettledInEpoch older →
      event.before.CountedOnly event.call ((machine config).step event.before event.call).1

/-- In every epoch of a run, nothing is settled after the certificate was taken away. -/
def SettlesBeforeVacated (config : CargoPhysicalIdentityConfig) (calls : List Call) : Prop :=
  ∀ newer older event, (machine config).trace calls = newer ++ event :: older →
    staysInEpoch event →
      (VacatedInEpoch older ∨ ∃ input, event.call = .update input ∧
        event.before.takesOnLoadEdge input = true) →
        event.before.freezesIn event.call = 0

end Runs

section Steps

variable [IdentityMath] {self : CargoPhysicalIdentityAuthority}
  {input : CargoPhysicalIdentityInput}

omit [IdentityMath] in
theorem entered_certificate (stays : self.forgets input = false) :
    (self.entered input).handover.certificate =
      if self.takesOnLoadEdge input then none else self.handover.certificate := by
  simp only [forgets, Bool.or_eq_false_iff] at stays
  obtain ⟨⟨forward, goesOn⟩, holds⟩ := stays
  have noRearm : input.rearm = false := by
    have both := goesOn
    simp only [endsEpoch, Bool.or_eq_false_iff] at both
    exact both.1
  have noLifecycle : (self.boundaryEdges input).lifecycle = false := by
    have both := goesOn
    simp only [endsEpoch, Bool.or_eq_false_iff] at both
    exact both.2
  obtain ⟨-, -, certificate, -⟩ := @entered_handover self input
  rw [certificate, goesOn, holds, coalesced_handover forward, noRearm]
  simp only [Bool.or_self, Bool.false_eq_true, if_false, Bool.not_false]
  rw [PreloadHandover.coalesce_certificate]
  unfold takesOnLoadEdge
  rw [forward, goesOn, noLifecycle]
  -- Without a certificate there is nothing to take away.
  cases self.handover.certificate with
  | none => simp
  | some certificate => simp

omit [IdentityMath] in
theorem entered_certificate_end (ends : self.forgets input = true) :
    (self.entered input).handover.certificate = none := by
  obtain ⟨-, -, certificate, -⟩ := @entered_handover self input
  rw [certificate]
  simp only [forgets, Bool.or_eq_true] at ends
  rcases ends with (back | goesOn) | puts
  · rw [(coalesced_handover_back back).1, ite_self]
  · rw [goesOn, Bool.true_or, if_pos rfl]
  · rw [puts, Bool.or_true, if_pos rfl]

theorem passed_recorded : GroupPass.Recorded (self.observationContext input)
    (self.passStart input) (self.framed input) (self.framed input).length
    (self.passed input) :=
  GroupPass.through_recorded

theorem freezesIn_accepted (accepted : self.stampValid input = true) :
    self.freezesIn (.update input) = GroupPass.freezesUpTo (self.observationContext input)
      (self.passStart input) (self.framed input) (self.framed input).length := by
  simp [freezesIn, accepted, GroupPass.freezes]

theorem certificateCreated_iff (accepted : self.stampValid input = true) :
    (self.passed input).certificateCreated = true ↔
      (self.entered input).handover.certificate = none ∧
        self.freezesIn (.update input) ≠ 0 := by
  rw [freezesIn_accepted accepted, ← (@handoverOffered_frame _ self input).1]
  have recorded := @passed_recorded _ self input
  cases recorded with
  | counted vacant certificate lock created =>
    have silent : (self.passed input).certificateCreated = false := created
    rw [silent]
    simp only [Bool.false_eq_true, false_iff, not_and, not_not]
    exact vacant
  | created vacant found settled certificate number lock created =>
    rw [created]
    refine iff_of_true rfl ⟨vacant, ?_⟩
    omega

theorem passed_certificate_isSome : (self.passed input).handover.certificate.isSome ↔
    (self.passed input).certificateCreated = true ∨
      (self.entered input).handover.certificate.isSome := by
  rw [← (@handoverOffered_frame _ self input).1]
  have recorded := @passed_recorded _ self input
  cases recorded with
  | counted vacant certificate lock created =>
    have silent : (self.passed input).certificateCreated = false := created
    have same : (self.passed input).handover.certificate =
        (self.handoverOffered input).certificate := certificate
    rw [silent, same]
    simp
  | created vacant found settled certificate number lock created =>
    rw [created, certificate]
    simp

theorem advanced_writtenOnce (accepted : self.stampValid input = true)
    (creates : (self.passed input).certificateCreated = true) :
    self.WrittenOnce input (self.advanced input) := by
  have recorded := @passed_recorded _ self input
  have written := @advanced_writing _ self input
  cases recorded with
  | counted vacant certificate lock created =>
    have silent : (self.passed input).certificateCreated = false := created
    rw [silent] at creates
    cases creates
  | created vacant found settled certificate number lock created =>
    rw [lock] at written
    refine ⟨⟨_, certificate, congrArg (·.1) written⟩, congrArg (·.2.1) written, ?_⟩
    -- The first settled reference is written, and the others are counted.
    have counted : (self.advanced input).referenceLock.overwriteAttemptCount =
        (self.entered input).referenceLock.overwriteAttemptCount + _ :=
      congrArg (·.2.2) written
    rw [freezesIn_accepted accepted, number, counted, Nat.add_assoc]

theorem advanced_countedOnly (accepted : self.stampValid input = true)
    (forward : self.timeRollback input = false)
    (silent : (self.passed input).certificateCreated = false) :
    self.CountedOnly (.update input) (self.advanced input) := by
  have recorded := @passed_recorded _ self input
  have written := @advanced_writing _ self input
  have start : (self.passStart input).referenceLock = self.referenceLock := by
    have entered := @entered_referenceLock self input
    rwa [forward, if_neg Bool.false_ne_true] at entered
  cases recorded with
  | counted vacant certificate lock created =>
    rw [lock, start] at written
    refine ⟨fun creates => ?_, congrArg (·.1) written, congrArg (·.2.1) written, ?_⟩
    · exact Bool.false_ne_true (silent.symm.trans creates.2)
    · rw [freezesIn_accepted accepted]
      exact congrArg (·.2.2) written
  | created vacant found settled certificate number lock created =>
    rw [silent] at created
    cases created

end Steps

section Histories

variable [IdentityMath] {config : CargoPhysicalIdentityConfig}
  {self : CargoPhysicalIdentityAuthority} {input : CargoPhysicalIdentityInput}

theorem step_accepted (accepted : self.stampValid input = true) :
    (machine config).step self (.update input) = (self.advanced input, self.decisionOf input) :=
  if_pos accepted

theorem step_refused (refused : ¬self.stampValid input = true) :
    ((machine config).step self (.update input)).1 = self.rolledBack input :=
  congrArg Prod.fst (if_neg refused)

omit [IdentityMath] in
theorem rolledBack_of_not_clears (stays : ¬self.clears (.update input)) :
    self.rolledBack input = self := by
  have forward : ¬self.timeRollback input = true := fun back => stays (.inl back)
  exact if_neg forward

omit [IdentityMath] in
theorem not_forgets
    (accepted : self.stampValid input = true) (stays : ¬self.clears (.update input)) :
    self.forgets input = false := by
  rw [← Bool.not_eq_true, forgets_iff_clears accepted]
  exact stays

theorem advanced_certificate_isSome : (self.advanced input).handover.certificate.isSome ↔
      self.contradicted input = false ∧ ((self.passed input).certificateCreated = true ∨
        (self.entered input).handover.certificate.isSome) := by
  rw [(@advanced_handover _ self input).1, ← passed_certificate_isSome]
  cases self.contradicted input with
  | true => simp
  | false => simp

omit [IdentityMath] in
theorem takesOnLoadEdge_spec (accepted : self.stampValid input = true)
    (takes : self.takesOnLoadEdge input = true) :
    staysInEpoch ⟨self, .update input⟩ ∧ self.handover.certificate.isSome := by
  simp only [takesOnLoadEdge, Bool.and_eq_true, Bool.not_eq_true'] at takes
  obtain ⟨⟨⟨⟨edge, forward⟩, goesOn⟩, present⟩, -⟩ := takes
  refine ⟨fun clears => ?_, present⟩
  -- A hook that carries a load does not put it down in the same frame.
  have loaded : input.gravityLoaded = true := by
    simp only [boundaryEdges, emptyToLoadedTransition, Bool.and_eq_true] at edge
    exact edge.2
  have ends : self.forgets input = true := (forgets_iff_clears accepted).mpr clears
  simp only [forgets, forward, goesOn, unloads, CargoPhysicalIdentityInput.gravityEmpty,
    Bool.or_self, Bool.false_or, Bool.and_eq_true, beq_iff_eq] at ends
  simp [CargoPhysicalIdentityInput.gravityLoaded, ends.1.1.2] at loaded

omit [IdentityMath] in
theorem stays_of_entered (accepted : self.stampValid input = true)
    (present : (self.entered input).handover.certificate.isSome) :
    staysInEpoch ⟨self, .update input⟩ ∧ self.handover.certificate.isSome := by
  have ends := @forgets_iff_clears self input accepted
  cases forgotten : self.forgets input with
  | true =>
    rw [entered_certificate_end forgotten] at present
    cases present
  | false =>
    rw [entered_certificate forgotten] at present
    refine ⟨fun clears => ?_, ?_⟩
    · rw [ends.mpr clears] at forgotten
      cases forgotten
    · split at present
      · cases present
      · exact present

variable (calls : List Call)

theorem settled_of_certificate :
    ((machine config).run calls).handover.certificate.isSome →
      SettledInEpoch ((machine config).trace calls) := by
  -- Every end of an epoch takes the certificate away.
  induction calls with
  | nil =>
    intro present
    cases present
  | cons call older ih =>
    intro present
    have stepped : (machine config).run (call :: older) =
        ((machine config).step ((machine config).run older) call).1 := rfl
    rw [stepped] at present
    cases call with
    | reset => cases present
    | update input =>
      by_cases accepted : ((machine config).run older).stampValid input = true
      · rw [step_accepted accepted, advanced_certificate_isSome] at present
        rcases present.2 with created | kept
        · exact .now ⟨accepted, created⟩ _
        · obtain ⟨stays, before⟩ := stays_of_entered accepted kept
          exact .later stays (ih before)
      · rw [step_refused accepted] at present
        unfold rolledBack at present
        split at present
        · cases present
        · rename_i forward
          refine .later (fun clears => ?_) (ih present)
          rcases clears with back | ⟨stamped, -⟩
          · exact forward back
          · exact accepted stamped

theorem kept_or_vacated :
    SettledInEpoch ((machine config).trace calls) →
      ((machine config).run calls).handover.certificate.isSome ∨
        VacatedInEpoch ((machine config).trace calls) := by
  induction calls with
  | nil =>
    rintro ⟨newer, event, older, split, -⟩
    cases newer with
    | nil => cases split
    | cons head rest => cases split
  | cons call older ih =>
    intro settled
    have stepped : (machine config).run (call :: older) =
        ((machine config).step ((machine config).run older) call).1 := rfl
    rw [stepped]
    rcases settled.uncons with created | ⟨stays, earlier⟩
    · cases call with
      | reset => cases created
      | update input =>
        obtain ⟨accepted, created⟩ := created
        rw [step_accepted accepted, advanced_certificate_isSome]
        cases contradiction : ((machine config).run older).contradicted input with
        | true => exact .inr (.now ⟨accepted, .inr contradiction⟩ _)
        | false => exact .inl ⟨rfl, .inl created⟩
    · cases call with
      | reset => exact absurd trivial stays
      | update input =>
        have here : ((machine config).run older).handover.certificate.isSome ∨
          VacatedInEpoch ((machine config).trace older) := ih earlier
        rcases here with present | vacated
        · by_cases accepted : ((machine config).run older).stampValid input = true
          · rw [step_accepted accepted, advanced_certificate_isSome,
              entered_certificate (not_forgets accepted stays)]
            -- Within the epoch, a load edge and a contradiction take the certificate away.
            cases takes : ((machine config).run older).takesOnLoadEdge input with
            | true => exact .inr (.now ⟨accepted, .inl takes⟩ _)
            | false =>
              cases contradiction : ((machine config).run older).contradicted input with
              | true => exact .inr (.now ⟨accepted, .inr contradiction⟩ _)
              | false => exact .inl ⟨rfl, .inr (by simpa using present)⟩
          · rw [step_refused accepted, rolledBack_of_not_clears stays]
            exact .inl present
        · exact .inr (.later stays vacated)

theorem settled_of_vacated :
    VacatedInEpoch ((machine config).trace calls) →
      SettledInEpoch ((machine config).trace calls) := by
  induction calls with
  | nil =>
    rintro ⟨newer, event, older, split, -⟩
    cases newer with
    | nil => cases split
    | cons head rest => cases split
  | cons call older ih =>
    intro vacated
    rcases vacated.uncons with now | ⟨stays, earlier⟩
    · cases call with
      | reset => cases now
      | update input =>
        obtain ⟨accepted, taken⟩ := now
        rcases taken with takes | contradiction
        · obtain ⟨stays, present⟩ := takesOnLoadEdge_spec accepted takes
          exact .later stays (settled_of_certificate older present)
        · have present : (((machine config).run older).passed input).handover.certificate.isSome := by
            simp only [contradicted, Bool.and_eq_true] at contradiction
            cases found : (((machine config).run older).passed input).handover.certificate with
            | none => simp [found] at contradiction
            | some certificate => rfl
          rcases passed_certificate_isSome.1 present with created | kept
          · exact .now ⟨accepted, created⟩ _
          · obtain ⟨stays, before⟩ := stays_of_entered accepted kept
            exact .later stays (settled_of_certificate older before)
    · exact .later stays (ih earlier)

theorem WritesOnce.earlier {calls older : List Call} {newer : List IdentityEvent}
    (continued : (machine config).trace calls = newer ++ (machine config).trace older)
    (writes : WritesOnce config calls) : WritesOnce config older where
  first later before event input split :=
    writes.first (newer ++ later) before event input (by rw [continued, split, List.append_assoc])
  later later before event split :=
    writes.later (newer ++ later) before event (by rw [continued, split, List.append_assoc])

theorem vacant_of_vacated {calls : List Call} (writes : WritesOnce config calls) :
    VacatedInEpoch ((machine config).trace calls) →
      ((machine config).run calls).handover.certificate = none := by
  induction calls with
  | nil => exact fun _ => rfl
  | cons call older ih =>
    intro vacated
    have stepped : (machine config).run (call :: older) =
        ((machine config).step ((machine config).run older) call).1 := rfl
    rw [stepped]
    -- In the same epoch, the reference is not settled a second time.
    have counted (stays : staysInEpoch ⟨(machine config).run older, call⟩)
        (settled : SettledInEpoch ((machine config).trace older)) :=
      writes.later [] _ _ rfl stays settled
    have vacant {input : CargoPhysicalIdentityInput}
        (entered : (((machine config).run older).entered input).handover.certificate = none)
        (silent : (((machine config).run older).passed input).certificateCreated = false) :
        (((machine config).run older).advanced input).handover.certificate = none := by
      rw [← Option.not_isSome_iff_eq_none, advanced_certificate_isSome, entered, silent]
      simp
    rcases vacated.uncons with now | ⟨stays, earlier⟩
    · cases call with
      | reset => cases now
      | update input =>
        obtain ⟨accepted, taken⟩ := now
        rw [step_accepted accepted]
        cases contradiction : ((machine config).run older).contradicted input with
        | true =>
          rw [(@advanced_handover _ ((machine config).run older) input).1, contradiction, if_pos rfl]
        | false =>
          have takes := taken.resolve_right (by simp [contradiction])
          obtain ⟨stays, present⟩ := takesOnLoadEdge_spec accepted takes
          have silent := (counted stays (settled_of_certificate older present)).silent
          refine vacant ?_ ?_
          · rw [entered_certificate (not_forgets accepted stays), takes, if_pos rfl]
          · rw [← Bool.not_eq_true]
            exact fun created => silent ⟨accepted, created⟩
    · cases call with
      | reset => exact absurd trivial stays
      | update input =>
        have absent := ih (@WritesOnce.earlier _ _ _ _ [⟨(machine config).run older, .update input⟩] rfl writes) earlier
        by_cases accepted : ((machine config).run older).stampValid input = true
        · rw [step_accepted accepted]
          have silent := (counted stays (settled_of_vacated older earlier)).silent
          refine vacant ?_ ?_
          · rw [entered_certificate (not_forgets accepted stays), absent, ite_self]
          · rw [← Bool.not_eq_true]
            exact fun created => silent ⟨accepted, created⟩
        · rw [step_refused accepted, rolledBack_of_not_clears stays]
          exact absent

end Histories

section Results

variable [IdentityMath]

theorem countedOnly_of_silent {config : CargoPhysicalIdentityConfig}
    {before : CargoPhysicalIdentityAuthority} {call : Call}
    (stays : staysInEpoch ⟨before, call⟩) (silent : ¬before.createsCertificate call) :
    before.CountedOnly call ((machine config).step before call).1 := by
  cases call with
  | reset => exact absurd trivial stays
  | update input =>
    by_cases accepted : before.stampValid input = true
    · rw [step_accepted accepted]
      have forward : before.timeRollback input = false := by
        rw [← Bool.not_eq_true]
        exact fun back => stays (.inl back)
      have quiet : (before.passed input).certificateCreated = false := by
        rw [← Bool.not_eq_true]
        exact fun created => silent ⟨accepted, created⟩
      exact advanced_countedOnly accepted forward quiet
    · rw [step_refused accepted, rolledBack_of_not_clears stays]
      exact ⟨silent, rfl, rfl, by simp [freezesIn, accepted]⟩

/--
The formal reference is written at most once in every epoch if and only if nothing is settled
after its certificate was taken away.
-/
theorem single_writer (config : CargoPhysicalIdentityConfig) (calls : List Call) :
    WritesOnce config calls ↔ SettlesBeforeVacated config calls := by
  constructor
  · intro writes newer older event split stays vacated
    obtain ⟨earlier, rfl, start⟩ := Machine.trace_split _ split
    obtain ⟨before, call⟩ := event
    obtain rfl : before = (machine config).run earlier := start
    have settled : SettledInEpoch ((machine config).trace earlier) := by
      rcases vacated with vacated | ⟨input, rfl, takes⟩
      · exact settled_of_vacated earlier vacated
      · simp only [takesOnLoadEdge, Bool.and_eq_true] at takes
        exact settled_of_certificate earlier takes.1.2
    have silent := (writes.later newer _ _ split stays settled).silent
    cases call with
    | reset => rfl
    | update input =>
      by_cases accepted : ((machine config).run earlier).stampValid input = true
      · -- Without a certificate, the next reference that is settled would be written.
        have vacant : (((machine config).run earlier).entered input).handover.certificate =
            none := by
          rw [entered_certificate (not_forgets accepted stays)]
          rcases vacated with vacated | ⟨_, same, takes⟩
          · have writesEarlier : WritesOnce config earlier :=
              @WritesOnce.earlier _ _ calls earlier
                (newer ++ [⟨(machine config).run earlier, .update input⟩]) (by simp [split]) writes
            rw [vacant_of_vacated writesEarlier vacated, ite_self]
          · obtain rfl := Call.update.inj same
            rw [if_pos takes]
        by_contra freezes
        exact silent ⟨accepted, (certificateCreated_iff accepted).mpr ⟨vacant, freezes⟩⟩
      · simp [freezesIn, accepted]
  · intro settles
    refine ⟨?_, ?_⟩
    · rintro newer older ⟨before, call⟩ input split rfl ⟨accepted, created⟩
      rw [step_accepted accepted]
      exact advanced_writtenOnce accepted created
    · intro newer older event split stays settled
      obtain ⟨earlier, rfl, start⟩ := Machine.trace_split _ split
      obtain ⟨before, call⟩ := event
      obtain rfl : before = (machine config).run earlier := start
      refine countedOnly_of_silent stays (fun creates => ?_)
      cases call with
      | reset => cases creates
      | update input =>
        obtain ⟨accepted, created⟩ := creates
        obtain ⟨vacant, freezes⟩ := (certificateCreated_iff accepted).mp created
        -- The certificate is there until it is taken away, and then nothing is settled.
        rcases kept_or_vacated earlier settled with present | vacated
        · rw [entered_certificate (not_forgets accepted stays)] at vacant
          cases takes : ((machine config).run earlier).takesOnLoadEdge input with
          | true => exact freezes (settles newer _ _ split stays (.inr ⟨input, rfl, takes⟩))
          | false =>
            rw [takes, if_neg Bool.false_ne_true] at vacant
            rw [vacant] at present
            cases present
        · exact freezes (settles newer _ _ split stays (.inl vacated))

end Results

section Samples

def shownGroup (stampSec x z sideM : Scalar) : CargoPhysicalGroupObservation where
  frameGroupId := 1
  memberComponentIds := [1]
  unionPointsBase := [⟨x, 0, z⟩]
  geometryResolved := true
  representative := { candidateId := 1, center := ⟨x, 0, z⟩, size := ⟨sideM, sideM, 1⟩ }
  descriptor := {
    valid := true
    stampSec
    stableAnchor := ⟨x, 0, z⟩
    aggregateExtent := ⟨sideM, sideM, 1⟩
    robustX05 := x - 0.5 * sideM
    robustX95 := x + 0.5 * sideM
    robustY05 := -(0.5 * sideM)
    robustY95 := 0.5 * sideM
    robustXyCenter := ⟨x, 0⟩
    robustXyExtent := ⟨sideM, sideM⟩
    aggregatePointSupport := 1
    verticalMode := .supportedEvidence
    physicalVerticalZ := z
    verticalUncertaintyM := 0 }

def shownFrame (stampSec : Scalar) (lifecycleId : Nat) (gravityState : HookLoadState)
    (groups : List CargoPhysicalGroupObservation) : CargoPhysicalIdentityInput where
  pipelineStampSec := stampSec
  lifecycleId
  gravityValid := true
  gravityState
  groups
  frameEvidence := {
    sourceStampSec := stampSec
    rawRoiCurrentFrame := some (groups.flatMap (·.unionPointsBase))
    rangeCloudCurrentFrame := some (groups.flatMap (·.unionPointsBase))
    rangeStaticConflictMask := some (groups.map fun _ => 0)
    staticConflictContextValid := true }
  verticalConfig := {
    minimumSurfacePoints := 1
    minimumSurfaceCells := 1
    minimumSurfaceCoverageRatio := 0 }

attribute [local semireducible] Rat.add Rat.sub Rat.mul Rat.inv Rat.ofScientific

theorem contradicted_certificate_is_replaced :
    ¬@WritesOnce axisMath { liftConfirmFrames := 1 } [
      .update (shownFrame 1.2 1 .empty [shownGroup 1.2 20 1 2]),
      .update (shownFrame 1.1 1 .empty [shownGroup 1.1 0 1 8]),
      .update (shownFrame 1 1 .empty [shownGroup 1 0 1 2])] := by
  intro writes
  let machine := @machine axisMath { liftConfirmFrames := 1 }
  let first : Call := .update (shownFrame 1 1 .empty [shownGroup 1 0 1 2])
  let second : Call := .update (shownFrame 1.1 1 .empty [shownGroup 1.1 0 1 8])
  -- The first frame settles the formal reference, and the third one settles it again.
  have settled : @SettledInEpoch axisMath (machine.trace [second, first]) := by
    refine ⟨[⟨machine.run [first], second⟩], ⟨machine.start, first⟩, [], rfl, ?_, ?_⟩
    · exact ⟨by decide, by decide⟩
    · intro later member
      obtain rfl := List.mem_singleton.mp member
      have stays : ¬(machine.run [first]).clears second := by
        simp only [clears, second]
        decide
      exact stays
  have stays : ¬(machine.run [second, first]).clears
      (.update (shownFrame 1.2 1 .empty [shownGroup 1.2 20 1 2])) := by
    simp only [clears]
    decide
  have counted := @WritesOnce.later axisMath _ _ writes [] _ _ rfl stays settled
  exact @CountedOnly.silent axisMath _ _ _ counted ⟨by decide, by decide⟩

end Samples

end NdtSlam.CargoPhysicalIdentityAuthority
