import NdtSlam.HookLoad.Filter

/-! Whether a cargo is present, and since when, as a run of updates tells. -/

namespace NdtSlam

inductive CargoPresenceState where
  | empty
  | loadedAuthoritative
  | loadedGravityStaleHold
  | unknownHardFault
  deriving DecidableEq

structure CargoPresenceConfig where
  gravityStaleHoldSec : Scalar := 3.0

structure CargoPresenceInput where
  stampSec : Scalar := 0
  gravityEnabled : Bool := true
  gravityValid : Bool := false
  gravityState : HookLoadState := .unknown
  gravityAgeSec : Scalar := 0
  lidarCandidateVisible : Bool := false
  formalTrackRetained : Bool := false

structure CargoPresenceResult where
  cargoPresent : Bool := false
  clearAllowed : Bool := false
  fallbackEnvelopeRequired : Bool := false
  gravityAuthoritative : Bool := false
  state : CargoPresenceState := .empty
  loadedDurationSec : Scalar := 0
  stateDurationSec : Scalar := 0
  sourceEpoch : Nat := 0
  reason : String := "not_evaluated"

structure CargoPresenceStateMachine where
  config : CargoPresenceConfig := {}
  result : CargoPresenceResult := {}
  lastStampSec : Scalar := 0
  loadedSinceSec : Scalar := 0
  stateSinceSec : Scalar := 0
  cargoLatched : Bool := false

namespace CargoPresenceStateMachine

def validConfig (config : CargoPresenceConfig) : Bool :=
  config.gravityStaleHoldSec.isFinite && 0 ≤ config.gravityStaleHoldSec

def invalidTimestamp (input : CargoPresenceInput) : Bool :=
  !input.stampSec.isFinite || input.stampSec ≤ 0

variable (self : CargoPresenceStateMachine) (input : CargoPresenceInput)

def rollsBack : Bool := 0 < self.lastStampSec && input.stampSec ≤ self.lastStampSec

def shortStale : Bool :=
  self.cargoLatched && input.gravityAgeSec.isFinite &&
    input.gravityAgeSec ≤ self.config.gravityStaleHoldSec

def transition (state : CargoPresenceState) : CargoPresenceStateMachine :=
  { self with
    stateSinceSec := if self.result.state != state || self.stateSinceSec ≤ 0 then input.stampSec
      else self.stateSinceSec
    result := { self.result with state } }

def hold (reason : String) : CargoPresenceStateMachine :=
  { self with result := { self.result with
      cargoPresent := self.cargoLatched
      clearAllowed := false
      fallbackEnvelopeRequired := self.cargoLatched
      gravityAuthoritative := false
      reason } }

def distrust : CargoPresenceStateMachine :=
  let held := self.hold "invalid_timestamp"
  { held with result := { held.result with state := .unknownHardFault } }

def rollback : CargoPresenceStateMachine :=
  let held := { self with
    loadedSinceSec := if self.cargoLatched then input.stampSec else self.loadedSinceSec }
  let after := (held.hold "timestamp_rollback_conservative_hold").transition input .unknownHardFault
  { after with
    lastStampSec := input.stampSec
    result := { after.result with
      sourceEpoch := after.result.sourceEpoch + 1
      loadedDurationSec := 0
      stateDurationSec := 0 } }

def observe : CargoPresenceStateMachine :=
  if !input.gravityEnabled then
    let latched := input.formalTrackRetained || input.lidarCandidateVisible
    let after := self.transition input (if latched then .loadedAuthoritative else .empty)
    { after with
      cargoLatched := latched
      loadedSinceSec := if latched && self.loadedSinceSec ≤ 0 then input.stampSec
        else if !latched then 0 else self.loadedSinceSec
      result := { after.result with
        cargoPresent := latched
        clearAllowed := !latched
        fallbackEnvelopeRequired := latched && !input.formalTrackRetained
        gravityAuthoritative := false
        reason := if latched then "gravity_disabled_lidar_presence"
          else "gravity_disabled_no_cargo" } }
  else if input.gravityValid && input.gravityState == .loaded then
    let after := self.transition input .loadedAuthoritative
    { after with
      cargoLatched := true
      loadedSinceSec := if !self.cargoLatched || self.loadedSinceSec ≤ 0 then input.stampSec
        else self.loadedSinceSec
      result := { after.result with
        cargoPresent := true
        clearAllowed := false
        fallbackEnvelopeRequired := !input.formalTrackRetained
        gravityAuthoritative := true
        reason := "gravity_loaded_authoritative" } }
  else if input.gravityValid && input.gravityState == .empty then
    let after := self.transition input .empty
    { after with
      cargoLatched := false
      loadedSinceSec := 0
      result := { after.result with
        cargoPresent := false
        clearAllowed := true
        fallbackEnvelopeRequired := false
        gravityAuthoritative := true
        reason := "gravity_empty_confirmed" } }
  else if self.shortStale input then
    (self.hold "gravity_stale_loaded_hold").transition input .loadedGravityStaleHold
  else (self.hold "gravity_unavailable_hard_fault").transition input .unknownHardFault

def advance : CargoPresenceStateMachine :=
  let after := self.observe input
  { after with
    lastStampSec := input.stampSec
    result := { after.result with
      loadedDurationSec := if after.cargoLatched && 0 < after.loadedSinceSec then
        input.stampSec - after.loadedSinceSec else 0
      stateDurationSec := if 0 < after.stateSinceSec then
        input.stampSec - after.stateSinceSec else 0 } }

def update : CargoPresenceStateMachine × CargoPresenceResult :=
  let after :=
    if invalidTimestamp input then self.distrust
    else if self.rollsBack input then self.rollback input
    else self.advance input
  (after, after.result)

end CargoPresenceStateMachine

def cargoPresenceMachine (config : CargoPresenceConfig) :
    Machine CargoPresenceStateMachine CargoPresenceInput CargoPresenceResult where
  start := { config := if CargoPresenceStateMachine.validConfig config then config else {} }
  step := CargoPresenceStateMachine.update

namespace CargoPresenceStateMachine

section Courses

abbrev Update := Event CargoPresenceStateMachine CargoPresenceInput

def entered : List Update → Option Scalar
  | [] => none
  | event :: earlier =>
    let state := event.before.result.state
    if invalidTimestamp event.call then
      if state = .unknownHardFault then entered earlier else none
    else if event.before.rollsBack event.call ||
        (event.before.update event.call).1.result.state != state then some event.call.stampSec
    else some ((entered earlier).getD event.call.stampSec)

def latchedAt : List Update → Option Scalar
  | [] => none
  | event :: earlier =>
    if !(event.before.update event.call).1.cargoLatched then none
    else if invalidTimestamp event.call then latchedAt earlier
    else if event.before.rollsBack event.call || !event.before.cargoLatched then
      some event.call.stampSec
    else latchedAt earlier

def ShowsAbsence (input : CargoPresenceInput) : Prop :=
  if input.gravityEnabled then input.gravityValid = true ∧ input.gravityState = .empty
  else input.formalTrackRetained = false ∧ input.lidarCandidateVisible = false

/-- An update with a valid stamp reports the right times, and clears only what is absent. -/
structure Accounted (earlier : List Update) (event : Update) : Prop where
  state : ∃ since, entered (event :: earlier) = some since ∧
    (event.before.update event.call).2.stateDurationSec = event.call.stampSec - since
  stateNonnegative : 0 ≤ (event.before.update event.call).2.stateDurationSec
  loaded : (event.before.update event.call).2.loadedDurationSec
    = (latchedAt (event :: earlier)).elim 0 (event.call.stampSec - ·)
  loadedNonnegative : 0 ≤ (event.before.update event.call).2.loadedDurationSec
  clear : (event.before.update event.call).2.clearAllowed = true →
    (event.before.update event.call).1.cargoLatched = false ∧ ShowsAbsence event.call

variable (self : CargoPresenceStateMachine) (input : CargoPresenceInput)

def hardFault : Bool :=
  input.gravityEnabled &&
    !(input.gravityValid && (input.gravityState == .loaded || input.gravityState == .empty)) &&
    !self.shortStale input

/--
The hard fault is timed from a stamp at which it was not entered.

Either an invalid stamp brought it about while another state was timed, or a rollback met it, at
another stamp than the one it was timed from. Only updates that keep the fault came since.
-/
def misdated : List Update → Bool
  | [] => false
  | event :: earlier =>
    if invalidTimestamp event.call then
      if event.before.result.state = .unknownHardFault then misdated earlier
      else 0 < event.before.stateSinceSec
    else if event.before.rollsBack event.call then
      event.before.result.state == .unknownHardFault &&
        event.call.stampSec != event.before.stateSinceSec
    else event.before.hardFault event.call && misdated earlier

end Courses

section Observations

variable {self : CargoPresenceStateMachine} {input : CargoPresenceInput}

theorem observe_stateSince : (self.observe input).stateSinceSec =
    (self.transition input (self.observe input).result.state).stateSinceSec := by
  unfold observe
  repeat' split
  all_goals rfl

theorem observe_fault :
    (self.observe input).result.state = .unknownHardFault ↔ self.hardFault input = true := by
  -- The other states are those of the branches before the last one.
  unfold observe hardFault
  cases input.gravityValid <;> cases input.formalTrackRetained <;>
    cases input.lidarCandidateVisible <;> split_ifs <;> simp_all [transition, hold]

theorem observe_loadedSince (unlatched : self.cargoLatched = false → self.loadedSinceSec = 0)
    (latched : self.cargoLatched = true → ¬self.loadedSinceSec ≤ 0) :
    (self.observe input).loadedSinceSec =
      if (self.observe input).cargoLatched then
        if self.cargoLatched then self.loadedSinceSec else input.stampSec
      else 0 := by
  cases held : self.cargoLatched with
  | true =>
    have timed := latched held
    unfold observe
    cases input.formalTrackRetained <;> cases input.lidarCandidateVisible <;> split_ifs <;>
      simp_all [transition, hold]
  | false =>
    have untimed := unlatched held
    have zero : (0 : Scalar) ≤ 0 := by decide
    unfold observe
    split_ifs <;> simp_all [transition, hold]

theorem observe_clear (cleared : (self.observe input).result.clearAllowed = true) :
    (self.observe input).cargoLatched = false ∧ ShowsAbsence input := by
  revert cleared
  unfold observe ShowsAbsence
  split_ifs <;> simp_all [transition, hold]

theorem stamp_of_valid (valid : invalidTimestamp input = false) :
    ∃ stamp : ℚ, input.stampSec = .fin stamp ∧ 0 < stamp := by
  simp only [invalidTimestamp, Bool.or_eq_false_iff, Bool.not_eq_false', decide_eq_false_iff_not]
    at valid
  obtain ⟨stamp, stampEq⟩ := Scalar.isFinite_iff.1 valid.1
  rw [stampEq] at valid
  exact ⟨stamp, stampEq, not_le.mp fun low => valid.2 (Scalar.fin_le_fin.2 low)⟩

end Observations

structure Dated (earlier : List Update) (after : CargoPresenceStateMachine)
    (last loaded since : ℚ) : Prop where
  lastEq : after.lastStampSec = .fin last
  loadedEq : after.loadedSinceSec = .fin loaded
  sinceEq : after.stateSinceSec = .fin since
  nonnegative : 0 ≤ last
  started : 0 < last ↔ 0 < since
  held : after.cargoLatched = true →
    0 < loaded ∧ loaded ≤ last ∧ latchedAt earlier = some (.fin loaded)
  free : after.cargoLatched = false → loaded = 0 ∧ latchedAt earlier = none
  right : misdated earlier = false →
    since ≤ last ∧ entered earlier = if 0 < since then some (.fin since) else none
  wrong : misdated earlier = true →
    after.result.state = .unknownHardFault ∧ 0 < since ∧ entered earlier ≠ some (.fin since) ∧
      (entered earlier = none → since ≤ last)

section Steps

variable {earlier : List Update} {self : CargoPresenceStateMachine} {input : CargoPresenceInput}
  {last loaded since stamp : ℚ} (dated : Dated earlier self last loaded since)
include dated

theorem Dated.distrusted (invalid : invalidTimestamp input = true) :
    Dated (⟨self, input⟩ :: earlier) (self.update input).1 last loaded since := by
  have after : (self.update input).1 = self.distrust := by simp [update, invalid]
  have latch : latchedAt (⟨self, input⟩ :: earlier) =
      if self.cargoLatched then latchedAt earlier else none := by
    cases held : self.cargoLatched <;> simp [latchedAt, after, distrust, hold, invalid, held]
  rw [after]
  refine ⟨dated.lastEq, dated.loadedEq, dated.sinceEq, dated.nonnegative, dated.started,
    fun held => ?_, fun free => ?_, fun right => ?_, fun wrong => ⟨rfl, ?_⟩⟩
  · exact latch ▸ if_pos held ▸ dated.held held
  · exact ⟨(dated.free free).1, latch ▸ if_neg (Bool.eq_false_iff.mp free)⟩
  · simp only [misdated, entered, invalid, if_true] at right ⊢
    by_cases fault : self.result.state = .unknownHardFault
    · simp only [if_pos fault] at right ⊢
      exact dated.right right
    · -- No state was timed before.
      simp only [if_neg fault, dated.sinceEq, decide_eq_false_iff_not] at right ⊢
      have unset : ¬0 < since := fun set => right (Scalar.fin_lt_fin.2 set)
      rw [if_neg unset]
      exact ⟨(not_lt.mp unset).trans dated.nonnegative, rfl⟩
  · simp only [misdated, entered, invalid, if_true] at wrong ⊢
    by_cases fault : self.result.state = .unknownHardFault
    · simp only [if_pos fault] at wrong ⊢
      exact (dated.wrong wrong).2
    · simp only [if_neg fault, dated.sinceEq, decide_eq_true_eq] at wrong ⊢
      have right := Bool.eq_false_of_not_eq_true fun wrong => fault (dated.wrong wrong).1
      exact ⟨Scalar.fin_lt_fin.1 wrong, by simp, fun _ => (dated.right right).1⟩

theorem Dated.rolledBack (valid : invalidTimestamp input = false)
    (stampEq : input.stampSec = .fin stamp) (positive : 0 < stamp)
    (back : self.rollsBack input = true) :
    Dated (⟨self, input⟩ :: earlier) (self.update input).1 stamp
      (if self.cargoLatched then stamp else loaded)
      (if self.result.state = .unknownHardFault then since else stamp) := by
  have after : (self.update input).1 = self.rollback input := by simp [update, valid, back]
  have started : 0 < since := by
    simp only [rollsBack, dated.lastEq, Bool.and_eq_true, decide_eq_true_eq] at back
    exact dated.started.mp (Scalar.fin_lt_fin.1 back.1)
  have unset : ¬(Scalar.fin since ≤ 0) := fun low =>
    absurd (Scalar.fin_le_fin.1 low) (not_le.mpr started)
  have latch : latchedAt (⟨self, input⟩ :: earlier) =
      if self.cargoLatched then some (.fin stamp) else none := by
    cases held : self.cargoLatched <;>
      simp [latchedAt, after, rollback, hold, transition, valid, back, stampEq, held]
  have enters : entered (⟨self, input⟩ :: earlier) = some (.fin stamp) := by
    simp [entered, valid, back, stampEq]
  have wrong : misdated (⟨self, input⟩ :: earlier) = true ↔
      self.result.state = .unknownHardFault ∧ stamp ≠ since := by
    simp [misdated, valid, back, stampEq, dated.sinceEq]
  have loadedEq : (self.rollback input).loadedSinceSec =
      .fin (if self.cargoLatched then stamp else loaded) := by
    cases held : self.cargoLatched <;>
      simp [rollback, hold, transition, stampEq, dated.loadedEq, held]
  have sinceEq : (self.rollback input).stateSinceSec =
      .fin (if self.result.state = .unknownHardFault then since else stamp) := by
    by_cases fault : self.result.state = .unknownHardFault <;>
      simp [rollback, hold, transition, stampEq, dated.sinceEq, fault, unset]
  rw [after]
  refine ⟨stampEq, loadedEq, sinceEq, positive.le, iff_of_true positive ?_, fun held => ?_,
    fun free => ?_, fun right => ?_, fun shown => ⟨rfl, ?_⟩⟩
  · split <;> assumption
  · have held : self.cargoLatched = true := held
    rw [latch, if_pos held, if_pos held]
    exact ⟨positive, le_rfl, rfl⟩
  · have free : ¬self.cargoLatched = true := Bool.eq_false_iff.mp free
    rw [latch, if_neg free, if_neg free]
    exact ⟨(dated.free (Bool.eq_false_iff.mpr free)).1, rfl⟩
  · rw [enters]
    by_cases fault : self.result.state = .unknownHardFault
    · -- The fault is met at the stamp it is timed from.
      have same : stamp = since := by
        by_contra other
        rw [wrong.mpr ⟨fault, other⟩] at right
        cases right
      rw [if_pos fault, if_pos started, same]
      exact ⟨le_rfl, rfl⟩
    · rw [if_neg fault, if_pos positive]
      exact ⟨le_rfl, rfl⟩
  · obtain ⟨fault, other⟩ := wrong.mp shown
    rw [if_pos fault, enters]
    exact ⟨started, by simpa using other, fun none => by cases none⟩

theorem Dated.advanced (valid : invalidTimestamp input = false)
    (stampEq : input.stampSec = .fin stamp) (positive : 0 < stamp)
    (onward : self.rollsBack input = false) :
    ∃ loaded since, Dated (⟨self, input⟩ :: earlier) (self.update input).1 stamp loaded since := by
  have after : (self.update input).1 = self.advance input := by simp [update, valid, onward]
  have later : last < stamp := by
    by_contra back
    simp only [rollsBack, dated.lastEq, stampEq, Bool.and_eq_false_iff, decide_eq_false_iff_not]
      at onward
    rcases onward with unstarted | later
    · exact unstarted (Scalar.fin_lt_fin.2 (positive.trans_le (not_lt.mp back)))
    · exact later (Scalar.fin_le_fin.2 (not_lt.mp back))
  have loadedEq : (self.advance input).loadedSinceSec = .fin (if (self.observe input).cargoLatched
      then if self.cargoLatched then loaded else stamp else 0) := by
    refine (observe_loadedSince (fun free => ?_) fun held low => ?_).trans ?_
    · rw [dated.loadedEq, (dated.free free).1]
      rfl
    · exact absurd (Scalar.fin_le_fin.1 (dated.loadedEq ▸ low)) (not_le.mpr (dated.held held).1)
    · rw [dated.loadedEq, stampEq]
      split_ifs <;> rfl
  have sinceEq : (self.advance input).stateSinceSec = .fin
      (if (self.observe input).result.state = self.result.state ∧ 0 < since then since
        else stamp) := by
    refine observe_stateSince.trans ?_
    have set : Scalar.fin since ≤ 0 ↔ ¬0 < since := Scalar.fin_le_fin.trans not_lt.symm
    simp only [transition, dated.sinceEq, stampEq, bne_iff_ne, Bool.or_eq_true, decide_eq_true_eq,
      set, ← not_and_or, eq_comm (a := self.result.state)]
    split_ifs <;> rfl
  have latched : (self.update input).1.cargoLatched = (self.observe input).cargoLatched := by
    rw [after]
    rfl
  have shown : (self.update input).1.result.state = (self.observe input).result.state := by
    rw [after]
    rfl
  have latch : latchedAt (⟨self, input⟩ :: earlier) = if (self.observe input).cargoLatched then
      if self.cargoLatched then latchedAt earlier else some (.fin stamp) else none := by
    cases seen : (self.observe input).cargoLatched <;> cases held : self.cargoLatched <;>
      simp [latchedAt, latched, valid, onward, seen, held, stampEq]
  have enters : entered (⟨self, input⟩ :: earlier) =
      some (if (self.observe input).result.state = self.result.state then
        (entered earlier).getD (.fin stamp) else .fin stamp) := by
    by_cases kept : (self.observe input).result.state = self.result.state <;>
      simp [entered, shown, valid, onward, kept, stampEq]
  have wrong : misdated (⟨self, input⟩ :: earlier) = true ↔
      self.hardFault input = true ∧ misdated earlier = true := by
    simp [misdated, valid, onward]
  refine ⟨_, _, by rw [after]; exact stampEq, by rw [after]; exact loadedEq,
    by rw [after]; exact sinceEq, positive.le, iff_of_true positive ?_, fun held => ?_,
    fun free => ?_, fun right => ?_, fun misdated => ?_⟩
  · split
    · next both => exact both.2
    · exact positive
  · have seen : (self.observe input).cargoLatched = true := latched ▸ held
    simp only [latch, if_pos seen]
    split
    · next before =>
      obtain ⟨set, below, since⟩ := dated.held before
      exact ⟨set, below.trans later.le, since⟩
    · exact ⟨positive, le_rfl, rfl⟩
  · have free : ¬(self.observe input).cargoLatched = true := by simp [← latched, free]
    rw [latch, if_neg free, if_neg free]
    exact ⟨rfl, rfl⟩
  · rw [enters]
    by_cases kept : (self.observe input).result.state = self.result.state
    · -- A fault that goes on is dated as before.
      have right : CargoPresenceStateMachine.misdated earlier = false := by
        by_contra misdated
        rw [Bool.not_eq_false] at misdated
        have fault := observe_fault.1 (kept.trans (dated.wrong misdated).1)
        rw [wrong.mpr ⟨fault, misdated⟩] at right
        cases right
      obtain ⟨below, enters⟩ := dated.right right
      rw [if_pos kept, enters]
      by_cases set : 0 < since
      · rw [if_pos ⟨kept, set⟩, if_pos set]
        exact ⟨below.trans later.le, rfl⟩
      · rw [if_neg (fun both => set both.2), if_neg set, if_pos positive]
        exact ⟨le_rfl, rfl⟩
    · rw [if_neg kept, if_neg (fun both => kept both.1), if_pos positive]
      exact ⟨le_rfl, rfl⟩
  · obtain ⟨fault, before⟩ := wrong.mp misdated
    obtain ⟨same, set, other, below⟩ := dated.wrong before
    have kept := (observe_fault.2 fault).trans same.symm
    rw [enters, if_pos ⟨kept, set⟩, if_pos kept]
    refine ⟨shown.trans (observe_fault.2 fault), set, ?_, fun none => by cases none⟩
    -- What has no stamp of its own gets the new one, which is a later one.
    cases entry : entered earlier with
    | none =>
      have earlier := (below entry).trans_lt later
      simpa using earlier.ne'
    | some stamp => simpa [entry] using other

end Steps

section Runs

variable (config : CargoPresenceConfig) (calls : List CargoPresenceInput)

theorem run_dated : ∃ last loaded since,
    Dated ((cargoPresenceMachine config).trace calls) ((cargoPresenceMachine config).run calls)
      last loaded since := by
  -- The three kinds of updates keep the invariant.
  refine @Machine.run_invariant _ _ _ (cargoPresenceMachine config) (fun earlier after =>
    ∃ last loaded since, Dated earlier after last loaded since) ?_ ?_ calls
  · exact ⟨0, 0, 0, rfl, rfl, rfl, le_rfl, Iff.rfl, (by cases ·), fun _ => ⟨rfl, rfl⟩,
      fun _ => ⟨le_rfl, rfl⟩, (by cases ·)⟩
  · rintro earlier self input ⟨last, loaded, since, dated⟩
    cases valid : invalidTimestamp input with
    | true => exact ⟨_, _, _, dated.distrusted valid⟩
    | false =>
      obtain ⟨stamp, stampEq, positive⟩ := stamp_of_valid valid
      cases back : self.rollsBack input with
      | true => exact ⟨_, _, _, dated.rolledBack valid stampEq positive back⟩
      | false => exact ⟨_, dated.advanced valid stampEq positive back⟩

/-- An update with a valid stamp is right unless it goes on with a fault that is misdated. -/
theorem presence_accounted_iff (input : CargoPresenceInput) :
    (invalidTimestamp input = false →
      Accounted ((cargoPresenceMachine config).trace calls)
        ⟨(cargoPresenceMachine config).run calls, input⟩) ↔
    (invalidTimestamp input = false →
      ((cargoPresenceMachine config).run calls).rollsBack input = false →
      ((cargoPresenceMachine config).run calls).hardFault input = true →
      misdated ((cargoPresenceMachine config).trace calls) = false) := by
  obtain ⟨last, loaded, since, dated⟩ := run_dated config calls
  refine imp_congr_right fun valid => ?_
  obtain ⟨stamp, stampEq, positive⟩ := stamp_of_valid valid
  generalize (cargoPresenceMachine config).trace calls = earlier at dated ⊢
  generalize (cargoPresenceMachine config).run calls = self at dated ⊢
  cases back : self.rollsBack input with
  | true =>
    -- A rollback reports nothing but zeros.
    have after : self.update input = (self.rollback input, (self.rollback input).result) := by
      simp [update, valid, back]
    refine iff_of_true ⟨⟨.fin stamp, by simp [entered, valid, back, stampEq], ?_⟩, ?_, ?_, ?_, ?_⟩
      (fun onward => by cases onward)
    all_goals simp only [after, stampEq]
    · simp [rollback]
      rfl
    · exact Scalar.fin_le_fin.2 le_rfl
    · cases held : self.cargoLatched <;>
        simp [latchedAt, after, rollback, hold, transition, valid, back, stampEq, held]
      rfl
    · exact Scalar.fin_le_fin.2 le_rfl
    · intro cleared
      cases cleared
  | false =>
    obtain ⟨loaded, since, next⟩ := dated.advanced valid stampEq positive back
    have after : self.update input = (self.advance input, (self.advance input).result) := by
      simp [update, valid, back]
    rw [after] at next
    have sinceEq : (self.observe input).stateSinceSec = .fin since := next.sinceEq
    have loadedEq : (self.observe input).loadedSinceSec = .fin loaded := next.loadedEq
    have set : (0 : Scalar) < .fin since := Scalar.fin_lt_fin.2 (next.started.mp positive)
    have timed : (self.advance input).result.stateDurationSec = .fin (stamp - since) := by
      simp [advance, sinceEq, set, stampEq]
    have spent : (self.advance input).result.loadedDurationSec =
        .fin (if (self.advance input).cargoLatched then stamp - loaded else 0) := by
      cases held : (self.observe input).cargoLatched with
      | true =>
        have set : (0 : Scalar) < .fin loaded := Scalar.fin_lt_fin.2 (next.held held).1
        simp [advance, held, loadedEq, set, stampEq]
      | false =>
        simp [advance, held]
        rfl
    have wrong : misdated (⟨self, input⟩ :: earlier) =
        (self.hardFault input && misdated earlier) := by
      simp [misdated, valid, back]
    constructor
    · rintro ⟨⟨other, enters, shown⟩, -⟩ - fault
      by_contra before
      rw [Bool.not_eq_false] at before
      obtain ⟨-, -, differs, -⟩ := next.wrong (by rw [wrong, fault, before]; rfl)
      -- The time that is reported is that since another stamp.
      simp only [after, timed, stampEq] at shown
      cases other with
      | fin other =>
        rw [Scalar.fin_sub_fin, Scalar.fin.injEq, sub_right_inj] at shown
        exact differs (shown ▸ enters)
      | _ => cases shown
    · intro right
      have right := right rfl
      have dated := next.right (by
        rw [wrong]
        cases fault : self.hardFault input <;> simp [right, fault])
      refine ⟨⟨.fin since, dated.2.trans (if_pos (next.started.mp positive)), ?_⟩, ?_, ?_, ?_, ?_⟩
      all_goals simp only [after, timed, stampEq]
      · rw [Scalar.fin_sub_fin]
      · exact Scalar.fin_le_fin.2 (sub_nonneg.mpr dated.1)
      · rw [spent]
        cases held : (self.advance input).cargoLatched with
        | true => simp [(next.held held).2.2]
        | false => exact (next.free held).2 ▸ rfl
      · refine spent ▸ Scalar.fin_le_fin.2 ?_
        split
        · next held => exact sub_nonneg.mpr (next.held held).2.1
        · exact le_rfl
      · exact observe_clear

def lost (stampSec : Scalar) : CargoPresenceInput := { stampSec }

/-- A fault that a rollback meets is timed from a stamp that lies ahead. -/
theorem fault_timed_from_ahead :
    ¬∀ (config : CargoPresenceConfig) (calls : List CargoPresenceInput)
      (input : CargoPresenceInput), invalidTimestamp input = false →
        Accounted ((cargoPresenceMachine config).trace calls)
          ⟨(cargoPresenceMachine config).run calls, input⟩ := by
  intro accounted
  have timed := (accounted {} [lost 10, lost 100] (lost 20) (by decide)).stateNonnegative
  exact absurd timed (by with_unfolding_all decide)

end Runs
end CargoPresenceStateMachine
end NdtSlam
