import NdtSlam.Alarm.StatusContract
import NdtSlam.Foundation.History

/-! An official code is only ever published on the strength of a recent accepted status. -/

namespace NdtSlam

namespace StatusContractResult

def Honest (result : StatusContractResult) : Prop :=
  result.valid = false → result.code = AlarmStateMachine.internalError

theorem Honest.ite {condition : Prop} [Decidable condition] {yes no : StatusContractResult}
    (left : yes.Honest) (right : no.Honest) : (if condition then yes else no).Honest :=
  iteInduction (fun _ => left) (fun _ => right)

theorem honest_violation (reason : String) : (StatusContractInput.violation reason).Honest :=
  fun _ => rfl

theorem honest_valid (code : Int) (bare : Bool) (reason : String) :
    (StatusContractResult.mk code true bare reason).Honest :=
  fun invalid => absurd invalid (by simp)

end StatusContractResult

open StatusContractResult in
theorem validateStatusContract_honest (input : StatusContractInput)
    (config : StatusContractConfig) : (validateStatusContract input config).Honest := by
  have violated := honest_violation
  have accepted := honest_valid
  -- The four kinds of status are checked by a chain of conditions each.
  have fault : input.faultStatus.Honest :=
    .ite (violated _) (.ite (violated _) (accepted _ _ _))
  have clear : (input.clearStatus config).Honest :=
    .ite (accepted _ _ _) (.ite (violated _) (.ite (accepted _ _ _)
      (.ite (violated _) (.ite (violated _) (accepted _ _ _)))))
  have review : input.reviewStatus.Honest := .ite (violated _) (accepted _ _ _)
  have hazard : (input.hazardStatus config).Honest := .ite (violated _) (accepted _ _ _)
  exact .ite (violated _) (.ite (violated _) (.ite (violated _) (.ite (violated _)
    (.ite fault (.ite (violated _) (.ite clear (.ite review hazard)))))))

namespace AlarmStateMachine

inductive Call where
  | ingest (requestedCode : Int) (wallNowSec sourceStampSec : Scalar)
  | status (message : StatusContractInput) (wallNowSec sourceStampSec : Scalar)
  | tick (wallNowSec : Scalar)

variable (config : StatusContractConfig)

def statusCallback (self : AlarmStateMachine) (message : StatusContractInput)
    (wallNowSec sourceStampSec : Scalar) :
    AlarmStateMachine × AlarmResult :=
  -- The contract decides on the code that the state machine gets to see.
  self.ingest (validateStatusContract message config).code wallNowSec sourceStampSec

def machine (staleTimeoutSec : Scalar) :
    Machine AlarmStateMachine Call AlarmResult where
  start := initial staleTimeoutSec
  step self call := match call with
    | .ingest code wall source => self.ingest code wall source
    | .status message wall source => self.statusCallback config message wall source
    | .tick wall => self.tick wall

def Call.wallSec : Call → Scalar
  | .ingest _ wall _ => wall
  | .status _ wall _ => wall
  | .tick wall => wall

def isOfficial (code : Int) : Bool :=
  -- The other codes only say that nothing is known.
  code == clear || code == level1Warning || code == level2Warning || code == anomalyReview

structure KeepsCode (published code : Int) (conforming : Bool) (before : AlarmStateMachine)
    (wallSec sourceSec : Scalar) : Prop where
  wallForward : before.wallRolledBack wallSec = false
  stampValid : invalidSourceStamp sourceSec = false
  sourceForward : before.sourceRolledBack sourceSec = false
  known : isAllowedCode code = true
  freshAgrees : before.sourceStampAdvanced sourceSec = true →
    code = published ∧ conforming = true

def Kept (published : Int) (event : Event AlarmStateMachine Call) : Prop :=
  match event.call with
  | .ingest code wall source => KeepsCode published code true event.before wall source
  | .status message wall source =>
    KeepsCode published (validateStatusContract message config).code
      (validateStatusContract message config).valid event.before wall source
  | .tick wall => event.before.wallRolledBack wall = false

def Accepts (published : Int) (wallSec : Scalar) (event : Event AlarmStateMachine Call) : Prop :=
  event.call.wallSec = wallSec ∧ Kept config published event ∧
    match event.call with
    | .ingest _ _ source | .status _ _ source => event.before.sourceStampAdvanced source = true
    | .tick _ => False

section Steps

variable {self : AlarmStateMachine} {published code : Int} {wall source : Scalar}

theorem official_ne (official : isOfficial published = true) :
    published ≠ systemNotReady ∧ published ≠ internalError := by
  -- Four codes remain, and none of them is forced.
  simp only [isOfficial, Bool.or_eq_true, beq_iff_eq] at official
  rcases official with ((rfl | rfl) | rfl) | rfl <;> decide

structure Frame (before after : AlarmStateMachine) (result : AlarmResult) : Prop where
  timeout : after.staleTimeoutSec = before.staleTimeoutSec
  progress : before.lastSourceProgressWallSec.isFinite = true →
    after.lastSourceProgressWallSec.isFinite = true
  reported : result.code = after.currentCode

theorem finite_of_forward (forward : self.wallRolledBack wall = false) :
    wall.isFinite = true := by
  -- Finiteness is the first of the three tests.
  simp only [wallRolledBack, Bool.or_eq_false_iff, Bool.not_eq_false'] at forward
  exact forward.1.1

theorem observeWallClock_cases :
    (self.wallRolledBack wall = true ∧ ∃ latest, self.observeWallClock wall =
      ({ self with lastObservedWallSec := latest }, false)) ∨
    (self.wallRolledBack wall = false ∧ self.observeWallClock wall =
      ({ self with hasWallObservation := true, lastObservedWallSec := wall }, true)) := by
  unfold observeWallClock
  -- An unusable reading is not even recorded.
  split_ifs with unusable rolled
  · exact .inl ⟨by simp [wallRolledBack, unusable], self.lastObservedWallSec, rfl⟩
  · exact .inl ⟨rolled, wall, rfl⟩
  · exact .inr ⟨by simpa using rolled, rfl⟩

theorem settle_frame (advanced : Bool) :
    Frame self (self.settle code wall advanced).1 (self.settle code wall advanced).2 := by
  -- No branch touches the timeout or the progress.
  unfold settle
  split_ifs <;> exact ⟨rfl, id, rfl⟩

theorem settle_official (official : isOfficial published = true) {advanced : Bool}
    (yields : (self.settle code wall advanced).2.code = published) :
    self.expired wall self.lastSourceProgressWallSec = false ∧ isAllowedCode code = true ∧
      (advanced = true → code = published) ∧ (advanced = false → self.currentCode = published) ∧
      (self.settle code wall advanced).1.lastSourceProgressWallSec =
        self.lastSourceProgressWallSec := by
  obtain ⟨notReady, internal⟩ := official_ne official
  unfold settle at yields ⊢
  -- The two forced codes are not official, which leaves the duplicate and the fresh status.
  split_ifs at yields ⊢ with stale unknown duplicate
  · exact absurd yields.symm notReady
  · exact absurd yields.symm internal
  · refine ⟨by simpa using stale, by simpa using unknown, fun advances => ?_, fun _ => yields, rfl⟩
    simp [advances] at duplicate
  · refine ⟨by simpa using stale, by simpa using unknown, fun _ => yields, fun repeats => ?_, rfl⟩
    simp [repeats] at duplicate

structure Yields (before : AlarmStateMachine) (published code : Int) (wall source : Scalar)
    (after : AlarmStateMachine) : Prop where
  wallForward : before.wallRolledBack wall = false
  stampValid : invalidSourceStamp source = false
  sourceForward : before.sourceRolledBack source = false
  known : isAllowedCode code = true
  fresh : before.sourceStampAdvanced source = true →
    code = published ∧ after.lastSourceProgressWallSec = wall
  duplicate : before.sourceStampAdvanced source = false →
    before.currentCode = published ∧
      after.lastSourceProgressWallSec = before.lastSourceProgressWallSec
  recent : before.expired wall after.lastSourceProgressWallSec = false

theorem ingest_cases :
    Frame self (self.ingest code wall source).1 (self.ingest code wall source).2 ∧
      (isOfficial published = true → (self.ingest code wall source).2.code = published →
        Yields self published code wall source (self.ingest code wall source).1) := by
  -- A branch that forces a code yields no official one.
  have forced : ∀ {result : AlarmResult} {outcome : Prop},
      (result.code = systemNotReady ∨ result.code = internalError) →
      isOfficial published = true → result.code = published → outcome := by
    intro result outcome forced official yields
    obtain ⟨notReady, internal⟩ := official_ne official
    rcases forced with code | code
    · exact absurd (yields.symm.trans code) notReady
    · exact absurd (yields.symm.trans code) internal
  unfold ingest
  obtain ⟨-, latest, observed⟩ | ⟨forward, observed⟩ := @observeWallClock_cases self wall
  · rw [observed]
    exact ⟨⟨rfl, id, rfl⟩, forced (.inl rfl)⟩
  rw [observed]
  dsimp only
  have finite := finite_of_forward forward
  -- The receipt is noted before the source stamp is looked at.
  generalize receipt : ({ self with
    hasWallObservation := true, lastObservedWallSec := wall, hasStatus := true
    lastReceiptWallSec := wall } : AlarmStateMachine) = received
  have same : received.staleTimeoutSec = self.staleTimeoutSec ∧
      received.currentCode = self.currentCode ∧
      received.lastSourceProgressWallSec = self.lastSourceProgressWallSec ∧
      received.sourceRolledBack source = self.sourceRolledBack source ∧
      received.sourceStampAdvanced source = self.sourceStampAdvanced source := by
    subst receipt
    exact ⟨rfl, rfl, rfl, rfl, rfl⟩
  obtain ⟨timeout, current, progress, rolled, advances⟩ := same
  by_cases invalid : invalidSourceStamp source = true
  · -- An unusable stamp forces the internal error.
    rw [if_pos invalid]
    exact ⟨⟨timeout, fun real => progress ▸ real, rfl⟩, forced (.inr rfl)⟩
  rw [if_neg invalid]
  by_cases rollback : received.sourceRolledBack source = true
  · -- A stamp that jumps back is progress, but forces the stale code.
    rw [if_pos rollback]
    exact ⟨⟨timeout, fun _ => finite, rfl⟩, forced (.inl rfl)⟩
  rw [if_neg rollback]
  have stampValid : invalidSourceStamp source = false := by simpa using invalid
  have sourceForward : self.sourceRolledBack source = false := by simpa [rolled] using rollback
  by_cases advanced : received.sourceStampAdvanced source = true
  · -- A newer stamp is progress, and the status decides the code.
    rw [if_pos advanced]
    have frame := @settle_frame (received.recordProgress wall source) code wall true
    refine ⟨⟨frame.timeout.trans timeout, fun _ => frame.progress finite, frame.reported⟩, ?_⟩
    intro official yields
    obtain ⟨recent, known, agrees, -, seen⟩ := settle_official official yields
    refine ⟨forward, stampValid, sourceForward, known, fun _ => ⟨agrees rfl, seen⟩, ?_, ?_⟩
    · -- The stamp did advance, so that it is no duplicate.
      intro stays
      rw [← advances, advanced] at stays
      exact absurd stays (by simp)
    · rw [seen]
      simpa [expired, recordProgress, timeout] using recent
  · -- A repeated stamp is no progress, and the code stays.
    rw [if_neg advanced]
    have frame := @settle_frame received code wall false
    refine ⟨⟨frame.timeout.trans timeout, fun real => frame.progress (progress ▸ real),
      frame.reported⟩, ?_⟩
    intro official yields
    obtain ⟨recent, known, -, stays, seen⟩ := settle_official official yields
    refine ⟨forward, stampValid, sourceForward, known, ?_, ?_, ?_⟩
    · intro fresh
      exact absurd (advances.trans fresh) advanced
    · exact fun _ => ⟨current ▸ stays rfl, seen.trans progress⟩
    · rw [seen]
      simpa [expired, timeout] using recent

theorem tick_cases :
    Frame self (self.tick wall).1 (self.tick wall).2 ∧
      (isOfficial published = true → (self.tick wall).2.code = published →
        self.wallRolledBack wall = false ∧ self.currentCode = published ∧
          (self.tick wall).1.lastSourceProgressWallSec = self.lastSourceProgressWallSec ∧
          self.expired wall self.lastSourceProgressWallSec = false) := by
  unfold tick
  obtain ⟨-, latest, observed⟩ | ⟨forward, observed⟩ := @observeWallClock_cases self wall
  · rw [observed]
    refine ⟨⟨rfl, id, rfl⟩, fun official yields => ?_⟩
    exact absurd yields.symm (official_ne official).1
  rw [observed]
  dsimp only
  -- Each of the three failing checks forces the stale code.
  split_ifs with absent staleStatus staleSource
  iterate 3
    refine ⟨⟨rfl, id, rfl⟩, fun official yields => ?_⟩
    exact absurd yields.symm (official_ne official).1
  refine ⟨⟨rfl, id, rfl⟩, fun _ yields => ⟨forward, yields, rfl, ?_⟩⟩
  simpa [expired] using staleSource

end Steps

structure Fresh (config : StatusContractConfig) (timeoutSec : Scalar)
    (past : List (Event AlarmStateMachine Call)) (state : AlarmStateMachine) : Prop where
  timeout : state.staleTimeoutSec = sanitizePositive timeoutSec 0.8
  progress : state.lastSourceProgressWallSec.isFinite = true
  since : isOfficial state.currentCode = true →
    Since (Kept config state.currentCode)
      (Accepts config state.currentCode state.lastSourceProgressWallSec) past

/-- The answer to the newest call is official only when it is kept fresh by that call. -/
def Recent (timeoutSec : Scalar) (past : List (Event AlarmStateMachine Call)) (wallSec : Scalar)
    (published : Int) : Prop :=
  isOfficial published = true → ∃ acceptedWallSec,
    Since (Kept config published) (Accepts config published acceptedWallSec) past ∧
      wallSec - acceptedWallSec + timeEpsilonSec < sanitizePositive timeoutSec 0.8

section Runs

variable {config : StatusContractConfig} {timeoutSec : Scalar}
  {past : List (Event AlarmStateMachine Call)} {state : AlarmStateMachine}

theorem sanitizePositive_finite : (sanitizePositive timeoutSec 0.8).isFinite = true := by
  -- A value in use has passed the test, and the fallback is a number.
  unfold sanitizePositive
  split_ifs with usable
  · simp only [Bool.and_eq_true] at usable
    exact usable.1
  · rfl

theorem recent_of_not_expired (fresh : Fresh config timeoutSec past state) {wall since : Scalar}
    (wallFinite : wall.isFinite = true) (sinceFinite : since.isFinite = true)
    (recent : state.expired wall since = false) :
    wall - since + timeEpsilonSec < sanitizePositive timeoutSec 0.8 := by
  -- All four quantities are rationals, where a failed weak comparison is a strict one.
  obtain ⟨now, rfl⟩ := Scalar.isFinite_iff.1 wallFinite
  obtain ⟨then', rfl⟩ := Scalar.isFinite_iff.1 sinceFinite
  obtain ⟨limit, limitEq⟩ := Scalar.isFinite_iff.1 (@sanitizePositive_finite timeoutSec)
  obtain ⟨epsilon, epsilonEq⟩ : ∃ value, timeEpsilonSec = .fin value := ⟨_, rfl⟩
  simp only [expired, fresh.timeout, limitEq, epsilonEq, Scalar.fin_sub_fin, Scalar.fin_add_fin,
    Scalar.fin_le_fin, decide_eq_false_iff_not, not_le] at recent
  rw [limitEq, epsilonEq, Scalar.fin_sub_fin, Scalar.fin_add_fin, Scalar.fin_lt_fin]
  exact recent

theorem since_of_yields {published code : Int} {conforming : Bool} {wall source : Scalar}
    {after : AlarmStateMachine} {event : Event AlarmStateMachine Call}
    (yields : Yields state published code wall source after)
    (conforms : code = published → conforming = true)
    (kept : KeepsCode published code conforming state wall source → Kept config published event)
    (accepts : KeepsCode published code conforming state wall source →
      state.sourceStampAdvanced source = true → Accepts config published wall event)
    (since : state.currentCode = published → Since (Kept config published)
      (Accepts config published state.lastSourceProgressWallSec) past) :
    Since (Kept config published)
      (Accepts config published after.lastSourceProgressWallSec) (event :: past) := by
  -- What the status passed is exactly what keeping the code asks for.
  have keeps : KeepsCode published code conforming state wall source :=
    { wallForward := yields.wallForward, stampValid := yields.stampValid
      sourceForward := yields.sourceForward, known := yields.known
      freshAgrees := fun fresh =>
        ⟨(yields.fresh fresh).1, conforms (yields.fresh fresh).1⟩ }
  by_cases advanced : state.sourceStampAdvanced source = true
  · -- The status itself is the anchor.
    rw [(yields.fresh advanced).2]
    exact .now (accepts keeps advanced) past
  · -- The status is a duplicate, and the older anchor stays.
    have repeated : state.sourceStampAdvanced source = false := by simpa using advanced
    obtain ⟨current, seen⟩ := yields.duplicate repeated
    rw [seen]
    exact .later (kept keeps) (since current)

theorem step_frame (call : Call) :
    Frame state ((machine config timeoutSec).step state call).1
      ((machine config timeoutSec).step state call).2 := by
  -- The frame does not depend on the code that is asked about.
  cases call with
  | ingest code wall source => exact (@ingest_cases state 0 code wall source).1
  | status message wall source => exact (@ingest_cases state 0 _ wall source).1
  | tick wall => exact (@tick_cases state 0 wall).1

theorem step_official (fresh : Fresh config timeoutSec past state) (call : Call)
    {published : Int} (official : isOfficial published = true)
    (yields : ((machine config timeoutSec).step state call).2.code = published) :
    Since (Kept config published)
        (Accepts config published
          ((machine config timeoutSec).step state call).1.lastSourceProgressWallSec)
        (⟨state, call⟩ :: past) ∧
      call.wallSec.isFinite = true ∧
      state.expired call.wallSec
        ((machine config timeoutSec).step state call).1.lastSourceProgressWallSec = false := by
  -- The invariant speaks of the current code, which is the published one here.
  have since : state.currentCode = published → Since (Kept config published)
      (Accepts config published state.lastSourceProgressWallSec) past := by
    intro current
    rw [← current]
    exact fresh.since (current ▸ official)
  cases call with
  | ingest code wall source =>
    have passed := (@ingest_cases state published code wall source).2 official yields
    refine ⟨?_, finite_of_forward passed.wallForward, passed.recent⟩
    exact since_of_yields passed (fun _ => rfl) id (fun keeps newer => ⟨rfl, keeps, newer⟩) since
  | status message wall source =>
    have passed := (@ingest_cases state published _ wall source).2 official yields
    refine ⟨?_, finite_of_forward passed.wallForward, passed.recent⟩
    -- A message without validity would carry the internal error, which is not official.
    have conforms : (validateStatusContract message config).code = published →
        (validateStatusContract message config).valid = true := by
      intro code
      by_contra invalid
      have honest := validateStatusContract_honest message config (by simpa using invalid)
      exact (official_ne official).2 (code.symm.trans honest)
    exact since_of_yields passed conforms id (fun keeps newer => ⟨rfl, keeps, newer⟩) since
  | tick wall =>
    obtain ⟨forward, current, seen, recent⟩ :=
      (@tick_cases state published wall).2 official yields
    -- A tick neither moves the progress nor changes the code.
    have steady : ((machine config timeoutSec).step state (.tick wall)).1.lastSourceProgressWallSec
        = state.lastSourceProgressWallSec := seen
    rw [steady]
    exact ⟨.later forward (since current), finite_of_forward forward, recent⟩

theorem run_fresh (calls : List Call) :
    Fresh config timeoutSec ((machine config timeoutSec).trace calls)
      ((machine config timeoutSec).run calls) := by
  apply (machine config timeoutSec).run_invariant
  · -- The initial code is not official.
    exact ⟨rfl, rfl, fun official => absurd official (by simp [machine, initial, isOfficial, clear,
      level1Warning, level2Warning, anomalyReview])⟩
  · intro past state call fresh
    -- The new code is reported by the call, which anchors it.
    have frame := @step_frame config timeoutSec state call
    refine ⟨frame.timeout.trans fresh.timeout, frame.progress fresh.progress, fun official => ?_⟩
    exact (step_official fresh call official frame.reported).1

/--
Every official answer stems from a conforming status that is recent and was never contradicted.
-/
theorem official_code_recent (config : StatusContractConfig) (timeoutSec : Scalar)
    (calls : List Call) (call : Call) :
    Recent config timeoutSec ((machine config timeoutSec).trace (call :: calls)) call.wallSec
        ((machine config timeoutSec).step ((machine config timeoutSec).run calls) call).2.code ∧
      ∀ (state : AlarmStateMachine) (wall : Scalar),
        (state.tick wall).2.code = (state.tick wall).1.currentCode ∧
          ((state.tick wall).1.currentCode = state.currentCode ∨
            (state.tick wall).1.currentCode = systemNotReady) := by
  refine ⟨fun official => ?_, fun state wall => ⟨(@tick_cases state 0 wall).1.reported, ?_⟩⟩
  · -- The run so far is fresh, and the last call tells how recent.
    have fresh := @run_fresh config timeoutSec calls
    obtain ⟨since, finite, recent⟩ := step_official fresh call official rfl
    have progress := (@step_frame config timeoutSec _ call).progress fresh.progress
    exact ⟨_, since, recent_of_not_expired fresh finite progress recent⟩
  · -- Only the code of the last branch is not forced, and it is the old one.
    unfold tick
    obtain ⟨-, latest, observed⟩ | ⟨-, observed⟩ := @observeWallClock_cases state wall
    · rw [observed]
      exact .inr rfl
    rw [observed]
    dsimp only
    split_ifs
    iterate 3 exact .inr rfl
    exact .inl rfl

end Runs

def emptyHookStatus : StatusContractInput :=
  { schemaValid := true, valid := true, warningValid := true, requestedCode := clear
    warningCode := clear, localizationValid := true, hookSignalRole := 0
    noCargoConfirmed := true }

attribute [local semireducible] Rat.add Rat.sub Rat.mul Rat.inv Rat.ofScientific

theorem official_code_recent_clear :
    let calls : List Call := [.status emptyHookStatus 1 10]
    let alarm := machine {} 0.8
    (alarm.step (alarm.run calls) (.tick 1.5)).2.code = clear ∧
      ∃ acceptedWallSec,
        Since (Kept {} clear) (Accepts {} clear acceptedWallSec)
          (alarm.trace (.tick 1.5 :: calls)) ∧
        1.5 - acceptedWallSec + timeEpsilonSec < sanitizePositive 0.8 0.8 := by
  intro calls alarm
  -- The answer of the tick is computed, and the theorem tells what is behind it.
  have yields : (alarm.step (alarm.run calls) (.tick 1.5)).2.code = clear := by decide
  have recent := (official_code_recent {} 0.8 calls (.tick 1.5)).1
  rw [yields] at recent
  exact ⟨yields, recent (by decide)⟩

def Conforms (config : StatusContractConfig) (event : Event AlarmStateMachine Call) : Prop :=
  match event.call with
  | .status message _ _ => (validateStatusContract message config).valid = true
  | .ingest .. | .tick _ => True

theorem violation_on_repeated_stamp_ignored :
    ¬ ∀ (config : StatusContractConfig) (timeoutSec : Scalar) (calls : List Call) (call : Call),
      isOfficial ((machine config timeoutSec).step
        ((machine config timeoutSec).run calls) call).2.code = true →
      ∃ acceptedWallSec,
        Since
          (fun event => Kept config ((machine config timeoutSec).step
            ((machine config timeoutSec).run calls) call).2.code event ∧ Conforms config event)
          (Accepts config ((machine config timeoutSec).step
            ((machine config timeoutSec).run calls) call).2.code acceptedWallSec)
          ((machine config timeoutSec).trace (call :: calls)) ∧
        call.wallSec - acceptedWallSec + timeEpsilonSec < sanitizePositive timeoutSec 0.8 := by
  intro claimed
  obtain ⟨accepted, since, -⟩ := claimed {} 0.8 [.status emptyHookStatus 1 10]
    (.status {} 1.1 10) (by decide)
  -- The second message neither advances the stamp nor meets the contract.
  obtain anchored | ⟨kept, -⟩ := since.uncons
  · have newer := anchored.2.2
    exact absurd newer (by decide)
  · have conforms : (validateStatusContract {} {}).valid = true := kept.2
    exact absurd conforms (by decide)

end AlarmStateMachine
end NdtSlam
