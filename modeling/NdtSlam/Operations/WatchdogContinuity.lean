import NdtSlam.Operations.RecoveryWatchdog

/-! The watchdog acts on degradations that last, as long as none of them is interrupted. -/

namespace NdtSlam

/-- The newest observations all hold, over at least some time. -/
def Lasting (holds : WatchdogObservation → Bool) (durationSec : Scalar)
    (observations : List WatchdogObservation) : Prop :=
  ∃ newest recent first before, observations = recent ++ first :: before ∧
    (recent ++ [first]).head? = some newest ∧ (∀ event ∈ recent ++ [first], holds event = true) ∧
    durationSec ≤ newest.now - first.now

def HealthyPeriod (config : WatchdogConfig) (observations : List WatchdogObservation) : Prop :=
  ∃ newer period, observations = newer ++ period ∧
    Lasting WatchdogObservation.healthy config.healthyResetSec period

def HoldsSince (holds : WatchdogObservation → Bool) (since : Scalar)
    (observations : List WatchdogObservation) : Prop :=
  ∃ recent first before, observations = recent ++ first :: before ∧ first.now = since ∧
    ∀ event ∈ recent ++ [first], holds event = true

variable {holds : WatchdogObservation → Bool} {event : WatchdogObservation}

theorem HoldsSince.first (held : holds event = true) (before : List WatchdogObservation) :
    HoldsSince holds event.now (event :: before) :=
  ⟨[], event, before, rfl, rfl, by simpa using held⟩

variable {observations : List WatchdogObservation}

theorem HoldsSince.later {since : Scalar} (held : holds event = true)
    (past : HoldsSince holds since observations) :
    HoldsSince holds since (event :: observations) := by
  obtain ⟨recent, first, before, rfl, start, all⟩ := past
  exact ⟨event :: recent, first, before, rfl, start, List.forall_mem_cons.mpr ⟨held, all⟩⟩

theorem HoldsSince.lasting {since durationSec : Scalar}
    (past : HoldsSince holds since (event :: observations))
    (long : durationSec ≤ event.now - since) :
    Lasting holds durationSec (event :: observations) := by
  obtain ⟨recent, first, before, split, start, all⟩ := past
  refine ⟨event, recent, first, before, split, ?_, all, start ▸ long⟩
  -- The newest observation comes first, whether or not it is also the oldest that counts.
  cases recent with
  | nil =>
    obtain ⟨rfl, -⟩ := List.cons.inj split
    rfl
  | cons head rest =>
    obtain ⟨rfl, -⟩ := List.cons.inj split
    rfl

namespace RecoveryWatchdogPolicy

variable {before : RecoveryWatchdogPolicy} {observation : WatchdogObservation}

/-! ### What one status does -/

theorem observe_healthy (healthy : observation.healthy = true) :
    (before.observe observation).2.action = .none ∧
      (before.observe observation).1.degradedSince = none ∧
      (before.observe observation).1.healthySince
        = some (before.healthySince.getD observation.now) ∧
      ((before.observe observation).1.softRequested = true → before.softRequested = true) ∧
      ((before.observe observation).1.softRequested = false → before.softRequested = true →
        before.config.healthyResetSec ≤
          observation.now - before.healthySince.getD observation.now) := by
  unfold observe
  rw [if_pos healthy]
  refine ⟨rfl, rfl, rfl, ?_, ?_⟩
  · intro requested
    simp only [observeHealthy, Bool.and_eq_true] at requested
    exact requested.1
  · intro settled requested
    simpa [observeHealthy, requested] using settled

theorem observe_idle (unhealthy : observation.healthy = false)
    (idle : observation.degraded = false) :
    (before.observe observation).2.action = .none ∧
      (before.observe observation).1.degradedSince = before.degradedSince ∧
      (before.observe observation).1.healthySince = none ∧
      (before.observe observation).1.softRequested = before.softRequested := by
  unfold observe
  rw [if_neg (by simp [unhealthy]), if_pos (by simp [idle])]
  exact ⟨rfl, rfl, rfl, rfl⟩

variable {self : RecoveryWatchdogPolicy} {degradedDuration : Scalar}

theorem escalate_keeps :
    (self.escalate observation degradedDuration).1.degradedSince = self.degradedSince ∧
      (self.escalate observation degradedDuration).1.healthySince = self.healthySince ∧
      (self.softRequested = true →
        (self.escalate observation degradedDuration).1.softRequested = true) := by
  unfold escalate hardRestart
  dsimp only
  split_ifs <;> exact ⟨rfl, rfl, fun requested => by first | exact requested | rfl⟩

theorem escalate_hard
    (hard : (self.escalate observation degradedDuration).2.action = .hardRestart ∨
      (self.escalate observation degradedDuration).2.action = .restartSuppressed) :
    self.config.hardRestartAfterSec ≤ degradedDuration ∨
      (self.config.hardRestartBadFrames ≤ observation.status.badFrames ∧
        self.config.hardRestartBadFramesAfterSec ≤ degradedDuration) := by
  unfold escalate at hard
  dsimp only at hard
  split_ifs at hard with grace demanded soft
  · simp at hard
  · simpa using demanded
  · simp at hard
  · simp at hard

theorem escalate_soft
    (soft : (self.escalate observation degradedDuration).2.action = .softRelocalize) :
    self.softRequested = false ∧ self.config.softRelocalizeAfterSec ≤ degradedDuration ∧
      (self.escalate observation degradedDuration).1.softRequested = true := by
  unfold escalate at soft ⊢
  dsimp only at soft ⊢
  split_ifs at soft ⊢ with grace demanded requested
  · unfold hardRestart at soft
    split_ifs at soft
  · simp only [Bool.and_eq_true, Bool.not_eq_true', decide_eq_true_eq] at requested
    exact ⟨requested.1, requested.2, rfl⟩

theorem observe_degraded (degraded : observation.degraded = true) :
    before.observe observation =
      ({ before with
          restartHistory := finiteHistory before.restartHistory observation.now
            before.config.restartWindowSec
          healthySince := none
          degradedSince := some (before.degradedSince.getD observation.now) }
        : RecoveryWatchdogPolicy).escalate observation
          (.maxOf 0 (observation.now - before.degradedSince.getD observation.now)) := by
  have unhealthy : observation.healthy = false := by
    cases healthy : observation.healthy with
    | false => rfl
    | true =>
      rw [WatchdogObservation.not_degraded_of_healthy healthy] at degraded
      cases degraded
  unfold observe
  rw [if_neg (by simp [unhealthy]), if_neg (by simp [degraded])]
  rfl

theorem reached {after difference : Scalar} (positive : 0 < after)
    (long : after ≤ Scalar.maxOf 0 difference) : after ≤ difference := by
  unfold Scalar.maxOf at long
  split_ifs at long
  · exact long
  · exact absurd positive (Scalar.not_lt_of_le long)

end RecoveryWatchdogPolicy

/-! ### Runs -/

section Runs

open RecoveryWatchdogPolicy

variable {config : WatchdogConfig} {startedAt : Scalar} {restartHistory : List Scalar}

/-- A degraded status that follows one that says nothing finds no degradation running. -/
def Uninterrupted (config : WatchdogConfig) (startedAt : Scalar) (restartHistory : List Scalar)
    (observations : List WatchdogObservation) : Prop :=
  ∀ later observation idle earlier, observations = later ++ observation :: idle :: earlier →
    observation.degraded = true → idle.healthy = false → idle.degraded = false →
    ((watchdogMachine config startedAt restartHistory).run earlier).degradedSince = none

theorem Uninterrupted.older {newest : WatchdogObservation}
    (uninterrupted : Uninterrupted config startedAt restartHistory (newest :: observations)) :
    Uninterrupted config startedAt restartHistory observations := by
  rintro later observation idle earlier rfl
  exact uninterrupted (newest :: later) observation idle earlier rfl

theorem watchdog_config (observations : List WatchdogObservation) :
    ((watchdogMachine config startedAt restartHistory).run observations).config = config := by
  induction observations with
  | nil => rfl
  | cons observation older ih =>
    refine Eq.trans ?_ ih
    show (RecoveryWatchdogPolicy.observe _ observation).1.config = _
    unfold observe observeDegraded escalate hardRestart
    dsimp only
    split_ifs <;> rfl

variable {observation : WatchdogObservation}

theorem degraded_since (degraded : observation.degraded = true)
    (uninterrupted : Uninterrupted config startedAt restartHistory
      (observation :: observations)) :
    HoldsSince WatchdogObservation.degraded
      ((((watchdogMachine config startedAt restartHistory).run observations).degradedSince).getD
        observation.now) (observation :: observations) := by
  induction observations generalizing observation with
  | nil => exact .first degraded []
  | cons previous older ih =>
    cases healthy : previous.healthy with
    | true =>
      -- A healthy status ends every degradation, so that a new one starts here.
      have ended : ((watchdogMachine config startedAt restartHistory).run
          (previous :: older)).degradedSince = none := (observe_healthy healthy).2.1
      rw [ended]
      exact .first degraded _
    | false =>
      cases still : previous.degraded with
      | true =>
        have since : ((watchdogMachine config startedAt restartHistory).run
            (previous :: older)).degradedSince =
            some ((((watchdogMachine config startedAt restartHistory).run older).degradedSince
              ).getD previous.now) := by
          show (RecoveryWatchdogPolicy.observe _ previous).1.degradedSince = _
          rw [observe_degraded still]
          exact escalate_keeps.1
        rw [since, Option.getD_some]
        exact (ih still uninterrupted.older).later degraded
      | false =>
        -- Nothing was running before the status that says nothing.
        have nothing := uninterrupted [] observation previous older rfl degraded healthy still
        have kept : ((watchdogMachine config startedAt restartHistory).run
            (previous :: older)).degradedSince = none :=
          (observe_idle healthy still).2.1.trans nothing
        rw [kept]
        exact .first degraded _

variable {recent before : List WatchdogObservation}

theorem healthy_since (unhealthy : observation.healthy = false)
    {since : Scalar}
    (running : ((watchdogMachine config startedAt restartHistory).run
      (recent ++ observation :: before)).healthySince = some since) :
    HoldsSince WatchdogObservation.healthy since recent := by
  -- Every status that is not healthy ends the healthy period that was running.
  have ends : ∀ (state : RecoveryWatchdogPolicy) (event : WatchdogObservation),
      event.healthy = false → (state.observe event).1.healthySince = none := by
    intro state event unhealthy
    cases degraded : event.degraded with
    | false => exact (observe_idle unhealthy degraded).2.2.1
    | true =>
      rw [observe_degraded degraded]
      exact escalate_keeps.2.1
  induction recent generalizing since with
  | nil =>
    have ended := ends ((watchdogMachine config startedAt restartHistory).run before) observation
      unhealthy
    cases ended.symm.trans running
  | cons newest older ih =>
    cases healthy : newest.healthy with
    | false =>
      have ended := ends ((watchdogMachine config startedAt restartHistory).run
        (older ++ observation :: before)) newest healthy
      cases ended.symm.trans running
    | true =>
      have continued : ((watchdogMachine config startedAt restartHistory).run
          (newest :: older ++ observation :: before)).healthySince =
          some ((((watchdogMachine config startedAt restartHistory).run
            (older ++ observation :: before)).healthySince).getD newest.now) :=
        (observe_healthy healthy).2.2.1
      have same := Option.some.inj (continued.symm.trans running)
      cases earlier : ((watchdogMachine config startedAt restartHistory).run
          (older ++ observation :: before)).healthySince with
      | none =>
        rw [earlier, Option.getD_none] at same
        rw [← same]
        exact .first healthy older
      | some start =>
        rw [earlier, Option.getD_some] at same
        rw [← same]
        exact (ih earlier).later healthy

theorem soft_remembered (degraded : observation.degraded = true)
    (requested : ((watchdogMachine config startedAt restartHistory).run
      (observation :: before)).softRequested = true) :
    ((watchdogMachine config startedAt restartHistory).run
        (recent ++ observation :: before)).softRequested = true ∨
      HealthyPeriod config recent := by
  have unhealthy : observation.healthy = false := by
    cases healthy : observation.healthy with
    | false => rfl
    | true =>
      rw [WatchdogObservation.not_degraded_of_healthy healthy] at degraded
      cases degraded
  induction recent with
  | nil => exact .inl requested
  | cons newest older ih =>
    rcases ih with still | ⟨newer, period, rfl, lasting⟩
    · cases healthy : newest.healthy with
      | true =>
        obtain ⟨-, -, since, -, settles⟩ := @observe_healthy
          ((watchdogMachine config startedAt restartHistory).run (older ++ observation :: before))
          newest healthy
        cases now : ((watchdogMachine config startedAt restartHistory).run
            (newest :: older ++ observation :: before)).softRequested with
        | true => exact .inl rfl
        | false =>
          have long := settles now still
          rw [watchdog_config] at long
          have running : ((watchdogMachine config startedAt restartHistory).run
              (newest :: older ++ observation :: before)).healthySince = _ := since
          exact .inr ⟨[], newest :: older, rfl, (healthy_since unhealthy running).lasting long⟩
      | false =>
        -- Only a healthy status can forget what was asked for.
        refine .inl ?_
        cases worse : newest.degraded with
        | false => exact (observe_idle healthy worse).2.2.2.trans still
        | true =>
          show (RecoveryWatchdogPolicy.observe _ newest).1.softRequested = true
          rw [observe_degraded worse]
          exact escalate_keeps.2.2 still
    · exact .inr ⟨newest :: newer, period, rfl, lasting⟩

/-- The times that the watchdog waits for are positive, and bad frames never slow it down. -/
structure WatchdogConfig.Ordered (config : WatchdogConfig) : Prop where
  soft : 0 < config.softRelocalizeAfterSec
  hard : 0 < config.hardRestartAfterSec
  frames : 0 < config.hardRestartBadFramesAfterSec
  faster : config.hardRestartBadFramesAfterSec ≤ config.hardRestartAfterSec

/-- In an uninterrupted run, restarts and relocalizations follow degradations that lasted. -/
theorem watchdog_acts_on_degradation (ordered : config.Ordered)
    {observation : WatchdogObservation} {observations : List WatchdogObservation}
    (uninterrupted : Uninterrupted config startedAt restartHistory (observation :: observations)) :
    let machine := watchdogMachine config startedAt restartHistory
    let action := (machine.step (machine.run observations) observation).2.action
    (action = .hardRestart ∨ action = .restartSuppressed →
      Lasting WatchdogObservation.degraded config.hardRestartBadFramesAfterSec
          (observation :: observations) ∧
        (observation.status.badFrames < config.hardRestartBadFrames →
          Lasting WatchdogObservation.degraded config.hardRestartAfterSec
            (observation :: observations))) ∧
      (action = .softRelocalize →
        Lasting WatchdogObservation.degraded config.softRelocalizeAfterSec
            (observation :: observations) ∧
          ∀ recent earlier before, observations = recent ++ earlier :: before →
            (machine.step (machine.run before) earlier).2.action = .softRelocalize →
            HealthyPeriod config recent) := by
  intro machine action
  -- Only a degraded status makes the watchdog act.
  have acts : ∀ (state : RecoveryWatchdogPolicy) (event : WatchdogObservation),
      (state.observe event).2.action ≠ .none → event.degraded = true := by
    intro state event active
    cases degraded : event.degraded with
    | true => rfl
    | false =>
      cases healthy : event.healthy with
      | true => exact absurd (observe_healthy healthy).1 active
      | false => exact absurd (observe_idle healthy degraded).1 active
  refine ⟨?_, ?_⟩
  · intro hard
    have degraded : observation.degraded = true := by
      refine acts (machine.run observations) observation ?_
      rcases hard with restart | suppressed
      · exact fun inactive => absurd (restart.symm.trans inactive) (by decide)
      · exact fun inactive => absurd (suppressed.symm.trans inactive) (by decide)
    have since := degraded_since degraded uninterrupted
    have same : machine.step (machine.run observations) observation = _ :=
      observe_degraded degraded
    rw [show action = _ from congrArg (fun answer => answer.2.action) same] at hard
    have demanded := escalate_hard hard
    rw [show (machine.run observations).config = config from watchdog_config observations]
      at demanded
    refine ⟨since.lasting ?_, fun few => since.lasting ?_⟩
    · rcases demanded with long | ⟨-, long⟩
      · exact Scalar.le_trans ordered.faster (reached ordered.hard long)
      · exact reached ordered.frames long
    · rcases demanded with long | ⟨many, -⟩
      · exact reached ordered.hard long
      · omega
  · intro soft
    have degraded : observation.degraded = true := by
      refine acts (machine.run observations) observation ?_
      exact fun inactive => absurd (soft.symm.trans inactive) (by decide)
    have since := degraded_since degraded uninterrupted
    have same : machine.step (machine.run observations) observation = _ :=
      observe_degraded degraded
    rw [show action = _ from congrArg (fun answer => answer.2.action) same] at soft
    obtain ⟨unasked, long, -⟩ := escalate_soft soft
    rw [show (machine.run observations).config = config from watchdog_config observations] at long
    refine ⟨since.lasting (reached ordered.soft long), ?_⟩
    rintro recent earlier before rfl askedBefore
    have degradedBefore : earlier.degraded = true := by
      refine acts (machine.run before) earlier ?_
      exact fun inactive => absurd (askedBefore.symm.trans inactive) (by decide)
    have sameBefore : machine.step (machine.run before) earlier = _ :=
      observe_degraded degradedBefore
    rw [sameBefore] at askedBefore
    have requested : (machine.run (earlier :: before)).softRequested = true := by
      show (machine.step (machine.run before) earlier).1.softRequested = true
      rw [sameBefore]
      exact (escalate_soft askedBefore).2.2
    -- What was asked for has been forgotten since, which takes a healthy period.
    rcases soft_remembered degradedBefore requested with still | period
    · cases unasked.symm.trans still
    · exact period

end Runs

/-! ### Two runs -/

def statusAt (state : String) (now : Scalar) : WatchdogObservation := ⟨⟨state, 0⟩, now⟩

theorem watchdog_restarts_degradation :
    ((watchdogMachine {} 0 []).step ((watchdogMachine {} 0 []).run [statusAt "DEGRADED" 100])
        (statusAt "DEGRADED" 150)).2.action = .hardRestart ∧
      Lasting WatchdogObservation.degraded 15
        [statusAt "DEGRADED" 150, statusAt "DEGRADED" 100] := by
  have restarts : ((watchdogMachine {} 0 []).step
      ((watchdogMachine {} 0 []).run [statusAt "DEGRADED" 100])
      (statusAt "DEGRADED" 150)).2.action = .hardRestart := by with_unfolding_all decide
  have ordered : ({} : WatchdogConfig).Ordered := ⟨by decide, by decide, by decide, by decide⟩
  have uninterrupted : Uninterrupted {} 0 []
      [statusAt "DEGRADED" 150, statusAt "DEGRADED" 100] := by
    rintro later observation idle earlier split - unhealthy undegraded
    -- There is no status in this run that says nothing.
    have member : idle ∈ [statusAt "DEGRADED" 150, statusAt "DEGRADED" 100] := by
      rw [split]
      simp
    have all : ∀ event ∈ [statusAt "DEGRADED" 150, statusAt "DEGRADED" 100],
        event.degraded = true := by decide
    cases undegraded.symm.trans (all idle member)
  exact ⟨restarts, ((watchdog_acts_on_degradation ordered uninterrupted).1 (.inl restarts)).1⟩

/-- A restart after two degraded statuses with one between them that says nothing. -/
theorem watchdog_counts_silence :
    ((watchdogMachine {} 0 []).step
        ((watchdogMachine {} 0 []).run [statusAt "UNKNOWN" 101, statusAt "DEGRADED" 100])
        (statusAt "DEGRADED" 150)).2.action = .hardRestart ∧
      ¬Lasting WatchdogObservation.degraded 15
        [statusAt "DEGRADED" 150, statusAt "UNKNOWN" 101, statusAt "DEGRADED" 100] := by
  refine ⟨by with_unfolding_all decide, ?_⟩
  rintro ⟨newest, recent, first, before, split, head, all, long⟩
  rcases recent with - | ⟨one, - | ⟨two, rest⟩⟩
  · -- The newest status alone has lasted for no time.
    obtain ⟨rfl, -⟩ := List.cons.inj split
    obtain rfl := Option.some.inj head
    exact absurd long (by with_unfolding_all decide)
  · obtain ⟨rfl, rest⟩ := List.cons.inj split
    obtain ⟨rfl, -⟩ := List.cons.inj rest
    exact absurd (all (statusAt "UNKNOWN" 101) (by simp)) (by decide)
  · obtain ⟨rfl, rest⟩ := List.cons.inj split
    obtain ⟨rfl, -⟩ := List.cons.inj rest
    exact absurd (all (statusAt "UNKNOWN" 101) (by simp)) (by decide)

end NdtSlam
