import Mathlib.Data.List.Perm.Subperm
import NdtSlam.Operations.RecoveryWatchdog

/-! The budget of restarts, over all the watchdogs that run one after another. -/

namespace NdtSlam

abbrev RestartEntry := Option Scalar

structure WatchdogHost where
  policy : RecoveryWatchdogPolicy
  persisted : List RestartEntry

inductive WatchdogStep where
  | observes (status : RecoveryStatus) (now : ℚ)
  | restarts (startedAt : ℚ) (values : List RestartEntry)

def WatchdogStep.time : WatchdogStep → ℚ
  | .observes _ now => now
  | .restarts startedAt _ => startedAt

namespace WatchdogHost

def launched (config : WatchdogConfig) (startedAt : ℚ) (values : List RestartEntry) :
    WatchdogHost where
  policy := .start config (.fin startedAt) (values.filterMap id)
  persisted := values

def observed (self : WatchdogHost) (observation : WatchdogObservation) :
    WatchdogHost × WatchdogDecision :=
  let answer := self.policy.observe observation
  ({ policy := answer.1
     persisted :=
      if answer.2.action = .none then self.persisted else answer.1.restartHistory.map some },
    answer.2)

end WatchdogHost

def watchdogHost (config : WatchdogConfig) (startedAt : ℚ) (values : List RestartEntry) :
    Machine WatchdogHost WatchdogStep (Option WatchdogDecision) where
  start := .launched config startedAt values
  step self
    | .observes status now =>
      ((self.observed ⟨status, .fin now⟩).1, some (self.observed ⟨status, .fin now⟩).2)
    | .restarts startedAt values => (.launched config startedAt values, none)

abbrev WatchdogEvent := Event WatchdogHost WatchdogStep

namespace WatchdogHost

def restartTime (event : WatchdogEvent) : Option ℚ :=
  match event.call with
  | .observes status now =>
    if (event.before.policy.observe ⟨status, .fin now⟩).2.action = .hardRestart then some now
    else none
  | .restarts _ _ => none

def restartTimes (past : List WatchdogEvent) : List ℚ := past.filterMap restartTime

def ReadsPersisted (event : WatchdogEvent) : Prop :=
  ∀ startedAt values, event.call = .restarts startedAt values →
    event.before.persisted.Subperm values

def InOrder (startedAt : ℚ) (steps : List WatchdogStep) : Prop :=
  (steps.map WatchdogStep.time ++ [startedAt]).Pairwise (· ≥ ·)

def inWindow (windowSec : Scalar) (low time : ℚ) : Bool :=
  low ≤ time && Scalar.fin time ≤ .fin low + windowSec

def recent (windowSec : Scalar) (now time : ℚ) : Bool := .fin now - windowSec ≤ .fin time

/-- The step neither drops a restart inside the window nor counts it twice. -/
def EntriesKept (config : WatchdogConfig) (event : WatchdogEvent) : Prop :=
  match event.call with
  | .observes status now =>
    ∀ time ≤ now, recent config.restartWindowSec now time = true →
      ((event.before.observed ⟨status, .fin now⟩).1.policy.restartHistory.count (.fin time)) =
        event.before.policy.restartHistory.count (.fin time) +
          if restartTime event = some time then 1 else 0
  | .restarts startedAt values =>
    ∀ time ≤ startedAt, recent config.restartWindowSec startedAt time = true →
      ((launched config startedAt values).policy.restartHistory.count (.fin time)) =
        values.count (some (.fin time))

end WatchdogHost

/-! ### The window -/

namespace RecoveryWatchdogPolicy

theorem finiteHistory_perm (values : List Scalar) (now windowSec : Scalar) :
    (finiteHistory values now windowSec).Perm (values.filter fun timestamp =>
      now - .maxOf 1 windowSec ≤ timestamp && timestamp ≤ now + 1) :=
  List.perm_insertionSort _ _

end RecoveryWatchdogPolicy

namespace WatchdogHost

section Windows

variable {windowSec : Scalar}

section

variable (long : 1 ≤ windowSec)
include long

theorem window_cases :
    windowSec = .posInf ∨ ∃ seconds : ℚ, windowSec = .fin seconds ∧ 1 ≤ seconds := by
  cases windowSec with
  | posInf => exact .inl rfl
  | fin seconds => exact .inr ⟨seconds, rfl, Scalar.fin_le_fin.1 long⟩
  | nan => cases long
  | negInf => cases long

theorem maxOf_window : Scalar.maxOf 1 windowSec = windowSec := by
  rcases window_cases long with rfl | ⟨seconds, rfl, least⟩
  · rfl
  · show Scalar.maxOf (.fin 1) (.fin seconds) = .fin seconds
    rw [Scalar.maxOf_fin_fin, max_eq_right least]

theorem recent_earlier {earlier later time : ℚ} (ordered : earlier ≤ later)
    (recently : recent windowSec later time = true) :
    recent windowSec earlier time = true := by
  rcases window_cases long with rfl | ⟨seconds, rfl, -⟩
  · rfl
  · simp only [recent, Scalar.fin_sub_fin, Scalar.fin_le_fin, decide_eq_true_eq] at recently ⊢
    linarith

theorem recent_of_inWindow {low time now : ℚ} (within : inWindow windowSec low time = true)
    (last : inWindow windowSec low now = true) :
    recent windowSec now time = true := by
  simp only [inWindow, Bool.and_eq_true, decide_eq_true_eq] at within last
  rcases window_cases long with rfl | ⟨seconds, rfl, -⟩
  · rfl
  · have reach := last.2
    simp only [recent, Scalar.fin_sub_fin, Scalar.fin_add_fin, Scalar.fin_le_fin,
      decide_eq_true_eq] at reach ⊢
    linarith [within.1]

theorem kept_iff {now time : ℚ} (past : time ≤ now) :
    (decide (Scalar.fin now - .maxOf 1 windowSec ≤ .fin time) &&
      decide (Scalar.fin time ≤ .fin now + 1)) = recent windowSec now time := by
  have soon : Scalar.fin time ≤ .fin now + 1 := by
    show Scalar.fin time ≤ .fin now + .fin 1
    rw [Scalar.fin_add_fin, Scalar.fin_le_fin]
    linarith
  rw [maxOf_window long, decide_eq_true soon, Bool.and_true]
  rfl

theorem finiteHistory_count (values : List Scalar) {now time : ℚ} (past : time ≤ now)
    (recently : recent windowSec now time = true) :
    (finiteHistory values (.fin now) windowSec).count (.fin time) = values.count (.fin time) := by
  rw [(RecoveryWatchdogPolicy.finiteHistory_perm values _ _).count_eq, List.count_filter]
  rw [kept_iff long past]
  exact recently

theorem finiteHistory_keeps {values : List Scalar} {times : List ℚ} {earlier now : ℚ}
    (ordered : earlier ≤ now) (past : ∀ time ∈ times, time ≤ earlier)
    (present : ((times.filter (recent windowSec earlier)).map Scalar.fin).Subperm values) :
    ((times.filter (recent windowSec now)).map Scalar.fin).Subperm
      (finiteHistory values (.fin now) windowSec) := by
  have through := present.filter fun timestamp =>
    Scalar.fin now - .maxOf 1 windowSec ≤ timestamp && timestamp ≤ .fin now + 1
  rw [List.filter_map, List.filter_filter] at through
  -- What is still inside the window was inside it before.
  have same : times.filter (fun time => ((fun timestamp : Scalar =>
      decide (Scalar.fin now - .maxOf 1 windowSec ≤ timestamp) &&
        decide (timestamp ≤ .fin now + 1)) ∘ Scalar.fin) time && recent windowSec earlier time)
      = times.filter (recent windowSec now) := by
    apply List.filter_congr
    intro time member
    show ((_ && _) && _) = _
    rw [kept_iff long ((past time member).trans ordered)]
    cases recently : recent windowSec now time with
    | false => rfl
    | true => rw [recent_earlier long ordered recently, Bool.and_self]
  rw [same] at through
  exact through.trans (RecoveryWatchdogPolicy.finiteHistory_perm values _ _).symm.subperm

end

end Windows

section Steps

variable {config : WatchdogConfig}

structure Noted (history : List Scalar) (now : Scalar) (maxRestarts : Int)
    (answer : RecoveryWatchdogPolicy × WatchdogDecision) : Prop where
  noted : answer.1.restartHistory =
    history ++ if answer.2.action = .hardRestart then [now] else []
  room : answer.2.action = .hardRestart → (history.length : Int) < maxRestarts

theorem Noted.silent {history : List Scalar} {now : Scalar} {maxRestarts : Int}
    {answer : RecoveryWatchdogPolicy × WatchdogDecision}
    (same : answer.1.restartHistory = history) (quiet : answer.2.action ≠ .hardRestart) :
    Noted history now maxRestarts answer := by
  refine ⟨?_, fun restart => absurd restart quiet⟩
  rw [if_neg quiet, List.append_nil, same]

theorem hardRestart_noted (self : RecoveryWatchdogPolicy) (now degradedDuration : Scalar)
    (byFrames : Bool) :
    Noted self.restartHistory now self.config.maxRestartsInWindow
      (self.hardRestart now degradedDuration byFrames) := by
  unfold RecoveryWatchdogPolicy.hardRestart
  split_ifs with full reported
  · exact .silent rfl (by simp)
  · exact .silent rfl (by simp)
  · exact ⟨rfl, fun _ => not_le.mp full⟩
  · exact ⟨rfl, fun _ => not_le.mp full⟩

theorem escalate_noted (self : RecoveryWatchdogPolicy) (observation : WatchdogObservation)
    (degradedDuration : Scalar) :
    Noted self.restartHistory observation.now self.config.maxRestartsInWindow
      (self.escalate observation degradedDuration) := by
  unfold RecoveryWatchdogPolicy.escalate
  dsimp only
  split_ifs
  · exact .silent rfl (by simp)
  · exact hardRestart_noted _ _ _ _
  · exact .silent rfl (by simp)
  · exact .silent rfl (by simp)

variable (before : RecoveryWatchdogPolicy) (observation : WatchdogObservation)

theorem observe_noted :
    Noted (finiteHistory before.restartHistory observation.now before.config.restartWindowSec)
      observation.now before.config.maxRestartsInWindow (before.observe observation) := by
  unfold RecoveryWatchdogPolicy.observe
  dsimp only
  split_ifs
  · exact .silent rfl (by simp)
  · exact .silent rfl (by simp)
  · -- A degraded status only says since when the degradation has lasted.
    unfold RecoveryWatchdogPolicy.observeDegraded
    exact escalate_noted { before with
      restartHistory := finiteHistory before.restartHistory observation.now
        before.config.restartWindowSec
      healthySince := none
      degradedSince := some (before.degradedSince.getD observation.now) } _ _

theorem observe_config :
    (before.observe observation).1.config = before.config := by
  unfold RecoveryWatchdogPolicy.observe RecoveryWatchdogPolicy.observeDegraded
    RecoveryWatchdogPolicy.escalate RecoveryWatchdogPolicy.hardRestart
  dsimp only
  split_ifs <;> rfl

end Steps

/-! ### Runs -/

section Runs

variable {config : WatchdogConfig} {startedAt : ℚ} {values : List RestartEntry}

structure Budgeted (config : WatchdogConfig) (times : List ℚ) (last : ℚ) (host : WatchdogHost) :
    Prop where
  sameConfig : host.policy.config = config
  past : ∀ time ∈ times, time ≤ last
  remembered : ((times.filter (recent config.restartWindowSec last)).map Scalar.fin).Subperm
    host.policy.restartHistory
  persisted : ((times.filter (recent config.restartWindowSec last)).map Scalar.fin).Subperm
    (host.persisted.filterMap id)
  bounded : ∀ low, (times.countP (inWindow config.restartWindowSec low) : Int)
    ≤ config.maxRestartsInWindow

theorem remembered_later (long : 1 ≤ config.restartWindowSec) {times : List ℚ}
    {earlier later : ℚ} (ordered : earlier ≤ later) {values : List Scalar}
    (present : ((times.filter (recent config.restartWindowSec earlier)).map Scalar.fin).Subperm
      values) :
    ((times.filter (recent config.restartWindowSec later)).map Scalar.fin).Subperm values := by
  have fewer : (times.filter (recent config.restartWindowSec later)).Sublist
      (times.filter (recent config.restartWindowSec earlier)) :=
    List.monotone_filter_right _ fun time => recent_earlier long ordered
  exact (fewer.map Scalar.fin).subperm.trans present

theorem Budgeted.observed {times : List ℚ} {last now : ℚ} {host : WatchdogHost}
    (long : 1 ≤ config.restartWindowSec) (budgeted : Budgeted config times last host)
    (ordered : last ≤ now) (status : RecoveryStatus) :
    Budgeted config
      ((restartTime ⟨host, .observes status now⟩).toList ++ times) now
      (host.observed ⟨status, .fin now⟩).1 := by
  obtain ⟨sameConfig, past, remembered, persisted, bounded⟩ := budgeted
  obtain ⟨noted, room⟩ := observe_noted host.policy ⟨status, .fin now⟩
  rw [sameConfig] at noted room
  dsimp only at noted room
  have kept := finiteHistory_keeps long ordered past remembered
  have before : ∀ time ∈ times, time ≤ now := fun time member => (past time member).trans ordered
  by_cases restart : (host.policy.observe ⟨status, .fin now⟩).2.action = .hardRestart
  · have time : (restartTime ⟨host, .observes status now⟩).toList ++ times = now :: times := by
      simp [restartTime, restart]
    rw [if_pos restart] at noted
    have fresh : recent config.restartWindowSec now now = true := by
      rcases window_cases long with none | ⟨seconds, some, least⟩
      · rw [none]
        rfl
      · rw [some]
        simp only [recent, Scalar.fin_sub_fin, Scalar.fin_le_fin, decide_eq_true_eq]
        linarith
    -- The restart joins those that are remembered, in the policy and in the file.
    have joined : (((now :: times).filter (recent config.restartWindowSec now)).map
        Scalar.fin).Subperm (host.policy.observe ⟨status, .fin now⟩).1.restartHistory := by
      rw [noted, List.filter_cons_of_pos fresh, List.map_cons]
      exact (List.subperm_cons _).mpr kept |>.trans (List.perm_append_singleton _ _).symm.subperm
    rw [time]
    refine ⟨(observe_config _ _).trans sameConfig, List.forall_mem_cons.mpr ⟨le_rfl, before⟩,
      joined, ?_, ?_⟩
    · simpa [WatchdogHost.observed, restart] using joined
    · intro low
      rw [List.countP_cons]
      by_cases within : inWindow config.restartWindowSec low now = true
      · -- All the restarts of a window that ends here are still remembered.
        have fewer : times.countP (inWindow config.restartWindowSec low)
            ≤ (times.filter (recent config.restartWindowSec now)).length := by
          rw [← List.countP_eq_length_filter]
          exact List.countP_mono_left fun other _ inside => recent_of_inWindow long inside within
        have length := kept.length_le
        rw [List.length_map] at length
        have free := room restart
        rw [if_pos within]
        push_cast
        omega
      · rw [if_neg within]
        simpa using bounded low
  · have time : (restartTime ⟨host, .observes status now⟩).toList ++ times = times := by
      simp [restartTime, restart]
    rw [if_neg restart, List.append_nil] at noted
    rw [time]
    refine ⟨(observe_config _ _).trans sameConfig, before, ?_, ?_, bounded⟩
    · show (List.map Scalar.fin _).Subperm
        (host.policy.observe ⟨status, .fin now⟩).1.restartHistory
      rw [noted]
      exact kept
    · -- Either nothing is persisted, or the history is.
      unfold WatchdogHost.observed
      dsimp only
      split_ifs
      · exact remembered_later long ordered persisted
      · rw [noted]
        simpa using kept

theorem Budgeted.launched {times : List ℚ} {last startedAt : ℚ} {host : WatchdogHost}
    {values : List RestartEntry} (long : 1 ≤ config.restartWindowSec)
    (budgeted : Budgeted config times last host) (ordered : last ≤ startedAt)
    (reads : host.persisted.Subperm values) :
    Budgeted config times startedAt (launched config startedAt values) := by
  obtain ⟨-, past, -, persisted, bounded⟩ := budgeted
  have read : (host.persisted.filterMap id).Subperm (values.filterMap id) := by
    obtain ⟨entries, same, part⟩ := reads
    exact ⟨_, same.filterMap id, part.filterMap id⟩
  exact ⟨rfl, fun time member => (past time member).trans ordered,
    finiteHistory_keeps long ordered past (persisted.trans read),
    remembered_later long ordered (persisted.trans read), bounded⟩

theorem restartTimes_cons (event : WatchdogEvent) (past : List WatchdogEvent) :
    restartTimes (event :: past) = (restartTime event).toList ++ restartTimes past := by
  unfold restartTimes
  rw [List.filterMap_cons]
  cases restartTime event with
  | none => rfl
  | some time => rfl

theorem run_budgeted (nonneg : 0 ≤ config.maxRestartsInWindow)
    (long : 1 ≤ config.restartWindowSec) (steps : List WatchdogStep)
    (ordered : InOrder startedAt steps)
    (reads : ∀ event ∈ (watchdogHost config startedAt values).trace steps, ReadsPersisted event) :
    ∃ last, (steps.map WatchdogStep.time ++ [startedAt]).head? = some last ∧
      Budgeted config (restartTimes ((watchdogHost config startedAt values).trace steps)) last
        ((watchdogHost config startedAt values).run steps) := by
  induction steps with
  | nil =>
    refine ⟨startedAt, rfl, rfl, by simp [restartTimes, Machine.trace], ?_, ?_, ?_⟩
    · exact List.nil_subperm
    · exact List.nil_subperm
    · intro low
      exact nonneg
  | cons step older ih =>
    obtain ⟨later, earlier⟩ := List.pairwise_cons.mp ordered
    obtain ⟨last, head, budgeted⟩ := ih earlier fun event member =>
      reads event (List.mem_cons_of_mem _ member)
    have before : last ≤ step.time := later last (List.mem_of_head? head)
    refine ⟨step.time, rfl, ?_⟩
    cases step with
    | observes status now =>
      have trace : (watchdogHost config startedAt values).trace (.observes status now :: older) =
          ⟨(watchdogHost config startedAt values).run older, .observes status now⟩ ::
            (watchdogHost config startedAt values).trace older := rfl
      rw [trace, restartTimes_cons]
      exact budgeted.observed long before status
    | restarts startedAt' values' =>
      have read := reads _ List.mem_cons_self startedAt' values' rfl
      exact budgeted.launched long before read

theorem host_config (steps : List WatchdogStep) :
    ((watchdogHost config startedAt values).run steps).policy.config = config := by
  induction steps with
  | nil => rfl
  | cons step older ih =>
    cases step with
    | observes status now => exact (observe_config _ _).trans ih
    | restarts startedAt values => rfl

theorem entriesKept (long : 1 ≤ config.restartWindowSec) {event : WatchdogEvent}
    (sameConfig : event.before.policy.config = config) : EntriesKept config event := by
  obtain ⟨before, call⟩ := event
  unfold EntriesKept
  cases call with
  | observes status now =>
    intro time past recently
    obtain ⟨noted, -⟩ := observe_noted before.policy ⟨status, .fin now⟩
    rw [show before.policy.config = config from sameConfig] at noted
    show List.count _ (before.policy.observe ⟨status, .fin now⟩).1.restartHistory = _
    rw [noted, List.count_append, finiteHistory_count long _ past recently]
    congr 1
    -- A restart is counted once, at its own time.
    by_cases restart : (before.policy.observe ⟨status, .fin now⟩).2.action = .hardRestart
    · by_cases same : now = time
      · subst same
        simp [restartTime, restart]
      · have apart : Scalar.fin now ≠ .fin time := fun equal => same (Scalar.fin.inj equal)
        simp [restartTime, restart, same, apart]
    · simp [restartTime, restart]
  | restarts startedAt values =>
    intro time past recently
    show (finiteHistory (values.filterMap id) (.fin startedAt) config.restartWindowSec).count _ = _
    rw [finiteHistory_count long _ past recently, List.count, List.count, List.countP_filterMap]
    apply List.countP_congr
    intro value _
    cases value with
    | none => simp
    | some entry => simp

/--
Over all watchdogs of a host, no window holds more restarts than allowed, and no restart inside
the window is dropped or counted twice.
-/
theorem restart_budget_kept (config : WatchdogConfig) (nonneg : 0 ≤ config.maxRestartsInWindow)
    (long : 1 ≤ config.restartWindowSec) (startedAt : ℚ) (values : List RestartEntry)
    (steps : List WatchdogStep) (ordered : InOrder startedAt steps)
    (reads : ∀ event ∈ (watchdogHost config startedAt values).trace steps,
      ReadsPersisted event) :
    (∀ low, ((restartTimes ((watchdogHost config startedAt values).trace steps)).countP
        (inWindow config.restartWindowSec low) : Int) ≤ config.maxRestartsInWindow) ∧
      ∀ event ∈ (watchdogHost config startedAt values).trace steps, EntriesKept config event := by
  constructor
  · obtain ⟨last, -, budgeted⟩ := run_budgeted nonneg long steps ordered reads
    exact budgeted.bounded
  · intro event member
    obtain ⟨newer, older, split⟩ := List.append_of_mem member
    obtain ⟨earlier, -, start⟩ := Machine.trace_split _ split
    refine entriesKept long ?_
    rw [start]
    exact host_config earlier

end Runs

/-! ### A run of two watchdogs -/

def degradedAt (now : ℚ) : WatchdogStep := .observes ⟨"DEGRADED", 0⟩ now

def twoWatchdogs : List WatchdogStep :=
  [degradedAt 300, degradedAt 250,
    .restarts 200 [none, some .posInf, some (.fin 150), some (.fin 5000)],
    degradedAt 150, degradedAt 100]

theorem second_watchdog_keeps_budget :
    restartTimes ((watchdogHost { maxRestartsInWindow := 1 } 0 []).trace twoWatchdogs) = [150] ∧
      ∀ low, ((restartTimes ((watchdogHost { maxRestartsInWindow := 1 } 0 []).trace
        twoWatchdogs)).countP (inWindow 900 low) : Int) ≤ 1 := by
  refine ⟨by with_unfolding_all decide, ?_⟩
  refine (restart_budget_kept { maxRestartsInWindow := 1 } (by decide) (by decide) 0 []
    twoWatchdogs ?_ ?_).1
  · unfold InOrder
    decide
  · intro event member startedAt values called
    -- Only the third step starts a watchdog, and it reads the restart of the first one.
    simp only [twoWatchdogs, Machine.trace, List.mem_cons, List.not_mem_nil, or_false] at member
    rcases member with rfl | rfl | rfl | rfl | rfl
    · cases called
    · cases called
    · obtain ⟨rfl, rfl⟩ := WatchdogStep.restarts.inj called
      have persisted : ((watchdogHost { maxRestartsInWindow := 1 } 0 []).run
          [degradedAt 150, degradedAt 100]).persisted = [some (.fin 150)] := by
        with_unfolding_all decide
      rw [persisted]
      exact List.Sublist.subperm (by decide)
    · cases called
    · cases called

end WatchdogHost
end NdtSlam
