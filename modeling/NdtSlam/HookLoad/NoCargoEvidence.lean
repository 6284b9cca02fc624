import NdtSlam.Foundation.History
import NdtSlam.Foundation.Scalar

/-! The tracker that confirms by lidar that the hook carries no cargo. -/

namespace NdtSlam

structure LidarNoCargoEvidenceConfig where
  confirmFrames : UInt32 := 3

inductive CargoObservationOutcome where
  | unknown
  | cargoDetected
  | emptyConfirmed
  deriving DecidableEq

structure LidarNoCargoEvidenceInput where
  detectionExecuted : Bool := false
  outcome : CargoObservationOutcome := .unknown
  localizationValid : Bool := false
  cargoLockActive : Bool := false
  sourceTimeSec : Scalar := 0

structure LidarNoCargoEvidenceResult where
  confirmed : Bool := false
  confirmCount : UInt32 := 0
  reason : String := "startup_unconfirmed"

structure LidarNoCargoEvidenceTracker where
  config : LidarNoCargoEvidenceConfig := {}
  confirmed : Bool := false
  confirmCount : UInt32 := 0
  hasSeenSourceTime : Bool := false
  lastSeenSourceTimeSec : Scalar := 0
  reason : String := "startup_unconfirmed"

inductive LidarNoCargoCall where
  | update (input : LidarNoCargoEvidenceInput)
  | reset (reason : String)
  | setConfig (config : LidarNoCargoEvidenceConfig)

namespace LidarNoCargoEvidenceTracker

def countLimit : UInt32 := 4294967295

def sourceTimeEpsilonSec : Scalar := 1.0e-6

def normalizeConfig (config : LidarNoCargoEvidenceConfig) : LidarNoCargoEvidenceConfig :=
  { config with confirmFrames := max 1 config.confirmFrames }

variable (self : LidarNoCargoEvidenceTracker)

def result : LidarNoCargoEvidenceResult where
  confirmed := self.confirmed
  confirmCount := self.confirmCount
  reason := self.reason

def reset (reason : String) : LidarNoCargoEvidenceTracker :=
  { config := self.config, reason }

def setConfig (config : LidarNoCargoEvidenceConfig) : LidarNoCargoEvidenceTracker :=
  reset { self with config := normalizeConfig config } "config_changed"

variable (input : LidarNoCargoEvidenceInput)

def validSourceTime : Bool :=
  input.sourceTimeSec.isFinite && !(input.sourceTimeSec < 0)

def rolledBack : Bool :=
  self.hasSeenSourceTime &&
    input.sourceTimeSec + sourceTimeEpsilonSec < self.lastSeenSourceTimeSec

def repeatsTime : Bool :=
  self.hasSeenSourceTime &&
    (input.sourceTimeSec - self.lastSeenSourceTimeSec).abs ≤ sourceTimeEpsilonSec

def deny (reason : String) : LidarNoCargoEvidenceTracker :=
  { self with confirmed := false, confirmCount := 0, reason }

def count : LidarNoCargoEvidenceTracker :=
  -- The sum has 32 bits, so that it has wrapped around before it is compared with the limit.
  let confirmCount := min (self.confirmCount + 1) countLimit
  let confirmed : Bool := self.config.confirmFrames ≤ confirmCount
  { self with
    confirmCount
    confirmed
    reason := if confirmed then "no_cargo_confirmed" else "no_cargo_pending" }

def judge : LidarNoCargoEvidenceTracker :=
  if !input.localizationValid then self.deny "localization_invalid"
  else if input.outcome == .unknown then self.deny "observation_unknown"
  else if input.outcome == .cargoDetected || input.cargoLockActive then
    self.deny (if input.outcome == .cargoDetected then "cargo_detected" else "cargo_lock_active")
  else self.count

def update : LidarNoCargoEvidenceTracker :=
  if !input.detectionExecuted then
    if self.confirmed then self else { self with reason := "detection_not_executed" }
  else if !validSourceTime input then self.deny "invalid_source_time"
  else if self.rolledBack input then
    -- The older time is taken over, so that the next detection may be fresh again.
    deny { self with lastSeenSourceTimeSec := input.sourceTimeSec } "source_time_rollback"
  else if self.repeatsTime input then { self with reason := "duplicate_detection_ignored" }
  else
    judge { self with
      hasSeenSourceTime := true, lastSeenSourceTimeSec := input.sourceTimeSec } input

def step :
    LidarNoCargoCall → LidarNoCargoEvidenceTracker × LidarNoCargoEvidenceResult
  | .update input => (self.update input, (self.update input).result)
  | .reset reason => (self.reset reason, (self.reset reason).result)
  | .setConfig config => (self.setConfig config, (self.setConfig config).result)

def machine (config : LidarNoCargoEvidenceConfig) :
    Machine LidarNoCargoEvidenceTracker LidarNoCargoCall LidarNoCargoEvidenceResult where
  start := { config := normalizeConfig config }
  step

/-! ### What is counted -/

abbrev EvidenceEvent := Event LidarNoCargoEvidenceTracker LidarNoCargoCall

variable (input : LidarNoCargoEvidenceInput)

def showsEmpty : Bool :=
  input.localizationValid && input.outcome == .emptyConfirmed && !input.cargoLockActive

def fresh : Bool :=
  input.detectionExecuted && validSourceTime input && !self.rolledBack input &&
    !self.repeatsTime input

def counts (event : EvidenceEvent) : Bool :=
  match event.call with
  | .update input => event.before.fresh input && showsEmpty input
  | _ => false

def negative (event : EvidenceEvent) : Bool :=
  match event.call with
  | .update input => input.detectionExecuted && (!validSourceTime input ||
      event.before.rolledBack input || event.before.fresh input && !showsEmpty input)
  | _ => true

def streak : List EvidenceEvent → Nat
  | [] => 0
  | event :: older =>
    if negative event then 0 else if counts event then streak older + 1 else streak older

def Exact (past : List EvidenceEvent) (self : LidarNoCargoEvidenceTracker) : Prop :=
  self.confirmed = true ↔ self.config.confirmFrames.toNat ≤ streak past

variable {config : LidarNoCargoEvidenceConfig} {self after : LidarNoCargoEvidenceTracker}
  {input : LidarNoCargoEvidenceInput} {past : List EvidenceEvent}

theorem count_wraps : self.count.confirmCount = self.confirmCount + 1 := by
  have bounded : (self.confirmCount + 1).toNat < 2 ^ 32 := (self.confirmCount + 1).toNat_lt
  have below : self.confirmCount + 1 ≤ countLimit := by
    rw [UInt32.le_iff_toNat_le]
    show _ ≤ 4294967295
    omega
  show (if self.confirmCount + 1 ≤ countLimit then self.confirmCount + 1 else countLimit) = _
  rw [if_pos below]

variable (config : LidarNoCargoEvidenceConfig)

theorem normalizeConfig_positive :
    1 ≤ (normalizeConfig config).confirmFrames.toNat := by
  show 1 ≤ (if 1 ≤ config.confirmFrames then config.confirmFrames else 1).toNat
  split_ifs with some_
  · exact UInt32.le_iff_toNat_le.mp some_
  · exact le_rfl

theorem negative_of_counts {event : EvidenceEvent} (shows : counts event = true) :
    negative event = false := by
  obtain ⟨before, call⟩ := event
  cases call with
  | reset reason => cases shows
  | setConfig config => cases shows
  | update input =>
    simp only [counts, fresh, Bool.and_eq_true, Bool.not_eq_true'] at shows
    obtain ⟨⟨⟨⟨executed, valid⟩, notBack⟩, _⟩, empty⟩ := shows
    simp [negative, valid, notBack, empty]

inductive Course (event : EvidenceEvent) (after : LidarNoCargoEvidenceTracker) : Prop where
  | denied (speaks : negative event = true) (confirmed : after.confirmed = false)
      (count : after.confirmCount = 0) (frames : 1 ≤ after.config.confirmFrames.toNat)
  | counted (silent : negative event = false) (shows : counts event = true)
      (count : after.confirmCount = event.before.confirmCount + 1)
      (confirmed : after.confirmed = decide (after.config.confirmFrames ≤ after.confirmCount))
      (config : after.config = event.before.config)
  | ignored (silent : negative event = false) (blind : counts event = false)
      (confirmed : after.confirmed = event.before.confirmed)
      (count : after.confirmCount = event.before.confirmCount)
      (config : after.config = event.before.config)

theorem judge_course (frames : 1 ≤ self.config.confirmFrames.toNat)
    (fresh : self.fresh input = true) (recorded : LidarNoCargoEvidenceTracker)
    (config : recorded.config = self.config)
    (count : recorded.confirmCount = self.confirmCount) :
    Course ⟨self, .update input⟩ (recorded.judge input) := by
  have facts := fresh
  simp only [LidarNoCargoEvidenceTracker.fresh, Bool.and_eq_true, Bool.not_eq_true'] at facts
  obtain ⟨⟨⟨executed, valid⟩, notBack⟩, _⟩ := facts
  -- Every branch but the last one denies what the frame would have to show.
  have denies : showsEmpty input = false → ∀ reason, Course ⟨self, .update input⟩
      (recorded.deny reason) := by
    intro blind reason
    refine .denied ?_ rfl rfl (by rw [← config] at frames; exact frames)
    simp [negative, executed, fresh, blind]
  unfold judge
  by_cases lost : (!input.localizationValid) = true
  · rw [if_pos lost]
    exact denies (by simp_all [showsEmpty]) _
  · rw [if_neg lost]
    by_cases unknown : (input.outcome == .unknown) = true
    · rw [if_pos unknown]
      exact denies (by simp_all [showsEmpty]) _
    · rw [if_neg unknown]
      by_cases cargo : (input.outcome == .cargoDetected || input.cargoLockActive) = true
      · rw [if_pos cargo]
        refine denies ?_ _
        rw [Bool.or_eq_true, beq_iff_eq] at cargo
        rcases cargo with detected | locked
        · simp [showsEmpty, detected]
        · simp [showsEmpty, locked]
      · rw [if_neg cargo]
        have empty : showsEmpty input = true := by
          cases outcome : input.outcome with
          | unknown => simp [outcome] at unknown
          | cargoDetected => simp [outcome] at cargo
          | emptyConfirmed => simp_all [showsEmpty]
        refine .counted ?_ ?_ (by rw [count_wraps, count]) rfl config
        · simp [negative, executed, valid, notBack, empty]
        · simp [counts, fresh, empty]

theorem step_course (frames : 1 ≤ self.config.confirmFrames.toNat) (call : LidarNoCargoCall) :
    Course ⟨self, call⟩ (self.step call).1 := by
  cases call with
  | reset reason => exact .denied rfl rfl rfl frames
  | setConfig config => exact .denied rfl rfl rfl (normalizeConfig_positive config)
  | update input =>
    show Course _ (self.update input)
    unfold update
    by_cases skipped : (!input.detectionExecuted) = true
    · rw [if_pos skipped]
      rw [Bool.not_eq_true'] at skipped
      have silent : negative ⟨self, .update input⟩ = false := by simp [negative, skipped]
      have blind : counts ⟨self, .update input⟩ = false := by simp [counts, fresh, skipped]
      split_ifs
      · exact .ignored silent blind rfl rfl rfl
      · exact .ignored silent blind rfl rfl rfl
    · rw [if_neg skipped]
      rw [Bool.not_eq_true, Bool.not_eq_false'] at skipped
      by_cases invalid : (!validSourceTime input) = true
      · rw [if_pos invalid]
        exact .denied (by simp [negative, skipped, invalid]) rfl rfl frames
      · rw [if_neg invalid]
        rw [Bool.not_eq_true, Bool.not_eq_false'] at invalid
        by_cases back : self.rolledBack input = true
        · rw [if_pos back]
          exact .denied (by simp [negative, skipped, back]) rfl rfl frames
        · rw [if_neg back]
          rw [Bool.not_eq_true] at back
          by_cases again : self.repeatsTime input = true
          · rw [if_pos again]
            refine .ignored ?_ ?_ rfl rfl rfl
            · simp [negative, fresh, invalid, back, again]
            · simp [counts, fresh, again]
          · rw [if_neg again]
            rw [Bool.not_eq_true] at again
            have current : self.fresh input = true := by
              simp [fresh, skipped, invalid, back, again]
            exact judge_course frames current _ rfl rfl

/-! ### Runs -/

structure Wrapped (past : List EvidenceEvent) (state : LidarNoCargoEvidenceTracker) : Prop where
  frames : 1 ≤ state.config.confirmFrames.toNat
  count : state.confirmCount.toNat = streak past % 2 ^ 32
  confirmed : state.confirmed = decide (state.config.confirmFrames ≤ state.confirmCount)

theorem run_wrapped (calls : List LidarNoCargoCall) :
    Wrapped ((machine config).trace calls) ((machine config).run calls) := by
  -- Zero frames never confirm, since at least one is asked for.
  have zero : ∀ frames : UInt32, 1 ≤ frames.toNat → decide (frames ≤ 0) = false := by
    intro frames positive
    rw [decide_eq_false_iff_not, UInt32.le_iff_toNat_le]
    exact Nat.not_le.mpr positive
  refine (machine config).run_invariant ?_ ?_ calls
  · exact ⟨normalizeConfig_positive config, rfl, (zero _ (normalizeConfig_positive config)).symm⟩
  · intro past self call wrapped
    show Wrapped _ (self.step call).1
    cases step_course wrapped.frames call with
    | denied speaks confirmed count frames =>
      refine ⟨frames, ?_, ?_⟩
      · rw [count, streak, if_pos speaks]
        rfl
      · rw [confirmed, count, zero _ frames]
    | counted silent shows count confirmed config =>
      refine ⟨by rw [config]; exact wrapped.frames, ?_, confirmed⟩
      rw [count, streak, if_neg (by simp [silent]), if_pos shows, UInt32.toNat_add, wrapped.count]
      show (streak past % 2 ^ 32 + 1) % 2 ^ 32 = _
      omega
    | ignored silent blind confirmed count config =>
      refine ⟨by rw [config]; exact wrapped.frames, ?_, ?_⟩
      · rw [count, streak, if_neg (by simp [silent]), if_neg (by simp [blind])]
        exact wrapped.count
      · rw [confirmed, config, count]
        exact wrapped.confirmed

theorem Wrapped.exact_iff (wrapped : Wrapped past self) :
    Exact past self ↔ (self.config.confirmFrames.toNat ≤ streak past % 2 ^ 32 ↔
      self.config.confirmFrames.toNat ≤ streak past) := by
  unfold Exact
  rw [wrapped.confirmed, decide_eq_true_iff, UInt32.le_iff_toNat_le, wrapped.count]

theorem streak_passes {calls : List LidarNoCargoCall} {length : Nat} (positive : 0 < length)
    (reached : length ≤ streak ((machine config).trace calls)) :
    ∃ newer older, calls = newer ++ older ∧ streak ((machine config).trace older) = length := by
  -- One call adds at most one to it.
  induction calls with
  | nil =>
    have none : streak ((machine config).trace []) = 0 := rfl
    omega
  | cons call earlier ih =>
    by_cases here : streak ((machine config).trace (call :: earlier)) = length
    · exact ⟨[], call :: earlier, rfl, here⟩
    · have step : streak ((machine config).trace (call :: earlier)) ≤
          streak ((machine config).trace earlier) + 1 := by
        show (if _ then 0 else if _ then _ else _) ≤ _
        split_ifs
        · omega
        · exact le_rfl
        · exact Nat.le_succ _
      obtain ⟨newer, older, rfl, there⟩ := ih (by omega)
      exact ⟨call :: newer, older, rfl, there⟩

/-- The confirmation stays exact in a run exactly when no streak reaches the end of 32 bits. -/
theorem no_cargo_exact_iff (config : LidarNoCargoEvidenceConfig) (calls : List LidarNoCargoCall) :
    (∀ newer older, calls = newer ++ older →
        Exact ((machine config).trace older) ((machine config).run older)) ↔
      ∀ newer older, calls = newer ++ older →
        streak ((machine config).trace older) < 2 ^ 32 := by
  constructor
  · intro exact_ newer older split
    by_contra long
    -- The streak has passed the length at which the count is zero.
    obtain ⟨between, start, rfl, full⟩ :=
      @streak_passes config older (2 ^ 32) (by omega) (not_lt.mp long)
    have wrapped := run_wrapped config start
    have same := wrapped.exact_iff.mp (exact_ (newer ++ between) start (by rw [split]; simp))
    have bounded := ((machine config).run start).config.confirmFrames.toNat_lt
    rw [full, Nat.mod_self] at same
    have none := same.mpr bounded.le
    have positive := wrapped.frames
    omega
  · intro short newer older split
    rw [(run_wrapped config older).exact_iff, Nat.mod_eq_of_lt (short newer older split)]

def emptyFrames : Nat → List LidarNoCargoCall
  | 0 => []
  | frames + 1 => .update {
      detectionExecuted := true
      outcome := .emptyConfirmed
      localizationValid := true
      sourceTimeSec := .fin frames } :: emptyFrames frames

theorem emptyFrame_counts {frames : Nat}
    (before : self.hasSeenSourceTime = true →
      ∃ last : ℚ, self.lastSeenSourceTimeSec = .fin last ∧ last + 1 ≤ frames) :
    counts ⟨self, .update {
        detectionExecuted := true, outcome := .emptyConfirmed, localizationValid := true
        sourceTimeSec := .fin frames }⟩ = true ∧
      (self.update {
        detectionExecuted := true, outcome := .emptyConfirmed, localizationValid := true
        sourceTimeSec := .fin frames }).lastSeenSourceTimeSec = .fin frames := by
  have epsilon : sourceTimeEpsilonSec = .fin (1 / 1000000) := by
    show Scalar.fin (OfScientific.ofScientific 10 true 7) = _
    norm_num
  have valid : ¬Scalar.fin (frames : ℚ) < 0 :=
    fun below => absurd (Scalar.fin_lt_fin.1 below) (not_lt.mpr (Nat.cast_nonneg frames))
  -- The last source time lies a second back or more.
  have later : ∀ {time : Scalar}, time = .fin (frames : ℚ) →
      (self.hasSeenSourceTime && decide (time + sourceTimeEpsilonSec <
        self.lastSeenSourceTimeSec)) = false ∧
      (self.hasSeenSourceTime && decide ((time - self.lastSeenSourceTimeSec).abs ≤
        sourceTimeEpsilonSec)) = false := by
    rintro _ rfl
    cases seen : self.hasSeenSourceTime with
    | false => exact ⟨rfl, rfl⟩
    | true =>
      obtain ⟨last, lastEq, apart⟩ := before seen
      rw [lastEq, epsilon, Scalar.fin_add_fin, Scalar.fin_sub_fin, Scalar.abs_fin,
        Bool.true_and, Bool.true_and, decide_eq_false_iff_not, decide_eq_false_iff_not,
        Scalar.fin_lt_fin, Scalar.fin_le_fin, abs_of_nonneg (by linarith)]
      exact ⟨by linarith, by linarith⟩
  obtain ⟨notBack, notAgain⟩ := later rfl
  constructor
  · simp [counts, fresh, validSourceTime, valid, rolledBack, repeatsTime, notBack, notAgain,
      showsEmpty]
  · simp [update, validSourceTime, valid, rolledBack, repeatsTime, notBack, notAgain, judge, count]

theorem emptyFrames_streak (frames : Nat) :
    streak ((machine config).trace (emptyFrames frames)) = frames ∧
      (((machine config).run (emptyFrames frames)).hasSeenSourceTime = true →
        ∃ last : ℚ, ((machine config).run (emptyFrames frames)).lastSeenSourceTimeSec = .fin last ∧
          last + 1 ≤ frames) ∧
      ((machine config).run (emptyFrames frames)).config = normalizeConfig config := by
  induction frames with
  | zero =>
    -- A new tracker has seen nothing.
    refine ⟨rfl, fun seen => ?_, rfl⟩
    cases seen
  | succ frames ih =>
    obtain ⟨length, before, configured⟩ := ih
    obtain ⟨shows, latest⟩ := emptyFrame_counts before
    have wrapped := run_wrapped config (emptyFrames frames)
    have course := step_course wrapped.frames (.update {
      detectionExecuted := true, outcome := .emptyConfirmed, localizationValid := true
      sourceTimeSec := .fin frames })
    have silent := negative_of_counts shows
    refine ⟨?_, fun _ => ⟨frames, latest, by push_cast; exact le_rfl⟩, ?_⟩
    · show (if _ then 0 else if _ then _ else _) = _
      rw [if_neg (by simp [silent]), if_pos shows, length]
    · cases course with
      | denied speaks => cases silent.symm.trans speaks
      | counted _ _ count confirmed config => exact config.trans configured
      | ignored _ _ confirmed count config => exact config.trans configured

theorem no_cargo_lost_at_overflow :
    ¬ ∀ (config : LidarNoCargoEvidenceConfig) (calls : List LidarNoCargoCall),
      Exact ((machine config).trace calls) ((machine config).run calls) := by
  intro claimed
  obtain ⟨length, _, configured⟩ := emptyFrames_streak {} (2 ^ 32)
  have same := (run_wrapped {} (emptyFrames (2 ^ 32))).exact_iff.mp (claimed {} _)
  rw [length, configured, Nat.mod_self] at same
  exact absurd (same.mpr (by decide)) (by decide)

end LidarNoCargoEvidenceTracker
end NdtSlam
