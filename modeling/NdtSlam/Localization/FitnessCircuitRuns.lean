import NdtSlam.Localization.FitnessCircuitSoundness

/-! Whole runs of the fitness circuit: what it lets through, and when its thresholds are apart. -/

namespace NdtSlam
namespace NdtFitnessCircuitBreaker

abbrev Update := Event NdtFitnessCircuitBreaker Scalar

def Update.after (event : Update) : NdtFitnessCircuitBreaker := (event.before.update event.call).1

def Update.decision (event : Update) : NdtFitnessCircuitDecision :=
  (event.before.update event.call).2

def Update.good (event : Update) : Prop :=
  event.call.isFinite = true ∧ event.call ≤ event.decision.recoveryThreshold

/-- What the breaker promises of a run. -/
structure CircuitSound (config : NdtFitnessCircuitBreakerConfig) (calls : List Scalar) : Prop where
  bars : ∀ event : Update, event ∈ (machine config).trace calls →
    (event.call.isFinite = false ∨ event.call < 0 ∨ config.hardRejectThreshold ≤ event.call) →
    event.decision.allowMeasurement = false
  confirms : ∀ (event : Update) (newer : List Update) (opening : Update) (older : List Update),
    (machine config).trace calls = event :: newer ++ opening :: older →
    opening.decision.transitionedOpen = true → event.decision.allowMeasurement = true →
    ∃ later confirmed earlier, event :: newer = later ++ confirmed ++ earlier ∧
      (confirmed.length : Int) = config.recoveryConfirmations ∧ ∀ value ∈ confirmed, value.good
  bounded : ((machine config).run calls).baseline.length ≤ config.windowSize
  frozen : ∀ event : Update, event ∈ (machine config).trace calls → event.before.isOpen = true →
    event.after.isOpen = true → event.after.baseline = event.before.baseline
  appended : ∃ sources : List Update, sources.Sublist ((machine config).trace calls) ∧
    ((machine config).run calls).baseline = sources.reverse.map Event.call ∧
    ∀ event ∈ sources, event.call < event.decision.adaptiveThreshold ∧
      event.after.baseline = (event.before.appendBaseline event.call).baseline
  apart : ∀ event : Update, event ∈ (machine config).trace calls →
    event.decision.recoveryThreshold < event.decision.adaptiveThreshold
  closes : ∀ event : Update, event ∈ (machine config).trace calls → event.before.isOpen = true →
    event.after.isOpen = false → event.call < event.decision.adaptiveThreshold

def Separated (config : NdtFitnessCircuitBreakerConfig) : Prop :=
  config.minimumMad < config.hardRejectThreshold ∧
    (config.minimumMad < config.minimumAdaptiveThreshold ∨ 1 < config.madMultiplier)

section Runs

variable {config : NdtFitnessCircuitBreakerConfig}

theorem start_of_valid (valid : validConfig config = true) :
    (machine config).start = { config } := by
  show setConfig config = _
  simp [setConfig, valid]

theorem appendBaseline_length (self : NdtFitnessCircuitBreaker) (fitness : Scalar) :
    (self.appendBaseline fitness).baseline.length ≤ self.config.windowSize := by
  simp only [appendBaseline, List.length_drop, List.length_append, List.length_singleton]
  omega

variable {self : NdtFitnessCircuitBreaker}

theorem Nonneg.append (nonneg : Nonneg self.baseline) {fitness : Scalar}
    (number : ∃ q : ℚ, 0 ≤ q ∧ fitness = .fin q) :
    Nonneg (self.appendBaseline fitness).baseline := by
  intro value member
  -- What is left of the baseline was in it before, or is the new value.
  rcases List.mem_append.mp (List.mem_of_mem_drop member) with old | new
  · exact nonneg value old
  · rw [List.mem_singleton.mp new]
    exact number

structure Sane (config : NdtFitnessCircuitBreakerConfig) (before : NdtFitnessCircuitBreaker) :
    Prop where
  configured : before.config = config
  nonneg : Nonneg before.baseline
  bounded : before.baseline.length ≤ config.windowSize

theorem Sane.update (sane : Sane config self) (limits : Limits config)
    (enabled : config.enabled = true) (fitness : Scalar) :
    Sane config (self.update fitness).1 := by
  obtain ⟨rfl, nonneg, bounded⟩ := sane
  have kept := (@update_limits _ fitness enabled).1
  -- Either the baseline stays, or one admissible value joins it.
  by_cases changed : (self.update fitness).1.baseline = self.baseline
  · exact ⟨kept, changed ▸ nonneg, changed ▸ bounded⟩
  · have acceptable := sane_of_appended enabled changed
    obtain ⟨q, positive, -, number⟩ := sane_fin limits acceptable
    have appended : (self.update fitness).1.baseline = (self.appendBaseline fitness).baseline := by
      cases @update_course _ fitness enabled with
      | rejects _ _ same => exact absurd same changed
      | waits _ _ _ same => exact absurd same changed
      | recovers _ _ _ appended => exact appended
      | doubts _ _ same => exact absurd same changed
      | trips _ _ _ same => exact absurd same changed
      | admits _ _ _ appended => exact appended
    refine ⟨kept, ?_, ?_⟩
    · rw [appended]
      exact nonneg.append ⟨q, positive, number⟩
    · rw [appended]
      exact appendBaseline_length self fitness

theorem run_sane (valid : validConfig config = true) (enabled : config.enabled = true)
    (calls : List Scalar) : Sane config ((machine config).run calls) := by
  obtain ⟨limits⟩ := limits_of_valid valid
  refine @Machine.run_invariant _ _ _ (machine config) (fun _ self => Sane config self) ?_ ?_ calls
  · rw [start_of_valid valid]
    exact ⟨rfl, by simp [Nonneg], by simp⟩
  · intro _ self fitness sane
    exact sane.update limits enabled fitness

theorem before_sane (valid : validConfig config = true) (enabled : config.enabled = true)
    {calls : List Scalar} {event : Update} (member : event ∈ (machine config).trace calls) :
    Sane config event.before := by
  obtain ⟨newer, older, split⟩ := List.append_of_mem member
  obtain ⟨earlier, -, before⟩ := (machine config).trace_split split
  rw [before]
  exact run_sane valid enabled earlier

theorem recovered_since (valid : validConfig config = true) (enabled : config.enabled = true)
    {calls : List Scalar} {newer older : List Update} {opening : Update}
    (split : (machine config).trace calls = newer ++ opening :: older)
    (opened : opening.decision.transitionedOpen = true) :
    (∃ later confirmed earlier, newer = later ++ confirmed ++ earlier ∧
      (confirmed.length : Int) = config.recoveryConfirmations ∧
        ∀ value ∈ confirmed, value.good) ∨
    (((machine config).run calls).isOpen = true ∧
      (∀ event ∈ newer, event.decision.allowMeasurement = false) ∧
      ∃ recent earlier, newer = recent ++ earlier ∧
        (recent.length : Int) = ((machine config).run calls).recoveryStreak ∧
        ∀ value ∈ recent, value.good) := by
  obtain ⟨limits⟩ := limits_of_valid valid
  -- The values since the opening are taken one at a time.
  induction calls generalizing newer with
  | nil => simp [Machine.trace] at split
  | cons call calls ih =>
    have sane := run_sane valid enabled calls
    have on : ((machine config).run calls).config.enabled = true := by
      rw [sane.configured]
      exact enabled
    cases newer with
    | nil =>
      -- The opening itself restarts the recovery.
      obtain ⟨rfl, -⟩ := List.cons.inj split
      obtain ⟨isOpen, restarted⟩ := (update_limits on).2.2.2 opened
      exact .inr ⟨isOpen, by simp, [], [], rfl, restarted.symm, by simp⟩
    | cons event newer =>
      obtain ⟨rfl, rest⟩ := List.cons.inj split
      rcases ih rest with ⟨later, confirmed, earlier, parts, enough, good⟩ | waiting
      · -- An earlier recovery remains one.
        refine .inl ⟨⟨(machine config).run calls, call⟩ :: later, confirmed, earlier, ?_, enough,
          good⟩
        simp [parts]
      obtain ⟨isOpen, barred, recent, earlier, parts, streak, good⟩ := waiting
      have course := @update_course _ call on
      have reported := (@update_limits _ call on).2.2.1
      -- A value within the recovery threshold prolongs the streak, any other one restarts it.
      have prolonged : ∃ recent' earlier',
          (⟨(machine config).run calls, call⟩ : Update) :: newer = recent' ++ earlier' ∧
          (recent'.length : Int) = nextStreak ((machine config).run calls) call ∧
          ((refused config call = false) → ∀ value : Update, value ∈ recent' → value.good) := by
        unfold nextStreak
        by_cases within : call ≤ ((machine config).run calls).thresholds.recoveryThreshold
        · rw [if_pos within]
          refine ⟨⟨(machine config).run calls, call⟩ :: recent, earlier, by simp [parts],
            by simp [streak], ?_⟩
          intro acceptable
          obtain ⟨q, -, -, rfl⟩ := sane_fin limits acceptable
          refine List.forall_mem_cons.mpr ⟨⟨rfl, ?_⟩, good⟩
          show Scalar.fin q ≤ (((machine config).run calls).update (.fin q)).2.recoveryThreshold
          rw [reported]
          exact within
        · rw [if_neg within]
          exact ⟨[], _, rfl, rfl, by simp⟩
      obtain ⟨recent', earlier', parts', streak', good'⟩ := prolonged
      -- Refused values restart the recovery, so whatever counts here is acceptable.
      cases bad : refused config call with
      | true =>
        have refusal : refused ((machine config).run calls).config call = true := by
          rw [sane.configured]
          exact bad
        have outcome := update_of_refused on refusal
        refine .inr ⟨?_, ?_, [], _, rfl, ?_, by simp⟩
        · show (((machine config).run calls).update call).1.isOpen = true
          rw [outcome]
          rfl
        · refine List.forall_mem_cons.mpr ⟨?_, barred⟩
          exact refused_barred on refusal
        · show (0 : Int) = (((machine config).run calls).update call).1.recoveryStreak
          rw [outcome]
          rfl
      | false =>
        cases course with
        | rejects opens restarts _ refusedNow =>
          exact .inr ⟨opens, List.forall_mem_cons.mpr ⟨refusedNow, barred⟩, [], _, rfl,
            restarts.symm, by simp⟩
        | waits _ stays counted _ barredNow =>
          refine .inr ⟨stays, List.forall_mem_cons.mpr ⟨barredNow, barred⟩, recent', earlier',
            parts', ?_, good' bad⟩
          rw [streak']
          exact counted.symm
        | recovers _ _ enough _ =>
          -- The last values of the streak are as many as the recovery needs.
          rw [sane.configured] at enough
          have needed : config.recoveryConfirmations.toNat ≤ recent'.length := by omega
          have atLeastTwo : 2 ≤ config.recoveryConfirmations := by
            simp only [validConfig, Bool.and_eq_true, decide_eq_true_eq] at valid
            exact valid.2
          refine .inl ⟨[], recent'.take config.recoveryConfirmations.toNat,
            recent'.drop config.recoveryConfirmations.toNat ++ earlier', ?_, ?_, ?_⟩
          · rw [parts', List.nil_append, ← List.append_assoc, List.take_append_drop]
          · rw [List.length_take, Nat.min_eq_left needed]
            omega
          · intro value member
            exact good' bad value (List.mem_of_mem_take member)
        | doubts wasClosed => simp [isOpen] at wasClosed
        | trips wasClosed => simp [isOpen] at wasClosed
        | admits wasClosed => simp [isOpen] at wasClosed

theorem Sane.apart {before : NdtFitnessCircuitBreaker} (sane : Sane config before)
    (limits : Limits config) (separated : Separated config) :
    before.thresholds.recoveryThreshold < before.thresholds.adaptiveThreshold := by
  obtain ⟨rfl, nonneg, -⟩ := sane
  obtain ⟨adaptive, adaptiveEq, least⟩ := adaptiveThreshold_ge limits nonneg
  refine recoveryThreshold_lt limits adaptiveEq (lt_of_lt_of_le ?_ least)
  -- Even a flat baseline leaves the minimal spread below the adaptive threshold.
  obtain ⟨belowHard, belowFloor⟩ := separated
  rw [limits.minimumMadEq, limits.ceilingEq, Scalar.fin_lt_fin] at belowHard
  rw [limits.minimumMadEq, limits.floorEq, limits.madFactorEq, Scalar.fin_lt_fin] at belowFloor
  refine lt_min (lt_max_iff.mpr ?_) belowHard
  rcases belowFloor with belowFloor | steep
  · exact .inl belowFloor
  · exact .inr (lt_mul_of_one_lt_left limits.minimumMadPos (Scalar.fin_lt_fin.1 steep))

theorem below_of_appended {fitness : Scalar}
    (limits : Limits self.config) (sane : refused self.config fitness = false)
    (course : self.isOpen = true ∧ fitness ≤ self.thresholds.recoveryThreshold ∧
        self.thresholds.recoveryThreshold < self.thresholds.adaptiveThreshold ∨
      (self.thresholds.baselineReady = true → ¬self.thresholds.adaptiveThreshold ≤ fitness))
    (nonneg : Nonneg self.baseline) : fitness < self.thresholds.adaptiveThreshold := by
  obtain ⟨q, -, belowHard, rfl⟩ := sane_fin limits sane
  rcases course with ⟨-, within, apart⟩ | notBad
  · exact Scalar.lt_of_le_of_lt within apart
  · rcases Nat.lt_or_ge self.baseline.length self.config.warmupSamples with warming | ready
    · -- A warming baseline leaves the hard limit in force.
      rw [adaptiveThreshold_warming limits warming, Scalar.fin_lt_fin]
      exact belowHard
    · obtain ⟨adaptive, adaptiveEq, -⟩ := adaptiveThreshold_ge limits nonneg
      have notAbove := notBad (decide_eq_true ready)
      rw [adaptiveEq, Scalar.fin_le_fin, not_le] at notAbove
      rw [adaptiveEq, Scalar.fin_lt_fin]
      exact notAbove

section

variable (valid : validConfig config = true)
include valid

section

variable (enabled : config.enabled = true)
include enabled

theorem appended_below
    (separated : Separated config) (event : Update) (sane : Sane config event.before)
    (joins : event.after.baseline ≠ event.before.baseline ∨
      event.before.isOpen = true ∧ event.after.isOpen = false) :
    event.call < event.decision.adaptiveThreshold ∧
      event.after.baseline = (event.before.appendBaseline event.call).baseline := by
  obtain ⟨limits⟩ := limits_of_valid valid
  obtain ⟨before, call⟩ := event
  dsimp only at sane joins ⊢
  have apart := sane.apart limits separated
  obtain ⟨rfl, nonneg, -⟩ := sane
  have reported := (@update_limits _ call enabled).2.1
  have course := @update_course before call enabled
  have acceptable : refused before.config call = false := by
    cases bad : refused before.config call with
    | false => rfl
    | true =>
      -- A refused value leaves the circuit open and the baseline alone.
      have outcome := update_of_refused enabled bad
      simp only [Update.after, outcome, reject] at joins
      rcases joins with changed | ⟨-, closed⟩
      · exact absurd rfl changed
      · cases closed
  show call < (before.update call).2.adaptiveThreshold ∧ (before.update call).1.baseline = _
  rw [reported]
  have below := below_of_appended limits acceptable
  cases course with
  | rejects opens _ kept =>
    rcases joins with changed | ⟨-, closed⟩
    · exact absurd kept changed
    · exact absurd (opens.symm.trans closed) (by simp)
  | waits _ stays _ kept =>
    rcases joins with changed | ⟨-, closed⟩
    · exact absurd kept changed
    · exact absurd (stays.symm.trans closed) (by simp)
  | recovers wasOpen _ enough appended =>
    refine ⟨below (.inl ⟨wasOpen, ?_, apart⟩) nonneg, appended⟩
    -- A streak of one or more needs a last value within the recovery threshold.
    by_contra beyond
    have atLeastTwo : 2 ≤ before.config.recoveryConfirmations := by
      simp only [validConfig, Bool.and_eq_true, decide_eq_true_eq] at valid
      exact valid.2
    simp only [nextStreak, if_neg beyond] at enough
    omega
  | doubts wasClosed _ kept =>
    rcases joins with changed | ⟨wasOpen, -⟩
    · exact absurd kept changed
    · exact absurd (wasClosed.symm.trans wasOpen) (by simp)
  | trips wasClosed _ _ kept =>
    rcases joins with changed | ⟨wasOpen, -⟩
    · exact absurd kept changed
    · exact absurd (wasClosed.symm.trans wasOpen) (by simp)
  | admits _ _ notBad appended => exact ⟨below (.inr notBad) nonneg, appended⟩

theorem baseline_sources (separated : Separated config) (calls : List Scalar) :
    ∃ sources : List Update, sources.Sublist ((machine config).trace calls) ∧
      ((machine config).run calls).baseline = sources.reverse.map Event.call ∧
      ∀ event ∈ sources, event.call < event.decision.adaptiveThreshold ∧
        event.after.baseline = (event.before.appendBaseline event.call).baseline := by
  induction calls with
  | nil =>
    refine ⟨[], List.Sublist.refl _, ?_, by simp⟩
    show (machine config).start.baseline = _
    rw [start_of_valid valid]
    rfl
  | cons call calls ih =>
    obtain ⟨sources, among, values, below⟩ := ih
    let event : Update := ⟨(machine config).run calls, call⟩
    have sane : Sane config event.before := run_sane valid enabled calls
    by_cases changed : event.after.baseline = event.before.baseline
    · exact ⟨sources, among.cons event, changed.trans values, below⟩
    · -- The new value comes last, and the oldest ones may leave.
      obtain ⟨belowNow, appended⟩ := appended_below valid enabled separated event sane (.inl changed)
      let surplus := (event.before.baseline ++ [call]).length - event.before.config.windowSize
      have kept : ((event :: sources).reverse.drop surplus).reverse.Sublist (event :: sources) := by
        have dropped := (List.drop_sublist surplus (event :: sources).reverse).reverse
        rwa [List.reverse_reverse] at dropped
      refine ⟨((event :: sources).reverse.drop surplus).reverse, kept.trans (among.cons_cons event),
        ?_, ?_⟩
      · show event.after.baseline = _
        rw [appended, List.reverse_reverse, List.map_drop, List.reverse_cons, List.map_append,
          ← values]
        rfl
      · intro source member
        rcases List.mem_cons.mp (kept.subset member) with rfl | old
        · exact ⟨belowNow, appended⟩
        · exact below source old

theorem circuitSound_of_separated (separated : Separated config) (calls : List Scalar) :
    CircuitSound config calls := by
  obtain ⟨limits⟩ := limits_of_valid valid
  have enabledBefore : ∀ {event : Update}, event ∈ (machine config).trace calls →
      event.before.config.enabled = true := by
    intro event member
    rw [(before_sane valid enabled member).configured]
    exact enabled
  refine ⟨?_, ?_, (run_sane valid enabled calls).bounded, ?_,
    baseline_sources valid enabled separated calls, ?_, ?_⟩
  · intro event member bad
    refine refused_barred (enabledBefore member) ?_
    rw [(before_sane valid enabled member).configured]
    rcases bad with infinite | negative | hard
    · simp [refused, invalid, infinite]
    · simp [refused, invalid, negative]
    · simp [refused, hard]
  · intro event newer opening older split opened passed
    rcases recovered_since valid enabled split opened with recovered | ⟨-, barred, -⟩
    · exact recovered
    · rw [barred event List.mem_cons_self] at passed
      cases passed
  · intro event member wasOpen stays
    cases @update_course _ event.call (enabledBefore member) with
    | rejects _ _ kept => exact kept
    | waits _ _ _ kept => exact kept
    | recovers _ closes => exact absurd (stays.symm.trans closes) (by simp)
    | doubts wasClosed => exact absurd (wasClosed.symm.trans wasOpen) (by simp)
    | trips wasClosed => exact absurd (wasClosed.symm.trans wasOpen) (by simp)
    | admits wasClosed => exact absurd (wasClosed.symm.trans wasOpen) (by simp)
  · intro event member
    obtain ⟨-, adaptiveEq, recoveryEq, -⟩ :=
      @update_limits _ event.call (enabledBefore member)
    show (event.before.update event.call).2.recoveryThreshold <
      (event.before.update event.call).2.adaptiveThreshold
    rw [adaptiveEq, recoveryEq]
    exact (before_sane valid enabled member).apart limits separated
  · intro event member wasOpen closes
    exact (appended_below valid enabled separated event (before_sane valid enabled member)
      (.inr ⟨wasOpen, closes⟩)).1

theorem run_zeros {count : Nat} (warming : count ≤ config.warmupSamples) :
    ((machine config).run (List.replicate count 0)).baseline = List.replicate count 0 ∧
      ((machine config).run (List.replicate count 0)).isOpen = false := by
  obtain ⟨limits⟩ := limits_of_valid valid
  induction count with
  | zero =>
    show (machine config).start.baseline = _ ∧ (machine config).start.isOpen = _
    rw [start_of_valid valid]
    exact ⟨rfl, rfl⟩
  | succ count ih =>
    obtain ⟨zeros, closed⟩ := ih (by omega)
    have configured := (run_sane valid enabled (List.replicate count 0)).configured
    let before := (machine config).run (List.replicate count 0)
    show (before.update 0).1.baseline = _ ∧ (before.update 0).1.isOpen = _
    have acceptable : refused before.config 0 = false := by
      have hard : ¬Scalar.fin limits.ceiling ≤ 0 := fun reaches =>
        absurd (Scalar.fin_le_fin.1 reaches)
          (not_le.mpr (by exact_mod_cast limits.floorPos.trans limits.floorBelow))
      show (false || decide (before.config.hardRejectThreshold ≤ 0)) = false
      rw [configured, limits.ceilingEq]
      simp [hard]
    have cold : before.thresholds.baselineReady = false := by
      show decide (before.config.warmupSamples ≤ before.baseline.length) = false
      rw [configured, zeros, List.length_replicate, decide_eq_false_iff_not]
      omega
    rw [update_of_sane (by rw [configured]; exact enabled) acceptable,
      if_neg (by simp [before, closed])]
    unfold monitor
    rw [if_neg (by simp [cold])]
    refine ⟨?_, closed⟩
    -- The window is at least as long as the warm-up.
    have room : config.warmupSamples ≤ config.windowSize := by
      simp only [validConfig, Bool.and_eq_true, decide_eq_true_eq] at valid
      exact valid.1.1.1.1.1.1.1.1.1.1.1.1.1.1.1.2
    show (before.baseline ++ [0]).drop ((before.baseline ++ [0]).length - before.config.windowSize)
      = _
    have fits : (before.baseline ++ [0]).length - before.config.windowSize = 0 := by
      rw [configured, zeros]
      simp only [List.length_append, List.length_replicate, List.length_singleton]
      omega
    rw [fits, List.drop_zero, zeros, List.replicate_succ']

end

end

/-- The promises hold in every run exactly if the minimal spread stays below both thresholds. -/
theorem circuit_sound_iff (valid : validConfig config = true) (enabled : config.enabled = true) :
    (∀ calls, CircuitSound config calls) ↔ Separated config := by
  constructor
  · intro sound
    -- In each run of zeros, the next value sees thresholds that are apart.
    have apart : ∀ count, ((machine config).run (List.replicate count 0)).config = config ∧
        ((machine config).run (List.replicate count 0)).thresholds.recoveryThreshold <
          ((machine config).run (List.replicate count 0)).thresholds.adaptiveThreshold := by
      intro count
      have configured := (run_sane valid enabled (List.replicate count 0)).configured
      have reports := @update_limits _ 0
        (by rw [configured]; exact enabled :
          ((machine config).run (List.replicate count 0)).config.enabled = true)
      refine ⟨configured, ?_⟩
      rw [← reports.2.1, ← reports.2.2.1]
      exact (sound (0 :: List.replicate count 0)).apart _ List.mem_cons_self
    have warmup : 5 ≤ config.warmupSamples := by
      simp only [validConfig, Bool.and_eq_true, decide_eq_true_eq] at valid
      exact valid.1.1.1.1.1.1.1.1.1.1.1.1.1.1.1.1.2
    constructor
    · -- Before any value, the hard limit is the adaptive threshold.
      obtain ⟨configured, coldApart⟩ := apart 0
      obtain ⟨limits⟩ := limits_of_valid (configured.symm ▸ valid)
      have empty := (run_zeros valid enabled (Nat.zero_le config.warmupSamples)).1
      have below := minimumMad_lt_hard limits
        (by rw [configured, empty, List.length_replicate]; omega) coldApart
      rwa [configured] at below
    · -- After the warm-up, the floor and the minimal spread decide.
      obtain ⟨configured, warmApart⟩ := apart config.warmupSamples
      obtain ⟨limits⟩ := limits_of_valid (configured.symm ▸ valid)
      have zeros := (run_zeros valid enabled (le_refl config.warmupSamples)).1
      have below := minimumMad_lt_flat limits (by rw [configured]; exact zeros) warmApart
      rwa [configured] at below
  · intro separated calls
    exact circuitSound_of_separated valid enabled separated calls

attribute [local semireducible] Rat.add Rat.sub Rat.mul Rat.inv Rat.ofScientific

theorem default_circuit_sound :
    validConfig {} = true ∧ ((∀ calls, CircuitSound {} calls) ↔ Separated {}) ∧ Separated {} :=
  ⟨by decide, circuit_sound_iff (by decide) rfl, by
    constructor
    · decide
    · exact .inl (by decide)⟩

def wideSpread : NdtFitnessCircuitBreakerConfig :=
  { windowSize := 10
    warmupSamples := 5
    madMultiplier := 0.5
    minimumMad := 0.5
    enterConfirmations := 2
    recoveryConfirmations := 2 }

/-- Two values that are adaptively bad open a circuit, and two more of the same close it. -/
theorem bad_values_close_circuit :
    ¬∀ config, validConfig config = true → config.enabled = true →
      ∀ calls, CircuitSound config calls := by
  intro sound
  have closed := (sound wideSpread (by decide) rfl [0.4, 0.4, 0.4, 0.4, 0, 0, 0, 0, 0]).closes
    _ List.mem_cons_self (by decide) (by decide)
  exact absurd closed (by decide)

end Runs

end NdtFitnessCircuitBreaker
end NdtSlam
