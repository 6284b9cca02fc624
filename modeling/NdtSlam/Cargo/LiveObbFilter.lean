import NdtSlam.Foundation.History
import NdtSlam.Swing.Statistics

/-! The live box around the load, and how long it is held without being refreshed. -/

namespace NdtSlam

/-- The angles of the numeric libraries. -/
class AxialMath where
  cos : Scalar → Scalar
  sin : Scalar → Scalar
  atan2 : Scalar → Scalar → Scalar
  hypot : Scalar → Scalar → Scalar

structure CargoAxialYawSummary where
  valid : Bool := false
  meanYawRad : Scalar := 0
  concentration : Scalar := 0
  maximumDeviationRad : Scalar := 0

structure CargoLiveObbConfig where
  windowFrames : Nat := 10
  establishmentWindowFrames : Nat := 5
  minimumValidFrames : Nat := 3
  expansionWindowFrames : Nat := 8
  expansionValidFrames : Nat := 5
  shrinkWindowFrames : Nat := 10
  shrinkValidFrames : Nat := 7
  updateAlpha : Scalar := 0.30
  maximumSizeStepM : Scalar := 0.10
  minimumYawConcentration : Scalar := 0.70
  maximumYawSpreadDeg : Scalar := 12.0
  observationHoldSec : Scalar := 2.0

structure CargoLiveObb where
  valid : Bool := false
  held : Bool := false
  sizeLongShort : Vec2 := {}
  yawBaseRad : Scalar := 0
  centerZ : Scalar := 0
  heightM : Scalar := 0
  validFrames : Nat := 0
  yawConcentration : Scalar := 0
  sizeMad : Vec2 := {}

namespace CargoLiveObbFilter

open CargoSwingMonitor (normalizeCargoAxialYaw)

structure Observation where
  valid : Bool
  sizeLongShort : Vec2
  yawBaseRad : Scalar
  centerZ : Scalar
  heightM : Scalar
  stampSec : Scalar

structure Sample where
  valid : Bool
  size : Vec2
  yaw : Scalar
  centerZ : Scalar
  height : Scalar
  stampSec : Scalar

def percentile (values : List Scalar) (fraction : Scalar) : Scalar :=
  if values.isEmpty then .nan
  else
    let sorted := values.insertionSort (· ≤ ·)
    let position := (Scalar.clamp fraction 0 1 * .ofNat (values.length - 1)).value
    let lower := ⌊position⌋.toNat
    let upper := min (lower + 1) (values.length - 1)
    let alpha : Scalar := .fin (position - lower)
    sorted.getD lower 0 * (1 - alpha) + sorted.getD upper 0 * alpha

def summarizeCargoAxialYaw [AxialMath] (yawSamples : List Scalar) : CargoAxialYawSummary :=
  let finite := yawSamples.filter (·.isFinite)
  let cosineSum := (finite.map fun yaw => AxialMath.cos (2 * yaw)).foldl (· + ·) 0
  let sineSum := (finite.map fun yaw => AxialMath.sin (2 * yaw)).foldl (· + ·) 0
  if finite.isEmpty || AxialMath.hypot cosineSum sineSum ≤ 1.0e-9 then {}
  else
    let meanYawRad := normalizeCargoAxialYaw (0.5 * AxialMath.atan2 sineSum cosineSum)
    { valid := true
      meanYawRad
      concentration := AxialMath.hypot cosineSum sineSum / .ofNat finite.length
      maximumDeviationRad := finite.foldl (fun deviation yaw =>
        .maxOf deviation (normalizeCargoAxialYaw (yaw - meanYawRad)).abs) 0 }

def robustMedian (values : List Scalar) : Scalar × Scalar :=
  let median := percentile values 0.50
  let mad := percentile (values.map fun value => (value - median).abs) 0.50
  let limit := Scalar.maxOf 0.10 (3 * mad)
  (percentile (values.filter fun value => (value - median).abs ≤ limit) 0.50, mad)

end CargoLiveObbFilter

open CargoLiveObbFilter

structure CargoLiveObbFilter where
  config : CargoLiveObbConfig
  samples : List Sample := []
  result : CargoLiveObb := {}
  lastValidStampSec : Scalar := 0

namespace CargoLiveObbFilter

open CargoSwingMonitor (normalizeCargoAxialYaw)

variable (self : CargoLiveObbFilter) (observation : Observation)

def setConfig (config : CargoLiveObbConfig) : CargoLiveObbFilter where
  config :=
    let clamped (value low high : Nat) := max low (min high value)
    let windowFrames := max 10 config.windowFrames
    let expansionWindowFrames := clamped config.expansionWindowFrames 1 windowFrames
    let shrinkWindowFrames := clamped config.shrinkWindowFrames 1 windowFrames
    { windowFrames
      establishmentWindowFrames := clamped config.establishmentWindowFrames 3 windowFrames
      minimumValidFrames := clamped config.minimumValidFrames 1 windowFrames
      expansionWindowFrames
      expansionValidFrames := clamped config.expansionValidFrames 1 expansionWindowFrames
      shrinkWindowFrames
      shrinkValidFrames := clamped config.shrinkValidFrames 1 shrinkWindowFrames
      updateAlpha := .clamp config.updateAlpha 0.01 1
      maximumSizeStepM := .maxOf 0.01 config.maximumSizeStepM
      minimumYawConcentration := .clamp config.minimumYawConcentration 0 1
      maximumYawSpreadDeg := .maxOf 0 config.maximumYawSpreadDeg
      observationHoldSec := .maxOf 0 config.observationHoldSec }

def reset : CargoLiveObbFilter := { config := self.config }

def enter : CargoLiveObbFilter :=
  let stale := !self.samples.isEmpty && (!observation.stampSec.isFinite ||
    (self.samples.getLast?.any fun last => observation.stampSec + 1.0e-6 < last.stampSec))
  let self := if stale then self.reset else self
  let sample : Sample := {
    valid := observation.valid && observation.sizeLongShort.allFinite &&
      observation.yawBaseRad.isFinite && observation.centerZ.isFinite &&
      observation.heightM.isFinite &&
      0 < Scalar.minOf observation.sizeLongShort.x observation.sizeLongShort.y &&
      0 < observation.heightM && observation.stampSec.isFinite
    size := observation.sizeLongShort
    yaw := normalizeCargoAxialYaw observation.yawBaseRad
    centerZ := observation.centerZ
    height := observation.heightM
    stampSec := observation.stampSec }
  let samples := self.samples ++ [sample]
  { self with samples := samples.drop (samples.length - self.config.windowFrames) }

def validSamples : List Sample := self.samples.filter (·.valid)

def countRecentValid (window : Nat) : Nat :=
  (self.samples.drop (self.samples.length - window)).countP (·.valid)

section Unmeasured

variable {self : CargoLiveObbFilter} {observation : Observation}

@[simp]
theorem enter_config : (self.enter observation).config = self.config := by
  unfold enter
  dsimp only
  split_ifs <;> rfl

theorem enter_valid (valid : (self.enter observation).result.valid = true) :
    self.result.valid = true ∧
      (self.enter observation).lastValidStampSec = self.lastValidStampSec := by
  unfold enter at valid ⊢
  dsimp only at valid ⊢
  split_ifs at valid ⊢ with stale
  · cases valid
  · exact ⟨valid, rfl⟩

theorem hold_nonneg {config : CargoLiveObbConfig} {stamp : Scalar}
    (finite : stamp.isFinite = true) :
    stamp - stamp ≤ (setConfig config).config.observationHoldSec := by
  rw [Scalar.sub_self_of_finite finite]
  change 0 ≤ Scalar.maxOf 0 config.observationHoldSec
  rcases Scalar.maxOf_zero_cases config.observationHoldSec with top | ⟨value, nonneg, equal⟩
  · rw [top]
    rfl
  · rw [equal]
    exact Scalar.fin_le_fin.2 nonneg

end Unmeasured

section Measured

variable [AxialMath]

def yawSummary : CargoAxialYawSummary := summarizeCargoAxialYaw (self.validSamples.map (·.yaw))

def settled : Bool :=
  let summary := self.yawSummary
  self.config.minimumValidFrames ≤ self.countRecentValid self.config.establishmentWindowFrames &&
    summary.valid && self.config.minimumYawConcentration ≤ summary.concentration &&
    summary.maximumDeviationRad ≤
      self.config.maximumYawSpreadDeg * 3.14159265358979323846 / 180

def target : Vec2 :=
  ⟨(robustMedian (self.validSamples.map (·.size.x))).1,
    (robustMedian (self.validSamples.map (·.size.y))).1⟩

def sizeMad : Vec2 :=
  ⟨(robustMedian (self.validSamples.map (·.size.x))).2,
    (robustMedian (self.validSamples.map (·.size.y))).2⟩

def expansion : Bool :=
  self.result.valid && (self.result.sizeLongShort.x < self.target.x ||
    self.result.sizeLongShort.y < self.target.y)

def shrink : Bool :=
  self.result.valid && !self.expansion && (self.target.x < self.result.sizeLongShort.x ||
    self.target.y < self.result.sizeLongShort.y)

def updateReady : Bool :=
  !self.result.valid ||
    (self.expansion && self.config.expansionValidFrames ≤
      self.countRecentValid self.config.expansionWindowFrames) ||
    (self.shrink && self.config.shrinkValidFrames ≤
      self.countRecentValid self.config.shrinkWindowFrames) ||
    (!self.expansion && !self.shrink)

def refreshed (stampSec : Scalar) : CargoLiveObbFilter :=
  let summary := self.yawSummary
  let targetZ := percentile (self.validSamples.map (·.centerZ)) 0.50
  let targetHeight := percentile (self.validSamples.map (·.height)) 0.50
  let box := self.result
  let alpha := self.config.updateAlpha
  let stepped (target side : Scalar) := side + Scalar.clamp (alpha * (target - side))
    (-self.config.maximumSizeStepM) self.config.maximumSizeStepM
  let moved :=
    if !box.valid then
      { box with
        sizeLongShort := self.target
        centerZ := targetZ
        heightM := targetHeight
        yawBaseRad := summary.meanYawRad }
    else
      { box with
        sizeLongShort := ⟨stepped self.target.x box.sizeLongShort.x,
          stepped self.target.y box.sizeLongShort.y⟩
        centerZ := box.centerZ + alpha * (targetZ - box.centerZ)
        heightM := box.heightM + alpha * (targetHeight - box.heightM)
        yawBaseRad := normalizeCargoAxialYaw (box.yawBaseRad +
          alpha * normalizeCargoAxialYaw (summary.meanYawRad - box.yawBaseRad)) }
  { self with
    result := { moved with
      valid := true
      held := false
      validFrames := self.validSamples.length
      yawConcentration := summary.concentration
      sizeMad := self.sizeMad }
    lastValidStampSec := stampSec }

def update : CargoLiveObbFilter :=
  let self := self.enter observation
  if self.settled then
    if self.updateReady then self.refreshed observation.stampSec
    else { self with result := { self.result with held := self.result.valid } }
  else if self.result.valid && observation.stampSec.isFinite &&
      observation.stampSec - self.lastValidStampSec ≤ self.config.observationHoldSec then
    { self with result := { self.result with held := true } }
  else { self with result := {} }

def machine (config : CargoLiveObbConfig) :
    Machine CargoLiveObbFilter Observation CargoLiveObb where
  start := setConfig config
  step self observation :=
    let self := self.update observation
    (self, self.result)

def answer (event : Event CargoLiveObbFilter Observation) : CargoLiveObb :=
  (event.before.update event.call).result

/-- A call moves or confirms the box. -/
def Refreshes (event : Event CargoLiveObbFilter Observation) : Prop :=
  (event.before.enter event.call).settled = true ∧
    (event.before.enter event.call).updateReady = true

/-- A call whose window is settled, but too few of whose frames support the change of size. -/
def Waits (event : Event CargoLiveObbFilter Observation) : Prop :=
  (event.before.enter event.call).settled = true ∧
    (event.before.enter event.call).updateReady = false

/-- The past since the last refreshing call, which satisfies a condition. -/
def RefreshedAt (stamped : Scalar → Prop) (past : List (Event CargoLiveObbFilter Observation)) :
    Prop :=
  Since (fun event => ¬Refreshes event)
    (fun event => Refreshes event ∧ stamped event.call.stampSec) past

/-- The box returned last was refreshed within the hold time. -/
def HoldLimited (config : CargoLiveObbConfig) :
    List (Event CargoLiveObbFilter Observation) → Prop
  | [] => True
  | event :: older => (answer event).valid = true →
    RefreshedAt (event.call.stampSec - · ≤ (setConfig config).config.observationHoldSec)
      (event :: older)

variable {self : CargoLiveObbFilter} {observation : Observation} {config : CargoLiveObbConfig}
  {past : List (Event CargoLiveObbFilter Observation)}

@[simp]
theorem update_config : (self.update observation).config = self.config := by
  unfold update refreshed
  dsimp only
  split_ifs <;> exact enter_config

theorem update_held (idle : ¬Refreshes ⟨self, observation⟩)
    (valid : (self.update observation).result.valid = true) :
    self.result.valid = true ∧
      (self.update observation).lastValidStampSec = self.lastValidStampSec := by
  unfold update at valid ⊢
  dsimp only at valid ⊢
  split_ifs at valid ⊢ with settled ready recent
  · exact (idle ⟨settled, ready⟩).elim
  · exact enter_valid valid
  · exact enter_valid valid

theorem update_refreshed (refreshes : Refreshes ⟨self, observation⟩) :
    (self.update observation).lastValidStampSec = observation.stampSec := by
  unfold update
  simp only [if_pos refreshes.1, if_pos refreshes.2]
  rfl

theorem held_or_waits (idle : ¬Refreshes ⟨self, observation⟩)
    (valid : (self.update observation).result.valid = true) :
    observation.stampSec - self.lastValidStampSec ≤ self.config.observationHoldSec ∨
      Waits ⟨self, observation⟩ := by
  unfold update at valid
  dsimp only at valid
  split_ifs at valid with settled ready recent
  · exact (idle ⟨settled, ready⟩).elim
  · exact .inr ⟨settled, Bool.eq_false_iff.mpr ready⟩
  · simp only [Bool.and_eq_true, decide_eq_true_eq] at recent
    rw [(enter_valid recent.1.1).2, enter_config] at recent
    exact .inl recent.2

theorem waits_valid (waits : Waits ⟨self, observation⟩) :
    (self.update observation).result.valid = true := by
  obtain ⟨settled, waiting⟩ := waits
  unfold update
  rw [if_pos settled, if_neg (by simp [waiting])]
  unfold updateReady at waiting
  simp only [Bool.or_eq_false_iff, Bool.not_eq_false'] at waiting
  exact waiting.1.1.1

theorem RefreshedAt.both {one other : Scalar → Prop} (first : RefreshedAt one past)
    (second : RefreshedAt other past) :
    RefreshedAt (fun stamp => one stamp ∧ other stamp) past := by
  -- Both speak of the same call, since none refreshes after it.
  induction past with
  | nil => obtain ⟨newer, event, older, split, -⟩ := first; cases newer <;> cases split
  | cons event older ih =>
    rcases first.uncons with ⟨refreshes, holds⟩ | ⟨idle, earlier⟩
    · rcases second.uncons with ⟨-, holds'⟩ | ⟨idle, -⟩
      · exact .now ⟨refreshes, holds, holds'⟩ older
      · exact (idle refreshes).elim
    · rcases second.uncons with ⟨refreshes, -⟩ | ⟨-, earlier'⟩
      · exact (idle refreshes).elim
      · exact .later idle (ih earlier earlier')

theorem RefreshedAt.older {stamped : Scalar → Prop}
    {event : Event CargoLiveObbFilter Observation} (refreshed : RefreshedAt stamped (event :: past))
    (idle : ¬Refreshes event) : RefreshedAt stamped past :=
  refreshed.uncons.elim (fun now => absurd now.1 idle) And.right

theorem run_refreshed (config : CargoLiveObbConfig) (calls : List Observation) :
    ((machine config).run calls).config = (setConfig config).config ∧
      (((machine config).run calls).result.valid = true →
        RefreshedAt (· = ((machine config).run calls).lastValidStampSec)
          ((machine config).trace calls)) := by
  refine @Machine.run_invariant _ _ _ (machine config) (fun past self =>
    self.config = (setConfig config).config ∧
      (self.result.valid = true → RefreshedAt (· = self.lastValidStampSec) past)) ?_ ?_ calls
  · exact ⟨rfl, fun valid => nomatch valid⟩
  · rintro past self observation ⟨same, stamped⟩
    refine ⟨update_config.trans same, fun valid => ?_⟩
    change RefreshedAt (· = (self.update observation).lastValidStampSec) _
    by_cases refreshes : Refreshes ⟨self, observation⟩
    · exact .now ⟨refreshes, (update_refreshed refreshes).symm⟩ past
    · obtain ⟨before, kept⟩ := update_held refreshes valid
      rw [kept]
      exact .later refreshes (stamped before)

theorem holdLimited_iff {event : Event CargoLiveObbFilter Observation}
    (same : event.before.config = (setConfig config).config)
    (stamped : event.before.result.valid = true →
      RefreshedAt (· = event.before.lastValidStampSec) past)
    (finite : event.call.stampSec.isFinite = true) :
    HoldLimited config (event :: past) ↔ (Waits event →
      event.call.stampSec - event.before.lastValidStampSec ≤
        (setConfig config).config.observationHoldSec) := by
  by_cases refreshes : Refreshes event
  · -- A refresh answers with a box of its own stamp.
    refine ⟨fun _ waits => ?_, fun _ _ => .now ⟨refreshes, hold_nonneg finite⟩ past⟩
    exact absurd refreshes.2 (by simp [waits.2])
  · constructor
    · intro limited waits
      -- The last refresh is recent, and its stamp is the one that the filter keeps.
      have valid := waits_valid waits
      obtain ⟨-, last, -, -, ⟨-, short, equal⟩, -⟩ :=
        ((limited valid).older refreshes).both (stamped (update_held refreshes valid).1)
      rwa [equal] at short
    · intro short valid
      have recent := (held_or_waits refreshes valid).elim (same ▸ ·) short
      obtain ⟨newer, last, older, split, ⟨refreshed, equal⟩, idle⟩ :=
        stamped (update_held refreshes valid).1
      have inTime : event.call.stampSec - last.call.stampSec ≤
          (setConfig config).config.observationHoldSec := by rwa [equal]
      exact .later refreshes ⟨newer, last, older, split, ⟨refreshed, inTime⟩, idle⟩

/--
A box is always refreshed in time exactly if no call waits for frames beyond the hold time.

The hold time is looked at only where the window is not settled.
-/
theorem hold_limited_iff_never_waits_late (config : CargoLiveObbConfig)
    (calls : List Observation) (finite : ∀ call ∈ calls, call.stampSec.isFinite = true) :
    (∀ past, past <:+ (machine config).trace calls → HoldLimited config past) ↔
      ∀ event ∈ (machine config).trace calls, Waits event →
        event.call.stampSec - event.before.lastValidStampSec ≤
          (setConfig config).config.observationHoldSec := by
  -- Each call is one of the run, received by a filter that an earlier part of the run has left.
  have each : ∀ event past, event :: past <:+ (machine config).trace calls →
      (HoldLimited config (event :: past) ↔ (Waits event →
        event.call.stampSec - event.before.lastValidStampSec ≤
          (setConfig config).config.observationHoldSec)) := by
    rintro event past ⟨newer, split⟩
    obtain ⟨earlier, rfl, before⟩ := (machine config).trace_split split.symm
    obtain ⟨same, stamped⟩ := run_refreshed config earlier
    rw [← before] at same stamped
    have member : event ∈ (machine config).trace calls := by simp [← split]
    exact holdLimited_iff same stamped (finite _ ((machine config).call_mem_of_mem_trace member))
  constructor
  · intro limited event member
    obtain ⟨newer, older, split⟩ := List.append_of_mem member
    have suffix : event :: older <:+ (machine config).trace calls := ⟨newer, split.symm⟩
    exact (each event older suffix).mp (limited _ suffix)
  · intro short past suffix
    cases past with
    | nil => trivial
    | cons event older =>
      exact (each event older suffix).mpr (short event (suffix.subset List.mem_cons_self))

end Measured

@[reducible] def alongAxis : AxialMath where
  cos _ := 1
  sin _ := 0
  atan2 _ _ := 0
  hypot x _ := x

attribute [local instance] alongAxis
attribute [local semireducible] Rat.add Rat.sub Rat.mul Rat.inv Rat.ofScientific

def patientConfig : CargoLiveObbConfig where
  minimumValidFrames := 1
  shrinkValidFrames := 10
  observationHoldSec := 0.5

def sizedAt (length width stampSec : Scalar) : Observation where
  valid := true
  sizeLongShort := ⟨length, width⟩
  yawBaseRad := 0
  centerZ := 0
  heightM := 1
  stampSec := stampSec

theorem single_box_hold_limited :
    (∀ past, past <:+ (machine patientConfig).trace [sizedAt 4 2 0] →
        HoldLimited patientConfig past) ↔
      ∀ event ∈ (machine patientConfig).trace [sizedAt 4 2 0], Waits event →
        event.call.stampSec - event.before.lastValidStampSec ≤
          (setConfig patientConfig).config.observationHoldSec :=
  hold_limited_iff_never_waits_late patientConfig [sizedAt 4 2 0] (by decide)

/-- A box that shrinks is returned a second later, though it may be held for half a second. -/
theorem shrinking_box_held_too_long :
    ¬∀ (math : AxialMath) (config : CargoLiveObbConfig) (calls : List Observation),
      (∀ call ∈ calls, call.stampSec.isFinite = true) →
      calls.Pairwise (fun later earlier => earlier.stampSec ≤ later.stampSec) →
      ∀ past, past <:+ (@machine math config).trace calls → @HoldLimited math config past := by
  intro everywhere
  have limited := everywhere alongAxis patientConfig [sizedAt 2 1 1, sizedAt 4 2 0]
    (by decide) (by decide) _ List.suffix_rfl
  have waits : Waits ⟨(machine patientConfig).run [sizedAt 4 2 0], sizedAt 2 1 1⟩ :=
    ⟨by decide, by decide⟩
  have idle : ¬Refreshes ⟨(machine patientConfig).run [sizedAt 4 2 0], sizedAt 2 1 1⟩ :=
    fun refreshes => absurd refreshes.2 (by simp [waits.2])
  -- The last refresh was at the first stamp.
  obtain ⟨-, last, -, -, ⟨-, short, equal⟩, -⟩ :=
    ((limited (waits_valid waits)).older idle).both
      ((run_refreshed patientConfig [sizedAt 4 2 0]).2 (by decide))
  rw [equal] at short
  exact absurd short (by decide)

end CargoLiveObbFilter

end NdtSlam
