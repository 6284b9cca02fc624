import NdtSlam.StaticEvidence.CellView

/-! Which cells the loader takes over, and how observations and confirmations keep them so. -/

namespace NdtSlam

open StaticObstacleEvidenceIndex

def OrderedHeights (minZ maxZ : Scalar) : Prop :=
  ∃ low high : ℚ, low ≤ high ∧ minZ = .fin low ∧ maxZ = .fin high

structure LoadableCell (config : StaticObstacleEvidenceConfig) (cell : StaticEvidenceCell) :
    Prop where
  firstSeen : cell.firstSeenSec.isFinite = true
  lastSeen : cell.lastSeenSec.isFinite = true
  duration : ∃ span : ℚ, 0 ≤ span ∧ cell.consecutiveStableDurationSec = .fin span
  heights : OrderedHeights cell.minZ cell.maxZ
  counted : cell.consecutiveObservationCount ≠ 0
  narrow : cell.consecutiveObservationCount ≤ 2 ^ 32 - 1
  total : cell.consecutiveObservationCount ≤ cell.totalObservationCount
  ordered : cell.firstObservationSequence ≤ cell.lastObservationSequence
  mature : cell.temporallyMature = true →
    config.minimumObservations ≤ cell.consecutiveObservationCount ∧
      ¬cell.consecutiveStableDurationSec + stampEpsilonSec < config.minimumStableDurationSec

variable {config : StaticObstacleEvidenceConfig} {cell : StaticEvidenceCell}

theorem orderedHeights_iff {minZ maxZ : Scalar} :
    OrderedHeights minZ maxZ ↔
      minZ.isFinite = true ∧ maxZ.isFinite = true ∧ ¬maxZ < minZ := by
  constructor
  · rintro ⟨low, high, inOrder, rfl, rfl⟩
    exact ⟨rfl, rfl, by simpa using inOrder⟩
  · rintro ⟨least, most, inOrder⟩
    obtain ⟨low, rfl⟩ := Scalar.isFinite_iff.1 least
    obtain ⟨high, rfl⟩ := Scalar.isFinite_iff.1 most
    exact ⟨low, high, by simpa using inOrder, rfl, rfl⟩

theorem nonnegative_iff {duration : Scalar} :
    (∃ span : ℚ, 0 ≤ span ∧ duration = .fin span) ↔
      duration.isFinite = true ∧ ¬duration < 0 := by
  have zero : (0 : Scalar) = .fin 0 := rfl
  constructor
  · rintro ⟨span, positive, rfl⟩
    rw [zero]
    exact ⟨rfl, by simpa using positive⟩
  · rintro ⟨finite, notNegative⟩
    obtain ⟨span, rfl⟩ := Scalar.isFinite_iff.1 finite
    rw [zero] at notNegative
    exact ⟨span, by simpa using notNegative, rfl⟩

theorem loadableCell_iff :
    LoadableCell config cell ↔
      cell.consecutiveObservationCount ≤ 2 ^ 32 - 1 ∧ rejectsCell config cell = false := by
  unfold rejectsCell
  simp only [Bool.or_eq_false_iff, Bool.not_eq_false', Bool.and_eq_false_imp, beq_eq_false_iff_ne,
    decide_eq_false_iff_not, Nat.not_lt, and_assoc]
  constructor
  · intro loadable
    obtain ⟨finiteDuration, notNegative⟩ := nonnegative_iff.1 loadable.duration
    obtain ⟨least, most, inOrder⟩ := orderedHeights_iff.1 loadable.heights
    exact ⟨loadable.narrow, loadable.firstSeen, loadable.lastSeen, finiteDuration, least, most,
      notNegative, inOrder, loadable.counted, loadable.total, loadable.ordered, loadable.mature⟩
  · rintro ⟨narrow, firstSeen, lastSeen, finiteDuration, least, most, notNegative, inOrder,
      counted, total, ordered, mature⟩
    exact
      { firstSeen, lastSeen, counted, narrow, total, ordered, mature
        duration := nonnegative_iff.2 ⟨finiteDuration, notNegative⟩
        heights := orderedHeights_iff.2 ⟨least, most, inOrder⟩ }

/-! ### Heights -/

variable {geometry : StaticEvidenceCellGeometry}

theorem OrderedHeights.widen {minZ maxZ : Scalar} (ordered : OrderedHeights minZ maxZ)
    (least : geometry.minZ ≠ .negInf) (most : geometry.maxZ ≠ .posInf) :
    OrderedHeights (minZ.minOf geometry.minZ) (maxZ.maxOf geometry.maxZ) := by
  obtain ⟨low, high, inOrder, rfl, rfl⟩ := ordered
  obtain ⟨lower, below, lowest⟩ := @Scalar.minOf_fin low _ least
  obtain ⟨higher, above, highest⟩ := @Scalar.maxOf_fin high _ most
  exact ⟨lower, higher, (below.trans inOrder).trans above, lowest, highest⟩

theorem orderedHeights_of_valid (valid : validHeights geometry = true) :
    OrderedHeights geometry.minZ geometry.maxZ := by
  unfold validHeights at valid
  simp only [Bool.and_eq_true, Bool.not_eq_true', decide_eq_false_iff_not] at valid
  exact orderedHeights_iff.2 ⟨valid.1.1, valid.1.2, valid.2⟩

/-! ### Maturity -/

theorem enough_mono {shorter longer : ℚ} (longerThan : shorter ≤ longer) {demand : Scalar}
    (enough : ¬Scalar.fin shorter + stampEpsilonSec < demand) :
    ¬Scalar.fin longer + stampEpsilonSec < demand := by
  obtain ⟨epsilon, isEpsilon⟩ : ∃ epsilon, stampEpsilonSec = .fin epsilon := ⟨_, rfl⟩
  rw [isEpsilon, Scalar.fin_add_fin] at enough ⊢
  intro short
  cases demand with
  | fin value =>
    apply enough
    rw [Scalar.fin_lt_fin] at short ⊢
    linarith
  | posInf => exact enough rfl
  | negInf => cases short
  | nan => cases short

theorem LoadableCell.ripen (loadable : LoadableCell config cell) (generation : Nat) :
    LoadableCell config (ripen config generation cell) := by
  unfold StaticObstacleEvidenceIndex.ripen
  split
  · rename_i ripens
    simp only [isTemporallyMature, Bool.and_eq_true, decide_eq_true_eq] at ripens
    obtain ⟨-, ⟨-, enoughSeen⟩, enoughTime⟩ := ripens
    exact { loadable with mature := fun _ => ⟨enoughSeen, Scalar.not_lt_of_le enoughTime⟩ }
  · exact loadable

/-! ### Observations -/

structure ResumedCell (config : StaticObstacleEvidenceConfig) (sequence : Nat)
    (cell : StaticEvidenceCell) : Prop where
  firstSeen : cell.firstSeenSec.isFinite = true
  duration : ∃ span : ℚ, 0 ≤ span ∧ cell.consecutiveStableDurationSec = .fin span
  heights : OrderedHeights cell.minZ cell.maxZ
  narrow : cell.consecutiveObservationCount ≤ 2 ^ 32 - 1
  total : cell.consecutiveObservationCount ≤ cell.totalObservationCount
  ordered : cell.firstObservationSequence ≤ sequence
  mature : cell.temporallyMature = true →
    config.minimumObservations ≤ cell.consecutiveObservationCount ∧
      ¬cell.consecutiveStableDurationSec + stampEpsilonSec < config.minimumStableDurationSec

theorem saturating_bounds (maximum counter : Nat) (positive : 0 < maximum) :
    counter ≤ saturating maximum counter ∧ saturating maximum counter ≠ 0 ∧
      (counter ≤ maximum → saturating maximum counter ≤ maximum) := by
  unfold saturating
  split <;> omega

theorem saturating_le {narrow wide low high : Nat} (narrower : narrow < wide)
    (below : low ≤ high) : saturating narrow low ≤ saturating wide high := by
  unfold saturating
  split <;> split <;> omega

variable {stampSec : Scalar} {sequence : Nat}

theorem ResumedCell.counted (resumed : ResumedCell config sequence cell)
    (finite : stampSec.isFinite = true) (generation objectsVersion : Nat) :
    LoadableCell config (countObservation cell sequence stampSec generation objectsVersion) := by
  have narrow := resumed.narrow
  obtain ⟨grows, positive, bounded⟩ :=
    saturating_bounds (2 ^ 32 - 1) cell.consecutiveObservationCount (by omega)
  have wider : saturating (2 ^ 32 - 1) cell.consecutiveObservationCount
      ≤ saturating (2 ^ 64 - 1) cell.totalObservationCount :=
    saturating_le (by omega) resumed.total
  exact
    { firstSeen := resumed.firstSeen, lastSeen := finite, duration := resumed.duration
      heights := resumed.heights, counted := positive, narrow := bounded narrow, total := wider
      ordered := resumed.ordered
      mature := fun mature => ⟨(resumed.mature mature).1.trans grows, (resumed.mature mature).2⟩ }

theorem continuation_cases (sequence : Nat) (stampSec : Scalar) :
    (continuation config sequence stampSec cell = .continuous →
      stampEpsilonSec < stampSec - cell.lastSeenSec) ∧
    (continuation config sequence stampSec cell = .timeGap → cell.temporallyMature = false) ∧
    (continuation config sequence stampSec cell = .sequenceGap → cell.temporallyMature = false) := by
  unfold continuation
  simp only
  split_ifs with continuous restarts repeated
  · simp only [Bool.and_eq_true, decide_eq_true_eq] at continuous
    simp [continuous.1.1.2]
  · simp only [Bool.and_eq_true, Bool.not_eq_true'] at restarts
    simp [restarts.2]
  · simp only [Bool.and_eq_true, Bool.not_eq_true'] at repeated
    simp [repeated.2]
  · simp

theorem LoadableCell.prolong (loadable : LoadableCell config cell)
    (began : cell.firstObservationSequence ≤ sequence) (finite : stampSec.isFinite = true)
    (later : stampEpsilonSec < stampSec - cell.lastSeenSec) :
    ResumedCell config sequence
      { cell with consecutiveStableDurationSec :=
          cell.consecutiveStableDurationSec + (stampSec - cell.lastSeenSec) } := by
  obtain ⟨span, positive, isSpan⟩ := loadable.duration
  obtain ⟨stamp, rfl⟩ := Scalar.isFinite_iff.1 finite
  obtain ⟨last, isLast⟩ := Scalar.isFinite_iff.1 loadable.lastSeen
  have mature := loadable.mature
  rw [isSpan] at mature
  rw [isSpan, isLast, Scalar.fin_sub_fin, Scalar.fin_add_fin]
  -- The stamp lies after the last observation, so the duration grows.
  have grows : 0 < stamp - last := by
    rw [isLast, Scalar.fin_sub_fin] at later
    have epsilon : stampEpsilonSec = .fin (1 / 10000) := by with_unfolding_all decide
    rw [epsilon, Scalar.fin_lt_fin] at later
    linarith
  exact
    { firstSeen := loadable.firstSeen, duration := ⟨_, by linarith, rfl⟩
      heights := loadable.heights, narrow := loadable.narrow, total := loadable.total
      ordered := began
      mature := fun isMature =>
        ⟨(mature isMature).1, enough_mono (by linarith) (mature isMature).2⟩ }

theorem LoadableCell.resume (loadable : LoadableCell config cell)
    (began : cell.firstObservationSequence ≤ sequence) (finite : stampSec.isFinite = true)
    (valid : validHeights geometry = true) :
    ResumedCell config sequence
      (resumeStreak (continuation config sequence stampSec cell) sequence stampSec geometry
        cell) := by
  obtain ⟨continuous, timeGap, sequenceGap⟩ := @continuation_cases config cell sequence stampSec
  have none : ∃ span : ℚ, 0 ≤ span ∧ (0 : Scalar) = .fin span := ⟨0, le_rfl, rfl⟩
  unfold resumeStreak
  cases kind : continuation config sequence stampSec cell with
  | continuous => exact loadable.prolong began finite (continuous kind)
  | timeGap =>
    have immature := timeGap kind
    exact
      { firstSeen := finite, duration := none, heights := orderedHeights_of_valid valid
        narrow := Nat.zero_le _, total := Nat.zero_le _, ordered := le_rfl
        mature := fun mature => absurd mature (by simp [immature]) }
  | sequenceGap =>
    have immature := sequenceGap kind
    exact
      { firstSeen := loadable.firstSeen, duration := none, heights := loadable.heights
        narrow := Nat.zero_le _, total := Nat.zero_le _, ordered := began
        mature := fun mature => absurd mature (by simp [immature]) }
  | paused =>
    exact
      { firstSeen := loadable.firstSeen, duration := loadable.duration
        heights := loadable.heights, narrow := loadable.narrow, total := loadable.total
        ordered := began, mature := loadable.mature }

structure SoundCell (config : StaticObstacleEvidenceConfig) (generation : Nat) (key : Int)
    (cell : StaticEvidenceCell) : Prop where
  key : cell.key = key
  generation : cell.mapGeneration = generation
  loadable : LoadableCell config cell

theorem resumeStreak_key (continuation : Continuation) (sequence : Nat) (stampSec : Scalar)
    (geometry : StaticEvidenceCellGeometry) :
    (resumeStreak continuation sequence stampSec geometry cell).key = cell.key := by
  cases continuation <;> rfl

variable {key : Int}

theorem sighted_sound {generation sequence : Nat} {build : CleanBuild}
    {known : Option StaticEvidenceCell}
    (finite : build.stampSec.isFinite = true) (own : build.mapGeneration = generation)
    (valid : validHeights geometry = true)
    (sound : ∀ cell, known = some cell →
      SoundCell config generation key cell ∧ cell.firstObservationSequence ≤ sequence) :
    SoundCell config generation key (sighted config sequence build key geometry known) := by
  cases known with
  | none =>
    have resumed : ResumedCell config sequence (firstSight key sequence build.stampSec geometry) :=
      { firstSeen := finite, duration := ⟨0, le_rfl, rfl⟩
        heights := orderedHeights_of_valid valid, narrow := Nat.zero_le _
        total := le_rfl, ordered := le_rfl, mature := fun mature => by cases mature }
    exact ⟨rfl, own, resumed.counted finite _ _⟩
  | some cell =>
    obtain ⟨sound, began⟩ := sound cell rfl
    have resumed := sound.loadable.resume began finite valid
    -- The known heights are widened by those of the build.
    obtain ⟨least, most, -⟩ := orderedHeights_iff.1 (orderedHeights_of_valid valid)
    have notLow : geometry.minZ ≠ .negInf := fun unbounded => by simp [unbounded] at least
    have notHigh : geometry.maxZ ≠ .posInf := fun unbounded => by simp [unbounded] at most
    refine ⟨?_, own, ResumedCell.counted ?_ finite _ _⟩
    · exact (resumeStreak_key _ _ _ _).trans sound.key
    · exact { resumed with heights := resumed.heights.widen notLow notHigh }

/-! ### Confirmations -/

theorem confirmedCell_sound {generation sequence : Nat} {invalidated : Option Nat}
    {clean : CleanMap} (sound : SoundCell config generation key cell)
    (least : geometry.minZ ≠ .negInf) (most : geometry.maxZ ≠ .posInf) :
    SoundCell config generation key
      (confirmed sequence invalidated clean key geometry (some cell)) :=
  ⟨sound.key, sound.generation,
    { firstSeen := sound.loadable.firstSeen, lastSeen := sound.loadable.lastSeen
      duration := sound.loadable.duration, heights := sound.loadable.heights.widen least most
      counted := sound.loadable.counted, narrow := sound.loadable.narrow
      total := sound.loadable.total, ordered := sound.loadable.ordered
      mature := sound.loadable.mature }⟩

theorem SoundCell.ripen {generation : Nat} (sound : SoundCell config generation key cell)
    (current : Nat) :
    SoundCell config generation key (StaticObstacleEvidenceIndex.ripen config current cell) := by
  refine ⟨?_, ?_, sound.loadable.ripen current⟩
  · unfold StaticObstacleEvidenceIndex.ripen
    split <;> exact sound.key
  · unfold StaticObstacleEvidenceIndex.ripen
    split <;> exact sound.generation

namespace CellView

def Sound (view : CellView) (key : Int) : Prop :=
  ∀ cell, view.cell = some cell → SoundCell view.config view.generation key cell

variable {view : CellView}

theorem Sound.digest {build : CleanBuild} (sound : view.Sound key)
    (finite : build.stampSec.isFinite = true) (own : build.mapGeneration = view.generation)
    (began : build.reportsOccupied key = true → ∀ cell, view.cell = some cell →
      cell.firstObservationSequence ≤ view.sequence) :
    (view.digest build key).Sound key := by
  -- A cell that is reported free is gone, and a gone cell can be sighted anew.
  have freed : (if build.reportsFree key then view.free else view).Sound key ∧
      (build.reportsOccupied key = true → ∀ cell,
        (if build.reportsFree key then view.free else view).cell = some cell →
        cell.firstObservationSequence ≤ view.sequence) := by
    split
    · exact ⟨fun cell gone => absurd gone (by simp [free]), fun _ cell gone =>
        absurd gone (by simp [free])⟩
    · exact ⟨sound, began⟩
  have sameContext : (if build.reportsFree key then view.free else view).config = view.config ∧
      (if build.reportsFree key then view.free else view).generation = view.generation ∧
      (if build.reportsFree key then view.free else view).sequence = view.sequence := by
    split <;> exact ⟨rfl, rfl, rfl⟩
  unfold CellView.digest occupy
  unfold CleanBuild.reportsOccupied at freed
  generalize (if build.reportsFree key then view.free else view) = after at freed sameContext
  obtain ⟨sameConfig, sameGeneration, sameSequence⟩ := sameContext
  split
  · rename_i geometry found
    split
    · rename_i counts
      intro cell sighted
      obtain rfl := Option.some.inj sighted
      have valid : validHeights geometry = true := by
        simp only [countsOccupied, Bool.and_eq_true] at counts
        exact counts.2
      refine SoundCell.ripen (sighted_sound finite (own.trans sameGeneration.symm) valid ?_) _
      intro cell known
      have earlier := freed.2 (by simp [found, counts]) cell known
      exact ⟨freed.1 cell known, sameSequence ▸ earlier⟩
    · exact freed.1
  · exact freed.1

theorem Sound.invalidateIn (sound : view.Sound key) (cells : CellKeySet) (version : Nat) :
    (view.invalidateIn cells version key).Sound key := by
  unfold CellView.invalidateIn
  split
  · intro cell gone
    exact absurd gone (by simp [invalidate])
  · exact sound

theorem Sound.confirmIn (sound : view.Sound key) {clean : CleanMap}
    (observed : ∀ geometry, clean.cleanCells[key]? = some geometry →
      blocksConfirmation view.freeTombstone view.invalidated clean key = false →
      view.cell.isSome = true ∧ geometry.minZ ≠ .negInf ∧ geometry.maxZ ≠ .posInf) :
    (view.confirmIn clean key).Sound key := by
  unfold CellView.confirmIn
  split
  · rename_i geometry given
    unfold confirm
    split
    · exact sound
    · rename_i admitted
      obtain ⟨present, least, most⟩ := observed geometry given (by simpa using admitted)
      obtain ⟨known, isKnown⟩ := Option.isSome_iff_exists.mp present
      intro cell result
      obtain rfl := Option.some.inj result
      rw [isKnown]
      exact (confirmedCell_sound (sound known isKnown) least most).ripen _
  · exact sound

end CellView

end NdtSlam
