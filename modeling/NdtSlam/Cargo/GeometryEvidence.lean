import NdtSlam.Cargo.GeometryFusion

/-! What a frame must show in order to count as evidence for a formal geometry. -/

namespace NdtSlam

variable {config : CargoGeometryFusionConfig} {frame : CargoGeometryFrame}

def CargoGeometryFrame.SourcesAgree (config : CargoGeometryFusionConfig)
    (frame : CargoGeometryFrame) : Prop :=
  ∃ first ∈ frame.thickness, ∃ second ∈ frame.thickness,
    first.usable config = true ∧ second.usable config = true ∧ first.source ≠ second.source ∧
      first.constraint = .fullMeasurement ∧ second.constraint = .fullMeasurement ∧
      (first.heightM - second.heightM).abs ≤ config.maximumSourceDisagreementM

structure WeightedHeight.ReadOff (config : CargoGeometryFusionConfig) (frame : CargoGeometryFrame)
    (height : WeightedHeight) (observation : CargoThicknessObservation) : Prop where
  member : observation ∈ frame.thickness
  usable : observation.usable config = true
  same : height = weightedHeight observation

theorem heaviest_readOff {selects : CargoThicknessObservation → Bool} {height : WeightedHeight}
    (usable : ∀ observation, selects observation = true → observation.usable config = true)
    (found : (heaviest (frame.thickness.filter selects)).map weightedHeight = some height) :
    ∃ observation, height.ReadOff config frame observation ∧ selects observation = true := by
  obtain ⟨observation, foremost, rfl⟩ := Option.map_eq_some_iff.mp found
  obtain ⟨member, selected⟩ := List.mem_filter.mp (foremost_mem foremost)
  exact ⟨observation, ⟨member, usable observation selected, rfl⟩, selected⟩

theorem bestBySource_readOff {source : CargoThicknessSource} {height : WeightedHeight}
    (found : bestBySource config frame source = some height) :
    ∃ observation, height.ReadOff config frame observation ∧ observation.source = source := by
  obtain ⟨observation, readOff, selected⟩ := @heaviest_readOff config frame _ height
    (fun observation selected => (Bool.and_eq_true_iff.mp selected).1) found
  exact ⟨observation, readOff, by simpa using (Bool.and_eq_true_iff.mp selected).2⟩

theorem sourcesAgree_of_consistent {lhs rhs : Option WeightedHeight}
    (selectsFirst selectsSecond : CargoThicknessSource → Prop)
    (first : ∀ height, lhs = some height → ∃ observation,
      height.ReadOff config frame observation ∧ selectsFirst observation.source)
    (second : ∀ height, rhs = some height → ∃ observation,
      height.ReadOff config frame observation ∧ selectsSecond observation.source)
    (different : ∀ source, selectsFirst source → ¬selectsSecond source)
    (fullFirst : isFull lhs = true) (fullSecond : isFull rhs = true)
    (consistent : mutuallyConsistent config lhs rhs = true) : frame.SourcesAgree config := by
  cases lhs with
  | none => cases fullFirst
  | some heightFirst =>
    cases rhs with
    | none => cases fullSecond
    | some heightSecond =>
      obtain ⟨one, ⟨memberFirst, usableFirst, rfl⟩, sourceFirst⟩ := first _ rfl
      obtain ⟨other, ⟨memberSecond, usableSecond, rfl⟩, sourceSecond⟩ := second _ rfl
      refine ⟨one, memberFirst, other, memberSecond, usableFirst, usableSecond, ?_, ?_, ?_, ?_⟩
      · intro same
        exact different _ sourceFirst (same ▸ sourceSecond)
      · simpa [isFull, weightedHeight] using fullFirst
      · simpa [isFull, weightedHeight] using fullSecond
      · exact of_decide_eq_true consistent

structure ThicknessReading.ReadOff (config : CargoGeometryFusionConfig)
    (frame : CargoGeometryFrame) (reading : ThicknessReading) : Prop where
  staticOrigin : ∀ height, reading.staticOrigin = some height → ∃ observation,
    height.ReadOff config frame observation ∧ observation.source = .staticOriginTopSupport
  revealed : ∀ height, reading.revealed = some height → ∃ observation,
    height.ReadOff config frame observation ∧ observation.source = .mapDiffRevealedSupport
  live : ∀ height, reading.live = some height → ∃ observation,
    height.ReadOff config frame observation ∧ observation.source = .liveVisibleExtent

theorem confirmationReading_readOff : (confirmationReading config frame).ReadOff config frame where
  staticOrigin := fun _ found => bestBySource_readOff found
  revealed := fun _ found => bestBySource_readOff found
  live := fun _ found => bestBySource_readOff found

theorem promotionReading_readOff : (promotionReading config frame).ReadOff config frame where
  staticOrigin := fun _ found => bestBySource_readOff found
  revealed := fun _ found => bestBySource_readOff found
  live := by
    intro height found
    obtain ⟨observation, readOff, selected⟩ := @heaviest_readOff config frame _ height
      (fun observation selected => by
        simp only [Bool.and_eq_true] at selected
        exact selected.1.1) found
    simp only [Bool.and_eq_true, beq_iff_eq] at selected
    exact ⟨observation, readOff, selected.1.2⟩

namespace ThicknessReading

variable {reading : ThicknessReading}

theorem ReadOff.bestStatic (readOff : reading.ReadOff config frame) :
    ∀ height, reading.bestStatic = some height → ∃ observation,
      height.ReadOff config frame observation ∧ observation.source ≠ .liveVisibleExtent := by
  intro height found
  unfold ThicknessReading.bestStatic at found
  -- A revealed support is preferred to the original one.
  split at found
  · rename_i revealed present
    obtain rfl := Option.some.inj found
    obtain ⟨observation, readFrom, source⟩ := readOff.revealed _ present
    exact ⟨observation, readFrom, by simp [source]⟩
  · obtain ⟨observation, readFrom, source⟩ := readOff.staticOrigin _ found
    exact ⟨observation, readFrom, by simp [source]⟩

theorem ReadOff.agree (readOff : reading.ReadOff config frame)
    (formal : (reading.staticRevealedFormal config || reading.staticLiveFormal config) = true) :
    frame.SourcesAgree config := by
  rcases Bool.or_eq_true_iff.mp formal with formal | formal
  · simp only [staticRevealedFormal, Bool.and_eq_true] at formal
    refine sourcesAgree_of_consistent (· = .staticOriginTopSupport) (· = .mapDiffRevealedSupport)
      readOff.staticOrigin readOff.revealed ?_ formal.1.1 formal.1.2 formal.2
    intro source origin revealed
    cases origin.symm.trans revealed
  · simp only [staticLiveFormal, Bool.and_eq_true] at formal
    exact sourcesAgree_of_consistent (· ≠ .liveVisibleExtent) (· = .liveVisibleExtent)
      readOff.bestStatic readOff.live (fun source support live => support live) formal.1.1
      formal.1.2 formal.2

theorem formalPair_nil
    (neither : (reading.staticRevealedFormal config || reading.staticLiveFormal config) = false) :
    reading.formalPair config = [] := by
  simp only [Bool.or_eq_false_iff] at neither
  simp [formalPair, neither.1, neither.2]

end ThicknessReading

theorem hasFormalPair_agree (formal : hasFormalPair config frame = true) :
    frame.formalTrackLocked = true ∧ frame.SourcesAgree config := by
  obtain ⟨locked, pair⟩ := Bool.and_eq_true_iff.mp formal
  exact ⟨locked, confirmationReading_readOff.agree pair⟩

namespace CargoGeometryFusion

variable [GeometryMath] (config : CargoGeometryFusionConfig)

def formalEvidence (frame : CargoGeometryFrame) : Bool :=
  frame.placed && hasFormalPair config frame && fusionAccepted config frame

def entersThickness (frame : CargoGeometryFrame) : Bool :=
  frame.placed && (hasFormalPair config frame ||
    (confirmationReading config frame).positiveOnlyCandidate config frame) &&
    fusionAccepted config frame

def thicknessEntry (formal : Bool) (frame : CargoGeometryFrame) : Scalar :=
  if entersThickness config frame && hasFormalPair config frame == formal then
    (fuseThickness config frame).height
  else .nan

variable {config}

theorem thicknessEntry_isFinite :
    (thicknessEntry config true frame).isFinite = formalEvidence config frame := by
  unfold thicknessEntry entersThickness formalEvidence
  cases pair : hasFormalPair config frame with
  | false => simp
  | true =>
    cases placed : frame.placed with
    | false => simp
    | true =>
      cases accepted : fusionAccepted config frame with
      | false => simp
      | true =>
        have finite : (fuseThickness config frame).height.isFinite = true := by
          simp only [fusionAccepted, Bool.and_eq_true] at accepted
          exact accepted.1.1
        simp [finite]

theorem promotionConsistent_agree
    (consistent : promotionConsistent config frame = true) :
    frame.formalTrackLocked = true ∧ frame.SourcesAgree config ∧
      validDimensionEvidence frame config config.minimumLiveShapeConfidenceForShrink = true := by
  unfold promotionConsistent at consistent
  simp only [Bool.and_eq_true] at consistent
  obtain ⟨⟨⟨⟨locked, -⟩, -⟩, complete⟩, fused⟩ := consistent
  refine ⟨locked, ?_, complete⟩
  -- The fusion of anything but two thicknesses is not valid.
  cases pair : ((promotionReading config frame).staticRevealedFormal config ||
      (promotionReading config frame).staticLiveFormal config) with
  | true => exact promotionReading_readOff.agree pair
  | false =>
    rw [ThicknessReading.formalPair_nil pair] at fused
    cases fused

end CargoGeometryFusion
end NdtSlam
