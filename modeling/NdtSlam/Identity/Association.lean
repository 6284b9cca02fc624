import NdtSlam.Foundation.Reciprocal
import NdtSlam.Identity.History

/-! The association of the groups of a frame with the loads that are remembered. -/

namespace NdtSlam

inductive PairRejectReason where
  | none
  | gap
  | xyGate
  | zGate
  | extentGate
  deriving DecidableEq

structure AssociationPair where
  rejectReason : PairRejectReason
  cost : Scalar := .posInf

namespace AssociationPair

def feasible (pair : AssociationPair) : Bool := pair.rejectReason == .none

end AssociationPair

variable (group : CargoPhysicalGroupObservation)

def comparable : Bool :=
  !group.groupAmbiguous && finiteDescriptor group.descriptor

def comparedExtents (requiresPostUniqueZ : Bool) (descriptor : CargoPhysicalGroupDescriptor) :
    List Scalar :=
  [descriptor.robustXyExtent.x, descriptor.robustXyExtent.y] ++
    if requiresPostUniqueZ then [] else [descriptor.aggregateExtent.z]

def extentSteps (requiresPostUniqueZ : Bool) (current previous : CargoPhysicalGroupDescriptor) :
    List Scalar :=
  List.zipWith relativeStep (comparedExtents requiresPostUniqueZ current)
    (comparedExtents requiresPostUniqueZ previous)

variable (config : CargoPhysicalIdentityConfig)

def zLimit (elapsedSec : Scalar) (currentUncertaintyM previousUncertaintyM : Scalar) : Scalar :=
  config.maximumZSpeedMps * elapsedSec + config.zStepMarginM + currentUncertaintyM +
    previousUncertaintyM

def requiresPostUniqueZ : Bool :=
  group.descriptor.verticalMode == .continuityOnly

def withinGap (elapsedSec : Scalar) : Bool :=
  0 < elapsedSec && !(config.maximumObservationGapSec < elapsedSec)

section Pairs

variable [IdentityMath] (config : CargoPhysicalIdentityConfig)

def evaluatePair (group : CargoPhysicalGroupObservation) (history : History) : AssociationPair :=
  let current := group.descriptor
  let previous := history.track.lastDescriptor
  let elapsed := current.stampSec - history.track.lastStampSec
  if !withinGap config elapsed then { rejectReason := .gap }
  else
    let xy := (current.robustXyCenter - previous.robustXyCenter).norm
    let separation := Vec2.norm
      ⟨intervalSeparation current.robustX05 current.robustX95 previous.robustX05
          previous.robustX95,
        intervalSeparation current.robustY05 current.robustY95 previous.robustY05
          previous.robustY95⟩
    let anchored : Bool := xy ≤ config.maximumXyStepM
    let limit := zLimit config elapsed current.verticalUncertaintyM previous.verticalUncertaintyM
    let dz := (current.physicalVerticalZ - previous.physicalVerticalZ).abs
    let deferred := requiresPostUniqueZ group
    let extents := extentSteps deferred current previous
    let xyCost := (if anchored then xy else separation) / config.maximumXyStepM
    let zCost := if deferred then 0 else dz / .maxOf limit kEpsilon
    { rejectReason :=
        if !anchored && !hasPositiveAreaSupportOverlap current previous then .xyGate
        else if !deferred && limit < dz then .zGate
        else if !extents.all (· ≤ config.maximumSizeRelativeStep) then .extentGate
        else .none
      cost := xyCost + zCost + extents.foldl (· + ·) 0 }

variable (groups : List CargoPhysicalGroupObservation) (histories : List History)

def pairAt (groupIndex historyIndex : Nat) : Option AssociationPair :=
  match groups[groupIndex]?, histories[historyIndex]? with
  | some group, some history =>
    if comparable group then some (evaluatePair config group history) else none
  | _, _ => none

def feasiblePairs : List (Offer Scalar) :=
  groups.zipIdx.flatMap fun (group, row) =>
    if comparable group then
      histories.zipIdx.filterMap fun (history, column) =>
        let pair := evaluatePair config group history
        if pair.feasible then some { row, column, cost := pair.cost } else none
    else []

def exactMatch (groupIndex : Nat) : RowMatch :=
  reciprocalMatch .posInf (fun cost best => cost + kEpsilon < best)
    (fun cost best => cost ≤ best + config.ambiguityCostMargin)
    (feasiblePairs config groups histories) groupIndex

def hasExactFeasible (historyIndex : Nat) : Bool :=
  (feasiblePairs config groups histories).any fun offer => offer.column == historyIndex

def claimedByExact (historyIndex : Nat) : Bool :=
  (List.range groups.length).any fun groupIndex =>
    exactMatch config groups histories groupIndex == .matched historyIndex

end Pairs

def seedGroupIndex (groups : List CargoPhysicalGroupObservation) (frameGroupId : Nat) :
    Option Nat :=
  match groups.zipIdx.filter fun (group, _) => group.frameGroupId == frameGroupId with
  | [(_, index)] => some index
  | _ => none

structure LineageProposal where
  groupIndex : Nat
  historyIndex : Nat
  observation : CargoIdentitySupportLineageObservation

section Lineage

variable (config : CargoPhysicalIdentityConfig) (input : CargoPhysicalIdentityInput)
  (observation : CargoIdentitySupportLineageObservation)

def observationContractValid (group : CargoPhysicalGroupObservation) : Bool :=
  let observableEgoContract : Bool :=
    observation.motionObservabilityState == .egoMotionObservable &&
      observation.egoXyStepM.isFinite &&
      config.maximumXyStepM + kEpsilon < observation.egoXyStepM &&
      observation.mapStepM.isFinite && config.maximumXyStepM + kEpsilon < observation.mapStepM
  let loadedLowEgoContract : Bool :=
    observation.motionObservabilityState == .loadPresentUnobservable &&
      observation.egoXyStepM.isFinite &&
      observation.egoXyStepM ≤ config.maximumXyStepM + kEpsilon &&
      observation.mapStepM.isFinite && input.gravityLoaded
  let sourceAge := observation.sourceStampSec - observation.previousSourceStampSec
  decide (observation.currentComponentId ∈ group.memberComponentIds) &&
    1 ≤ observation.sourceFrameOffset && observation.sourceFrameOffset ≤ 3 &&
    observation.sourceAgeSec.isFinite && 0 < observation.sourceAgeSec &&
    observation.sourceAgeSec ≤ config.maximumObservationGapSec + kEpsilon &&
    (observation.sourceAgeSec - sourceAge).abs ≤ kEpsilon &&
    (observation.sourceStampSec - group.descriptor.stampSec).abs ≤ kEpsilon &&
    observation.robustXyCenter.allFinite && observation.robustXyExtent.allFinite &&
    observation.robustXyExtent.allPositive && observation.baseStepM.isFinite &&
    observation.baseStepM ≤ config.maximumXyStepM + kEpsilon &&
    (observableEgoContract || loadedLowEgoContract) && observation.extentStep.isFinite &&
    observation.extentStep ≤ config.maximumSizeRelativeStep + kEpsilon

def contractedGroup : Option (Nat × CargoPhysicalGroupObservation) :=
  if !observation.valid || observation.state != .matched then none
  else
    (seedGroupIndex input.groups observation.exactSeedFrameGroupId).bind fun index =>
      (input.groups[index]?).bind fun group =>
        if observationContractValid config input observation group then some (index, group)
        else none

def provenanceMatched (history : History) : Bool :=
  history.track.recentLineageProvenance.any fun snapshot =>
    !(kEpsilon < (snapshot.sourceStampSec - observation.previousSourceStampSec).abs) &&
      decide (observation.previousComponentId ∈ snapshot.componentIds)

def lineageVerticalGate (group : CargoPhysicalGroupObservation) (history : History) : Bool :=
  let current := group.descriptor
  let previous := history.track.lastDescriptor
  let elapsed := current.stampSec - history.track.lastStampSec
  let limit := zLimit config elapsed current.verticalUncertaintyM previous.verticalUncertaintyM
  requiresPostUniqueZ group ||
    (!(limit < (current.physicalVerticalZ - previous.physicalVerticalZ).abs) &&
      !(config.maximumSizeRelativeStep <
        relativeStep current.aggregateExtent.z previous.aggregateExtent.z))

variable [IdentityMath] (histories : List History)

def lineageExactPathWon (groupIndex : Nat) : Bool :=
  input.lineageObservations.any fun observation =>
    match contractedGroup config input observation with
    | none => false
    | some (index, _) => index == groupIndex &&
      match exactMatch config input.groups histories index with
      | .matched _ => true
      | _ => false

def lineageProposal (observation : CargoIdentitySupportLineageObservation) :
    Option LineageProposal :=
  (contractedGroup config input observation).bind fun (groupIndex, group) =>
    if exactMatch config input.groups histories groupIndex != .unmatched ||
        group.groupAmbiguous then none
    else
      match histories.zipIdx.filter fun (history, _) => provenanceMatched observation history with
      | [(history, historyIndex)] =>
        -- A load that a group may exactly belong to is not given away.
        if claimedByExact config input.groups histories historyIndex ||
            hasExactFeasible config input.groups histories historyIndex then none
        else
          match pairAt config input.groups histories groupIndex historyIndex with
          | none => none
          | some pair =>
            if pair.rejectReason != .xyGate && pair.rejectReason != .extentGate then none
            else if lineageVerticalGate config group history then
              some { groupIndex, historyIndex, observation }
            else none
      | _ => none

def lineageProposals : List LineageProposal :=
  input.lineageObservations.filterMap (lineageProposal config input histories)

def newestProposal (proposals : List LineageProposal) : Option LineageProposal :=
  proposals.foldl (fun newest proposal =>
    match newest with
    | none => some proposal
    | some best =>
      if proposal.observation.sourceFrameOffset < best.observation.sourceFrameOffset then
        some proposal
      else newest) none

def selectedLineage (groupIndex : Nat) : Option LineageProposal :=
  newestProposal ((lineageProposals config input histories).filter fun proposal =>
    proposal.groupIndex == groupIndex)

def proposalsCompete (groupIndex : Nat) (selected : LineageProposal) : Bool :=
  let own := (lineageProposals config input histories).filter fun proposal =>
    proposal.groupIndex == groupIndex
  own.any (fun proposal => proposal.historyIndex != (own.headD selected).historyIndex) ||
    decide (1 < (own.filter fun proposal =>
      proposal.observation.sourceFrameOffset == selected.observation.sourceFrameOffset).length)

def claimantCount (historyIndex : Nat) : Nat :=
  ((List.range input.groups.length).filter fun groupIndex =>
    match selectedLineage config input histories groupIndex with
    | some proposal => proposal.historyIndex == historyIndex
    | none => false).length

structure GroupAssociation where
  verdict : RowMatch
  lineage : Option CargoIdentitySupportLineageObservation := none

def rescuedMatch (groupIndex : Nat) : GroupAssociation :=
  match selectedLineage config input histories groupIndex with
  | none => { verdict := exactMatch config input.groups histories groupIndex }
  | some selected =>
    if proposalsCompete config input histories groupIndex selected ||
        decide (1 < claimantCount config input histories selected.historyIndex) then
      { verdict := .ambiguous }
    else { verdict := .matched selected.historyIndex, lineage := some selected.observation }

def postUniqueZGate (group : CargoPhysicalGroupObservation) (history : History) : Bool :=
  let current := group.descriptor
  let previous := history.track.lastDescriptor
  let supported := history.supported
  let frame := input.frameEvidence
  let supportedGap : Scalar :=
    if 0 < supported.lastSupportedEvidenceStampSec then
      current.stampSec - supported.lastSupportedEvidenceStampSec
    else .posInf
  let reacquired :=
    if supported.lastSupportedFootprint.valid && 0 < supportedGap &&
        supportedGap ≤ config.maximumObservationGapSec && rawCloudOf frame group then
      reacquireAssociationVertical frame supported.lastSupportedFootprint group.unionPointsBase
        input.verticalConfig supported.lastSupportedVerticalUncertaintyM []
    else {}
  if reacquired.valid && supported.lastSupportedVerticalZ.isFinite then
    -- The height is compared with the last one that was supported.
    !(zLimit config supportedGap reacquired.uncertaintyM
        supported.lastSupportedVerticalUncertaintyM <
      (reacquired.topZBase - supported.lastSupportedVerticalZ).abs)
  else
    !(zLimit config (current.stampSec - history.track.lastStampSec) current.verticalUncertaintyM
        previous.verticalUncertaintyM <
      (current.physicalVerticalZ - previous.physicalVerticalZ).abs)

def associate (groupIndex : Nat) : GroupAssociation :=
  let rescued := rescuedMatch config input histories groupIndex
  match rescued.verdict with
  | .matched historyIndex =>
    match input.groups[groupIndex]?, histories[historyIndex]? with
    | some group, some history =>
      if requiresPostUniqueZ group && !postUniqueZGate config input group history then
        { verdict := .unmatched }
      else rescued
    | _, _ => rescued
  | _ => rescued

section Uniqueness

variable {config : CargoPhysicalIdentityConfig} {input : CargoPhysicalIdentityInput}
  {histories : List History}

omit [IdentityMath] in
theorem newestProposal_mem {proposals : List LineageProposal} {selected : LineageProposal}
    (found : newestProposal proposals = some selected) : selected ∈ proposals := by
  -- The newest proposal was either there from the start or is one of those seen so far.
  have general : ∀ (proposals : List LineageProposal) (newest : Option LineageProposal),
      proposals.foldl (fun newest proposal =>
        match newest with
        | none => some proposal
        | some best =>
          if proposal.observation.sourceFrameOffset < best.observation.sourceFrameOffset then
            some proposal
          else newest) newest = some selected → newest = some selected ∨ selected ∈ proposals := by
    intro proposals
    induction proposals with
    | nil => exact fun newest reached => .inl reached
    | cons head rest ih =>
      intro newest reached
      rcases ih _ reached with earlier | member
      · cases newest with
        | none => exact .inr (Option.some.inj earlier ▸ List.mem_cons_self)
        | some best =>
          dsimp only at earlier
          split at earlier
          · exact .inr (Option.some.inj earlier ▸ List.mem_cons_self)
          · exact .inl earlier
      · exact .inr (List.mem_cons_of_mem _ member)
  rcases general proposals none found with absent | member
  · cases absent
  · exact member

theorem lineageProposal_unclaimed {observation : CargoIdentitySupportLineageObservation}
    {proposal : LineageProposal}
    (proposed : lineageProposal config input histories observation = some proposal) :
    claimedByExact config input.groups histories proposal.historyIndex = false ∧
      proposal.historyIndex < histories.length := by
  unfold lineageProposal at proposed
  obtain ⟨⟨groupIndex, group⟩, -, proposed⟩ := Option.bind_eq_some_iff.mp proposed
  dsimp only at proposed
  split at proposed
  · cases proposed
  -- Exactly one load has the provenance, and it is still free.
  · split at proposed
    · rename_i history historyIndex provenance
      split at proposed
      · cases proposed
      · rename_i free
        split at proposed
        · cases proposed
        · rename_i pair paired
          have unclaimed : claimedByExact config input.groups histories historyIndex = false := by
            simp only [Bool.or_eq_true, not_or, Bool.not_eq_true] at free
            exact free.1
          have known : historyIndex < histories.length := by
            have member := List.mem_of_mem_filter
              (provenance ▸ List.mem_singleton_self (history, historyIndex) :
                (history, historyIndex) ∈ histories.zipIdx.filter fun (history, _) =>
                  provenanceMatched observation history)
            exact List.snd_lt_of_mem_zipIdx member
          split at proposed
          · cases proposed
          · split at proposed
            · obtain rfl := Option.some.inj proposed
              exact ⟨unclaimed, known⟩
            · cases proposed
    · cases proposed

theorem selectedLineage_unclaimed {groupIndex : Nat} {selected : LineageProposal}
    (found : selectedLineage config input histories groupIndex = some selected) :
    claimedByExact config input.groups histories selected.historyIndex = false ∧
      selected.historyIndex < histories.length := by
  have member := List.mem_of_mem_filter (newestProposal_mem found)
  obtain ⟨observation, -, proposed⟩ := List.mem_filterMap.mp member
  exact lineageProposal_unclaimed proposed

variable {groupIndex historyIndex : Nat}

theorem associate_matched
    (found : (associate config input histories groupIndex).verdict = .matched historyIndex) :
    exactMatch config input.groups histories groupIndex = .matched historyIndex ∨
      ∃ selected, selectedLineage config input histories groupIndex = some selected ∧
        selected.historyIndex = historyIndex ∧
        claimantCount config input histories historyIndex ≤ 1 := by
  -- The gate of the height only takes matches away.
  have rescued : (rescuedMatch config input histories groupIndex).verdict =
      .matched historyIndex := by
    unfold associate at found
    cases verdict : (rescuedMatch config input histories groupIndex).verdict with
    | unmatched => simp [verdict] at found
    | ambiguous => simp [verdict] at found
    | matched index =>
      simp only [verdict] at found
      split at found
      · split at found
        · cases found
        · exact verdict ▸ found
      · exact verdict ▸ found
  unfold rescuedMatch at rescued
  cases chosen : selectedLineage config input histories groupIndex with
  | none => exact .inl (by simpa [chosen] using rescued)
  | some selected =>
    simp only [chosen] at rescued
    split at rescued
    · cases rescued
    · rename_i uncontested
      obtain rfl := RowMatch.matched.inj rescued
      refine .inr ⟨selected, rfl, rfl, ?_⟩
      simp only [Bool.or_eq_true, decide_eq_true_eq, not_or] at uncontested
      exact Nat.not_lt.mp uncontested.2

theorem associate_known
    (found : (associate config input histories groupIndex).verdict = .matched historyIndex) :
    historyIndex < histories.length := by
  rcases associate_matched found with exact | ⟨selected, chosen, rfl, -⟩
  · obtain ⟨offer, member, -, rfl⟩ := offered_of_reciprocalMatch exact
    unfold feasiblePairs at member
    -- Every offer was made by comparing a group with a load.
    obtain ⟨⟨group, row⟩, -, offered⟩ := List.mem_flatMap.mp member
    dsimp only at offered
    split at offered
    · obtain ⟨⟨history, column⟩, compared, made⟩ := List.mem_filterMap.mp offered
      dsimp only at made
      split at made
      · obtain rfl := Option.some.inj made
        exact List.snd_lt_of_mem_zipIdx compared
      · cases made
    · cases offered
  · exact (selectedLineage_unclaimed chosen).2

theorem claimedByExact_of_exactMatch (known : groupIndex < input.groups.length)
    (exact : exactMatch config input.groups histories groupIndex = .matched historyIndex) :
    claimedByExact config input.groups histories historyIndex = true :=
  List.any_eq_true.mpr ⟨groupIndex, List.mem_range.mpr known, by simp [exact]⟩

theorem claimantCount_two {first second : Nat} {one other : LineageProposal}
    (firstKnown : first < input.groups.length) (secondKnown : second < input.groups.length)
    (different : first ≠ second)
    (firstSelects : selectedLineage config input histories first = some one)
    (secondSelects : selectedLineage config input histories second = some other)
    (same : one.historyIndex = other.historyIndex) :
    1 < claimantCount config input histories one.historyIndex := by
  -- Two different elements of a list of distinct indices make it longer than one.
  have distinct : [first, second].Nodup := by simp [different]
  have contained : [first, second] ⊆ (List.range input.groups.length).filter fun groupIndex =>
      match selectedLineage config input histories groupIndex with
      | some proposal => proposal.historyIndex == one.historyIndex
      | none => false := by
    intro index member
    rcases List.mem_cons.mp member with rfl | member
    · exact List.mem_filter.mpr ⟨List.mem_range.mpr firstKnown, by simp [firstSelects]⟩
    · obtain rfl := List.mem_singleton.mp member
      exact List.mem_filter.mpr ⟨List.mem_range.mpr secondKnown, by simp [secondSelects, same]⟩
  exact (List.subperm_of_subset distinct contained).length_le

theorem associate_injective {first second historyIndex : Nat}
    (firstKnown : first < input.groups.length) (secondKnown : second < input.groups.length)
    (firstMatched : (associate config input histories first).verdict = .matched historyIndex)
    (secondMatched : (associate config input histories second).verdict = .matched historyIndex) :
    first = second := by
  by_contra different
  -- Exact matches are reciprocal, and a lineage neither takes over nor shares a load.
  rcases associate_matched firstMatched with exact | ⟨one, firstSelects, rfl, sole⟩
  · rcases associate_matched secondMatched with also | ⟨other, secondSelects, rfl, -⟩
    · exact different (reciprocalMatch_injective exact also)
    · have claimed := claimedByExact_of_exactMatch firstKnown exact
      rw [(selectedLineage_unclaimed secondSelects).1] at claimed
      cases claimed
  · rcases associate_matched secondMatched with exact | ⟨other, secondSelects, same, -⟩
    · have claimed := claimedByExact_of_exactMatch secondKnown exact
      rw [(selectedLineage_unclaimed firstSelects).1] at claimed
      cases claimed
    · have shared := claimantCount_two firstKnown secondKnown different firstSelects secondSelects
        same.symm
      omega

end Uniqueness

end Lineage

end NdtSlam
