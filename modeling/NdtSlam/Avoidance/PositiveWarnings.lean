import NdtSlam.Avoidance.ClearSoundness

/-! Where a positive code of the avoidance fusion comes from, and when contact is warned of. -/

namespace NdtSlam.CargoAvoidanceFusion

section Sources

variable (input : CargoAvoidanceFusionInput) (config : CargoAvoidanceFusionConfig)

def sourceRisk : CargoAvoidanceHazardSource → CargoAvoidanceSourceRisk
  | .live => input.live
  | .staticMap => input.staticMap
  | .none => {}

structure LiveAuthorized : Prop where
  hazard : input.live.hazard = true
  available : input.live.available = true
  reliable : input.live.reliable = true
  resolved : input.liveObstacleOriginResolved = true
  history : input.liveNearFieldHistoryAuthorized = true
  noShell : input.anomalyReviewLive = false
  pending : formalCargo input = false → (authorizePendingWarning input config).1 = true

structure StaticAuthorized : Prop where
  hazard : input.staticMap.hazard = true
  available : input.staticMap.available = true
  reliable : input.staticMap.reliable = true
  manifest : input.staticSessionManifestValid = true
  hash : input.staticSessionHashValid = true
  uuid : input.staticSessionUuidValid = true
  contract : input.staticRiskContractValid = true
  authority : (authorizeStaticEvidence input.staticAuthority).officialStaticRiskAuthorized = true
  certified : input.staticMap.certifiedStaticProvenance = true
  confirmed : input.staticHazardTrackConfirmed = true
  proof : input.staticNearFieldHistoryAuthorized = true ∨ formalCargo input = true ∨
    (authorizePendingStaticWarning input config).1 = true
  pending : formalCargo input = false → (authorizePendingStaticWarning input config).1 = true

def SourceAuthorized : CargoAvoidanceHazardSource → Prop
  | .live => LiveAuthorized input config
  | .staticMap => StaticAuthorized input config
  | .none => False

def Outranks (other risk : CargoAvoidanceSourceRisk) : Prop :=
  (other.warningCode = near3m ∧ risk.warningCode ≠ near3m) ∨
    (other.warningCode = risk.warningCode ∧ other.distanceM < risk.distanceM)

structure SingleSource (result : CargoAvoidanceFusionResult)
    (source : CargoAvoidanceHazardSource) : Prop where
  authorized : SourceAuthorized input config source
  code : (sourceRisk input source).warningCode = result.officialCode
  finite : (sourceRisk input source).distanceM.isFinite = true
  positive : 0 < (sourceRisk input source).distanceM
  measured : (sourceRisk input source).clearanceM.isFinite = true
  low : (sourceRisk input source).clearanceM < minimumVerticalClearanceM
  record : result.authoritativeHazard
    = recordHazard source (sourceRisk input source) result.officialCode
  distance : result.distanceM = (sourceRisk input source).distanceM
  clearance : result.clearanceM = (sourceRisk input source).clearanceM
  worst : ∀ other, SourceAuthorized input config other →
    selectable (sourceRisk input other) = true →
    ¬Outranks (sourceRisk input other) (sourceRisk input source)

end Sources

section Selection

variable {live staticMap : CargoAvoidanceSourceRisk} {allowLive allowStatic : Bool}

theorem Outranks.asymm {other risk : CargoAvoidanceSourceRisk} (outranks : Outranks other risk) :
    ¬Outranks risk other := by
  rcases outranks with ⟨severe, mild⟩ | ⟨same, nearer⟩
  · rintro (⟨severe', -⟩ | ⟨same, -⟩)
    · exact mild severe'
    · exact mild (same.trans severe)
  · rintro (⟨severe, mild⟩ | ⟨-, nearer'⟩)
    · exact mild (same.trans severe)
    · exact Scalar.not_lt_of_le (Scalar.le_of_lt nearer) nearer'

theorem considerHazard_first {source : CargoAvoidanceHazardSource}
    {risk : CargoAvoidanceSourceRisk} :
    considerHazard {} source risk
      = if selectable risk then recordHazard source risk risk.warningCode else {} := by
  unfold considerHazard
  cases selectable risk with
  | true => rfl
  | false => rfl

theorem considerHazard_second {first second : CargoAvoidanceHazardSource}
    {risk other : CargoAvoidanceSourceRisk} (usable : selectable other = true) :
    (Outranks other risk → considerHazard (recordHazard first risk risk.warningCode) second other
        = recordHazard second other other.warningCode) ∧
      (¬Outranks other risk → considerHazard (recordHazard first risk risk.warningCode) second other
        = recordHazard first risk risk.warningCode) := by
  have decides : (!(recordHazard first risk risk.warningCode).valid ||
      (other.warningCode == near3m &&
        (recordHazard first risk risk.warningCode).warningCode != near3m) ||
      (other.warningCode == (recordHazard first risk risk.warningCode).warningCode &&
        decide (other.distanceM < (recordHazard first risk risk.warningCode).distanceM))) = true
      ↔ Outranks other risk := by
    simp only [Bool.or_eq_true, Bool.and_eq_true, decide_eq_true_eq]
    simp [recordHazard, Outranks]
  unfold considerHazard
  rw [if_neg (by simp [usable])]
  constructor
  · intro outranks
    rw [if_pos (decides.mpr outranks)]
  · intro weaker
    rw [if_neg (mt decides.mp weaker)]

theorem selectHazard_worst
    (valid : (selectHazard allowLive live allowStatic staticMap).valid = true) :
    (allowLive = true ∧ selectable live = true ∧
        selectHazard allowLive live allowStatic staticMap
          = recordHazard .live live live.warningCode ∧
        (allowStatic = true → selectable staticMap = true → ¬Outranks staticMap live)) ∨
      allowStatic = true ∧ selectable staticMap = true ∧
        selectHazard allowLive live allowStatic staticMap
          = recordHazard .staticMap staticMap staticMap.warningCode ∧
        (allowLive = true → selectable live = true → ¬Outranks live staticMap) := by
  by_cases first : allowLive = true ∧ selectable live = true
  · have taken : (if allowLive then considerHazard {} .live live else {})
        = recordHazard .live live live.warningCode := by
      rw [if_pos first.1, considerHazard_first, if_pos first.2]
    unfold selectHazard at valid ⊢
    simp only [taken] at valid ⊢
    by_cases second : allowStatic = true ∧ selectable staticMap = true
    · rw [if_pos second.1]
      obtain ⟨replaces, keeps⟩ := @considerHazard_second .live .staticMap live staticMap second.2
      by_cases outranks : Outranks staticMap live
      · exact .inr ⟨second.1, second.2, replaces outranks, fun _ _ => outranks.asymm⟩
      · exact .inl ⟨first.1, first.2, keeps outranks, fun _ _ => outranks⟩
    · -- The static source is not allowed or not usable.
      refine .inl ⟨first.1, first.2, ?_, fun allowed usable => absurd ⟨allowed, usable⟩ second⟩
      split
      · rename_i allowed
        unfold considerHazard
        rw [if_pos (by simpa using fun usable => second ⟨allowed, usable⟩)]
      · rfl
  · have missing : (if allowLive then considerHazard {} .live live else {}) = {} := by
      split
      · rename_i allowed
        rw [considerHazard_first, if_neg fun usable => first ⟨allowed, usable⟩]
      · rfl
    unfold selectHazard at valid ⊢
    simp only [missing] at valid ⊢
    cases allowStatic with
    | false => cases valid
    | true =>
      simp only [if_true] at valid ⊢
      rw [considerHazard_first] at valid ⊢
      by_cases usable : selectable staticMap = true
      · rw [if_pos usable]
        exact .inr ⟨trivial, usable, rfl, fun allowed ready => absurd ⟨allowed, ready⟩ first⟩
      · rw [if_neg usable] at valid
        cases valid

end Selection

section Authorization

variable {input : CargoAvoidanceFusionInput} {config : CargoAvoidanceFusionConfig}

theorem live_allowed_iff (usable : selectable input.live = true) :
    LiveAuthorized input config ↔ liveStandardRisk input = true ∧
      (formalCargo input = false → (authorizePendingWarning input config).1 = true) := by
  simp only [selectable, Bool.and_eq_true] at usable
  obtain ⟨⟨⟨⟨hazard, warns⟩, -⟩, -⟩, low⟩ := usable
  constructor
  · intro authorized
    refine ⟨?_, authorized.pending⟩
    simp [liveStandardRisk, riskLive, liveReliable, liveWarningWithoutHistory, hazard, warns, low,
      authorized.available, authorized.reliable, authorized.resolved, authorized.history,
      authorized.noShell]
  · rintro ⟨standard, pending⟩
    simp only [liveStandardRisk, liveWarningWithoutHistory, Bool.and_eq_true, Bool.not_eq_true',
      Bool.and_eq_false_iff, Bool.not_eq_false'] at standard
    obtain ⟨⟨risk, history⟩, noShell⟩ := standard
    have reliable := risk
    simp only [riskLive, liveReliable, Bool.and_eq_true] at reliable
    obtain ⟨⟨⟨⟨⟨available, reliable⟩, resolved⟩, -⟩, -⟩, -⟩ := reliable
    refine ⟨hazard, available, reliable, resolved, ?_, noShell, pending⟩
    simpa [risk, warns] using history

theorem static_allowed_iff (usable : selectable input.staticMap = true) :
    StaticAuthorized input config ↔ staticStandardRisk input config = true ∧
      (formalCargo input = false → (authorizePendingStaticWarning input config).1 = true) := by
  simp only [selectable, Bool.and_eq_true] at usable
  obtain ⟨⟨⟨⟨hazard, warns⟩, -⟩, -⟩, low⟩ := usable
  constructor
  · intro authorized
    refine ⟨?_, authorized.pending⟩
    have contract : staticRiskContract input = true := by
      simp [staticRiskContract, staticIdentityValid, authorized.manifest, authorized.hash,
        authorized.uuid, authorized.contract, authorized.authority]
    have risk : riskStatic input = true := by
      simp [riskStatic, staticHazardObserved, staticReliable, contract, hazard, warns, low,
        authorized.available, authorized.reliable, authorized.certified, authorized.confirmed]
    -- Where the history is missing, the certificate stands in for it.
    cases history : input.staticNearFieldHistoryAuthorized with
    | true => simp [staticStandardRisk, staticWarningWithoutHistory, risk, history]
    | false =>
      cases formal : formalCargo input with
      | true =>
        simp [staticStandardRisk, staticWarningIndependentlyProven, staticWarningWithoutHistory,
          risk, history, warns, formal, contract, authorized.certified, authorized.confirmed]
      | false =>
        simp [staticStandardRisk, staticWarningIndependentlyProven, staticWarningWithoutHistory,
          risk, history, warns, formal, authorized.certified, authorized.pending formal]
  · rintro ⟨standard, pending⟩
    simp only [staticStandardRisk, Bool.and_eq_true] at standard
    have risk := standard.1
    simp only [riskStatic, staticHazardObserved, staticReliable, staticRiskContract,
      staticIdentityValid, Bool.and_eq_true] at risk
    obtain ⟨⟨⟨⟨⟨⟨⟨⟨⟨⟨⟨manifest, hash⟩, uuid⟩, contract⟩, authority⟩, available⟩, reliable⟩,
      certified⟩, -⟩, -⟩, -⟩, confirmed⟩ := risk
    refine ⟨hazard, available, reliable, manifest, hash, uuid, contract, authority, certified,
      confirmed, ?_, pending⟩
    cases formal : formalCargo input with
    | true => exact .inr (.inl rfl)
    | false => exact .inr (.inr (pending formal))

end Authorization

section Positive

variable {input : CargoAvoidanceFusionInput} {config : CargoAvoidanceFusionConfig}
  {result : CargoAvoidanceFusionResult}

theorem singleSource_of_selected {allowLive allowStatic : Bool}
    (live : selectable input.live = true → (LiveAuthorized input config ↔ allowLive = true))
    (static : selectable input.staticMap = true →
      (StaticAuthorized input config ↔ allowStatic = true))
    (valid : (selectHazard allowLive input.live allowStatic input.staticMap).valid = true)
    (record : result.authoritativeHazard
      = selectHazard allowLive input.live allowStatic input.staticMap)
    (code : result.officialCode
      = (selectHazard allowLive input.live allowStatic input.staticMap).warningCode)
    (distance : result.distanceM
      = (selectHazard allowLive input.live allowStatic input.staticMap).distanceM)
    (clearance : result.clearanceM
      = (selectHazard allowLive input.live allowStatic input.staticMap).clearanceM) :
    ∃ source, SingleSource input config result source := by
  rcases selectHazard_worst valid with
    ⟨allowed, usable, same, worst⟩ | ⟨allowed, usable, same, worst⟩
  · rw [same] at record code distance clearance
    have metrics := usable
    simp only [selectable, lowClearance, Bool.and_eq_true, decide_eq_true_eq] at metrics
    obtain ⟨⟨⟨-, finite⟩, positive⟩, measured, low⟩ := metrics
    refine ⟨.live, (live usable).mpr allowed, code.symm, finite, positive, measured, low, ?_,
      distance, clearance, ?_⟩
    · rw [record, code]
      rfl
    · intro other authorized ready
      cases other with
      | none => exact authorized.elim
      | live => exact fun outranks => outranks.asymm outranks
      | staticMap => exact worst ((static ready).mp authorized) ready
  · rw [same] at record code distance clearance
    have metrics := usable
    simp only [selectable, lowClearance, Bool.and_eq_true, decide_eq_true_eq] at metrics
    obtain ⟨⟨⟨-, finite⟩, positive⟩, measured, low⟩ := metrics
    refine ⟨.staticMap, (static usable).mpr allowed, code.symm, finite, positive, measured, low,
      ?_, distance, clearance, ?_⟩
    · rw [record, code]
      rfl
    · intro other authorized ready
      cases other with
      | none => exact authorized.elim
      | live => exact worst ((live ready).mp authorized) ready
      | staticMap => exact fun outranks => outranks.asymm outranks

theorem reviewSelected_not_positive {hazard : AuthoritativeCargoHazard}
    (reviews : hazard.valid = true → hazard.warningCode = anomalyReview) :
    warningCode (reviewSelected hazard result).officialCode = false := by
  unfold reviewSelected
  dsimp only
  rw [applySelectedHazard_hazard]
  by_cases valid : hazard.valid = true
  · simp only [valid, Bool.not_true, Bool.false_eq_true, if_false]
    rw [(applySelectedHazard_valid valid).1, reviews valid]
    decide
  · simp only [valid, Bool.not_false, if_true]
    rfl

theorem formalStandardRisk_single (formal : formalCargo input = true)
    (positive : warningCode (formalStandardRisk input config result).officialCode = true) :
    ∃ source, SingleSource input config (formalStandardRisk input config result) source := by
  have whole : formalCargo input = false → False := fun pending =>
    absurd (formal.symm.trans pending) (by simp)
  by_cases valid : (selectHazard (liveStandardRisk input) input.live
      (staticStandardRisk input config) input.staticMap).valid = true
  · refine singleSource_of_selected (fun usable => ?_) (fun usable => ?_) valid ?_ ?_ ?_ ?_
    · rw [live_allowed_iff usable]
      exact and_iff_left fun pending => (whole pending).elim
    · rw [static_allowed_iff usable]
      exact and_iff_left fun pending => (whole pending).elim
    all_goals
      unfold formalStandardRisk
      simp [valid, applySelectedHazard]
  · unfold formalStandardRisk at positive
    simp only [applySelectedHazard_hazard, valid, Bool.not_false, if_true] at positive
    exact absurd positive (by decide)

theorem pendingStandardRisk_single (pending : formalCargo input = false)
    (quiet : warningCode result.officialCode = false)
    (positive : warningCode (pendingStandardRisk input config result).officialCode = true) :
    ∃ source, SingleSource input config (pendingStandardRisk input config result) source := by
  have liveRule : ∀ reason, (if liveStandardRisk input = true then
      authorizePendingWarning input config else (false, reason)).1
      = (liveStandardRisk input && (authorizePendingWarning input config).1) := by
    intro reason
    cases liveStandardRisk input with
    | true => simp
    | false => simp
  have staticRule : ∀ reason, (if staticStandardRisk input config = true then
      authorizePendingStaticWarning input config else (false, reason)).1
      = (staticStandardRisk input config && (authorizePendingStaticWarning input config).1) := by
    intro reason
    cases staticStandardRisk input config with
    | true => simp
    | false => simp
  by_cases present : (liveStandardRisk input && (authorizePendingWarning input config).1 ||
      staticStandardRisk input config && (authorizePendingStaticWarning input config).1) = true
  · by_cases valid : (selectHazard
        (liveStandardRisk input && (authorizePendingWarning input config).1) input.live
        (staticStandardRisk input config && (authorizePendingStaticWarning input config).1)
        input.staticMap).valid = true
    · refine singleSource_of_selected (fun usable => ?_) (fun usable => ?_) valid ?_ ?_ ?_ ?_
      · rw [live_allowed_iff usable, Bool.and_eq_true]
        exact and_congr_right fun _ => forall_prop_of_true pending
      · rw [static_allowed_iff usable, Bool.and_eq_true]
        exact and_congr_right fun _ => forall_prop_of_true pending
      all_goals
        unfold pendingStandardRisk
        simp only [liveRule, staticRule, present, if_true]
        unfold pendingAuthorized
        simp [valid, applySelectedHazard]
    · unfold pendingStandardRisk at positive
      simp only [liveRule, staticRule, present, if_true] at positive
      unfold pendingAuthorized at positive
      simp only [applySelectedHazard_hazard, valid, Bool.not_false, if_true] at positive
      exact absurd positive (by decide)
  · -- A risk that is refused leaves the code of the result as it was.
    unfold pendingStandardRisk at positive
    simp only [liveRule, staticRule, present] at positive
    exact absurd (quiet.symm.trans positive) (by simp)

theorem single_of_quiet (quiet : warningCode result.officialCode = false)
    (positive : warningCode result.officialCode = true) :
    ∃ source, SingleSource input config result source :=
  absurd (quiet.symm.trans positive) (by simp)

theorem fusePending_single (pending : formalCargo input = false)
    (positive : warningCode (fusePending input config).officialCode = true) :
    ∃ source, SingleSource input config (fusePending input config) source := by
  -- Only the standard risks end in a hazard code.
  unfold fusePending at positive ⊢
  dsimp only at positive ⊢
  split_ifs at positive ⊢
  · exact single_of_quiet rfl positive
  · exact single_of_quiet rfl positive
  · exact single_of_quiet rfl positive
  · exact single_of_quiet rfl positive
  · exact single_of_quiet rfl positive
  · exact pendingStandardRisk_single pending rfl positive
  · exact single_of_quiet (reviewSelected_not_positive selectReviewHazard_code) positive
  · exact single_of_quiet rfl positive

theorem fuseFormal_single (formal : formalCargo input = true)
    (positive : warningCode (fuseFormal input config).officialCode = true) :
    ∃ source, SingleSource input config (fuseFormal input config) source := by
  unfold fuseFormal at positive ⊢
  dsimp only at positive ⊢
  split_ifs at positive ⊢
  · exact formalStandardRisk_single formal positive
  · exact single_of_quiet (reviewSelected_not_positive selectReviewHazard_code) positive
  · exact single_of_quiet (reviewSelected_not_positive selectReviewHazard_code) positive
  · exact single_of_quiet rfl positive
  · exact single_of_quiet rfl positive
  · exact single_of_quiet rfl positive
  · exact single_of_quiet rfl positive
  · exact single_of_quiet rfl positive
  · exact single_of_quiet rfl positive

/-- A positive code is that of one authorized source, and no other one announces anything worse. -/
theorem positive_code_single_source (input : CargoAvoidanceFusionInput)
    (config : CargoAvoidanceFusionConfig)
    (positive : warningCode (fuseCargoAvoidanceRisk input config).officialCode = true) :
    (fuseCargoAvoidanceRisk input config).authoritativeHazard.valid = true ∧
      ∃ source, SingleSource input config (fuseCargoAvoidanceRisk input config) source := by
  have single : ∃ source,
      SingleSource input config (fuseCargoAvoidanceRisk input config) source := by
    unfold fuseCargoAvoidanceRisk at positive ⊢
    split_ifs at positive ⊢ with noLocalization early pending
    · exact single_of_quiet rfl positive
    · exact single_of_quiet rfl positive
    · exact fusePending_single (by simpa using pending) positive
    · exact fuseFormal_single (by simpa using pending) positive
  obtain ⟨source, single⟩ := single
  refine ⟨?_, source, single⟩
  rw [single.record]
  rfl

end Positive

/-! ### Contact -/

/-- A recognized cargo next to a live obstacle with a clearance that is too small. -/
structure ContactHazard (input : CargoAvoidanceFusionInput) : Prop where
  localization : input.localizationValid = true
  geometry : input.formalCargoGeometryValid = true
  bottom : input.formalCargoBottomValid = true
  available : input.live.available = true
  reliable : input.live.reliable = true
  resolved : input.liveObstacleOriginResolved = true
  history : input.liveNearFieldHistoryAuthorized = true
  noShell : input.anomalyReviewLive = false
  hazard : input.live.hazard = true
  code : input.live.warningCode = near3m
  touching : 0 ≤ input.live.distanceM
  near : input.live.distanceM ≤ 3
  measured : input.live.clearanceM.isFinite = true
  low : input.live.clearanceM < minimumVerticalClearanceM

structure StaticNear (input : CargoAvoidanceFusionInput) (config : CargoAvoidanceFusionConfig) :
    Prop where
  authorized : StaticAuthorized input config
  code : input.staticMap.warningCode = near3m
  finite : input.staticMap.distanceM.isFinite = true
  apart : 0 < input.staticMap.distanceM
  measured : input.staticMap.clearanceM.isFinite = true
  low : input.staticMap.clearanceM < minimumVerticalClearanceM

section Contact

variable {input : CargoAvoidanceFusionInput} {config : CargoAvoidanceFusionConfig}

theorem staticNear_iff (formal : formalCargo input = true) :
    StaticNear input config ↔ staticStandardRisk input config = true ∧
      selectable input.staticMap = true ∧ input.staticMap.warningCode = near3m := by
  have whole : formalCargo input = false → False := fun pending =>
    absurd (formal.symm.trans pending) (by simp)
  constructor
  · intro near
    have usable : selectable input.staticMap = true := by
      simp [selectable, lowClearance, warningCode, near.authorized.hazard, near.code, near.finite,
        near.apart, near.measured, near.low]
    exact ⟨((static_allowed_iff usable).mp near.authorized).1, usable, near.code⟩
  · rintro ⟨standard, usable, code⟩
    have metrics := usable
    simp only [selectable, lowClearance, Bool.and_eq_true, decide_eq_true_eq] at metrics
    obtain ⟨⟨⟨-, finite⟩, apart⟩, measured, low⟩ := metrics
    have authorized := (@static_allowed_iff input config usable).mpr
      ⟨standard, fun pending => (whole pending).elim⟩
    exact ⟨authorized, code, finite, apart, measured, low⟩

theorem ContactHazard.standard (contact : ContactHazard input) :
    formalCargo input = true ∧ liveStandardRisk input = true ∧
      fuseCargoAvoidanceRisk input config
        = formalStandardRisk input config (judged input config) := by
  have formal : formalCargo input = true := by simp [formalCargo, contact.geometry, contact.bottom]
  have risk : riskLive input = true := by
    simp [riskLive, liveReliable, lowClearance, warningCode, contact.available, contact.reliable,
      contact.resolved, contact.hazard, contact.code, contact.measured, contact.low]
  have standard : liveStandardRisk input = true := by
    simp [liveStandardRisk, liveWarningWithoutHistory, risk, contact.history, contact.noShell]
  refine ⟨formal, standard, ?_⟩
  -- Neither the localization nor a static track that waits for confirmation comes before.
  unfold fuseCargoAvoidanceRisk fuseFormal
  simp [contact.localization, risk, formal, standard]

theorem selectHazard_apart {allowStatic : Bool} (usable : selectable input.live = true)
    (code : input.live.warningCode = near3m) :
    (selectHazard true input.live allowStatic input.staticMap).valid = true ∧
      (selectHazard true input.live allowStatic input.staticMap).warningCode = near3m := by
  unfold selectHazard
  simp only [if_true]
  rw [considerHazard_first, if_pos usable]
  cases allowStatic with
  | false => exact ⟨rfl, code⟩
  | true =>
    simp only [if_true]
    by_cases ready : selectable input.staticMap = true
    · obtain ⟨replaces, keeps⟩ :=
        @considerHazard_second .live .staticMap input.live input.staticMap ready
      by_cases outranks : Outranks input.staticMap input.live
      · rw [replaces outranks]
        refine ⟨rfl, ?_⟩
        -- What outranks the highest code carries it.
        rcases outranks with ⟨severe, -⟩ | ⟨same, -⟩
        · exact severe
        · exact same.trans code
      · rw [keeps outranks]
        exact ⟨rfl, code⟩
    · unfold considerHazard
      rw [if_pos (by simpa using ready)]
      exact ⟨rfl, code⟩

theorem selectHazard_touching {allowStatic : Bool} (unusable : selectable input.live = false) :
    selectHazard true input.live allowStatic input.staticMap
      = if allowStatic = true ∧ selectable input.staticMap = true then
          recordHazard .staticMap input.staticMap input.staticMap.warningCode
        else {} := by
  have first : considerHazard {} .live input.live = {} := by
    rw [considerHazard_first, if_neg (by simp [unusable])]
  unfold selectHazard
  simp only [if_true, first]
  cases allowStatic with
  | false => simp
  | true => simp [considerHazard_first]

theorem formalStandardRisk_near_iff (live : liveStandardRisk input = true) :
    ((formalStandardRisk input config (judged input config)).officialCode = near3m ∧
        (formalStandardRisk input config (judged input config)).officialValid = true) ↔
      (selectHazard true input.live (staticStandardRisk input config) input.staticMap).valid
          = true ∧
        (selectHazard true input.live (staticStandardRisk input config)
          input.staticMap).warningCode = near3m := by
  unfold formalStandardRisk
  simp only [live, applySelectedHazard_hazard]
  by_cases valid : (selectHazard true input.live (staticStandardRisk input config)
      input.staticMap).valid = true
  · simp [valid, applySelectedHazard]
  · simp [valid, obstacleInvalid, near3m]

/-- When a contact is warned of. -/
theorem contact_warned_iff (input : CargoAvoidanceFusionInput)
    (config : CargoAvoidanceFusionConfig) (contact : ContactHazard input) :
    ((fuseCargoAvoidanceRisk input config).officialCode = near3m ∧
        (fuseCargoAvoidanceRisk input config).officialValid = true) ↔
      0 < input.live.distanceM ∨ StaticNear input config := by
  obtain ⟨formal, standard, same⟩ := @contact.standard _ config
  rw [same, formalStandardRisk_near_iff standard]
  have finite := @Scalar.isFinite_of_between _ 0 3 contact.touching contact.near
  by_cases apart : 0 < input.live.distanceM
  · have usable : selectable input.live = true := by
      simp [selectable, lowClearance, warningCode, contact.hazard, contact.code, finite, apart,
        contact.measured, contact.low]
    exact iff_of_true (selectHazard_apart usable contact.code) (.inl apart)
  · have unusable : selectable input.live = false := by simp [selectable, apart]
    rw [selectHazard_touching unusable, staticNear_iff formal]
    by_cases allowed : staticStandardRisk input config = true ∧ selectable input.staticMap = true
    · simp [allowed, apart, recordHazard]
    · rw [if_neg allowed]
      refine iff_of_false (fun impossible => absurd impossible.1 (by decide)) ?_
      rintro (positive | ⟨standard, usable, -⟩)
      · exact apart positive
      · exact allowed ⟨standard, usable⟩

end Contact

def contactAt (distanceM : Scalar) : CargoAvoidanceFusionInput :=
  { localizationValid := true, formalCargoGeometryValid := true, formalCargoBottomValid := true
    live := { available := true, reliable := true, hazard := true, warningCode := near3m
              distanceM := distanceM, clearanceM := 0.5, coverage := 1 } }

attribute [local semireducible] Rat.add Rat.sub Rat.mul Rat.inv Rat.ofScientific

theorem contact_warned_apart :
    (fuseCargoAvoidanceRisk (contactAt 1) {}).officialCode = near3m ∧
      (fuseCargoAvoidanceRisk (contactAt 1) {}).officialValid = true :=
  (contact_warned_iff (contactAt 1) {} ⟨rfl, rfl, rfl, rfl, rfl, rfl, rfl, rfl, rfl, rfl,
    by decide, by decide, by decide, by decide⟩).mpr
    (.inl (by decide))

theorem touching_obstacle_faulted :
    ¬∀ (input : CargoAvoidanceFusionInput) (config : CargoAvoidanceFusionConfig),
      ContactHazard input → (fuseCargoAvoidanceRisk input config).officialCode = near3m ∧
        (fuseCargoAvoidanceRisk input config).officialValid = true := by
  intro warned
  have contact : ContactHazard (contactAt 0) := ⟨rfl, rfl, rfl, rfl, rfl, rfl, rfl, rfl, rfl, rfl,
    by decide, by decide, by decide, by decide⟩
  exact absurd (warned (contactAt 0) {} contact).1 (by decide)

theorem positive_code_apart :
    ∃ source, SingleSource (contactAt 1) {} (fuseCargoAvoidanceRisk (contactAt 1) {}) source :=
  (positive_code_single_source (contactAt 1) {} (by decide)).2

end NdtSlam.CargoAvoidanceFusion
