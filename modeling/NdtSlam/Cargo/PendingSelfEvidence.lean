import NdtSlam.Avoidance.FusionInput
import NdtSlam.Obstacle.Perception
import NdtSlam.Registration.CargoExclusion

/-! Which points near a load that is still being measured may pass for the load itself. -/

namespace NdtSlam

inductive PendingPointClass where
  | outsideQuery
  | identitySelf
  | externalShell
  | unresolvedInsidePending
  deriving DecidableEq

structure PendingCargoSelfEvidenceConfig where
  minimumIdentityConfidence : Scalar := 0.55
  minimumShapeConfidence : Scalar := 0.55
  pointMatchRadiusM : Scalar := 0.10
  maximumCandidateAgeSec : Scalar := 0.50
  maximumRetiredAgeSec : Scalar := 8.0

structure PendingCargoSelfEvidenceInput where
  stampSec : Scalar := 0
  source : PendingCargoEnvelopeSource := .none
  cargoLifecycleId : Nat := 0
  trackSegmentId : Nat := 0
  provisionalTrackId : Nat := 0
  candidateTrackId : Nat := 0
  candidateCurrent : Bool := false
  identityConfidence : Scalar := 0
  shapeConfidence : Scalar := 0
  activeTrackLocked : Bool := false
  activeTrackId : Nat := 0
  retiredTrackWasLocked : Bool := false
  retiredCargoLifecycleId : Nat := 0
  retiredFormalObbAuthorized : Bool := false
  tightIdentityObb : CargoObbFootprint := {}
  identityPointsBase : List Vec3 := []
  evidenceStampSec : Scalar := 0

structure PendingCargoSelfEvidence where
  valid : Bool := false
  positiveWarningIdentityAuthorized : Bool := false
  source : PendingCargoEnvelopeSource := .none
  cargoLifecycleId : Nat := 0
  trackSegmentId : Nat := 0
  tightIdentityObb : CargoObbFootprint := {}
  identityPointsBase : List Vec3 := []
  authorityConfidence : Scalar := 0
  pointMatchRadiusM : Scalar := 0.10
  evidenceStampSec : Scalar := 0
  formalObbOnlyAuthorized : Bool := false
  reason : String := "unavailable"

structure PendingCargoEnvelope where
  valid : Bool := false
  centerBase : Vec3 := {}
  lengthM : Scalar := 0
  widthM : Scalar := 0
  yawBaseRad : Scalar := 0
  bottomZBase : Scalar := .nan
  topZBase : Scalar := .nan
  horizontalUncertaintyM : Scalar := 0
  verticalUncertaintyM : Scalar := 0

def toCargoObbFootprint (envelope : PendingCargoEnvelope)
    (horizontalExpansionM verticalExpansionM : Scalar) : CargoObbFootprint where
  valid := envelope.valid && (horizontalExpansionM.isFinite && 0 ≤ horizontalExpansionM &&
    verticalExpansionM.isFinite && 0 ≤ verticalExpansionM)
  centerBase := envelope.centerBase.head2
  lengthM := envelope.lengthM + 2 * horizontalExpansionM
  widthM := envelope.widthM + 2 * horizontalExpansionM
  yawBaseRad := envelope.yawBaseRad
  minZ := envelope.bottomZBase - verticalExpansionM
  maxZ := envelope.topZBase + verticalExpansionM

namespace PendingCargoSelfEvidence

def validConfig (config : PendingCargoSelfEvidenceConfig) : Bool :=
  config.minimumIdentityConfidence.isFinite && 0 ≤ config.minimumIdentityConfidence &&
    config.minimumIdentityConfidence ≤ 1 && config.minimumShapeConfidence.isFinite &&
    0 ≤ config.minimumShapeConfidence && config.minimumShapeConfidence ≤ 1 &&
    config.pointMatchRadiusM.isFinite && 0 < config.pointMatchRadiusM &&
    config.maximumCandidateAgeSec.isFinite && 0 ≤ config.maximumCandidateAgeSec &&
    config.maximumRetiredAgeSec.isFinite && 0 ≤ config.maximumRetiredAgeSec

def effectiveConfig (requested : PendingCargoSelfEvidenceConfig) :
    PendingCargoSelfEvidenceConfig :=
  if validConfig requested then requested else {}

def validFootprint (footprint : CargoObbFootprint) : Bool :=
  footprint.valid && footprint.centerBase.allFinite && footprint.lengthM.isFinite &&
    0 < footprint.lengthM && footprint.widthM.isFinite && 0 < footprint.widthM &&
    footprint.yawBaseRad.isFinite && footprint.minZ.isFinite && footprint.maxZ.isFinite &&
    footprint.minZ < footprint.maxZ

section Build

variable (input : PendingCargoSelfEvidenceInput) (config : PendingCargoSelfEvidenceConfig)

def breaksContract : Bool :=
  !input.stampSec.isFinite || input.stampSec ≤ 0 || !input.evidenceStampSec.isFinite ||
    input.evidenceStampSec ≤ 0 || input.stampSec + 1.0e-4 < input.evidenceStampSec ||
    input.cargoLifecycleId == 0 || !validFootprint input.tightIdentityObb

def candidateRefused : Bool :=
  !input.candidateCurrent || input.candidateTrackId == 0 ||
    input.candidateTrackId != input.provisionalTrackId ||
    input.identityConfidence < config.minimumIdentityConfidence ||
    input.shapeConfidence < config.minimumShapeConfidence || input.identityPointsBase.isEmpty ||
    config.maximumCandidateAgeSec < input.stampSec - input.evidenceStampSec

def activeRefused : Bool :=
  !input.activeTrackLocked || input.activeTrackId == 0 ||
    input.activeTrackId != input.trackSegmentId || input.identityPointsBase.isEmpty ||
    config.maximumRetiredAgeSec < input.stampSec - input.evidenceStampSec

def retiredRefused : Bool :=
  !input.retiredTrackWasLocked || input.retiredCargoLifecycleId != input.cargoLifecycleId ||
    config.maximumRetiredAgeSec < input.stampSec - input.evidenceStampSec ||
    input.identityPointsBase.isEmpty && !input.retiredFormalObbAuthorized

def retainPoints (authorized : PendingCargoSelfEvidence) : PendingCargoSelfEvidence :=
  let result := { authorized with
    tightIdentityObb := input.tightIdentityObb
    identityPointsBase := input.identityPointsBase.filter (·.allFinite) }
  if result.identityPointsBase.isEmpty && !result.formalObbOnlyAuthorized then
    { result with reason := "no_finite_identity_points" }
  else { result with
    positiveWarningIdentityAuthorized := !result.identityPointsBase.isEmpty
    valid := true
    reason := if result.formalObbOnlyAuthorized then "retired_formal_obb_identity"
      else "identity_points_authorized" }

def buildPendingCargoSelfEvidence (requested : PendingCargoSelfEvidenceConfig) :
    PendingCargoSelfEvidence :=
  let config := effectiveConfig requested
  let result : PendingCargoSelfEvidence :=
    { source := input.source, cargoLifecycleId := input.cargoLifecycleId,
      trackSegmentId := input.trackSegmentId, pointMatchRadiusM := config.pointMatchRadiusM,
      evidenceStampSec := input.evidenceStampSec }
  if breaksContract input then { result with reason := "invalid_identity_contract" }
  else match input.source with
    | .currentCandidate =>
      if candidateRefused input config then
        { result with reason := "candidate_identity_not_authorized" }
      else retainPoints input { result with
        authorityConfidence := .minOf input.identityConfidence input.shapeConfidence
        positiveWarningIdentityAuthorized := true }
    | .activeLockedTrack =>
      if activeRefused input config then
        { result with reason := "active_locked_identity_not_authorized" }
      else retainPoints input { result with
        authorityConfidence := 1, positiveWarningIdentityAuthorized := true }
    | .retiredFormalShape =>
      if retiredRefused input config then
        { result with reason := "retired_identity_not_authorized" }
      else retainPoints input { result with
        formalObbOnlyAuthorized :=
          input.identityPointsBase.isEmpty && input.retiredFormalObbAuthorized
        authorityConfidence := 1 }
    | _ => { result with reason := "envelope_source_cannot_mask_live_points" }

end Build

def AuthorityBacked (evidence : PendingCargoSelfEvidence) : Prop :=
  evidence.positiveWarningIdentityAuthorized = true →
    evidence.valid = true ∧ ∃ point ∈ evidence.identityPointsBase, point.allFinite = true

def authorizedAtOnce (input : PendingCargoSelfEvidenceInput)
    (config : PendingCargoSelfEvidenceConfig) : Bool :=
  !breaksContract input &&
    (input.source = .currentCandidate && !candidateRefused input config ||
      input.source = .activeLockedTrack && !activeRefused input config)

theorem retainPoints_backed {input : PendingCargoSelfEvidenceInput}
    {authorized : PendingCargoSelfEvidence} :
    AuthorityBacked (retainPoints input authorized) ↔
      (authorized.positiveWarningIdentityAuthorized = true →
        authorized.formalObbOnlyAuthorized = false →
          ∃ point ∈ input.identityPointsBase, point.allFinite = true) := by
  have kept : (input.identityPointsBase.filter (·.allFinite)).isEmpty = false ↔
      ∃ point ∈ input.identityPointsBase, point.allFinite = true := by
    simp [List.isEmpty_eq_false_iff, List.filter_eq_nil_iff]
  unfold retainPoints AuthorityBacked
  cases empty : (input.identityPointsBase.filter (·.allFinite)).isEmpty with
  | false =>
    obtain ⟨point, member, finite⟩ := kept.mp empty
    have inside : ∃ point ∈ input.identityPointsBase.filter (·.allFinite),
        point.allFinite = true := ⟨point, List.mem_filter.mpr ⟨member, finite⟩, finite⟩
    simp only [Bool.false_and, Bool.false_eq_true, if_false, empty]
    exact ⟨fun _ _ _ => ⟨point, member, finite⟩, fun _ _ => ⟨trivial, inside⟩⟩
  | true =>
    have none : ¬∃ point ∈ input.identityPointsBase, point.allFinite = true := fun some => by
      rw [kept.mpr some] at empty
      cases empty
    have gone : input.identityPointsBase.filter (·.allFinite) = [] := List.isEmpty_iff.mp empty
    cases formal : authorized.formalObbOnlyAuthorized with
    | true => simp [gone]
    | false => simp [gone, none]

theorem build_backed_iff {input : PendingCargoSelfEvidenceInput}
    {requested : PendingCargoSelfEvidenceConfig} :
    AuthorityBacked (buildPendingCargoSelfEvidence input requested) ↔
      (authorizedAtOnce input (effectiveConfig requested) = true →
        ∃ point ∈ input.identityPointsBase, point.allFinite = true) := by
  unfold buildPendingCargoSelfEvidence authorizedAtOnce
  dsimp only
  cases breaksContract input with
  | true => simp [AuthorityBacked]
  | false =>
    rw [if_neg (by decide)]
    cases input.source with
    | currentCandidate =>
      cases candidateRefused input (effectiveConfig requested) with
      | true => simp [AuthorityBacked]
      | false => simp [retainPoints_backed]
    | activeLockedTrack =>
      cases activeRefused input (effectiveConfig requested) with
      | true => simp [AuthorityBacked]
      | false => simp [retainPoints_backed]
    | retiredFormalShape =>
      cases retiredRefused input (effectiveConfig requested) with
      | true => simp [AuthorityBacked]
      | false => simp [retainPoints_backed]
    | none => simp [AuthorityBacked]
    | liftOriginCandidate => simp [AuthorityBacked]
    | configuredConservative => simp [AuthorityBacked]

/-! ### The points -/

/-- The functions of the standard library that distances are made of. -/
class SelfEvidenceMath extends CircularFunctions, EuclideanNorm where
  squareRoot : Scalar → Scalar

/-- What the standard library promises of these functions. -/
structure SelfEvidenceLaws [SelfEvidenceMath] : Prop where
  squareRoot_nan : SelfEvidenceMath.squareRoot .nan = .nan
  squareRoot_posInf : SelfEvidenceMath.squareRoot .posInf = .posInf
  planar_nan : ∀ a : Vec2, a.x = .nan ∨ a.y = .nan → ∀ bound : ℚ, ¬a.norm ≤ .fin bound
  planar_le : ∀ a b : Vec2, 0 ≤ a.x → 0 ≤ a.y → a.x ≤ b.x → a.y ≤ b.y → a.norm ≤ b.norm

structure PendingPointClassification where
  classification : PendingPointClass := .outsideQuery
  envelopeDistanceM : Scalar := .posInf
  identityDistanceM : Scalar := .posInf

def squaredDistance (a b : Vec3) : Scalar :=
  let away := a - b
  away.x * away.x + away.y * away.y + away.z * away.z

section Classify

variable [SelfEvidenceMath] (pointBase : Vec3) (envelope : PendingCargoEnvelope)
  (selfEvidence : PendingCargoSelfEvidence) (queryShellM : Scalar)

def inflated : CargoObbFootprint :=
  toCargoObbFootprint envelope envelope.horizontalUncertaintyM envelope.verticalUncertaintyM

def envelopeDistance : Scalar := pointToCargoObbDistance2D pointBase.head2 (inflated envelope)

def inVerticalQuery : Bool :=
  (inflated envelope).minZ - queryShellM ≤ pointBase.z &&
    pointBase.z ≤ (inflated envelope).maxZ + queryShellM

def unanswerable : Bool :=
  !pointBase.allFinite || !envelope.valid || !queryShellM.isFinite || queryShellM < 0

def leftOut : Bool :=
  unanswerable pointBase envelope queryShellM ||
    (!inVerticalQuery pointBase envelope queryShellM ||
      queryShellM < envelopeDistance pointBase envelope)

def inTightBox : Bool :=
  selfEvidence.valid && containsPointInCargoObbBase pointBase selfEvidence.tightIdentityObb 0 0

def identityDistance : Scalar :=
  SelfEvidenceMath.squareRoot (selfEvidence.identityPointsBase.foldl
    (fun nearest identity => .minOf nearest (squaredDistance pointBase identity)) .posInf)

def verticalIdentityGuardM : Scalar :=
  if selfEvidence.valid then selfEvidence.pointMatchRadiusM else 0

def inGuardColumn : Bool :=
  envelopeDistance pointBase envelope ≤ 1.0e-4 &&
    (inflated envelope).minZ - verticalIdentityGuardM selfEvidence ≤ pointBase.z &&
    pointBase.z ≤ (inflated envelope).maxZ + verticalIdentityGuardM selfEvidence

def classifyPendingCargoPoint : PendingPointClassification :=
  if unanswerable pointBase envelope queryShellM then {}
  else
    let result : PendingPointClassification :=
      { envelopeDistanceM := envelopeDistance pointBase envelope }
    if !inVerticalQuery pointBase envelope queryShellM ||
        queryShellM < result.envelopeDistanceM then result
    else if inTightBox pointBase selfEvidence && selfEvidence.formalObbOnlyAuthorized then
      { result with identityDistanceM := 0, classification := .unresolvedInsidePending }
    else
      let result := if inTightBox pointBase selfEvidence then
        { result with identityDistanceM := identityDistance pointBase selfEvidence } else result
      if inTightBox pointBase selfEvidence &&
          result.identityDistanceM ≤ selfEvidence.pointMatchRadiusM then
        { result with classification := .identitySelf }
      else if inGuardColumn pointBase envelope selfEvidence then
        { result with classification := .unresolvedInsidePending }
      else if containsPointInCargoObbBase pointBase (inflated envelope) 0 0 then
        { result with classification := .unresolvedInsidePending }
      else { result with classification := .externalShell }

structure ClassifiedSoundly : Prop where
  self : (classifyPendingCargoPoint pointBase envelope selfEvidence queryShellM).classification =
      .identitySelf → inTightBox pointBase selfEvidence = true ∧
    ∃ identity ∈ selfEvidence.identityPointsBase, SelfEvidenceMath.squareRoot
      (squaredDistance pointBase identity) ≤ selfEvidence.pointMatchRadiusM
  external :
    (classifyPendingCargoPoint pointBase envelope selfEvidence queryShellM).classification =
      .externalShell → (inVerticalQuery pointBase envelope queryShellM = true ∧
        envelopeDistance pointBase envelope ≤ queryShellM) ∧
      containsPointInCargoObbBase pointBase (inflated envelope) 0 0 = false ∧
      inGuardColumn pointBase envelope selfEvidence = false
  widened : ∀ horizontal vertical, envelope.horizontalUncertaintyM ≤ horizontal →
    envelope.verticalUncertaintyM ≤ vertical →
    (classifyPendingCargoPoint pointBase envelope selfEvidence queryShellM).classification =
      .unresolvedInsidePending →
    (classifyPendingCargoPoint pointBase
      { envelope with
        horizontalUncertaintyM := horizontal
        verticalUncertaintyM := vertical } selfEvidence queryShellM).classification ≠
      .externalShell

structure DistancesCompare : Prop where
  matched : leftOut pointBase envelope queryShellM = false →
    inTightBox pointBase selfEvidence = true → selfEvidence.formalObbOnlyAuthorized = false →
    selfEvidence.pointMatchRadiusM = .posInf →
      ∃ identity ∈ selfEvidence.identityPointsBase, squaredDistance pointBase identity ≠ .nan
  placed : leftOut pointBase envelope queryShellM = false →
    envelopeDistance pointBase envelope = .nan →
      containsPointInCargoObbBase pointBase (inflated envelope) 0 0 = true ∨
      inTightBox pointBase selfEvidence = true ∧
        (selfEvidence.formalObbOnlyAuthorized = true ∨
          identityDistance pointBase selfEvidence ≤ selfEvidence.pointMatchRadiusM)

variable {pointBase envelope selfEvidence queryShellM}

theorem classification_eq :
    (classifyPendingCargoPoint pointBase envelope selfEvidence queryShellM).classification =
      if leftOut pointBase envelope queryShellM then .outsideQuery
      else if inTightBox pointBase selfEvidence && selfEvidence.formalObbOnlyAuthorized then
        .unresolvedInsidePending
      else if inTightBox pointBase selfEvidence &&
          identityDistance pointBase selfEvidence ≤ selfEvidence.pointMatchRadiusM then
        .identitySelf
      else if inGuardColumn pointBase envelope selfEvidence ||
          containsPointInCargoObbBase pointBase (inflated envelope) 0 0 then
        .unresolvedInsidePending
      else .externalShell := by
  unfold classifyPendingCargoPoint leftOut
  cases unanswerable pointBase envelope queryShellM with
  | true => rfl
  | false =>
    cases inTightBox pointBase selfEvidence with
    | false =>
      simp only [Bool.false_and, Bool.false_eq_true, if_false, Bool.false_or]
      split_ifs <;> simp_all
    | true =>
      simp only [Bool.true_and, if_true, Bool.false_or, Bool.false_eq_true, if_false]
      split_ifs <;> simp_all

omit [SelfEvidenceMath] in
theorem least_cases {points : List Vec3} {start : Scalar} :
    let least := points.foldl
      (fun nearest identity => .minOf nearest (squaredDistance pointBase identity)) start
    (least = start ∧ ∀ identity ∈ points, ¬squaredDistance pointBase identity < start) ∨
      ∃ identity ∈ points, least = squaredDistance pointBase identity ∧
        squaredDistance pointBase identity ≠ .nan := by
  induction points generalizing start with
  | nil => exact .inl ⟨rfl, by simp⟩
  | cons head rest ih =>
    rw [List.foldl_cons]
    unfold Scalar.minOf at ih ⊢
    split_ifs with nearer
    · rcases ih with ⟨least, -⟩ | ⟨identity, member, least⟩
      · refine .inr ⟨head, by simp, least, fun lost => ?_⟩
        rw [lost] at nearer
        cases nearer
      · exact .inr ⟨identity, by simp [member], least⟩
    · rcases ih with ⟨least, none⟩ | ⟨identity, member, least⟩
      · exact .inl ⟨least, List.forall_mem_cons.mpr ⟨nearer, none⟩⟩
      · exact .inr ⟨identity, by simp [member], least⟩

theorem self_iff (laws : SelfEvidenceLaws) :
    (identityDistance pointBase selfEvidence ≤ selfEvidence.pointMatchRadiusM →
      ∃ identity ∈ selfEvidence.identityPointsBase, SelfEvidenceMath.squareRoot
        (squaredDistance pointBase identity) ≤ selfEvidence.pointMatchRadiusM) ↔
    (selfEvidence.pointMatchRadiusM = .posInf →
      ∃ identity ∈ selfEvidence.identityPointsBase,
        squaredDistance pointBase identity ≠ .nan) := by
  unfold identityDistance
  rcases @least_cases pointBase selfEvidence.identityPointsBase .posInf with
    ⟨least, none⟩ | ⟨identity, member, least, number⟩
  · rw [least, laws.squareRoot_posInf]
    constructor
    · intro found endless
      rw [endless] at found
      obtain ⟨identity, member, near⟩ := found rfl
      refine ⟨identity, member, fun lost => ?_⟩
      rw [lost, laws.squareRoot_nan] at near
      cases near
    · intro known near
      have endless : selfEvidence.pointMatchRadiusM = .posInf := by
        cases radius : selfEvidence.pointMatchRadiusM with
        | posInf => rfl
        | nan | negInf | fin => rw [radius] at near; cases near
      obtain ⟨identity, member, number⟩ := known endless
      refine ⟨identity, member, ?_⟩
      -- What is no nearer than infinity is infinitely far.
      have far : squaredDistance pointBase identity = .posInf := by
        have notNearer := none identity member
        cases distance : squaredDistance pointBase identity with
        | posInf => rfl
        | nan => exact absurd distance number
        | negInf | fin => rw [distance] at notNearer; exact absurd rfl notNearer
      rw [far, laws.squareRoot_posInf]
      exact near
  · rw [least]
    exact ⟨fun _ _ => ⟨identity, member, number⟩, fun _ near => ⟨identity, member, near⟩⟩

end Classify

/-! ### A wider envelope -/

structure Widens (inner wider : CargoObbFootprint) : Prop where
  valid : inner.valid = true → wider.valid = true
  center : wider.centerBase = inner.centerBase
  yaw : wider.yawBaseRad = inner.yawBaseRad
  sides : ∃ more : ℚ, 0 ≤ more ∧ wider.lengthM = inner.lengthM + .fin more ∧
    wider.widthM = inner.widthM + .fin more
  heights : ∃ more : ℚ, 0 ≤ more ∧ wider.minZ = inner.minZ - .fin more ∧
    wider.maxZ = inner.maxZ + .fin more

theorem add_fin_not_le {extent : Scalar} {more : ℚ} (nonnegative : 0 ≤ more)
    (long : ¬extent ≤ 0) : ¬extent + .fin more ≤ 0 := by
  cases extent with
  | fin extent =>
    change ¬Scalar.fin extent ≤ .fin 0 at long
    change ¬Scalar.fin (extent + more) ≤ .fin 0
    rw [Scalar.fin_le_fin] at long ⊢
    linarith
  | nan | posInf => exact fun short => by cases short
  | negInf => exact absurd rfl long

attribute [local semireducible] Rat.add Rat.sub Rat.mul Rat.inv Rat.ofScientific

theorem beyond_le {coordinate extent : Scalar} {more : ℚ} (nonnegative : 0 ≤ more)
    (long : ¬extent ≤ 0) :
    Scalar.maxOf (coordinate - 0.5 * extent) 0 = .nan ∨
      0 ≤ Scalar.maxOf (coordinate - 0.5 * (extent + .fin more)) 0 ∧
      Scalar.maxOf (coordinate - 0.5 * (extent + .fin more)) 0 ≤
        Scalar.maxOf (coordinate - 0.5 * extent) 0 := by
  have half : (0.5 : Scalar) = .fin (1 / 2) := by
    show Scalar.fin _ = _
    norm_num
  have zero : (0 : Scalar) = .fin 0 := rfl
  rw [half]
  rw [zero] at long ⊢
  cases extent with
  | nan => exact .inl (by cases coordinate <;> rfl)
  | fin extent =>
    show _ ∨ _ ≤ Scalar.maxOf (coordinate - .fin (1 / 2 * (extent + more))) _ ∧
      Scalar.maxOf (coordinate - .fin (1 / 2 * (extent + more))) _ ≤
        Scalar.maxOf (coordinate - .fin (1 / 2 * extent)) _
    cases coordinate with
    | nan => exact .inl rfl
    | negInf | posInf => exact .inr ⟨rfl, rfl⟩
    | fin coordinate =>
      simp only [Scalar.fin_sub_fin, Scalar.maxOf_fin_fin, Scalar.fin_le_fin]
      exact .inr ⟨le_max_right _ _, max_le_max (by linarith) le_rfl⟩
  | posInf =>
    have endless : (.fin (1 / 2) : Scalar) * .posInf = .posInf := by decide
    show Scalar.maxOf (coordinate - .fin (1 / 2) * .posInf) _ = _ ∨
      _ ≤ Scalar.maxOf (coordinate - .fin (1 / 2) * .posInf) _ ∧
        Scalar.maxOf (coordinate - .fin (1 / 2) * .posInf) _ ≤ _
    rw [endless]
    cases coordinate with
    | nan | posInf => exact .inl rfl
    | negInf | fin => exact .inr ⟨rfl, rfl⟩
  | negInf => exact absurd rfl long

theorem guard_le {height guard : Scalar} {more : ℚ} (nonnegative : 0 ≤ more) :
    (height - guard = .nan ∨ height - .fin more - guard ≤ height - guard) ∧
      (height + guard = .nan ∨ height + guard ≤ height + .fin more + guard) := by
  cases height with
  | fin height =>
    cases guard with
    | fin guard =>
      simp only [Scalar.fin_sub_fin, Scalar.fin_add_fin, Scalar.fin_le_fin]
      exact ⟨.inr (by linarith), .inr (by linarith)⟩
    | nan => exact ⟨.inl rfl, .inl rfl⟩
    | negInf | posInf => exact ⟨.inr rfl, .inr rfl⟩
  | nan => exact ⟨.inl (by cases guard <;> rfl), .inl (by cases guard <;> rfl)⟩
  | negInf | posInf =>
    cases guard with
    | nan => exact ⟨.inl rfl, .inl rfl⟩
    | fin => exact ⟨.inr rfl, .inr rfl⟩
    | negInf => first | exact ⟨.inl rfl, .inr rfl⟩ | exact ⟨.inr rfl, .inl rfl⟩
    | posInf => first | exact ⟨.inl rfl, .inr rfl⟩ | exact ⟨.inr rfl, .inl rfl⟩

section Wider

variable [SelfEvidenceMath] {inner wider : CargoObbFootprint}

theorem Widens.distance_le (laws : SelfEvidenceLaws) (widens : Widens inner wider) {point : Vec2}
    {bound : ℚ} (near : pointToCargoObbDistance2D point inner ≤ .fin bound) :
    pointToCargoObbDistance2D point wider ≤ .fin bound := by
  obtain ⟨more, nonnegative, length, width⟩ := widens.sides
  unfold pointToCargoObbDistance2D at near ⊢
  split_ifs at near with unusable
  · cases near
  · simp only [Bool.or_eq_true, Bool.not_eq_true', decide_eq_true_eq, not_or,
      Bool.not_eq_false] at unusable
    obtain ⟨⟨⟨⟨⟨finite, valid⟩, center⟩, long⟩, broad⟩, yaw⟩ := unusable
    have usable : ¬(!point.allFinite || !wider.valid || !wider.centerBase.allFinite ||
        wider.lengthM ≤ 0 || wider.widthM ≤ 0 || !wider.yawBaseRad.isFinite) = true := by
      rw [widens.center, widens.yaw, length, width]
      simp [finite, widens.valid valid, center, yaw, add_fin_not_le nonnegative long,
        add_fin_not_le nonnegative broad]
    rw [if_neg usable, widens.center, widens.yaw, length, width]
    -- A length that cannot be measured would not have been near.
    rcases beyond_le nonnegative long with lost | ⟨positive, less⟩
    · exact absurd near (laws.planar_nan _ (.inl lost) bound)
    rcases beyond_le nonnegative broad with lost | ⟨positive', less'⟩
    · exact absurd near (laws.planar_nan _ (.inr lost) bound)
    exact Scalar.le_trans (laws.planar_le _ _ positive positive' less less') near

theorem Widens.contains (widens : Widens inner wider) {point : Vec3}
    (inside : containsPointInCargoObbBase point inner 0 0 = true) :
    containsPointInCargoObbBase point wider 0 0 = true := by
  obtain ⟨more, nonnegative, length, width⟩ := widens.sides
  obtain ⟨rise, upward, bottom, top⟩ := widens.heights
  unfold containsPointInCargoObbBase at inside ⊢
  split_ifs at inside with unusable
  simp only [Bool.or_eq_true, Bool.not_eq_true', decide_eq_true_eq, not_or,
    Bool.not_eq_false] at unusable
  obtain ⟨⟨⟨⟨⟨⟨⟨⟨⟨⟨finite, valid⟩, center⟩, lengthFinite⟩, widthFinite⟩, yaw⟩, lowFinite⟩,
    highFinite⟩, long⟩, broad⟩, tall⟩ := unusable
  obtain ⟨l, lengthIs⟩ := Scalar.isFinite_iff.1 lengthFinite
  obtain ⟨w, widthIs⟩ := Scalar.isFinite_iff.1 widthFinite
  obtain ⟨low, lowIs⟩ := Scalar.isFinite_iff.1 lowFinite
  obtain ⟨high, highIs⟩ := Scalar.isFinite_iff.1 highFinite
  have noMargin : Scalar.maxOf 0 0 = .fin 0 := rfl
  have half : (0.5 : Scalar) = .fin (1 / 2) := by
    show Scalar.fin _ = _
    norm_num
  have grown : ∀ side : ℚ, (0.5 : Scalar) * .fin side + .fin 0 ≤
      0.5 * (.fin side + .fin more) + .fin 0 := fun side => by
    rw [half]
    simp only [Scalar.fin_add_fin, Scalar.fin_mul_fin, Scalar.fin_le_fin]
    linarith
  rw [lowIs, highIs] at tall
  have usable : ¬(!point.allFinite || !wider.valid || !wider.centerBase.allFinite ||
      !wider.lengthM.isFinite || !wider.widthM.isFinite || !wider.yawBaseRad.isFinite ||
      !wider.minZ.isFinite || !wider.maxZ.isFinite || wider.lengthM ≤ 0 || wider.widthM ≤ 0 ||
      wider.maxZ ≤ wider.minZ) = true := by
    have apart : ¬high + rise ≤ low - rise := fun flat =>
      tall (Scalar.fin_le_fin.2 (by linarith))
    rw [widens.center, widens.yaw, length, width, bottom, top, lowIs, highIs]
    simp [finite, widens.valid valid, center, yaw, add_fin_not_le nonnegative long,
      add_fin_not_le nonnegative broad, Scalar.add_isFinite, lengthFinite, widthFinite, apart]
  rw [if_neg usable, widens.center, widens.yaw, length, width, bottom, top]
  rw [lengthIs, widthIs, lowIs, highIs, noMargin] at inside ⊢
  simp only [Bool.and_eq_true, decide_eq_true_eq] at inside ⊢
  obtain ⟨⟨⟨along, across⟩, above⟩, below⟩ := inside
  refine ⟨⟨⟨Scalar.le_trans along (grown l), Scalar.le_trans across (grown w)⟩, ?_⟩, ?_⟩
  · refine Scalar.le_trans ?_ above
    simp only [Scalar.fin_sub_fin, Scalar.fin_le_fin]
    linarith
  · refine Scalar.le_trans below ?_
    simp only [Scalar.fin_add_fin, Scalar.fin_le_fin]
    linarith

omit [SelfEvidenceMath] in
theorem inflated_widens {envelope : PendingCargoEnvelope} {horizontal vertical : Scalar}
    (further : envelope.horizontalUncertaintyM ≤ horizontal)
    (higher : envelope.verticalUncertaintyM ≤ vertical)
    (horizontalFinite : horizontal.isFinite = true) (verticalFinite : vertical.isFinite = true)
    (valid : (inflated envelope).valid = true) :
    Widens (inflated envelope) (inflated { envelope with
      horizontalUncertaintyM := horizontal, verticalUncertaintyM := vertical }) := by
  obtain ⟨h', rfl⟩ := Scalar.isFinite_iff.1 horizontalFinite
  obtain ⟨v', rfl⟩ := Scalar.isFinite_iff.1 verticalFinite
  unfold inflated toCargoObbFootprint at valid
  simp only [Bool.and_eq_true, decide_eq_true_eq] at valid
  obtain ⟨marked, ⟨⟨finite, positive⟩, finite'⟩, positive'⟩ := valid
  obtain ⟨h, horizontalIs⟩ := Scalar.isFinite_iff.1 finite
  obtain ⟨v, verticalIs⟩ := Scalar.isFinite_iff.1 finite'
  rw [horizontalIs] at further positive
  rw [verticalIs] at higher positive'
  rw [Scalar.fin_le_fin] at further higher
  have side : ∀ extent : Scalar,
      extent + 2 * .fin h' = extent + 2 * .fin h + .fin (2 * (h' - h)) := fun extent => by
    cases extent with
    | fin extent =>
      show Scalar.fin (extent + 2 * h') = .fin (extent + 2 * h + 2 * (h' - h))
      congr 1
      ring
    | nan | negInf | posInf => rfl
  have height : ∀ level : Scalar, level - .fin v' = level - .fin v - .fin (v' - v) ∧
      level + .fin v' = level + .fin v + .fin (v' - v) := fun level => by
    cases level with
    | fin level =>
      simp only [Scalar.fin_sub_fin, Scalar.fin_add_fin, Scalar.fin.injEq]
      constructor <;> ring
    | nan | negInf | posInf => exact ⟨rfl, rfl⟩
  unfold inflated toCargoObbFootprint
  rw [horizontalIs, verticalIs]
  refine ⟨fun _ => ?_, rfl, rfl, ⟨2 * (h' - h), by linarith, side _, side _⟩,
    ⟨v' - v, by linarith, (height _).1, (height _).2⟩⟩
  have onward : (0 : Scalar) ≤ .fin h' :=
    Scalar.le_trans positive (Scalar.fin_le_fin.2 further)
  have upward : (0 : Scalar) ≤ .fin v' :=
    Scalar.le_trans positive' (Scalar.fin_le_fin.2 higher)
  simp [marked, onward, upward]

variable {pointBase : Vec3} {envelope : PendingCargoEnvelope}
  {selfEvidence : PendingCargoSelfEvidence} {queryShellM : Scalar}

omit [SelfEvidenceMath] in
theorem answerable (answered : unanswerable pointBase envelope queryShellM = false) :
    ∃ shell, queryShellM = .fin shell := by
  unfold unanswerable at answered
  simp only [Bool.or_eq_false_iff, Bool.not_eq_false'] at answered
  exact Scalar.isFinite_iff.1 answered.1.2

theorem inflated_valid (asked : leftOut pointBase envelope queryShellM = false) :
    (inflated envelope).valid = true := by
  -- A point is infinitely far from an outline that is not valid.
  by_contra invalid
  unfold leftOut at asked
  simp only [Bool.or_eq_false_iff, decide_eq_false_iff_not] at asked
  obtain ⟨answered, -, near⟩ := asked
  obtain ⟨shell, rfl⟩ := answerable answered
  refine near ?_
  unfold envelopeDistance pointToCargoObbDistance2D
  rw [if_pos (by simp [invalid])]
  rfl

theorem Widens.inGuardColumn (laws : SelfEvidenceLaws) {wide : PendingCargoEnvelope}
    (widens : Widens (inflated envelope) (inflated wide))
    (inside : inGuardColumn pointBase envelope selfEvidence = true) :
    PendingCargoSelfEvidence.inGuardColumn pointBase wide selfEvidence = true := by
  unfold PendingCargoSelfEvidence.inGuardColumn at inside ⊢
  simp only [Bool.and_eq_true, decide_eq_true_eq] at inside ⊢
  obtain ⟨⟨near, above⟩, below⟩ := inside
  obtain ⟨more, nonnegative, bottom, top⟩ := widens.heights
  refine ⟨⟨widens.distance_le laws near, ?_⟩, ?_⟩
  · rw [bottom]
    rcases (guard_le nonnegative).1 with lost | lower
    · rw [lost] at above
      cases above
    · exact Scalar.le_trans lower above
  · rw [top]
    rcases (guard_le nonnegative).2 with lost | upper
    · rw [lost] at below
      exact absurd below (by cases pointBase.z <;> exact Bool.false_ne_true)
    · exact Scalar.le_trans below upper

theorem unresolved_widened (laws : SelfEvidenceLaws) {horizontal vertical : Scalar}
    (further : envelope.horizontalUncertaintyM ≤ horizontal)
    (higher : envelope.verticalUncertaintyM ≤ vertical)
    (unresolved :
      (classifyPendingCargoPoint pointBase envelope selfEvidence queryShellM).classification =
        .unresolvedInsidePending) :
    (classifyPendingCargoPoint pointBase { envelope with
      horizontalUncertaintyM := horizontal, verticalUncertaintyM := vertical }
      selfEvidence queryShellM).classification ≠ .externalShell := by
  -- Either the outline cannot be widened so far and the point is left out, or it reaches further.
  rw [classification_eq] at unresolved ⊢
  split_ifs at unresolved with out formal identified unclear
  · rw [if_pos formal]
    split_ifs <;> decide
  · rw [if_neg formal, if_neg identified]
    split_ifs with out' unclear'
    · decide
    · decide
    · rw [Bool.not_eq_true] at out out'
      have valid := inflated_valid out'
      unfold inflated toCargoObbFootprint at valid
      simp only [Bool.and_eq_true] at valid
      have widens := inflated_widens further higher valid.2.1.1.1 valid.2.1.2 (inflated_valid out)
      refine absurd ?_ unclear'
      rw [Bool.or_eq_true] at unclear ⊢
      exact unclear.imp (widens.inGuardColumn laws) widens.contains

/-- Where the points of the identity and the distances are known, the evidence is sound. -/
theorem selfEvidence_sound_iff (laws : SelfEvidenceLaws)
    (input : PendingCargoSelfEvidenceInput) (requested : PendingCargoSelfEvidenceConfig)
    (pointBase : Vec3) (envelope : PendingCargoEnvelope)
    (selfEvidence : PendingCargoSelfEvidence) (queryShellM : Scalar) :
    (AuthorityBacked (buildPendingCargoSelfEvidence input requested) ∧
      ClassifiedSoundly pointBase envelope selfEvidence queryShellM) ↔
    ((authorizedAtOnce input (effectiveConfig requested) = true →
        ∃ point ∈ input.identityPointsBase, point.allFinite = true) ∧
      DistancesCompare pointBase envelope selfEvidence queryShellM) := by
  rw [build_backed_iff]
  refine and_congr Iff.rfl ⟨fun sound => ⟨?_, ?_⟩, fun compare => ⟨?_, ?_, ?_⟩⟩
  · intro asked tight points
    have named := sound.self
    rw [classification_eq, asked, tight, points] at named
    refine (self_iff laws).mp fun near => (named ?_).2
    simp [near]
  · intro asked unknown
    by_contra undecided
    simp only [not_or, not_and] at undecided
    obtain ⟨outside, undecided⟩ := undecided
    have beside : inGuardColumn pointBase envelope selfEvidence = false := by
      unfold inGuardColumn
      rw [unknown]
      rfl
    have within := (sound.external (by
      rw [classification_eq, asked, beside, Bool.eq_false_iff.mpr outside]
      cases tight : inTightBox pointBase selfEvidence with
      | false => rfl
      | true =>
        have apart := undecided tight
        simp [apart.1, apart.2])).1.2
    rw [unknown] at within
    cases within
  · intro identified
    rw [classification_eq] at identified
    split_ifs at identified with out formal near unclear
    · simp only [Bool.and_eq_true, decide_eq_true_eq] at near formal
      refine ⟨near.1, (self_iff laws).mpr (compare.matched (Bool.eq_false_iff.mpr out) near.1 ?_)
        near.2⟩
      exact Bool.eq_false_iff.mpr fun only => formal ⟨near.1, only⟩
  · intro external
    rw [classification_eq] at external
    split_ifs at external with out formal near unclear
    have placed := compare.placed (Bool.eq_false_iff.mpr out)
    unfold leftOut at out
    simp only [Bool.or_eq_true, not_or, decide_eq_true_eq, Bool.not_eq_true',
      Bool.not_eq_false, Bool.not_eq_true, Bool.and_eq_true, not_and] at out unclear formal near
    obtain ⟨answered, vertical, within⟩ := out
    refine ⟨⟨vertical, ?_⟩, unclear.2, unclear.1⟩
    obtain ⟨shell, rfl⟩ := answerable answered
    cases distance : envelopeDistance pointBase envelope with
    | nan =>
      rcases placed distance with inside | ⟨tight, only | close⟩
      · rw [unclear.2] at inside
        cases inside
      · rw [formal tight] at only
        cases only
      · exact absurd close (near tight)
    | negInf => rfl
    | posInf => rw [distance] at within; exact absurd rfl within
    | fin away =>
      rw [distance, Scalar.fin_lt_fin] at within
      exact Scalar.fin_le_fin.2 (not_lt.mp within)
  · exact fun _ _ further higher => unresolved_widened laws further higher

end Wider

/-! Evidence for a box of one metre, and a point of it. -/

@[reducible] def unturnedMath : SelfEvidenceMath where
  cos _ := 1
  sin _ := 0
  planar a := a.x + a.y
  spatial a := a.x + a.y + a.z
  squareRoot := id

attribute [local instance] unturnedMath

def candidateWith (points : List Vec3) : PendingCargoSelfEvidenceInput where
  stampSec := 10
  source := .currentCandidate
  cargoLifecycleId := 1
  provisionalTrackId := 1
  candidateTrackId := 1
  candidateCurrent := true
  identityConfidence := 1
  shapeConfidence := 1
  tightIdentityObb := { valid := true, lengthM := 1, widthM := 1, maxZ := 1 }
  identityPointsBase := points
  evidenceStampSec := 10

theorem add_le_add_of_nonneg {a b c d : Scalar} (first : 0 ≤ a) (second : 0 ≤ c) (less : a ≤ b)
    (less' : c ≤ d) : a + c ≤ b + d := by
  -- Nothing that is not negative is infinite without its bound being so too.
  cases a with
  | nan | negInf => cases first
  | posInf | fin a =>
    cases c with
    | nan | negInf => cases second
    | posInf | fin c =>
      cases b <;> cases d <;> first
        | rfl
        | exact Scalar.fin_le_fin.2
            (add_le_add (Scalar.fin_le_fin.1 less) (Scalar.fin_le_fin.1 less'))
        | exact absurd less Bool.false_ne_true
        | exact absurd less' Bool.false_ne_true

theorem ownPoint_sound :
    let input := candidateWith [{}]
    let evidence := buildPendingCargoSelfEvidence input {}
    let envelope : PendingCargoEnvelope :=
      { valid := true, lengthM := 2, widthM := 2, bottomZBase := 0, topZBase := 1 }
    AuthorityBacked evidence ∧ ClassifiedSoundly {} envelope evidence 1 ∧
      (classifyPendingCargoPoint {} envelope evidence 1).classification = .identitySelf := by
  have laws : SelfEvidenceLaws := by
    refine ⟨rfl, rfl, ?_, ?_⟩
    · rintro ⟨x, y⟩ (rfl | rfl) bound near
      · cases near
      · cases x <;> cases near
    · exact fun _ _ first second less less' => add_le_add_of_nonneg first second less less'
  have sound := (selfEvidence_sound_iff laws (candidateWith [{}]) {} {}
    { valid := true, lengthM := 2, widthM := 2, bottomZBase := 0, topZBase := 1 }
    (buildPendingCargoSelfEvidence (candidateWith [{}]) {}) 1).mpr
    ⟨fun _ => ⟨{}, by decide, by decide⟩, fun _ _ _ endless => absurd endless (by decide),
      fun _ unknown => absurd unknown (by decide)⟩
  exact ⟨sound.1, sound.2, by decide⟩

theorem lostPoint_authorized :
    ¬∀ input requested, AuthorityBacked (buildPendingCargoSelfEvidence input requested) := by
  intro backed
  exact absurd (backed (candidateWith [⟨.nan, 0, 0⟩]) {} (by decide)).1 (by decide)

end PendingCargoSelfEvidence

end NdtSlam
