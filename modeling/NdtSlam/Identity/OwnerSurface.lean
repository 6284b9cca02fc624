import NdtSlam.Identity.VerticalEvidence

/-! The surface of the load, as far as the cells of its owner prove it. -/

namespace NdtSlam

structure AssociationOnlyReacquiredVerticalEvidence where
  valid : Bool := false
  sourceStampSec : Scalar := 0
  topZBase : Scalar := .nan
  uncertaintyM : Scalar := .nan
  ownerOverlapCellCount : Nat := 0
  ownerOverlapCoverage : Scalar := 0
  reason : String := "not_evaluated"

structure OwnerLockedSurfaceResult where
  valid : Bool := false
  surfaceZ : Scalar := .nan
  surfaceUncertainty : Scalar := .nan
  surfaceZBeforeStatic : Scalar := .nan
  staticRejectedPoints : Nat := 0
  rejectReason : String := "not_evaluated"

structure LogicalCurrentCargoObservation where
  valid : Bool := false
  ambiguous : Bool := false
  memberGroupIndices : List Nat := []
  memberComponentIds : List Nat := []
  unionPointsBase : List Vec3 := []
  currentFootprint : CargoFootprintSnapshot := {}
  currentOwnerCells : List CargoFootprintGridIndex := []
  rejectReason : String := "not_evaluated"

def footprintInput (footprint : CargoFootprintSnapshot) (frame : CargoShadowFrameEvidence) :
    CargoVerticalEvidenceInput where
  footprintValid := true
  footprintCenterBase := footprint.centerBase
  footprintSizeXy := footprint.sizeXy
  footprintYawBaseRad := footprint.yawBaseRad
  groundReferenceValid := frame.groundReferenceValid
  groundZBase := frame.groundZBase

def frameStamped (frame : CargoShadowFrameEvidence) : Bool :=
  frame.sourceStampSec.isFinite && 0 < frame.sourceStampSec

def common {Item : Type} [DecidableEq Item] (items others : List Item) : List Item :=
  items.filter fun item => item ∈ others

section Surfaces

variable [IdentityMath]

def proveVerticalOwnership (evidence : CargoVerticalEvidence) (ownerPoints : List Vec3)
    (input : CargoVerticalEvidenceInput) (config : CargoVerticalEvidenceConfig) :
    Bool × Nat × Scalar :=
  if !evidence.valid || evidence.topSurfaceCellIndices.isEmpty then (false, 0, 0)
  else
    let owned := common evidence.topSurfaceCellIndices (input.cellsOfPoints config ownerPoints)
    let coverage : Scalar := .ofNat owned.length / .ofNat evidence.topSurfaceCellIndices.length
    (config.minimumSurfaceCells ≤ owned.length &&
      config.minimumSurfaceCoverageRatio ≤ coverage + kEpsilon, owned.length, coverage)

def reacquireAssociationVertical (frame : CargoShadowFrameEvidence)
    (footprint : CargoFootprintSnapshot) (ownerPoints : List Vec3)
    (config : CargoVerticalEvidenceConfig) (uncertaintyM : Scalar)
    (competingOwnerPoints : List Vec3) : AssociationOnlyReacquiredVerticalEvidence :=
  let result : AssociationOnlyReacquiredVerticalEvidence := {
    sourceStampSec := frame.sourceStampSec
    uncertaintyM }
  if !footprint.valid || frame.rawRoiCurrentFrame.isNone || !frameStamped frame then
    { result with reason := "frame_or_history_footprint_invalid" }
  else
    let input := { footprintInput footprint frame with
      selectedCloudBase := frame.rawRoiCurrentFrame }
    let evidence := extractCargoVerticalEvidence input config
    if !evidence.valid || !evidence.topZBase.isFinite then
      { result with
        reason := "raw_history_footprint_vertical_invalid:" ++ evidence.rejectReason }
    else
      let (owned, cells, coverage) := proveVerticalOwnership evidence ownerPoints input config
      let proved := { result with ownerOverlapCellCount := cells, ownerOverlapCoverage := coverage }
      if !owned then { proved with reason := "raw_history_footprint_owner_proof_failed" }
      else
        let competing := input.cellsOfPoints config competingOwnerPoints
        if evidence.topSurfaceCellIndices.any (· ∈ competing) then
          { proved with reason := "raw_history_footprint_competing_owner_column" }
        else
          { proved with
            valid := true
            topZBase := evidence.topZBase
            reason := "association_only_reacquired_vertical_valid" }

def computePreClusterSurfaceVertical (frame : CargoShadowFrameEvidence)
    (currentOwnerFootprint : CargoFootprintSnapshot) (config : CargoVerticalEvidenceConfig)
    (competingOwnerPoints : List Vec3) (ownerCells : List CargoFootprintGridIndex) :
    OwnerLockedSurfaceResult :=
  match frame.rangeCloudCurrentFrame with
  | none => { rejectReason := "NO_RANGE_CLOUD_OR_FOOTPRINT" }
  | some cloud =>
    if !currentOwnerFootprint.valid || !frameStamped frame then
      { rejectReason := "NO_RANGE_CLOUD_OR_FOOTPRINT" }
    else
      let input := footprintInput currentOwnerFootprint frame
      -- Without a complete mask, no point is known to be static.
      let mask :=
        if frame.staticConflictContextValid then
          (frame.rangeStaticConflictMask.filter fun mask => mask.length == cloud.length).getD []
        else []
      let inside := cloud.zipIdx.filter fun (point, _) =>
        point.allFinite && input.cargoPointInsideFootprint point config.footprintMarginM &&
          (ownerCells.isEmpty ||
            decide (input.makeCargoFootprintGridIndex point config.xyCellSizeM ∈ ownerCells))
      let moving := inside.filter fun (_, index) => mask.getD index 0 != 1
      let staticRejectedPoints := inside.length - moving.length
      let surface (points : List (Vec3 × Nat)) :=
        extractCargoVerticalEvidence { input with selectedPointsBase := points.map (·.1) } config
      let before := surface inside
      let result : OwnerLockedSurfaceResult := {
        surfaceZBeforeStatic :=
          if !inside.isEmpty && before.valid && before.topZBase.isFinite then before.topZBase
          else .nan
        staticRejectedPoints }
      if moving.isEmpty then
        { result with
          rejectReason :=
            if 0 < staticRejectedPoints then "MATURE_STATIC_FILTER_INSUFFICIENT_CARGO_SUPPORT"
            else "NO_RANGE_POINTS_IN_OWNER_FOOTPRINT" }
      else
        let evidence := surface moving
        if !evidence.valid || !evidence.topZBase.isFinite then
          { result with rejectReason := "OWNER_SURFACE_INVALID:" ++ evidence.rejectReason }
        else
          let competing := input.cellsOfPoints config competingOwnerPoints
          if evidence.topSurfaceCellIndices.any (· ∈ competing) then
            { result with rejectReason := "COMPETING_OWNER_COLUMN" }
          else
            let heights := (evidence.topSupportPointsBase.filter (·.allFinite)).map (·.z)
            let dispersion :=
              if heights.isEmpty then 0
              else 1.4826 * medianAbsoluteDeviation heights (medianOf heights)
            { result with
              valid := true
              surfaceZ := evidence.topZBase
              -- No surface is measured more exactly than the sensor resolves it.
              surfaceUncertainty := .maxOf 0.05 dispersion
              rejectReason := "precluster_valid" }

end Surfaces

section Cliques

/-- Extend a clique by the candidates in every way that leaves nothing to add. -/
def maximalCliquesRec (compat : Nat → Nat → Bool) :
    Nat → List Nat → List Nat → List Nat → List (List Nat)
  | 0, _, _, _ => []
  | depth + 1, clique, candidates, excluded =>
    if candidates.isEmpty && excluded.isEmpty then [clique]
    else
      let visit (search : List Nat × List Nat × List (List Nat)) (vertex : Nat) :=
        let (remaining, tried, found) := search
        let extended := maximalCliquesRec compat depth (clique ++ [vertex])
          (remaining.filter (compat vertex)) (tried.filter (compat vertex))
        (remaining.filter (· != vertex), tried ++ [vertex], found ++ extended)
      (candidates.foldl visit (candidates, excluded, [])).2.2

def maximalCliques (compat : Nat → Nat → Bool) (size : Nat) : List (List Nat) :=
  maximalCliquesRec compat (size + 1) [] (List.range size) []

def cellsCompatible (config : CargoVerticalEvidenceConfig)
    (cells : List (List CargoFootprintGridIndex)) (i j : Nat) : Bool :=
  let first := cells.getD i []
  let second := cells.getD j []
  let shared := (common first second).length
  let covers (size : Nat) : Bool :=
    config.minimumSurfaceCoverageRatio ≤ .ofNat shared / .ofNat (max 1 size)
  i != j && config.minimumSurfaceCells ≤ shared && covers first.length && covers second.length

variable [IdentityMath] (groups : List CargoPhysicalGroupObservation)

def localInput (footprint : CargoFootprintSnapshot) : CargoVerticalEvidenceInput where
  footprintValid := true
  footprintCenterBase := footprint.centerBase
  footprintSizeXy := footprint.sizeXy
  footprintYawBaseRad := footprint.yawBaseRad

def postLoadSameOwnerFragmentClique (anchorIndex : Nat)
    (frozenFootprint : CargoFootprintSnapshot)
    (frozenOwnerCells : List CargoFootprintGridIndex) (config : CargoVerticalEvidenceConfig) :
    List Nat :=
  if groups.length ≤ anchorIndex || !frozenFootprint.valid then []
  else
    let eligible := groups.zipIdx.filterMap fun (group, index) =>
      let cells := common
        ((localInput frozenFootprint).cellsOfPoints config group.unionPointsBase)
        frozenOwnerCells
      if group.groupAmbiguous || group.unionPointsBase.isEmpty || cells.isEmpty then none
      else some (index, cells)
    match eligible.findIdx? fun entry => entry.1 == anchorIndex with
    | none => []
    | some anchor =>
      let cliques := maximalCliques (cellsCompatible config (eligible.map (·.2)))
        eligible.length
      -- The anchor must not belong to two cliques.
      match cliques.filter (anchor ∈ ·) with
      | [chosen] => chosen.filterMap fun vertex => (eligible[vertex]?).map (·.1)
      | _ => []

def reacquirePostLoadHandoffVertical (frame : CargoShadowFrameEvidence)
    (frozenFootprint : CargoFootprintSnapshot)
    (frozenOwnerCells : List CargoFootprintGridIndex) (anchorGroupIndex : Nat)
    (config : CargoVerticalEvidenceConfig) (uncertaintyM : Scalar) :
    AssociationOnlyReacquiredVerticalEvidence :=
  let result : AssociationOnlyReacquiredVerticalEvidence := {
    sourceStampSec := frame.sourceStampSec
    uncertaintyM }
  match frame.rawRoiCurrentFrame with
  | none => { result with reason := "postload_frozen_footprint_or_frame_invalid" }
  | some cloud =>
    if !frozenFootprint.valid || !frameStamped frame then
      { result with reason := "postload_frozen_footprint_or_frame_invalid" }
    else if frozenOwnerCells.isEmpty then
      { result with reason := "POSTLOAD_FROZEN_OWNER_CELLS_MISSING" }
    else
      let clique := postLoadSameOwnerFragmentClique groups anchorGroupIndex frozenFootprint
        frozenOwnerCells config
      if clique.isEmpty then { result with reason := "POSTLOAD_FRAGMENT_AMBIGUOUS" }
      else
        let input := footprintInput frozenFootprint frame
        let pointsOf (indices : Nat → Bool) := groups.zipIdx.flatMap fun (group, index) =>
          if indices index then group.unionPointsBase else []
        let owner := input.cellsOfPoints config (pointsOf fun index => index ∈ clique)
        if owner.isEmpty then { result with reason := "POSTLOAD_NO_CURRENT_EXACT_OWNER" }
        else
          let authorized := common frozenOwnerCells owner
          let measured := { result with
            ownerOverlapCellCount := authorized.length
            ownerOverlapCoverage :=
              Scalar.ofNat authorized.length / Scalar.ofNat frozenOwnerCells.length }
          if authorized.isEmpty then
            { measured with reason := "POSTLOAD_OWNER_OVERLAP_INSUFFICIENT" }
          else
            let cellOf (point : Vec3) := input.makeCargoFootprintGridIndex point config.xyCellSizeM
            let competing := input.cellsOfPoints config
              (pointsOf fun index => !decide (index ∈ clique))
            let points := (input.pointsInside config.footprintMarginM cloud).filter fun point =>
              cellOf point ∈ authorized
            if points.any fun point => cellOf point ∈ competing then
              { measured with reason := "POSTLOAD_COMPETING_OWNER_COLUMN" }
            else if points.isEmpty then
              { measured with reason := "POSTLOAD_RAW_AUTHORIZED_SURFACE_INVALID" }
            else
              let evidence :=
                extractCargoVerticalEvidence { input with selectedPointsBase := points } config
              if !evidence.valid || !evidence.topZBase.isFinite then
                { measured with
                  reason := "POSTLOAD_OWNER_SURFACE_INVALID:" ++ evidence.rejectReason }
              else
                { measured with
                  valid := true
                  topZBase := evidence.topZBase
                  reason := "postload_owner_cell_vertical_valid" }

def robustFootprintFromPoints (points : List Vec3) (yawBaseRad : Scalar) :
    CargoFootprintSnapshot :=
  let finite := points.filter (·.allFinite)
  if finite.length < 2 then {}
  else
    let range (values : List Scalar) := (quantile values 0.05, quantile values 0.95)
    let (x05, x95) := range (finite.map (·.x))
    let (y05, y95) := range (finite.map (·.y))
    if 0 < x95 - x05 && 0 < y95 - y05 then
      { valid := true
        centerBase := ⟨0.5 * (x05 + x95), 0.5 * (y05 + y95)⟩
        sizeXy := ⟨x95 - x05, y95 - y05⟩
        yawBaseRad }
    else {}

def localCellsOfPoints (points : List Vec3) (footprint : CargoFootprintSnapshot)
    (config : CargoVerticalEvidenceConfig) : List CargoFootprintGridIndex :=
  if footprint.valid then (localInput footprint).cellsOfPoints config points else []

def localCellsOfGroup (config : CargoVerticalEvidenceConfig)
    (group : CargoPhysicalGroupObservation) : List CargoFootprintGridIndex :=
  localCellsOfPoints group.unionPointsBase (robustFootprintSnapshot group) config

def mayShowReference (frozenFootprint : CargoFootprintSnapshot)
    (frozenOwnerCells : List CargoFootprintGridIndex) (config : CargoVerticalEvidenceConfig)
    (maximumSizeRelativeStep : Scalar) (group : CargoPhysicalGroupObservation) : Bool :=
  let footprint := robustFootprintSnapshot group
  !group.groupAmbiguous && group.geometryResolved && !group.unionPointsBase.isEmpty &&
    finiteDescriptor group.descriptor && footprint.valid &&
    extentCompatible footprint.sizeXy frozenFootprint.sizeXy maximumSizeRelativeStep &&
    config.minimumSurfaceCells ≤
      (common (localCellsOfGroup config group) frozenOwnerCells).length

def primaryGroup (members : List CargoPhysicalGroupObservation) :
    CargoPhysicalGroupObservation :=
  members.foldl (fun primary group =>
    if primary.unionPointsBase.length < group.unionPointsBase.length then group else primary)
    (members.headD {})

def reconstructLogicalCurrentCargo (frozenFootprint : CargoFootprintSnapshot)
    (frozenOwnerCells : List CargoFootprintGridIndex) (config : CargoVerticalEvidenceConfig)
    (maximumSizeRelativeStep : Scalar) : LogicalCurrentCargoObservation :=
  if !frozenFootprint.valid || frozenOwnerCells.isEmpty then
    { rejectReason := "NO_FROZEN_REFERENCE" }
  else
    let eligible := groups.zipIdx.filter fun (group, _) =>
      mayShowReference frozenFootprint frozenOwnerCells config maximumSizeRelativeStep group
    if eligible.isEmpty then { rejectReason := "NO_CURRENT_OWNER" }
    else
      let cells := eligible.map fun (group, _) => localCellsOfGroup config group
      match maximalCliques (cellsCompatible config cells) eligible.length with
      | [clique] =>
        let members := clique.filterMap fun vertex => eligible[vertex]?
        let points := members.flatMap fun (group, _) => group.unionPointsBase
        let primary := primaryGroup (members.map (·.1))
        let footprint := robustFootprintFromPoints points primary.representative.yawRad
        { valid := true
          memberGroupIndices := (members.map (·.2)).insertionSort (· ≤ ·)
          memberComponentIds :=
            canonicalMembers (members.flatMap fun (group, _) => group.memberComponentIds)
          unionPointsBase := points
          currentFootprint := footprint
          currentOwnerCells := localCellsOfPoints points footprint config
          rejectReason := "logical_owner_valid" }
      | _ => { ambiguous := true, rejectReason := "CURRENT_OWNER_AMBIGUOUS" }

end Cliques

end NdtSlam
