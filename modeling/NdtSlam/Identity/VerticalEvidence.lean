import NdtSlam.Identity.Observation

/-! The height of the topmost supported surface inside a footprint. -/

namespace NdtSlam

/-- The angles and norms of the numeric libraries. -/
class IdentityMath extends EuclideanNorm where
  cos : Scalar → Scalar
  sin : Scalar → Scalar

@[reducible] def axisMath : IdentityMath where
  toEuclideanNorm := axisNorm
  cos _ := 1
  sin _ := 0

structure CargoVerticalEvidenceInput where
  selectedPointsBase : List Vec3 := []
  selectedCloudBase : Option (List Vec3) := none
  footprintValid : Bool := false
  footprintCenterBase : Vec2 := {}
  footprintSizeXy : Vec2 := {}
  footprintYawBaseRad : Scalar := 0
  groundReferenceValid : Bool := false
  groundZBase : Scalar := .nan
  frozenThicknessValid : Bool := false
  frozenThicknessMatchesLifecycle : Bool := false
  frozenThicknessM : Scalar := .nan

structure CargoVerticalEvidence where
  valid : Bool := false
  topZBase : Scalar := .nan
  filteredVerticalPointsBase : List Vec3 := []
  topSupportPointsBase : List Vec3 := []
  topSurfaceCellIndices : List CargoFootprintGridIndex := []
  cleanVerticalPointsBase : List Vec3 := []
  footprintPoints : Nat := 0
  topSupportPoints : Nat := 0
  topSurfaceCells : Nat := 0
  topSurfaceCoverage : Scalar := 0
  removedLowPoints : Nat := 0
  groundFilterUsed : Bool := false
  thicknessSlabUsed : Bool := false
  rejectReason : String := "not_evaluated"

namespace CargoVerticalEvidenceInput

section Footprints

variable [IdentityMath] (input : CargoVerticalEvidenceInput)

def toFootprintFrame (point : Vec3) : Vec2 :=
  let delta := point.head2 - input.footprintCenterBase
  let cosine := IdentityMath.cos input.footprintYawBaseRad
  let sine := IdentityMath.sin input.footprintYawBaseRad
  ⟨cosine * delta.x + sine * delta.y, -sine * delta.x + cosine * delta.y⟩

def cargoPointInsideFootprint (point : Vec3) (marginM : Scalar) : Bool :=
  let coordinates := input.toFootprintFrame point
  coordinates.x.abs ≤ 0.5 * input.footprintSizeXy.x + marginM &&
    coordinates.y.abs ≤ 0.5 * input.footprintSizeXy.y + marginM

def makeCargoFootprintGridIndex (point : Vec3) (cellSizeM : Scalar) : CargoFootprintGridIndex :=
  let coordinates := input.toFootprintFrame point
  ⟨⌊(coordinates.x / cellSizeM).value⌋, ⌊(coordinates.y / cellSizeM).value⌋⟩

def pointsInside (marginM : Scalar) (points : List Vec3) : List Vec3 :=
  points.filter fun point => point.allFinite && input.cargoPointInsideFootprint point marginM

def cellsOfPoints (config : CargoVerticalEvidenceConfig) (points : List Vec3) :
    List CargoFootprintGridIndex :=
  ((input.pointsInside config.footprintMarginM points).map fun point =>
    input.makeCargoFootprintGridIndex point config.xyCellSizeM).dedup

end Footprints

end CargoVerticalEvidenceInput

def finitePositive (value : Scalar) : Bool := value.isFinite && 0 < value

variable (input : CargoVerticalEvidenceInput)

def footprintUsable : Bool :=
  input.footprintValid && input.footprintCenterBase.allFinite &&
    input.footprintSizeXy.allFinite && input.footprintYawBaseRad.isFinite &&
    finitePositive input.footprintSizeXy.x && finitePositive input.footprintSizeXy.y

variable (config : CargoVerticalEvidenceConfig)

def verticalConfigUsable : Bool :=
  finitePositive config.surfaceBandHeightM && finitePositive config.xyCellSizeM &&
    config.minimumSurfacePoints != 0 && config.minimumSurfaceCells != 0 &&
    config.minimumSurfaceCoverageRatio.isFinite && 0 ≤ config.minimumSurfaceCoverageRatio &&
    config.minimumSurfaceCoverageRatio ≤ 1 && config.footprintMarginM.isFinite &&
    0 ≤ config.footprintMarginM && config.thicknessSlabMarginM.isFinite &&
    0 ≤ config.thicknessSlabMarginM

def groundUsable : Bool :=
  input.groundReferenceValid && input.groundZBase.isFinite && config.groundHagMinM.isFinite &&
    config.groundHagMaxM.isFinite && config.groundHagMinM ≤ config.groundHagMaxM

def thicknessUsable : Bool :=
  input.frozenThicknessValid && input.frozenThicknessMatchesLifecycle &&
    finitePositive input.frozenThicknessM

def cellsAlong (sizeM cellSizeM : Scalar) : Nat :=
  (max 1 ⌈(sizeM / cellSizeM).value⌉).toNat

section Surfaces

variable [IdentityMath] (input : CargoVerticalEvidenceInput)
  (config : CargoVerticalEvidenceConfig)

def bandPoints (candidates : List Vec3) (bandTop : Scalar) : List Vec3 :=
  candidates.filter fun point =>
    !(point.z < bandTop - config.surfaceBandHeightM || bandTop + 1.0e-4 < point.z)

variable (band : List Vec3)

def bandCells : List CargoFootprintGridIndex :=
  (band.map fun point => input.makeCargoFootprintGridIndex point config.xyCellSizeM).dedup

def bandCoverage : Scalar :=
  let expected := cellsAlong input.footprintSizeXy.x config.xyCellSizeM *
    cellsAlong input.footprintSizeXy.y config.xyCellSizeM
  .ofNat (bandCells input config band).length / .ofNat (max 1 expected)

def bandSupported : Bool :=
  config.minimumSurfacePoints ≤ band.length &&
    config.minimumSurfaceCells ≤ (bandCells input config band).length &&
    config.minimumSurfaceCoverageRatio ≤ bandCoverage input config band

def supportedBand (candidates : List Vec3) : Option (List Vec3) :=
  let descending := (candidates.map (·.z)).insertionSort (· ≥ ·)
  (descending.map (bandPoints config candidates)).find? (bandSupported input config)

def slabMinZ (topZBase : Scalar) : Scalar :=
  if thicknessUsable input then topZBase - input.frozenThicknessM - config.thicknessSlabMarginM
  else if groundUsable input config then input.groundZBase + config.groundHagMinM
  else topZBase - config.surfaceBandHeightM

def reportSurface (candidates band : List Vec3) (evidence : CargoVerticalEvidence) :
    CargoVerticalEvidence :=
  -- The median of the band keeps a single return of the rope from being the top.
  let top := medianOf (band.map (·.z))
  let slabMin := slabMinZ input config top
  let clean := candidates.filter fun point =>
    !(point.z < slabMin) && point.z ≤ top + config.surfaceBandHeightM
  { evidence with
    valid := !clean.isEmpty
    topZBase := top
    topSupportPointsBase := band
    topSurfaceCellIndices := bandCells input config band
    cleanVerticalPointsBase := clean
    topSupportPoints := band.length
    topSurfaceCells := (bandCells input config band).length
    topSurfaceCoverage := .minOf 1 (bandCoverage input config band)
    removedLowPoints := candidates.countP fun point => point.z < slabMin
    thicknessSlabUsed := thicknessUsable input
    rejectReason :=
      if clean.isEmpty then "supported_surface_has_no_clean_points"
      else "supported_upper_surface" }

def extractCargoVerticalEvidence : CargoVerticalEvidence :=
  if !footprintUsable input then { rejectReason := "footprint_invalid" }
  else if !verticalConfigUsable config then { rejectReason := "config_invalid" }
  else if !input.selectedPointsBase.isEmpty && input.selectedCloudBase.isSome then
    { rejectReason := "multiple_point_sources" }
  else
    let footprintPoints := input.pointsInside config.footprintMarginM
      (input.selectedCloudBase.getD input.selectedPointsBase)
    if footprintPoints.isEmpty then { rejectReason := "no_finite_points_in_footprint" }
    else
      let grounded := groundUsable input config
      let candidates :=
        if grounded then
          footprintPoints.filter fun point =>
            config.groundHagMinM ≤ point.z - input.groundZBase &&
              point.z - input.groundZBase ≤ config.groundHagMaxM
        else footprintPoints
      let evidence : CargoVerticalEvidence := {
        footprintPoints := footprintPoints.length
        groundFilterUsed := grounded }
      if candidates.isEmpty then
        { evidence with rejectReason := "ground_filter_removed_all_points" }
      else
        let filtered := { evidence with filteredVerticalPointsBase := candidates }
        match supportedBand input config candidates with
        | none => { filtered with rejectReason := "no_supported_upper_surface" }
        | some band => reportSurface input config candidates band filtered

end Surfaces

end NdtSlam
