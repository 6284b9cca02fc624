import NdtSlam.Foundation.UnionFind
import NdtSlam.Identity.Observation

/-! Bundles of the components of one frame that may be pieces of one load. -/

namespace NdtSlam.ComponentBundles

structure CargoPhysicalBundleConfig where
  enabled : Bool := false
  maximumInternalVerticalGapM : Scalar := 0.60
  maximumCombinedLongSideM : Scalar := 3.50
  maximumCombinedShortSideM : Scalar := 2.00

structure CargoPhysicalBundleObservation where
  memberComponentIds : List Nat := []
  unionPointsBase : List Vec3 := []
  center : Vec3 := {}
  size : Vec3 := {}
  z05 : Scalar := .nan
  z50 : Scalar := .nan
  z95 : Scalar := .nan
  robustX05 : Scalar := .nan
  robustX95 : Scalar := .nan
  robustY05 : Scalar := .nan
  robustY95 : Scalar := .nan
  internalVerticalGapM : Scalar := 0
  rawComponentCount : Nat := 0
  generationReason : String := "none"

structure ComponentGeom where
  valid : Bool := false
  robustX05 : Scalar := .nan
  robustX95 : Scalar := .nan
  robustY05 : Scalar := .nan
  robustY95 : Scalar := .nan
  minZ : Scalar := .nan
  maxZ : Scalar := .nan

def finitePoints (points : List Vec3) : List Vec3 := points.filter Vec3.allFinite

def widen (geom : ComponentGeom) (point : Vec3) : ComponentGeom :=
  { geom with
    minZ := if !geom.minZ.isFinite || point.z < geom.minZ then point.z else geom.minZ
    maxZ := if !geom.maxZ.isFinite || geom.maxZ < point.z then point.z else geom.maxZ }

def componentGeom (points : List Vec3) : ComponentGeom :=
  let finite := finitePoints points
  let heights := finite.foldl widen {}
  if finite.length < 2 then heights
  else
    let xs := finite.map (·.x)
    let ys := finite.map (·.y)
    let x05 := quantile xs 0.05
    let x95 := quantile xs 0.95
    let y05 := quantile ys 0.05
    let y95 := quantile ys 0.95
    { heights with
      robustX05 := x05
      robustX95 := x95
      robustY05 := y05
      robustY95 := y95
      valid := 0 < x95 - x05 && 0 < y95 - y05 && heights.minZ.isFinite && heights.maxZ.isFinite }

namespace ComponentGeom

variable (a b : ComponentGeom)

def unionX : Scalar :=
  Scalar.maxOf a.robustX95 b.robustX95 - Scalar.minOf a.robustX05 b.robustX05

def unionY : Scalar :=
  Scalar.maxOf a.robustY95 b.robustY95 - Scalar.minOf a.robustY05 b.robustY05

def verticalGap : Scalar :=
  .maxOf 0 (Scalar.maxOf a.minZ b.minZ - Scalar.minOf a.maxZ b.maxZ)

def canBundle (config : CargoPhysicalBundleConfig) : Bool :=
  if !a.valid || !b.valid then false
  else
    let ix := Scalar.minOf a.robustX95 b.robustX95 - Scalar.maxOf a.robustX05 b.robustX05
    let iy := Scalar.minOf a.robustY95 b.robustY95 - Scalar.maxOf a.robustY05 b.robustY05
    if !(0 < ix && 0 < iy) then false
    else
      let longSide := Scalar.maxOf (a.unionX b) (a.unionY b)
      let shortSide := Scalar.minOf (a.unionX b) (a.unionY b)
      if config.maximumCombinedLongSideM < longSide then false
      else if config.maximumCombinedShortSideM < shortSide then false
      else if config.maximumInternalVerticalGapM < a.verticalGap b then false
      else true

end ComponentGeom

section Bundles

variable (components : List CargoPhysicalComponentObservation)
  (config : CargoPhysicalBundleConfig)

def geoms (place : Fin components.length) : ComponentGeom :=
  componentGeom components[place].pointsBase

def findRoot (parent : Fin components.length → Fin components.length)
    (node : Fin components.length) :
    Fin components.length × (Fin components.length → Fin components.length) :=
  UnionFind.findByLoops components.length parent node

def joinPlaces (parent : Fin components.length → Fin components.length)
    (pair : Fin components.length × Fin components.length) :
    Fin components.length → Fin components.length :=
  let ri := findRoot components parent pair.1
  let rj := findRoot components ri.2 pair.2
  if ri.1 ≠ rj.1 then Function.update rj.2 ri.1 rj.1 else rj.2

def bundleParents : Fin components.length → Fin components.length :=
  (UnionFind.orderedPairs components.length).foldl (fun parent pair =>
    if (geoms components pair.1).canBundle (geoms components pair.2) config = true then
      joinPlaces components parent pair
    else parent) id

def clusters : List (List (Fin components.length)) :=
  (UnionFind.collect (findRoot components) id (List.finRange components.length)
    (bundleParents components config)).toList.map Prod.snd

def internalVerticalGap : List (Fin components.length) → Scalar → Scalar
  | [], largest => largest
  | first :: rest, largest =>
    internalVerticalGap rest <| rest.foldl (fun largest second =>
      .maxOf largest ((geoms components first).verticalGap (geoms components second))) largest

def bundleOf (members : List (Fin components.length)) : Option CargoPhysicalBundleObservation :=
  if members.length < 2 then none
  else
    let unionPoints := members.flatMap fun place => components[place].pointsBase
    let finite := finitePoints unionPoints
    if finite.length < 2 then none
    else
      let xs := finite.map (·.x)
      let ys := finite.map (·.y)
      let zs := (finite.map (·.z)).insertionSort (· ≤ ·)
      let x05 := quantile xs 0.05
      let x95 := quantile xs 0.95
      let y05 := quantile ys 0.05
      let y95 := quantile ys 0.95
      let z05 := zs.getD ⌊(0.05 : ℚ) * (zs.length - 1 : ℕ)⌋.toNat 0
      let z95 := zs.getD ⌊(0.95 : ℚ) * (zs.length - 1 : ℕ)⌋.toNat 0
      some {
        memberComponentIds := members.map fun place => components[place].componentId
        unionPointsBase := unionPoints
        center := ⟨0.5 * (x05 + x95), 0.5 * (y05 + y95), 0.5 * (z05 + z95)⟩
        size := ⟨x95 - x05, y95 - y05, z95 - z05⟩
        z05
        z50 := zs.getD (zs.length / 2) 0
        z95
        robustX05 := x05
        robustX95 := x95
        robustY05 := y05
        robustY95 := y95
        internalVerticalGapM := internalVerticalGap components members 0
        rawComponentCount := members.length
        generationReason := "XY_OVERLAP_EXTENT_VERTICAL" }

def memberBundles : List (List (Fin components.length) × CargoPhysicalBundleObservation) :=
  if !config.enabled || components.length < 2 then []
  else
    (clusters components config).filterMap fun members =>
      (bundleOf components members).map (members, ·)

def buildCargoComponentBundles : List CargoPhysicalBundleObservation :=
  (memberBundles components config).map Prod.snd

end Bundles

end NdtSlam.ComponentBundles
