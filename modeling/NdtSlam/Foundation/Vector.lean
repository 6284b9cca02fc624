import NdtSlam.Foundation.Scalar

/-! Planar and spatial vectors of machine scalars. -/

namespace NdtSlam

structure Vec2 where
  x : Scalar := 0
  y : Scalar := 0

structure Vec3 where
  x : Scalar := 0
  y : Scalar := 0
  z : Scalar := 0
  deriving DecidableEq, Inhabited

namespace Vec2

instance : Add Vec2 := ⟨fun a b => ⟨a.x + b.x, a.y + b.y⟩⟩
instance : Sub Vec2 := ⟨fun a b => ⟨a.x - b.x, a.y - b.y⟩⟩

def scale (a : Vec2) (factor : Scalar) : Vec2 := ⟨a.x * factor, a.y * factor⟩

def divide (a : Vec2) (divisor : Scalar) : Vec2 := ⟨a.x / divisor, a.y / divisor⟩

def dot (a b : Vec2) : Scalar := a.x * b.x + a.y * b.y

def allFinite (a : Vec2) : Bool := a.x.isFinite && a.y.isFinite

end Vec2

namespace Vec3

instance : Add Vec3 := ⟨fun a b => ⟨a.x + b.x, a.y + b.y, a.z + b.z⟩⟩
instance : Sub Vec3 := ⟨fun a b => ⟨a.x - b.x, a.y - b.y, a.z - b.z⟩⟩

def scale (a : Vec3) (factor : Scalar) : Vec3 := ⟨a.x * factor, a.y * factor, a.z * factor⟩

def divide (a : Vec3) (divisor : Scalar) : Vec3 := ⟨a.x / divisor, a.y / divisor, a.z / divisor⟩

def allFinite (a : Vec3) : Bool := a.x.isFinite && a.y.isFinite && a.z.isFinite

theorem allFinite_iff {a : Vec3} : a.allFinite = true ↔
    a.x.isFinite = true ∧ a.y.isFinite = true ∧ a.z.isFinite = true := by
  simp [allFinite, and_assoc]

def head2 (a : Vec3) : Vec2 := ⟨a.x, a.y⟩

end Vec3

/-- The Euclidean norms of the linear-algebra library. -/
class EuclideanNorm where
  planar : Vec2 → Scalar
  spatial : Vec3 → Scalar

def Vec2.norm [EuclideanNorm] (a : Vec2) : Scalar := EuclideanNorm.planar a

def Vec3.norm [EuclideanNorm] (a : Vec3) : Scalar := EuclideanNorm.spatial a

@[reducible] def axisNorm : EuclideanNorm where
  planar a := a.x.abs + a.y.abs
  spatial a := a.x.abs + a.y.abs + a.z.abs

end NdtSlam
