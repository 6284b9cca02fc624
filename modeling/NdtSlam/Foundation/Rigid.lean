import NdtSlam.Foundation.Vector

/-! Rigid transforms of space, and rotations of the plane. -/

namespace NdtSlam

def Vec3.dot (a b : Vec3) : Scalar := a.x * b.x + a.y * b.y + a.z * b.z

structure Isometry where
  row0 : Vec3 := ⟨1, 0, 0⟩
  row1 : Vec3 := ⟨0, 1, 0⟩
  row2 : Vec3 := ⟨0, 0, 1⟩
  translation : Vec3 := {}

namespace Isometry

variable (transform : Isometry)

def apply (point : Vec3) : Vec3 :=
  ⟨transform.row0.dot point + transform.translation.x,
    transform.row1.dot point + transform.translation.y,
    transform.row2.dot point + transform.translation.z⟩

def column0 : Vec3 := ⟨transform.row0.x, transform.row1.x, transform.row2.x⟩
def column1 : Vec3 := ⟨transform.row0.y, transform.row1.y, transform.row2.y⟩
def column2 : Vec3 := ⟨transform.row0.z, transform.row1.z, transform.row2.z⟩

def inverse : Isometry where
  row0 := transform.column0
  row1 := transform.column1
  row2 := transform.column2
  translation :=
    ⟨-transform.column0.dot transform.translation, -transform.column1.dot transform.translation,
      -transform.column2.dot transform.translation⟩

def determinant : Scalar :=
  transform.row0.x * (transform.row1.y * transform.row2.z - transform.row1.z * transform.row2.y)
    - transform.row0.y * (transform.row1.x * transform.row2.z - transform.row1.z * transform.row2.x)
    + transform.row0.z * (transform.row1.x * transform.row2.y - transform.row1.y * transform.row2.x)

def allFinite : Bool :=
  transform.row0.allFinite && transform.row1.allFinite && transform.row2.allFinite &&
    transform.translation.allFinite

end Isometry

def validRigidTransform (transform : Isometry) : Bool :=
  let tolerance : Scalar := 1.0e-3
  let near := fun (product expected : Scalar) => decide ((product - expected).abs ≤ tolerance)
  transform.allFinite &&
    near (transform.column0.dot transform.column0) 1 &&
    near (transform.column1.dot transform.column1) 1 &&
    near (transform.column2.dot transform.column2) 1 &&
    near (transform.column0.dot transform.column1) 0 &&
    near (transform.column0.dot transform.column2) 0 &&
    near (transform.column1.dot transform.column2) 0 &&
    near transform.determinant 1

/--
The circular functions of the standard library.

They are irrational in general, so a development over rationals takes them as given.
-/
class CircularFunctions where
  cos : Scalar → Scalar
  sin : Scalar → Scalar

export CircularFunctions (cos sin)

end NdtSlam
