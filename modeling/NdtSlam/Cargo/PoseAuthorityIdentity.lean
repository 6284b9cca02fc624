import NdtSlam.Foundation.Scalar

/-! The pose authority under which a piece of temporal evidence was produced. -/

namespace NdtSlam

structure PoseAuthorityIdentity where
  mapRebuildGeneration : Nat := 0
  keyframePoseVersion : Nat := 0
  yawAuthorityGeneration : Nat := 0
  mapFrameUuid : String := ""
  yawReferenceHash : String := ""
  targetSnapshotId : Nat := 0

def samePoseAuthorityIdentity (lhs rhs : PoseAuthorityIdentity) : Bool :=
  lhs.mapRebuildGeneration == rhs.mapRebuildGeneration &&
    lhs.keyframePoseVersion == rhs.keyframePoseVersion &&
    lhs.yawAuthorityGeneration == rhs.yawAuthorityGeneration &&
    lhs.mapFrameUuid == rhs.mapFrameUuid &&
    lhs.yawReferenceHash == rhs.yawReferenceHash &&
    lhs.targetSnapshotId == rhs.targetSnapshotId

structure TemporalEvidenceAuthority where
  valid : Bool := false
  poseIdentity : PoseAuthorityIdentity := {}
  sourceStampSec : Scalar := 0

def sameTemporalEvidenceAuthority (lhs rhs : TemporalEvidenceAuthority) : Bool :=
  lhs.valid && rhs.valid && samePoseAuthorityIdentity lhs.poseIdentity rhs.poseIdentity

@[simp] theorem samePoseAuthorityIdentity_iff {lhs rhs : PoseAuthorityIdentity} :
    samePoseAuthorityIdentity lhs rhs = true ↔ lhs = rhs := by
  -- Component by component, the comparison is the decidable one.
  cases lhs
  cases rhs
  simp [samePoseAuthorityIdentity, and_assoc]

variable {lhs rhs : TemporalEvidenceAuthority}

theorem sameTemporalEvidenceAuthority_iff :
    sameTemporalEvidenceAuthority lhs rhs = true ↔
      lhs.valid = true ∧ rhs.valid = true ∧ lhs.poseIdentity = rhs.poseIdentity := by
  simp [sameTemporalEvidenceAuthority, and_assoc]

variable {first second third : TemporalEvidenceAuthority}

theorem sameTemporalEvidenceAuthority_trans
    (left : sameTemporalEvidenceAuthority first second = true)
    (right : sameTemporalEvidenceAuthority second third = true) :
    sameTemporalEvidenceAuthority first third = true := by
  -- Validity is the one of the outer two, and identities are equal.
  rw [sameTemporalEvidenceAuthority_iff] at *
  exact ⟨left.1, right.2.1, left.2.2.trans right.2.2⟩

theorem sameTemporalEvidenceAuthority_symm (same : sameTemporalEvidenceAuthority lhs rhs = true) :
    sameTemporalEvidenceAuthority rhs lhs = true := by
  rw [sameTemporalEvidenceAuthority_iff] at *
  exact ⟨same.2.1, same.1, same.2.2.symm⟩

theorem sameTemporalEvidenceAuthority_transfer
    (agree : sameTemporalEvidenceAuthority first second = true)
    (same : sameTemporalEvidenceAuthority third second = true) :
    sameTemporalEvidenceAuthority third first = true :=
  sameTemporalEvidenceAuthority_trans same (sameTemporalEvidenceAuthority_symm agree)

theorem sameTemporalEvidenceAuthority_self {authority : TemporalEvidenceAuthority}
    (valid : authority.valid = true) : sameTemporalEvidenceAuthority authority authority = true :=
  sameTemporalEvidenceAuthority_iff.2 ⟨valid, valid, rfl⟩

end NdtSlam
