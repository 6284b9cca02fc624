import NdtSlam.Foundation.Outcome
import NdtSlam.Foundation.Scalar

/-! The absolute heading of a rail, and the identity of the map frame it was verified for. -/

namespace NdtSlam

inductive YawReferenceSource where
  | newMapBootstrapReference
  | configSiteReference
  | verifiedMapSession
  deriving DecidableEq

def yawReferenceSourceName : YawReferenceSource → String
  | .newMapBootstrapReference => "NEW_MAP_BOOTSTRAP_REFERENCE"
  | .configSiteReference => "CONFIG_SITE_REFERENCE"
  | .verifiedMapSession => "VERIFIED_MAP_SESSION"

def yawReferenceSourceFromName (name : String) : Option YawReferenceSource :=
  if name = "NEW_MAP_BOOTSTRAP_REFERENCE" then some .newMapBootstrapReference
  else if name = "CONFIG_SITE_REFERENCE" then some .configSiteReference
  else if name = "VERIFIED_MAP_SESSION" then some .verifiedMapSession
  else none

theorem yawReferenceSourceFromName_name (source : YawReferenceSource) :
    yawReferenceSourceFromName (yawReferenceSourceName source) = some source := by
  cases source <;> decide

structure RailYawReference where
  schemaVersion : Nat := 1
  verified : Bool := false
  railYawInMapRad : Scalar := 0
  source : YawReferenceSource := .newMapBootstrapReference
  mapFrameUuid : String := ""
  mapFrameId : String := "map"
  baseFrameId : String := "base_link"
  mapFrameConventionId : String := ""
  sensorRigCalibrationId : String := ""
  referenceUuid : String := ""
  referenceHash : String := ""

def fnv1a64 (text : String) : UInt64 :=
  text.toUTF8.data.toList.foldl
    (fun hash byte => (hash ^^^ byte.toUInt64) * 1099511628211) 1469598103934665603

def hex64 (value : UInt64) : String :=
  let digits := Nat.toDigits 16 value.toNat
  String.ofList (List.replicate (16 - digits.length) '0' ++ digits)

namespace RailYawReference

def canonicalReference (formatYaw : Scalar → String) (reference : RailYawReference) : String :=
  "schema=" ++ toString reference.schemaVersion ++
    ";verified=" ++ (if reference.verified then "1" else "0") ++
    ";yaw=" ++ formatYaw reference.railYawInMapRad ++
    ";source=" ++ yawReferenceSourceName reference.source ++
    ";map_frame_uuid=" ++ reference.mapFrameUuid ++
    ";map_frame_id=" ++ reference.mapFrameId ++
    ";base_frame_id=" ++ reference.baseFrameId ++
    ";convention=" ++ reference.mapFrameConventionId ++
    ";sensor_rig=" ++ reference.sensorRigCalibrationId ++
    ";reference_uuid=" ++ reference.referenceUuid

def semanticYawReferenceHash (formatYaw : Scalar → String) (reference : RailYawReference) :
    String :=
  hex64 (fnv1a64 (reference.canonicalReference formatYaw))

def validateRailYawReference (formatYaw : Scalar → String) (reference : RailYawReference) :
    Except String Unit := do
  refuseIf (reference.schemaVersion != 1) "unsupported_yaw_reference_schema"
  refuseIf (!reference.verified) "yaw_reference_not_verified"
  refuseIf (!reference.railYawInMapRad.isFinite) "yaw_reference_nonfinite"
  refuseIf (reference.mapFrameUuid == "" || reference.referenceUuid == "")
    "yaw_reference_identity_missing"
  refuseIf (reference.referenceHash != reference.semanticYawReferenceHash formatYaw)
    "yaw_reference_hash_mismatch"

end RailYawReference

end NdtSlam
