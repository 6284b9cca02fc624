import NdtSlam.MapSession.Yaml
import NdtSlam.MapSession.YawReference
import NdtSlam.StaticEvidence.Authority

/-! The strict reader of saved map sessions. -/

namespace NdtSlam.MapSessionSnapshot

def kSchemaVersion : Nat := 2

def kLegacySchemaVersion : Nat := 1

structure FileEntry where
  bytes : List UInt8
  readable : Bool := true

abbrev FileSystem := String → Option FileEntry

structure SessionLibrary where
  yaml : YamlLibrary
  absolutePath : String → String
  sha256 : List UInt8 → String
  Cloud : Type
  loadPcd : List UInt8 → Option Cloud
  cloudSize : Cloud → Nat
  formatYaw : Scalar → String

structure MapSessionMetadata where
  mapUuid : String := ""
  mapFrameUuid : String := ""
  frameId : String := "map"
  baseFrameId : String := "base_link"
  mapFrameConventionId : String := ""
  sensorRigCalibrationId : String := ""
  yawReference : RailYawReference := {}
  railWriteAuthorized : Bool := false
  sourceGitSha : String := "unknown"
  sourceGitBranch : String := "unknown"
  mapGeneration : Nat := 0
  objectsContentVersion : Nat := 0
  cleanBuildVersion : Nat := 0
  keyframeCount : Nat := 0
  sourceStampSec : Scalar := 0
  activeOnly : Bool := false
  objectsVoxelSizeM : Scalar := 0

structure MapSessionLayers (Cloud : Type) where
  registration : Cloud
  display : Cloud
  ground : Cloud
  objectsRaw : Cloud
  objectsClean : Cloud

structure MapSessionLoadResult (Cloud : Type) where
  sessionDirectory : String
  metadata : MapSessionMetadata
  layers : MapSessionLayers Cloud
  staticEvidencePath : String
  staticAuthority : StaticEvidenceAuthority
  staticEvidenceRevision : Nat
  staticEvidenceSourceGeneration : Nat

def joinPath (root relative : String) : String :=
  if root.endsWith "/" then root ++ relative else root ++ "/" ++ relative

def safeRelativePath (name : String) : Bool :=
  name != "" && name.toList.head? != some '/' &&
    (name.toList.splitOn '/').all (· != "..".toList)

section Reader

variable (library : SessionLibrary) (files : FileSystem)

def sha256File (path : String) : String :=
  match files path with
  | some file => if file.readable then library.sha256 file.bytes else ""
  | none => ""

def fileSize (path : String) : Except String Nat :=
  match files path with
  | some file => .ok file.bytes.length
  | none => .error ("filesystem error: cannot get file size: " ++ path)

def loadPCDFile (path : String) : Option library.Cloud :=
  match files path with
  | some file => if file.readable then library.loadPcd file.bytes else none
  | none => none

def loadManifest (root : String) : Except String YamlNode :=
  match files (joinPath root "manifest.yaml") with
  | some file => if file.readable then library.yaml.load file.bytes else .error "bad file"
  | none => .error "manifest_missing"

variable (manifest : YamlNode)

def readSchema : Except String Nat := do
  let schemaVersion ← manifest.valueAt library.yaml library.yaml.toUInt32 "schema_version" 0
  refuseIf
    ((← manifest.textAt library.yaml "schema" "") != "ndt_slam_map_session" ||
      (schemaVersion != kSchemaVersion && schemaVersion != kLegacySchemaVersion) ||
      !(← manifest.valueAt library.yaml library.yaml.toBool "complete" false))
    "manifest_schema_or_completeness_invalid"
  return schemaVersion

def readIdentity (schemaVersion : Nat) : Except String MapSessionMetadata := do
  let mapUuid ← manifest.textAt library.yaml "map_uuid" ""
  let frameId ← manifest.textAt library.yaml "frame_id" ""
  refuseIf (mapUuid == "" || frameId == "") "manifest_identity_invalid"
  -- Before frames had an identity of their own, the map stood for its frame.
  let mapFrameUuid ←
    if kSchemaVersion ≤ schemaVersion then manifest.textAt library.yaml "map_frame_uuid" ""
    else pure mapUuid
  let baseFrameId ← manifest.textAt library.yaml "base_frame_id" "base_link"
  let mapFrameConventionId ← manifest.textAt library.yaml "map_frame_convention_id" ""
  let sensorRigCalibrationId ← manifest.textAt library.yaml "sensor_rig_calibration_id" ""
  refuseIf (mapFrameUuid == "") "map_frame_identity_missing"
  return { mapUuid, mapFrameUuid, frameId, baseFrameId, mapFrameConventionId
           sensorRigCalibrationId }

def parseYawReference (yaw : YamlNode) : Except String RailYawReference := do
  let yaml := library.yaml
  let schemaVersion ← yaw.valueAt yaml yaml.toUInt32 "schema_version" 0
  let verified ← yaw.valueAt yaml yaml.toBool "verified" false
  let railYawInMapRad ← yaw.valueAt yaml yaml.toDouble "rail_yaw_in_map_rad" 0
  match yawReferenceSourceFromName (← yaw.textAt yaml "source" "") with
  | none => throw "yaw_reference_source_invalid"
  | some source =>
    return {
      schemaVersion, verified, railYawInMapRad, source
      mapFrameUuid := ← yaw.textAt yaml "map_frame_uuid" ""
      mapFrameId := ← yaw.textAt yaml "map_frame_id" ""
      baseFrameId := ← yaw.textAt yaml "base_frame_id" ""
      mapFrameConventionId := ← yaw.textAt yaml "map_frame_convention_id" ""
      sensorRigCalibrationId := ← yaw.textAt yaml "sensor_rig_calibration_id" ""
      referenceUuid := ← yaw.textAt yaml "reference_uuid" ""
      referenceHash := ← yaw.textAt yaml "reference_hash" "" }

def foreignReference (metadata : MapSessionMetadata) (reference : RailYawReference) : Bool :=
  reference.mapFrameUuid != metadata.mapFrameUuid || reference.mapFrameId != metadata.frameId ||
    reference.baseFrameId != metadata.baseFrameId ||
    reference.mapFrameConventionId != metadata.mapFrameConventionId ||
    reference.sensorRigCalibrationId != metadata.sensorRigCalibrationId

def readYawReference (schemaVersion : Nat) (metadata : MapSessionMetadata) :
    Except String MapSessionMetadata := do
  if kSchemaVersion ≤ schemaVersion then
    let reference ← parseYawReference library (← manifest.child library.yaml "yaw_reference")
    if reference.verified then
      -- The reason of the check itself is only known where the frames agree.
      refuseIf (foreignReference metadata reference) "yaw_reference_identity_invalid:"
      match reference.validateRailYawReference library.formatYaw with
      | .error reason => throw ("yaw_reference_identity_invalid:" ++ reason)
      | .ok () => return { metadata with yawReference := reference, railWriteAuthorized := true }
    else return { metadata with yawReference := reference }
  else return metadata

def readProvenance (metadata : MapSessionMetadata) : Except String MapSessionMetadata := do
  let yaml := library.yaml
  return { metadata with
    sourceGitSha := ← manifest.textAt yaml "source_git_sha" "unknown"
    sourceGitBranch := ← manifest.textAt yaml "source_git_branch" "unknown"
    sourceStampSec := ← manifest.valueAt yaml yaml.toDouble "source_stamp_sec" 0
    mapGeneration := ← manifest.yamlUInt64 yaml "map_generation"
    objectsContentVersion := ← manifest.yamlUInt64 yaml "objects_content_version"
    cleanBuildVersion := ← manifest.yamlUInt64 yaml "clean_build_version"
    keyframeCount := ← manifest.yamlUInt64 yaml "keyframe_count"
    activeOnly := ← manifest.valueAt yaml yaml.toBool "active_only" false
    objectsVoxelSizeM := ← manifest.valueAt yaml yaml.toFloat "objects_voxel_size_m" 0 }

def staticAuthorityFromName (name : String) : Except String StaticEvidenceAuthority :=
  if name = "RUNTIME_MATURE" then .ok .runtimeMature
  else if name = "OPERATOR_APPROVED_BASELINE" then .ok .operatorApprovedBaseline
  else if name = "UNVERIFIED_LOADED_CLEAN" then .ok .unverifiedLoadedClean
  else .error "static_authority_invalid"

variable (root : String)

def digestAgrees (relative expected : String) : Bool :=
  safeRelativePath relative && sha256File library files (joinPath root relative) == expected

def checkExtra (extra : YamlNode) : Except String Unit := do
  let relative ← extra.textAt library.yaml "path" ""
  let expected ← extra.textAt library.yaml "sha256" ""
  let reason := "extra_file_contract_invalid:" ++ relative
  refuseIf (!safeRelativePath relative || expected.length != 64) reason
  refuseIf (!digestAgrees library files root relative expected) reason
  let recorded ← extra.valueAt library.yaml library.yaml.toUInt64 "bytes" (2 ^ 64 - 1)
  refuseIf ((← fileSize files (joinPath root relative)) != recorded) reason

def listedExtras : Except String (List YamlNode) := do
  match ← manifest.child library.yaml "extra_files" with
  | .sequence items => return items
  | _ => throw "extra_file_manifest_missing"

def fileRecord (key : String) : Except String YamlNode := do
  (← manifest.child library.yaml "files").child library.yaml key

def loadLayer (key : String) : Except String library.Cloud := do
  let file ← fileRecord library manifest key
  let relative ← file.textAt library.yaml "path" ""
  let expected ← file.textAt library.yaml "sha256" ""
  refuseIf (!safeRelativePath relative || expected.length != 64) ("file_contract_invalid:" ++ key)
  refuseIf (!digestAgrees library files root relative expected) ("hash_mismatch:" ++ key)
  match loadPCDFile library files (joinPath root relative) with
  | none => throw ("pcd_invalid:" ++ key)
  | some cloud =>
    let points ← file.valueAt library.yaml library.yaml.toUInt64 "points" (2 ^ 64 - 1)
    refuseIf (library.cloudSize cloud != points) ("pcd_invalid:" ++ key)
    return cloud

def checkStaticEvidence : Except String String := do
  let file ← fileRecord library manifest "static_evidence"
  let relative ← file.textAt library.yaml "path" ""
  let expected ← file.textAt library.yaml "sha256" ""
  refuseIf (!digestAgrees library files root relative expected) "hash_mismatch:static_evidence"
  return joinPath root relative

def checkDisplayFull : Except String Unit := do
  let file ← fileRecord library manifest "display_full"
  let relative ← file.textAt library.yaml "path" ""
  let expected ← file.textAt library.yaml "sha256" ""
  refuseIf (!digestAgrees library files root relative expected) "display_full_contract_invalid"
  let display ← fileRecord library manifest "display"
  refuseIf (expected != (← display.textAt library.yaml "sha256" ""))
    "display_full_contract_invalid"

def loadVerified (directory : String) : Except String (MapSessionLoadResult library.Cloud) := do
  let root := library.absolutePath directory
  let manifest ← loadManifest library files root
  let schemaVersion ← readSchema library manifest
  let identity ← readIdentity library manifest schemaVersion
  let metadata ← readProvenance library manifest
    (← readYawReference library manifest schemaVersion identity)
  let static ← manifest.child library.yaml "static_evidence"
  let staticEvidenceRevision ← static.yamlUInt64 library.yaml "revision"
  let staticEvidenceSourceGeneration ← static.yamlUInt64 library.yaml "map_generation"
  let staticAuthority ← staticAuthorityFromName (← static.textAt library.yaml "authority" "")
  -- Every file is checked before the session counts as verified.
  forM (← listedExtras library manifest) (checkExtra library files root)
  let registration ← loadLayer library files manifest root "registration"
  let display ← loadLayer library files manifest root "display"
  let ground ← loadLayer library files manifest root "ground"
  let objectsRaw ← loadLayer library files manifest root "objects_raw"
  let objectsClean ← loadLayer library files manifest root "objects_clean"
  let staticEvidencePath ← checkStaticEvidence library files manifest root
  checkDisplayFull library files manifest root
  return {
    sessionDirectory := root, metadata
    layers := { registration, display, ground, objectsRaw, objectsClean }
    staticEvidencePath, staticAuthority, staticEvidenceRevision, staticEvidenceSourceGeneration }

end Reader

end NdtSlam.MapSessionSnapshot
