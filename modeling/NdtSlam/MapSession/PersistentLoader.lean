import NdtSlam.MapSession.TileFiles
import NdtSlam.MapSession.YawReference

/-! The reader of the persistent map, which tells a new map from a broken one. -/

namespace NdtSlam

inductive PersistentRegistrationLoadStatus where
  | newMapBootstrap
  | restored
  | invalidExistingMap

structure PersistentRegistrationLoadResult (Point : Type) where
  status : PersistentRegistrationLoadStatus := .invalidExistingMap
  reason : String := ""
  cloud : List Point := []
  tileCount : Nat := 0
  mapFrameUuid : String := ""
  yawReference : RailYawReference := {}
  railWriteAuthorized : Bool := false

inductive LoadStop where
  | refused (reason : String)
  | thrown (what : String)
  | neverReturns

def attempt {Value : Type} : Except String Value → Except LoadStop Value
  | .ok value => .ok value
  | .error what => .error (.thrown what)

def refuseWhen (faulty : Bool) (reason : String) : Except LoadStop Unit :=
  if faulty then .error (.refused reason) else .ok ()

namespace YamlNode

def isMap (library : YamlLibrary) : YamlNode → Except String Bool
  | .absent key => .error (library.invalidNode key)
  | .map _ => .ok true
  | _ => .ok false

def items (library : YamlLibrary) : YamlNode → Except String (Option (List YamlNode))
  | .absent key => .error (library.invalidNode key)
  | .sequence items => .ok (some items)
  | _ => .ok none

def uint64At (library : YamlLibrary) (node : YamlNode) (key : String) : Except String Nat := do
  match ← node.child library key with
  | .absent missing => throw (library.invalidNode missing)
  | .scalar text =>
    match library.toUInt64 text with
    | some value => return value
    | none => throw library.badConversion
  | _ => throw library.badConversion

end YamlNode

namespace PersistentRegistration

def kManifestName : String := "persistent_map_manifest.json"
def kRegistrationDirectory : String := "tiles_registration"
def kManifestSchema : String := "ndt_slam_persistent_tile_catalog"
def kLegacyManifestSchemaVersion : Nat := 1
def kManifestSchemaVersion : Nat := 2

def kLayerDirectories : List String :=
  ["tiles_registration", "tiles_display", "tiles_ground", "tiles_objects"]

section Loader

variable {Point : Type} (library : YamlLibrary) (formatYaw : Scalar → String)
  (files : TileFiles Point) (root : String)

def enumerateRegistrationTiles : Except LoadStop (List String) :=
  let directory := pathBelow root kRegistrationDirectory
  match files.status directory with
  | .missing => .ok []
  | .failed => .error (.refused "registration_directory_stat_failed")
  | .directory =>
    match (files.listing directory).tiles with
    | some names => .ok names
    | none => .error (.refused "registration_tile_scan_failed")
  | _ => .error (.refused "registration_path_not_directory")

def layerOccupied (layer : String) : Option String :=
  let directory := pathBelow root layer
  match files.status directory with
  | .missing => none
  | .failed => some "persistent_layer_stat_failed"
  | .directory =>
    let listing := files.listing directory
    -- The walk ends with the first tile that it meets.
    if listing.opens && listing.entries.any DirectoryEntry.isTile then some ""
    else if listing.opens && listing.completes then none
    else some "persistent_layer_scan_failed"
  | _ => some "persistent_layer_not_directory"

def hasAnyPersistentTileOnDisk : Option String :=
  kLayerDirectories.findSome? (layerOccupied files root)

def validateLayerEntry (directory : String) (catalogPaths : List (List (List Char)))
    (item : YamlNode) : Except LoadStop (List (List (List Char))) := do
  refuseWhen (!(← attempt (item.isMap library))) "persistent_layer_entry_invalid"
  let relative ← attempt (item.textAt library "path" "")
  refuseWhen (relative == "" || isAbsolute relative ||
      parentNames relative != [directory.toList] || !hasTileExtension (fileName relative) ||
      relative.toList.contains '\\' || catalogPaths.contains (pathNames relative))
    "persistent_layer_path_invalid"
  refuseWhen ((pathNames relative).any fun name => name == "..".toList || name == ".".toList)
    "persistent_layer_path_invalid"
  let tilePath := pathBelow root relative
  refuseWhen (files.status tilePath != .regular) ("persistent_layer_tile_missing:" ++ relative)
  let expectedBytes ← attempt (item.uint64At library "bytes")
  refuseWhen (files.fileSize tilePath != some expectedBytes)
    ("persistent_layer_size_mismatch:" ++ relative)
  let expectedHash ← attempt (item.textAt library "sha256" "")
  refuseWhen (expectedHash.length != 64 || files.sha256File tilePath != expectedHash)
    ("persistent_layer_hash_mismatch:" ++ relative)
  return pathNames relative :: catalogPaths

def layerTiles (layer directory : String) : Except LoadStop (List String) :=
  let path := pathBelow root directory
  match files.status path with
  | .missing => .ok []
  | .failed => .error (.refused "persistent_layer_stat_failed")
  | .directory =>
    match (files.listing path).tiles with
    | some names => .ok names
    | none => .error (.refused ("persistent_layer_catalog_mismatch:" ++ layer))
  | _ => .error (.refused "persistent_layer_not_directory")

def samePaths {Path : Type} [BEq Path] (first second : List Path) : Bool :=
  first.all second.contains && second.all first.contains

def validateLayerCatalog (layer directory : String) (entries : List YamlNode) :
    Except LoadStop Unit := do
  let catalogPaths ← entries.foldlM (validateLayerEntry library files root directory) []
  let names ← layerTiles files root layer directory
  let diskPaths := names.map fun name => [directory.toList, name.toList]
  refuseWhen (!samePaths diskPaths catalogPaths) ("persistent_layer_catalog_mismatch:" ++ layer)

structure CatalogEntry where
  relativePath : String
  bytes : Nat
  sha256 : String

def isSafeRegistrationPath (value : String) : Bool :=
  value != "" && !isAbsolute value && hasTileExtension (fileName value) &&
    !value.toList.contains '\\' && parentNames value == [kRegistrationDirectory.toList] &&
    !(pathNames value).any fun name => name == "..".toList || name == ".".toList

def readRegistrationEntry (entries : List CatalogEntry) (item : YamlNode) :
    Except LoadStop (List CatalogEntry) := do
  refuseWhen (!(← attempt (item.isMap library))) "persistent_registration_entry_invalid"
  let relativePath ← attempt (item.textAt library "path" "")
  refuseWhen (!isSafeRegistrationPath relativePath ||
    entries.any fun entry => entry.relativePath == relativePath)
    "persistent_registration_path_invalid"
  let bytes ← attempt (item.uint64At library "bytes")
  let sha256 ← attempt (item.textAt library "sha256" "")
  refuseWhen (sha256.length != 64) "persistent_registration_hash_invalid"
  return entries ++ [⟨relativePath, bytes, sha256⟩]

def loadRegistrationTile (cloud : List Point) (entry : CatalogEntry) :
    Except LoadStop (List Point) := do
  let path := pathBelow root entry.relativePath
  refuseWhen (files.status path != .regular)
    ("persistent_registration_tile_missing:" ++ entry.relativePath)
  refuseWhen (files.fileSize path != some entry.bytes)
    ("persistent_registration_size_mismatch:" ++ entry.relativePath)
  refuseWhen (files.sha256File path == "" || files.sha256File path != entry.sha256)
    ("persistent_registration_hash_mismatch:" ++ entry.relativePath)
  match ← attempt (files.loadPCDFile path) with
  | none => .error (.refused ("persistent_registration_decode_failed:" ++ entry.relativePath))
  | some tile =>
    refuseWhen tile.isEmpty ("persistent_registration_decode_failed:" ++ entry.relativePath)
    return cloud ++ tile

def loadRegistration (registration : List YamlNode) (diskTiles : List String) :
    Except LoadStop (List Point × Nat) := do
  let entries ← registration.foldlM (readRegistrationEntry library) []
  let diskPaths := diskTiles.map fun name => kRegistrationDirectory ++ "/" ++ name
  refuseWhen (!samePaths (entries.map (·.relativePath)) diskPaths)
    "persistent_registration_catalog_mismatch"
  let cloud ← entries.foldlM (loadRegistrationTile files root) []
  refuseWhen cloud.isEmpty "persistent_registration_empty"
  return (cloud, entries.length)

variable (manifest : YamlNode)

def readSchema (expectedMapUuid : String) : Except LoadStop Nat := do
  let schemaVersion ← attempt (manifest.valueAt library library.toUInt32 "schema_version" 0)
  let isMap ← attempt (manifest.isMap library)
  let schema ← attempt (manifest.textAt library "schema" "")
  refuseWhen (!isMap || schema != kManifestSchema ||
      (schemaVersion != kLegacyManifestSchemaVersion && schemaVersion != kManifestSchemaVersion))
    "persistent_manifest_schema_invalid"
  -- Only the first schema identifies a map by the path of its root.
  if schemaVersion = kLegacyManifestSchemaVersion then
    refuseWhen ((← attempt (manifest.textAt library "map_uuid" "")) != expectedMapUuid)
      "persistent_manifest_uuid_mismatch"
  return schemaVersion

structure MapHeading where
  mapFrameUuid : String := ""
  yawReference : RailYawReference := {}
  railWriteAuthorized : Bool := false

def parseYawReference (reference : YamlNode) : Except LoadStop RailYawReference := do
  let schemaVersion ← attempt (reference.valueAt library library.toUInt32 "schema_version" 0)
  let verified ← attempt (reference.valueAt library library.toBool "verified" false)
  let railYawInMapRad ←
    attempt (reference.valueAt library library.toDouble "rail_yaw_in_map_rad" 0)
  match yawReferenceSourceFromName (← attempt (reference.textAt library "source" "")) with
  | none => .error (.refused "persistent_manifest_yaw_source_invalid")
  | some source =>
    return {
      schemaVersion, verified, railYawInMapRad, source
      mapFrameUuid := ← attempt (reference.textAt library "map_frame_uuid" "")
      mapFrameId := ← attempt (reference.textAt library "map_frame_id" "")
      baseFrameId := ← attempt (reference.textAt library "base_frame_id" "")
      mapFrameConventionId := ← attempt (reference.textAt library "map_frame_convention_id" "")
      sensorRigCalibrationId :=
        ← attempt (reference.textAt library "sensor_rig_calibration_id" "")
      referenceUuid := ← attempt (reference.textAt library "reference_uuid" "")
      referenceHash := ← attempt (reference.textAt library "reference_hash" "") }

def normalizeAngleReturns (angle : Scalar) : Bool := angle ≠ .posInf && angle ≠ .negInf

def checkYawReference (mapFrameUuid : String) (reference : RailYawReference) :
    Except LoadStop Unit := do
  -- The hash is made from the normalized angle, whether or not the reference is verified.
  if !normalizeAngleReturns reference.railYawInMapRad then .error .neverReturns
  refuseWhen (reference.verified && (reference.mapFrameUuid != mapFrameUuid ||
      reference.referenceHash == "" ||
      reference.referenceHash != reference.semanticYawReferenceHash formatYaw))
    "persistent_manifest_yaw_reference_invalid"

def readHeading (schemaVersion : Nat) : Except LoadStop MapHeading := do
  if schemaVersion = kManifestSchemaVersion then
    let mapFrameUuid ← attempt (manifest.textAt library "map_frame_uuid" "")
    refuseWhen (mapFrameUuid == "") "persistent_manifest_map_frame_uuid_missing"
    match ← attempt (manifest.child library "yaw_reference") with
    | .map fields =>
      let yawReference ← parseYawReference library (.map fields)
      checkYawReference formatYaw mapFrameUuid yawReference
      return { mapFrameUuid, yawReference, railWriteAuthorized := yawReference.verified }
    | _ => return { mapFrameUuid }
  else return {}

structure LayerCatalogs where
  registration : List YamlNode
  display : List YamlNode
  ground : List YamlNode
  objects : List YamlNode

def readCatalog (layers : YamlNode) (layer : String) : Except LoadStop (List YamlNode) := do
  match ← attempt ((← attempt (layers.child library layer)).items library) with
  | some items => return items
  | none => .error (.refused "persistent_layer_catalog_invalid")

def readCatalogs (expectedTileSizeM : Scalar) : Except LoadStop LayerCatalogs := do
  let manifestTileSize ← attempt (manifest.valueAt library library.toDouble "tile_size_m" 0)
  refuseWhen (!manifestTileSize.isFinite || !expectedTileSizeM.isFinite ||
      expectedTileSizeM ≤ 0 || 1.0e-6 < (manifestTileSize - expectedTileSizeM).abs)
    "persistent_manifest_tile_size_mismatch"
  let layers ← attempt (manifest.child library "layers")
  refuseWhen (!(← attempt (layers.isMap library))) "persistent_layers_catalog_invalid"
  return {
    registration := ← readCatalog library layers "registration"
    display := ← readCatalog library layers "display"
    ground := ← readCatalog library layers "ground"
    objects := ← readCatalog library layers "objects" }

def LayerCatalogs.empty (catalogs : LayerCatalogs) : Bool :=
  catalogs.registration.isEmpty && catalogs.display.isEmpty && catalogs.ground.isEmpty &&
    catalogs.objects.isEmpty

def restoreLayers (catalogs : LayerCatalogs) (diskTiles : List String) :
    Except LoadStop (List Point × Nat) := do
  validateLayerCatalog library files root "display" "tiles_display" catalogs.display
  validateLayerCatalog library files root "ground" "tiles_ground" catalogs.ground
  validateLayerCatalog library files root "objects" "tiles_objects" catalogs.objects
  loadRegistration library files root catalogs.registration diskTiles

def newMap (reason : String) : PersistentRegistrationLoadResult Point :=
  { status := .newMapBootstrap, reason }

def readManifest (expectedMapUuid : String) (expectedTileSizeM : Scalar) :
    Except LoadStop (MapHeading × LayerCatalogs) := do
  let manifest ← attempt (files.loadFile (pathBelow root kManifestName))
  let schemaVersion ← readSchema library manifest expectedMapUuid
  let heading ← readHeading library formatYaw manifest schemaVersion
  return (heading, ← readCatalogs library manifest expectedTileSizeM)

def loadDescribed (diskTiles : List String) (expectedMapUuid : String)
    (expectedTileSizeM : Scalar) :
    Except LoadStop (PersistentRegistrationLoadResult Point) := do
  let (heading, catalogs) ←
    readManifest library formatYaw files root expectedMapUuid expectedTileSizeM
  if catalogs.registration.isEmpty then
    match if catalogs.empty then hasAnyPersistentTileOnDisk files root else some "" with
    | none => return newMap "new_map_empty_registration_catalog"
    | some reason =>
      .error (.refused (if reason = "" then "persistent_registration_catalog_empty" else reason))
  else
    let (cloud, tileCount) ← restoreLayers library files root catalogs diskTiles
    return {
      status := .restored
      reason := "persistent_registration_restored"
      cloud, tileCount
      mapFrameUuid := heading.mapFrameUuid
      yawReference := heading.yawReference
      railWriteAuthorized := heading.railWriteAuthorized }

def loadLayer (expectedMapUuid : String) (expectedTileSizeM : Scalar) :
    Except LoadStop (PersistentRegistrationLoadResult Point) := do
  let diskTiles ← enumerateRegistrationTiles files root
  match files.status (pathBelow root kManifestName) with
  | .failed => .error (.refused "persistent_manifest_stat_failed")
  | .missing =>
    match hasAnyPersistentTileOnDisk files root with
    | none => return newMap "new_map_no_registration_tiles"
    | some reason =>
      .error (.refused (if reason = "" then "persistent_manifest_missing" else reason))
  | .regular =>
    loadDescribed library formatYaw files root diskTiles expectedMapUuid expectedTileSizeM
  | _ => .error (.refused "persistent_manifest_not_regular_file")

def invalidResult (reason : String) : PersistentRegistrationLoadResult Point :=
  { status := .invalidExistingMap, reason }

def loadPersistentRegistrationLayer (expectedMapUuid : String) (expectedTileSizeM : Scalar) :
    Option (PersistentRegistrationLoadResult Point) :=
  match loadLayer library formatYaw files root expectedMapUuid expectedTileSizeM with
  | .ok result => some result
  | .error (.refused reason) => some (invalidResult reason)
  | .error (.thrown what) => some (invalidResult ("persistent_manifest_parse_failed:" ++ what))
  | .error .neverReturns => none

end Loader
end PersistentRegistration
end NdtSlam
