import NdtSlam.MapSession.YawBinding
import NdtSlam.TileStore.DirtyTiles

/-! The files of the persistent map, and the steps in which a flush replaces and catalogues them. -/

namespace NdtSlam

open PersistentRegistration

structure TileCodec where
  Content : Type
  encode : List Vec3 → Content
  decode : Content → Except String (Option (List Vec3))
  size : Content → Nat
  sha256 : Content → String
  decode_encode : ∀ cloud, decode (encode cloud) = .ok (some cloud)
  size_lt : ∀ content, size content < 2 ^ 64
  sha256_length : ∀ content, (sha256 content).length = 64

structure CatalogFormat where
  library : YamlLibrary
  writeNat : Nat → String
  writeReal : Scalar → String
  toUInt32_writeNat : ∀ value < 2 ^ 32, library.toUInt32 (writeNat value) = some value
  toUInt64_writeNat : ∀ value < 2 ^ 64, library.toUInt64 (writeNat value) = some value
  toBool_true : library.toBool "true" = some true
  toBool_false : library.toBool "false" = some false
  toDouble_writeReal : ∀ value, value.isFinite = true →
    library.toDouble (writeReal value) = some value

structure CatalogSettings where
  codec : TileCodec
  format : CatalogFormat
  formatYaw : Scalar → String
  voxelGrid : Scalar → List Vec3 → List Vec3
  voxelGrid_keeps : ∀ leaf cloud, (∃ point ∈ cloud, point.allFinite = true) →
    voxelGrid leaf cloud ≠ []
  root : String
  mapUuid : String
  tileSizeM : Scalar
  mapFrameUuid : MapUuid
  authority : RailYawAuthority
  authority_holds : authority.valid = true → authority.reference.schemaVersion = 1 ∧
    authority.reference.railYawInMapRad.isFinite = true ∧
    authority.reference.referenceHash =
      authority.reference.semanticYawReferenceHash formatYaw
  createdAtSec : Scalar := 0

namespace TileLayer

def all : List TileLayer := [.registration, .display, .ground, .objects]

def directory : TileLayer → String
  | .registration => "tiles_registration"
  | .display => "tiles_display"
  | .ground => "tiles_ground"
  | .objects => "tiles_objects"

def label : TileLayer → String
  | .registration => "registration"
  | .display => "display"
  | .ground => "ground"
  | .objects => "objects"

def tileVoxel : TileLayer → Scalar
  | .registration => 0.30
  | .display => 0.10
  | .ground => 0.15
  | .objects => 0.08

def ofDirectory (name : List Char) : Option TileLayer :=
  all.find? fun layer => layer.directory.toList == name

end TileLayer

abbrev TileDirectory (codec : TileCodec) := Std.ExtTreeMap String codec.Content compare

structure TileDisk (codec : TileCodec) where
  directory : TileLayer → Option (TileDirectory codec)
  manifest : Option (Except String YamlNode)

inductive TilePlace where
  | manifest
  | directory (layer : TileLayer)
  | file (layer : TileLayer) (name : String)
  | elsewhere

namespace TilePlace

def ofNames : List (List Char) → TilePlace
  | [name] =>
    if name = kManifestName.toList then .manifest
    else match TileLayer.ofDirectory name with
      | some layer => .directory layer
      | none => .elsewhere
  | [parent, name] =>
    match TileLayer.ofDirectory parent with
    | some layer => .file layer (String.ofList name)
    | none => .elsewhere
  | _ => .elsewhere

def ofPath (root path : String) : TilePlace :=
  if (pathNames root).isPrefixOf (pathNames path) then
    ofNames ((pathNames path).drop (pathNames root).length)
  else .elsewhere

end TilePlace

namespace TileDisk

variable {codec : TileCodec} (disk : TileDisk codec)

def file? (layer : TileLayer) (name : String) : Option codec.Content :=
  (disk.directory layer).bind (·[name]?)

def names (layer : TileLayer) : List String := ((disk.directory layer).getD ∅).keys

def directoryEntry (name : String) : Option DirectoryEntry :=
  if plain : '/' ∉ name.toList then some ⟨name, .regular, plain⟩ else none

def view (root : String) : TileFiles Vec3 where
  status path := match TilePlace.ofPath root path with
    | .manifest => if disk.manifest.isSome then .regular else .missing
    | .directory layer => if (disk.directory layer).isSome then .directory else .missing
    | .file layer name => if (disk.file? layer name).isSome then .regular else .missing
    | .elsewhere => .missing
  listing path := match TilePlace.ofPath root path with
    | .directory layer => { entries := (disk.names layer).filterMap directoryEntry }
    | _ => { opens := false }
  fileSize path := match TilePlace.ofPath root path with
    | .file layer name => (disk.file? layer name).map codec.size
    | _ => none
  sha256File path := match TilePlace.ofPath root path with
    | .file layer name => ((disk.file? layer name).map codec.sha256).getD ""
    | _ => ""
  loadFile path := match TilePlace.ofPath root path with
    | .manifest => disk.manifest.getD (.error "bad file")
    | _ => .error "bad file"
  loadPCDFile path := match TilePlace.ofPath root path with
    | .file layer name =>
      match disk.file? layer name with
      | some content => codec.decode content
      | none => .ok none
    | _ => .ok none

variable (layer : TileLayer)

def setDirectory (files : Option (TileDirectory codec)) : TileDisk codec :=
  { disk with directory := Function.update disk.directory layer files }

def put (name : String) (content : codec.Content) : TileDisk codec :=
  disk.setDirectory layer (some (((disk.directory layer).getD ∅).insert name content))

def remove (name : String) : TileDisk codec :=
  disk.setDirectory layer ((disk.directory layer).map fun files => files.erase name)

def createDirectory : TileDisk codec :=
  disk.setDirectory layer (some ((disk.directory layer).getD ∅))

def isTileName (name : String) : Bool :=
  hasTileExtension name.toList && !name.toList.contains '/'

def tiles : List (String × codec.Content) :=
  ((disk.directory layer).getD ∅).toList.filter fun item => isTileName item.1

end TileDisk

/-! ### What a flush writes -/

structure TileJob where
  layer : TileLayer
  key : String
  points : List Vec3

namespace TileJob

variable (job : TileJob)

def fileName : String := job.key ++ ".pcd"

def temporaryName : String := job.fileName ++ ".tmp"

def ofLayer (key : String) (tile : TileLayers) (layer : TileLayer) : Option TileJob :=
  match tile layer with
  | none | some [] => none
  | some points => some ⟨layer, key, points⟩

end TileJob

def CatalogSettings.voxelFilter (settings : CatalogSettings) (layer : TileLayer)
    (input : List Vec3) : List Vec3 :=
  if 100 < input.length then settings.voxelGrid layer.tileVoxel input else input

namespace TileDisk

variable {settings : CatalogSettings} (disk : TileDisk settings.codec)

def existing (job : TileJob) : Option (List Vec3) :=
  match disk.file? job.layer job.fileName with
  | none => some []
  | some content =>
    match settings.codec.decode content with
    | .ok (some cloud) => some cloud
    | .ok none => some []
    | .error _ => none

def merged (job : TileJob) : settings.codec.Content :=
  settings.codec.encode
    (settings.voxelFilter job.layer ((disk.existing job).getD [] ++ job.points))

end TileDisk

section

variable (settings : CatalogSettings)

def CatalogSettings.catalogReference : RailYawReference :=
  let held := settings.authority.reference
  if settings.authority.valid && held.verified &&
      held.mapFrameUuid == settings.mapFrameUuid.val then held
  else
    let fallback : RailYawReference := { mapFrameUuid := settings.mapFrameUuid.val }
    { fallback with referenceHash := fallback.semanticYawReferenceHash settings.formatYaw }

def CatalogSettings.headingDocument : YamlNode :=
  let reference := settings.catalogReference
  .map [
    ("schema_version", .scalar (settings.format.writeNat reference.schemaVersion)),
    ("verified", .scalar (if reference.verified then "true" else "false")),
    ("rail_yaw_in_map_rad", .scalar (settings.format.writeReal reference.railYawInMapRad)),
    ("source", .scalar (yawReferenceSourceName reference.source)),
    ("map_frame_uuid", .scalar settings.mapFrameUuid.val),
    ("map_frame_id", .scalar reference.mapFrameId),
    ("base_frame_id", .scalar reference.baseFrameId),
    ("map_frame_convention_id", .scalar reference.mapFrameConventionId),
    ("sensor_rig_calibration_id", .scalar reference.sensorRigCalibrationId),
    ("reference_uuid", .scalar reference.referenceUuid),
    ("reference_hash", .scalar reference.referenceHash)]

def CatalogSettings.tileEntry (layer : TileLayer) (item : String × settings.codec.Content) :
    YamlNode :=
  .map [
    ("path", .scalar (layer.directory ++ "/" ++ item.1)),
    ("bytes", .scalar (settings.format.writeNat (settings.codec.size item.2))),
    ("sha256", .scalar (settings.codec.sha256 item.2))]

def CatalogSettings.catalogDocument (disk : TileDisk settings.codec) : YamlNode :=
  .map [
    ("schema", .scalar kManifestSchema),
    ("schema_version", .scalar (settings.format.writeNat kManifestSchemaVersion)),
    ("map_uuid", .scalar settings.mapUuid),
    ("map_frame_uuid", .scalar settings.mapFrameUuid.val),
    ("yaw_reference", settings.headingDocument),
    ("created_at_sec", .scalar (settings.format.writeReal settings.createdAtSec)),
    ("tile_size_m", .scalar (settings.format.writeReal settings.tileSizeM)),
    ("layers", .map (TileLayer.all.map fun layer =>
      (layer.label, .sequence ((disk.tiles layer).map (settings.tileEntry layer)))))]

end

inductive FlushFileStep where
  | createDirectory (layer : TileLayer)
  | writeTemporary (job : TileJob)
  | replaceTile (job : TileJob)
  | writeTemporaryCatalog
  | replaceCatalog

inductive TileOutcome where
  | written
  | temporaryFails
  | renameFails
  deriving DecidableEq

structure FlushBatch where
  tiles : TileMap
  named : ∀ key ∈ tiles, ∃ config point, key = TileStoreConfig.tileKeyFor config point
  finite : ∀ layer key, ∀ point ∈ tiles.points layer key, point.allFinite = true

def FlushBatch.jobs (batch : FlushBatch) : List TileJob :=
  batch.tiles.toList.flatMap fun item => TileLayer.all.filterMap (TileJob.ofLayer item.1 item.2)

structure FlushOutcomes where
  tile : TileLayer → String → TileOutcome := fun _ _ => .written
  catalog : Bool := true

section Flush

variable {settings : CatalogSettings} (disk : TileDisk settings.codec) (batch : FlushBatch)
  (outcomes : FlushOutcomes)

def TileDisk.outcome (job : TileJob) : TileOutcome :=
  if (disk.existing job).isSome then outcomes.tile job.layer job.key else .temporaryFails

def TileDisk.jobSteps (job : TileJob) : List FlushFileStep :=
  match disk.outcome outcomes job with
  | .written => [.writeTemporary job, .replaceTile job]
  | .temporaryFails => []
  | .renameFails => [.writeTemporary job]

def TileDisk.tileSteps : List FlushFileStep :=
  TileLayer.all.map .createDirectory ++ batch.jobs.flatMap (disk.jobSteps outcomes)

def TileDisk.allWritten : Bool :=
  batch.jobs.all fun job => disk.outcome outcomes job == .written

def TileDisk.flushSteps : List FlushFileStep :=
  disk.tileSteps batch outcomes ++
    if disk.allWritten batch outcomes then
      .writeTemporaryCatalog :: if outcomes.catalog then [.replaceCatalog] else []
    else []

def TileDisk.apply : FlushFileStep → TileDisk settings.codec
  | .createDirectory layer => disk.createDirectory layer
  | .writeTemporary job => disk.put job.layer job.temporaryName (disk.merged job)
  | .replaceTile job =>
    -- The temporary file holds the merge that was made right before.
    (disk.remove job.layer job.temporaryName).put job.layer job.fileName (disk.merged job)
  -- No reader looks at the temporary catalogue.
  | .writeTemporaryCatalog => disk
  | .replaceCatalog => { disk with manifest := some (.ok (settings.catalogDocument disk)) }

def TileDisk.run (steps : List FlushFileStep) : TileDisk settings.codec :=
  steps.foldl TileDisk.apply disk

def TileDisk.interrupted (count : Nat) : TileDisk settings.codec :=
  disk.run ((disk.flushSteps batch outcomes).take count)

def TileDisk.load : Option (PersistentRegistrationLoadResult Vec3) :=
  loadPersistentRegistrationLayer settings.format.library settings.formatYaw
    (disk.view settings.root) settings.root settings.mapUuid settings.tileSizeM

end Flush
end NdtSlam
