import NdtSlam.MapSession.LoaderIntegrity

/-! The authority over the heading of the rail, and the references that a restored map gives it. -/

namespace NdtSlam

inductive YawAuthorityTransitionReason where
  | initializeFreshMap
  | loadVerifiedSession
  | explicitMapFrameMigration
  | reset
  deriving DecidableEq

def mPi : ℚ := 884279719003555 / 281474976710656

def normalizeAngle : Scalar → Scalar
  | .fin angle => .fin (angle - 2 * mPi * ⌈(angle - mPi) / (2 * mPi)⌉)
  | other => other

theorem normalizeAngle_fin (angle : ℚ) :
    ∃ normalized, normalizeAngle (.fin angle) = .fin normalized ∧
      -mPi < normalized ∧ normalized ≤ mPi := by
  -- The number of turns is the least one that brings the angle down to half a turn.
  have turn : 0 < 2 * mPi := by norm_num [mPi]
  refine ⟨_, rfl, ?_, ?_⟩
  · have least := (lt_div_iff₀ turn).mp (Int.ceil_lt_add_one ((angle - mPi) / (2 * mPi)) |>
      sub_lt_iff_lt_add.mpr)
    linarith
  · have enough := (div_le_iff₀ turn).mp (Int.le_ceil ((angle - mPi) / (2 * mPi)))
    linarith

structure RailYawAuthority where
  valid : Bool := false
  reference : RailYawReference := {}
  generation : UInt64 := 0
  lastTransitionReason : YawAuthorityTransitionReason := .reset

namespace RailYawAuthority

def assignReference (formatYaw : Scalar → String) (authority : RailYawAuthority)
    (reference : RailYawReference) (reason : YawAuthorityTransitionReason) :
    Bool × RailYawAuthority :=
  match reference.validateRailYawReference formatYaw with
  | .error _ => (false, authority)
  | .ok () =>
    let generation := authority.generation + 1
    (true, {
      valid := true
      reference :=
        { reference with railYawInMapRad := normalizeAngle reference.railYawInMapRad }
      -- No generation is zero, not even after the last one.
      generation := if generation = 0 then generation + 1 else generation
      lastTransitionReason := reason })

def initializeReference (formatYaw : Scalar → String) (authority : RailYawAuthority)
    (reference : RailYawReference) (reason : YawAuthorityTransitionReason) :
    Bool × RailYawAuthority :=
  if authority.valid then (false, authority)
  else if reason ≠ .initializeFreshMap ∧ reason ≠ .loadVerifiedSession then (false, authority)
  else authority.assignReference formatYaw reference reason

end RailYawAuthority

namespace RailYawReference

variable {formatYaw : Scalar → String} {reference : RailYawReference}

theorem validate_eq_ok :
    reference.validateRailYawReference formatYaw = .ok () ↔
      reference.schemaVersion = 1 ∧ reference.verified = true ∧
        reference.railYawInMapRad.isFinite = true ∧
        (reference.mapFrameUuid ≠ "" ∧ reference.referenceUuid ≠ "") ∧
        reference.referenceHash = reference.semanticYawReferenceHash formatYaw := by
  unfold validateRailYawReference
  simp [bind_eq_ok]

theorem initializeReference_fresh :
    (RailYawAuthority.initializeReference formatYaw {} reference .loadVerifiedSession).1 = true ↔
      reference.validateRailYawReference formatYaw = .ok () := by
  unfold RailYawAuthority.initializeReference RailYawAuthority.assignReference
  cases reference.validateRailYawReference formatYaw with
  | ok value => simp
  | error reason => simp

end RailYawReference

namespace PersistentRegistration

section Headings

variable {Point : Type} (library : YamlLibrary) (formatYaw : Scalar → String)
  (files : TileFiles Point) (root expectedMapUuid : String) (expectedTileSizeM : Scalar)

/-- A heading that the authority takes over when it authorizes rail writes. -/
def HeadingsAccepted : Prop :=
  ∀ result, loadPersistentRegistrationLayer library formatYaw files root expectedMapUuid
      expectedTileSizeM = some result →
    result.status = .restored → result.railWriteAuthorized = true →
      result.yawReference.validateRailYawReference formatYaw = .ok () ∧
        (RailYawAuthority.initializeReference formatYaw {} result.yawReference
          .loadVerifiedSession).1 = true

variable (reference : RailYawReference)

/-- The map can be restored, and its manifest has a verified reference with the right hash. -/
def Authorizes : Prop :=
  ∃ names manifest catalogs loaded mapFrameUuid fields,
    enumerateRegistrationTiles files root = .ok names ∧
    files.status (pathBelow root kManifestName) = .regular ∧
    files.loadFile (pathBelow root kManifestName) = .ok manifest ∧
    readSchema library manifest expectedMapUuid = .ok kManifestSchemaVersion ∧
    readCatalogs library manifest expectedTileSizeM = .ok catalogs ∧
    catalogs.registration ≠ [] ∧ restoreLayers library files root catalogs names = .ok loaded ∧
    manifest.textAt library "map_frame_uuid" "" = .ok mapFrameUuid ∧ mapFrameUuid ≠ "" ∧
    manifest.child library "yaw_reference" = .ok (.map fields) ∧
    parseYawReference library (.map fields) = .ok reference ∧
    reference.verified = true ∧ reference.mapFrameUuid = mapFrameUuid ∧
    normalizeAngleReturns reference.railYawInMapRad = true ∧
    reference.referenceHash = reference.semanticYawReferenceHash formatYaw

variable {library formatYaw files root expectedMapUuid expectedTileSizeM}

theorem semanticYawReferenceHash_ne : reference.semanticYawReferenceHash formatYaw ≠ "" := by
  -- The text of a number has a digit.
  intro empty
  have digits := congrArg String.toList empty
  simp only [RailYawReference.semanticYawReferenceHash, hex64, String.toList_ofList,
    String.toList_empty, List.append_eq_nil_iff] at digits
  exact Nat.toDigits_ne_nil digits.2

theorem semanticYawReferenceHash_signed (hash : String) :
    { reference with referenceHash := hash }.semanticYawReferenceHash formatYaw
      = reference.semanticYawReferenceHash formatYaw := rfl

variable {reference : RailYawReference}

theorem checkYawReference_verified {mapFrameUuid : String} (verified : reference.verified = true) :
    checkYawReference formatYaw mapFrameUuid reference = .ok () ↔
      normalizeAngleReturns reference.railYawInMapRad = true ∧
        reference.mapFrameUuid = mapFrameUuid ∧
        reference.referenceHash = reference.semanticYawReferenceHash formatYaw := by
  unfold checkYawReference
  cases normalizeAngleReturns reference.railYawInMapRad with
  | false =>
    constructor
    · intro done
      cases done
    · rintro ⟨⟨⟩, -⟩
  | true =>
    simp only [verified, Bool.not_true, Bool.false_eq_true, if_false, Bool.true_and,
      refuseWhen_eq_ok, Bool.or_eq_false_iff, bne_eq_false_iff_eq, beq_eq_false_iff_ne, true_and]
    constructor
    · rintro ⟨⟨uuid, -⟩, hash⟩
      exact ⟨uuid, hash⟩
    · rintro ⟨uuid, hash⟩
      exact ⟨⟨uuid, hash ▸ semanticYawReferenceHash_ne reference⟩, hash⟩

theorem readHeading_authorizes {manifest : YamlNode} {schemaVersion : Nat} :
    (∃ heading, readHeading library formatYaw manifest schemaVersion = .ok heading ∧
        heading.railWriteAuthorized = true ∧ heading.yawReference = reference) ↔
      schemaVersion = kManifestSchemaVersion ∧ ∃ mapFrameUuid fields,
        manifest.textAt library "map_frame_uuid" "" = .ok mapFrameUuid ∧ mapFrameUuid ≠ "" ∧
        manifest.child library "yaw_reference" = .ok (.map fields) ∧
        parseYawReference library (.map fields) = .ok reference ∧ reference.verified = true ∧
        checkYawReference formatYaw mapFrameUuid reference = .ok () := by
  unfold readHeading
  by_cases current : schemaVersion = kManifestSchemaVersion
  · simp only [current, if_true, bind_eq_ok, attempt_eq_ok, refuseWhen_eq_ok, true_and]
    constructor
    · rintro ⟨heading, ⟨mapFrameUuid, uuid, ⟨⟩, named, node, found, read⟩, authorized, rfl⟩
      cases node with
      | map fields =>
        simp only [bind_eq_ok] at read
        obtain ⟨reference, parsed, ⟨⟩, passed, done⟩ := read
        cases done
        exact ⟨mapFrameUuid, fields, uuid, by simpa using named, found, parsed, authorized,
          passed⟩
      | absent key => cases read; cases authorized
      | null => cases read; cases authorized
      | scalar text => cases read; cases authorized
      | sequence items => cases read; cases authorized
    · rintro ⟨mapFrameUuid, fields, uuid, named, found, parsed, verified, passed⟩
      refine ⟨⟨mapFrameUuid, reference, reference.verified⟩,
        ⟨mapFrameUuid, uuid, (), by simpa using named, _, found, ?_⟩, verified, rfl⟩
      simp only [bind_eq_ok]
      exact ⟨reference, parsed, (), passed, rfl⟩
  · -- The first schema has no heading.
    simp only [current, if_false, false_and, iff_false]
    rintro ⟨heading, done, authorized, -⟩
    cases done
    cases authorized

theorem load_authorizes :
    (∃ result, loadPersistentRegistrationLayer library formatYaw files root expectedMapUuid
        expectedTileSizeM = some result ∧ result.status = .restored ∧
        result.railWriteAuthorized = true ∧ result.yawReference = reference) ↔
      Authorizes library formatYaw files root expectedMapUuid expectedTileSizeM reference := by
  constructor
  · rintro ⟨result, loads, restored, authorized, rfl⟩
    have call := load_ok loads (by rw [restored]; simp)
    obtain ⟨names, walked, ⟨-, -, rfl⟩ | ⟨regular, described⟩⟩ := loadLayer_ok.1 call
    · cases restored
    · obtain ⟨heading, catalogs, read, ⟨-, -, rfl⟩ | ⟨some, cloud, tileCount, layers, rfl⟩⟩ :=
        loadDescribed_ok.1 described
      · cases restored
      · unfold readManifest at read
        simp only [bind_eq_ok, attempt_eq_ok] at read
        obtain ⟨manifest, file, schemaVersion, schema, heading', heads, catalogs', lists, done⟩ :=
          read
        cases done
        obtain ⟨rfl, mapFrameUuid, fields, uuid, named, found, parsed, verified, passed⟩ :=
          readHeading_authorizes.1 ⟨heading, heads, authorized, rfl⟩
        obtain ⟨ends, belongs, hash⟩ := (checkYawReference_verified verified).mp passed
        exact ⟨names, manifest, catalogs, _, mapFrameUuid, fields, walked, regular, file, schema,
          lists, some, layers, uuid, named, found, parsed, verified, belongs, ends, hash⟩
  · rintro ⟨names, manifest, catalogs, ⟨cloud, tileCount⟩, mapFrameUuid, fields, walked, regular,
      file, schema, lists, some, layers, uuid, named, found, parsed, verified, belongs, ends,
      hash⟩
    have passed := (checkYawReference_verified verified).mpr ⟨ends, belongs, hash⟩
    obtain ⟨heading, heads, authorized, rfl⟩ := readHeading_authorizes.2
      ⟨rfl, mapFrameUuid, fields, uuid, named, found, parsed, verified, passed⟩
    have read : readManifest library formatYaw files root expectedMapUuid expectedTileSizeM
        = .ok (heading, catalogs) := by
      unfold readManifest
      simp only [bind_eq_ok, attempt_eq_ok]
      exact ⟨manifest, file, _, schema, heading, heads, catalogs, lists, rfl⟩
    have described := loadDescribed_ok.2
      ⟨heading, catalogs, read, .inr ⟨some, cloud, tileCount, layers, rfl⟩⟩
    exact ⟨_, load_of_ok (loadLayer_ok.2 ⟨names, walked, .inr ⟨regular, described⟩⟩), rfl,
      authorized, rfl⟩

variable (library formatYaw files root expectedMapUuid expectedTileSizeM)

/--
What a restored map authorizes is accepted, if the verified reference of its manifest has the
schema of references, a finite angle and an identity.
-/
theorem restored_heading_accepted :
    HeadingsAccepted library formatYaw files root expectedMapUuid expectedTileSizeM ↔
      ∀ reference, Authorizes library formatYaw files root expectedMapUuid expectedTileSizeM
          reference →
        reference.schemaVersion = 1 ∧ reference.railYawInMapRad.isFinite = true ∧
          reference.referenceUuid ≠ "" := by
  constructor
  · intro accepted reference authorizes
    obtain ⟨result, loads, restored, authorized, rfl⟩ := load_authorizes.2 authorizes
    obtain ⟨schema, -, finite, ⟨-, identity⟩, -⟩ :=
      RailYawReference.validate_eq_ok.1 (accepted result loads restored authorized).1
    exact ⟨schema, finite, identity⟩
  · -- The reader itself has checked what is left.
    intro holds result loads restored authorized
    have authorizes := load_authorizes.1 ⟨result, loads, restored, authorized, rfl⟩
    obtain ⟨schema, finite, identity⟩ := holds _ authorizes
    obtain ⟨names, manifest, catalogs, loaded, mapFrameUuid, fields, -, -, -, -, -, -, -, -, named,
      -, -, verified, belongs, -, hash⟩ := authorizes
    have valid := RailYawReference.validate_eq_ok.2
      ⟨schema, verified, finite, ⟨belongs ▸ named, identity⟩, hash⟩
    exact ⟨valid, RailYawReference.initializeReference_fresh.2 valid⟩

end Headings

section Samples

def plainNumber (text : String) : Option Nat :=
  if text ≠ "" ∧ text.toList.all Char.isDigit = true then
    some (text.toList.foldl (fun number digit => 10 * number + (digit.toNat - 48)) 0)
  else none

def plainYaml : YamlLibrary where
  load _ := .error "bad file"
  nullText := some "null"
  toUInt32 := plainNumber
  toUInt64 := plainNumber
  toBool text := if text = "true" then some true else if text = "false" then some false else none
  toDouble text := (plainNumber text).map fun number => .fin number
  toFloat text := (plainNumber text).map fun number => .fin number
  invalidNode key := "invalid node; first invalid key: \"" ++ key ++ "\""
  badSubscript key := "operator[] call on a scalar (key: \"" ++ key ++ "\")"
  badConversion := "bad conversion"

def unsignedReference : RailYawReference := {
  schemaVersion := 2, verified := true, railYawInMapRad := 0, source := .configSiteReference
  mapFrameUuid := "frame", referenceUuid := "reference" }

def newerReference : RailYawReference :=
  { unsignedReference with
    referenceHash := unsignedReference.semanticYawReferenceHash fun _ => "0" }

def tileDigest : String := String.ofList (List.replicate 64 'a')

def tileItem : YamlNode := .map [
  ("path", .scalar "tiles_registration/0_0.pcd"),
  ("bytes", .scalar "100"),
  ("sha256", .scalar tileDigest)]

def newerFields : List (String × YamlNode) := [
  ("schema_version", .scalar "2"),
  ("verified", .scalar "true"),
  ("rail_yaw_in_map_rad", .scalar "0"),
  ("source", .scalar "CONFIG_SITE_REFERENCE"),
  ("map_frame_uuid", .scalar "frame"),
  ("map_frame_id", .scalar "map"),
  ("base_frame_id", .scalar "base_link"),
  ("map_frame_convention_id", .scalar ""),
  ("sensor_rig_calibration_id", .scalar ""),
  ("reference_uuid", .scalar "reference"),
  ("reference_hash", .scalar newerReference.referenceHash)]

def newerManifest : YamlNode := .map [
  ("schema", .scalar "ndt_slam_persistent_tile_catalog"),
  ("schema_version", .scalar "2"),
  ("map_frame_uuid", .scalar "frame"),
  ("tile_size_m", .scalar "10"),
  ("yaw_reference", .map newerFields),
  ("layers", .map [
    ("registration", .sequence [tileItem]),
    ("display", .sequence []),
    ("ground", .sequence []),
    ("objects", .sequence [])])]

def newerFiles : TileFiles Unit where
  status path :=
    if path = "map/tiles_registration" then .directory
    else if path = "map/persistent_map_manifest.json" then .regular
    else if path = "map/tiles_registration/0_0.pcd" then .regular
    else .missing
  listing path :=
    if path = "map/tiles_registration" then
      { entries := [⟨"0_0.pcd", .regular, originTile_plain⟩] }
    else { opens := false }
  fileSize path := if path = "map/tiles_registration/0_0.pcd" then some 100 else none
  sha256File path := if path = "map/tiles_registration/0_0.pcd" then tileDigest else ""
  loadFile path :=
    if path = "map/persistent_map_manifest.json" then .ok newerManifest else .error "bad file"
  loadPCDFile path :=
    if path = "map/tiles_registration/0_0.pcd" then .ok (some [()]) else .ok none

theorem restored_heading_refused :
    ¬HeadingsAccepted plainYaml (fun _ => "0") newerFiles "map" "map" 10 := by
  intro accepted
  -- Reading the map from the beginning to the end shows what the manifest authorizes.
  have authorizes : Authorizes plainYaml (fun _ => "0") newerFiles "map" "map" 10
      newerReference := by
    refine ⟨["0_0.pcd"], newerManifest, ⟨[tileItem], [], [], []⟩, ([()], 1), "frame",
      newerFields, ?_, ?_, ?_, ?_, ?_, ?_, ?_, ?_, ?_, ?_, ?_, ?_, ?_, ?_, ?_⟩
    · rfl
    · rfl
    · rfl
    · rfl
    · unfold readCatalogs
      simp only [bind_eq_ok, attempt_eq_ok, refuseWhen_eq_ok]
      exact ⟨10, rfl, (), by with_unfolding_all decide, _, rfl, _, rfl, (), rfl, _, rfl, _, rfl, _,
        rfl, _, rfl, rfl⟩
    · simp
    · rfl
    · rfl
    · decide
    · rfl
    · rfl
    · rfl
    · rfl
    · rfl
    · exact (semanticYawReferenceHash_signed unsignedReference _).symm
  obtain ⟨result, loads, restored, authorized, same⟩ := load_authorizes.2 authorizes
  have valid := (accepted result loads restored authorized).1
  rw [same] at valid
  exact absurd (RailYawReference.validate_eq_ok.1 valid).1 (by decide)

end Samples

end PersistentRegistration
end NdtSlam
