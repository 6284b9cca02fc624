import NdtSlam.MapSession.LoadVerified

/-! What the strict reader guarantees about the files of a session that it accepts. -/

namespace NdtSlam.MapSessionSnapshot

section Vouching

variable (library : SessionLibrary) (files : FileSystem) (root : String) (manifest : YamlNode)

def Vouched (record : YamlNode) : Prop :=
  ∃ relative digest file, record.textAt library.yaml "path" "" = .ok relative ∧
    record.textAt library.yaml "sha256" "" = .ok digest ∧ safeRelativePath relative = true ∧
    files (joinPath root relative) = some file ∧ library.sha256 file.bytes = digest ∧
    digest.length = 64

def sessionFileKeys : List String :=
  ["registration", "display", "ground", "objects_raw", "objects_clean", "display_full",
    "static_evidence"]

structure SessionVouched : Prop where
  keyed : ∀ key ∈ sessionFileKeys, ∃ record, fileRecord library manifest key = .ok record ∧
    Vouched library files root record
  extras : ∃ extras, listedExtras library manifest = .ok extras ∧
    ∀ extra ∈ extras, Vouched library files root extra

def recordedDigest (key : String) : Except String String := do
  (← fileRecord library manifest key).textAt library.yaml "sha256" ""

end Vouching

section Checks

variable {library : SessionLibrary} {files : FileSystem} {root relative expected : String}
  {manifest record : YamlNode}

theorem digestAgrees_present (agrees : digestAgrees library files root relative expected = true)
    (present : expected ≠ "") : safeRelativePath relative = true ∧
      ∃ file, files (joinPath root relative) = some file ∧
        library.sha256 file.bytes = expected := by
  simp only [digestAgrees, Bool.and_eq_true, beq_iff_eq] at agrees
  obtain ⟨safe, same⟩ := agrees
  refine ⟨safe, ?_⟩
  -- Without a readable file, the digest would be empty.
  unfold sha256File at same
  cases found : files (joinPath root relative) with
  | none =>
    rw [found] at same
    exact absurd same.symm present
  | some file =>
    rw [found] at same
    dsimp only at same
    split_ifs at same with readable
    · exact ⟨file, rfl, same⟩
    · exact absurd same.symm present

theorem vouched_of_full (path : record.textAt library.yaml "path" "" = .ok relative)
    (digest : record.textAt library.yaml "sha256" "" = .ok expected)
    (full : expected.length = 64)
    (agrees : digestAgrees library files root relative expected = true) :
    Vouched library files root record := by
  have present : expected ≠ "" := by
    rintro rfl
    exact absurd full (by decide)
  obtain ⟨safe, file, found, same⟩ := digestAgrees_present agrees present
  exact ⟨relative, expected, file, path, digest, safe, found, same, full⟩

theorem checkExtra_vouches (passed : checkExtra library files root record = .ok ()) :
    Vouched library files root record := by
  simp only [checkExtra, bind_eq_ok, refuseIf_eq_ok, Bool.or_eq_false_iff, bne_eq_false_iff_eq,
    Bool.not_eq_false'] at passed
  obtain ⟨relative, path, expected, digest, _, ⟨_, full⟩, _, agrees, _⟩ := passed
  exact vouched_of_full path digest full agrees

theorem loadLayer_vouches {key : String} {cloud : library.Cloud}
    (loaded : loadLayer library files manifest root key = .ok cloud) :
    ∃ record, fileRecord library manifest key = .ok record ∧ Vouched library files root record := by
  simp only [loadLayer, bind_eq_ok, refuseIf_eq_ok, Bool.or_eq_false_iff, bne_eq_false_iff_eq,
    Bool.not_eq_false'] at loaded
  obtain ⟨record, named, relative, path, expected, digest, _, ⟨_, full⟩, _, agrees, _⟩ := loaded
  exact ⟨record, named, vouched_of_full path digest full agrees⟩

theorem checkDisplayFull_vouches (passed : checkDisplayFull library files manifest root = .ok ())
    {display : YamlNode} (named : fileRecord library manifest "display" = .ok display)
    (vouched : Vouched library files root display) :
    ∃ record, fileRecord library manifest "display_full" = .ok record ∧
      Vouched library files root record := by
  simp only [checkDisplayFull, bind_eq_ok, refuseIf_eq_ok, bne_eq_false_iff_eq,
    Bool.not_eq_false', named, Except.ok.injEq, exists_eq_left'] at passed
  obtain ⟨record, found, relative, path, expected, digest, _, agrees, recorded, text, same⟩ := passed
  obtain ⟨_, full, _, _, text', _, _, _, long⟩ := vouched
  -- The alias carries the digest of the layer, which is a full one.
  rw [text', Except.ok.injEq] at text
  refine ⟨record, found, vouched_of_full path digest ?_ agrees⟩
  rw [same, ← text]
  exact long

theorem checkStaticEvidence_agrees {path : String}
    (passed : checkStaticEvidence library files manifest root = .ok path) :
    ∃ record relative expected, fileRecord library manifest "static_evidence" = .ok record ∧
      record.textAt library.yaml "path" "" = .ok relative ∧
      record.textAt library.yaml "sha256" "" = .ok expected ∧
      digestAgrees library files root relative expected = true := by
  simp only [checkStaticEvidence, bind_eq_ok, refuseIf_eq_ok, Bool.not_eq_false'] at passed
  obtain ⟨record, found, relative, path, expected, digest, _, agrees, _⟩ := passed
  exact ⟨record, relative, expected, found, path, digest, agrees⟩

end Checks

section Loading

variable {library : SessionLibrary} {files : FileSystem} {directory : String}
  {manifest : YamlNode} {session : MapSessionLoadResult library.Cloud}

theorem loadVerified_checks
    (read : loadManifest library files (library.absolutePath directory) = .ok manifest)
    (loaded : loadVerified library files directory = .ok session) :
    (∃ extras, listedExtras library manifest = .ok extras ∧ ∀ extra ∈ extras,
        checkExtra library files (library.absolutePath directory) extra = .ok ()) ∧
      (∀ key ∈ ["registration", "display", "ground", "objects_raw", "objects_clean"], ∃ cloud,
        loadLayer library files manifest (library.absolutePath directory) key = .ok cloud) ∧
      (∃ path, checkStaticEvidence library files manifest (library.absolutePath directory) =
        .ok path) ∧
      checkDisplayFull library files manifest (library.absolutePath directory) = .ok () := by
  simp only [loadVerified, read, bind_eq_ok, Except.ok.injEq, exists_eq_left'] at loaded
  obtain ⟨_, _, _, _, _, _, _, _, _, _, _, _, _, _, _, _, _, _, extras, listed, _, checked,
    registration, registrationLoaded, display, displayLoaded, ground, groundLoaded, raw, rawLoaded,
    clean, cleanLoaded, path, static, _, full, _⟩ := loaded
  refine ⟨⟨extras, listed, forM_eq_ok.1 checked⟩, ?_, ⟨path, static⟩, full⟩
  simp only [List.forall_mem_cons, List.not_mem_nil, false_implies, implies_true, and_true]
  exact ⟨⟨_, registrationLoaded⟩, ⟨_, displayLoaded⟩, ⟨_, groundLoaded⟩, ⟨_, rawLoaded⟩,
    ⟨_, cleanLoaded⟩⟩

/--
All files of an accepted session are vouched for exactly when it records a digest for the static
evidence.

Without one, the digest of a file that cannot be read counts as the recorded one.
-/
theorem loadVerified_vouched_iff (library : SessionLibrary) (files : FileSystem)
    (directory : String) (digests : ∀ bytes, (library.sha256 bytes).length = 64)
    {manifest : YamlNode} {session : MapSessionLoadResult library.Cloud}
    (read : loadManifest library files (library.absolutePath directory) = .ok manifest)
    (loaded : loadVerified library files directory = .ok session) :
    SessionVouched library files (library.absolutePath directory) manifest ↔
      recordedDigest library manifest "static_evidence" ≠ .ok "" := by
  obtain ⟨⟨extras, listed, checked⟩, layers, ⟨path, static⟩, full⟩ :=
    loadVerified_checks read loaded
  obtain ⟨record, relative, expected, named, place, digest, agrees⟩ :=
    checkStaticEvidence_agrees static
  have recorded : recordedDigest library manifest "static_evidence" = .ok expected := by
    simp [recordedDigest, named, digest, bind, Except.bind]
  rw [recorded]
  constructor
  · intro vouched missing
    -- A vouched digest has its full length.
    obtain ⟨record', named', _, digest', _, _, text, _, _, _, long⟩ :=
      vouched.keyed "static_evidence" (by decide)
    rw [named, Except.ok.injEq] at named'
    subst named'
    rw [digest, missing, Except.ok.injEq] at text
    rw [← text] at long
    exact absurd long (by decide)
  · intro some_
    have present : expected ≠ "" := fun empty => some_ (by rw [empty])
    obtain ⟨_, file, _, same⟩ := digestAgrees_present agrees present
    have long : expected.length = 64 := by
      rw [← same]
      exact digests file.bytes
    obtain ⟨_, displayLoaded⟩ := layers "display" (by decide)
    obtain ⟨display, displayNamed, displayVouched⟩ := loadLayer_vouches displayLoaded
    refine ⟨?_, extras, listed, fun extra member => checkExtra_vouches (checked extra member)⟩
    intro key member
    -- The layers come first, then the alias, and the static evidence last.
    have split : key ∈ ["registration", "display", "ground", "objects_raw", "objects_clean"] ∨
        key = "display_full" ∨ key = "static_evidence" := by
      simp only [sessionFileKeys, List.mem_cons, List.not_mem_nil, or_false] at member ⊢
      tauto
    rcases split with layer | rfl | rfl
    · obtain ⟨_, layerLoaded⟩ := layers key layer
      exact loadLayer_vouches layerLoaded
    · exact checkDisplayFull_vouches full displayNamed displayVouched
    · exact ⟨record, named, vouched_of_full place digest long agrees⟩

end Loading

section Session

def onePointCloud : String :=
  "VERSION .7\nFIELDS x y z\nSIZE 4 4 4\nTYPE F F F\nCOUNT 1 1 1\nWIDTH 1\nHEIGHT 1\n" ++
    "VIEWPOINT 0 0 0 1 0 0 0\nPOINTS 1\nDATA ascii\n0 0 0\n"

def onePointDigest : String :=
  "13e0d2b5ed15faac5d3f96e43cfa6b29791750659bb5cd6706c1a5b9636dc7f9"

theorem onePointDigest_length : onePointDigest.length = 64 := by decide

def onePointRecord : YamlNode :=
  .map [("path", .scalar "map.pcd"), ("sha256", .scalar onePointDigest), ("points", .scalar "1")]

def manifestWith (static : YamlNode) : YamlNode :=
  .map [("schema", .scalar "ndt_slam_map_session"), ("schema_version", .scalar "1"),
    ("complete", .scalar "true"), ("map_uuid", .scalar "m"), ("frame_id", .scalar "map"),
    ("static_evidence", .map [("authority", .scalar "RUNTIME_MATURE")]),
    ("extra_files", .sequence []),
    ("files", .map [("registration", onePointRecord), ("display", onePointRecord),
      ("ground", onePointRecord), ("objects_raw", onePointRecord),
      ("objects_clean", onePointRecord), ("display_full", onePointRecord),
      ("static_evidence", static)])]

def onePointLibrary (static : YamlNode) : SessionLibrary where
  yaml := {
    load := fun _ => .ok (manifestWith static)
    nullText := none
    toUInt32 := fun text => if text = "1" then some 1 else none
    toUInt64 := fun text => if text = "1" then some 1 else none
    toBool := fun text => if text = "true" then some true else none
    toDouble := fun _ => none
    toFloat := fun _ => none
    invalidNode := fun key => "invalid node; first invalid key: " ++ key
    badSubscript := fun key => "operator[] call on a scalar: " ++ key
    badConversion := "bad conversion" }
  absolutePath := id
  sha256 := fun _ => onePointDigest
  Cloud := Unit
  loadPcd := fun _ => some ()
  cloudSize := fun _ => 1
  formatYaw := fun _ => "0"

def manifestText (static : String) : String :=
  "\x7bschema: ndt_slam_map_session, schema_version: 1, complete: true, map_uuid: m,\n" ++
    "frame_id: map, static_evidence: \x7bauthority: RUNTIME_MATURE\x7d, extra_files: [],\n" ++
    "files: \x7bregistration: &cloud \x7bpath: map.pcd, sha256: " ++ onePointDigest ++
    ", points: 1\x7d, display: *cloud,\n" ++
    "ground: *cloud, objects_raw: *cloud, objects_clean: *cloud, display_full: *cloud,\n" ++
    "static_evidence: " ++ static ++ "\x7d\x7d"

def onePointFiles (static : String) : FileSystem := fun path =>
  if path = "/s/manifest.yaml" then some { bytes := (manifestText static).toUTF8.data.toList }
  else if path = "/s/map.pcd" then some { bytes := onePointCloud.toUTF8.data.toList }
  else none

theorem onePoint_manifest (static : YamlNode) (text : String) :
    loadManifest (onePointLibrary static) (onePointFiles text) "/s" = .ok (manifestWith static) := by
  have path : joinPath "/s" "manifest.yaml" = "/s/manifest.yaml" := by with_unfolding_all decide
  unfold loadManifest
  rw [path]
  rfl

theorem loadVerified_vouched_complete :
    SessionVouched (onePointLibrary onePointRecord) (onePointFiles "*cloud") "/s"
      (manifestWith onePointRecord) := by
  have accepted : (loadVerified (onePointLibrary onePointRecord) (onePointFiles "*cloud")
      "/s").isOk = true := by
    with_unfolding_all decide
  cases loaded : loadVerified (onePointLibrary onePointRecord) (onePointFiles "*cloud") "/s" with
  | error reason =>
    rw [loaded] at accepted
    cases accepted
  | ok session =>
    have recorded : recordedDigest (onePointLibrary onePointRecord)
        (manifestWith onePointRecord) "static_evidence" = .ok onePointDigest := by
      rfl
    refine (loadVerified_vouched_iff (onePointLibrary onePointRecord) (onePointFiles "*cloud") "/s"
      (fun _ => onePointDigest_length) (onePoint_manifest _ _) loaded).mpr ?_
    rw [recorded]
    decide

theorem loadVerified_misses_evidence :
    ¬ ∀ (library : SessionLibrary) (files : FileSystem) (directory : String),
      (∀ bytes, (library.sha256 bytes).length = 64) →
      ∀ (manifest : YamlNode) (session : MapSessionLoadResult library.Cloud),
      loadManifest library files (library.absolutePath directory) = .ok manifest →
      loadVerified library files directory = .ok session →
      SessionVouched library files (library.absolutePath directory) manifest := by
  intro claimed
  let missing : YamlNode := .map [("path", .scalar "static_evidence.csv")]
  have accepted : (loadVerified (onePointLibrary missing)
      (onePointFiles "\x7bpath: static_evidence.csv\x7d") "/s").isOk = true := by
    with_unfolding_all decide
  cases loaded : loadVerified (onePointLibrary missing)
      (onePointFiles "\x7bpath: static_evidence.csv\x7d") "/s" with
  | error reason =>
    rw [loaded] at accepted
    cases accepted
  | ok session =>
    obtain ⟨record, named, relative, _, file, place, _, _, found, _⟩ :=
      (claimed (onePointLibrary missing) (onePointFiles "\x7bpath: static_evidence.csv\x7d") "/s"
        (fun _ => onePointDigest_length) _ session (onePoint_manifest _ _) loaded).keyed
        "static_evidence" (by decide)
    -- The record names the missing file.
    have record_eq : missing = record := Except.ok.inj named
    subst record_eq
    have relative_eq : "static_evidence.csv" = relative := Except.ok.inj place
    subst relative_eq
    have absent : onePointFiles "\x7bpath: static_evidence.csv\x7d"
        (joinPath "/s" "static_evidence.csv") = none := by
      with_unfolding_all decide
    rw [show joinPath ((onePointLibrary missing).absolutePath "/s") "static_evidence.csv" =
      joinPath "/s" "static_evidence.csv" from rfl, absent] at found
    cases found

end Session

end NdtSlam.MapSessionSnapshot
