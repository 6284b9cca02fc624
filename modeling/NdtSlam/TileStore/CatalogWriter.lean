import NdtSlam.TileStore.CatalogReader

/-! The reader of the persistent map accepts the catalogues that the flush writes. -/

namespace NdtSlam

open PersistentRegistration

namespace YamlNode

variable {library : YamlLibrary} {entries : List (String × YamlNode)} {key text : String}

section

variable (found : (entries.find? fun entry => entry.1 == key) = some (key, .scalar text))
include found

theorem textAt_entry {default : String} :
    (YamlNode.map entries).textAt library key default = .ok text := by
  unfold textAt child
  simp only [found]
  rfl

theorem valueAt_entry {Value : Type} {convert : String → Option Value} {default value : Value}
    (reads : convert text = some value) :
    (YamlNode.map entries).valueAt library convert key default = .ok value := by
  unfold valueAt child
  simp only [found]
  show Except.ok ((convert text).getD default) = _
  rw [reads]
  rfl

theorem uint64At_entry {value : Nat} (reads : library.toUInt64 text = some value) :
    (YamlNode.map entries).uint64At library key = .ok value := by
  unfold uint64At child
  simp only [found, reads, bind, Except.bind]
  rfl

end

end YamlNode

variable {settings : CatalogSettings} {disk : TileDisk settings.codec}

theorem readSchema_catalogDocument :
    readSchema settings.format.library (settings.catalogDocument disk) settings.mapUuid =
      .ok kManifestSchemaVersion := by
  have version := settings.format.toUInt32_writeNat kManifestSchemaVersion (by decide)
  unfold readSchema CatalogSettings.catalogDocument
  simp only [bind_eq_ok, attempt_eq_ok, refuseWhen_eq_ok]
  exact ⟨kManifestSchemaVersion, YamlNode.valueAt_entry rfl version, true, rfl, kManifestSchema,
    rfl, (), by decide, rfl⟩

theorem catalogReference_frame :
    settings.catalogReference.mapFrameUuid = settings.mapFrameUuid.val := by
  unfold CatalogSettings.catalogReference
  simp only
  split_ifs with held
  · simp only [Bool.and_eq_true, beq_iff_eq] at held
    exact held.2
  · rfl

theorem catalogReference_holds :
    settings.catalogReference.schemaVersion = 1 ∧
      settings.catalogReference.railYawInMapRad.isFinite = true ∧
      settings.catalogReference.referenceHash =
        settings.catalogReference.semanticYawReferenceHash settings.formatYaw := by
  unfold CatalogSettings.catalogReference
  simp only
  split_ifs with held
  · simp only [Bool.and_eq_true] at held
    exact settings.authority_holds held.1.1
  · exact ⟨rfl, rfl, rfl⟩

theorem parseYawReference_headingDocument :
    parseYawReference settings.format.library settings.headingDocument =
      .ok settings.catalogReference := by
  obtain ⟨schema, finite, -⟩ := @catalogReference_holds settings
  have version := settings.format.toUInt32_writeNat 1 (by decide)
  have yaw := settings.format.toDouble_writeReal _ finite
  have source := yawReferenceSourceFromName_name settings.catalogReference.source
  have verified : settings.format.library.toBool
      (if settings.catalogReference.verified then "true" else "false") =
        some settings.catalogReference.verified := by
    cases settings.catalogReference.verified
    · exact settings.format.toBool_false
    · exact settings.format.toBool_true
  unfold parseYawReference CatalogSettings.headingDocument
  simp only [bind_eq_ok, attempt_eq_ok, schema]
  refine ⟨_, YamlNode.valueAt_entry rfl version, _, YamlNode.valueAt_entry rfl verified, _,
    YamlNode.valueAt_entry rfl yaw, _, YamlNode.textAt_entry rfl, ?_⟩
  rw [source]
  simp only [bind_eq_ok, attempt_eq_ok]
  refine ⟨_, YamlNode.textAt_entry rfl, _, YamlNode.textAt_entry rfl, _,
    YamlNode.textAt_entry rfl, _, YamlNode.textAt_entry rfl, _, YamlNode.textAt_entry rfl, _,
    YamlNode.textAt_entry rfl, _, YamlNode.textAt_entry rfl, ?_⟩
  -- The frame is that of the map, and all other fields are the fields themselves.
  rw [← schema, ← catalogReference_frame]
  rfl

theorem readHeading_catalogDocument :
    ∃ heading, readHeading settings.format.library settings.formatYaw
      (settings.catalogDocument disk) kManifestSchemaVersion = .ok heading := by
  obtain ⟨-, finite, hash⟩ := @catalogReference_holds settings
  have parsed := @parseYawReference_headingDocument settings
  have named : (settings.mapFrameUuid.val == "") = false := by
    simpa using settings.mapFrameUuid.property
  have checked : checkYawReference settings.formatYaw settings.mapFrameUuid.val
      settings.catalogReference = .ok () := by
    obtain ⟨value, number⟩ := Scalar.isFinite_iff.1 finite
    have returns : normalizeAngleReturns settings.catalogReference.railYawInMapRad = true := by
      rw [number]
      rfl
    have written : settings.catalogReference.referenceHash ≠ "" := by
      rw [hash]
      exact semanticYawReferenceHash_ne _
    unfold checkYawReference
    rw [returns]
    refine refuseWhen_eq_ok.2 ?_
    rw [catalogReference_frame, ← hash]
    simp [written]
  refine ⟨⟨settings.mapFrameUuid.val, settings.catalogReference,
    settings.catalogReference.verified⟩, ?_⟩
  unfold readHeading
  simp only [if_pos, bind_eq_ok, attempt_eq_ok, refuseWhen_eq_ok]
  refine ⟨_, YamlNode.textAt_entry rfl, (), named, _, rfl, ?_⟩
  exact bind_eq_ok.2 ⟨_, parsed, bind_eq_ok.2 ⟨(), checked, rfl⟩⟩

def CatalogSettings.layerCatalogs (settings : CatalogSettings)
    (disk : TileDisk settings.codec) : LayerCatalogs where
  registration := (disk.tiles .registration).map (settings.tileEntry .registration)
  display := (disk.tiles .display).map (settings.tileEntry .display)
  ground := (disk.tiles .ground).map (settings.tileEntry .ground)
  objects := (disk.tiles .objects).map (settings.tileEntry .objects)

def CatalogSettings.sizeUsable (settings : CatalogSettings) : Bool :=
  settings.tileSizeM.isFinite && 0 < settings.tileSizeM

theorem readCatalogs_catalogDocument {catalogs : LayerCatalogs} :
    readCatalogs settings.format.library (settings.catalogDocument disk) settings.tileSizeM =
        .ok catalogs ↔
      settings.sizeUsable = true ∧ catalogs = settings.layerCatalogs disk := by
  unfold readCatalogs CatalogSettings.sizeUsable
  simp only [bind_eq_ok, attempt_eq_ok, refuseWhen_eq_ok]
  have zero : (0 : Scalar) = .fin 0 := rfl
  -- Behind the size, the four catalogues are read as they were written.
  have read : ∀ {layers : YamlNode}, (settings.catalogDocument disk).child settings.format.library
      "layers" = .ok layers → layers = .map (TileLayer.all.map fun layer =>
        (layer.label, .sequence ((disk.tiles layer).map (settings.tileEntry layer)))) :=
    fun found => (Except.ok.inj found).symm
  constructor
  · rintro ⟨size, sized, -, passed, layers, found, isMap, -, -, -, rest⟩
    obtain rfl := read found
    simp only [Bool.or_eq_false_iff, Bool.not_eq_false', decide_eq_false_iff_not] at passed
    obtain ⟨registration, first, display, second, ground, third, objects, fourth, done⟩ := rest
    obtain rfl := Except.ok.inj first
    obtain rfl := Except.ok.inj second
    obtain rfl := Except.ok.inj third
    obtain rfl := Except.ok.inj fourth
    refine ⟨?_, (Except.ok.inj done).symm⟩
    obtain ⟨value, number⟩ := Scalar.isFinite_iff.1 passed.1.1.2
    have above := passed.1.2
    rw [number, zero, Scalar.fin_le_fin, not_le] at above
    rw [number, zero]
    simp [above]
  · rintro ⟨usable, rfl⟩
    simp only [Bool.and_eq_true, decide_eq_true_eq] at usable
    obtain ⟨finite, positive⟩ := usable
    have size := settings.format.toDouble_writeReal _ finite
    refine ⟨settings.tileSizeM, YamlNode.valueAt_entry rfl size, (), ?_, _, rfl, true, rfl, (), rfl,
      _, rfl, _, rfl, _, rfl, _, rfl, rfl⟩
    obtain ⟨value, number⟩ := Scalar.isFinite_iff.1 finite
    rw [number, zero, Scalar.fin_lt_fin] at positive
    have small : ¬(1.0e-6 : Scalar) < .fin 0 := by with_unfolding_all decide
    rw [number, zero]
    simp [positive, small]

/-! ### The entries of a catalogue -/

def TileLayer.tilePath (layer : TileLayer) (name : String) : String :=
  layer.directory ++ "/" ++ name

variable {layer : TileLayer}

theorem acceptsPath_tilePath {name : String} (tile : TileDisk.isTileName name = true)
    (plain : '\\' ∉ name.toList) :
    TileDisk.acceptsPath layer (layer.tilePath name) = true ∧
      pathNames (layer.tilePath name) = [layer.directory.toList, name.toList] := by
  simp only [TileDisk.isTileName, Bool.and_eq_true, Bool.not_eq_true'] at tile
  obtain ⟨extension, single⟩ := tile
  have one : '/' ∉ layer.directory.toList := by cases layer <;> decide
  have present : layer.directory ≠ "" := by cases layer <;> decide
  have pieces := @pathPieces_entry layer.directory name one (by simpa using single)
  have names := @pathNames_entry layer.directory name one present (by simpa using single)
    (ne_nil_of_hasTileExtension extension)
  have parent : parentNames (layer.tilePath name) = [layer.directory.toList] := by
    have some : layer.directory.toList ≠ [] := by cases layer <;> decide
    unfold parentNames TileLayer.tilePath
    rw [pieces]
    simp [some]
  have file : fileName (layer.tilePath name) = name.toList := by
    unfold fileName TileLayer.tilePath
    rw [pieces]
    rfl
  have relative : isAbsolute (layer.tilePath name) = false := by
    unfold isAbsolute TileLayer.tilePath
    rw [String.toList_append, String.toList_append]
    cases layer <;> rfl
  have written : layer.tilePath name ≠ "" := by
    intro empty
    rw [empty] at relative parent
    exact absurd parent (by cases layer <;> decide)
  have straight : '\\' ∉ (layer.tilePath name).toList := by
    unfold TileLayer.tilePath
    rw [String.toList_append, String.toList_append, List.mem_append, List.mem_append, not_or,
      not_or]
    exact ⟨⟨by cases layer <;> decide, by decide⟩, plain⟩
  -- A name with the extension of a tile is longer than one that leads to a directory.
  have dots : name.toList ≠ "..".toList ∧ name.toList ≠ ".".toList := by
    constructor <;>
    · intro same
      rw [same] at extension
      exact absurd extension (by decide)
  have solid : layer.directory.toList ≠ "..".toList ∧ layer.directory.toList ≠ ".".toList := by
    cases layer <;> decide
  refine ⟨?_, names⟩
  have listed : pathNames (layer.tilePath name) = [layer.directory.toList, name.toList] := names
  unfold TileDisk.acceptsPath
  rw [parent, file, relative, extension, listed]
  simpa [written, straight] using And.intro solid dots

variable {content : settings.codec.Content}

theorem entryMatches_tileEntry {name : String} (held : disk.tile? layer name = some content)
    (plain : '\\' ∉ name.toList) :
    TileDisk.EntryMatches settings.format.library disk layer
      (settings.tileEntry layer (name, content)) name := by
  obtain ⟨accepts, names⟩ :=
    @acceptsPath_tilePath layer name (TileDisk.tile?_eq_some.1 held).1 plain
  exact ⟨_, content, rfl, YamlNode.textAt_entry rfl, accepts, names, held,
    YamlNode.uint64At_entry rfl (settings.format.toUInt64_writeNat _ (settings.codec.size_lt _)),
    YamlNode.textAt_entry rfl⟩

theorem catalogMatches_tiles (plain : ∀ name, disk.HasTile layer name → '\\' ∉ name.toList) :
    TileDisk.CatalogMatches settings.format.library disk layer
      ((disk.tiles layer).map (settings.tileEntry layer)) := by
  refine ⟨(disk.tiles layer).map Prod.fst, ?_, TileDisk.tiles_nodup, ?_⟩
  · rw [List.forall₂_map_left_iff, List.forall₂_map_right_iff, List.forall₂_same]
    rintro ⟨name, content⟩ member
    have held := TileDisk.mem_tiles.1 member
    exact entryMatches_tileEntry held (plain name (by simp [TileDisk.HasTile, held]))
  · intro name
    simp only [List.mem_map, Prod.exists, exists_and_right, exists_eq_right, TileDisk.mem_tiles]
    exact Option.isSome_iff_exists.symm

theorem TileLayer.tilePath_injective : Function.Injective layer.tilePath :=
  fun _ _ same => TileDisk.entryPath_inj same

theorem isSafe_of_acceptsPath {path : String}
    (accepts : TileDisk.acceptsPath .registration path = true) :
    isSafeRegistrationPath path = true := by
  have directory : TileLayer.registration.directory = kRegistrationDirectory := rfl
  unfold TileDisk.acceptsPath at accepts
  simp only [Bool.and_eq_true, Bool.not_eq_true', Bool.or_eq_false_iff, bne_eq_false_iff_eq,
    Bool.not_eq_false', directory] at accepts
  obtain ⟨⟨⟨⟨⟨present, relative⟩, parent⟩, extension⟩, plain⟩, dots⟩ := accepts
  unfold isSafeRegistrationPath
  simp only [bne, present, relative, parent, extension, plain, dots, Bool.not_false, Bool.and_self,
    beq_self_eq_true]

def CatalogSettings.cloudOf (settings : CatalogSettings) (content : settings.codec.Content) :
    List Vec3 :=
  match settings.codec.decode content with
  | .ok (some cloud) => cloud
  | _ => []

def TileDisk.Decodes (disk : TileDisk settings.codec) : Prop :=
  ∀ name content, disk.tile? .registration name = some content →
    ∃ cloud, settings.codec.decode content = .ok (some cloud) ∧ cloud ≠ []

theorem cloudOf_ne_nil {name : String} (decodes : disk.Decodes)
    (held : disk.tile? .registration name = some content) : settings.cloudOf content ≠ [] := by
  obtain ⟨cloud, decoded, some⟩ := decodes name content held
  unfold CatalogSettings.cloudOf
  rw [decoded]
  exact some

theorem registrationMatches_tiles
    (plain : ∀ name, disk.HasTile .registration name → '\\' ∉ name.toList)
    (decodes : disk.Decodes) :
    TileDisk.RegistrationMatches settings.format.library disk
      ((disk.tiles .registration).map (settings.tileEntry .registration))
      ((disk.tiles .registration).map fun item => settings.cloudOf item.2) := by
  -- Each tile is read as an entry of its path, size and digest.
  have paths : ((disk.tiles .registration).map fun item => (⟨TileLayer.registration.tilePath item.1,
      settings.codec.size item.2, settings.codec.sha256 item.2⟩ : CatalogEntry)).map
        (·.relativePath) =
      ((disk.tiles .registration).map Prod.fst).map TileLayer.registration.tilePath := by
    rw [List.map_map, List.map_map]
    rfl
  have distinct : (((disk.tiles .registration).map Prod.fst).map
      TileLayer.registration.tilePath).Nodup :=
    List.Pairwise.map _ (fun _ _ apart same => apart (TileLayer.tilePath_injective same))
      TileDisk.tiles_nodup
  rw [← paths] at distinct
  refine ⟨_, ?_, distinct, ?_, ?_⟩
  · rw [List.forall₂_map_left_iff, List.forall₂_map_right_iff, List.forall₂_same]
    rintro ⟨name, content⟩ member
    have held := TileDisk.mem_tiles.1 member
    obtain ⟨accepts, -⟩ := @acceptsPath_tilePath .registration name
      (TileDisk.tile?_eq_some.1 held).1 (plain name (by simp [TileDisk.HasTile, held]))
    refine ⟨rfl, YamlNode.textAt_entry rfl, ?_, YamlNode.uint64At_entry rfl
      (settings.format.toUInt64_writeNat _ (settings.codec.size_lt _)),
      YamlNode.textAt_entry rfl, settings.codec.sha256_length content⟩
    exact isSafe_of_acceptsPath accepts
  · intro path
    rw [paths]
    simp only [List.mem_map, Prod.exists, exists_and_right, exists_eq_right, TileDisk.mem_tiles]
    refine exists_congr fun name => ?_
    rw [TileDisk.HasTile, Option.isSome_iff_exists, @eq_comm _ path]
    rfl
  · rw [List.forall₂_map_left_iff, List.forall₂_map_right_iff, List.forall₂_same]
    rintro ⟨name, content⟩ member
    have held := TileDisk.mem_tiles.1 member
    obtain ⟨cloud, decoded, some⟩ := decodes name content held
    have read : settings.cloudOf content = cloud := by
      unfold CatalogSettings.cloudOf
      rw [decoded]
    rw [read]
    exact ⟨name, content, rfl, held, rfl, rfl, decoded, some⟩

/-! ### Whole maps -/

theorem readDocument_replaceCatalog {catalogs : LayerCatalogs} :
    (∃ heading, (disk.apply .replaceCatalog).readDocument = .ok (heading, catalogs)) ↔
      settings.sizeUsable = true ∧ catalogs = settings.layerCatalogs disk := by
  rw [← @readCatalogs_catalogDocument settings disk]
  obtain ⟨heading, headed⟩ := @readHeading_catalogDocument settings disk
  unfold TileDisk.readDocument
  simp only [bind_eq_ok, attempt_eq_ok]
  constructor
  · rintro ⟨_, manifest, read, _, _, _, _, passed, done, pair⟩
    obtain rfl := Except.ok.inj read
    cases pair
    exact done
  · intro done
    exact ⟨heading, _, rfl, _, readSchema_catalogDocument, heading, headed, catalogs, done, rfl⟩

theorem tileEntries_eq_nil :
    (disk.tiles layer).map (settings.tileEntry layer) = [] ↔ ∀ name, ¬disk.HasTile layer name := by
  rw [List.map_eq_nil_iff, List.eq_nil_iff_forall_not_mem]
  constructor
  · intro none name tile
    obtain ⟨content, held⟩ := Option.isSome_iff_exists.mp tile
    exact none (name, content) (TileDisk.mem_tiles.2 held)
  · rintro none ⟨name, content⟩ member
    exact none name (by simp [TileDisk.HasTile, TileDisk.mem_tiles.1 member])

theorem layerCatalogs_empty :
    (settings.layerCatalogs disk).empty = true ↔ ∀ layer name, ¬disk.HasTile layer name := by
  unfold LayerCatalogs.empty CatalogSettings.layerCatalogs
  simp only [Bool.and_eq_true, List.isEmpty_iff, tileEntries_eq_nil]
  constructor
  · rintro ⟨⟨⟨registration, display⟩, ground⟩, objects⟩ layer
    cases layer
    · exact registration
    · exact display
    · exact ground
    · exact objects
  · intro none
    exact ⟨⟨⟨none _, none _⟩, none _⟩, none _⟩

structure TileDisk.Tidy (disk : TileDisk settings.codec) : Prop where
  plain : ∀ layer name, disk.HasTile layer name → '\\' ∉ name.toList
  decodes : disk.Decodes

theorem loads_replaceCatalog (tidy : disk.Tidy) :
    (disk.apply .replaceCatalog).Loads ↔
      settings.sizeUsable = true ∧ ((∃ name, disk.HasTile .registration name) ∨
        ∀ layer name, ¬disk.HasTile layer name) := by
  rw [loads_iff, load_new_iff]
  constructor
  · rintro (⟨result, loaded, restored⟩ | ⟨missing | ⟨-, heading, catalogs, read, -⟩, none⟩)
    · obtain ⟨-, heading, catalogs, tiles, read, some, -⟩ :=
        load_restored_iff.1 ⟨result, loaded, restored, rfl⟩
      obtain ⟨usable, rfl⟩ := readDocument_replaceCatalog.1 ⟨heading, read⟩
      refine ⟨usable, .inl ?_⟩
      by_contra none
      exact some (tileEntries_eq_nil.2 (not_exists.mp none))
    · cases missing
    · exact ⟨(readDocument_replaceCatalog.1 ⟨heading, read⟩).1, .inr none⟩
  · rintro ⟨usable, ⟨name, tile⟩ | none⟩
    · left
      obtain ⟨heading, read⟩ := readDocument_replaceCatalog.2 ⟨usable, rfl⟩
      have some : (settings.layerCatalogs disk).registration ≠ [] :=
        fun empty => tileEntries_eq_nil.1 empty name tile
      have describes : disk.Describes settings.format.library (settings.layerCatalogs disk)
          ((disk.tiles .registration).map fun item => settings.cloudOf item.2) :=
        ⟨catalogMatches_tiles (tidy.plain _), catalogMatches_tiles (tidy.plain _),
          catalogMatches_tiles (tidy.plain _),
          registrationMatches_tiles (tidy.plain _) tidy.decodes⟩
      have points : ((disk.tiles .registration).map fun item =>
          settings.cloudOf item.2).flatten ≠ [] := by
        obtain ⟨content, held⟩ := Option.isSome_iff_exists.mp tile
        intro empty
        rw [List.flatten_eq_nil_iff] at empty
        exact cloudOf_ne_nil tidy.decodes held (empty _ (List.mem_map.mpr
          ⟨(name, content), TileDisk.mem_tiles.2 held, rfl⟩))
      obtain ⟨result, loaded, restored, -⟩ :=
        load_restored_iff.2 ⟨rfl, heading, _, _, read, some, describes, rfl, points⟩
      exact ⟨result, loaded, restored⟩
    · right
      obtain ⟨heading, read⟩ := readDocument_replaceCatalog.2 ⟨usable, rfl⟩
      exact ⟨.inr ⟨rfl, heading, _, read, layerCatalogs_empty.2 none⟩, none⟩

end NdtSlam
