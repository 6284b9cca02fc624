import NdtSlam.MapSession.PersistentLoader

/-! What the reader of the persistent map has looked at before it calls a map restored or new. -/

namespace NdtSlam

variable {Value : Type}

@[simp] theorem attempt_eq_ok {call : Except String Value} {value : Value} :
    attempt call = .ok value ↔ call = .ok value := by
  cases call with
  | ok found => simp [attempt]
  | error what => simp [attempt]

@[simp] theorem refuseWhen_eq_ok {faulty : Bool} {reason : String} {result : Unit} :
    refuseWhen faulty reason = .ok result ↔ faulty = false := by
  cases faulty <;> simp [refuseWhen]

namespace PersistentRegistration

section Layers

variable {Point : Type} {library : YamlLibrary} {files : TileFiles Point} {root : String}
  {directory : String}

def TileOnDisk (files : TileFiles Point) (root directory name : String) : Prop :=
  files.status (pathBelow root directory) = .directory ∧
    ∃ entry ∈ (files.listing (pathBelow root directory)).entries,
      entry.isTile = true ∧ entry.name = name

def RecordsPath (library : YamlLibrary) (item : YamlNode) (path : String) : Prop :=
  item.textAt library "path" "" = .ok path

def FileAgrees (library : YamlLibrary) (files : TileFiles Point) (root : String)
    (item : YamlNode) (path : String) : Prop :=
  ∃ bytes digest, item.uint64At library "bytes" = .ok bytes ∧
    item.textAt library "sha256" "" = .ok digest ∧ digest.length = 64 ∧
    files.fileSize (pathBelow root path) = some bytes ∧
    files.sha256File (pathBelow root path) = digest

structure LayerIntact (library : YamlLibrary) (files : TileFiles Point) (root directory : String)
    (catalog : List YamlNode) : Prop where
  recorded : ∀ item ∈ catalog, ∃ path name, RecordsPath library item path ∧
    LeadsTo directory name path ∧ FileAgrees library files root item path
  complete : ∀ name, TileOnDisk files root directory name ↔
    ∃ item ∈ catalog, ∃ path, RecordsPath library item path ∧ LeadsTo directory name path

theorem samePaths_iff {Path : Type} [BEq Path] [LawfulBEq Path] {first second : List Path} :
    samePaths first second = true ↔ ∀ path, path ∈ first ↔ path ∈ second := by
  unfold samePaths
  rw [Bool.and_eq_true, List.all_eq_true, List.all_eq_true]
  constructor
  · rintro ⟨forward, backward⟩ path
    exact ⟨fun member => by simpa using forward path member,
      fun member => by simpa using backward path member⟩
  · intro same
    exact ⟨fun path member => by simpa using (same path).mp member,
      fun path member => by simpa using (same path).mpr member⟩

theorem leadsTo_fileName {path : String} (relative : isAbsolute path = false)
    (parent : parentNames path = [directory.toList])
    (tile : hasTileExtension (fileName path) = true) :
    LeadsTo directory (String.ofList (fileName path)) path := by
  have names := pathNames_eq (ne_nil_of_hasTileExtension tile)
  rw [parent] at names
  exact ⟨relative, by simpa using names, by simpa using tile⟩

theorem validateLayerEntry_ok {seen seen' : List (List (List Char))} {item : YamlNode}
    (passed : validateLayerEntry library files root directory seen item = .ok seen') :
    ∃ path, RecordsPath library item path ∧
      LeadsTo directory (String.ofList (fileName path)) path ∧
      FileAgrees library files root item path ∧ seen' = pathNames path :: seen := by
  unfold validateLayerEntry at passed
  simp only [bind_eq_ok, attempt_eq_ok, refuseWhen_eq_ok] at passed
  obtain ⟨isMap, -, -, -, path, records, -, safe, -, dots, -, regular, bytes, size, -, sized,
    digest, hash, -, hashed, done⟩ := passed
  cases done
  simp only [Bool.or_eq_false_iff, bne_eq_false_iff_eq, Bool.not_eq_false'] at safe sized hashed
  refine ⟨path, records, leadsTo_fileName ?_ ?_ ?_, ⟨bytes, digest, size, hash, ?_, sized, ?_⟩,
    rfl⟩
  · exact safe.1.1.1.1.2
  · exact safe.1.1.1.2
  · exact safe.1.1.2
  · exact hashed.1
  · exact hashed.2

variable {names : List String}

theorem tiles_some {listing : DirectoryListing} (walked : listing.tiles = some names)
    (name : String) :
    name ∈ names ↔ ∃ entry ∈ listing.entries, entry.isTile = true ∧ entry.name = name := by
  unfold DirectoryListing.tiles at walked
  split_ifs at walked
  cases walked
  simp [and_assoc]

variable {layer : String}

theorem layerTiles_ok (walked : layerTiles files root layer directory = .ok names) (name : String) :
    name ∈ names ↔ TileOnDisk files root directory name := by
  unfold layerTiles at walked
  unfold TileOnDisk
  dsimp only at walked
  cases status : files.status (pathBelow root directory) with
  | missing =>
    rw [status] at walked
    cases walked
    simp
  | directory =>
    rw [status] at walked
    dsimp only at walked
    cases found : (files.listing (pathBelow root directory)).tiles with
    | none =>
      rw [found] at walked
      cases walked
    | some tiles =>
      rw [found] at walked
      cases walked
      simpa using tiles_some found name
  | failed => rw [status] at walked; cases walked
  | regular => rw [status] at walked; cases walked
  | other => rw [status] at walked; cases walked

theorem enumerateRegistrationTiles_ok (walked : enumerateRegistrationTiles files root = .ok names)
    (name : String) :
    name ∈ names ↔ TileOnDisk files root kRegistrationDirectory name := by
  unfold enumerateRegistrationTiles at walked
  unfold TileOnDisk
  dsimp only at walked
  cases status : files.status (pathBelow root kRegistrationDirectory) with
  | missing =>
    rw [status] at walked
    cases walked
    simp
  | directory =>
    rw [status] at walked
    dsimp only at walked
    cases found : (files.listing (pathBelow root kRegistrationDirectory)).tiles with
    | none =>
      rw [found] at walked
      cases walked
    | some tiles =>
      rw [found] at walked
      cases walked
      simpa using tiles_some found name
  | failed => rw [status] at walked; cases walked
  | regular => rw [status] at walked; cases walked
  | other => rw [status] at walked; cases walked

theorem entry_name_inj {first second : String}
    (same : [directory.toList, first.toList] = [directory.toList, second.toList]) :
    first = second :=
  String.toList_inj.mp (List.cons.inj (List.cons.inj same).2).1

theorem validateLayerCatalog_ok {catalog : List YamlNode}
    (passed : validateLayerCatalog library files root layer directory catalog = .ok ()) :
    LayerIntact library files root directory catalog := by
  unfold validateLayerCatalog at passed
  simp only [bind_eq_ok, refuseWhen_eq_ok, Bool.not_eq_false'] at passed
  obtain ⟨catalogPaths, folded, names, walked, same⟩ := passed
  rw [samePaths_iff] at same
  -- Each entry notes its path, and nothing else is noted.
  obtain ⟨-, all, only⟩ := @foldlM_notes _ _ _ (List (List Char)) _
    (fun seen path => path ∈ seen)
    (fun item names => ∃ path name, RecordsPath library item path ∧
      LeadsTo directory name path ∧ FileAgrees library files root item path ∧
      names = pathNames path)
    (fun seen item seen' step => by
      obtain ⟨path, records, leads, agrees, rfl⟩ := validateLayerEntry_ok step
      exact ⟨pathNames path, ⟨path, _, records, leads, agrees, rfl⟩, fun other => by simp⟩)
    _ _ _ folded
  constructor
  · intro item member
    obtain ⟨-, ⟨path, name, records, leads, agrees, -⟩, -⟩ := all item member
    exact ⟨path, name, records, leads, agrees⟩
  · intro name
    rw [← layerTiles_ok walked]
    constructor
    · intro tile
      have noted := (same [directory.toList, name.toList]).mp
        (List.mem_map.mpr ⟨name, tile, rfl⟩)
      rcases only _ noted with none | ⟨item, member, path, other, records, leads, -, names⟩
      · cases none
      · refine ⟨item, member, path, records, leads.1, names.symm, ?_⟩
        rw [← entry_name_inj (leads.2.1.symm.trans names.symm)]
        exact leads.2.2
    · rintro ⟨item, member, path, records, leads⟩
      obtain ⟨noted, ⟨path', name', records', leads', -, rfl⟩, known⟩ := all item member
      obtain rfl : path = path' := Except.ok.inj (records.symm.trans records')
      obtain ⟨other, tile, equal⟩ := List.mem_map.mp ((same (pathNames path)).mpr known)
      exact entry_name_inj (equal.trans leads.2.1) ▸ tile

theorem readRegistrationEntry_ok {entries entries' : List CatalogEntry} {item : YamlNode}
    (passed : readRegistrationEntry library entries item = .ok entries') :
    ∃ entry, (RecordsPath library item entry.relativePath ∧
        LeadsTo kRegistrationDirectory (String.ofList (fileName entry.relativePath))
          entry.relativePath ∧
        item.uint64At library "bytes" = .ok entry.bytes ∧
        item.textAt library "sha256" "" = .ok entry.sha256 ∧ entry.sha256.length = 64) ∧
      entries' = entries ++ [entry] := by
  unfold readRegistrationEntry at passed
  simp only [bind_eq_ok, attempt_eq_ok, refuseWhen_eq_ok] at passed
  obtain ⟨isMap, -, -, -, path, records, -, safe, bytes, size, digest, hash, -, hashed, done⟩ :=
    passed
  cases done
  simp only [Bool.or_eq_false_iff, bne_eq_false_iff_eq, Bool.not_eq_false'] at safe hashed
  have checked := safe.1
  unfold isSafeRegistrationPath at checked
  simp only [Bool.and_eq_true, Bool.not_eq_true', beq_iff_eq] at checked
  exact ⟨⟨path, bytes, digest⟩, ⟨records, leadsTo_fileName checked.1.1.1.1.2 checked.1.2
    checked.1.1.1.2, size, hash, hashed⟩, rfl⟩

theorem loadRegistrationTile_ok {cloud cloud' : List Point} {entry : CatalogEntry}
    (passed : loadRegistrationTile files root cloud entry = .ok cloud') :
    files.fileSize (pathBelow root entry.relativePath) = some entry.bytes ∧
      files.sha256File (pathBelow root entry.relativePath) = entry.sha256 ∧
      ∃ tile, files.loadPCDFile (pathBelow root entry.relativePath) = .ok (some tile) ∧
        tile ≠ [] := by
  unfold loadRegistrationTile at passed
  simp only [bind_eq_ok, attempt_eq_ok, refuseWhen_eq_ok] at passed
  obtain ⟨-, -, -, sized, -, hashed, decoded, loads, passed⟩ := passed
  simp only [Bool.or_eq_false_iff, bne_eq_false_iff_eq] at sized hashed
  refine ⟨sized, hashed.2, ?_⟩
  cases decoded with
  | none => cases passed
  | some tile =>
    simp only [bind_eq_ok, refuseWhen_eq_ok] at passed
    obtain ⟨-, points, -⟩ := passed
    exact ⟨tile, loads, by simpa using points⟩

def TilesDecode (library : YamlLibrary) (files : TileFiles Point) (root : String)
    (catalog : List YamlNode) : Prop :=
  ∀ item ∈ catalog, ∃ path tile, RecordsPath library item path ∧
    files.loadPCDFile (pathBelow root path) = .ok (some tile) ∧ tile ≠ []

theorem loadRegistration_ok {catalog : List YamlNode} {loaded : List Point × Nat}
    (walked : enumerateRegistrationTiles files root = .ok names)
    (passed : loadRegistration library files root catalog names = .ok loaded) :
    LayerIntact library files root kRegistrationDirectory catalog ∧
      TilesDecode library files root catalog := by
  unfold loadRegistration at passed
  simp only [bind_eq_ok, refuseWhen_eq_ok, Bool.not_eq_false'] at passed
  obtain ⟨entries, read, -, same, cloud, load, -⟩ := passed
  rw [samePaths_iff] at same
  obtain ⟨-, all, only⟩ := @foldlM_notes _ _ _ CatalogEntry _
    (fun entries entry => entry ∈ entries)
    (fun item entry => RecordsPath library item entry.relativePath ∧
      LeadsTo kRegistrationDirectory (String.ofList (fileName entry.relativePath))
        entry.relativePath ∧
      item.uint64At library "bytes" = .ok entry.bytes ∧
      item.textAt library "sha256" "" = .ok entry.sha256 ∧ entry.sha256.length = 64)
    (fun entries item entries' step => by
      obtain ⟨entry, noted, rfl⟩ := readRegistrationEntry_ok step
      exact ⟨entry, noted, fun other => by simp [or_comm]⟩)
    _ _ _ read
  have tiles : ∀ entry ∈ entries,
      files.fileSize (pathBelow root entry.relativePath) = some entry.bytes ∧
        files.sha256File (pathBelow root entry.relativePath) = entry.sha256 ∧
        ∃ tile, files.loadPCDFile (pathBelow root entry.relativePath) = .ok (some tile) ∧
          tile ≠ [] := by
    intro entry member
    obtain ⟨before, after, step⟩ := foldlM_eq_ok load entry member
    exact loadRegistrationTile_ok step
  -- The path of an enumerated tile consists of the directory and the name of the tile.
  have entryNames : ∀ name, TileOnDisk files root kRegistrationDirectory name →
      LeadsTo kRegistrationDirectory name (kRegistrationDirectory ++ "/" ++ name) := by
    rintro _ ⟨-, entry, -, tile, rfl⟩
    unfold DirectoryEntry.isTile at tile
    rw [Bool.and_eq_true] at tile
    refine ⟨?_, pathNames_entry (by decide) (by decide) entry.plain
      (ne_nil_of_hasTileExtension tile.2), tile.2⟩
    simp [isAbsolute, kRegistrationDirectory]
  refine ⟨⟨?_, ?_⟩, ?_⟩
  · intro item member
    obtain ⟨entry, ⟨records, leads, size, hash, long⟩, known⟩ := all item member
    obtain ⟨sized, hashed, -⟩ := tiles entry known
    exact ⟨_, _, records, leads, entry.bytes, entry.sha256, size, hash, long, sized, hashed⟩
  · intro name
    rw [← enumerateRegistrationTiles_ok walked]
    constructor
    · intro tile
      have listed := (same (kRegistrationDirectory ++ "/" ++ name)).mpr
        (List.mem_map.mpr ⟨name, tile, rfl⟩)
      obtain ⟨entry, known, path⟩ := List.mem_map.mp listed
      have leads := entryNames name ((enumerateRegistrationTiles_ok walked name).mp tile)
      rw [← path] at leads
      rcases only entry known with none | ⟨item, member, records, -⟩
      · cases none
      · exact ⟨item, member, entry.relativePath, records, leads⟩
    · rintro ⟨item, member, path, records, leads⟩
      obtain ⟨entry, ⟨records', -⟩, known⟩ := all item member
      obtain rfl : path = entry.relativePath := Except.ok.inj (records.symm.trans records')
      obtain ⟨other, tile, equal⟩ := List.mem_map.mp
        ((same entry.relativePath).mp (List.mem_map.mpr ⟨entry, known, rfl⟩))
      have otherLeads := entryNames other ((enumerateRegistrationTiles_ok walked other).mp tile)
      rw [equal] at otherLeads
      exact entry_name_inj (otherLeads.2.1.symm.trans leads.2.1) ▸ tile
  · intro item member
    obtain ⟨entry, ⟨records, -⟩, known⟩ := all item member
    obtain ⟨-, -, tile, loads, points⟩ := tiles entry known
    exact ⟨entry.relativePath, tile, records, loads, points⟩

/-- The directory of a layer is not there, or it has been walked through without a tile. -/
def LayerBlank (files : TileFiles Point) (root layer : String) : Prop :=
  files.status (pathBelow root layer) = .missing ∨
    files.status (pathBelow root layer) = .directory ∧
      (files.listing (pathBelow root layer)).opens = true ∧
      (files.listing (pathBelow root layer)).completes = true ∧
      ∀ entry ∈ (files.listing (pathBelow root layer)).entries, entry.isTile = false

def EntriesKnown (files : TileFiles Point) (root layer : String) : Prop :=
  files.status (pathBelow root layer) = .directory →
    ∀ entry ∈ (files.listing (pathBelow root layer)).entries, entry.status ≠ .failed

theorem layerOccupied_eq_none :
    layerOccupied files root layer = none ↔ LayerBlank files root layer := by
  unfold layerOccupied LayerBlank
  dsimp only
  cases status : files.status (pathBelow root layer) with
  | missing => simp
  | failed => simp
  | regular => simp
  | other => simp
  | directory =>
    dsimp only
    cases (files.listing (pathBelow root layer)).opens with
    | false => simp
    | true =>
      -- The walk meets a tile, ends without one, or breaks off.
      cases occupied : (files.listing (pathBelow root layer)).entries.any DirectoryEntry.isTile with
      | true =>
        rw [List.any_eq_true] at occupied
        obtain ⟨entry, member, tile⟩ := occupied
        simp only [Bool.and_self, if_true, reduceCtorEq, false_or, true_and, false_iff, not_and,
          not_forall]
        exact fun _ => ⟨entry, member, by simp [tile]⟩
      | false =>
        rw [List.any_eq_false] at occupied
        cases (files.listing (pathBelow root layer)).completes with
        | false => simp
        | true => simpa using occupied

theorem hasAnyPersistentTileOnDisk_eq_none :
    hasAnyPersistentTileOnDisk files root = none ↔
      ∀ layer ∈ kLayerDirectories, LayerBlank files root layer := by
  unfold hasAnyPersistentTileOnDisk
  rw [List.findSome?_eq_none_iff]
  exact forall₂_congr fun layer _ => layerOccupied_eq_none

end Layers

/-! ### Calls that return -/

def Returns {Value : Type} (call : Except LoadStop Value) : Prop := call ≠ .error .neverReturns

theorem Returns.bind {First Second : Type} {first : Except LoadStop First}
    {next : First → Except LoadStop Second} (returns : Returns first)
    (later : ∀ value, first = .ok value → Returns (next value)) : Returns (first >>= next) := by
  cases first with
  | error stop =>
    intro never
    cases never
    exact returns rfl
  | ok value => exact later value rfl

theorem Returns.ok (value : Value) : Returns (.ok value) := by
  intro never
  cases never

theorem Returns.refused (reason : String) :
    Returns (.error (.refused reason) : Except LoadStop Value) := by
  intro never
  cases never

theorem Returns.attempt (call : Except String Value) :
    Returns (NdtSlam.attempt call) := by
  cases call with
  | ok value => exact .ok value
  | error what =>
    intro never
    cases never

theorem Returns.refuseWhen (faulty : Bool) (reason : String) :
    Returns (NdtSlam.refuseWhen faulty reason) := by
  cases faulty with
  | true => exact .refused reason
  | false => exact .ok ()

theorem Returns.foldlM {State Item : Type} {step : State → Item → Except LoadStop State}
    (returns : ∀ state item, Returns (step state item)) (items : List Item) (start : State) :
    Returns (items.foldlM step start) := by
  induction items generalizing start with
  | nil => exact .ok start
  | cons head rest ih =>
    rw [List.foldlM_cons]
    exact (returns start head).bind fun after _ => ih after

section Returning

variable {Point : Type} {library : YamlLibrary} {files : TileFiles Point} {root : String}

theorem validateLayerEntry_returns (directory : String) (seen : List (List (List Char)))
    (item : YamlNode) : Returns (validateLayerEntry library files root directory seen item) :=
  (Returns.attempt _).bind fun _ _ => (Returns.refuseWhen _ _).bind fun _ _ =>
    (Returns.attempt _).bind fun _ _ => (Returns.refuseWhen _ _).bind fun _ _ =>
      (Returns.refuseWhen _ _).bind fun _ _ => (Returns.refuseWhen _ _).bind fun _ _ =>
        (Returns.attempt _).bind fun _ _ => (Returns.refuseWhen _ _).bind fun _ _ =>
          (Returns.attempt _).bind fun _ _ => (Returns.refuseWhen _ _).bind fun _ _ => .ok _

theorem layerTiles_returns (layer directory : String) :
    Returns (layerTiles files root layer directory) := by
  unfold layerTiles
  dsimp only
  split
  · exact .ok _
  · exact .refused _
  · split
    · exact .ok _
    · exact .refused _
  · exact .refused _

theorem validateLayerCatalog_returns (layer directory : String) (catalog : List YamlNode) :
    Returns (validateLayerCatalog library files root layer directory catalog) :=
  (Returns.foldlM (validateLayerEntry_returns directory) _ _).bind fun _ _ =>
    (layerTiles_returns layer directory).bind fun _ _ => .refuseWhen _ _

theorem readRegistrationEntry_returns (entries : List CatalogEntry) (item : YamlNode) :
    Returns (readRegistrationEntry library entries item) :=
  (Returns.attempt _).bind fun _ _ => (Returns.refuseWhen _ _).bind fun _ _ =>
    (Returns.attempt _).bind fun _ _ => (Returns.refuseWhen _ _).bind fun _ _ =>
      (Returns.attempt _).bind fun _ _ => (Returns.attempt _).bind fun _ _ =>
        (Returns.refuseWhen _ _).bind fun _ _ => .ok _

theorem loadRegistrationTile_returns (cloud : List Point) (entry : CatalogEntry) :
    Returns (loadRegistrationTile files root cloud entry) := by
  refine (Returns.refuseWhen _ _).bind fun _ _ => (Returns.refuseWhen _ _).bind fun _ _ =>
    (Returns.refuseWhen _ _).bind fun _ _ => (Returns.attempt _).bind fun decoded _ => ?_
  cases decoded with
  | none => exact .refused _
  | some tile => exact (Returns.refuseWhen _ _).bind fun _ _ => .ok _

theorem restoreLayers_returns (catalogs : LayerCatalogs) (names : List String) :
    Returns (restoreLayers library files root catalogs names) :=
  (validateLayerCatalog_returns _ _ _).bind fun _ _ =>
    (validateLayerCatalog_returns _ _ _).bind fun _ _ =>
      (validateLayerCatalog_returns _ _ _).bind fun _ _ =>
        (Returns.foldlM readRegistrationEntry_returns _ _).bind fun _ _ =>
          (Returns.refuseWhen _ _).bind fun _ _ =>
            (Returns.foldlM loadRegistrationTile_returns _ _).bind fun _ _ =>
              (Returns.refuseWhen _ _).bind fun _ _ => .ok _

theorem enumerateRegistrationTiles_returns :
    Returns (enumerateRegistrationTiles files root) := by
  unfold enumerateRegistrationTiles
  dsimp only
  split
  · exact .ok _
  · exact .refused _
  · split
    · exact .ok _
    · exact .refused _
  · exact .refused _

theorem readCatalogs_returns (manifest : YamlNode) (expectedTileSizeM : Scalar) :
    Returns (readCatalogs library manifest expectedTileSizeM) := by
  have catalog : ∀ layers layer, Returns (readCatalog library layers layer) := by
    intro layers layer
    refine (Returns.attempt _).bind fun _ _ => (Returns.attempt _).bind fun items _ => ?_
    cases items with
    | none => exact .refused _
    | some items => exact .ok items
  exact (Returns.attempt _).bind fun _ _ => (Returns.refuseWhen _ _).bind fun _ _ =>
    (Returns.attempt _).bind fun _ _ => (Returns.attempt _).bind fun _ _ =>
      (Returns.refuseWhen _ _).bind fun _ _ => (catalog _ _).bind fun _ _ =>
        (catalog _ _).bind fun _ _ => (catalog _ _).bind fun _ _ =>
          (catalog _ _).bind fun _ _ => .ok _

theorem readSchema_returns (manifest : YamlNode) (expectedMapUuid : String) :
    Returns (readSchema library manifest expectedMapUuid) := by
  refine (Returns.attempt _).bind fun schemaVersion _ => (Returns.attempt _).bind fun _ _ =>
    (Returns.attempt _).bind fun _ _ => (Returns.refuseWhen _ _).bind fun _ _ => ?_
  split
  · exact (Returns.attempt _).bind fun _ _ => (Returns.refuseWhen _ _).bind fun _ _ => .ok _
  · exact .ok _

theorem parseYawReference_returns (reference : YamlNode) :
    Returns (parseYawReference library reference) := by
  refine (Returns.attempt _).bind fun _ _ => (Returns.attempt _).bind fun _ _ =>
    (Returns.attempt _).bind fun _ _ => (Returns.attempt _).bind fun name _ => ?_
  cases yawReferenceSourceFromName name with
  | none => exact .refused _
  | some source =>
    exact (Returns.attempt _).bind fun _ _ => (Returns.attempt _).bind fun _ _ =>
      (Returns.attempt _).bind fun _ _ => (Returns.attempt _).bind fun _ _ =>
        (Returns.attempt _).bind fun _ _ => (Returns.attempt _).bind fun _ _ =>
          (Returns.attempt _).bind fun _ _ => .ok _

end Returning

theorem bind_eq_never {First Second : Type} {first : Except LoadStop First}
    {next : First → Except LoadStop Second} :
    first >>= next = .error .neverReturns ↔
      first = .error .neverReturns ∨
        ∃ value, first = .ok value ∧ next value = .error .neverReturns := by
  cases first with
  | error stop =>
    constructor
    · intro never
      cases never
      exact .inl rfl
    · rintro (never | ⟨value, other, -⟩)
      · cases never
        rfl
      · cases other
  | ok value =>
    constructor
    · intro never
      exact .inr ⟨value, rfl, never⟩
    · rintro (never | ⟨other, same, never⟩)
      · cases never
      · cases same
        exact never

section Calls

variable {Point : Type} (library : YamlLibrary) (formatYaw : Scalar → String)
  (files : TileFiles Point) (root expectedMapUuid : String) (expectedTileSizeM : Scalar)

/-- The manifest has a heading that cannot be brought into one turn. -/
def EndlessHeading : Prop :=
  (∃ names, enumerateRegistrationTiles files root = .ok names) ∧
    files.status (pathBelow root kManifestName) = .regular ∧
    ∃ manifest mapFrameUuid fields reference,
      files.loadFile (pathBelow root kManifestName) = .ok manifest ∧
      readSchema library manifest expectedMapUuid = .ok kManifestSchemaVersion ∧
      manifest.textAt library "map_frame_uuid" "" = .ok mapFrameUuid ∧ mapFrameUuid ≠ "" ∧
      manifest.child library "yaw_reference" = .ok (.map fields) ∧
      parseYawReference library (.map fields) = .ok reference ∧
      normalizeAngleReturns reference.railYawInMapRad = false

/-- There is no manifest, or a valid one without a tile. -/
def DescribesNoTiles : Prop :=
  files.status (pathBelow root kManifestName) = .missing ∨
    files.status (pathBelow root kManifestName) = .regular ∧
      ∃ heading catalogs, readManifest library formatYaw files root expectedMapUuid
          expectedTileSizeM = .ok (heading, catalogs) ∧ catalogs.empty = true

def RestoredIntact : Prop :=
  ∃ heading catalogs, readManifest library formatYaw files root expectedMapUuid
      expectedTileSizeM = .ok (heading, catalogs) ∧
    LayerIntact library files root "tiles_registration" catalogs.registration ∧
    LayerIntact library files root "tiles_display" catalogs.display ∧
    LayerIntact library files root "tiles_ground" catalogs.ground ∧
    LayerIntact library files root "tiles_objects" catalogs.objects ∧
    catalogs.registration ≠ [] ∧ TilesDecode library files root catalogs.registration

def NothingThere (files : TileFiles Point) (root : String) : Prop :=
  files.status (pathBelow root kManifestName) ≠ .failed ∧
    ∀ layer ∈ kLayerDirectories, LayerBlank files root layer ∧ EntriesKnown files root layer

/-- A call returns, and calls a map restored or new only when it is. -/
def LoaderSound : Prop :=
  ∃ result, loadPersistentRegistrationLayer library formatYaw files root expectedMapUuid
      expectedTileSizeM = some result ∧
    (result.status = .restored → RestoredIntact library formatYaw files root expectedMapUuid
      expectedTileSizeM) ∧
    (result.status = .newMapBootstrap → NothingThere files root)

variable {library formatYaw files root expectedMapUuid expectedTileSizeM}

theorem checkYawReference_never {mapFrameUuid : String} {reference : RailYawReference} :
    checkYawReference formatYaw mapFrameUuid reference = .error .neverReturns ↔
      normalizeAngleReturns reference.railYawInMapRad = false := by
  unfold checkYawReference
  cases normalizeAngleReturns reference.railYawInMapRad with
  | false => exact ⟨fun _ => rfl, fun _ => rfl⟩
  | true =>
    constructor
    · intro never
      exact absurd never (Returns.refuseWhen _ _)
    · intro other
      cases other

theorem readHeading_never {manifest : YamlNode} {schemaVersion : Nat} :
    readHeading library formatYaw manifest schemaVersion = .error .neverReturns ↔
      schemaVersion = kManifestSchemaVersion ∧ ∃ mapFrameUuid fields reference,
        manifest.textAt library "map_frame_uuid" "" = .ok mapFrameUuid ∧ mapFrameUuid ≠ "" ∧
        manifest.child library "yaw_reference" = .ok (.map fields) ∧
        parseYawReference library (.map fields) = .ok reference ∧
        normalizeAngleReturns reference.railYawInMapRad = false := by
  unfold readHeading
  split_ifs with current
  · simp only [bind_eq_never, attempt_eq_ok, refuseWhen_eq_ok]
    constructor
    · rintro (never | ⟨mapFrameUuid, uuid, never | ⟨-, named, never | ⟨node, found, rest⟩⟩⟩)
      · exact absurd never (Returns.attempt _)
      · exact absurd never (Returns.refuseWhen _ _)
      · exact absurd never (Returns.attempt _)
      · -- Only the fields of a map are parsed.
        cases node with
        | map fields =>
          simp only [bind_eq_never] at rest
          rcases rest with never | ⟨reference, parsed, never | ⟨-, -, never⟩⟩
          · exact absurd never (parseYawReference_returns _)
          · exact ⟨current, mapFrameUuid, fields, reference, uuid, by simpa using named, found,
              parsed, checkYawReference_never.1 never⟩
          · cases never
        | absent key => cases rest
        | null => cases rest
        | scalar text => cases rest
        | sequence items => cases rest
    · rintro ⟨-, mapFrameUuid, fields, reference, uuid, named, found, parsed, endless⟩
      refine .inr ⟨mapFrameUuid, uuid, .inr ⟨(), by simpa using named, .inr ⟨_, found, ?_⟩⟩⟩
      simp only [bind_eq_never]
      exact .inr ⟨reference, parsed, .inl (checkYawReference_never.2 endless)⟩
  · constructor
    · intro never
      cases never
    · intro other
      exact absurd other.1 current

theorem loadLayer_never :
    loadLayer library formatYaw files root expectedMapUuid expectedTileSizeM
        = .error .neverReturns ↔
      EndlessHeading library files root expectedMapUuid := by
  unfold loadLayer EndlessHeading
  rw [bind_eq_never]
  constructor
  · rintro (never | ⟨names, walked, rest⟩)
    · exact absurd never enumerateRegistrationTiles_returns
    · refine ⟨⟨names, walked⟩, ?_⟩
      cases status : files.status (pathBelow root kManifestName) with
      | missing =>
        rw [status] at rest
        dsimp only at rest
        cases occupied : hasAnyPersistentTileOnDisk files root with
        | none => rw [occupied] at rest; cases rest
        | some reason => rw [occupied] at rest; cases rest
      | failed => rw [status] at rest; cases rest
      | directory => rw [status] at rest; cases rest
      | other => rw [status] at rest; cases rest
      | regular =>
        rw [status] at rest
        dsimp only at rest
        unfold loadDescribed at rest
        rw [bind_eq_never] at rest
        rcases rest with never | ⟨⟨heading, catalogs⟩, -, rest⟩
        · unfold readManifest at never
          simp only [bind_eq_never, attempt_eq_ok] at never
          rcases never with never | ⟨manifest, loaded, never | ⟨schemaVersion, schema,
            never | ⟨heading, -, never | ⟨catalogs, -, never⟩⟩⟩⟩
          · exact absurd never (Returns.attempt _)
          · exact absurd never (readSchema_returns _ _)
          · obtain ⟨rfl, mapFrameUuid, fields, reference, rest⟩ := readHeading_never.1 never
            exact ⟨rfl, manifest, mapFrameUuid, fields, reference, loaded, schema, rest⟩
          · exact absurd never (readCatalogs_returns _ _)
          · cases never
        · -- What comes after the manifest returns.
          exfalso
          dsimp only at rest
          by_cases blank : catalogs.registration.isEmpty = true
          · rw [if_pos blank] at rest
            cases occupied : (if catalogs.empty = true then hasAnyPersistentTileOnDisk files root
                else some "") with
            | none => rw [occupied] at rest; cases rest
            | some reason => rw [occupied] at rest; cases rest
          · rw [if_neg blank, bind_eq_never] at rest
            rcases rest with never | ⟨loaded, -, never⟩
            · exact restoreLayers_returns _ _ never
            · cases never
  · rintro ⟨⟨names, walked⟩, status, manifest, mapFrameUuid, fields, reference, loaded, schema,
      rest⟩
    refine .inr ⟨names, walked, ?_⟩
    rw [status]
    dsimp only
    unfold loadDescribed
    rw [bind_eq_never]
    refine .inl ?_
    unfold readManifest
    simp only [bind_eq_never, attempt_eq_ok]
    exact .inr ⟨manifest, loaded, .inr ⟨_, schema, .inl
      (readHeading_never.2 ⟨rfl, mapFrameUuid, fields, reference, rest⟩)⟩⟩

variable {result : PersistentRegistrationLoadResult Point}

theorem loadDescribed_ok {names : List String} :
    loadDescribed library formatYaw files root names expectedMapUuid expectedTileSizeM
        = .ok result ↔
      ∃ heading catalogs, readManifest library formatYaw files root expectedMapUuid
          expectedTileSizeM = .ok (heading, catalogs) ∧
        (catalogs.empty = true ∧ hasAnyPersistentTileOnDisk files root = none ∧
            result = newMap "new_map_empty_registration_catalog" ∨
          catalogs.registration ≠ [] ∧ ∃ cloud tileCount,
            restoreLayers library files root catalogs names = .ok (cloud, tileCount) ∧
            result = {
              status := .restored
              reason := "persistent_registration_restored"
              cloud, tileCount
              mapFrameUuid := heading.mapFrameUuid
              yawReference := heading.yawReference
              railWriteAuthorized := heading.railWriteAuthorized }) := by
  unfold loadDescribed
  simp only [bind_eq_ok, Prod.exists]
  refine exists_congr fun heading => exists_congr fun catalogs => and_congr_right fun _ => ?_
  by_cases blank : catalogs.registration.isEmpty = true
  · rw [if_pos blank]
    have none : catalogs.registration = [] := by simpa using blank
    by_cases empty : catalogs.empty = true
    · rw [if_pos empty]
      cases occupied : hasAnyPersistentTileOnDisk files root with
      | none => simp [none, empty, eq_comm, pure, Except.pure]
      | some reason => simp [none]
    · rw [if_neg empty]
      simp [none, empty]
  · -- A map with a registration catalogue is not empty.
    rw [if_neg blank]
    have some : catalogs.registration ≠ [] := by simpa using blank
    have occupied : catalogs.empty = false := by simp [LayerCatalogs.empty, some]
    rw [bind_eq_ok]
    simp [some, occupied, @eq_comm _ _ result, pure, Except.pure]

theorem loadLayer_ok :
    loadLayer library formatYaw files root expectedMapUuid expectedTileSizeM = .ok result ↔
      ∃ names, enumerateRegistrationTiles files root = .ok names ∧
        (files.status (pathBelow root kManifestName) = .missing ∧
            hasAnyPersistentTileOnDisk files root = none ∧
            result = newMap "new_map_no_registration_tiles" ∨
          files.status (pathBelow root kManifestName) = .regular ∧
            loadDescribed library formatYaw files root names expectedMapUuid expectedTileSizeM
              = .ok result) := by
  unfold loadLayer
  simp only [bind_eq_ok]
  refine exists_congr fun names => and_congr_right fun _ => ?_
  cases status : files.status (pathBelow root kManifestName) with
  | missing =>
    cases occupied : hasAnyPersistentTileOnDisk files root with
    | none => simp [eq_comm, pure, Except.pure]
    | some reason => simp
  | regular => simp
  | failed => simp
  | directory => simp
  | other => simp

theorem enumerateRegistrationTiles_blank
    (blank : LayerBlank files root kRegistrationDirectory) :
    enumerateRegistrationTiles files root = .ok [] := by
  unfold enumerateRegistrationTiles
  rcases blank with missing | ⟨directory, opens, completes, none⟩
  · simp [missing]
  · have nothing : (files.listing (pathBelow root kRegistrationDirectory)).tiles = some [] := by
      simp only [DirectoryListing.tiles, opens, completes, Bool.and_self, if_true, Option.some_inj,
        List.map_eq_nil_iff, List.filter_eq_nil_iff]
      exact fun entry member => by simp [none entry member]
    simp only [directory, nothing]

theorem restoreLayers_ok {catalogs : LayerCatalogs} {names : List String}
    {loaded : List Point × Nat} (walked : enumerateRegistrationTiles files root = .ok names)
    (restored : restoreLayers library files root catalogs names = .ok loaded) :
    LayerIntact library files root "tiles_registration" catalogs.registration ∧
      LayerIntact library files root "tiles_display" catalogs.display ∧
      LayerIntact library files root "tiles_ground" catalogs.ground ∧
      LayerIntact library files root "tiles_objects" catalogs.objects ∧
      TilesDecode library files root catalogs.registration := by
  unfold restoreLayers at restored
  simp only [bind_eq_ok] at restored
  obtain ⟨⟨⟩, display, ⟨⟩, ground, ⟨⟩, objects, registration⟩ := restored
  obtain ⟨intact, decode⟩ := loadRegistration_ok walked registration
  exact ⟨intact, validateLayerCatalog_ok display, validateLayerCatalog_ok ground,
    validateLayerCatalog_ok objects, decode⟩

theorem load_returns :
    (∃ result, loadPersistentRegistrationLayer library formatYaw files root expectedMapUuid
        expectedTileSizeM = some result) ↔
      ¬EndlessHeading library files root expectedMapUuid := by
  rw [← @loadLayer_never _ _ formatYaw _ _ _ expectedTileSizeM]
  unfold loadPersistentRegistrationLayer
  cases loadLayer library formatYaw files root expectedMapUuid expectedTileSizeM with
  | ok result => simp
  | error stop => cases stop <;> simp

theorem load_of_ok
    (call : loadLayer library formatYaw files root expectedMapUuid expectedTileSizeM
      = .ok result) :
    loadPersistentRegistrationLayer library formatYaw files root expectedMapUuid
      expectedTileSizeM = some result := by
  unfold loadPersistentRegistrationLayer
  rw [call]

theorem load_ok
    (loaded : loadPersistentRegistrationLayer library formatYaw files root expectedMapUuid
      expectedTileSizeM = some result) (valid : result.status ≠ .invalidExistingMap) :
    loadLayer library formatYaw files root expectedMapUuid expectedTileSizeM = .ok result := by
  unfold loadPersistentRegistrationLayer at loaded
  cases call : loadLayer library formatYaw files root expectedMapUuid expectedTileSizeM with
  | ok found =>
    rw [call] at loaded
    cases loaded
    rfl
  | error stop =>
    rw [call] at loaded
    cases stop with
    | refused reason => cases loaded; exact absurd rfl valid
    | thrown what => cases loaded; exact absurd rfl valid
    | neverReturns => cases loaded

theorem load_new :
    (∃ result, loadPersistentRegistrationLayer library formatYaw files root expectedMapUuid
        expectedTileSizeM = some result ∧ result.status = .newMapBootstrap) ↔
      DescribesNoTiles library formatYaw files root expectedMapUuid expectedTileSizeM ∧
        ∀ layer ∈ kLayerDirectories, LayerBlank files root layer := by
  rw [← hasAnyPersistentTileOnDisk_eq_none]
  unfold DescribesNoTiles
  constructor
  · rintro ⟨result, loaded, new⟩
    have call := load_ok loaded (by rw [new]; simp)
    obtain ⟨names, -, ⟨missing, blank, -⟩ | ⟨regular, described⟩⟩ := loadLayer_ok.1 call
    · exact ⟨.inl missing, blank⟩
    · obtain ⟨heading, catalogs, read, ⟨empty, blank, -⟩ | ⟨-, cloud, tileCount, -, rfl⟩⟩ :=
        loadDescribed_ok.1 described
      · exact ⟨.inr ⟨regular, heading, catalogs, read, empty⟩, blank⟩
      · cases new
  · rintro ⟨describes, blank⟩
    have walked : enumerateRegistrationTiles files root = .ok [] :=
      enumerateRegistrationTiles_blank
        (hasAnyPersistentTileOnDisk_eq_none.1 blank _ (by simp [kLayerDirectories,
          kRegistrationDirectory]))
    -- Both ways to a new map end with the same look at the layers.
    rcases describes with missing | ⟨regular, heading, catalogs, read, empty⟩
    · exact ⟨_, load_of_ok (loadLayer_ok.2 ⟨[], walked, .inl ⟨missing, blank, rfl⟩⟩), rfl⟩
    · have described : loadDescribed library formatYaw files root [] expectedMapUuid
          expectedTileSizeM = .ok (newMap "new_map_empty_registration_catalog") :=
        loadDescribed_ok.2 ⟨heading, catalogs, read, .inl ⟨empty, blank, rfl⟩⟩
      exact ⟨_, load_of_ok (loadLayer_ok.2 ⟨[], walked, .inr ⟨regular, described⟩⟩), rfl⟩

theorem load_restored
    (loaded : loadPersistentRegistrationLayer library formatYaw files root expectedMapUuid
      expectedTileSizeM = some result) (restored : result.status = .restored) :
    RestoredIntact library formatYaw files root expectedMapUuid expectedTileSizeM := by
  have call := load_ok loaded (by rw [restored]; simp)
  obtain ⟨names, walked, ⟨-, -, rfl⟩ | ⟨-, described⟩⟩ := loadLayer_ok.1 call
  · cases restored
  · obtain ⟨heading, catalogs, read, ⟨-, -, rfl⟩ | ⟨some, cloud, tileCount, layers, -⟩⟩ :=
      loadDescribed_ok.1 described
    · cases restored
    · obtain ⟨registration, display, ground, objects, decode⟩ := restoreLayers_ok walked layers
      exact ⟨heading, catalogs, read, registration, display, ground, objects, some, decode⟩

variable (library formatYaw files root expectedMapUuid expectedTileSizeM)

/--
Every map gets the verdict that it deserves, unless its heading has no end or an entry of a
directory that seems to have no tile cannot be looked at.
-/
theorem loader_sound :
    LoaderSound library formatYaw files root expectedMapUuid expectedTileSizeM ↔
      ¬EndlessHeading library files root expectedMapUuid ∧
        (DescribesNoTiles library formatYaw files root expectedMapUuid expectedTileSizeM →
          (∀ layer ∈ kLayerDirectories, LayerBlank files root layer) →
            ∀ layer ∈ kLayerDirectories, EntriesKnown files root layer) := by
  -- The verdict on a restored map always holds, so that only the one on a new map matters.
  constructor
  · rintro ⟨result, loaded, -, new⟩
    refine ⟨load_returns.1 ⟨result, loaded⟩, fun describes blank layer known => ?_⟩
    obtain ⟨result', loaded', status⟩ := load_new.2 ⟨describes, blank⟩
    obtain rfl : result = result' := Option.some.inj (loaded.symm.trans loaded')
    exact ((new status).2 layer known).2
  · rintro ⟨returns, known⟩
    obtain ⟨result, loaded⟩ := load_returns.2 returns
    refine ⟨result, loaded, load_restored loaded, fun status => ?_⟩
    obtain ⟨describes, blank⟩ := load_new.1 ⟨result, loaded, status⟩
    refine ⟨?_, fun layer member => ⟨blank layer member, known describes blank layer member⟩⟩
    rcases describes with missing | ⟨regular, -⟩
    · rw [missing]
      simp
    · rw [regular]
      simp

end Calls

section Samples

def unreadYaml : YamlLibrary where
  load _ := .error "bad file"
  nullText := some ""
  toUInt32 _ := none
  toUInt64 _ := none
  toBool _ := none
  toDouble _ := none
  toFloat _ := none
  invalidNode key := "invalid node; first invalid key: \"" ++ key ++ "\""
  badSubscript key := "operator[] call on a scalar (key: \"" ++ key ++ "\")"
  badConversion := "bad conversion"

def unknownTile : TileFiles Unit where
  status path := if path = "map/tiles_display" then .directory else .missing
  listing path :=
    if path = "map/tiles_display" then { entries := [⟨"0_0.pcd", .failed, originTile_plain⟩] }
    else { opens := false }
  fileSize _ := none
  sha256File _ := ""
  loadFile _ := .error "bad file"
  loadPCDFile _ := .ok none

/-- A map with such a tile is taken for a new one. -/
theorem new_map_despite_stat_error :
    ¬LoaderSound unreadYaml (fun _ => "") unknownTile "map" "map" 10 := by
  rintro ⟨result, loaded, -, new⟩
  -- The walk clears the error, so that the layer counts as empty.
  have walked : enumerateRegistrationTiles unknownTile "map" = .ok [] := by
    have missing : unknownTile.status (pathBelow "map" kRegistrationDirectory) = .missing := by
      decide
    simp [enumerateRegistrationTiles, missing]
  have missing : unknownTile.status (pathBelow "map" kManifestName) = .missing := by
    decide
  have blank : hasAnyPersistentTileOnDisk unknownTile "map" = none := by decide
  have call : loadPersistentRegistrationLayer unreadYaml (fun _ => "") unknownTile "map" "map"
      10 = some (newMap "new_map_no_registration_tiles") :=
    load_of_ok (loadLayer_ok.2 ⟨[], walked, .inl ⟨missing, blank, rfl⟩⟩)
  obtain rfl := Option.some.inj (loaded.symm.trans call)
  obtain ⟨-, layers⟩ := new rfl
  have known := (layers "tiles_display" (by simp [kLayerDirectories])).2 (by decide)
  have listed : (unknownTile.listing (pathBelow "map" "tiles_display")).entries =
      [⟨"0_0.pcd", .failed, originTile_plain⟩] := by
    have path : pathBelow "map" "tiles_display" = "map/tiles_display" := by decide
    simp [unknownTile, path]
  exact known _ (listed ▸ List.mem_singleton_self _) rfl

end Samples
end PersistentRegistration
end NdtSlam
