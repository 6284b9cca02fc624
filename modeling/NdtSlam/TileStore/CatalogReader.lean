import NdtSlam.TileStore.TileCatalog

/-! When the reader of the persistent map accepts the files that it finds. -/

namespace NdtSlam

open PersistentRegistration

/-! ### Paths below the root -/

variable (root relative : String)

theorem pathNames_append :
    pathNames (root ++ "/" ++ relative) = pathNames root ++ pathNames relative := by
  have text : (root ++ "/" ++ relative).toList = root.toList ++ '/' :: relative.toList := by simp
  unfold pathNames pathPieces
  rw [text, List.splitOn_append_cons_self, List.filter_append]

theorem pathNames_pathBelow :
    pathNames (pathBelow root relative) = pathNames root ++ pathNames relative := by
  unfold pathBelow
  split_ifs with ends
  · simp only [Bool.or_eq_true, decide_eq_true_eq] at ends
    rcases ends with rfl | last
    · have nothing : pathNames "" = [] := by decide
      rw [nothing, String.empty_append, List.nil_append]
    · -- The separator at the end of the root is followed by an empty name.
      obtain ⟨front, split⟩ := List.getLast?_eq_some_iff.mp last
      have text : (root ++ relative).toList = front ++ '/' :: relative.toList := by
        simp [split]
      unfold pathNames pathPieces
      rw [text, split, List.splitOn_append_cons_self, List.splitOn_append_cons_self,
        List.filter_append, List.filter_append]
      simp
  · exact pathNames_append root relative

theorem not_mem_piece {separator : Char} {text piece : List Char}
    (member : piece ∈ text.splitOn separator) : separator ∉ piece := by
  induction text generalizing piece with
  | nil => simp_all
  | cons head rest ih =>
    rw [List.splitOn_cons_eq_if_modifyHead] at member
    split_ifs at member with separates
    · rcases List.mem_cons.mp member with rfl | member
      · simp
      · exact ih member
    · -- A character that does not separate joins the first piece.
      cases pieces : rest.splitOn separator with
      | nil => exact absurd pieces (List.splitOn_ne_nil _ _)
      | cons first others =>
        rw [pieces] at member ih
        rcases List.mem_cons.mp member with rfl | member
        · rw [List.mem_cons, not_or]
          have other : head ≠ separator := by simpa using separates
          exact ⟨other.symm, ih (by simp)⟩
        · exact ih (by simp [member])

theorem slash_not_mem_fileName (path : String) : '/' ∉ fileName path := by
  have some : pathPieces path ≠ [] := List.splitOn_ne_nil _ _
  unfold fileName
  rw [List.getLastD_eq_getLast?, List.getLast?_eq_some_getLast some]
  exact not_mem_piece (List.getLast_mem some)

namespace TilePlace

theorem ofPath_below :
    ofPath root (pathBelow root relative) = ofNames (pathNames relative) := by
  unfold ofPath
  rw [pathNames_pathBelow, if_pos (by simp), List.drop_left]

theorem ofDirectory_directory (layer : TileLayer) :
    TileLayer.ofDirectory layer.directory.toList = some layer := by
  cases layer <;> decide

theorem ofPath_manifest (root : String) :
    ofPath root (pathBelow root kManifestName) = .manifest := by
  have names : pathNames kManifestName = [kManifestName.toList] := by decide
  rw [ofPath_below, names, ofNames, if_pos rfl]

theorem ofPath_directory (root : String) (layer : TileLayer) :
    ofPath root (pathBelow root layer.directory) = .directory layer := by
  have names : pathNames layer.directory = [layer.directory.toList] := by
    cases layer <;> decide
  have other : layer.directory.toList ≠ kManifestName.toList := by
    cases layer <;> decide
  rw [ofPath_below, names, ofNames, if_neg other, ofDirectory_directory]

theorem ofPath_file (root : String) {layer : TileLayer} {path name : String}
    (names : pathNames path = [layer.directory.toList, name.toList]) :
    ofPath root (pathBelow root path) = .file layer name := by
  rw [ofPath_below, names, ofNames, ofDirectory_directory]
  simp

end TilePlace

namespace TileDisk

variable {codec : TileCodec} {disk : TileDisk codec} {root : String} {layer : TileLayer}

def tile? (disk : TileDisk codec) (layer : TileLayer) (name : String) : Option codec.Content :=
  if isTileName name then disk.file? layer name else none

def HasTile (disk : TileDisk codec) (layer : TileLayer) (name : String) : Prop :=
  (disk.tile? layer name).isSome = true

variable {name : String} {content : codec.Content}

theorem tile?_eq_some :
    disk.tile? layer name = some content ↔
      isTileName name = true ∧ disk.file? layer name = some content := by
  unfold tile?
  split_ifs with tile
  · simp [tile]
  · simp [tile]

theorem mem_tiles :
    (name, content) ∈ disk.tiles layer ↔ disk.tile? layer name = some content := by
  unfold tiles
  rw [List.mem_filter, Std.ExtTreeMap.mem_toList_iff_getElem?_eq_some, tile?_eq_some, and_comm]
  refine and_congr_right fun _ => ?_
  unfold file?
  cases disk.directory layer <;> simp

theorem tiles_nodup : ((disk.tiles layer).map Prod.fst).Nodup := by
  unfold tiles
  refine List.Pairwise.map _ (fun _ _ apart => apart) (List.Pairwise.filter _ ?_)
  refine ((disk.directory layer).getD ∅).distinct_keys_toList.imp ?_
  intro first second apart same
  exact apart (same ▸ Std.ReflCmp.compare_self)

/-! ### What the reader sees -/

theorem view_directory :
    (disk.view root).status (pathBelow root layer.directory) =
      if (disk.directory layer).isSome then .directory else .missing := by
  simp [view, TilePlace.ofPath_directory]

theorem view_listing :
    (disk.view root).listing (pathBelow root layer.directory) =
      { entries := (disk.names layer).filterMap directoryEntry } := by
  simp [view, TilePlace.ofPath_directory]

theorem mem_names :
    name ∈ disk.names layer ↔ (disk.file? layer name).isSome = true := by
  unfold names file?
  rw [Std.ExtTreeMap.mem_keys]
  cases found : disk.directory layer with
  | none => simp
  | some files =>
    simp only [Option.getD_some, Option.bind_some]
    rw [Std.ExtTreeMap.mem_iff_isSome_getElem?]

theorem tileOnDisk_view :
    TileOnDisk (disk.view root) root layer.directory name ↔ disk.HasTile layer name := by
  unfold TileOnDisk HasTile tile?
  rw [view_directory, view_listing]
  simp only [List.mem_filterMap]
  constructor
  · rintro ⟨-, entry, ⟨found, member, named⟩, tile, rfl⟩
    unfold directoryEntry at named
    split_ifs at named with plain
    obtain rfl := Option.some.inj named
    have file := mem_names.1 member
    simp only [DirectoryEntry.isTile, Bool.and_eq_true] at tile
    have good : isTileName found = true := by simp [isTileName, tile.2, plain]
    rw [if_pos good]
    exact file
  · intro tile
    split_ifs at tile with good
    · have plain : '/' ∉ name.toList := by
        simp only [isTileName, Bool.and_eq_true, Bool.not_eq_true'] at good
        simpa using good.2
      refine ⟨?_, ⟨name, .regular, plain⟩, ⟨name, mem_names.2 tile, ?_⟩, ?_, rfl⟩
      · unfold file? at tile
        cases found : disk.directory layer with
        | none => rw [found] at tile; simp at tile
        | some files => simp
      · simp [directoryEntry, plain]
      · simp only [isTileName, Bool.and_eq_true] at good
        simp [DirectoryEntry.isTile, good.1]
    · simp at tile

theorem layerTiles_view (label : String) :
    ∃ names, layerTiles (disk.view root) root label layer.directory = .ok names := by
  unfold layerTiles
  simp only [view_directory, view_listing]
  cases (disk.directory layer).isSome with
  | false => exact ⟨[], rfl⟩
  | true => exact ⟨_, rfl⟩

theorem enumerate_view :
    ∃ names, enumerateRegistrationTiles (disk.view root) root = .ok names := by
  have path : kRegistrationDirectory = TileLayer.registration.directory := rfl
  unfold enumerateRegistrationTiles
  rw [path]
  simp only [view_directory, view_listing]
  cases (disk.directory .registration).isSome with
  | false => exact ⟨[], rfl⟩
  | true => exact ⟨_, rfl⟩

theorem layerBlank_view :
    LayerBlank (disk.view root) root layer.directory ↔ ∀ name, ¬disk.HasTile layer name := by
  unfold LayerBlank
  constructor
  · rintro (missing | ⟨-, -, -, none⟩) name tile
    · obtain ⟨directory, -⟩ := tileOnDisk_view.2 tile
      rw [missing] at directory
      cases directory
    · obtain ⟨-, entry, member, good, -⟩ := (@tileOnDisk_view _ _ root _ _).mpr tile
      rw [none entry member] at good
      cases good
  · intro none
    cases made : (disk.directory layer).isSome with
    | false => exact .inl (by rw [view_directory, made]; rfl)
    | true =>
      have directory : (disk.view root).status (pathBelow root layer.directory) = .directory := by
        rw [view_directory, made]
        rfl
      refine .inr ⟨directory, by rw [view_listing], by rw [view_listing], ?_⟩
      intro entry member
      rw [Bool.eq_false_iff]
      intro tile
      exact none entry.name (tileOnDisk_view.1 ⟨directory, entry, member, tile, rfl⟩)

/-! ### Entries of a catalogue -/

theorem exists_left_of_forall₂ {Left Right : Type} {related : Left → Right → Prop}
    {lefts : List Left} {rights : List Right} (all : List.Forall₂ related lefts rights)
    {right : Right} (member : right ∈ rights) : ∃ left ∈ lefts, related left right := by
  induction all with
  | nil => cases member
  | cons head _ ih =>
    rcases List.mem_cons.mp member with rfl | member
    · exact ⟨_, List.mem_cons_self, head⟩
    · obtain ⟨left, inside, holds⟩ := ih member
      exact ⟨left, List.mem_cons_of_mem _ inside, holds⟩

theorem exists_right_of_forall₂ {Left Right : Type} {related : Left → Right → Prop}
    {lefts : List Left} {rights : List Right} (all : List.Forall₂ related lefts rights)
    {left : Left} (member : left ∈ lefts) : ∃ right ∈ rights, related left right :=
  exists_left_of_forall₂ all.flip member

def acceptsPath (layer : TileLayer) (path : String) : Bool :=
  !(path == "" || isAbsolute path || parentNames path != [layer.directory.toList] ||
      !hasTileExtension (fileName path) || path.toList.contains '\\') &&
    !(pathNames path).any fun name => name == "..".toList || name == ".".toList

def EntryMatches (library : YamlLibrary) (disk : TileDisk codec) (layer : TileLayer)
    (item : YamlNode) (name : String) : Prop :=
  ∃ path content, item.isMap library = .ok true ∧ item.textAt library "path" "" = .ok path ∧
    acceptsPath layer path = true ∧ pathNames path = [layer.directory.toList, name.toList] ∧
    disk.tile? layer name = some content ∧
    item.uint64At library "bytes" = .ok (codec.size content) ∧
    item.textAt library "sha256" "" = .ok (codec.sha256 content)

variable {library : YamlLibrary} {seen seen' : List (List (List Char))} {item : YamlNode}

theorem validateLayerEntry_view :
    validateLayerEntry library (disk.view root) root layer.directory seen item = .ok seen' ↔
      ∃ name, EntryMatches library disk layer item name ∧
        [layer.directory.toList, name.toList] ∉ seen ∧
        seen' = [layer.directory.toList, name.toList] :: seen := by
  unfold validateLayerEntry EntryMatches acceptsPath
  simp only [bind_eq_ok, attempt_eq_ok, refuseWhen_eq_ok]
  constructor
  · rintro ⟨isMap, map, -, mapped, path, records, -, safe, -, dots, -, regular, bytes, size, -,
      sized, digest, hash, -, hashed, done⟩
    simp only [Bool.or_eq_false_iff, bne_eq_false_iff_eq, Bool.not_eq_false'] at safe mapped
    obtain ⟨⟨⟨⟨⟨present, relative⟩, parent⟩, extension⟩, plain⟩, new⟩ := safe
    have names : pathNames path =
        [layer.directory.toList, (String.ofList (fileName path)).toList] := by
      rw [pathNames_eq (ne_nil_of_hasTileExtension extension), parent]
      simp
    have place := TilePlace.ofPath_file root names
    simp only [view, place] at regular sized hashed
    cases found : disk.file? layer (String.ofList (fileName path)) with
    | none => simp [found] at regular
    | some content =>
      simp only [found, Option.map_some, Option.getD_some, bne_eq_false_iff_eq,
        Bool.or_eq_false_iff] at sized hashed
      obtain rfl := Option.some.inj sized
      obtain ⟨-, rfl⟩ := hashed
      have tile : isTileName (String.ofList (fileName path)) = true := by
        have single := slash_not_mem_fileName path
        simp [isTileName, extension, single]
      refine ⟨_, ⟨path, content, mapped ▸ map, records, ?_, names,
        tile?_eq_some.2 ⟨tile, found⟩, size, hash⟩, ?_, ?_⟩
      · simp only [present, relative, parent, extension, plain, dots, bne_self_eq_false,
          Bool.or_self, Bool.not_true, Bool.not_false, Bool.and_self]
      · rw [← names]
        simpa using new
      · rw [← names]
        exact (Except.ok.inj done).symm
  · rintro ⟨name, ⟨path, content, map, records, accepts, names, held, size, hash⟩, new, rfl⟩
    have found := (tile?_eq_some.1 held).2
    simp only [Bool.and_eq_true, Bool.not_eq_true', Bool.or_eq_false_iff, bne_eq_false_iff_eq,
      Bool.not_eq_false'] at accepts
    have place := TilePlace.ofPath_file root names
    refine ⟨true, map, (), rfl, path, records, (), ?_, (), accepts.2, (), ?_, _, size, (), ?_, _,
      hash, (), ?_, ?_⟩
    · rw [← names] at new
      simp only [accepts.1, bne_self_eq_false, Bool.or_self, Bool.not_true, Bool.false_or]
      simpa using new
    · simp [view, place, found]
    · simp [view, place, found]
    · simp [view, place, found, codec.sha256_length]
    · rw [← names]
      rfl

variable {catalog : List YamlNode}

theorem foldlM_validateLayerEntry :
    catalog.foldlM (validateLayerEntry library (disk.view root) root layer.directory) seen
        = .ok seen' ↔
      ∃ names, List.Forall₂ (EntryMatches library disk layer) catalog names ∧ names.Nodup ∧
        (∀ name ∈ names, [layer.directory.toList, name.toList] ∉ seen) ∧
        seen' = (names.map fun name => [layer.directory.toList, name.toList]).reverse ++ seen := by
  -- Each entry joins the paths that the following ones must not repeat.
  induction catalog generalizing seen with
  | nil =>
    constructor
    · intro done
      exact ⟨[], .nil, .nil, by simp, (Except.ok.inj done).symm⟩
    · rintro ⟨names, matched, -, -, rfl⟩
      cases matched
      rfl
  | cons head rest ih =>
    rw [List.foldlM_cons, bind_eq_ok]
    constructor
    · rintro ⟨next, first, later⟩
      obtain ⟨name, describes, new, rfl⟩ := validateLayerEntry_view.1 first
      obtain ⟨names, matched, distinct, apart, rfl⟩ := ih.mp later
      refine ⟨name :: names, .cons describes matched, List.nodup_cons.mpr ⟨?_, distinct⟩, ?_, ?_⟩
      · intro again
        exact apart name again (by simp)
      · intro other member
        rcases List.mem_cons.mp member with rfl | member
        · exact new
        · exact fun known => apart other member (List.mem_cons_of_mem _ known)
      · simp
    · rintro ⟨names, matched, distinct, apart, rfl⟩
      cases matched with
      | cons describes matched =>
        rename_i name names
        obtain ⟨fresh, distinct⟩ := List.nodup_cons.mp distinct
        refine ⟨_, validateLayerEntry_view.2 ⟨name, describes, apart name (by simp), rfl⟩,
          ih.mpr ⟨names, matched, distinct, ?_, by simp⟩⟩
        intro other member known
        rcases List.mem_cons.mp known with same | known
        · rw [entry_name_inj same] at member
          exact fresh member
        · exact apart other (by simp [member]) known

def CatalogMatches (library : YamlLibrary) (disk : TileDisk codec) (layer : TileLayer)
    (catalog : List YamlNode) : Prop :=
  ∃ names, List.Forall₂ (EntryMatches library disk layer) catalog names ∧ names.Nodup ∧
    ∀ name, name ∈ names ↔ disk.HasTile layer name

theorem validateLayerCatalog_view {label : String} :
    validateLayerCatalog library (disk.view root) root label layer.directory catalog = .ok () ↔
      CatalogMatches library disk layer catalog := by
  obtain ⟨diskNames, walked⟩ := @layerTiles_view _ disk root layer label
  have found : ∀ name, name ∈ diskNames ↔ disk.HasTile layer name := fun name =>
    (layerTiles_ok walked name).trans tileOnDisk_view
  unfold validateLayerCatalog CatalogMatches
  simp only [bind_eq_ok, walked, Except.ok.injEq, exists_eq_left', refuseWhen_eq_ok,
    Bool.not_eq_false', samePaths_iff]
  constructor
  · rintro ⟨paths, passed, same⟩
    obtain ⟨names, matched, distinct, -, rfl⟩ := foldlM_validateLayerEntry.1 passed
    refine ⟨names, matched, distinct, fun name => ?_⟩
    rw [← found]
    have both := same [layer.directory.toList, name.toList]
    simp only [List.append_nil, List.mem_reverse, List.mem_map] at both
    constructor
    · intro member
      obtain ⟨other, listed, path⟩ := both.mpr ⟨name, member, rfl⟩
      exact entry_name_inj path ▸ listed
    · intro listed
      obtain ⟨other, member, path⟩ := both.mp ⟨name, listed, rfl⟩
      exact entry_name_inj path ▸ member
  · rintro ⟨names, matched, distinct, complete⟩
    refine ⟨_, foldlM_validateLayerEntry.2 ⟨names, matched, distinct, by simp, rfl⟩, ?_⟩
    intro path
    simp only [List.append_nil, List.mem_reverse, List.mem_map]
    refine exists_congr fun name => and_congr_left fun _ => ?_
    rw [found, complete]

/-! ### The registration layer -/

def EntryReads (library : YamlLibrary) (item : YamlNode) (entry : CatalogEntry) : Prop :=
  item.isMap library = .ok true ∧ item.textAt library "path" "" = .ok entry.relativePath ∧
    isSafeRegistrationPath entry.relativePath = true ∧
    item.uint64At library "bytes" = .ok entry.bytes ∧
    item.textAt library "sha256" "" = .ok entry.sha256 ∧ entry.sha256.length = 64

variable {entries entries' : List CatalogEntry}

theorem readRegistrationEntry_view :
    readRegistrationEntry library entries item = .ok entries' ↔
      ∃ entry, EntryReads library item entry ∧
        entry.relativePath ∉ entries.map (·.relativePath) ∧ entries' = entries ++ [entry] := by
  unfold readRegistrationEntry EntryReads
  simp only [bind_eq_ok, attempt_eq_ok, refuseWhen_eq_ok]
  constructor
  · rintro ⟨isMap, map, -, mapped, path, records, -, safe, bytes, size, digest, hash, -, long,
      done⟩
    simp only [Bool.or_eq_false_iff, Bool.not_eq_false', bne_eq_false_iff_eq] at safe mapped long
    refine ⟨⟨path, bytes, digest⟩, ⟨mapped ▸ map, records, safe.1, size, hash, long⟩, ?_,
      (Except.ok.inj done).symm⟩
    have new := safe.2
    rw [List.any_eq_false] at new
    intro known
    obtain ⟨entry, member, same⟩ := List.mem_map.mp known
    exact new entry member (by simpa using same)
  · rintro ⟨entry, ⟨map, records, safe, size, hash, long⟩, new, rfl⟩
    refine ⟨true, map, (), rfl, _, records, (), ?_, _, size, _, hash, (), by simp [long], rfl⟩
    simp only [safe, Bool.not_true, Bool.false_or, List.any_eq_false, beq_iff_eq]
    intro other member same
    exact new (List.mem_map.mpr ⟨other, member, same⟩)

theorem foldlM_readRegistrationEntry :
    catalog.foldlM (readRegistrationEntry library) entries = .ok entries' ↔
      ∃ read, List.Forall₂ (EntryReads library) catalog read ∧
        (read.map (·.relativePath)).Nodup ∧
        (∀ entry ∈ read, entry.relativePath ∉ entries.map (·.relativePath)) ∧
        entries' = entries ++ read := by
  induction catalog generalizing entries with
  | nil =>
    constructor
    · intro done
      exact ⟨[], .nil, .nil, by simp, by simpa using (Except.ok.inj done).symm⟩
    · rintro ⟨read, matched, -, -, rfl⟩
      cases matched
      simp [pure, Except.pure]
  | cons head rest ih =>
    rw [List.foldlM_cons, bind_eq_ok]
    constructor
    · rintro ⟨next, first, later⟩
      obtain ⟨entry, reads, new, rfl⟩ := readRegistrationEntry_view.1 first
      obtain ⟨read, matched, distinct, apart, rfl⟩ := ih.mp later
      refine ⟨entry :: read, .cons reads matched, ?_, ?_, by simp⟩
      · refine List.nodup_cons.mpr ⟨?_, distinct⟩
        intro again
        obtain ⟨other, member, same⟩ := List.mem_map.mp again
        exact apart other member (by simp [same])
      · intro other member known
        rcases List.mem_cons.mp member with rfl | member
        · exact new known
        · refine apart other member ?_
          rw [List.map_append]
          exact List.mem_append_left _ known
    · rintro ⟨read, matched, distinct, apart, rfl⟩
      cases matched with
      | cons reads matched =>
        rename_i entry read
        obtain ⟨fresh, distinct⟩ := List.nodup_cons.mp distinct
        refine ⟨_, readRegistrationEntry_view.2 ⟨entry, reads, apart entry (by simp), rfl⟩,
          ih.mpr ⟨read, matched, distinct, ?_, by simp⟩⟩
        intro other member known
        rw [List.map_append, List.mem_append] at known
        rcases known with known | same
        · exact apart other (by simp [member]) known
        · refine fresh (List.mem_map.mpr ⟨other, member, ?_⟩)
          simpa using same

def TileLoads (disk : TileDisk codec) (entry : CatalogEntry) (tile : List Vec3) : Prop :=
  ∃ name content, entry.relativePath = kRegistrationDirectory ++ "/" ++ name ∧
    disk.tile? .registration name = some content ∧ entry.bytes = codec.size content ∧
    entry.sha256 = codec.sha256 content ∧ codec.decode content = .ok (some tile) ∧ tile ≠ []

theorem entryPath_inj {directory first second : String}
    (same : directory ++ "/" ++ first = directory ++ "/" ++ second) : first = second := by
  have text := congrArg String.toList same
  rw [String.toList_append, @String.toList_append (directory ++ "/") second] at text
  exact String.toList_inj.mp (List.append_cancel_left text)

theorem pathNames_registration (tile : isTileName name = true) :
    pathNames (kRegistrationDirectory ++ "/" ++ name) =
      [TileLayer.registration.directory.toList, name.toList] := by
  simp only [isTileName, Bool.and_eq_true, Bool.not_eq_true'] at tile
  exact pathNames_entry (by decide) (by decide) (by simpa using tile.2)
    (ne_nil_of_hasTileExtension tile.1)

theorem loadRegistrationTile_view {cloud cloud' : List Vec3} {entry : CatalogEntry}
    (tile : isTileName name = true)
    (path : entry.relativePath = kRegistrationDirectory ++ "/" ++ name) :
    loadRegistrationTile (disk.view root) root cloud entry = .ok cloud' ↔
      ∃ points, TileLoads disk entry points ∧ cloud' = cloud ++ points := by
  have place := TilePlace.ofPath_file root (path ▸ pathNames_registration tile)
  unfold loadRegistrationTile TileLoads
  simp only [bind_eq_ok, attempt_eq_ok, refuseWhen_eq_ok, view, place]
  constructor
  · rintro ⟨-, regular, -, sized, -, hashed, decoded, loads, passed⟩
    cases found : disk.file? .registration name with
    | none => simp [found] at regular
    | some content =>
      simp only [found, Option.map_some, Option.getD_some, bne_eq_false_iff_eq,
        Bool.or_eq_false_iff, Option.some.injEq] at sized hashed loads
      cases decoded with
      | none => cases passed
      | some points =>
        simp only [bind_eq_ok, refuseWhen_eq_ok] at passed
        obtain ⟨-, some, done⟩ := passed
        exact ⟨points, ⟨name, content, path, tile?_eq_some.2 ⟨tile, found⟩, sized.symm,
          hashed.2.symm, loads, by simpa using some⟩, (Except.ok.inj done).symm⟩
  · rintro ⟨points, ⟨other, content, same, held, size, hash, decodes, some⟩, rfl⟩
    have equal : other = name := by
      have names := (pathNames_registration (tile?_eq_some.1 held).1).symm.trans
        ((congrArg pathNames (same.symm.trans path)).trans (pathNames_registration tile))
      exact entry_name_inj names
    subst equal
    have found := (tile?_eq_some.1 held).2
    have long : codec.sha256 content ≠ "" := by
      intro empty
      have length := codec.sha256_length content
      rw [empty] at length
      exact absurd length (by decide)
    refine ⟨(), by simp [found], (), by simp [found, size], (), by simp [found, hash, long],
      Option.some points, by simpa [found] using decodes, ?_⟩
    simp only [bind_eq_ok, refuseWhen_eq_ok]
    exact ⟨(), by simpa using some, rfl⟩

theorem foldlM_loadRegistrationTile {entries : List CatalogEntry} {cloud cloud' : List Vec3}
    (paths : ∀ entry ∈ entries, ∃ name, isTileName name = true ∧
      entry.relativePath = kRegistrationDirectory ++ "/" ++ name) :
    entries.foldlM (loadRegistrationTile (disk.view root) root) cloud = .ok cloud' ↔
      ∃ tiles, List.Forall₂ (TileLoads disk) entries tiles ∧ cloud' = cloud ++ tiles.flatten := by
  induction entries generalizing cloud with
  | nil =>
    constructor
    · intro done
      exact ⟨[], .nil, by simpa using (Except.ok.inj done).symm⟩
    · rintro ⟨tiles, matched, rfl⟩
      cases matched
      simp [pure, Except.pure]
  | cons head rest ih =>
    obtain ⟨name, tile, path⟩ := paths head (by simp)
    have others := fun {start : List Vec3} => @ih start
      fun entry member => paths entry (List.mem_cons_of_mem _ member)
    rw [List.foldlM_cons, bind_eq_ok]
    constructor
    · rintro ⟨next, first, later⟩
      obtain ⟨points, loads, rfl⟩ := (loadRegistrationTile_view tile path).mp first
      obtain ⟨tiles, matched, rfl⟩ := others.mp later
      exact ⟨points :: tiles, .cons loads matched, by simp⟩
    · rintro ⟨tiles, matched, rfl⟩
      cases matched with
      | cons loads matched =>
        exact ⟨_, (loadRegistrationTile_view tile path).mpr ⟨_, loads, rfl⟩,
          others.mpr ⟨_, matched, by simp⟩⟩

def RegistrationMatches (library : YamlLibrary) (disk : TileDisk codec) (catalog : List YamlNode)
    (tiles : List (List Vec3)) : Prop :=
  ∃ entries, List.Forall₂ (EntryReads library) catalog entries ∧
    (entries.map (·.relativePath)).Nodup ∧
    (∀ path, path ∈ entries.map (·.relativePath) ↔
      ∃ name, disk.HasTile .registration name ∧ path = kRegistrationDirectory ++ "/" ++ name) ∧
    List.Forall₂ (TileLoads disk) entries tiles

theorem loadRegistration_view {names : List String} {cloud : List Vec3} {count : Nat}
    (walked : enumerateRegistrationTiles (disk.view root) root = .ok names) :
    loadRegistration library (disk.view root) root catalog names = .ok (cloud, count) ↔
      ∃ tiles, RegistrationMatches library disk catalog tiles ∧ cloud = tiles.flatten ∧
        cloud ≠ [] ∧ count = tiles.length := by
  have found : ∀ name, name ∈ names ↔ disk.HasTile .registration name := fun name =>
    (enumerateRegistrationTiles_ok walked name).trans (@tileOnDisk_view _ _ root .registration _)
  -- The paths of the catalogue have to be those of the tiles.
  have listed : ∀ path, path ∈ names.map (fun name => kRegistrationDirectory ++ "/" ++ name) ↔
      ∃ name, disk.HasTile .registration name ∧
        path = kRegistrationDirectory ++ "/" ++ name := by
    intro path
    simp only [List.mem_map, found, @eq_comm _ _ path]
  unfold loadRegistration RegistrationMatches
  simp only [bind_eq_ok, refuseWhen_eq_ok, Bool.not_eq_false', samePaths_iff, listed]
  have tilePaths : ∀ entries : List CatalogEntry,
      (∀ path, path ∈ entries.map (·.relativePath) ↔
        ∃ name, disk.HasTile .registration name ∧
          path = kRegistrationDirectory ++ "/" ++ name) →
      ∀ entry ∈ entries, ∃ name, isTileName name = true ∧
        entry.relativePath = kRegistrationDirectory ++ "/" ++ name := by
    intro entries complete entry member
    obtain ⟨name, tile, path⟩ :=
      (complete entry.relativePath).mp (List.mem_map.mpr ⟨entry, member, rfl⟩)
    obtain ⟨content, held⟩ := Option.isSome_iff_exists.mp tile
    exact ⟨name, (tile?_eq_some.1 held).1, path⟩
  constructor
  · rintro ⟨entries, read, -, complete, loaded, load, -, some, done⟩
    obtain ⟨known, matched, distinct, -, rfl⟩ := foldlM_readRegistrationEntry.1 read
    obtain ⟨tiles, loads, rfl⟩ := (foldlM_loadRegistrationTile (tilePaths _ complete)).mp load
    cases done
    refine ⟨tiles, ⟨_, by simpa using matched, by simpa using distinct, complete, loads⟩, rfl,
      by simpa using some, loads.length_eq⟩
  · rintro ⟨tiles, ⟨entries, matched, distinct, complete, loads⟩, rfl, some, rfl⟩
    refine ⟨entries, foldlM_readRegistrationEntry.2 ⟨entries, matched, distinct, by simp, rfl⟩,
      (), complete, _, (foldlM_loadRegistrationTile (tilePaths _ complete)).mpr
        ⟨tiles, loads, rfl⟩, (), by simpa using some, ?_⟩
    rw [loads.length_eq]
    rfl

/-! ### Whole maps -/

def Describes (library : YamlLibrary) (disk : TileDisk codec) (catalogs : LayerCatalogs)
    (tiles : List (List Vec3)) : Prop :=
  CatalogMatches library disk .display catalogs.display ∧
    CatalogMatches library disk .ground catalogs.ground ∧
    CatalogMatches library disk .objects catalogs.objects ∧
    RegistrationMatches library disk catalogs.registration tiles

variable {catalogs : LayerCatalogs}

theorem restoreLayers_view {names : List String} {cloud : List Vec3} {count : Nat}
    (walked : enumerateRegistrationTiles (disk.view root) root = .ok names) :
    restoreLayers library (disk.view root) root catalogs names = .ok (cloud, count) ↔
      ∃ tiles, disk.Describes library catalogs tiles ∧ cloud = tiles.flatten ∧ cloud ≠ [] ∧
        count = tiles.length := by
  unfold restoreLayers Describes
  simp only [bind_eq_ok, loadRegistration_view walked]
  constructor
  · rintro ⟨⟨⟩, display, ⟨⟩, ground, ⟨⟩, objects, tiles, matched, rest⟩
    exact ⟨tiles, ⟨(@validateLayerCatalog_view _ _ _ .display _ _ _).mp display,
      (@validateLayerCatalog_view _ _ _ .ground _ _ _).mp ground,
      (@validateLayerCatalog_view _ _ _ .objects _ _ _).mp objects, matched⟩, rest⟩
  · rintro ⟨tiles, ⟨display, ground, objects, matched⟩, rest⟩
    exact ⟨(), (@validateLayerCatalog_view _ _ _ .display _ _ _).mpr display,
      (), (@validateLayerCatalog_view _ _ _ .ground _ _ _).mpr ground,
      (), (@validateLayerCatalog_view _ _ _ .objects _ _ _).mpr objects, tiles, matched, rest⟩

def SameTiles (first second : TileDisk codec) : Prop :=
  ∀ layer name, first.tile? layer name = second.tile? layer name

variable {other : TileDisk codec}

theorem SameTiles.describes (same : disk.SameTiles other) {tiles : List (List Vec3)}
    (describes : disk.Describes library catalogs tiles) :
    other.Describes library catalogs tiles := by
  have equal : disk.tile? = other.tile? := funext fun layer => funext (same layer)
  unfold Describes CatalogMatches RegistrationMatches EntryMatches TileLoads HasTile at *
  rwa [equal] at describes

theorem EntryMatches.agree {name name' : String} (first : EntryMatches library disk layer item name)
    (second : EntryMatches library other layer item name') :
    name = name' ∧ ∃ old content, disk.tile? layer name = some old ∧
      other.tile? layer name = some content ∧ codec.sha256 old = codec.sha256 content := by
  obtain ⟨path, old, -, records, -, names, held, -, digest⟩ := first
  obtain ⟨path', content, -, records', -, names', held', -, digest'⟩ := second
  obtain rfl := Except.ok.inj (records.symm.trans records')
  obtain rfl := entry_name_inj (names.symm.trans names')
  exact ⟨rfl, old, content, held, held', Except.ok.inj (digest.symm.trans digest')⟩

theorem CatalogMatches.agree (first : CatalogMatches library disk layer catalog)
    (second : CatalogMatches library other layer catalog)
    (held : other.tile? layer name = some content) :
    ∃ old, disk.tile? layer name = some old ∧ codec.sha256 old = codec.sha256 content := by
  -- The entry for the tile on the other disk is one for a tile here.
  obtain ⟨names, matched, -, -⟩ := first
  obtain ⟨names', matched', -, complete⟩ := second
  obtain ⟨item, listed, there⟩ :=
    exists_left_of_forall₂ matched' ((complete name).mpr (by simp [HasTile, held]))
  obtain ⟨name', -, here⟩ := exists_right_of_forall₂ matched listed
  obtain ⟨rfl, old, content', found, held', digest⟩ := here.agree there
  obtain rfl := Option.some.inj (held.symm.trans held')
  exact ⟨old, found, digest⟩

variable {tiles tiles' : List (List Vec3)}

theorem RegistrationMatches.agree (first : RegistrationMatches library disk catalog tiles)
    (second : RegistrationMatches library other catalog tiles')
    (held : other.tile? .registration name = some content) :
    ∃ old, disk.tile? .registration name = some old ∧
      codec.sha256 old = codec.sha256 content := by
  obtain ⟨entries, read, -, -, loads⟩ := first
  obtain ⟨entries', read', -, complete', loads'⟩ := second
  obtain ⟨entry', member', path'⟩ := List.mem_map.mp
    ((complete' _).mpr ⟨name, by simp [HasTile, held], rfl⟩)
  obtain ⟨item, listed, -, records', -, -, digest', -⟩ := exists_left_of_forall₂ read' member'
  obtain ⟨entry, member, -, records, -, -, digest, -⟩ := exists_right_of_forall₂ read listed
  -- Both readers have read the same path and the same digest.
  have path : entry.relativePath = entry'.relativePath :=
    Except.ok.inj (records.symm.trans records')
  have hash : entry.sha256 = entry'.sha256 := Except.ok.inj (digest.symm.trans digest')
  obtain ⟨cloud, -, found, old, located, held₁, -, sha₁, -⟩ :=
    exists_right_of_forall₂ loads member
  obtain ⟨cloud', -, found', content', located', held₂, -, sha₂, -⟩ :=
    exists_right_of_forall₂ loads' member'
  obtain rfl := entryPath_inj (located.symm.trans (path.trans path'))
  obtain rfl := entryPath_inj (located'.symm.trans path')
  obtain rfl := Option.some.inj (held.symm.trans held₂)
  exact ⟨old, held₁, sha₁.symm.trans (hash.trans sha₂)⟩

theorem Describes.agree (first : disk.Describes library catalogs tiles)
    (second : other.Describes library catalogs tiles')
    (held : other.tile? layer name = some content) :
    ∃ old, disk.tile? layer name = some old ∧ codec.sha256 old = codec.sha256 content := by
  obtain ⟨display, ground, objects, registration⟩ := first
  obtain ⟨display', ground', objects', registration'⟩ := second
  cases layer with
  | registration => exact registration.agree registration' held
  | display => exact display.agree display' held
  | ground => exact ground.agree ground' held
  | objects => exact objects.agree objects' held

end TileDisk

section Settings

variable {settings : CatalogSettings} {disk : TileDisk settings.codec}

def TileDisk.Loads (disk : TileDisk settings.codec) : Prop :=
  ∃ result, disk.load = some result ∧ result.status ≠ .invalidExistingMap

def TileDisk.readDocument (disk : TileDisk settings.codec) :
    Except LoadStop (MapHeading × LayerCatalogs) := do
  let manifest ← attempt (disk.manifest.getD (.error "bad file"))
  let schemaVersion ← readSchema settings.format.library manifest settings.mapUuid
  let heading ← readHeading settings.format.library settings.formatYaw manifest schemaVersion
  return (heading, ← readCatalogs settings.format.library manifest settings.tileSizeM)

theorem readManifest_view :
    readManifest settings.format.library settings.formatYaw (disk.view settings.root)
      settings.root settings.mapUuid settings.tileSizeM = disk.readDocument := by
  unfold readManifest TileDisk.readDocument
  simp [TileDisk.view, TilePlace.ofPath_manifest]

theorem manifest_status :
    (disk.view settings.root).status (pathBelow settings.root kManifestName) =
      if disk.manifest.isSome then .regular else .missing := by
  simp [TileDisk.view, TilePlace.ofPath_manifest]

theorem layerDirectories_eq : kLayerDirectories = TileLayer.all.map TileLayer.directory := rfl

theorem allBlank_iff :
    (∀ layer ∈ kLayerDirectories, LayerBlank (disk.view settings.root) settings.root layer) ↔
      ∀ layer name, ¬disk.HasTile layer name := by
  rw [layerDirectories_eq]
  simp only [List.forall_mem_map, TileDisk.layerBlank_view]
  refine ⟨fun blank layer => blank layer ?_, fun blank layer _ => blank layer⟩
  cases layer <;> simp [TileLayer.all]

theorem load_restored_iff {cloud : List Vec3} :
    (∃ result, disk.load = some result ∧ result.status = .restored ∧ result.cloud = cloud) ↔
      disk.manifest.isSome = true ∧ ∃ heading catalogs tiles,
        disk.readDocument = .ok (heading, catalogs) ∧ catalogs.registration ≠ [] ∧
        disk.Describes settings.format.library catalogs tiles ∧ tiles.flatten = cloud ∧
        cloud ≠ [] := by
  obtain ⟨names, walked⟩ := @TileDisk.enumerate_view _ disk settings.root
  constructor
  · rintro ⟨result, loaded, restored, rfl⟩
    have call := load_ok loaded (by rw [restored]; simp)
    obtain ⟨names', walked', ⟨-, -, rfl⟩ | ⟨regular, described⟩⟩ := loadLayer_ok.1 call
    · cases restored
    · obtain rfl := Except.ok.inj (walked.symm.trans walked')
      obtain ⟨heading, catalogs, read, ⟨-, -, rfl⟩ | ⟨some, cloud, count, layers, rfl⟩⟩ :=
        loadDescribed_ok.1 described
      · cases restored
      · obtain ⟨tiles, describes, rfl, points, -⟩ := (TileDisk.restoreLayers_view walked).mp layers
        rw [readManifest_view] at read
        rw [manifest_status] at regular
        refine ⟨?_, heading, catalogs, tiles, read, some, describes, rfl, points⟩
        by_contra missing
        rw [if_neg missing] at regular
        cases regular
  · rintro ⟨manifest, heading, catalogs, tiles, read, some, describes, rfl, points⟩
    have layers := (TileDisk.restoreLayers_view walked).mpr
      ⟨tiles, describes, rfl, points, rfl⟩
    have described := loadDescribed_ok.2
      ⟨heading, catalogs, readManifest_view.trans read, .inr ⟨some, _, _, layers, rfl⟩⟩
    exact ⟨_, load_of_ok (loadLayer_ok.2 ⟨names, walked, .inr
      ⟨by rw [manifest_status, if_pos manifest], described⟩⟩), rfl, rfl⟩

theorem load_new_iff :
    (∃ result, disk.load = some result ∧ result.status = .newMapBootstrap) ↔
      (disk.manifest = none ∨ disk.manifest.isSome = true ∧
        ∃ heading catalogs, disk.readDocument = .ok (heading, catalogs) ∧
          catalogs.empty = true) ∧
      ∀ layer name, ¬disk.HasTile layer name := by
  have call := @load_new Vec3 settings.format.library settings.formatYaw
    (disk.view settings.root) settings.root settings.mapUuid settings.tileSizeM
  rw [allBlank_iff] at call
  unfold DescribesNoTiles at call
  rw [readManifest_view, manifest_status] at call
  refine call.trans (and_congr_left fun _ => or_congr ?_ (and_congr_left fun _ => ?_))
  · cases disk.manifest <;> simp
  · cases disk.manifest <;> simp

theorem load_new_cloud {result : PersistentRegistrationLoadResult Vec3}
    (loaded : disk.load = some result) (new : result.status = .newMapBootstrap) :
    result.cloud = [] := by
  have call := load_ok loaded (by rw [new]; simp)
  obtain ⟨names, -, ⟨-, -, rfl⟩ | ⟨-, described⟩⟩ := loadLayer_ok.1 call
  · rfl
  · obtain ⟨heading, catalogs, -, ⟨-, -, rfl⟩ | ⟨-, cloud, count, -, rfl⟩⟩ :=
      loadDescribed_ok.1 described
    · rfl
    · cases new

theorem loads_iff :
    disk.Loads ↔
      (∃ result, disk.load = some result ∧ result.status = .restored) ∨
      ∃ result, disk.load = some result ∧ result.status = .newMapBootstrap := by
  unfold TileDisk.Loads
  constructor
  · rintro ⟨result, loaded, valid⟩
    cases status : result.status with
    | restored => exact .inl ⟨result, loaded, status⟩
    | newMapBootstrap => exact .inr ⟨result, loaded, status⟩
    | invalidExistingMap => exact absurd status valid
  · rintro (⟨result, loaded, status⟩ | ⟨result, loaded, status⟩)
    · exact ⟨result, loaded, by rw [status]; simp⟩
    · exact ⟨result, loaded, by rw [status]; simp⟩

end Settings
end NdtSlam
