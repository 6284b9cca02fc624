import NdtSlam.TileStore.CatalogWriter

/-! What is on the disk of a persistent map that a restart accepts. -/

namespace NdtSlam

open PersistentRegistration

variable {settings : CatalogSettings} {disk : TileDisk settings.codec}

section

variable (disk : TileDisk settings.codec)

def TileDisk.tilePoints (name : String) : List Vec3 :=
  match disk.tile? .registration name with
  | some content => settings.cloudOf content
  | none => []

def TileDisk.Holds (cloud : List Vec3) : Prop :=
  ∃ names : List String, names.Nodup ∧ (∀ name, name ∈ names ↔ disk.HasTile .registration name) ∧
    cloud = names.flatMap disk.tilePoints

def TileDisk.Catalogued : Prop :=
  ∀ heading catalogs, disk.readDocument = .ok (heading, catalogs) →
    ∃ tiles, disk.Describes settings.format.library catalogs tiles

end

variable {tiles : List (List Vec3)}

theorem loads_names {entries : List CatalogEntry}
    (loads : List.Forall₂ (TileDisk.TileLoads disk) entries tiles) :
    ∃ names : List String,
      entries.map (·.relativePath) = names.map TileLayer.registration.tilePath ∧
        tiles.flatten = names.flatMap disk.tilePoints := by
  induction loads with
  | nil => exact ⟨[], rfl, rfl⟩
  | cons head _ ih =>
    obtain ⟨name, content, path, held, -, -, decoded, -⟩ := head
    obtain ⟨names, paths, points⟩ := ih
    refine ⟨name :: names, ?_, ?_⟩
    · rw [List.map_cons, List.map_cons, paths, path]
      rfl
    · rw [List.flatten_cons, List.flatMap_cons, points]
      unfold TileDisk.tilePoints CatalogSettings.cloudOf
      rw [held]
      simp only [decoded]

variable {catalog : List YamlNode}

theorem registrationMatches_holds
    (matched : TileDisk.RegistrationMatches settings.format.library disk catalog tiles) :
    disk.Holds tiles.flatten := by
  obtain ⟨entries, -, distinct, complete, loads⟩ := matched
  obtain ⟨names, paths, points⟩ := loads_names loads
  rw [paths] at distinct complete
  have apart : names.Nodup :=
    List.Pairwise.of_map _ (fun _ _ paths same => paths (congrArg _ same)) distinct
  refine ⟨names, apart, ?_, points⟩
  intro name
  have listed := complete (TileLayer.registration.tilePath name)
  rw [List.mem_map_of_injective TileLayer.tilePath_injective] at listed
  refine listed.trans ⟨?_, fun tile => ⟨name, tile, rfl⟩⟩
  rintro ⟨other, tile, path⟩
  rwa [TileDisk.entryPath_inj path]

theorem mem_of_mem_piece {separator letter : Char} {text piece : List Char}
    (member : piece ∈ text.splitOn separator) (inside : letter ∈ piece) : letter ∈ text := by
  induction text generalizing piece with
  | nil =>
    rw [List.splitOn_nil, List.mem_singleton] at member
    rwa [member] at inside
  | cons head rest ih =>
    rw [List.splitOn_cons_eq_if_modifyHead] at member
    split_ifs at member with separates
    · rcases List.mem_cons.mp member with rfl | member
      · cases inside
      · exact List.mem_cons_of_mem _ (ih member inside)
    · -- The first piece has one letter more than that of the rest.
      cases pieces : rest.splitOn separator with
      | nil => exact absurd pieces (List.splitOn_ne_nil _ _)
      | cons first others =>
        rw [pieces] at member ih
        rcases List.mem_cons.mp member with rfl | member
        · rcases List.mem_cons.mp inside with rfl | inside
          · exact List.mem_cons_self
          · exact List.mem_cons_of_mem _ (ih List.mem_cons_self inside)
        · exact List.mem_cons_of_mem _ (ih (List.mem_cons_of_mem _ member) inside)

theorem catalogMatches_plain {layer : TileLayer} {name : String}
    (matched : TileDisk.CatalogMatches settings.format.library disk layer catalog)
    (tile : disk.HasTile layer name) : '\\' ∉ name.toList := by
  obtain ⟨names, entries, -, complete⟩ := matched
  obtain ⟨item, -, path, content, -, -, accepts, parts, -⟩ :=
    TileDisk.exists_left_of_forall₂ entries ((complete name).mpr tile)
  intro backslash
  -- The name is a piece of the path, which has no such letter.
  have piece : name.toList ∈ path.toList.splitOn '/' := by
    have member : name.toList ∈ pathNames path := by rw [parts]; simp
    exact (List.mem_filter.mp member).1
  have inside := mem_of_mem_piece piece backslash
  simp only [TileDisk.acceptsPath, Bool.and_eq_true, Bool.not_eq_true',
    Bool.or_eq_false_iff] at accepts
  have outside := accepts.1.2
  rw [List.contains_eq_mem, decide_eq_false_iff_not] at outside
  exact outside inside

theorem registrationMatches_plain {name : String}
    (matched : TileDisk.RegistrationMatches settings.format.library disk catalog tiles)
    (tile : disk.HasTile .registration name) : '\\' ∉ name.toList := by
  obtain ⟨entries, read, -, complete, -⟩ := matched
  obtain ⟨entry, member, path⟩ := List.mem_map.mp ((complete _).mpr ⟨name, tile, rfl⟩)
  obtain ⟨item, -, -, -, safe, -⟩ := TileDisk.exists_left_of_forall₂ read member
  intro backslash
  have inside : '\\' ∈ entry.relativePath.toList := by
    rw [path, String.toList_append, List.mem_append]
    exact .inr backslash
  unfold isSafeRegistrationPath at safe
  simp only [Bool.and_eq_true, Bool.not_eq_true', List.contains_eq_mem,
    decide_eq_false_iff_not] at safe
  exact safe.1.1.2 inside

theorem registrationMatches_decodes
    (matched : TileDisk.RegistrationMatches settings.format.library disk catalog tiles) :
    disk.Decodes := by
  obtain ⟨entries, -, -, complete, loads⟩ := matched
  intro name content held
  obtain ⟨entry, member, path⟩ :=
    List.mem_map.mp ((complete _).mpr ⟨name, by simp [TileDisk.HasTile, held], rfl⟩)
  obtain ⟨cloud, -, other, content', located, held', -, -, decoded, some⟩ :=
    TileDisk.exists_right_of_forall₂ loads member
  obtain rfl := TileDisk.entryPath_inj (located.symm.trans path)
  obtain rfl := Option.some.inj (held.symm.trans held')
  exact ⟨cloud, decoded, some⟩

theorem tidy_of_describes {catalogs : LayerCatalogs}
    (describes : disk.Describes settings.format.library catalogs tiles) : disk.Tidy := by
  obtain ⟨display, ground, objects, registration⟩ := describes
  refine ⟨?_, registrationMatches_decodes registration⟩
  intro layer name tile
  cases layer with
  | registration => exact registrationMatches_plain registration tile
  | display => exact catalogMatches_plain display tile
  | ground => exact catalogMatches_plain ground tile
  | objects => exact catalogMatches_plain objects tile

theorem tidy_of_none (none : ∀ layer name, ¬disk.HasTile layer name) : disk.Tidy := by
  refine ⟨fun layer name tile => absurd tile (none layer name), ?_⟩
  intro name content held
  exact absurd (by simp [TileDisk.HasTile, held]) (none .registration name)

theorem describes_none {catalogs : LayerCatalogs} (empty : catalogs.empty = true)
    (none : ∀ layer name, ¬disk.HasTile layer name) :
    disk.Describes settings.format.library catalogs [] := by
  unfold LayerCatalogs.empty at empty
  simp only [Bool.and_eq_true, List.isEmpty_iff] at empty
  obtain ⟨⟨⟨registration, display⟩, ground⟩, objects⟩ := empty
  have blank : ∀ layer, TileDisk.CatalogMatches settings.format.library disk layer [] :=
    fun layer => ⟨[], .nil, .nil, fun name => by simp [none layer name]⟩
  unfold TileDisk.Describes
  rw [registration, display, ground, objects]
  exact ⟨blank _, blank _, blank _, [], .nil, .nil, fun path => by simp [none], .nil⟩

theorem loads_cases (loads : disk.Loads) :
    (disk.manifest.isSome = true ∧ ∃ heading catalogs tiles,
        disk.readDocument = .ok (heading, catalogs) ∧ catalogs.registration ≠ [] ∧
        disk.Describes settings.format.library catalogs tiles) ∨
      (disk.manifest = none ∨ disk.manifest.isSome = true ∧
        ∃ heading catalogs, disk.readDocument = .ok (heading, catalogs) ∧ catalogs.empty = true) ∧
      ∀ layer name, ¬disk.HasTile layer name := by
  rcases loads_iff.1 loads with ⟨result, loaded, restored⟩ | new
  · obtain ⟨manifest, heading, catalogs, tiles, read, some, describes, -⟩ :=
      load_restored_iff.1 ⟨result, loaded, restored, rfl⟩
    exact .inl ⟨manifest, heading, catalogs, tiles, read, some, describes⟩
  · exact .inr (load_new_iff.1 new)

theorem tidy_of_loads (loads : disk.Loads) : disk.Tidy := by
  rcases loads_cases loads with ⟨-, heading, catalogs, tiles, -, -, describes⟩ | ⟨-, none⟩
  · exact tidy_of_describes describes
  · exact tidy_of_none none

theorem registration_of_loads (loads : disk.Loads) {layer : TileLayer} {name : String}
    (tile : disk.HasTile layer name) : ∃ name, disk.HasTile .registration name := by
  rcases loads_cases loads with ⟨-, heading, catalogs, tiles, -, some, describes⟩ | ⟨-, none⟩
  · obtain ⟨-, -, -, entries, read, -, complete, -⟩ := describes
    obtain ⟨item, member⟩ := List.exists_mem_of_ne_nil _ some
    obtain ⟨entry, listed, -⟩ := TileDisk.exists_right_of_forall₂ read member
    obtain ⟨found, held, -⟩ := (complete _).mp (List.mem_map.mpr ⟨entry, listed, rfl⟩)
    exact ⟨found, held⟩
  · exact absurd tile (none layer name)

theorem restores_of_loads {result : PersistentRegistrationLoadResult Vec3}
    (loaded : disk.load = some result) (valid : result.status ≠ .invalidExistingMap) :
    disk.Holds result.cloud ∧ disk.Catalogued := by
  cases status : result.status with
  | restored =>
    obtain ⟨-, heading, catalogs, tiles, read, -, describes, points, -⟩ :=
      load_restored_iff.1 ⟨result, loaded, status, rfl⟩
    refine ⟨points ▸ registrationMatches_holds describes.2.2.2, ?_⟩
    intro heading' catalogs' read'
    cases Except.ok.inj (read.symm.trans read')
    exact ⟨tiles, describes⟩
  | newMapBootstrap =>
    obtain ⟨document, none⟩ := load_new_iff.1 ⟨result, loaded, status⟩
    refine ⟨⟨[], .nil, fun name => by simp [none], load_new_cloud loaded status⟩, ?_⟩
    intro heading catalogs read
    rcases document with missing | ⟨-, heading', catalogs', read', empty⟩
    · -- Without a manifest no document can be read.
      unfold TileDisk.readDocument at read
      rw [missing] at read
      cases read
    · cases Except.ok.inj (read.symm.trans read')
      exact ⟨[], describes_none empty none⟩
  | invalidExistingMap => exact absurd status valid

end NdtSlam
