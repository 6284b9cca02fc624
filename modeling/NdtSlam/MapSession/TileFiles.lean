import NdtSlam.MapSession.Yaml

/-! The files of a persistent map, with everything that may go wrong when they are looked at. -/

namespace NdtSlam

inductive FileStatus where
  | missing
  | regular
  | directory
  | other
  | failed
  deriving DecidableEq

structure DirectoryEntry where
  name : String
  status : FileStatus
  plain : '/' ∉ name.toList

theorem originTile_plain : '/' ∉ "0_0.pcd".toList := by decide

structure DirectoryListing where
  opens : Bool := true
  entries : List DirectoryEntry := []
  completes : Bool := true

structure TileFiles (Point : Type) where
  status : String → FileStatus
  listing : String → DirectoryListing
  fileSize : String → Option Nat
  sha256File : String → String
  loadFile : String → Except String YamlNode
  loadPCDFile : String → Except String (Option (List Point))

def pathBelow (root relative : String) : String :=
  if root = "" || root.toList.getLast? = some '/' then root ++ relative
  else root ++ "/" ++ relative

variable (path : String)

def pathPieces : List (List Char) := path.toList.splitOn '/'

def pathNames : List (List Char) := (pathPieces path).filter (· ≠ [])

def parentNames : List (List Char) := (pathPieces path).dropLast.filter (· ≠ [])

def fileName : List Char := (pathPieces path).getLastD []

def hasTileExtension (name : List Char) : Bool :=
  ".pcd".toList.isSuffixOf name && 4 < name.length

def isAbsolute : Bool := path.toList.head? = some '/'

def DirectoryEntry.isTile (entry : DirectoryEntry) : Bool :=
  entry.status = .regular && hasTileExtension entry.name.toList

/--
The names of the tiles that a walk through a directory collects, unless it breaks off.

An entry whose status cannot be told sets the error of the walk, but then the walk advances, and a
successful advance clears it.
-/
def DirectoryListing.tiles (listing : DirectoryListing) : Option (List String) :=
  if listing.opens && listing.completes then
    some ((listing.entries.filter DirectoryEntry.isTile).map (·.name))
  else none

def LeadsTo (directory name path : String) : Prop :=
  isAbsolute path = false ∧ pathNames path = [directory.toList, name.toList] ∧
    hasTileExtension name.toList = true

/-! ### Paths -/

theorem pathNames_eq {path : String} (named : fileName path ≠ []) :
    pathNames path = parentNames path ++ [fileName path] := by
  unfold pathNames parentNames fileName at *
  -- There is always a last piece.
  have pieces : pathPieces path ≠ [] := List.splitOn_ne_nil _ _
  obtain ⟨front, last, split⟩ : ∃ front last, pathPieces path = front ++ [last] :=
    ⟨_, _, (List.dropLast_append_getLast pieces).symm⟩
  rw [split] at named ⊢
  simp only [List.getLastD_concat, List.dropLast_concat, List.filter_append] at named ⊢
  rw [List.filter_cons_of_pos (by simpa using named), List.filter_nil]

theorem ne_nil_of_hasTileExtension {name : List Char} (tile : hasTileExtension name = true) :
    name ≠ [] := by
  rintro rfl
  simp [hasTileExtension] at tile

theorem pathPieces_entry {directory name : String} (one : '/' ∉ directory.toList)
    (plain : '/' ∉ name.toList) :
    pathPieces (directory ++ "/" ++ name) = [directory.toList, name.toList] := by
  unfold pathPieces
  have text : (directory ++ "/" ++ name).toList = directory.toList ++ '/' :: name.toList := by
    simp
  rw [text, List.splitOn_append_cons_self_of_not_mem one, List.splitOn_eq_singleton plain]

theorem pathNames_entry {directory name : String} (one : '/' ∉ directory.toList)
    (present : directory ≠ "") (plain : '/' ∉ name.toList) (named : name.toList ≠ []) :
    pathNames (directory ++ "/" ++ name) = [directory.toList, name.toList] := by
  unfold pathNames
  rw [pathPieces_entry one plain]
  have written : directory.toList ≠ [] := by
    intro empty
    exact present (by simpa using empty)
  simp [written, named]

end NdtSlam
