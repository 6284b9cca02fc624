import NdtSlam.Foundation.KeyedFold
import NdtSlam.Foundation.Outcome
import NdtSlam.Foundation.Vector

/-! The tiles of the persistent map that wait in memory, and how points get into them. -/

namespace NdtSlam

inductive TileLayer where
  | registration
  | display
  | ground
  | objects
  deriving DecidableEq

abbrev TileLayers := TileLayer → Option (List Vec3)

abbrev TileMap := Std.ExtTreeMap String TileLayers compare

structure TileStoreConfig where
  persistentMapEnabled : Bool := true
  tileSizeM : Scalar
  maxMapSize : Scalar

namespace TileStoreConfig

variable (config : TileStoreConfig)

def accepts : Bool :=
  config.persistentMapEnabled && config.tileSizeM.isFinite && 0 < config.tileSizeM

def tileIndex (coordinate : Scalar) : Int :=
  ⌊(coordinate / config.tileSizeM).value⌋

def tileKeyFor (point : Vec3) : String :=
  "x" ++ toString (config.tileIndex point.x) ++ "_y" ++ toString (config.tileIndex point.y)

def fitsInt (index : Int) : Bool := -2147483648 ≤ index && index ≤ 2147483647

def pointAllowed (point : Vec3) : Bool :=
  point.allFinite && !(config.maxMapSize < point.x.abs) && !(config.maxMapSize < point.y.abs) &&
    !(config.maxMapSize < point.z.abs) && fitsInt (config.tileIndex point.x) &&
    fitsInt (config.tileIndex point.y)

end TileStoreConfig

namespace TileLayers

def noClouds : TileLayers := fun _ => none

def emptyClouds : TileLayers := fun _ => some []

def pushBack (tile : TileLayers) (layer : TileLayer) (point : Vec3) : Option TileLayers :=
  (tile layer).map fun cloud => Function.update tile layer (some (cloud ++ [point]))

def mergeCloud (destination source : Option (List Vec3)) : Option (List Vec3) :=
  match source with
  | none | some [] => destination
  | some points => some (destination.getD [] ++ points)

def mergeTile (target failed : TileLayers) : TileLayers :=
  fun layer => mergeCloud (target layer) (failed layer)

end TileLayers

namespace TileMap

def points (tiles : TileMap) (layer : TileLayer) (key : String) : List Vec3 :=
  (tiles[key]?.bind (· layer)).getD []

def ensureTile (tiles : TileMap) (key : String) : TileLayers :=
  match tiles[key]? with
  | some tile => if (tile .registration).isSome then tile else .emptyClouds
  | none => .emptyClouds

def addPoint (config : TileStoreConfig) (goesTo : List TileLayer) (tiles : TileMap)
    (point : Vec3) : Option TileMap :=
  if config.pointAllowed point then
    let key := config.tileKeyFor point
    let tile := goesTo.foldlM (fun tile layer => TileLayers.pushBack tile layer point)
      (tiles.ensureTile key)
    tile.map fun tile => tiles.insert key tile
  else some tiles

def append (config : TileStoreConfig) (tiles : TileMap) (registration ground objects : List Vec3) :
    Option TileMap := do
  let tiles ← registration.foldlM (addPoint config [.registration, .display]) tiles
  let tiles ← ground.foldlM (addPoint config [.ground, .display]) tiles
  objects.foldlM (addPoint config [.objects]) tiles

def mergeFailed (tiles failed : TileMap) : TileMap :=
  failed.toList.foldl (fun tiles item =>
    tiles.insert item.1 (.mergeTile (tiles[item.1]?.getD .noClouds) item.2)) tiles

def assign (tiles batch : TileMap) : TileMap :=
  batch.toList.foldl (fun tiles item => tiles.insert item.1 item.2) tiles

end TileMap

def TileStoreConfig.acceptedPoints (config : TileStoreConfig)
    (registration ground objects : List Vec3) (layer : TileLayer) (key : String) : List Vec3 :=
  let cloud := match layer with
    | .registration => registration
    | .display => registration ++ ground
    | .ground => ground
    | .objects => objects
  cloud.filter fun point => config.pointAllowed point && config.tileKeyFor point == key

namespace TileMap

variable {config : TileStoreConfig} {tiles tiles' : TileMap} {layer : TileLayer} {key : String}

theorem points_insert_own (tile : TileLayers) :
    points (tiles.insert key tile) layer key = (tile layer).getD [] := by
  unfold points
  rw [getElem?_insert_own]
  rfl

theorem points_insert_other {written : String} (other : written ≠ key) (tile : TileLayers) :
    points (tiles.insert written tile) layer key = tiles.points layer key := by
  unfold points
  rw [getElem?_insert_other _ other]

@[simp] theorem points_empty : points (∅ : TileMap) layer key = [] := by
  simp [points]

theorem mergeCloud_getD (destination source : Option (List Vec3)) :
    (TileLayers.mergeCloud destination source).getD []
      = destination.getD [] ++ source.getD [] := by
  -- A source without points leaves the destination as it is.
  match source with
  | none => simp [TileLayers.mergeCloud]
  | some [] => simp [TileLayers.mergeCloud]
  | some (_ :: _) => rfl

theorem points_mergeFailed (tiles failed : TileMap) :
    (tiles.mergeFailed failed).points layer key
      = tiles.points layer key ++ failed.points layer key := by
  -- Each entry of the batch acts on its own tile.
  have folded := foldl_entries_view (points · layer key)
    (fun tiles item => tiles.insert item.1 (.mergeTile (tiles[item.1]?.getD .noClouds) item.2))
    (fun value held => held ++ (value layer).getD [])
    (fun tiles item other => points_insert_other other _)
    (fun tiles value => by
      rw [points_insert_own, TileLayers.mergeTile, mergeCloud_getD]
      congr 1
      cases found : tiles[key]? <;> simp [points, found, TileLayers.noClouds]) failed tiles
  unfold mergeFailed
  rw [folded]
  cases found : failed[key]? <;> simp [points, found]

theorem points_assign (tiles batch : TileMap) :
    (tiles.assign batch).points layer key
      = if key ∈ batch then batch.points layer key else tiles.points layer key := by
  have folded := foldl_entries_view (points · layer key)
    (fun tiles item => tiles.insert item.1 item.2)
    (fun value _ => (value layer).getD [])
    (fun tiles item other => points_insert_other other _)
    (fun tiles value => points_insert_own value) batch tiles
  unfold assign
  rw [folded]
  -- A tile of the batch is found in it.
  cases found : batch[key]? with
  | none =>
    have absent : key ∉ batch := by
      rw [Std.ExtTreeMap.mem_iff_isSome_getElem?, found]
      simp
    rw [if_neg absent]
  | some value =>
    have present : key ∈ batch := by
      rw [Std.ExtTreeMap.mem_iff_isSome_getElem?, found]
      rfl
    rw [if_pos present]
    simp [points, found]

theorem points_of_not_mem {batch : TileMap} (absent : key ∉ batch) :
    batch.points layer key = [] := by
  unfold points
  rw [Std.ExtTreeMap.getElem?_eq_none absent]
  rfl

/-! ### Appending points -/

def Ready (config : TileStoreConfig) (goesTo : List TileLayer) (tiles : TileMap)
    (point : Vec3) : Prop :=
  ∀ tile, tiles[config.tileKeyFor point]? = some tile →
    (tile .registration).isSome = true ∧ ∀ layer ∈ goesTo, (tile layer).isSome = true

variable {goesTo : List TileLayer}

theorem Ready.ensureTile {point : Vec3} (ready : Ready config goesTo tiles point) :
    (∀ layer, (tiles.ensureTile (config.tileKeyFor point) layer).getD []
      = tiles.points layer (config.tileKeyFor point)) ∧
      ∀ layer ∈ goesTo, (tiles.ensureTile (config.tileKeyFor point) layer).isSome = true := by
  unfold TileMap.ensureTile points
  cases found : tiles[config.tileKeyFor point]? with
  | none => exact ⟨fun layer => rfl, fun layer wanted => rfl⟩
  | some tile =>
    obtain ⟨first, wanted⟩ := ready tile found
    simp only [if_pos first]
    exact ⟨fun layer => rfl, wanted⟩

theorem pushAll_ok (point : Vec3) (distinct : goesTo.Nodup) {tile : TileLayers}
    (wanted : ∀ layer ∈ goesTo, (tile layer).isSome = true) :
    ∃ pushed, goesTo.foldlM (fun tile layer => TileLayers.pushBack tile layer point) tile
        = some pushed ∧
      ∀ layer, pushed layer
        = if layer ∈ goesTo then (tile layer).map (· ++ [point]) else tile layer := by
  -- The first cloud gets the point, and the others are still there.
  induction goesTo generalizing tile with
  | nil => exact ⟨tile, rfl, fun layer => rfl⟩
  | cons head rest ih =>
    obtain ⟨fresh, restDistinct⟩ := List.nodup_cons.mp distinct
    obtain ⟨cloud, held⟩ := Option.isSome_iff_exists.mp (wanted head List.mem_cons_self)
    have others : ∀ layer ∈ rest,
        (Function.update tile head (some (cloud ++ [point])) layer).isSome = true := by
      intro layer member
      have apart : layer ≠ head := fun same => fresh (same ▸ member)
      rw [Function.update_of_ne apart]
      exact wanted layer (List.mem_cons_of_mem _ member)
    obtain ⟨pushed, folded, layers⟩ := ih restDistinct others
    refine ⟨pushed, ?_, ?_⟩
    · rw [List.foldlM_cons, TileLayers.pushBack, held]
      exact folded
    · intro layer
      rw [layers layer]
      by_cases same : layer = head
      · subst same
        rw [if_neg fresh, if_pos List.mem_cons_self, Function.update_self, held]
        rfl
      · rw [Function.update_of_ne same]
        simp [same]

structure Gains (tiles tiles' : TileMap) (gain : TileLayer → String → List Vec3) : Prop where
  points : ∀ layer key, tiles'.points layer key = tiles.points layer key ++ gain layer key
  ready : ∀ config goesTo point, Ready config goesTo tiles point → Ready config goesTo tiles' point

theorem Gains.trans {tiles'' : TileMap} {gain gain' : TileLayer → String → List Vec3}
    (first : Gains tiles tiles' gain) (second : Gains tiles' tiles'' gain') :
    Gains tiles tiles'' fun layer key => gain layer key ++ gain' layer key := by
  refine ⟨?_, fun config goesTo point ready =>
    second.ready config goesTo point (first.ready config goesTo point ready)⟩
  intro layer key
  rw [second.points, first.points, List.append_assoc]

theorem addPoint_ok (distinct : goesTo.Nodup) {point : Vec3}
    (ready : config.pointAllowed point = true → Ready config goesTo tiles point) :
    ∃ tiles', addPoint config goesTo tiles point = some tiles' ∧
      Gains tiles tiles' fun layer key =>
        if layer ∈ goesTo then
          [point].filter fun point => config.pointAllowed point && config.tileKeyFor point == key
        else [] := by
  unfold addPoint
  by_cases allowed : config.pointAllowed point = true
  · obtain ⟨same, wanted⟩ := (ready allowed).ensureTile
    obtain ⟨tile, pushed, layers⟩ := pushAll_ok point distinct wanted
    rw [if_pos allowed]
    refine ⟨tiles.insert (config.tileKeyFor point) tile, ?_, ?_, ?_⟩
    · simp only [pushed, Option.map_some]
    · intro layer key
      by_cases own : config.tileKeyFor point = key
      · -- The layers of the point's own tile are those that have been pushed to.
        subst own
        rw [points_insert_own, layers, ← same layer]
        split_ifs with member
        · obtain ⟨cloud, held⟩ := Option.isSome_iff_exists.mp (wanted layer member)
          simp [held, allowed]
        · simp
      · rw [points_insert_other own]
        simp [own]
    · intro config' goesTo' other before tile' found
      by_cases own : config.tileKeyFor point = config'.tileKeyFor other
      · rw [own, getElem?_insert_own] at found
        obtain rfl := Option.some.inj found
        -- A cloud that was there before is still there.
        have kept : ∀ layer, (tiles.ensureTile (config'.tileKeyFor other) layer).isSome = true →
            (tile layer).isSome = true := by
          intro layer there
          rw [layers layer, own]
          split_ifs
          · simpa using there
          · exact there
        have existing : ∀ layer ∈ TileLayer.registration :: goesTo',
            (tiles.ensureTile (config'.tileKeyFor other) layer).isSome = true := by
          intro layer member
          unfold TileMap.ensureTile
          cases present : tiles[config'.tileKeyFor other]? with
          | none => rfl
          | some old =>
            obtain ⟨first, rest⟩ := before old present
            simp only [if_pos first]
            rcases List.mem_cons.mp member with rfl | later
            · exact first
            · exact rest layer later
        exact ⟨kept _ (existing _ List.mem_cons_self),
          fun layer member => kept _ (existing _ (List.mem_cons_of_mem _ member))⟩
      · rw [getElem?_insert_other _ own] at found
        exact before tile' found
  · rw [if_neg allowed]
    refine ⟨tiles, rfl, fun layer key => ?_, fun config' goesTo' other before => before⟩
    simp [allowed]

theorem addPoints_ok (distinct : goesTo.Nodup) {cloud : List Vec3}
    (ready : ∀ point ∈ cloud, config.pointAllowed point = true →
      Ready config goesTo tiles point) :
    ∃ tiles', cloud.foldlM (addPoint config goesTo) tiles = some tiles' ∧
      Gains tiles tiles' fun layer key =>
        if layer ∈ goesTo then
          cloud.filter fun point => config.pointAllowed point && config.tileKeyFor point == key
        else [] := by
  induction cloud generalizing tiles with
  | nil => exact ⟨tiles, rfl, fun layer key => by simp, fun _ _ _ before => before⟩
  | cons head rest ih =>
    obtain ⟨next, added, first⟩ := addPoint_ok distinct (ready head List.mem_cons_self)
    have later : ∀ point ∈ rest, config.pointAllowed point = true →
        Ready config goesTo next point := fun point member allowed =>
      first.ready _ _ _ (ready point (List.mem_cons_of_mem _ member) allowed)
    obtain ⟨last, folded, others⟩ := ih later
    refine ⟨last, ?_, ?_⟩
    · rw [List.foldlM_cons, added]
      exact folded
    · have both := first.trans others
      refine ⟨fun layer key => ?_, both.ready⟩
      rw [both.points]
      congr 1
      split_ifs
      · rw [← List.filter_append, List.singleton_append]
      · rfl

structure ReadyFor (config : TileStoreConfig) (tiles : TileMap)
    (registration ground objects : List Vec3) : Prop where
  registration : ∀ point ∈ registration, config.pointAllowed point = true →
    Ready config [.registration, .display] tiles point
  ground : ∀ point ∈ ground, config.pointAllowed point = true →
    Ready config [.ground, .display] tiles point
  objects : ∀ point ∈ objects, config.pointAllowed point = true →
    Ready config [.objects] tiles point

theorem append_ok {registration ground objects : List Vec3}
    (ready : ReadyFor config tiles registration ground objects) :
    ∃ tiles', tiles.append config registration ground objects = some tiles' ∧
      ∀ layer key, tiles'.points layer key = tiles.points layer key ++
        config.acceptedPoints registration ground objects layer key := by
  -- The three clouds are added one after the other.
  obtain ⟨first, folded, gains⟩ := addPoints_ok (by decide) ready.registration
  have readyGround : ∀ point ∈ ground, config.pointAllowed point = true →
      Ready config [.ground, .display] first point := fun point member allowed =>
    gains.ready _ _ _ (ready.ground point member allowed)
  obtain ⟨second, folded', gains'⟩ := addPoints_ok (by decide) readyGround
  have readyObjects : ∀ point ∈ objects, config.pointAllowed point = true →
      Ready config [.objects] second point := fun point member allowed =>
    gains'.ready _ _ _ (gains.ready _ _ _ (ready.objects point member allowed))
  obtain ⟨third, folded'', gains''⟩ := addPoints_ok (by decide) readyObjects
  refine ⟨third, ?_, ?_⟩
  · unfold append
    simp only [folded, folded', folded'', Option.bind_eq_bind, Option.bind_some]
  · intro layer key
    rw [((gains.trans gains').trans gains'').points, List.append_assoc]
    cases layer <;> simp [TileStoreConfig.acceptedPoints]

end TileMap

end NdtSlam
