import TileAdventure.Proofs.Acting.Change

/-!
# Dispatches

Beside each way to act stands what comes up in it to be performed: a list of dispatches in
order (`Setting.dispatches`, `Setting.dispatchesAtCell`). A dispatch under a dialog is held
back. The dispatch of an action itself comes first, and all others in it are deeper
(`Setting.dispatches_succ`).
-/

namespace TileAdventure

/-- An action that comes up to be performed. -/
structure Dispatch where
  /-- In how many actions it is nested. -/
  depth : Nat
  /-- The action with its tile, its path, and where the avatar is about to go. -/
  action : Deferred
  /-- Whether it is held back. -/
  held : Bool

/-- The actions that are held back among dispatches. -/
def heldBack (dispatches : List Dispatch) : List Deferred :=
  (dispatches.filter (·.held)).map (·.action)

@[simp] theorem heldBack_nil : heldBack [] = [] := rfl

@[simp] theorem heldBack_append (dispatches more : List Dispatch) :
    heldBack (dispatches ++ more) = heldBack dispatches ++ heldBack more := by
  simp [heldBack]

/-- From scene `s` to scene `t` the queue has grown by what is held back among dispatches. -/
def Scene.Queues (s t : Scene) (dispatches : List Dispatch) : Prop :=
  t.gate.queue = s.gate.queue ++ heldBack dispatches

theorem Scene.Queues.of_eq {s t : Scene} (h : t.gate.queue = s.gate.queue) :
    s.Queues t [] := by
  simp [Queues, h]

theorem Scene.Queues.trans {s t u : Scene} {dispatches more : List Dispatch}
    (h : s.Queues t dispatches) (h' : t.Queues u more) : s.Queues u (dispatches ++ more) := by
  unfold Queues at h h' ⊢
  rw [h', h, heldBack_append, List.append_assoc]

/-- What comes up in performing an action of a tile. -/
abbrev Observer := Action → TileAddress → ActionPath → Scene → List Dispatch

/-- What comes up in taking `step` on each of the given things in order, until one halts. -/
def dispatchesInTurn {α β : Type} (step : α → Scene → Attempt β)
    (observe : α → Scene → List Dispatch) : List α → Scene → List Dispatch
  | [], _ => []
  | a :: as, scene =>
    observe a scene ++
      match step a scene with
      | (.ok _, scene) => dispatchesInTurn step observe as scene
      | (.error _, _) => []

namespace Setting

/-- What comes up in the answer of a tile. -/
def dispatchesInAnswer (setting : Setting) (performer : Performer) (observer : Observer)
    (event : String) (target : TileAddress) (scene : Scene) : List Dispatch :=
  match scene.rooms.tile? target with
  | none => []
  | some tile =>
    match setting.sprites.find? tile.sprite with
    | none => []
    | some sprite =>
      match sprite.behavior? event with
      | none => []
      | some behavior =>
        dispatchesInTurn (fun (action, index) => performer action target (.root event index))
          (fun (action, index) => observer action target (.root event index))
          (behavior.answers event) scene

/-- What comes up within an action that is performed. -/
def dispatchesWithin (setting : Setting) (performer : Performer) (observer : Observer) :
    Observer
  | .triggerEvent event, _, _, scene =>
    dispatchesInTurn (setting.answer performer event)
      (setting.dispatchesInAnswer performer observer event) scene.rooms.addresses scene
  | .conditional comparison item quantity actions, tile, path, scene =>
    match setting.sprites.find? item with
    | none => []
    | some _ =>
      if comparison.holds (scene.inventory.count item) quantity then
        dispatchesInTurn (fun (action, index) => performer action tile (path.child index))
          (fun (action, index) => observer action tile (path.child index)) actions.zipIdx scene
      else []
  | .sequence looping shuffled actions, tile, path, scene =>
    match scene.currentIndex ⟨tile.tile, path⟩ ⟨actions.length, looping, shuffled⟩ with
    | (.error _, _) => []
    | (.ok index, scene) =>
      match actions[index]? with
      | none => []
      | some action => observer action tile (path.child index) scene
  | .dialog _, _, _, _ | .giveItem .., _, _, _ | .transformSelf _, _, _, _
  | .moveAvatar .., _, _, _ | .removeSelf, _, _, _ => []

/-- What comes up in performing an action that is nested in `depth` others, with at most
`levels` levels of actions: the action itself, then what is nested in it. -/
def dispatches (setting : Setting) (depth : Nat) : Nat → Observer
  | 0, _, _, _, _ => []
  | levels + 1, action, tile, path, scene =>
    ⟨depth, ⟨action, tile, scene.target, path⟩, scene.gate.showing⟩ ::
      if scene.gate.showing then []
      else
        setting.dispatchesWithin (setting.perform levels)
          (setting.dispatches (depth + 1) levels) action tile path scene

/-- What comes up in a push. -/
def dispatchesInPush (setting : Setting) (behavior : Behavior) (tile : TileAddress) :
    Scene → List Dispatch :=
  dispatchesInTurn
    (fun (action, index) => setting.run action tile (.root Behavior.pushEvent index))
    (fun (action, index) =>
      setting.dispatches 0 (setting.depthLimit + 1) action tile (.root Behavior.pushEvent index))
    behavior.actions.zipIdx

/-- What comes up in meeting the tile at a position of the room. -/
def dispatchesAtTile (setting : Setting) (avatarCell : Int × Int) (room position : Nat)
    (tile : Tile) (scene : Scene) : List Dispatch :=
  if !scene.isOnTarget tile then []
  else
    match setting.sprites.find? tile.sprite with
    | none => []
    | some sprite =>
      if sprite.isAvatar then []
      else
        let address : TileAddress := ⟨room, tile.id⟩
        let scene := if sprite.isItem then scene.pickUp sprite room position else scene
        if scene.targetIs avatarCell then []
        else
          match sprite.behavior? Behavior.pushEvent with
          | none => []
          | some behavior => setting.dispatchesInPush behavior address scene

/-- What comes up in meeting the tiles at the given positions of the room. -/
def dispatchesAtTiles (setting : Setting) (avatarCell : Int × Int) (room : Nat) :
    List Nat → Encounter → Scene → List Dispatch
  | [], _, _ => []
  | position :: positions, met, scene =>
    match scene.tileAt? room position with
    | none => dispatchesAtTiles setting avatarCell room positions met scene
    | some tile =>
      setting.dispatchesAtTile avatarCell room position tile scene ++
        match setting.meetTile avatarCell room position tile met scene with
        | (.ok met, scene) => dispatchesAtTiles setting avatarCell room positions met scene
        | (.error _, _) => []

/-- What comes up in meeting all tiles on the target's cell. -/
def dispatchesAtCell (setting : Setting) (avatarCell : Int × Int) (scene : Scene) :
    List Dispatch :=
  match scene.rooms[scene.target.room]? with
  | none => []
  | some r =>
    setting.dispatchesAtTiles avatarCell scene.target.room (List.range r.tiles.length)
      .nothing scene

/-! ## How deep dispatches are -/

variable {setting : Setting}

theorem mem_dispatchesInTurn {α β : Type} {step : α → Scene → Attempt β}
    {observe : α → Scene → List Dispatch} {as : List α} {scene : Scene} {x : Dispatch}
    (h : x ∈ dispatchesInTurn step observe as scene) : ∃ a scene, x ∈ observe a scene := by
  induction as generalizing scene with
  | nil => cases h
  | cons a as ih =>
    rw [dispatchesInTurn] at h
    rcases List.mem_append.mp h with h | h
    · exact ⟨a, scene, h⟩
    · split at h
      · exact ih h
      · cases h

theorem mem_dispatchesWithin {performer : Performer} {observer : Observer} {action : Action}
    {tile : TileAddress} {path : ActionPath} {scene : Scene} {x : Dispatch}
    (h : x ∈ setting.dispatchesWithin performer observer action tile path scene) :
    ∃ action tile path scene, x ∈ observer action tile path scene := by
  cases action with
  | dialog | removeSelf | moveAvatar | giveItem | transformSelf => cases h
  | triggerEvent event =>
    obtain ⟨target, scene, h⟩ := mem_dispatchesInTurn h
    unfold dispatchesInAnswer at h
    split at h
    · cases h
    split at h
    · cases h
    split at h
    · cases h
    obtain ⟨a, scene, h⟩ := mem_dispatchesInTurn h
    exact ⟨_, _, _, _, h⟩
  | conditional =>
    rw [dispatchesWithin] at h
    split at h
    · cases h
    split at h
    · obtain ⟨a, scene, h⟩ := mem_dispatchesInTurn h
      exact ⟨_, _, _, _, h⟩
    · cases h
  | sequence =>
    rw [dispatchesWithin] at h
    split at h
    · cases h
    split at h
    · cases h
    · exact ⟨_, _, _, _, h⟩

theorem depth_le_of_mem_dispatches {depth levels : Nat} {action : Action} {tile : TileAddress}
    {path : ActionPath} {scene : Scene} {x : Dispatch}
    (h : x ∈ setting.dispatches depth levels action tile path scene) : depth ≤ x.depth := by
  induction levels generalizing depth action tile path scene with
  | zero => cases h
  | succ levels ih =>
    unfold dispatches at h
    rcases List.mem_cons.mp h with rfl | h
    · exact Nat.le_refl _
    · split at h
      · cases h
      · obtain ⟨_, _, _, _, h⟩ := mem_dispatchesWithin h
        exact Nat.le_of_succ_le (ih h)

/-- The first dispatch is that of the action, and those within it are deeper. -/
theorem dispatches_succ (depth levels : Nat) (action : Action) (tile : TileAddress)
    (path : ActionPath) (scene : Scene) :
    ∃ nested, setting.dispatches depth (levels + 1) action tile path scene =
        ⟨depth, ⟨action, tile, scene.target, path⟩, scene.gate.showing⟩ :: nested ∧
      ∀ x ∈ nested, depth < x.depth := by
  refine ⟨_, rfl, fun x hx => ?_⟩
  split at hx
  · cases hx
  · obtain ⟨_, _, _, _, hx⟩ := mem_dispatchesWithin hx
    exact depth_le_of_mem_dispatches hx

end Setting

end TileAdventure
