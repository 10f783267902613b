import TileAdventure.Acting.Scene

/-!
# Performing actions

`Setting.perform` performs one action of a tile. While a dialog shows no action runs: it is
deferred, with the tile, the target and the path it came with. Actions within actions and
answers to broadcasts are performed one level deeper, and no level is deeper than the
setting's limit.
-/

namespace TileAdventure

/-- What became of an action. -/
inductive Outcome where
  | executed
  | deferred
  deriving DecidableEq, Repr

/-- A way to perform an action of a tile. -/
abbrev Performer := Action → TileAddress → ActionPath → Scene → Attempt Outcome

/-- The actions that answer `event`, each with its index. A broadcast of the same event is
left out. -/
def Behavior.answers (b : Behavior) (event : String) : List (Action × Nat) :=
  b.actions.zipIdx.filter fun (action, _) => !action.triggers event

/-- An attempt at the parts of an action as an attempt at the action. -/
def executed {α : Type} (attempt : Attempt α) : Attempt Outcome :=
  (attempt.1.map fun _ => .executed, attempt.2)

namespace Setting

/-- Let one tile answer an event. A tile that has gone does not answer. -/
def answer (setting : Setting) (performer : Performer) (event : String) (target : TileAddress)
    (scene : Scene) : Attempt Unit :=
  match scene.rooms.tile? target with
  | none => (.ok (), scene)
  | some tile =>
    match setting.sprites.find? tile.sprite with
    | none => (.error (.failed (.unknownSprite tile.sprite)), scene)
    | some sprite =>
      match sprite.behavior? event with
      | none => (.ok (), scene)
      | some behavior =>
        inTurn (fun (action, index) => performer action target (.root event index))
          (behavior.answers event) scene

/-- Let every tile of the world answer an event, in order. -/
def broadcast (setting : Setting) (performer : Performer) (event : String) (scene : Scene) :
    Attempt Unit :=
  inTurn (setting.answer performer event) scene.rooms.addresses scene

/-- Perform an action, unless a dialog shows, with at most `levels` levels of actions, itself
included. -/
def perform (setting : Setting) : Nat → Performer
  | 0, _, _, path, scene =>
    (.error (.failed (.tooDeep setting.depthLimit path.text)), scene)
  | levels + 1, action, tile, path, scene =>
    if scene.gate.showing then (.ok .deferred, scene.defer action tile path)
    else
      match action with
      | .dialog text => (.ok .executed, scene.beginDialog setting text)
      | .giveItem item quantity giving =>
        match setting.sprites.find? item with
        | none => (.error (.failed (.unknownSprite item)), scene)
        | some _ =>
          (.ok .executed, scene.addItem item (Inventory.transfer quantity giving))
      | .transformSelf name =>
        match setting.sprites.find? name with
        | none => (.error (.failed (.unknownSprite name)), scene)
        | some sprite => (.ok .executed, scene.transform setting tile sprite)
      | .moveAvatar room x y => (.ok .executed, { scene with target := ⟨room, x, y⟩ })
      | .removeSelf => (.ok .executed, scene.markRemoved tile)
      | .triggerEvent event =>
        executed (setting.broadcast (setting.perform levels) event scene)
      | .conditional comparison item quantity actions =>
        match setting.sprites.find? item with
        | none => (.error (.failed (.unknownSprite item)), scene)
        | some _ =>
          if comparison.holds (scene.inventory.count item) quantity then
            executed (inTurn
              (fun (action, index) => setting.perform levels action tile (path.child index))
              actions.zipIdx scene)
          else (.ok .executed, scene)
      | .sequence looping shuffled actions =>
        let key : SequenceKey := ⟨tile.tile, path⟩
        let form : SequenceForm := ⟨actions.length, looping, shuffled⟩
        match scene.currentIndex key form with
        | (.error halt, scene) => (.error halt, scene)
        | (.ok index, scene) =>
          match actions[index]? with
          | none => (.error .lostPlace, scene)
          | some action =>
            match setting.perform levels action tile (path.child index) scene with
            | (.error halt, scene) => (.error halt, scene)
            | (.ok _, scene) => (.ok .executed, scene.advance key form)

/-- Perform an action within the setting's limit. -/
def run (setting : Setting) : Performer :=
  setting.perform (setting.depthLimit + 1)

/-- Perform an action that was held back, with the target it was held back with. -/
def resume (setting : Setting) (d : Deferred) (scene : Scene) : Attempt Outcome :=
  setting.run d.action d.tile d.path { scene with target := d.target }

end Setting

end TileAdventure
