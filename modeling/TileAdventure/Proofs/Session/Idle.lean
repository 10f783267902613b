import TileAdventure.Proofs.Grid.Globe
import TileAdventure.Proofs.Session.Place

/-!
# Idle evaluations

A move without a direction evaluates the avatar's own cell, where nothing is pushed and so
nothing redirects the avatar (`Setting.target_meetCell_self`). It stays where it is if its
room is one of the grid (`Session.move_none`), and rooms of the grid are the only ones for
which that holds (`Session.idle_of_occupied`): a world may have more rooms than its grid, and
an avatar sent to one of those leaves the world by standing still (`Session.idle_in_attic`).
-/

namespace TileAdventure

namespace Setting

variable (setting : Setting) {avatarCell : Int × Int} {scene : Scene}

/-- On the avatar's own cell no tile is pushed. -/
theorem target_meetTile_of_targetIs (h : scene.targetIs avatarCell = true)
    (room position : Nat) (tile : Tile) (met : Encounter) :
    (setting.meetTile avatarCell room position tile met scene).2.target = scene.target := by
  unfold meetTile
  split
  · rfl
  split
  · rfl
  rename_i sprite _
  split
  · rfl
  dsimp only
  rw [Scene.targetIs_ite_pickUp, if_pos h]
  exact scene.target_ite_pickUp ..

theorem target_meetTiles_of_targetIs (h : scene.targetIs avatarCell = true) (room : Nat)
    (positions : List Nat) (met : Encounter) :
    (setting.meetTiles avatarCell room positions met scene).2.target = scene.target := by
  induction positions generalizing met scene with
  | nil => rfl
  | cons position positions ih =>
    rw [meetTiles]
    split
    · exact ih h met
    · rename_i tile _
      have hmeet := setting.target_meetTile_of_targetIs h room position tile met
      split
      · rename_i heq
        rw [heq] at hmeet
        rw [← hmeet]
        refine ih ?_ _
        unfold Scene.targetIs at h ⊢
        rwa [hmeet]
      · rename_i heq
        rwa [heq] at hmeet

/-- What the avatar meets on its own cell does not redirect it. -/
theorem target_meetCell_self (scene : Scene) :
    (setting.meetCell (scene.target.x, scene.target.y) scene).2.target = scene.target := by
  unfold meetCell
  dsimp only
  split
  · rfl
  · exact setting.target_meetTiles_of_targetIs (by simp [Scene.targetIs]) _ _ _

end Setting

/-- A cell that is occupied is where the avatar is. -/
theorem Game.location_occupy {g g' : Game} {avatarName : String} {target : Location}
    {entered : Bool} (h : g.occupy avatarName target = .ok (entered, g')) :
    g'.state.location = target := by
  obtain ⟨-, -, middle, hm, rfl⟩ := occupy_eq_ok h
  rcases hm with ⟨hsame, rfl⟩ | hm
  · simp [PlayState.location, ← hsame]
  · obtain ⟨_, _, _, _, _, -, -, -, -, rfl⟩ := enterRoom_eq_ok hm
    rfl

namespace Session

variable {s : Session}

/-- An encounter on the avatar's own cell leaves the avatar there. -/
theorem target_encounter_self {palette : Palette} {result : Except Halt Encounter}
    {scene : Scene} (h : s.encounter palette s.game.state.location = (result, scene)) :
    scene.target = s.game.state.location := by
  have htarget := (s.game.setting palette s.config.depthLimit).target_meetCell_self
    (s.game.scene s.game.state.location)
  have hscene : (s.encounter palette s.game.state.location).2.target = s.game.state.location :=
    htarget
  rwa [h] at hscene

/-- A course without a direction that begins with a step on the spot ends there. -/
theorem Course.idle {r : Except Halt MoveResult × Session} (h : Course s none r)
    (hstep : s.game.state.location.step? s.game.world.dimensions none =
      some s.game.state.location) :
    r.1 ≠ .ok .leftWorld ∧ r.1 ≠ .ok (.moved true) ∧
      r.2.game.state.location = s.game.state.location := by
  cases h with
  | leftWorld hnone => simp [hstep] at hnone
  | unpainted | halted => exact ⟨by simp, by simp, rfl⟩
  | blocked | refused => exact ⟨by simp, by simp, by rw [sweepAfter_game]; rfl⟩
  | @moved _ _ _ _ entered _ htarget _ hmeet _ hocc =>
    obtain rfl := Option.some.inj (hstep.symm.trans htarget)
    rw [target_encounter_self hmeet, sweepAfter_game] at hocc
    have hentered : entered ≠ true := mt (Game.occupy_eq_ok hocc).2.1.mp (not_not.mpr rfl)
    exact ⟨by simp, by simpa using hentered, Game.location_occupy hocc⟩

/-- If a step without a direction stays on the avatar's cell, so does the avatar when the move
is evaluated, whether that succeeds or fails. -/
theorem move_none
    (hstep : s.game.state.location.step? s.game.world.dimensions none =
      some s.game.state.location) :
    (s.move none).1 ≠ .ok .leftWorld ∧ (s.move none).1 ≠ .ok (.moved true) ∧
      (s.move none).2.game.state.location = s.game.state.location := by
  have hcourse : Course s none (tryMove none s) := s.course_tryMove none
  have hidle := hcourse.idle hstep
  unfold move undoing
  split
  · exact ⟨by simp, by simp, rfl⟩
  · exact hidle

/-- An idle evaluation on a cell that could be occupied. A step without a direction stays
there exactly if the cell's room is one of the grid, and then a move without a direction never
leaves the world, enters no room, and leaves the avatar on its cell. -/
theorem idle_of_occupied {g g' : Game} {avatarName : String} {target : Location}
    {entered : Bool} (hproper : g.world.dimensions.improper? = none)
    (hroom : target.room < 2 ^ 31)
    (hocc : g.occupy avatarName target = .ok (entered, g')) :
    (target.step? g.world.dimensions none = some target ↔
        target.room < g.world.dimensions.roomCount) ∧
      (target.room < g.world.dimensions.roomCount →
        ∀ s : Session, s.game.world.dimensions = g.world.dimensions →
          s.game.state.location = target →
          (s.move none).1 ≠ .ok .leftWorld ∧ (s.move none).1 ≠ .ok (.moved true) ∧
            (s.move none).2.game.state.location = target) := by
  have hstays := step?_none_eq_some_iff (Dimensions.proper_iff.mpr hproper) hroom
    (Game.occupy_eq_ok hocc).1
  refine ⟨hstays, fun hgrid s hdimensions hlocation => ?_⟩
  have hstep : s.game.state.location.step? s.game.world.dimensions none =
      some s.game.state.location := by
    rw [hdimensions, hlocation]
    exact hstays.mpr hgrid
  rw [← hlocation]
  exact move_none hstep

/-- After a step into the second room at the crossing the walker stands still on its cell. -/
theorem idle_of_occupied_crossing :
    crossing.dimensions.improper? = none ∧
      (∃ entered g', atCrossing.game.occupy "walker" ⟨1, 0, 0⟩ = .ok (entered, g')) ∧
      Location.step? crossing.dimensions ⟨1, 0, 0⟩ none = some ⟨1, 0, 0⟩ ∧
      ∃ es s, Run atCrossing es s ∧ s.game.state.location = ⟨1, 0, 0⟩ ∧
        (s.move none).2.game.state.location = ⟨1, 0, 0⟩ := by
  have hproper : atCrossing.game.world.dimensions.improper? = none := by decide
  have hocc : atCrossing.game.occupy "walker" ⟨1, 0, 0⟩ = .ok _ := rfl
  obtain ⟨hstays, hidle⟩ := idle_of_occupied hproper (by decide) hocc
  have hrun : Run atCrossing _ _ := .call (.move (some .right)) .nil (by decide)
  exact ⟨hproper, ⟨_, _, hocc⟩, hstays.mpr (by decide), _, _, hrun, rfl,
    (hidle (by decide) (atCrossing.call (.move (some .right))).2 rfl rfl).2.2⟩

/-- A world of one room, which wraps downwards, with a ladder to a second room. -/
def attic : World :=
  .ofParts (.ofGrid 2 1 1 1 false true)
    [{ plainSprite "walker" with isAvatar := true },
      { plainSprite "ladder" with behaviors := [⟨"push", [.moveAvatar 1 0 0]⟩] }]
    [⟨"day", []⟩]
    [⟨"day", [⟨⟨0⟩, "walker", 0, 0, false⟩, ⟨⟨1⟩, "ladder", 1, 0, false⟩]⟩, ⟨"day", []⟩]

/-- The start of a session below the attic. -/
def belowAttic : Session where
  config := .default
  avatarName := "walker"
  game :=
    let walker : Sprite := { plainSprite "walker" with isAvatar := true }
    let ladder : Sprite :=
      { plainSprite "ladder" with behaviors := [⟨"push", [.moveAvatar 1 0 0]⟩] }
    let stage := (Stage.ofPageChars 40).tell
      (Game.entryNotices [walker, ladder] walker ⟨"day", []⟩)
    ⟨attic, .ofLocation ⟨0, 0, 0⟩, stage, .ofSeed 0⟩
  controls := .ofThreshold Config.default.swipeThreshold
  clock := .start Config.default.frameInterval Config.default.inputInterval 12

/-- The ladder leads the walker to a cell of the second room, which it may occupy. That room
is none of the grid, and an idle evaluation there takes the walker back to the first one. -/
theorem idle_in_attic :
    start attic .default (.ofPageChars 40) = .ok belowAttic ∧
      attic.dimensions.improper? = none ∧
      ∃ es s, Run belowAttic es s ∧ (belowAttic.move (some .right)).1 = .ok (.moved true) ∧
        s.game.state.location = ⟨1, 0, 0⟩ ∧
        Location.InWorld ⟨1, 0, 0⟩ s.game.world.dimensions s.game.world.rooms.length ∧
        Location.step? s.game.world.dimensions ⟨1, 0, 0⟩ none = some ⟨0, 0, 0⟩ ∧
        (s.move none).1 = .ok (.moved true) ∧
        (s.move none).2.game.state.location = ⟨0, 0, 0⟩ := by
  have hrun : Run belowAttic _ _ := .call (.move (some .right)) .nil (by decide)
  exact ⟨rfl, by decide, _, _, hrun, rfl, rfl, ⟨by decide, by decide⟩, by decide, rfl, rfl⟩

end Session

end TileAdventure
