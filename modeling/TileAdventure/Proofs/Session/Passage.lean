import TileAdventure.Proofs.Acting.Standing
import TileAdventure.Proofs.Session.Fit
import TileAdventure.Proofs.Session.Idle
import TileAdventure.Proofs.Session.Tiles

/-!
# What decides a move

Where no action redirects the avatar or gives a tile another sprite, a move that succeeds is
decided by what stands on the cell to which it leads, before any push (`Session.passage`). It
ends at a wall if one stands there, and else with the avatar on the cell
(`Session.passage_of_run`). On its way every tile on the cell is pushed that answers to it,
unless the avatar stands in the same place of its room (`Session.pushes_of_run`). A step
always changes that place if rooms have two cells on its axis. In rooms of one cell a step
into the next room ends in the same place, and there nothing is pushed
(`Session.unpushed_in_corridor`).
-/

namespace TileAdventure

/-! ## Steps within rooms -/

/-- How many cells a room has on the axis of a direction. -/
def Dimensions.along (d : Dimensions) : Direction → Int
  | .left | .right => d.roomWidth
  | .up | .down => d.roomHeight

theorem crossEdge_add_ne {x δ extent : Int} (h : 2 ≤ extent) (hδ : δ = 1 ∨ δ = -1) :
    (crossEdge (x + δ) extent).1 ≠ x := by
  unfold crossEdge
  dsimp only
  split <;> dsimp only <;> split <;> omega

/-- Column and row after a step are found on each axis of the room. -/
theorem cell_of_step? {d : Dimensions} {start target : Location}
    {direction : Option Direction} (h : start.step? d direction = some target) :
    target.x = (crossEdge (start.x + (Direction.shift direction).1) d.roomWidth).1 ∧
      target.y = (crossEdge (start.y + (Direction.shift direction).2) d.roomHeight).1 := by
  unfold Location.step? at h
  dsimp only at h
  split at h
  · obtain rfl := Option.some.inj h
    exact ⟨rfl, rfl⟩
  · cases h

/-- A step in a direction leads to another place of a room that has two cells on its axis. -/
theorem cell_ne_of_step? {d : Dimensions} {start target : Location} {direction : Direction}
    (hstep : start.step? d (some direction) = some target) (h : 2 ≤ d.along direction) :
    (target.x, target.y) ≠ (start.x, start.y) := by
  obtain ⟨hx, hy⟩ := cell_of_step? hstep
  intro hsame
  obtain ⟨hx', hy'⟩ := Prod.mk.inj hsame
  rw [hx] at hx'
  rw [hy] at hy'
  cases direction with
  | up => exact crossEdge_add_ne h (Or.inr rfl) hy'
  | down => exact crossEdge_add_ne h (Or.inl rfl) hy'
  | left => exact crossEdge_add_ne h (Or.inr rfl) hx'
  | right => exact crossEdge_add_ne h (Or.inl rfl) hx'

/-! ## What stands on a cell -/

/-- A wall stands on a cell: a tile whose sprite is a wall, and not of an avatar. -/
def Rooms.Walled (rooms : Rooms) (sprites : Catalogue) (l : Location) : Prop :=
  ∃ tile ∈ rooms.tilesOn l, ∃ sprite, sprites.find? tile.sprite = some sprite ∧
    sprite.isWall = true ∧ sprite.isAvatar = false

/-- How many tiles on a cell answer to a push. -/
def Rooms.pushable (rooms : Rooms) (sprites : Catalogue) (l : Location) : Nat :=
  (rooms.tilesOn l).countP fun tile =>
    (sprites.role? tile).any fun sprite => (sprite.behavior? Behavior.pushEvent).isSome

section Cell

variable {rooms : Rooms} {sprites : Catalogue} {l : Location} {pushing : Bool}

theorem passable_ofRoles_rolesOn :
    (Encounter.ofRoles pushing (sprites.rolesOn rooms l)).passable = false ↔
      rooms.Walled sprites l := by
  simp only [Encounter.ofRoles, List.all_eq_false, Bool.not_eq_true, Bool.not_eq_false',
    Catalogue.rolesOn, List.mem_filterMap, Catalogue.role?_eq_some, Rooms.Walled]
  grind

theorem pushed_ofRoles_rolesOn :
    (Encounter.ofRoles pushing (sprites.rolesOn rooms l)).pushed =
      if pushing then rooms.pushable sprites l else 0 := by
  have hcount : (sprites.rolesOn rooms l).countP
      (fun s => (s.behavior? Behavior.pushEvent).isSome) = rooms.pushable sprites l := by
    rw [Catalogue.rolesOn, List.countP_filterMap]
    exact List.countP_congr fun tile _ => by cases sprites.role? tile <;> rfl
  rw [Encounter.ofRoles, hcount]

end Cell

/-! ## Moves -/

namespace Session

variable {s : Session} {direction : Option Direction}

/-- A move that succeeds is not undone. -/
theorem move_eq_tryMove {result : MoveResult} (h : (s.move direction).1 = .ok result) :
    s.move direction = tryMove direction s := by
  unfold move undoing at h ⊢
  split at h
  · cases h
  · rfl

/-- The encounter with what stands on a cell. -/
def standing (s : Session) (target : Location) : Encounter :=
  .ofRoles (!(s.game.scene target).targetIs (s.game.state.avatar.x, s.game.state.avatar.y))
    (s.game.world.sprites.rolesOn s.game.world.rooms target)

/-- How a move goes that is decided by what stands on its cell: what it results in, and the
session it leaves. -/
inductive Passage (s : Session) (direction : Option Direction) : MoveResult → Session → Prop
  | leftWorld {t : Session} :
      s.game.state.location.step? s.game.world.dimensions direction = none →
      Passage s direction .leftWorld t
  | blocked {target : Location} {m : Meeting} {after : Scene} {t : Session} :
      s.game.state.location.step? s.game.world.dimensions direction = some target →
      Episode.meeting? ⟨s, .move direction⟩ = some m →
      m.encounter = (.ok (s.standing target), after) → (s.standing target).passable = false →
      Passage s direction .blocked t
  | moved {target : Location} {m : Meeting} {after : Scene} {t : Session} (entered : Bool) :
      s.game.state.location.step? s.game.world.dimensions direction = some target →
      Episode.meeting? ⟨s, .move direction⟩ = some m →
      m.encounter = (.ok (s.standing target), after) → (s.standing target).passable = true →
      t.game.state.location = target → Passage s direction (.moved entered) t

/-- Where no action redirects the avatar or gives a tile another sprite, a move that succeeds
is decided by what stands on its cell. -/
theorem passage (hsteady : s.game.world.sprites.Admits Action.Steady) {result : MoveResult}
    (h : (s.move direction).1 = .ok result) :
    s.Passage direction result (s.move direction).2 := by
  have hcourse := s.course_tryMove direction
  have hmeeting : Episode.meeting? ⟨s, .move direction⟩ =
      (s.turn direction).meeting? direction := rfl
  have hmove := move_eq_tryMove h
  obtain ⟨facing, hturn⟩ := s.turn_eq direction
  rw [hmove] at h ⊢
  rw [hturn] at hcourse hmeeting
  generalize tryMove direction s = r at h hcourse ⊢
  cases hcourse with
  | leftWorld hstep =>
    cases h
    exact .leftWorld hstep
  | unpainted | halted | refused => cases h
  | blocked hstep hp hmeet hpass =>
    cases h
    obtain ⟨rfl, -⟩ := Setting.meetCell_of_steady hsteady hmeet
    obtain ⟨m, hm, hencounter⟩ := meeting?_of_palette hstep hp
    exact .blocked hstep (hmeeting.trans hm) (hencounter.trans hmeet) hpass
  | moved hstep hp hmeet hpass hocc =>
    cases h
    obtain ⟨rfl, htarget⟩ := Setting.meetCell_of_steady hsteady hmeet
    obtain ⟨m, hm, hencounter⟩ := meeting?_of_palette hstep hp
    exact .moved _ hstep (hmeeting.trans hm) (hencounter.trans hmeet) hpass
      ((Game.location_occupy hocc).trans htarget)

/-! ## Runs -/

variable {w : World} {config : Config} {stage : Stage} {s₀ : Session} {es : List Episode}

theorem sprites_of_run (hstart : start w config stage = .ok s₀) (hrun : Run s₀ es s) :
    s.game.world.sprites = w.sprites := by
  rw [hrun.steps.sprites, (holdings_start hstart).1]

/-- What decides a move along a run from the start of a session in a world where no action
redirects the avatar or gives a tile another sprite. A move that succeeds leaves the world
just if the step does. Else it ends at a wall just if one stood on the cell before the move,
whatever the pushes there did, and if none did, the avatar is on the cell. -/
theorem passage_of_run (hredirect : w.sprites.NeverRedirects)
    (htransform : w.sprites.NeverTransforms) (hstart : start w config stage = .ok s₀)
    (hrun : Run s₀ es s) {result : MoveResult} (hmove : (s.move direction).1 = .ok result) :
    (result = .leftWorld ↔
      s.game.state.location.step? s.game.world.dimensions direction = none) ∧
    ∀ target, s.game.state.location.step? s.game.world.dimensions direction = some target →
      (result = .blocked ↔ s.game.world.rooms.Walled w.sprites target) ∧
      (¬s.game.world.rooms.Walled w.sprites target →
        (∃ entered, result = .moved entered) ∧
          (s.move direction).2.game.state.location = target) := by
  have hsprites := sprites_of_run hstart hrun
  have hsteady : s.game.world.sprites.Admits Action.Steady :=
    hsprites ▸ Catalogue.admits_steady hredirect htransform
  have hwalled : ∀ target, (s.standing target).passable = false ↔
      s.game.world.rooms.Walled w.sprites target := by
    intro target
    rw [← hsprites]
    exact passable_ofRoles_rolesOn
  cases passage hsteady hmove with
  | leftWorld hstep => simp [hstep]
  | blocked hstep _ _ hpass =>
    refine ⟨by simp [hstep], fun target' htarget => ?_⟩
    obtain rfl := Option.some.inj (hstep.symm.trans htarget)
    simp [← hwalled, hpass]
  | moved entered hstep _ _ hpass hlocation =>
    refine ⟨by simp [hstep], fun target' htarget => ?_⟩
    obtain rfl := Option.some.inj (hstep.symm.trans htarget)
    simp [← hwalled, hpass, hlocation]

theorem neverRedirects_bell : (beside bell []).sprites.NeverRedirects :=
  fun _ hs _ hb _ ha _ _ _ h =>
    absurd (kind_of_contains_bell hs hb ha h) (by simp [Action.kind])

/-- Two rooms of one cell, with a walker in the first one and a sign in the second one that
gives itself when it is pushed. -/
def corridor : World :=
  .ofParts (.ofGrid 1 1 2 1 false false)
    [{ plainSprite "walker" with isAvatar := true },
      { plainSprite "sign" with behaviors := [⟨"push", [.giveItem "sign" 1 true]⟩] }]
    [⟨"day", []⟩]
    [⟨"day", [⟨⟨0⟩, "walker", 0, 0, false⟩]⟩, ⟨"day", [⟨⟨1⟩, "sign", 0, 0, false⟩]⟩]

/-- The start of a session in the corridor. -/
def inCorridor : Session where
  config := .default
  avatarName := "walker"
  game :=
    let walker : Sprite := { plainSprite "walker" with isAvatar := true }
    let stage := (Stage.ofPageChars 40).tell (Game.entryNotices [walker] walker ⟨"day", []⟩)
    ⟨corridor, .ofLocation ⟨0, 0, 0⟩, stage, .ofSeed 0⟩
  controls := .ofThreshold Config.default.swipeThreshold
  clock := .start Config.default.frameInterval Config.default.inputInterval 12

theorem start_corridor : start corridor .default (.ofPageChars 40) = .ok inCorridor := rfl

theorem contains_corridor {sprite : Sprite} (hs : sprite ∈ corridor.sprites.sprites)
    {b : Behavior} (hb : b ∈ sprite.behaviors) {a c : Action} (ha : a ∈ b.actions)
    (h : a.Contains c) : c = .giveItem "sign" 1 true := by
  rcases List.mem_pair.mp hs with rfl | rfl
  · cases hb
  · obtain rfl := List.mem_singleton.mp hb
    obtain rfl := List.mem_singleton.mp ha
    cases h
    rfl

theorem neverRedirects_corridor : corridor.sprites.NeverRedirects :=
  fun _ hs _ hb _ ha _ _ _ h => nomatch contains_corridor hs hb ha h

theorem neverTransforms_corridor : corridor.sprites.NeverTransforms :=
  fun _ hs _ hb _ ha _ h => nomatch contains_corridor hs hb ha h

/-- The bell is a wall, whatever its push does. In the corridor nothing is in the way. -/
theorem passage_of_run_bell :
    (∃ result, ((atTile bell []).move (some .right)).1 = .ok result ∧ result = .blocked ∧
      (atTile bell []).game.world.rooms.Walled (beside bell []).sprites ⟨0, 1, 0⟩) ∧
    ∃ result, (inCorridor.move (some .right)).1 = .ok result ∧
      (∃ entered, result = .moved entered) ∧
      (inCorridor.move (some .right)).2.game.state.location = ⟨1, 0, 0⟩ := by
  have hbell := passage_of_run neverRedirects_bell neverTransforms_bell start_bell .nil
    (show ((atTile bell []).move (some .right)).1 = .ok _ from rfl)
  have hcorridor := passage_of_run neverRedirects_corridor neverTransforms_corridor
    start_corridor .nil (show (inCorridor.move (some .right)).1 = .ok _ from rfl)
  obtain ⟨hblocked, -⟩ := hbell.2 ⟨0, 1, 0⟩ (by decide)
  obtain ⟨-, hmoved⟩ := hcorridor.2 ⟨1, 0, 0⟩ (by decide)
  refine ⟨⟨_, rfl, rfl, hblocked.mp rfl⟩, _, rfl, hmoved ?_⟩
  rintro ⟨tile, htile, sprite, hfind, hwall, -⟩
  obtain rfl : tile = ⟨⟨1⟩, "sign", 0, 0, false⟩ := List.mem_singleton.mp htile
  cases hfind
  cases hwall

/-- What a move pushes along a run from the start of a session in a world where no action
redirects the avatar or gives a tile another sprite. A move that succeeds pushes every tile
that stood on its cell and answers to it, unless the avatar stands in the same place of its
room, and then nothing. A step in a direction on whose axis rooms have two cells leads to
another place. -/
theorem pushes_of_run (hredirect : w.sprites.NeverRedirects)
    (htransform : w.sprites.NeverTransforms) (hstart : start w config stage = .ok s₀)
    (hrun : Run s₀ es s) {target : Location} {result : MoveResult}
    (hstep : s.game.state.location.step? s.game.world.dimensions direction = some target)
    (hmove : (s.move direction).1 = .ok result) :
    (∃ m met after, Episode.meeting? ⟨s, .move direction⟩ = some m ∧
      m.encounter = (.ok met, after) ∧
      met.pushed =
        if (target.x, target.y) = (s.game.state.avatar.x, s.game.state.avatar.y) then 0
        else s.game.world.rooms.pushable w.sprites target) ∧
    ∀ d, direction = some d → 2 ≤ s.game.world.dimensions.along d →
      (target.x, target.y) ≠ (s.game.state.avatar.x, s.game.state.avatar.y) := by
  have hsprites := sprites_of_run hstart hrun
  have hsteady : s.game.world.sprites.Admits Action.Steady :=
    hsprites ▸ Catalogue.admits_steady hredirect htransform
  have hpushed : (s.standing target).pushed =
      if (target.x, target.y) = (s.game.state.avatar.x, s.game.state.avatar.y) then 0
      else s.game.world.rooms.pushable w.sprites target := by
    rw [standing, pushed_ofRoles_rolesOn, hsprites]
    simp only [Scene.targetIs, Bool.not_eq_true', decide_eq_false_iff_not, ite_not]
    rfl
  refine ⟨?_, ?_⟩
  · cases passage hsteady hmove with
    | leftWorld hnone => cases hstep.symm.trans hnone
    | blocked htarget hm hencounter | moved _ htarget hm hencounter =>
      obtain rfl := Option.some.inj (hstep.symm.trans htarget)
      exact ⟨_, _, _, hm, hencounter, hpushed⟩
  · rintro d rfl h
    exact cell_ne_of_step? hstep h

/-- The bell is pushed from beside it. -/
theorem pushes_of_run_bell :
    (atTile bell []).game.state.location.step? (atTile bell []).game.world.dimensions
        (some .right) = some ⟨0, 1, 0⟩ ∧
      (∃ result, ((atTile bell []).move (some .right)).1 = .ok result) ∧
      ∃ m met after, Episode.meeting? ⟨atTile bell [], .move (some .right)⟩ = some m ∧
        m.encounter = (.ok met, after) ∧ met.pushed = 1 := by
  have hstep : (atTile bell []).game.state.location.step?
      (atTile bell []).game.world.dimensions (some .right) = some ⟨0, 1, 0⟩ := by decide
  obtain ⟨⟨m, met, after, hm, hencounter, hpushed⟩, hcell⟩ :=
    pushes_of_run neverRedirects_bell neverTransforms_bell start_bell .nil hstep
      (show ((atTile bell []).move (some .right)).1 = .ok _ from rfl)
  rw [if_neg (hcell .right rfl (by decide))] at hpushed
  exact ⟨hstep, ⟨_, rfl⟩, m, met, after, hm, hencounter, hpushed.trans (by decide)⟩

/-- The step to the sign leads into another room, but to the same place there, and so the
sign is not pushed. -/
theorem unpushed_in_corridor :
    corridor.sprites.NeverRedirects ∧ corridor.sprites.NeverTransforms ∧
      start corridor .default (.ofPageChars 40) = .ok inCorridor ∧
      inCorridor.game.state.location = ⟨0, 0, 0⟩ ∧
      Location.step? corridor.dimensions ⟨0, 0, 0⟩ (some .right) = some ⟨1, 0, 0⟩ ∧
      (inCorridor.move (some .right)).1 = .ok (.moved true) ∧
      inCorridor.game.world.rooms.pushable corridor.sprites ⟨1, 0, 0⟩ = 1 ∧
      ∃ m met after, Episode.meeting? ⟨inCorridor, .move (some .right)⟩ = some m ∧
        m.encounter = (.ok met, after) ∧ met.pushed = 0 :=
  ⟨neverRedirects_corridor, neverTransforms_corridor, rfl, rfl, by decide, rfl, by decide, _, _,
    _, rfl, rfl, rfl⟩

end Session

end TileAdventure
