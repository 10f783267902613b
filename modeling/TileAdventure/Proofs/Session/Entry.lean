import TileAdventure.Proofs.Play.Picture
import TileAdventure.Proofs.Session.Place

/-!
# Entering rooms step by step

To enter a room takes many looks and many effects, on the state of play and on the stage
(`Game.entering`, `Game.occupying`). All looks come before the first effect, so that a failure
leaves no trace, and what is done step by step is done as a whole (`Game.run_entering`,
`Game.run_occupying`). What fails is the first of all obstacles in the order of the looks
(`Game.obstacles`), wherever in the room it is; without any the avatar is put on its cell and
nothing else changes (`Game.occupied_or_refused`).
-/

namespace TileAdventure

namespace Game

/-- Something done to a game step by step. What was done before a failure stays done. -/
abbrev Doing (α : Type) := ExceptT Failure (StateM Game) α

/-- Look something up in the game as it is. -/
def looking {α : Type} (look : Game → Except Failure α) : Doing α := do
  match look (← get) with
  | .ok a => return a
  | .error f => throw f

/-- Make a room the current one: look up all that this needs, drop the prepared sprites, prepare
those of the room and the avatar's one by one, and change the state of play. -/
def entering (avatarName : String) (room : Nat) : Doing Unit := do
  let r ← looking (·.room? room)
  match (← get).world.palette? r.palette with
  | none => throw (.unknownPalette r.palette)
  | some (palette, index) =>
    let avatar ← looking (·.sprite? avatarName)
    let sprites ← r.tiles.mapM fun tile => looking (·.sprite? tile.sprite)
    modify (·.tell [.dropSprites])
    forM sprites fun sprite => modify (·.tell [.prepare sprite palette false])
    modify (·.tell [.prepare avatar palette false])
    modify (·.tell [.prepare avatar palette true])
    modify fun g => { g with state := { g.state with room } }
    modify fun g => { g with state := { g.state with palette := index } }

/-- Put the avatar on the target's cell, entering its room if it is another one. -/
def occupying (avatarName : String) (target : Location) : Doing Bool := do
  let g ← get
  if !g.world.dimensions.containsCell target.x target.y then
    throw (.cellOutside target.room target.x target.y)
  if target.room ≠ g.state.room then entering avatarName target.room
  modify fun g =>
    { g with state := { g.state with avatar := { g.state.avatar with x := target.x } } }
  modify fun g =>
    { g with state := { g.state with avatar := { g.state.avatar with y := target.y } } }
  return target.room ≠ g.state.room

/-- A result with the game that goes with it, or a failure with the game as it is. -/
def orAsIs {α : Type} (g : Game) : Except Failure (α × Game) → Except Failure α × Game
  | .ok (a, g') => (.ok a, g')
  | .error f => (.error f, g)

variable {g g' : Game} {avatarName : String}

/-! ## As a whole -/

section

variable {α β : Type} {x : Doing α} {f : Failure} {a : α}

theorem run_bind (x : Doing α) (next : α → Doing β) (g : Game) :
    (x >>= next).run g = ExceptT.bindCont next (x.run g).1 (x.run g).2 := rfl

theorem run_bind_ok (h : x.run g = (.ok a, g')) (next : α → Doing β) :
    (x >>= next).run g = (next a).run g' := by
  rw [run_bind, h]
  rfl

theorem run_bind_error (h : x.run g = (.error f, g')) (next : α → Doing β) :
    (x >>= next).run g = (.error f, g') := by
  rw [run_bind, h]
  rfl

theorem run_get (next : Game → Doing β) (g : Game) : (get >>= next).run g = (next g).run g := rfl

theorem run_modify (change : Game → Game) (next : Unit → Doing β) :
    (modify change >>= next).run g = (next ()).run (change g) := rfl

theorem run_looking (look : Game → Except Failure α) (g : Game) :
    (looking look).run g = (look g, g) := by
  change (match look g with | .ok a => pure a | .error f => throw f : Doing α).run g = _
  cases look g <;> rfl

theorem run_looking_ok {look : Game → Except Failure α} (h : look g = .ok a)
    (next : α → Doing β) : (looking look >>= next).run g = (next a).run g :=
  run_bind_ok ((run_looking look g).trans (by rw [h])) next

theorem run_looking_error {look : Game → Except Failure α} (h : look g = .error f)
    (next : α → Doing β) : (looking look >>= next).run g = (.error f, g) :=
  run_bind_error ((run_looking look g).trans (by rw [h])) next

end

/-- To look up the sprites of tiles one after the other changes nothing. -/
theorem run_mapM_looking (tiles : List Tile) (g : Game) :
    (tiles.mapM fun tile => looking (·.sprite? tile.sprite) : Doing (List Sprite)).run g =
      (g.sprites? tiles, g) := by
  induction tiles with
  | nil => rfl
  | cons tile tiles ih =>
    rw [List.mapM_cons, sprites?]
    cases hsprite : g.sprite? tile.sprite with
    | error f => exact run_looking_error hsprite _
    | ok sprite =>
      rw [run_looking_ok hsprite]
      cases hsprites : g.sprites? tiles with
      | error f => exact run_bind_error (ih.trans (by rw [hsprites])) _
      | ok sprites => exact run_bind_ok (ih.trans (by rw [hsprites])) _

/-- To prepare sprites one by one comes to telling all their notices. -/
theorem run_forM_tell (sprites : List Sprite) (palette : Palette) (g : Game) :
    (forM sprites fun sprite => modify (·.tell [.prepare sprite palette false]) :
      Doing Unit).run g = (.ok (), g.tell (sprites.map (.prepare · palette false))) := by
  induction sprites generalizing g with
  | nil =>
    have hnone : g.tell [] = g := by simp [tell, Stage.tell]
    rw [List.map_nil, hnone]
    rfl
  | cons sprite sprites ih =>
    rw [List.forM_cons, run_modify, ih, tell_tell]
    rfl

theorem tell_entryNotices (g : Game) (sprites : List Sprite) (avatar : Sprite) (palette : Palette) :
    g.tell (entryNotices sprites avatar palette) =
      (((g.tell [.dropSprites]).tell (sprites.map (.prepare · palette false))).tell
        [.prepare avatar palette false]).tell [.prepare avatar palette true] := by
  simp only [tell_tell, entryNotices, List.append_assoc, List.cons_append, List.nil_append]

/-- To enter a room step by step comes to entering it as a whole or not at all. -/
theorem run_entering (avatarName : String) (room : Nat) (g : Game) :
    (entering avatarName room).run g =
      g.orAsIs ((g.enterRoom avatarName room).map (Prod.mk ())) := by
  unfold entering enterRoom
  cases hroom : g.room? room with
  | error f => exact run_looking_error hroom _
  | ok r =>
    rw [run_looking_ok hroom, run_get]
    simp only [bind, Except.bind]
    cases hp : g.world.palette? r.palette with
    | none => rfl
    | some found =>
      obtain ⟨palette, index⟩ := found
      dsimp only
      cases havatar : g.sprite? avatarName with
      | error f => exact run_looking_error havatar _
      | ok avatar =>
        refine (run_looking_ok havatar _).trans ?_
        cases hsprites : g.sprites? r.tiles with
        | error f =>
          exact run_bind_error ((run_mapM_looking r.tiles g).trans (by rw [hsprites])) _
        | ok sprites =>
          refine (run_bind_ok ((run_mapM_looking r.tiles g).trans (by rw [hsprites])) _).trans ?_
          refine (run_bind_ok (run_forM_tell sprites palette _) _).trans ?_
          simp only [tell_entryNotices]
          rfl

/-- To occupy a cell step by step comes to occupying it as a whole or not at all. -/
theorem run_occupying (avatarName : String) (target : Location) (g : Game) :
    (occupying avatarName target).run g = g.orAsIs (g.occupy avatarName target) := by
  unfold occupying occupy
  rw [run_get]
  cases hcell : g.world.dimensions.containsCell target.x target.y with
  | false => rfl
  | true =>
    by_cases hroom : target.room = g.state.room
    · simp only [ne_eq, hroom, not_true_eq_false, if_false]
      rfl
    · simp only [ne_eq, hroom, not_false_eq_true, if_true]
      have hentering := run_entering avatarName target.room g
      cases hm : g.enterRoom avatarName target.room with
      | error f =>
        rw [hm] at hentering
        exact run_bind_error hentering _
      | ok middle =>
        rw [hm] at hentering
        exact run_bind_ok hentering _

/-! ## What fails first -/

/-- A look into the game fails just if there are obstacles, and with the first of them. -/
def FailsFirst {α : Type} (x : Except Failure α) (obstacles : List Failure) : Prop :=
  ∀ f, x = .error f ↔ obstacles.head? = some f

/-- The names that no sprite has, as failures to find one. -/
def missing (g : Game) (names : List String) : List Failure :=
  (names.filter fun name => (g.world.sprites.find? name).isNone).map .unknownSprite

/-- All obstacles to entering a room, in the order in which they are looked for. -/
def entryObstacles (g : Game) (avatarName : String) (room : Nat) : List Failure :=
  match g.world.rooms[room]? with
  | none => [.unknownRoom room g.world.rooms.length]
  | some r =>
    (if ∀ palette ∈ g.world.palettes, palette.name ≠ r.palette then [.unknownPalette r.palette]
      else []) ++ g.missing (avatarName :: r.tiles.map Tile.sprite)

/-- All obstacles to putting the avatar on a cell, in the order in which they are looked for. -/
def obstacles (g : Game) (avatarName : String) (target : Location) : List Failure :=
  (if g.world.dimensions.containsCell target.x target.y then []
    else [.cellOutside target.room target.x target.y]) ++
  if target.room = g.state.room then [] else g.entryObstacles avatarName target.room

section

variable {α β : Type} {x : Except Failure α} {os more : List Failure}

theorem failsFirst_ok (a : α) : FailsFirst (.ok a) [] := by
  simp [FailsFirst]

theorem failsFirst_error (f : Failure) (more : List Failure) :
    FailsFirst (.error f : Except Failure α) (f :: more) := by
  simp [FailsFirst]

/-- The obstacles to a look and a further one are those of the one and then of the other. -/
theorem FailsFirst.bind (h : FailsFirst x os) {next : α → Except Failure β}
    (hnext : ∀ a, x = .ok a → FailsFirst (next a) more) :
    FailsFirst (x >>= next) (os ++ more) := by
  cases hx : x with
  | error f =>
    obtain ⟨rest, rfl⟩ := List.head?_eq_some_iff.mp ((h f).mp hx)
    exact failsFirst_error f (rest ++ more)
  | ok a =>
    have hnone : os = [] := by
      cases os with
      | nil => rfl
      | cons f rest => simpa [hx] using (h f).mpr rfl
    rw [hnone]
    exact hnext a hx

end

theorem missing_cons (g : Game) (name : String) (names : List String) :
    g.missing (name :: names) = g.missing [name] ++ g.missing names := by
  rw [missing, ← List.singleton_append, List.filter_append, List.map_append]
  rfl

theorem failsFirst_sprite? (g : Game) (name : String) :
    FailsFirst (g.sprite? name) (g.missing [name]) := by
  unfold sprite? missing
  cases h : g.world.sprites.find? name <;> simp [FailsFirst, h]

theorem failsFirst_sprites? (g : Game) (tiles : List Tile) :
    FailsFirst (g.sprites? tiles) (g.missing (tiles.map Tile.sprite)) := by
  induction tiles with
  | nil => exact failsFirst_ok []
  | cons tile tiles ih =>
    rw [List.map_cons, missing_cons, sprites?, ← List.append_nil (g.missing (tiles.map _))]
    exact (g.failsFirst_sprite? tile.sprite).bind fun _ _ => ih.bind fun _ _ => failsFirst_ok _

theorem failsFirst_enterRoom (g : Game) (avatarName : String) (room : Nat) :
    FailsFirst (g.enterRoom avatarName room) (g.entryObstacles avatarName room) := by
  unfold enterRoom entryObstacles room?
  cases g.world.rooms[room]? with
  | none => exact failsFirst_error _ []
  | some r =>
    simp only [bind, Except.bind]
    cases hp : g.world.palette? r.palette with
    | none =>
      rw [if_pos (World.palette?_eq_none.mp hp)]
      exact failsFirst_error _ _
    | some found =>
      have hnamed : ¬∀ palette ∈ g.world.palettes, palette.name ≠ r.palette := fun h => by
        rw [World.palette?_eq_none.mpr h] at hp
        cases hp
      rw [if_neg hnamed, List.nil_append, missing_cons,
        ← List.append_nil (g.missing (r.tiles.map _))]
      exact (g.failsFirst_sprite? avatarName).bind fun _ _ =>
        (g.failsFirst_sprites? r.tiles).bind fun _ _ => failsFirst_ok _

theorem failsFirst_occupy (g : Game) (avatarName : String) (target : Location) :
    FailsFirst (g.occupy avatarName target) (g.obstacles avatarName target) := by
  unfold occupy obstacles
  cases hcell : g.world.dimensions.containsCell target.x target.y with
  | false => exact failsFirst_error _ _
  | true =>
    by_cases hroom : target.room = g.state.room
    · simp only [ne_eq, hroom, not_true_eq_false, if_false, if_true]
      exact failsFirst_ok _
    · simp only [ne_eq, hroom, not_false_eq_true, if_true, if_false]
      rw [List.nil_append, ← List.append_nil (g.entryObstacles ..)]
      exact (g.failsFirst_enterRoom avatarName target.room).bind fun _ _ => failsFirst_ok _

/-! ## What comes of it -/

/-- The avatar has entered the target's room and stands on its cell: the room's first palette of
that name is the current one, and the sprites of the tiles and of the avatar are prepared. -/
def Enters (g : Game) (avatarName : String) (target : Location) (g' : Game) : Prop :=
  ∃ (r : Room) (palette : Palette) (index : Nat) (avatar : Sprite) (sprites : List Sprite),
    g.world.rooms[target.room]? = some r ∧
    g.world.palettes.findIdx? (·.name = r.palette) = some index ∧
    g.world.palettes[index]? = some palette ∧
    g.world.sprites.find? avatarName = some avatar ∧
    r.tiles.map (g.world.sprites.find? ·.sprite) = sprites.map some ∧
    g' = { g with
      state := { g.state with
        room := target.room
        palette := index
        avatar := { g.state.avatar with x := target.x, y := target.y } }
      stage := { g.stage with
        log := g.stage.log ++ (.dropSprites :: sprites.map (.prepare · palette false) ++
          [.prepare avatar palette false, .prepare avatar palette true]) } }

theorem occupy_of_room_eq {target : Location}
    (hcell : g.world.dimensions.containsCell target.x target.y = true)
    (hroom : target.room = g.state.room) :
    g.occupy avatarName target = .ok (false, { g with
      state := { g.state with
        avatar := { g.state.avatar with x := target.x, y := target.y } } }) := by
  simp only [occupy, hcell, hroom, ne_eq, not_true_eq_false, if_false, decide_false]
  rfl

theorem enters_of_occupy {target : Location} {entered : Bool}
    (h : g.occupy avatarName target = .ok (entered, g')) (hroom : target.room ≠ g.state.room) :
    g.Enters avatarName target g' := by
  obtain ⟨-, -, middle, ⟨hsame, -⟩ | hm, rfl⟩ := occupy_eq_ok h
  · exact (hroom hsame).elim
  · obtain ⟨r, palette, index, avatar, sprites, hr, hp, ha, hs, rfl⟩ := enterRoom_eq_ok hm
    exact ⟨r, palette, index, avatar, sprites, hr, World.findIdx?_of_palette? hp,
      getElem?_of_palette? hp, sprite?_eq_ok.mp ha, sprites?_eq_ok.mp hs, rfl⟩

theorem orAsIs_error {α : Type} {result : Except Failure (α × Game)} {f : Failure}
    (h : g.orAsIs result = (.error f, g')) : g' = g := by
  cases result with
  | ok _ => cases h
  | error _ => exact (congrArg Prod.snd h).symm

/-- To enter a room or to occupy a cell is done as a whole or not at all: a failure changes
neither the state of play nor the stage. To occupy a cell fails just if there are obstacles, and
with the first of them. Otherwise the avatar stands on the cell, which lies in the grid, and
nothing else has changed unless the cell is in another room, which is then entered. -/
theorem occupied_or_refused (g : Game) (avatarName : String) :
    (∀ room,
      (entering avatarName room).run g =
        g.orAsIs ((g.enterRoom avatarName room).map (Prod.mk ())) ∧
      ∀ f g', (entering avatarName room).run g = (.error f, g') → g' = g) ∧
    ∀ target,
      (occupying avatarName target).run g = g.orAsIs (g.occupy avatarName target) ∧
      (∀ f g', (occupying avatarName target).run g = (.error f, g') → g' = g) ∧
      (∀ f, g.occupy avatarName target = .error f ↔
        (g.obstacles avatarName target).head? = some f) ∧
      ∀ entered g', g.occupy avatarName target = .ok (entered, g') →
        g.world.dimensions.containsCell target.x target.y = true ∧
        (entered = true ↔ target.room ≠ g.state.room) ∧
        (target.room ≠ g.state.room → g.Enters avatarName target g') ∧
        (target.room = g.state.room → g' = { g with
          state := { g.state with
            avatar := { g.state.avatar with x := target.x, y := target.y } } }) := by
  refine ⟨fun room => ⟨run_entering .., fun f g' h => ?_⟩, fun target =>
    ⟨run_occupying .., fun f g' h => ?_, g.failsFirst_occupy avatarName target,
      fun entered g' h => ?_⟩⟩
  · exact orAsIs_error ((run_entering avatarName room g).symm.trans h)
  · exact orAsIs_error ((run_occupying avatarName target g).symm.trans h)
  · obtain ⟨hcell, hentered, -⟩ := occupy_eq_ok h
    refine ⟨hcell, hentered, enters_of_occupy h, fun hroom => ?_⟩
    exact (Prod.mk.inj (Except.ok.inj (h.symm.trans (occupy_of_room_eq hcell hroom)))).2

/-- At the crossing, the walker can step into the second room, but not out of the grid of a room
that does not exist either. -/
theorem occupied_or_refused_crossing :
    (∃ g', (occupying "walker" ⟨1, 0, 0⟩).run Session.atCrossing.game = (.ok true, g') ∧
      g'.state.place = (1, 1, 0, 0)) ∧
    Session.atCrossing.game.obstacles "walker" ⟨5, 9, 9⟩ =
      [.cellOutside 5 9 9, .unknownRoom 5 2] ∧
    (occupying "walker" ⟨5, 9, 9⟩).run Session.atCrossing.game =
      (.error (.cellOutside 5 9 9), Session.atCrossing.game) := by
  have hall := (occupied_or_refused Session.atCrossing.game "walker").2
  obtain ⟨hrun, -, hfails, -⟩ := hall ⟨5, 9, 9⟩
  refine ⟨⟨_, (hall ⟨1, 0, 0⟩).1, rfl⟩, rfl, ?_⟩
  rw [hrun, (hfails _).mpr rfl]
  rfl

end Game

end TileAdventure
