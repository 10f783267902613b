import TileAdventure.Proofs.Session.Invariant

/-!
# Where the avatar is

The current room exists and the current palette is the first one of the name that the room
gives (`Located`): so it is at the start of a session (`located_start`), and so it stays
(`invariant_located`). The avatar stands in the grid once it has moved or if it has started
there (`inGrid_of_steps`), and nothing but a successful move changes its place
(`place_move`). So neither the scene of an evaluation nor the drawing of a room misses its
room or its palette.
-/

namespace TileAdventure

/-- The current room exists, and the current palette is the first one with the name that the
room gives. -/
def Located (w : World) (state : PlayState) : Prop :=
  ∃ r, w.rooms[state.room]? = some r ∧
    w.palettes.findIdx? (·.name = r.palette) = some state.palette

/-- The avatar stands on a cell of the grid. -/
def InGrid (w : World) (state : PlayState) : Prop :=
  w.dimensions.containsCell state.avatar.x state.avatar.y = true

/-- The room, its palette, and the avatar's cell. -/
def PlayState.place (state : PlayState) : Nat × Nat × Int × Int :=
  (state.room, state.palette, state.avatar.x, state.avatar.y)

theorem World.findIdx?_of_palette? {w : World} {name : String} {palette : Palette} {index : Nat}
    (h : w.palette? name = some (palette, index)) :
    w.palettes.findIdx? (·.name = name) = some index := by
  unfold palette? at h
  rw [List.findIdx?_eq_fst_find?_zipIdx]
  simpa using congrArg (Option.map Prod.snd) h

theorem World.palette?_eq_none {w : World} {name : String} :
    w.palette? name = none ↔ ∀ palette ∈ w.palettes, palette.name ≠ name := by
  have hindex : w.palettes.findIdx? (·.name = name) = (w.palette? name).map Prod.snd :=
    List.findIdx?_eq_fst_find?_zipIdx
  rw [← Option.map_eq_none_iff, ← hindex, List.findIdx?_eq_none_iff]
  simp

/-! ## The palette of the room -/

/-- A room that is entered becomes the current one, with its palette. -/
theorem located_enterRoom {g g' : Game} {avatarName : String} {room : Nat}
    (h : g.enterRoom avatarName room = .ok g') : Located g'.world g'.state := by
  obtain ⟨r, palette, index, avatar, sprites, hr, hp, -, -, rfl⟩ := Game.enterRoom_eq_ok h
  exact ⟨r, hr, World.findIdx?_of_palette? hp⟩

theorem located_start {w : World} {config : Config} {stage : Stage} {s : Session}
    (h : Session.start w config stage = .ok s) : Located s.game.world s.game.state := by
  unfold Session.start at h
  split at h
  · cases h
  · obtain ⟨game, hgame, h⟩ := bind_eq_ok.mp h
    cases h
    exact located_enterRoom hgame

/-- The layout of rooms includes their palettes. -/
theorem Located.of_layout {w w' : World} {state : PlayState} (h : Located w state)
    (hlayout : w'.rooms.layout = w.rooms.layout) (hpalettes : w'.palettes = w.palettes) :
    Located w' state := by
  obtain ⟨r, hr, hp⟩ := h
  have hroom : (w'.rooms.layout)[state.room]? = (w.rooms.layout)[state.room]? := by rw [hlayout]
  simp only [Rooms.layout, List.getElem?_map, hr, Option.map_some, Option.map_eq_some_iff] at hroom
  obtain ⟨r', hr', hsame⟩ := hroom
  have hname : r'.palette = r.palette := congrArg Prod.fst hsame
  exact ⟨r', hr', by rw [hpalettes, hname]; exact hp⟩

theorem Located.sweep {g : Game} (h : Located g.world g.state) :
    Located g.sweep.world g.sweep.state := by
  obtain ⟨r, hr, hp⟩ := h
  exact ⟨r.sweep, by simp [Game.sweep, Rooms.sweep, hr], hp⟩

theorem invariant_located (limit : Nat) (avatarName : String) :
    Invariant limit avatarName (fun _ => True) Located where
  admits _ := Catalogue.admits_true _
  waiting _ _ _ := trivial
  gate h _ := h
  change h hchange := by
    cases hchange with
    | turn => exact h
    | act hp hscene => exact h.of_layout (Scene.Changes.layout hscene) rfl
    | sweep => exact h.sweep
    | occupy hocc =>
      obtain ⟨-, -, middle, ⟨-, rfl⟩ | hm, rfl⟩ := Game.occupy_eq_ok hocc
      · exact h
      · have hmiddle : Located middle.world middle.state := located_enterRoom hm
        exact hmiddle

/-- The palette of the current room is at hand. -/
theorem Located.palette? {g : Game} (h : Located g.world g.state) :
    ∃ palette, g.palette? = .ok palette := by
  obtain ⟨r, -, hp⟩ := h
  obtain ⟨hlt, -, -⟩ := List.findIdx?_eq_some_iff_getElem.mp hp
  exact ⟨g.world.palettes[g.state.palette], by
    rw [Game.palette?, List.getElem?_eq_getElem hlt]⟩

theorem Game.sprite?_failure {g : Game} {name : String} {f : Failure}
    (h : g.sprite? name = .error f) :
    f = .unknownSprite name ∧ g.world.sprites.find? name = none := by
  unfold sprite? at h
  split at h
  · cases h
  · rename_i hnone
    exact ⟨(Except.error.inj h).symm, hnone⟩

theorem Game.drawTiles_failure {g : Game} {frame : Nat} {tiles : List Tile} {f : Failure}
    (h : (g.drawTiles frame tiles).1 = .error f) :
    ∃ t ∈ tiles, f = .unknownSprite t.sprite ∧ g.world.sprites.find? t.sprite = none := by
  induction tiles generalizing g with
  | nil => cases h
  | cons tile tiles ih =>
    rw [drawTiles] at h
    split at h
    · rename_i hfind
      cases h
      exact ⟨tile, by simp, sprite?_failure hfind⟩
    · split at h
      · obtain ⟨t, ht, hf⟩ := ih h
        exact ⟨t, by simp [ht], hf⟩
      · obtain ⟨t, ht, hf⟩ := ih h
        exact ⟨t, by simp [ht], hf⟩

/-- Drawing fails only over a sprite that the world does not have: the avatar's, or that of
a tile. -/
theorem Located.draw_failure {g : Game} (h : Located g.world g.state) {avatarName : String}
    {frame : Nat} {f : Failure} (hf : (g.draw avatarName frame).1 = .error f) :
    ∃ name, f = .unknownSprite name ∧ g.world.sprites.find? name = none ∧
      (name = avatarName ∨ ∃ r ∈ g.world.rooms, ∃ t ∈ r.tiles, t.sprite = name) := by
  obtain ⟨palette, hp⟩ := h.palette?
  obtain ⟨r, hr, -⟩ := h
  have hroom : g.room? g.state.room = .ok r := by rw [Game.room?, hr]
  rw [Game.draw, hp, hroom] at hf
  dsimp only at hf
  have htiles := (g.tell [.drawBackground palette]).drawTiles_eq_tell frame r.tiles
  rcases hdrawn : (g.tell [.drawBackground palette]).drawTiles frame r.tiles with ⟨f' | _, drawn⟩
  · rw [hdrawn] at hf
    cases hf
    obtain ⟨t, ht, hsprite, hnone⟩ := Game.drawTiles_failure (congrArg Prod.fst hdrawn)
    exact ⟨_, hsprite, hnone, Or.inr ⟨r, List.mem_of_getElem? hr, t, ht, rfl⟩⟩
  · rw [hdrawn] at hf htiles
    obtain ⟨notices, -, rfl⟩ := htiles
    dsimp only at hf
    split at hf
    · rename_i hfind
      cases hf
      obtain ⟨hsprite, hnone⟩ := Game.sprite?_failure hfind
      exact ⟨_, hsprite, hnone, Or.inl rfl⟩
    · cases hf

/-! ## The cell of the avatar -/

theorem invariant_inGrid (limit : Nat) (avatarName : String) :
    Invariant limit avatarName (fun _ => True) InGrid where
  admits _ := Catalogue.admits_true _
  waiting _ _ _ := trivial
  gate h _ := h
  change h hchange := by
    unfold InGrid at h ⊢
    rw [hchange.world]
    cases hchange with
    | turn | act | sweep => exact h
    | occupy hocc =>
      obtain ⟨hcell, -, middle, -, rfl⟩ := Game.occupy_eq_ok hocc
      exact hcell

/-- To occupy a cell is to be in its room and in the grid. -/
theorem place_occupy {g g' : Game} {avatarName : String} {target : Location} {entered : Bool}
    (h : g.occupy avatarName target = .ok (entered, g')) :
    (entered = true ↔ g'.state.room ≠ g.state.room) ∧ InGrid g'.world g'.state := by
  obtain ⟨hcell, hentered, middle, hm, rfl⟩ := Game.occupy_eq_ok h
  rcases hm with ⟨hsame, rfl⟩ | hm
  · exact ⟨by simpa [hsame] using hentered, hcell⟩
  · obtain ⟨r, palette, index, avatar, sprites, -, -, -, -, rfl⟩ := Game.enterRoom_eq_ok hm
    exact ⟨hentered, hcell⟩

namespace Session

/-- A course changes the avatar's place only if it is a move that succeeds, and then the
avatar is in the grid. -/
theorem Course.place {s : Session} {direction : Option Direction}
    {r : Except Halt MoveResult × Session} (h : Course s direction r) :
    (∃ entered, r.1 = .ok (.moved entered) ∧
        (entered = true ↔ r.2.game.state.room ≠ s.game.state.room) ∧
        InGrid r.2.game.world r.2.game.state) ∨
      (∀ entered, r.1 ≠ .ok (.moved entered)) ∧ r.2.game.state.place = s.game.state.place := by
  cases h with
  | leftWorld | unpainted | halted => exact Or.inr ⟨by simp, rfl⟩
  | blocked | refused => exact Or.inr ⟨by simp, by rw [sweepAfter_game]; rfl⟩
  | moved _ _ _ _ hocc =>
    obtain ⟨hentered, hcell⟩ := place_occupy hocc
    rw [sweepAfter_game] at hentered
    exact Or.inl ⟨_, rfl, hentered, hcell⟩

/-- A move changes the avatar's place only if it succeeds. It enters a room just if it
changes the room's number, and ends in the grid. -/
theorem place_move (s : Session) (direction : Option Direction) :
    (∃ entered, (s.move direction).1 = .ok (.moved entered) ∧
        (entered = true ↔ (s.move direction).2.game.state.room ≠ s.game.state.room) ∧
        InGrid (s.move direction).2.game.world (s.move direction).2.game.state) ∨
      (∀ entered, (s.move direction).1 ≠ .ok (.moved entered)) ∧
        (s.move direction).2.game.state.place = s.game.state.place := by
  have hcourse := (s.course_tryMove direction).place
  obtain ⟨facing, hturn⟩ := s.turn_eq direction
  rw [hturn] at hcourse
  unfold move undoing
  split
  · exact Or.inr ⟨by simp, rfl⟩
  · exact hcourse

/-- A move that has succeeded leaves the avatar in the grid. -/
theorem inGrid_of_moved {e : Episode} {entered : Bool}
    (h : e.result = .ok (some (.moved entered))) :
    InGrid e.after.game.world e.after.game.state := by
  obtain ⟨s, _ | d⟩ := e
  case move direction =>
    obtain ⟨hresult, hafter⟩ := s.move_eq direction
    rw [hafter]
    rcases s.place_move direction with ⟨_, -, -, hgrid⟩ | ⟨hstay, -⟩
    · exact hgrid
    · rcases hm : (s.move direction).1 with halt | move
      · simp [hresult, hm, Except.map] at h
      · obtain rfl : move = .moved entered := by simpa [hresult, hm, Except.map] using h
        exact (hstay entered hm).elim
  case resume =>
    rw [(s.resume_eq d).1] at h
    rcases hr : (s.undoing (tryResume d)).1 with halt | outcome <;> simp [hr, Except.map] at h

/-- Once a move has succeeded, or if the avatar started in the grid, it is in the grid. -/
theorem inGrid_of_steps {s t : Session} {es : List Episode} (h : Steps s es t)
    (hs : InGrid s.game.world s.game.state ∨
      ∃ e ∈ es, ∃ entered, e.result = .ok (some (.moved entered))) :
    InGrid t.game.world t.game.state := by
  induction h with
  | refl => exact hs.elim id fun ⟨_, he, _⟩ => nomatch he
  | @tail es es' t u hsteps hstep ih =>
    have hkeep : InGrid t.game.world t.game.state → InGrid u.game.world u.game.state :=
      fun ht => (invariant_inGrid _ _).step ht hstep
    rcases hs with hs | ⟨e, he, entered, hmoved⟩
    · exact hkeep (ih (Or.inl hs))
    · rcases List.mem_append.mp he with he | he
      · exact hkeep (ih (Or.inr ⟨e, he, entered, hmoved⟩))
      · cases hstep with
        | evaluate hbegins =>
          obtain rfl := List.mem_singleton.mp he
          exact inGrid_of_moved hmoved
        | _ => cases he

/-! ## Runs -/

/-- Where the avatar is along a run from the start of a session. The room and its palette
are in order, the avatar is in the grid once it has moved, a move changes the place just as
it says, and neither a scene nor a drawing misses its room or its palette. -/
theorem place_of_run {w : World} {config : Config} {stage : Stage} {s₀ s : Session}
    {es : List Episode} (hstart : start w config stage = .ok s₀) (hrun : Run s₀ es s) :
    Located s.game.world s.game.state ∧
      ((InGrid s₀.game.world s₀.game.state ∨
          ∃ e ∈ es, ∃ entered, e.result = .ok (some (.moved entered))) →
        InGrid s.game.world s.game.state) ∧
      (∀ direction,
        ((s.move direction).2.game.state.place ≠ s.game.state.place →
          ∃ entered, (s.move direction).1 = .ok (.moved entered)) ∧
        ∀ entered, (s.move direction).1 = .ok (.moved entered) →
          (entered = true ↔ (s.move direction).2.game.state.room ≠ s.game.state.room)) ∧
      (∀ c, ∀ e ∈ s.episodes c, ∀ direction,
        ∃ palette, (e.before.turn direction).game.palette? = .ok palette) ∧
      ∀ elapsed f, (s.tick elapsed).1 = .error (.failed f) →
        (∃ e ∈ s.episodes (.tick elapsed), e.result = .error (.failed f)) ∨
          ∃ name, f = .unknownSprite name := by
  have hlocated : Located s.game.world s.game.state :=
    (invariant_located _ _).steps (located_start hstart) hrun.steps
  refine ⟨hlocated, inGrid_of_steps hrun.steps, fun direction => ⟨fun hplace => ?_, ?_⟩, ?_, ?_⟩
  · rcases s.place_move direction with ⟨entered, hmoved, -⟩ | ⟨-, hsame⟩
    · exact ⟨entered, hmoved⟩
    · exact (hplace hsame).elim
  · intro entered hmoved
    rcases s.place_move direction with ⟨entered', hmoved', hroom, -⟩ | ⟨hstay, -⟩
    · obtain rfl : entered' = entered := by simpa using hmoved'.symm.trans hmoved
      exact hroom
    · exact (hstay entered hmoved).elim
  · intro c e he direction
    obtain ⟨es', t, hsteps, hbegins⟩ := begins_of_mem_episodes he
    have hbefore : Located e.before.game.world e.before.game.state :=
      ((invariant_located _ _).begins ((invariant_located _ _).steps hlocated hsteps) hbegins).1
    obtain ⟨palette, hp⟩ := hbefore.palette?
    obtain ⟨facing, hturn⟩ := e.before.turn_eq direction
    exact ⟨palette, by rw [hturn]; exact hp⟩
  · intro elapsed f hf
    have hcall : (s.call (.tick elapsed)).1 = .error (.failed f) := map_eq_error.mpr hf
    rcases call_failure hcall with he | ⟨t, hsteps, hdraw⟩
    · exact Or.inl he
    · obtain ⟨name, hname, -⟩ :=
        ((invariant_located _ _).steps hlocated hsteps).draw_failure hdraw
      exact Or.inr ⟨name, hname⟩

/-- A sprite that shows nothing and does nothing. -/
def plainSprite (name : String) : Sprite :=
  ⟨name, [], 0, false, false, false, false, []⟩

/-- A walker in the first room, and in the second one a sign that speaks when it is pushed,
then gives itself, and sends the walker back. -/
def crossing : World :=
  .ofParts (.ofGrid 2 1 2 1 false false)
    [{ plainSprite "walker" with isAvatar := true },
      { plainSprite "sign" with
        behaviors := [⟨"push", [.dialog "Halt", .giveItem "sign" 1 true, .moveAvatar 0 0 0]⟩] }]
    [⟨"day", []⟩, ⟨"night", []⟩]
    [⟨"day", [⟨⟨0⟩, "walker", 1, 0, false⟩]⟩, ⟨"night", [⟨⟨1⟩, "sign", 1, 0, false⟩]⟩]

/-- The start of a session at the crossing. -/
def atCrossing : Session where
  config := .default
  avatarName := "walker"
  game :=
    let walker : Sprite := { plainSprite "walker" with isAvatar := true }
    let stage := (Stage.ofPageChars 40).tell (Game.entryNotices [walker] walker ⟨"day", []⟩)
    ⟨crossing, .ofLocation ⟨0, 1, 0⟩, stage, .ofSeed 0⟩
  controls := .ofThreshold Config.default.swipeThreshold
  clock := .start Config.default.frameInterval Config.default.inputInterval 12

theorem start_crossing : start crossing .default (.ofPageChars 40) = .ok atCrossing := rfl

/-- A step to the right leads into the second room, whose palette is the second one. -/
theorem place_of_run_crossing :
    ∃ es s, Run atCrossing es s ∧
      (∃ e ∈ es, ∃ entered, e.result = .ok (some (.moved entered))) ∧
      s.game.state.place = (1, 1, 0, 0) ∧ Located s.game.world s.game.state ∧
      InGrid s.game.world s.game.state := by
  have hrun : Run atCrossing [⟨atCrossing, .move (some .right)⟩]
      (atCrossing.move (some .right)).2 :=
    .call (.move (some .right)) .nil (by decide)
  have hmoved : ∃ e ∈ [(⟨atCrossing, .move (some .right)⟩ : Episode)],
      ∃ entered, e.result = .ok (some (.moved entered)) :=
    ⟨_, List.mem_singleton.mpr rfl, true, rfl⟩
  have hplace := place_of_run start_crossing hrun
  exact ⟨_, _, hrun, hmoved, rfl, hplace.1, hplace.2.1 (Or.inr hmoved)⟩

end Session

end TileAdventure
