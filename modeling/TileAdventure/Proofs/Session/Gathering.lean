import TileAdventure.Proofs.Grid.Globe
import TileAdventure.Proofs.Acting.Gathering
import TileAdventure.Proofs.Acting.Ledger
import TileAdventure.Proofs.Session.Drawing
import TileAdventure.Proofs.Session.Passage

/-!
# Gathering where the avatar stands

An idle evaluation, on a cell of a room of the grid, gathers what lies on the avatar's cell and
does nothing else (`Session.move_none_eq`): no action comes up in it
(`Session.dispatchesInMove_none`), and there is nothing left to gather for a second one
(`Session.gathered_gathered`). It cannot fail along a run from the start of a session, since the
room of the avatar can always be drawn (`Session.gathered_of_run`). Under a dialog it has an
effect on the controls too, as any move that ends under a dialog has: it ends the touch
(`Session.touch_ended_by_idling`).
-/

namespace TileAdventure

/-! ## No action -/

namespace Setting

variable {setting : Setting} {avatarCell : Int × Int} {scene : Scene}

/-- On the avatar's own cell nothing comes up. -/
theorem dispatchesAtTile_self (hself : scene.targetIs avatarCell = true)
    (room position : Nat) (tile : Tile) :
    setting.dispatchesAtTile avatarCell room position tile scene = [] := by
  unfold dispatchesAtTile
  split
  · rfl
  split
  · rfl
  rename_i sprite _
  split
  · rfl
  dsimp only
  rw [Scene.targetIs_ite_pickUp, if_pos hself]

theorem dispatchesAtTiles_self (hself : scene.targetIs avatarCell = true) (room : Nat)
    (positions : List Nat) (met : Encounter) :
    setting.dispatchesAtTiles avatarCell room positions met scene = [] := by
  induction positions generalizing met scene with
  | nil => rfl
  | cons position positions ih =>
    rw [dispatchesAtTiles]
    split
    · exact ih hself met
    · rename_i tile _
      have htarget := setting.target_meetTile_of_targetIs hself room position tile met
      rw [dispatchesAtTile_self hself, List.nil_append]
      split
      · rename_i met' after hmeet
        rw [hmeet] at htarget
        refine ih ?_ met'
        rw [Scene.targetIs, htarget]
        exact hself
      · rfl

/-- An encounter on the avatar's own cell performs no action. -/
theorem dispatchesAtCell_self (hself : scene.targetIs avatarCell = true) :
    setting.dispatchesAtCell avatarCell scene = [] := by
  unfold dispatchesAtCell
  split
  · rfl
  · exact dispatchesAtTiles_self hself _ _ _

end Setting

/-! ## Counts -/

theorem Scene.Change.bounded {setting : Setting} {allowed : Action → Prop} {s t : Scene}
    (h : Change setting allowed s t) (hs : s.inventory.Bounded) : t.inventory.Bounded := by
  cases h with
  | addItem change => exact hs.add _ change
  | _ => exact hs

theorem Game.invariant_bounded (limit : Nat) (avatarName : String) :
    Invariant limit avatarName (fun _ => True) fun _ state => state.inventory.Bounded where
  admits _ := Catalogue.admits_true _
  waiting _ _ _ := trivial
  gate h _ := h
  change h hchange := by
    cases hchange with
    | turn | sweep => exact h
    | act hp hscene =>
      exact keeps_of_step (I := fun s : Scene => s.inventory.Bounded)
        (fun hstep hs => hstep.bounded hs) hscene h
    | occupy hocc =>
      obtain ⟨-, -, middle, ⟨-, rfl⟩ | hm, rfl⟩ := occupy_eq_ok hocc
      · exact h
      · obtain ⟨_, _, _, _, _, -, -, -, -, rfl⟩ := enterRoom_eq_ok hm
        exact h

/-! ## An idle evaluation -/

/-- The game, with what lies on the avatar's cell gathered. -/
def Game.gathered (g : Game) : Game :=
  let items := g.world.rooms.itemsOn g.world.sprites g.state.location
  { g with
    world := { g.world with
      rooms := g.world.rooms.gathered g.world.sprites g.state.location }
    state := { g.state with
      inventory := g.state.inventory.gather (items.map Tile.sprite)
      bookmarks := g.state.bookmarks.forget (g.world.rooms.removedIds ++ items.map Tile.id) } }

/-- Once all is gathered there is nothing left to gather. -/
theorem Game.gathered_gathered (g : Game) : g.gathered.gathered = g.gathered := by
  have hitems : g.gathered.world.rooms.itemsOn g.gathered.world.sprites g.gathered.state.location =
      [] := Rooms.itemsOn_gathered ..
  have hmarks : g.gathered.world.rooms.removedIds = [] := Rooms.removedIds_gathered ..
  have hrooms := Rooms.gathered_of_clean hmarks hitems
  rw [gathered, hitems, hmarks, hrooms]
  simp [Inventory.gather]

/-- Once the items on the avatar's cell are taken and swept, they are gathered. -/
theorem Game.sweep_gathered {g : Game} (hlocated : Located g.world g.state) :
    (g.absorb ((g.scene g.state.location).gathered g.world.sprites)).sweep = g.gathered := by
  obtain ⟨r, hr, -⟩ := hlocated
  have hrooms := g.world.rooms.sweep_mark_collects g.world.sprites g.state.location
  have hmarks := g.state.bookmarks.forget_mark_collects (l := g.state.location) g.world.sprites hr
  unfold gathered
  dsimp only
  rw [← hrooms, ← hmarks]
  rfl

/-- A cell that the avatar is on is occupied already. -/
theorem Game.occupy_self {g : Game} (hgrid : InGrid g.world g.state) (avatarName : String) :
    g.occupy avatarName g.state.location = .ok (false, g) := by
  have hcell : g.world.dimensions.containsCell g.state.location.x g.state.location.y = true :=
    hgrid
  have hroom : g.state.location.room = g.state.room := rfl
  unfold occupy
  simp only [hcell, hroom, ne_eq, not_true_eq_false, decide_false, if_false]
  rfl

namespace Session

variable {s : Session}

/-- The session, with what lies on the avatar's cell gathered, and if a dialog shows, the touch
ended. -/
def gathered (s : Session) : Session :=
  settlePointer { s with game := s.game.gathered }

@[simp] theorem gathered_game (s : Session) : s.gathered.game = s.game.gathered :=
  settlePointer_game _

/-- No action comes up in an idle evaluation that stays on the avatar's cell. -/
theorem dispatchesInMove_none
    (hstep : s.game.state.location.step? s.game.world.dimensions none =
      some s.game.state.location) : s.dispatchesInMove none = [] := by
  unfold dispatchesInMove
  rw [hstep]
  split
  · rename_i hsome _
    cases hsome
    exact Setting.dispatchesAtCell_self (decide_eq_true rfl)
  · rfl

/-- Where the room can be drawn, an encounter on the avatar's cell takes the items there. -/
theorem encounter_self (hdraw : Drawable s.avatarName s.game.world s.game.state)
    (palette : Palette) : s.encounter palette s.game.state.location =
      (.ok (s.standing s.game.state.location),
        (s.game.scene s.game.state.location).gathered s.game.world.sprites) := by
  obtain ⟨r, hr, -⟩ := hdraw.located
  have hself : (s.game.scene s.game.state.location).targetIs
      (s.game.state.avatar.x, s.game.state.avatar.y) = true := decide_eq_true rfl
  rw [standing, hself]
  exact Setting.meetCell_self hself hr (hdraw.tiles r (Option.mem_toList.mpr hr))

/-- A course on the avatar's cell gathers what lies there, where the room can be drawn. -/
theorem Course.gathers {r : Except Halt MoveResult × Session} (h : Course s none r)
    (hdraw : Drawable s.avatarName s.game.world s.game.state)
    (hgrid : InGrid s.game.world s.game.state)
    (hstep : s.game.state.location.step? s.game.world.dimensions none =
      some s.game.state.location) :
    r = (.ok (if (s.standing s.game.state.location).passable then .moved false else .blocked),
      s.gathered) := by
  have hmet : ∀ {target palette result scene},
      s.game.state.location.step? s.game.world.dimensions none = some target →
      s.encounter palette target = (result, scene) →
      result = .ok (s.standing s.game.state.location) ∧ s.sweepAfter scene = s.gathered ∧
        scene.target = s.game.state.location := by
    intro target palette result scene htarget hmeet
    obtain rfl := Option.some.inj (hstep.symm.trans htarget)
    cases (encounter_self hdraw palette).symm.trans hmeet
    refine ⟨rfl, ?_, rfl⟩
    rw [sweepAfter, Game.sweep_gathered hdraw.located, gathered]
  have hstill : s.gathered.game.occupy s.avatarName s.game.state.location =
      .ok (false, s.gathered.game) := by
    rw [gathered_game]
    exact Game.occupy_self (g := s.game.gathered) hgrid s.avatarName
  cases h with
  | leftWorld hnone => cases hstep.symm.trans hnone
  | unpainted _ hp =>
    obtain ⟨palette, hp'⟩ := hdraw.located.palette?
    cases hp'.symm.trans hp
  | halted htarget _ hmeet => cases (hmet htarget hmeet).1
  | blocked htarget _ hmeet hpass =>
    obtain ⟨hresult, hswept, -⟩ := hmet htarget hmeet
    cases hresult
    rw [hpass, hswept]
    rfl
  | refused htarget _ hmeet _ hocc =>
    obtain ⟨-, hswept, hat⟩ := hmet htarget hmeet
    rw [hswept, hat, hstill] at hocc
    cases hocc
  | moved htarget _ hmeet hpass hocc =>
    obtain ⟨hresult, hswept, hat⟩ := hmet htarget hmeet
    cases hresult
    rw [hswept, hat, hstill] at hocc
    cases hocc
    rw [hpass, hswept]
    rfl

/-- An idle evaluation that stays on the avatar's cell gathers what lies there, where the room can
be drawn. -/
theorem move_none_eq (hdraw : Drawable s.avatarName s.game.world s.game.state)
    (hgrid : InGrid s.game.world s.game.state)
    (hstep : s.game.state.location.step? s.game.world.dimensions none =
      some s.game.state.location) :
    s.move none =
      (.ok (if (s.standing s.game.state.location).passable then .moved false else .blocked),
        s.gathered) := by
  have hcourse : Course s none (tryMove none s) := s.course_tryMove none
  rw [move, undoing, hcourse.gathers hdraw hgrid hstep]

theorem gathered_of_showing (h : s.dialogShowing = true) :
    s.gathered = { s with game := s.game.gathered, controls := s.controls.cancel } :=
  if_pos h

theorem gathered_of_not_showing (h : s.dialogShowing = false) :
    s.gathered = { s with game := s.game.gathered } :=
  if_neg (ne_true_of_eq_false h)

/-- Once all is gathered there is nothing left to gather. -/
theorem gathered_gathered (s : Session) : s.gathered.gathered = s.gathered := by
  cases hs : s.dialogShowing with
  | true =>
    have hstill : Session.dialogShowing
        { s with game := s.game.gathered, controls := s.controls.cancel } = true := hs
    rw [gathered_of_showing hs, gathered_of_showing hstill, Game.gathered_gathered]
    rfl
  | false =>
    have hstill : Session.dialogShowing { s with game := s.game.gathered } = false := hs
    rw [gathered_of_not_showing hs, gathered_of_not_showing hstill, Game.gathered_gathered]

/-! ## Along a run -/

theorem bounded_start {w : World} {config : Config} {stage : Stage} {s : Session}
    (h : start w config stage = .ok s) : s.game.state.inventory.Bounded := by
  unfold start at h
  split at h
  · cases h
  · obtain ⟨game, hgame, h⟩ := bind_eq_ok.mp h
    cases h
    obtain ⟨_, _, _, _, _, -, -, -, -, rfl⟩ := Game.enterRoom_eq_ok hgame
    exact fun item => Nat.zero_le _

variable {dimensions : Dimensions} {sprites : List Sprite} {palettes : List Palette}
  {rooms : Rooms} {config : Config} {stage : Stage} {s₀ : Session} {es : List Episode}

/-- Along a run an idle evaluation stays on the avatar's cell, if that is a cell of a room of the
grid, and gathers what lies there. -/
theorem move_none_of_run
    (hstart : start (.ofParts dimensions sprites palettes rooms) config stage = .ok s₀)
    (hrun : Run s₀ es s) (hproper : s.game.world.dimensions.improper? = none)
    (hgrid : InGrid s.game.world s.game.state) (hsmall : s.game.state.room < 2 ^ 31)
    (hroom : s.game.state.room < s.game.world.dimensions.roomCount) :
    s.game.state.location.step? s.game.world.dimensions none = some s.game.state.location ∧
      s.move none =
        (.ok (if (s.standing s.game.state.location).passable then .moved false else .blocked),
          s.gathered) := by
  have hcell : s.game.world.dimensions.containsCell s.game.state.location.x
      s.game.state.location.y = true := hgrid
  have hstep := (step?_none_eq_some_iff (Dimensions.proper_iff.mpr hproper) hsmall hcell).mpr
    hroom
  exact ⟨hstep, move_none_eq (drawable_of_run hstart hrun) hgrid hstep⟩

/-- What an idle evaluation does along a run from the start of a session, where the avatar
stands on a cell of a room of the grid. No action comes up in it. It succeeds, and gathers what
lies on the avatar's cell: each item there counts as one, up to the greatest count, and leaves
its room with all tiles that were marked and with their bookmarks. It ends at a wall just if one
stands on the cell, and else the avatar has moved to where it was. Only under a dialog it changes
the controls. A second one changes nothing. -/
theorem gathered_of_run
    (hstart : start (.ofParts dimensions sprites palettes rooms) config stage = .ok s₀)
    (hrun : Run s₀ es s) (hproper : s.game.world.dimensions.improper? = none)
    (hgrid : InGrid s.game.world s.game.state) (hsmall : s.game.state.room < 2 ^ 31)
    (hroom : s.game.state.room < s.game.world.dimensions.roomCount) :
    Episode.dispatches ⟨s, .move none⟩ = [] ∧
    (∃ result, s.move none = (.ok result, s.gathered) ∧
      (result = .blocked ↔
        s.game.world.rooms.Walled s.game.world.sprites s.game.state.location) ∧
      (¬s.game.world.rooms.Walled s.game.world.sprites s.game.state.location →
        result = .moved false)) ∧
    (∀ item, s.gathered.game.state.inventory.count item =
      min (s.game.state.inventory.count item +
        ((s.game.world.rooms.itemsOn s.game.world.sprites s.game.state.location).map
          Tile.sprite).count item) Inventory.maxCount) ∧
    (s.dialogShowing = false → s.gathered.controls = s.controls) ∧
    (s.gathered.move none).2 = s.gathered := by
  obtain ⟨hstep, hmove⟩ := move_none_of_run hstart hrun hproper hgrid hsmall hroom
  have hwalled : (s.standing s.game.state.location).passable = false ↔
      s.game.world.rooms.Walled s.game.world.sprites s.game.state.location :=
    passable_ofRoles_rolesOn
  refine ⟨dispatchesInMove_none hstep, ⟨_, hmove, ?_, ?_⟩, fun item => ?_, fun hs => ?_, ?_⟩
  · rw [← hwalled]
    cases (s.standing s.game.state.location).passable <;> simp
  · intro hfree
    rw [← hwalled, Bool.not_eq_false] at hfree
    rw [hfree]
    rfl
  · rw [gathered_game]
    exact Inventory.count_gather
      ((Game.invariant_bounded _ _).steps (bounded_start hstart) hrun.steps item) _
  · rw [gathered_of_not_showing hs]
  · -- the first evaluation is a call of the run, so the second one gathers as well
    have hcall : (s.call (.move none)).2 = s.gathered := congrArg Prod.snd hmove
    have hrun' := hrun.call (.move none) (by rw [call, hmove]; simp [Except.map])
    rw [hcall] at hrun'
    have hagain := move_none_of_run hstart hrun' (by rwa [gathered_game]) (by rwa [gathered_game])
      (by rwa [gathered_game]) (by rwa [gathered_game])
    rw [hagain.2, gathered_gathered]

/-- Two rooms of one cell, with two coins under a walker in the first one, and another coin in
the second one. -/
def hoard : World :=
  .ofParts (.ofGrid 1 1 2 1 false false)
    [{ plainSprite "walker" with isAvatar := true }, { plainSprite "coin" with isItem := true }]
    [⟨"day", []⟩]
    [⟨"day", [⟨⟨0⟩, "walker", 0, 0, false⟩, ⟨⟨1⟩, "coin", 0, 0, false⟩,
        ⟨⟨2⟩, "coin", 0, 0, false⟩]⟩,
      ⟨"day", [⟨⟨3⟩, "coin", 0, 0, false⟩]⟩]

/-- The start of a session on the hoard. -/
def atHoard : Session where
  config := .default
  avatarName := "walker"
  game :=
    let walker : Sprite := { plainSprite "walker" with isAvatar := true }
    let coin : Sprite := { plainSprite "coin" with isItem := true }
    let stage := (Stage.ofPageChars 40).tell
      (Game.entryNotices [walker, coin, coin] walker ⟨"day", []⟩)
    ⟨hoard, .ofLocation ⟨0, 0, 0⟩, stage, .ofSeed 0⟩
  controls := .ofThreshold Config.default.swipeThreshold
  clock := .start Config.default.frameInterval Config.default.inputInterval 12

/-- The walker takes the two coins from under itself, and leaves the one in the other room. -/
theorem gathered_of_run_hoard :
    start hoard .default (.ofPageChars 40) = .ok atHoard ∧
      hoard.dimensions.improper? = none ∧ InGrid atHoard.game.world atHoard.game.state ∧
      atHoard.game.state.room < hoard.dimensions.roomCount ∧
      Episode.dispatches ⟨atHoard, .move none⟩ = [] ∧
      (∃ result, atHoard.move none = (.ok result, atHoard.gathered)) ∧
      atHoard.gathered.game.state.inventory.count "coin" = 2 ∧
      atHoard.gathered.game.world.rooms.ids = [⟨0⟩, ⟨3⟩] ∧
      (atHoard.gathered.move none).2 = atHoard.gathered := by
  have hstart : start hoard .default (.ofPageChars 40) = .ok atHoard := rfl
  have hgrid : InGrid atHoard.game.world atHoard.game.state := rfl
  obtain ⟨hnothing, ⟨result, hmove, -⟩, hcount, -, hagain⟩ :=
    gathered_of_run hstart .nil (by decide) hgrid (by decide) (by decide)
  exact ⟨hstart, by decide, hgrid, by decide, hnothing, ⟨result, hmove⟩,
    (hcount "coin").trans (by decide), by decide, hagain⟩

/-- Under the dialog of the sign at the crossing a touch has begun. An idle evaluation ends it,
so that lifting it then does not confirm the dialog, as it would have done. -/
theorem touch_ended_by_idling :
    start crossing .default (.ofPageChars 40) = .ok atCrossing ∧
      ∃ es s, Run atCrossing es s ∧ s.game.world.dimensions.improper? = none ∧
        InGrid s.game.world s.game.state ∧
        s.game.state.room < s.game.world.dimensions.roomCount ∧
        s.dialogShowing = true ∧ s.controls.pointer.isDown = true ∧
        (s.move none).1 = .ok (.moved false) ∧
        (s.move none).2.controls.pointer.isDown = false ∧
        (s.handle .lift).2.dialogShowing = false ∧
        ((s.move none).2.handle .lift).2.dialogShowing = true := by
  have hsecond : Run atCrossing _ _ := .call (.move (some .right)) .nil (by decide)
  have hdialog := hsecond.call (.move (some .right)) (by decide)
  have htouch := hdialog.call (.handle (.touch ⟨0, 0⟩)) (by decide)
  exact ⟨start_crossing, _, _, htouch, by decide, rfl, by decide, rfl, rfl, rfl, rfl, rfl,
    rfl⟩

end Session

end TileAdventure
