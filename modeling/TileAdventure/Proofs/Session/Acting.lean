import TileAdventure.Proofs.Acting.Course
import TileAdventure.Proofs.Session.Queue

/-!
# Evaluations as courses of acting

An evaluation acts in one scene, and what comes up there are its dispatches
(`Episode.acts`). If it is kept, the session holds what the scene has left, swept or not, and
if it failed what it held before (`Episode.after_cases`). Nothing else in a call touches
what a session holds of rooms, bookmarks and actions that wait, so what each evaluation
keeps of these, steps keep (`Steps.holds`).
-/

namespace TileAdventure

/-- What actions work on and calls pass on. -/
structure Holdings where
  rooms : Rooms
  bookmarks : Bookmarks
  waiting : List Deferred

namespace Session

/-- What actions have left in a session. -/
def holdings (s : Session) : Holdings where
  rooms := s.game.world.rooms
  bookmarks := s.game.state.bookmarks
  waiting := s.game.state.gate.queue

/-- To draw changes nothing that a session holds. -/
theorem holdings_draw (s : Session) :
    holdings { s with game := (s.game.draw s.avatarName s.clock.frame).2 } = s.holdings := by
  obtain ⟨notices, -, hdraw⟩ := s.game.draw_eq_tell s.avatarName s.clock.frame
  rw [hdraw]
  rfl

/-- What is said of the holdings after some evaluations holds along steps if it holds at the
start and evaluations keep it. -/
theorem Steps.holds {P : List Episode → Holdings → Prop} {s t : Session} {es : List Episode}
    (h : Steps s es t) (hs : P [] s.holdings)
    (hevaluate : ∀ {es u e}, Steps s es u → P es u.holdings → Begins u e →
      e.result ≠ .error .lostPlace → P (es ++ [e]) e.after.holdings) : P es t.holdings := by
  induction h with
  | refl => exact hs
  | @tail es es' t u hsteps hstep ih =>
    cases hstep with
    | evaluate hbegins hreturn => exact hevaluate hsteps ih hbegins hreturn
    | setting | finishPage | endDialog =>
      rw [List.append_nil]
      exact ih
    | draw =>
      rw [List.append_nil, holdings_draw]
      exact ih

/-- An evaluation begins with the holdings, less the action it resumes. -/
theorem Begins.holdings {s : Session} {e : Episode} (h : Begins s e) :
    e.before.holdings.rooms = s.holdings.rooms ∧
      e.before.holdings.bookmarks = s.holdings.bookmarks ∧
      s.holdings.waiting = e.evaluation.resumed?.toList ++ e.before.holdings.waiting := by
  cases h with
  | move => exact ⟨rfl, rfl, rfl⟩
  | resume hnext => exact ⟨rfl, rfl, (Gate.next?_eq_some hnext).2.2⟩

theorem Begins.world {s : Session} {e : Episode} (h : Begins s e) :
    e.before.game.world = s.game.world := by
  cases h <;> rfl

/-- The sprites are the same all along. -/
theorem Steps.sprites {s t : Session} {es : List Episode} (h : Steps s es t) :
    t.game.world.sprites = s.game.world.sprites := by
  induction h with
  | refl => rfl
  | @tail es es' t u _ hstep ih =>
    refine Eq.trans ?_ ih
    cases hstep with
    | setting | finishPage | endDialog => rfl
    | draw =>
      obtain ⟨notices, -, hdraw⟩ := t.game.draw_eq_tell t.avatarName t.clock.frame
      rw [hdraw]
      rfl
    | @evaluate e hbegins _ =>
      rw [← hbegins.world]
      have hattempt : (e.evaluation.attempt e.before).2.game.world.sprites =
          e.before.game.world.sprites := by
        rw [Game.Changes.world e.changes_attempt]
      rcases e.cases with ⟨_, -, -, hafter⟩ | ⟨_, -, -, hafter⟩ | ⟨-, -, hafter⟩
      · rw [hafter, hattempt]
      · rw [hafter, e.restore_attempt.1]
      · rw [hafter, hattempt]

/-- A session starts with the rooms of the world, without bookmarks, and nothing waits. -/
theorem holdings_start {w : World} {config : Config} {stage : Stage} {s : Session}
    (h : start w config stage = .ok s) :
    s.game.world = w ∧ s.holdings = ⟨w.rooms, .empty, []⟩ := by
  unfold start at h
  split at h
  · cases h
  · obtain ⟨game, hgame, h⟩ := bind_eq_ok.mp h
    cases h
    obtain ⟨_, _, _, _, _, -, -, -, -, rfl⟩ := Game.enterRoom_eq_ok hgame
    exact ⟨rfl, rfl⟩

end Session

/-! ## Attempts -/

/-- The session holds the rooms and the bookmarks that the scene has left, swept or not. -/
def Scene.LeftIn (scene : Scene) (s : Session) : Prop :=
  s.holdings.rooms = scene.rooms ∧ s.holdings.bookmarks = scene.bookmarks ∨
    s.holdings.rooms = scene.rooms.sweep ∧
      s.holdings.bookmarks = scene.bookmarks.forget scene.rooms.removedIds

/-- An attempt in a session is a course of acting with these dispatches. If acting halts, the
attempt does, and nowhere else it loses a place. -/
def Session.Enacts (s : Session) (placed : TileAddress → ActionPath → Action → Prop)
    (ds : List Dispatch) {α : Type} (r : Except Halt α × Session) : Prop :=
  ∃ setting target ending scene, (s.game.scene target).Acts setting placed ds ending scene ∧
    scene.LeftIn r.2 ∧ (∀ halt, ending = .error halt → r.1 = .error halt) ∧
    (r.1 = .error .lostPlace → ending = .error .lostPlace)

namespace Session

variable {placed : TileAddress → ActionPath → Action → Prop} {I : Rooms → Prop} {s : Session}

/-- An attempt that stops before any acting. -/
theorem enacts_nothing {α : Type} {r : Except Halt α} (h : r ≠ .error .lostPlace) :
    s.Enacts placed [] (r, s) :=
  ⟨s.game.setting ⟨"", []⟩ 0, s.game.state.location, .ok (), _, .refl _, Or.inl ⟨rfl, rfl⟩,
    fun _ hhalt => (nomatch hhalt), fun hlost => (h hlost).elim⟩

/-- An attempt in which acting succeeds. -/
theorem enacts_acted {setting : Setting} {target : Location} {ds : List Dispatch}
    {scene : Scene} (hacts : (s.game.scene target).Acts setting placed ds (.ok ()) scene)
    {t : Session} (hleft : scene.LeftIn t) {α : Type} {r : Except Halt α}
    (h : r ≠ .error .lostPlace) : s.Enacts placed ds (r, t) :=
  ⟨setting, target, .ok (), scene, hacts, hleft, fun _ hhalt => (nomatch hhalt),
    fun hlost => (h hlost).elim⟩

theorem leftIn_sweepAfter (s : Session) (scene : Scene) : scene.LeftIn (s.sweepAfter scene) := by
  refine Or.inr ⟨?_, ?_⟩ <;> rw [holdings, sweepAfter_game] <;> rfl

theorem Enacts.map {ds : List Dispatch} {α β : Type} {r : Except Halt α × Session}
    (h : s.Enacts placed ds r) (f : α → β) : s.Enacts placed ds (r.1.map f, r.2) := by
  obtain ⟨setting, target, ending, scene, hacts, hleft, hhalt, hlost⟩ := h
  refine ⟨setting, target, ending, scene, hacts, hleft, fun halt hending => ?_, fun h => ?_⟩
  · exact map_eq_error.mpr (hhalt halt hending)
  · exact hlost (map_eq_error.mp h)

/-- To occupy a cell changes nothing that a session holds. -/
theorem holdings_occupy {avatarName : String} {target : Location} {entered : Bool}
    {game : Game} (h : s.game.occupy avatarName target = .ok (entered, game)) :
    holdings { s with game } = s.holdings := by
  obtain ⟨-, -, middle, hm, rfl⟩ := Game.occupy_eq_ok h
  rcases hm with ⟨-, rfl⟩ | hm
  · rfl
  · obtain ⟨_, _, _, _, _, -, -, -, -, rfl⟩ := Game.enterRoom_eq_ok hm
    rfl

theorem leftIn_occupy {scene : Scene} (h : scene.LeftIn s) {target : Location}
    {entered : Bool} {game : Game}
    (hocc : s.game.occupy s.avatarName target = .ok (entered, game)) :
    scene.LeftIn { s with game } := by
  rw [Scene.LeftIn, holdings_occupy hocc]
  exact h

/-- A course of a move acts in the scene where the avatar meets the tiles of a cell. -/
theorem Course.enacts {direction : Option Direction} {r : Except Halt MoveResult × Session}
    (h : Course s direction r)
    (hplaces : ∀ palette, (s.game.setting palette s.config.depthLimit).Places placed I)
    (hs : I s.game.world.rooms) : s.Enacts placed (s.dispatchesInMove direction) r := by
  have hacts : ∀ {target palette result scene},
      s.game.state.location.step? s.game.world.dimensions direction = some target →
      s.game.palette? = .ok palette → s.encounter palette target = (result, scene) →
      (s.game.scene target).Acts (s.game.setting palette s.config.depthLimit) placed
        (s.dispatchesInMove direction) (ending (result, scene)) scene := by
    intro target palette result scene hstep hp hmeet
    have hcell : (s.game.scene target).Acts _ placed _ _ _ :=
      Setting.acts_meetCell (hplaces palette) (s.game.state.avatar.x, s.game.state.avatar.y) hs
    unfold encounter at hmeet
    rw [hmeet] at hcell
    unfold dispatchesInMove
    rw [hstep, hp]
    exact hcell
  cases h with
  | leftWorld hstep =>
    rw [dispatchesInMove, hstep]
    exact enacts_nothing (by simp)
  | unpainted hstep hp =>
    rw [dispatchesInMove, hstep, hp]
    exact enacts_nothing (by simp)
  | halted hstep hp hmeet =>
    refine ⟨_, _, _, _, hacts hstep hp hmeet, Or.inl ⟨rfl, rfl⟩, ?_, ?_⟩
    · rintro halt ⟨⟩
      rfl
    · rintro ⟨⟩
      rfl
  | blocked hstep hp hmeet | refused hstep hp hmeet =>
    exact enacts_acted (hacts hstep hp hmeet) (s.leftIn_sweepAfter _) (by simp)
  | @moved _ _ _ scene _ _ hstep hp hmeet _ hocc =>
    have hname : (s.sweepAfter scene).avatarName = s.avatarName := settlePointer_avatarName _
    rw [← hname] at hocc
    exact enacts_acted (hacts hstep hp hmeet) (leftIn_occupy (s.leftIn_sweepAfter _) hocc)
      (by simp)

/-- A resumption acts in the scene with the target of the action that waited. -/
theorem enacts_tryResume
    (hplaces : ∀ palette, (s.game.setting palette s.config.depthLimit).Places placed I)
    (hs : I s.game.world.rooms) {d : Deferred} (hd : placed d.tile d.path d.action) :
    s.Enacts placed (s.dispatchesInResumption d) (tryResume d s) := by
  unfold dispatchesInResumption
  cases hp : s.game.palette? with
  | error f =>
    rw [tryResume_of_failure hp]
    exact enacts_nothing (by simp)
  | ok palette =>
    have hrun : (s.game.scene d.target).Acts _ placed _ _ _ :=
      Setting.acts_perform (hplaces palette) 0 (s.config.depthLimit + 1) hd hs
    rw [tryResume_of_palette hp]
    dsimp only
    unfold resumption Setting.run
    refine ⟨_, _, _, _, hrun, Or.inl ⟨rfl, rfl⟩, ?_, ?_⟩
    · intro halt hhalt
      exact map_eq_error.mp hhalt
    · intro hlost
      exact map_eq_error.mpr hlost

end Session

namespace Episode

variable {placed : TileAddress → ActionPath → Action → Prop} {I : Rooms → Prop} {e : Episode}

/-- What an evaluation attempts is a course of acting with its dispatches. -/
theorem enacts_attempt
    (hplaces : ∀ palette,
      (e.before.game.setting palette e.before.config.depthLimit).Places placed I)
    (he : I e.before.game.world.rooms)
    (hresumed : ∀ d ∈ e.evaluation.resumed?, placed d.tile d.path d.action) :
    e.before.Enacts placed e.dispatches (e.evaluation.attempt e.before) := by
  obtain ⟨s, direction | d⟩ := e
  · obtain ⟨facing, hturn⟩ := s.turn_eq direction
    have hcourse := s.course_tryMove direction
    have hdispatches : Episode.dispatches ⟨s, .move direction⟩ =
        (s.turn direction).dispatchesInMove direction := rfl
    rw [hdispatches]
    rw [hturn] at hcourse ⊢
    exact (hcourse.enacts hplaces he).map some
  · exact (Session.enacts_tryResume hplaces he (hresumed d rfl)).map fun _ => none

/-- Whatever an evaluation attempts, it is a course of acting with its dispatches. -/
theorem enacts (e : Episode) :
    e.before.Enacts (fun _ _ _ => True) e.dispatches (e.evaluation.attempt e.before) :=
  enacts_attempt (fun _ => Setting.places_true _) trivial fun _ _ => trivial

/-- An evaluation that returns has failed and changed nothing, or is kept as acting left
it. -/
theorem after_cases (hreturn : e.result ≠ .error .lostPlace)
    (henacts : e.before.Enacts placed e.dispatches (e.evaluation.attempt e.before)) :
    (e.failed = true ∧ e.after.holdings = e.before.holdings) ∨
      e.failed = false ∧ ∃ setting target scene,
        (e.before.game.scene target).Acts setting placed e.dispatches (.ok ()) scene ∧
          scene.LeftIn e.after := by
  obtain ⟨setting, target, ending, scene, hacts, hleft, hhalt, -⟩ := henacts
  rcases e.cases with ⟨move, hresult, hattempt, hafter⟩ | ⟨f, hresult, -, hafter⟩ | ⟨hlost, -⟩
  · refine Or.inr ⟨by simp [failed, hresult], setting, target, scene, ?_, hafter ▸ hleft⟩
    cases ending with
    | ok => exact hacts
    | error halt => simp [hattempt] at hhalt
  · obtain ⟨hworld, hstate⟩ := e.restore_attempt
    refine Or.inl ⟨by simp [failed, hresult], ?_⟩
    simp only [Session.holdings, hafter, hworld, hstate]
  · exact (hreturn hlost).elim

/-- An action waits after an evaluation because it did before or has come up. -/
theorem mem_waiting_after (hreturn : e.result ≠ .error .lostPlace) {d : Deferred}
    (hd : d ∈ e.after.holdings.waiting) :
    d ∈ e.before.holdings.waiting ∨ ∃ x ∈ e.dispatches, x.action = d := by
  have hqueue : d ∈ e.before.game.state.gate.queue ++ e.deferrals :=
    queue_after hreturn ▸ hd
  rcases List.mem_append.mp hqueue with hd | hd
  · exact Or.inl hd
  · unfold deferrals at hd
    split at hd
    · cases hd
    · obtain ⟨x, hx, hxd⟩ := List.mem_map.mp hd
      exact Or.inr ⟨x, (List.mem_filter.mp hx).1, hxd⟩

end Episode

/-! ## A walker beside a tile -/

namespace Session

/-- A room with a walker and, to the right, a tile of the first sprite. -/
def beside (sprite : Sprite) (others : List Sprite) : World :=
  .ofParts (.ofGrid 2 1 1 1 false false)
    ({ plainSprite "walker" with isAvatar := true } :: sprite :: others) [⟨"day", []⟩]
    [⟨"day", [⟨⟨0⟩, "walker", 0, 0, false⟩, ⟨⟨1⟩, sprite.name, 1, 0, false⟩]⟩]

/-- The start of a session there. -/
def atTile (sprite : Sprite) (others : List Sprite) : Session where
  config := .default
  avatarName := "walker"
  game :=
    let walker : Sprite := { plainSprite "walker" with isAvatar := true }
    let stage := (Stage.ofPageChars 40).tell
      (Game.entryNotices [walker, sprite] walker ⟨"day", []⟩)
    ⟨beside sprite others, .ofLocation ⟨0, 0, 0⟩, stage, .ofSeed 0⟩
  controls := .ofThreshold Config.default.swipeThreshold
  clock := .start Config.default.frameInterval Config.default.inputInterval 12

end Session

end TileAdventure
