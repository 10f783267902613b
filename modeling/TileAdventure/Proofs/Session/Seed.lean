import TileAdventure.Proofs.Session.Drain

/-!
# What the seed decides

The random words serve the shuffles only. In a world that never shuffles, two sessions that
differ in the seed and the stream of random words (`Session.Twin`) stay so through every
evaluation and every call, and their results are the same (`Session.Twin.call`). A failed
evaluation goes back to the same state in both, though the stream never goes back. So the seed
decides nothing that can be seen of a session: neither the results of the calls nor the world,
the state of play and the stage that they leave (`Session.sights_of_seed`).
-/

namespace TileAdventure

/-! ## Scenes and games with other random words -/

/-- The scene with another stream of random words. -/
def Scene.withRandom (s : Scene) (random : Random.Stream) : Scene :=
  { s with random }

theorem Scene.alike_withRandom (s : Scene) (random : Random.Stream) :
    s.Alike Eq [] [] (s.withRandom random) :=
  ⟨rfl, rfl, rfl, rfl, rfl, ⟨s.gate.queue, rfl, rfl⟩, rfl⟩

theorem Scene.Alike.eq_withRandom {s t : Scene} (h : s.Alike Eq [] [] t) :
    t = s.withRandom t.random := by
  obtain ⟨hrooms, hinventory, hbookmarks, htarget, hshowing, ⟨later, hs, ht⟩, hstage⟩ := h
  have hgate : t.gate = s.gate := by
    rw [show t.gate = ⟨t.gate.showing, t.gate.queue⟩ from rfl, hshowing, ht, ← hs]
  unfold withRandom
  rw [← hrooms, ← hinventory, ← hbookmarks, ← htarget, ← hgate, hstage]

namespace Game

/-- The game with another stream of random words. -/
def withRandom (g : Game) (random : Random.Stream) : Game :=
  { g with random }

variable (g : Game) (random : Random.Stream)

@[simp] theorem world_withRandom : (g.withRandom random).world = g.world := rfl

@[simp] theorem state_withRandom : (g.withRandom random).state = g.state := rfl

@[simp] theorem palette?_withRandom : (g.withRandom random).palette? = g.palette? := rfl

@[simp] theorem room?_withRandom (room : Nat) :
    (g.withRandom random).room? room = g.room? room := rfl

@[simp] theorem sprite?_withRandom (name : String) :
    (g.withRandom random).sprite? name = g.sprite? name := rfl

@[simp] theorem tell_withRandom (notices : List Notice) :
    (g.withRandom random).tell notices = (g.tell notices).withRandom random := rfl

@[simp] theorem sprites?_withRandom (tiles : List Tile) :
    (g.withRandom random).sprites? tiles = g.sprites? tiles := by
  induction tiles with
  | nil => rfl
  | cons tile tiles ih => rw [sprites?, sprites?, ih, sprite?_withRandom]

/-- Entering a room draws no words. -/
theorem enterRoom_withRandom (avatarName : String) (room : Nat) :
    (g.withRandom random).enterRoom avatarName room =
      (g.enterRoom avatarName room).map (·.withRandom random) := by
  unfold enterRoom
  simp only [room?_withRandom, world_withRandom, sprite?_withRandom, sprites?_withRandom, bind,
    Except.bind]
  cases g.room? room with
  | error f => rfl
  | ok r =>
    dsimp only
    cases g.world.palette? r.palette with
    | none => rfl
    | some palette =>
      cases g.sprite? avatarName with
      | error f => rfl
      | ok avatar =>
        dsimp only
        cases g.sprites? r.tiles <;> rfl

/-- Occupying a cell draws no words. -/
theorem occupy_withRandom (avatarName : String) (target : Location) :
    (g.withRandom random).occupy avatarName target =
      (g.occupy avatarName target).map fun (entered, g) => (entered, g.withRandom random) := by
  unfold occupy
  rw [enterRoom_withRandom, world_withRandom, state_withRandom]
  split
  · rfl
  · dsimp only
    split
    · cases g.enterRoom avatarName target.room <;> rfl
    · rfl

theorem drawTiles_withRandom (frame : Nat) (tiles : List Tile) :
    (g.withRandom random).drawTiles frame tiles =
      ((g.drawTiles frame tiles).1, (g.drawTiles frame tiles).2.withRandom random) := by
  induction tiles generalizing g with
  | nil => rfl
  | cons tile tiles ih =>
    rw [drawTiles, drawTiles, sprite?_withRandom]
    cases g.sprite? tile.sprite with
    | error f => rfl
    | ok sprite =>
      dsimp only
      rw [tell_withRandom]
      split
      · exact ih g
      · exact ih (g.tell _)

/-- Drawing a picture draws no words. -/
theorem draw_withRandom (avatarName : String) (frame : Nat) :
    (g.withRandom random).draw avatarName frame =
      ((g.draw avatarName frame).1, (g.draw avatarName frame).2.withRandom random) := by
  unfold draw
  simp only [palette?_withRandom, room?_withRandom, state_withRandom, tell_withRandom,
    drawTiles_withRandom]
  cases g.palette? with
  | error f => rfl
  | ok palette =>
    cases g.room? g.state.room with
    | error f => rfl
    | ok room =>
      dsimp only
      rcases (g.tell [.drawBackground palette]).drawTiles frame room.tiles with ⟨f | _, g⟩
      · rfl
      · dsimp only
        rw [sprite?_withRandom]
        cases g.sprite? avatarName <;> rfl

end Game

namespace Session

/-! ## Twins -/

/-- The session with another seed and another stream of random words. -/
def reseed (s : Session) (seed : Random.Seed) (random : Random.Stream) : Session :=
  { s with config := { s.config with seed }, game := s.game.withRandom random }

@[simp] theorem dialogShowing_reseed (s : Session) (seed : Random.Seed) (random : Random.Stream) :
    (s.reseed seed random).dialogShowing = s.dialogShowing := rfl

/-- The sessions differ in the seed and the stream of random words. -/
def Twin (s t : Session) : Prop :=
  ∃ seed random, t = s.reseed seed random

/-- The attempts end in the same way, in sessions that are twins. -/
def EndTwin {α : Type} (attempt other : α × Session) : Prop :=
  other.1 = attempt.1 ∧ Twin attempt.2 other.2

variable {s t : Session} {d : Deferred}

theorem Twin.endTwin {α : Type} (h : Twin s t) (result : α) : EndTwin (result, s) (result, t) :=
  ⟨rfl, h⟩

theorem EndTwin.map {α β : Type} {attempt other : Except Halt α × Session}
    (h : EndTwin attempt other) (f : α → β) :
    EndTwin (attempt.1.map f, attempt.2) (other.1.map f, other.2) :=
  ⟨congrArg (Except.map f) h.1, h.2⟩

namespace Twin

theorem dialogShowing (h : Twin s t) : t.dialogShowing = s.dialogShowing := by
  obtain ⟨seed, random, rfl⟩ := h
  rfl

theorem palette? (h : Twin s t) : t.game.palette? = s.game.palette? := by
  obtain ⟨seed, random, rfl⟩ := h
  rfl

theorem withGate (h : Twin s t) (gate : Gate) : Twin (s.withGate gate) (t.withGate gate) := by
  obtain ⟨seed, random, rfl⟩ := h
  exact ⟨seed, random, rfl⟩

theorem turn (h : Twin s t) (direction : Option Direction) :
    Twin (s.turn direction) (t.turn direction) := by
  obtain ⟨seed, random, rfl⟩ := h
  refine ⟨seed, random, ?_⟩
  unfold Session.turn
  cases direction.bind Direction.facing? <;> rfl

theorem settlePointer (h : Twin s t) : Twin s.settlePointer t.settlePointer := by
  obtain ⟨seed, random, rfl⟩ := h
  refine ⟨seed, random, ?_⟩
  unfold Session.settlePointer
  rw [dialogShowing_reseed]
  split <;> rfl

theorem absorb (h : Twin s t) {scene other : Scene} (halike : scene.Alike Eq [] [] other) :
    Twin (s.absorb scene) (t.absorb other) := by
  obtain ⟨seed, random, rfl⟩ := h
  rw [halike.eq_withRandom]
  exact ⟨seed, other.random, rfl⟩

theorem sweepAfter (h : Twin s t) {scene other : Scene} (halike : scene.Alike Eq [] [] other) :
    Twin (s.sweepAfter scene) (t.sweepAfter other) := by
  refine settlePointer ?_
  obtain ⟨seed, random, rfl⟩ := h
  rw [halike.eq_withRandom]
  exact ⟨seed, other.random, rfl⟩

/-- A cell is occupied, or refused, in both. -/
theorem occupy (h : Twin s t) (target : Location) :
    (∃ f, s.game.occupy s.avatarName target = .error f ∧
        t.game.occupy t.avatarName target = .error f) ∨
      ∃ entered game game', s.game.occupy s.avatarName target = .ok (entered, game) ∧
        t.game.occupy t.avatarName target = .ok (entered, game') ∧
        Twin { s with game } { t with game := game' } := by
  obtain ⟨seed, random, rfl⟩ := h
  have hoccupy : (s.reseed seed random).game.occupy (s.reseed seed random).avatarName target =
      _ := s.game.occupy_withRandom random s.avatarName target
  rw [hoccupy]
  cases s.game.occupy s.avatarName target with
  | error f => exact Or.inl ⟨f, rfl, rfl⟩
  | ok r => exact Or.inr ⟨r.1, r.2, r.2.withRandom random, rfl, rfl, seed, random, rfl⟩

/-! ## Evaluations -/

/-- The scenes for an action differ in the random words only. -/
theorem alike_scene (h : Twin s t) (target : Location) :
    (s.game.scene target).Alike Eq [] [] (t.game.scene target) := by
  obtain ⟨seed, random, rfl⟩ := h
  exact Scene.alike_withRandom _ random

theorem parallel_eq : Stage.Parallel Eq :=
  ⟨fun _ h => h ▸ rfl, fun _ _ h => h ▸ rfl⟩

theorem resumption (h : Twin s t) (hnever : s.game.world.sprites.NeverShuffles)
    (hd : d.action.Unshuffled) (palette : Palette) :
    EndAlike Eq [] [] (s.resumption palette d) (t.resumption palette d) := by
  have halike := h.alike_scene d.target
  obtain ⟨seed, random, rfl⟩ := h
  exact Setting.endAlike_perform parallel_eq hnever _ hd _ _ halike

theorem encounter (h : Twin s t) (hnever : s.game.world.sprites.NeverShuffles)
    (palette : Palette) (target : Location) :
    EndAlike Eq [] [] (s.encounter palette target) (t.encounter palette target) := by
  have halike := h.alike_scene target
  obtain ⟨seed, random, rfl⟩ := h
  exact Setting.endAlike_meetCell parallel_eq hnever _ halike

theorem tryResume (h : Twin s t) (hnever : s.game.world.sprites.NeverShuffles)
    (hd : d.action.Unshuffled) : EndTwin (Session.tryResume d s) (Session.tryResume d t) := by
  cases hp : s.game.palette? with
  | error f =>
    rw [tryResume_of_failure hp, tryResume_of_failure (h.palette?.trans hp)]
    exact h.endTwin _
  | ok palette =>
    rw [tryResume_of_palette hp, tryResume_of_palette (h.palette?.trans hp)]
    obtain ⟨result, scene, other, hs, ht, halike⟩ := h.resumption hnever hd palette
    rw [hs, ht]
    exact (h.absorb halike).endTwin _

theorem tryMove (h : Twin s t) (hnever : s.game.world.sprites.NeverShuffles)
    (direction : Option Direction) :
    EndTwin (Session.tryMove direction s) (Session.tryMove direction t) := by
  have hturned : (s.turn direction).game.world.sprites.NeverShuffles := by
    obtain ⟨facing, hturn⟩ := s.turn_eq direction
    rw [hturn]
    exact hnever
  have h := h.turn direction
  unfold Session.tryMove
  generalize s.turn direction = s at h hturned ⊢
  generalize t.turn direction = t at h ⊢
  have hstep : t.game.state.location.step? t.game.world.dimensions direction =
      s.game.state.location.step? s.game.world.dimensions direction := by
    obtain ⟨seed, random, rfl⟩ := h
    rfl
  dsimp only
  rw [hstep]
  cases s.game.state.location.step? s.game.world.dimensions direction with
  | none => exact h.endTwin _
  | some target =>
    dsimp only
    cases hp : s.game.palette? with
    | error f =>
      rw [Game.inScene_of_failure hp, Game.inScene_of_failure (h.palette?.trans hp)]
      exact h.endTwin _
    | ok palette =>
      rw [Game.inScene_of_palette hp, Game.inScene_of_palette (h.palette?.trans hp)]
      obtain ⟨result, scene, other, hs, ht, halike⟩ := h.encounter hturned palette target
      unfold Session.encounter at hs ht
      rw [hs, ht]
      cases result with
      | error halt => exact (h.absorb halike).endTwin _
      | ok met =>
        have hswept := h.sweepAfter halike
        unfold Session.sweepAfter at hswept
        dsimp only
        cases met.passable with
        | false => exact hswept.endTwin _
        | true =>
          rw [halike.target]
          rcases hswept.occupy scene.target with
            ⟨f, hocc, hocc'⟩ | ⟨entered, game, game', hocc, hocc', hoccupied⟩
          · rw [hocc, hocc']
            exact hswept.endTwin _
          · rw [hocc, hocc']
            exact hoccupied.endTwin _

theorem attempt (h : Twin s t) (hnever : s.game.world.sprites.NeverShuffles)
    {evaluation : Evaluation} (hd : ∀ d ∈ evaluation.resumed?, d.action.Unshuffled) :
    EndTwin (evaluation.attempt s) (evaluation.attempt t) := by
  cases evaluation with
  | move direction => exact (h.tryMove hnever direction).map some
  | resume d => exact (h.tryResume hnever (hd d rfl)).map fun _ => none

/-- What fails in one fails in the other, and both go back. -/
theorem undoing (h : Twin s t) {α : Type} {evaluate : Session → Except Halt α × Session}
    (hattempt : EndTwin (evaluate s) (evaluate t)) :
    EndTwin (s.undoing evaluate) (t.undoing evaluate) := by
  unfold Session.undoing
  generalize evaluate s = attempt at hattempt ⊢
  generalize evaluate t = other at hattempt ⊢
  obtain ⟨result, s'⟩ := attempt
  obtain ⟨result', t'⟩ := other
  obtain ⟨hresult, hafter⟩ := hattempt
  obtain rfl : result' = result := hresult
  rcases result' with (f | _) | a
  · obtain ⟨seed, random, rfl⟩ := h
    obtain ⟨seed', random', rfl⟩ : Twin s' t' := hafter
    exact ⟨rfl, seed', random', rfl⟩
  · exact hafter.endTwin _
  · exact hafter.endTwin _

theorem episode (h : Twin s t) (hnever : s.game.world.sprites.NeverShuffles)
    (evaluation : Evaluation) (hd : ∀ d ∈ evaluation.resumed?, d.action.Unshuffled) :
    EndTwin (Episode.result ⟨s, evaluation⟩, Episode.after ⟨s, evaluation⟩)
      (Episode.result ⟨t, evaluation⟩, Episode.after ⟨t, evaluation⟩) :=
  h.undoing (h.attempt hnever hd)

/-! ## Calls -/

theorem drain (h : Twin s t) (horderly : Orderly s.game.world s.game.state) (n : Nat)
    (first : Option Failure) : EndTwin (Session.drain n first s) (Session.drain n first t) := by
  induction n generalizing first s t with
  | zero => exact h.endTwin _
  | succ n ih =>
    have hnext' : t.game.state.gate.next? = s.game.state.gate.next? := by
      obtain ⟨seed, random, rfl⟩ := h
      rfl
    cases hnext : s.game.state.gate.next? with
    | none =>
      rw [drain_of_next?_eq_none hnext, drain_of_next?_eq_none (hnext'.trans hnext)]
      exact h.endTwin _
    | some next =>
      obtain ⟨d, gate⟩ := next
      have hd : d.action.Unshuffled :=
        horderly.waiting d (by simp [(Gate.next?_eq_some hnext).2.2])
      obtain ⟨hresult, hafter⟩ := (h.withGate gate).episode horderly.sprites (.resume d)
        (by rintro _ ⟨⟩; exact hd)
      have hresult : Episode.result ⟨t.withGate gate, .resume d⟩ =
          Episode.result ⟨s.withGate gate, .resume d⟩ := hresult
      have hfailure : Episode.failure? ⟨t.withGate gate, .resume d⟩ =
          Episode.failure? ⟨s.withGate gate, .resume d⟩ := by
        unfold Episode.failure?
        rw [hresult]
      rw [drain_succ hnext, drain_succ (hnext'.trans hnext)]
      dsimp only
      rw [hresult, hfailure]
      split
      · exact hafter.endTwin _
      · exact ih hafter ((invariant_orderly _ _).after horderly (.resume hnext)) _

theorem confirm (h : Twin s t) (horderly : Orderly s.game.world s.game.state) :
    EndTwin s.confirm t.confirm := by
  have hcomplete : t.game.stage.pager.isComplete = s.game.stage.pager.isComplete := by
    obtain ⟨seed, random, rfl⟩ := h
    rfl
  have hqueue : t.game.state.gate.queue = s.game.state.gate.queue := by
    obtain ⟨seed, random, rfl⟩ := h
    rfl
  have hended : Twin s.endDialog t.endDialog := by
    obtain ⟨seed, random, rfl⟩ := h
    exact ⟨seed, random, rfl⟩
  have hdrained := hended.drain ⟨horderly.sprites, horderly.waiting⟩
    s.game.state.gate.queue.length none
  unfold Session.confirm
  rw [h.dialogShowing, hcomplete, hqueue]
  split
  · exact h.endTwin _
  split
  · obtain ⟨seed, random, rfl⟩ := h
    exact ⟨rfl, seed, random, rfl⟩
  · generalize Session.drain _ none s.endDialog = r at hdrained ⊢
    generalize Session.drain _ none t.endDialog = r' at hdrained ⊢
    obtain ⟨result, s'⟩ := r
    obtain ⟨result', t'⟩ := r'
    obtain ⟨hresult, hafter⟩ := hdrained
    obtain rfl : result' = result := hresult
    rcases result' with halt | _ | f
    · exact hafter.endTwin _
    · exact hafter.settlePointer.endTwin _
    · exact hafter.settlePointer.endTwin _

theorem withControls (h : Twin s t) (controls : Controls) :
    Twin { s with controls } { t with controls } := by
  obtain ⟨seed, random, rfl⟩ := h
  exact ⟨seed, random, rfl⟩

theorem resetInput (h : Twin s t) : Twin s.resetInput t.resetInput := by
  obtain ⟨seed, random, rfl⟩ := h
  exact ⟨seed, random, rfl⟩

theorem controls_eq (h : Twin s t) : t.controls = s.controls := by
  obtain ⟨seed, random, rfl⟩ := h
  rfl

theorem handle (h : Twin s t) (horderly : Orderly s.game.world s.game.state) (input : Input) :
    EndTwin (s.handle input) (t.handle input) := by
  unfold Session.handle
  rw [h.controls_eq]
  cases input with
  | keyDown key repeated =>
    cases repeated with
    | true => exact h.endTwin _
    | false =>
      dsimp only
      rw [h.dialogShowing]
      split
      · split
        · exact h.confirm horderly
        · exact h.endTwin _
      · exact (h.withControls _).resetInput.endTwin _
  | keyUp key => exact (h.withControls _).endTwin _
  | touch point => exact (h.withControls _).resetInput.endTwin _
  | drag point => exact (h.withControls _).endTwin _
  | lift =>
    dsimp only
    rw [h.dialogShowing]
    rcases s.controls.lift s.dialogShowing with ⟨lift, controls⟩
    have h := h.withControls controls
    cases lift with
    | notDown => exact h.endTwin _
    | released =>
      dsimp only
      rw [h.dialogShowing]
      split
      · exact h.confirm horderly
      · exact h.endTwin _
    | replayArmed => exact h.resetInput.endTwin _

theorem evaluateInput (h : Twin s t) (hnever : s.game.world.sprites.NeverShuffles)
    (due : Bool) : EndTwin (s.evaluateInput due) (t.evaluateInput due) := by
  unfold Session.evaluateInput
  rw [h.dialogShowing, h.controls_eq]
  split
  · rcases s.controls.next with ⟨direction, controls⟩
    have h := h.withControls controls
    exact (h.undoing (h.tryMove hnever direction)).map some
  · exact h.endTwin _

theorem tick (h : Twin s t) (hnever : s.game.world.sprites.NeverShuffles) (elapsed : Float) :
    EndTwin (s.tick elapsed) (t.tick elapsed) := by
  have hclock : t.clock = s.clock := by
    obtain ⟨seed, random, rfl⟩ := h
    rfl
  unfold Session.tick
  rw [hclock]
  rcases s.clock.advance elapsed with ⟨due, clock⟩
  have hlater : Twin { s with clock } { t with clock } := by
    obtain ⟨seed, random, rfl⟩ := h
    exact ⟨seed, random, rfl⟩
  have heval := hlater.evaluateInput hnever due.input
  dsimp only
  generalize Session.evaluateInput { s with clock } due.input = r at heval ⊢
  generalize Session.evaluateInput { t with clock } due.input = r' at heval ⊢
  obtain ⟨result, s'⟩ := r
  obtain ⟨result', t'⟩ := r'
  obtain ⟨hresult, seed, random, hafter⟩ := heval
  obtain rfl : result' = result := hresult
  obtain rfl : t' = s'.reseed seed random := hafter
  cases result' with
  | error halt => exact ⟨rfl, seed, random, rfl⟩
  | ok move =>
    have hdraw : (s'.reseed seed random).game.draw (s'.reseed seed random).avatarName
        (s'.reseed seed random).clock.frame = _ :=
      s'.game.draw_withRandom random s'.avatarName s'.clock.frame
    dsimp only
    rw [hdraw]
    exact ⟨rfl, seed, random, rfl⟩

/-- A call has the same result in both. -/
theorem call (h : Twin s t) (horderly : Orderly s.game.world s.game.state) (c : Call) :
    EndTwin (s.call c) (t.call c) := by
  cases c with
  | handle input => exact (h.handle horderly input).map fun _ => Answer.done
  | tick elapsed => exact (h.tick horderly.sprites elapsed).map Answer.ticked
  | confirm => exact (h.confirm horderly).map fun _ => Answer.done
  | move direction =>
    exact (h.undoing (h.tryMove horderly.sprites direction)).map Answer.moved

end Twin

/-! ## What is seen -/

/-- What is seen of a session: its world, its state of play, and its stage with every notice
so far. -/
structure Sight where
  world : World
  state : PlayState
  stage : Stage

/-- What is seen of the session. -/
def sight (s : Session) : Sight :=
  ⟨s.game.world, s.game.state, s.game.stage⟩

/-- What each of the calls results in and what is seen after it. A session ends where a
sequence loses its place. -/
def sights : Session → List Call → List (Except Halt Answer × Sight)
  | _, [] => []
  | s, c :: calls =>
    ((s.call c).1, (s.call c).2.sight) ::
      if (s.call c).1 = .error .lostPlace then [] else (s.call c).2.sights calls

theorem Twin.sight (h : Twin s t) : t.sight = s.sight := by
  obtain ⟨seed, random, rfl⟩ := h
  rfl

theorem Twin.sights (h : Twin s t) (horderly : Orderly s.game.world s.game.state)
    (calls : List Call) : t.sights calls = s.sights calls := by
  induction calls generalizing s t with
  | nil => rfl
  | cons c calls ih =>
    obtain ⟨hresult, hafter⟩ := h.call horderly c
    rw [Session.sights, Session.sights, hresult, hafter.sight]
    split
    · rfl
    · rename_i hreturn
      rw [ih hafter ((invariant_orderly _ _).steps horderly (steps_call hreturn))]

/-- With another seed a session starts in the same way, with other random words. -/
theorem start_seed (w : World) (config : Config) (stage : Stage) (seed seed' : Random.Seed) :
    start w { config with seed := seed' } stage =
      (start w { config with seed } stage).map (·.reseed seed' (.ofSeed seed')) := by
  unfold start
  cases avatarSprite? w with
  | none => rfl
  | some avatar =>
    let location := (cellsOf w avatar.name).getLast?.getD ⟨0, 0, 0⟩
    have henter := Game.enterRoom_withRandom ⟨w, .ofLocation location, stage, .ofSeed seed⟩
      (.ofSeed seed') avatar.name location.room
    unfold Game.withRandom at henter
    dsimp only [bind, Except.bind]
    rw [henter]
    cases Game.enterRoom _ avatar.name location.room <;> rfl

/-- In a world that never shuffles the seed decides nothing that is seen. With two seeds, numbers
or whole keys, a session starts or fails to start alike, the calls of any list have the same
results, and the world, the state of play and the stage are the same after every one of them. -/
theorem sights_of_seed {w : World} (hnever : w.sprites.NeverShuffles) (config : Config)
    (stage : Stage) (seed seed' : Random.Seed) (calls : List Call) :
    (start w { config with seed } stage).map (fun s => (s.sight, s.sights calls)) =
      (start w { config with seed := seed' } stage).map
        (fun s => (s.sight, s.sights calls)) := by
  rw [start_seed w config stage seed seed']
  cases hstart : start w { config with seed } stage with
  | error f => rfl
  | ok s =>
    have htwin : Twin s (s.reseed seed' (.ofSeed seed')) := ⟨seed', .ofSeed seed', rfl⟩
    have horderly := orderly_of_run hnever hstart .nil
    dsimp only [Except.map]
    rw [htwin.sight, htwin.sights horderly]

/-- Whatever the seed, the hushed crier runs both actions of its sequence and turns into the
loud one, which speaks at the third push and loses the place of its sequence when that is
confirmed. -/
theorem sights_of_seed_hushed :
    (beside hushed [loud]).sprites.NeverShuffles ∧
      ∃ s t, start (beside hushed [loud]) { Config.default with seed := 1 } (.ofPageChars 40) =
          .ok s ∧
        start (beside hushed [loud]) { Config.default with seed := 2 } (.ofPageChars 40) =
          .ok t ∧
        ∃ calls, (s.sights calls).map Prod.fst =
            [.ok (.moved .blocked), .ok (.moved .blocked), .ok (.moved .blocked),
              .error .lostPlace] ∧
          s.sights calls = t.sights calls := by
  have hnever : (beside hushed [loud]).sprites.NeverShuffles := by decide
  have hsights := sights_of_seed hnever .default (.ofPageChars 40) 1 2
    [.move (some .right), .move (some .right), .move (some .right), .confirm]
  exact ⟨hnever, _, _, rfl, rfl, _, by decide, congrArg Prod.snd (Except.ok.inj hsights)⟩

end Session

end TileAdventure
