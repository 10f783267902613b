import TileAdventure.Proofs.Acting.Failure
import TileAdventure.Proofs.Session.Dialogs

/-!
# Failures of a session

A complete world stays complete in play (`Intact`): palettes, sprites and measures are as
they were, rooms keep their palettes, tiles turn only into sprites that there are, and only
grounded actions wait. So rooms can be entered (`Intact.enterRoom_ok`), cells of the world
occupied (`Intact.occupy_ok`) and rooms drawn. A session in a complete world is in order from
its start on (`start_ok`, `InOrder.steps`), and it fails only because actions are nested too
deep (`failures_of_complete`).
-/

namespace TileAdventure

/-- In play `w` is what has become of the complete world `w₀`. -/
structure Intact (w₀ w : World) (state : PlayState) : Prop where
  world : w = { w₀ with rooms := w.rooms }
  palettes : w.rooms.map Room.palette = w₀.rooms.map Room.palette
  tiles : w₀.sprites.Furnishes w.rooms
  waiting : ∀ d ∈ state.gate.queue, w₀.Grounds d.action

theorem World.Complete.intact {w : World} (hw : w.Complete) {state : PlayState}
    (h : state.gate = .idle) : Intact w w state :=
  ⟨rfl, rfl, hw.tiles, by simp [h, Gate.idle]⟩

theorem Rooms.palettes_of_layout {rooms rooms' : Rooms} (h : rooms'.layout = rooms.layout) :
    rooms'.map Room.palette = rooms.map Room.palette := by
  have hfst : rooms'.layout.map Prod.fst = rooms.layout.map Prod.fst := by rw [h]
  simpa [layout, Function.comp_def, Room.layout] using hfst

namespace Intact

variable {w₀ : World} {g : Game}

/-- Of the state of play only the actions that wait matter. -/
theorem of_gate {w : World} {state state' : PlayState} (h : Intact w₀ w state)
    (hgate : state'.gate = state.gate) : Intact w₀ w state' :=
  ⟨h.world, h.palettes, h.tiles, hgate ▸ h.waiting⟩

theorem sprites (h : Intact w₀ g.world g.state) : g.world.sprites = w₀.sprites := by
  rw [h.world]

theorem length (h : Intact w₀ g.world g.state) : g.world.rooms.length = w₀.rooms.length := by
  simpa using congrArg List.length h.palettes

theorem sweep (h : Intact w₀ g.world g.state) : Intact w₀ g.sweep.world g.sweep.state where
  world := by
    have hworld := h.world
    simp only [Game.sweep]
    rw [hworld]
  palettes := by
    rw [← h.palettes]
    simp [Game.sweep, Rooms.sweep, Function.comp_def, Room.sweep]
  tiles r hr t ht := by
    obtain ⟨r', hr', rfl⟩ := List.mem_map.mp hr
    exact h.tiles r' hr' t (List.mem_of_mem_filter ht)
  waiting := h.waiting

/-- Acting leaves a complete world intact. -/
theorem absorb (h : Intact w₀ g.world g.state) {palette : Palette} {limit : Nat}
    {target : Location} {scene : Scene}
    (hscene : Scene.Changes (g.setting palette limit) w₀.Grounds (g.scene target) scene) :
    Intact w₀ (g.absorb scene).world (g.absorb scene).state where
  world := by
    have hworld := h.world
    simp only [Game.absorb]
    rw [hworld]
  palettes := (Rooms.palettes_of_layout hscene.layout).trans h.palettes
  tiles := by
    have hsprites : (g.setting palette limit).sprites = w₀.sprites := h.sprites
    have hafter := hscene.furnished (hsprites ▸ h.tiles)
    rw [hsprites] at hafter
    exact hafter
  waiting := hscene.waiting h.waiting

/-! ## Rooms and cells -/

theorem palette?_ok (hw : w₀.Complete) (h : Intact w₀ g.world g.state) {r : Room}
    (hr : r ∈ g.world.rooms) :
    ∃ palette index, g.world.palette? r.palette = some (palette, index) := by
  have hmem : r.palette ∈ w₀.rooms.map Room.palette := by
    rw [← h.palettes]
    exact List.mem_map_of_mem hr
  obtain ⟨r₀, hr₀, hname⟩ := List.mem_map.mp hmem
  obtain ⟨⟨palette, index⟩, hp⟩ := Option.isSome_iff_exists.mp (hw.palettes r₀ hr₀)
  refine ⟨palette, index, ?_⟩
  rw [h.world, ← hname]
  exact hp

theorem sprite?_ok (h : Intact w₀ g.world g.state) {name : String}
    (hname : (w₀.sprites.find? name).isSome) : ∃ sprite, g.sprite? name = .ok sprite := by
  obtain ⟨sprite, hfind⟩ := Option.isSome_iff_exists.mp hname
  exact ⟨sprite, by rw [Game.sprite?, h.sprites, hfind]⟩

theorem sprites?_ok (h : Intact w₀ g.world g.state) {tiles : List Tile}
    (htiles : ∀ t ∈ tiles, (w₀.sprites.find? t.sprite).isSome) :
    ∃ sprites, g.sprites? tiles = .ok sprites := by
  induction tiles with
  | nil => exact ⟨[], rfl⟩
  | cons tile tiles ih =>
    obtain ⟨sprite, hsprite⟩ := h.sprite?_ok (htiles tile (by simp))
    obtain ⟨sprites, hsprites⟩ := ih fun t ht => htiles t (by simp [ht])
    refine ⟨sprite :: sprites, ?_⟩
    rw [Game.sprites?, hsprite, hsprites]
    rfl

/-- Every room of a complete world can be entered. -/
theorem enterRoom_ok (hw : w₀.Complete) (h : Intact w₀ g.world g.state) {avatarName : String}
    (havatar : (w₀.sprites.find? avatarName).isSome) {room : Nat}
    (hroom : room < w₀.rooms.length) : ∃ g', g.enterRoom avatarName room = .ok g' := by
  rw [← h.length] at hroom
  have hmem : g.world.rooms[room] ∈ g.world.rooms := List.getElem_mem hroom
  obtain ⟨palette, index, hp⟩ := h.palette?_ok hw hmem
  obtain ⟨avatar, ha⟩ := h.sprite?_ok havatar
  obtain ⟨sprites, hs⟩ := h.sprites?_ok (h.tiles _ hmem)
  have hget : g.room? room = .ok g.world.rooms[room] := by
    rw [Game.room?, List.getElem?_eq_getElem hroom]
  cases henter : g.enterRoom avatarName room with
  | ok g' => exact ⟨g', rfl⟩
  | error f =>
    simp only [Game.enterRoom, hget, hp, ha, hs, bind, Except.bind] at henter
    cases henter

/-- Every cell of a complete world can be occupied. -/
theorem occupy_ok (hw : w₀.Complete) (h : Intact w₀ g.world g.state) {avatarName : String}
    (havatar : (w₀.sprites.find? avatarName).isSome) {target : Location}
    (htarget : target.InWorld w₀.dimensions w₀.rooms.length) :
    ∃ moved, g.occupy avatarName target = .ok moved := by
  obtain ⟨hroom, hcell⟩ := htarget
  have hcell' : g.world.dimensions.containsCell target.x target.y = true := by
    rw [h.world]
    exact hcell
  obtain ⟨g', hg'⟩ := h.enterRoom_ok hw havatar hroom
  unfold Game.occupy
  rw [hcell']
  by_cases hsame : target.room = g.state.room
  · exact ⟨_, by simp [hsame]; rfl⟩
  · exact ⟨_, by simp [hsame, hg']; rfl⟩

end Intact

/-- Play leaves a complete world intact. -/
theorem invariant_intact {w₀ : World} (hw : w₀.Complete) (limit : Nat) (avatarName : String) :
    Invariant limit avatarName w₀.Grounds (Intact w₀) where
  admits h := by
    rw [h.world]
    exact hw.admits
  waiting h := h.waiting
  gate h hqueue := ⟨h.world, h.palettes, h.tiles, fun d hd => h.waiting d (hqueue d hd)⟩
  change h hchange := by
    cases hchange with
    | turn => exact h.of_gate rfl
    | act _ hscene => exact h.absorb hscene
    | sweep => exact h.sweep
    | occupy hocc =>
      obtain ⟨hworld, hgate, -⟩ := Game.occupy_fixed hocc
      rw [hworld]
      exact h.of_gate hgate

/-! ## Evaluations -/

namespace Session

variable {w₀ : World} {s : Session}

/-- An encounter in a complete world fails only for nesting too deep. It leaves the world
intact and leads to a cell of the world. -/
theorem fares_encounter (hw : w₀.Complete) (h : Intact w₀ s.game.world s.game.state)
    {direction : Option Direction} {target : Location} {palette : Palette}
    {result : Except Halt Encounter} {scene : Scene}
    (hstep : s.game.state.location.step? s.game.world.dimensions direction = some target)
    (hmeet : s.encounter palette target = (result, scene)) :
    OnlyTooDeep result ∧ Intact w₀ (s.game.absorb scene).world (s.game.absorb scene).state ∧
      scene.target.InWorld w₀.dimensions w₀.rooms.length := by
  have hsprites : (s.game.setting palette s.config.depthLimit).sprites = w₀.sprites := h.sprites
  have htarget : target.InWorld w₀.dimensions w₀.rooms.length := by
    rw [h.world] at hstep
    exact step?_inWorld (Dimensions.proper_iff.mpr hw.proper) hw.rooms hstep
  have hroom : (s.game.scene target).target.room < (s.game.scene target).rooms.length := by
    have hlength := h.length
    exact hlength ▸ htarget.1
  have hfares := Setting.fares_meetCell hw hsprites
    (s.game.state.avatar.x, s.game.state.avatar.y) hroom (hsprites ▸ h.tiles)
  have hchanges := Setting.changes_meetCell (hsprites ▸ hw.admits)
    (s.game.state.avatar.x, s.game.state.avatar.y) (s.game.scene target)
  unfold encounter at hmeet
  rw [hmeet] at hfares hchanges
  refine ⟨hfares.1, h.absorb hchanges, ?_⟩
  exact hchanges.target (P := fun l => l.InWorld w₀.dimensions w₀.rooms.length)
    (fun room x y ha => ha.self) htarget

/-- A session in what has become of the complete world `w₀`, with an avatar that has a
sprite. -/
structure InOrder (w₀ : World) (s : Session) : Prop where
  intact : Intact w₀ s.game.world s.game.state
  located : Located s.game.world s.game.state
  avatar : (w₀.sprites.find? s.avatarName).isSome

namespace InOrder

theorem turn (h : InOrder w₀ s) (direction : Option Direction) :
    InOrder w₀ (s.turn direction) := by
  obtain ⟨facing, hturn⟩ := s.turn_eq direction
  rw [hturn]
  exact ⟨h.intact.of_gate rfl, h.located, h.avatar⟩

theorem steps (hw : w₀.Complete) (h : InOrder w₀ s) {t : Session} {es : List Episode}
    (hsteps : Steps s es t) : InOrder w₀ t where
  intact := (invariant_intact hw _ _).steps h.intact hsteps
  located := (invariant_located _ _).steps h.located hsteps
  avatar := by
    rw [hsteps.fixed.2]
    exact h.avatar

/-- A session in order is so where an evaluation begins, and what is resumed is grounded. -/
theorem begins (hw : w₀.Complete) (h : InOrder w₀ s) {e : Episode} (hbegins : Begins s e) :
    InOrder w₀ e.before ∧ ∀ d ∈ e.evaluation.resumed?, w₀.Grounds d.action := by
  obtain ⟨hintact, hresumed⟩ := (invariant_intact hw _ _).begins h.intact hbegins
  obtain ⟨hlocated, -⟩ := (invariant_located _ _).begins h.located hbegins
  refine ⟨⟨hintact, hlocated, ?_⟩, hresumed⟩
  rw [hbegins.fixed.2]
  exact h.avatar

/-- The room can be drawn. -/
theorem draw_ok (h : InOrder w₀ s) (frame : Nat) (f : Failure) :
    (s.game.draw s.avatarName frame).1 ≠ .error f := by
  intro hdraw
  obtain ⟨name, -, hnone, hname⟩ := h.located.draw_failure hdraw
  have hsome : (s.game.world.sprites.find? name).isSome := by
    rw [h.intact.sprites]
    rcases hname with rfl | ⟨r, hr, tile, ht, rfl⟩
    · exact h.avatar
    · exact h.intact.tiles r hr tile ht
  simp [hnone] at hsome

end InOrder

theorem Course.onlyTooDeep (hw : w₀.Complete) (h : InOrder w₀ s) {direction : Option Direction}
    {r : Except Halt MoveResult × Session} (hcourse : Course s direction r) :
    OnlyTooDeep r.1 := by
  cases hcourse with
  | leftWorld | blocked | moved => exact onlyTooDeep_ok _
  | unpainted _ hp =>
    obtain ⟨palette, hp'⟩ := h.located.palette?
    rw [hp'] at hp
    cases hp
  | halted hstep hp hmeet =>
    obtain ⟨hfares, -, -⟩ := fares_encounter hw h.intact hstep hmeet
    exact hfares.error
  | refused hstep hp hmeet _ hocc =>
    obtain ⟨-, hintact, htarget⟩ := fares_encounter hw h.intact hstep hmeet
    rw [sweepAfter_game] at hocc
    obtain ⟨moved, hmoved⟩ := hintact.sweep.occupy_ok hw h.avatar htarget
    rw [hmoved] at hocc
    cases hocc

theorem onlyTooDeep_tryResume (hw : w₀.Complete) (h : InOrder w₀ s) {d : Deferred}
    (hd : w₀.Grounds d.action) : OnlyTooDeep (tryResume d s).1 := by
  obtain ⟨palette, hp⟩ := h.located.palette?
  have hsprites : (s.game.setting palette s.config.depthLimit).sprites = w₀.sprites :=
    h.intact.sprites
  have hfares : (s.game.setting palette s.config.depthLimit).Fares (s.resumption palette d) :=
    Setting.fares_perform hw hsprites _ hd d.tile d.path (hsprites ▸ h.intact.tiles)
  rw [tryResume_of_palette hp]
  exact hfares.1

/-- An evaluation in a complete world fails only for nesting too deep. -/
theorem onlyTooDeep_result (hw : w₀.Complete) {e : Episode} (h : InOrder w₀ e.before)
    (hresumed : ∀ d ∈ e.evaluation.resumed?, w₀.Grounds d.action) : OnlyTooDeep e.result := by
  have hattempt : OnlyTooDeep (e.evaluation.attempt e.before).1 := by
    obtain ⟨s, direction | d⟩ := e
    · have hmove : OnlyTooDeep (tryMove direction s).1 :=
        (s.course_tryMove direction).onlyTooDeep hw (h.turn direction)
      exact hmove.map some
    · exact (onlyTooDeep_tryResume hw h (hresumed d rfl)).map _
  rcases e.cases with ⟨_, hresult, -, -⟩ | ⟨f, hresult, heq, -⟩ | ⟨hresult, -, -⟩
  · rw [hresult]
    exact onlyTooDeep_ok _
  · rw [hresult]
    exact heq ▸ hattempt
  · rw [hresult]
    exact onlyTooDeep_lostPlace

/-! ## Runs -/

theorem mem_of_avatarSprite? {w : World} {avatar : Sprite} (h : avatarSprite? w = some avatar) :
    avatar ∈ w.sprites.sprites := by
  rcases Option.or_eq_some_iff.mp h with h | ⟨-, h⟩
  · exact List.mem_of_find?_eq_some h
  · exact List.mem_of_head? h

theorem room_lt_of_mem_cellsOf {w : World} {name : String} {l : Location}
    (h : l ∈ cellsOf w name) : l.room < w.rooms.length := by
  obtain ⟨⟨r, i⟩, hr, hl⟩ := List.mem_flatMap.mp h
  obtain ⟨t, -, rfl⟩ := List.mem_map.mp hl
  simpa using List.snd_lt_of_mem_zipIdx hr

/-- A complete world has a room to start in. -/
theorem start_room_lt {w : World} (hw : w.Complete) (name : String) :
    ((cellsOf w name).getLast?.getD ⟨0, 0, 0⟩).room < w.rooms.length := by
  cases hlast : (cellsOf w name).getLast? with
  | some l => exact room_lt_of_mem_cellsOf (List.mem_of_getLast? hlast)
  | none =>
    have hd := Dimensions.proper_iff.mpr hw.proper
    have hpos : 0 < w.dimensions.worldWidth * w.dimensions.worldHeight :=
      Int.mul_pos hd.worldWidth hd.worldHeight
    have hrooms := hw.rooms
    show 0 < w.rooms.length
    omega

/-- A session starts in a complete world, and is in order. -/
theorem start_ok {w : World} (hw : w.Complete) (config : Config) (stage : Stage) :
    ∃ s, start w config stage = .ok s ∧ InOrder w s := by
  have hsome : (avatarSprite? w).isSome := by
    rw [avatarSprite?, Option.isSome_or]
    cases hsprites : w.sprites.sprites with
    | nil => exact (hw.sprites hsprites).elim
    | cons => simp
  obtain ⟨avatar, havatar⟩ := Option.isSome_iff_exists.mp hsome
  have hname : (w.sprites.find? avatar.name).isSome :=
    List.find?_isSome.mpr ⟨avatar, mem_of_avatarSprite? havatar, by simp⟩
  let location := (cellsOf w avatar.name).getLast?.getD ⟨0, 0, 0⟩
  let game : Game := ⟨w, .ofLocation location, stage, .ofSeed config.seed⟩
  have hintact : Intact w game.world game.state := hw.intact rfl
  obtain ⟨game', hgame'⟩ := hintact.enterRoom_ok hw hname (start_room_lt hw avatar.name)
  have hstart : start w config stage = .ok ⟨config, avatar.name, game',
      .ofThreshold config.swipeThreshold,
      .start config.frameInterval config.inputInterval config.animationFrames⟩ := by
    rw [start, havatar]
    exact bind_eq_ok.mpr ⟨game', hgame', rfl⟩
  refine ⟨_, hstart, ?_, located_start hstart, hname⟩
  obtain ⟨_, _, _, _, _, -, -, -, -, rfl⟩ := Game.enterRoom_eq_ok hgame'
  exact hintact.of_gate rfl

/-- A session in a complete world starts, and then fails only because actions are nested too
deep: so does every call that returns, and every evaluation in it. -/
theorem failures_of_complete {w : World} (hw : w.Complete) (config : Config) (stage : Stage) :
    ∃ s₀, start w config stage = .ok s₀ ∧ ∀ {es s}, Run s₀ es s → ∀ c,
      ((s.call c).1 ≠ .error .lostPlace → (∃ answer, (s.call c).1 = .ok answer) ∨
        ∃ limit path, (s.call c).1 = .error (.failed (.tooDeep limit path))) ∧
      ∀ e ∈ s.episodes c, ∀ f, e.result = .error (.failed f) →
        ∃ limit path, f = .tooDeep limit path := by
  obtain ⟨s₀, hstart, hs₀⟩ := start_ok hw config stage
  refine ⟨s₀, hstart, fun {es s} hrun c => ?_⟩
  have hs : InOrder w s := hs₀.steps hw hrun.steps
  have hepisodes : ∀ e ∈ s.episodes c, OnlyTooDeep e.result := by
    intro e he
    obtain ⟨es', t, hsteps, hbegins⟩ := begins_of_mem_episodes he
    obtain ⟨hbefore, hresumed⟩ := (hs.steps hw hsteps).begins hw hbegins
    exact onlyTooDeep_result hw hbefore hresumed
  refine ⟨fun hreturn => ?_, hepisodes⟩
  rcases hcall : (s.call c).1 with (f | _) | answer
  · rcases call_failure hcall with ⟨e, he, hf⟩ | ⟨t, hsteps, hdraw⟩
    · obtain ⟨limit, path, rfl⟩ := hepisodes e he f hf
      exact Or.inr ⟨limit, path, rfl⟩
    · exact ((hs.steps hw hsteps).draw_ok _ f hdraw).elim
  · exact (hreturn hcall).elim
  · exact Or.inl ⟨answer, rfl⟩

theorem complete_crossing : crossing.Complete where
  proper := by decide
  sprites := List.cons_ne_nil _ _
  rooms := by decide
  palettes := by decide
  tiles := by
    unfold Catalogue.Furnishes
    decide
  actions := by
    intro s hs b hb a ha c hc
    obtain rfl | rfl := List.mem_pair.mp hs
    · cases hb
    · obtain rfl := List.mem_singleton.mp hb
      simp only [List.mem_cons, List.not_mem_nil, or_false] at ha
      rcases ha with rfl | rfl | rfl <;> cases hc
      · trivial
      · exact (by decide : (crossing.sprites.find? "sign").isSome)
      · exact ⟨by decide, by decide⟩

/-- The crossing is complete, and confirming the sign's dialog there succeeds. -/
theorem failures_of_complete_crossing :
    crossing.Complete ∧ ∃ es s, Run atCrossing es s ∧ s.dialogShowing = true ∧
      ∃ answer, (s.call .confirm).1 = .ok answer := by
  obtain ⟨s₀, hstart, hfailures⟩ := failures_of_complete complete_crossing .default
    (.ofPageChars 40)
  obtain rfl : s₀ = atCrossing := by simpa [start_crossing] using hstart.symm
  have hrun : Run atCrossing _ _ :=
    .call (.move (some .right)) (.call (.move (some .right)) .nil (by decide)) (by decide)
  refine ⟨complete_crossing, _, _, hrun, rfl, ?_⟩
  rcases (hfailures hrun .confirm).1 (by decide) with hok | ⟨limit, path, hdeep⟩
  · exact hok
  · cases hdeep

end Session

end TileAdventure
