import TileAdventure.Proofs.Acting.PickUp
import TileAdventure.Proofs.Session.Keys

/-!
# Where tiles go

Tiles leave their rooms in one way only: a move that succeeds or ends at a wall sweeps those
that are marked by then (`Episode.swept_cases`). So along a run the tiles swept so far and
those in the rooms are the tiles of the start (`Session.Steps.ledger`), and as each of them is
there once, none is swept twice. What a successful evaluation picks up is among what it sweeps
(`Episode.collected_subperm`), and so it is collected for good (`Session.tiles_of_run`).
-/

namespace TileAdventure

/-! ## Encounters of evaluations -/

/-- What an encounter begins with. -/
structure Meeting where
  setting : Setting
  avatarCell : Int × Int
  scene : Scene

namespace Meeting

/-- How the encounter goes. -/
def encounter (m : Meeting) : Attempt Encounter :=
  m.setting.meetCell m.avatarCell m.scene

/-- The tiles that are picked up in the encounter. -/
def pickUps (m : Meeting) : List Tile :=
  m.setting.pickUpsAtCell m.avatarCell m.scene

/-- The ids of the tiles that are marked for removal after the encounter. -/
def marked (m : Meeting) : List TileId :=
  m.encounter.2.rooms.removedIds

end Meeting

/-- The encounter that a move leads to, once the avatar has turned. -/
def Session.meeting? (s : Session) (direction : Option Direction) : Option Meeting :=
  match s.game.state.location.step? s.game.world.dimensions direction, s.game.palette? with
  | some target, .ok palette =>
    some ⟨s.game.setting palette s.config.depthLimit,
      (s.game.state.avatar.x, s.game.state.avatar.y), s.game.scene target⟩
  | _, _ => none

namespace Episode

/-- The encounter of an evaluation, if it has one. -/
def meeting? (e : Episode) : Option Meeting :=
  match e.evaluation with
  | .move direction => (e.before.turn direction).meeting? direction
  | .resume _ => none

/-- Whether the evaluation was a move that succeeded or ended at a wall. -/
def sweeps (e : Episode) : Bool :=
  match e.result with
  | .ok (some .blocked) | .ok (some (.moved _)) => true
  | _ => false

/-- The ids of the tiles that are picked up in an evaluation. -/
def pickUps (e : Episode) : List TileId :=
  (e.meeting?.map fun m => m.pickUps.map Tile.id).getD []

/-- The ids of the tiles that an evaluation picks up for good: none if it failed. -/
def collected (e : Episode) : List TileId :=
  if e.failed then [] else e.pickUps

/-- The ids of the tiles that an evaluation takes out of their rooms: those that are marked
after its encounter. -/
def removed (e : Episode) : List TileId :=
  if e.sweeps then (e.meeting?.map Meeting.marked).getD [] else []

end Episode

/-- The session holds what the scene has left, swept. -/
def Scene.SweptIn (scene : Scene) (s : Session) : Prop :=
  s.holdings.rooms = scene.rooms.sweep ∧
    s.holdings.bookmarks = scene.bookmarks.forget scene.rooms.removedIds

namespace Session

variable {s : Session} {direction : Option Direction}

/-- The tiles of an encounter are those of the session. -/
theorem rooms_of_meeting? {m : Meeting} (h : s.meeting? direction = some m) :
    m.scene.rooms = s.game.world.rooms := by
  unfold meeting? at h
  split at h
  · cases h
    rfl
  · cases h

theorem meeting?_of_palette {target : Location} {palette : Palette}
    (hstep : s.game.state.location.step? s.game.world.dimensions direction = some target)
    (hp : s.game.palette? = .ok palette) :
    ∃ m, s.meeting? direction = some m ∧ m.encounter = s.encounter palette target := by
  rw [meeting?, hstep, hp]
  exact ⟨_, rfl, rfl⟩

/-- A course leaves the world, halts, or sweeps what its encounter has left. -/
theorem Course.swept {r : Except Halt MoveResult × Session} (h : Course s direction r) :
    (r = (.ok .leftWorld, s) ∧ s.meeting? direction = none) ∨ (∃ halt, r.1 = .error halt) ∨
      ∃ move m met scene, r.1 = .ok move ∧ move ≠ .leftWorld ∧
        s.meeting? direction = some m ∧ m.encounter = (.ok met, scene) ∧ scene.SweptIn r.2 := by
  have hswept : ∀ scene : Scene, scene.SweptIn (s.sweepAfter scene) := by
    intro scene
    refine ⟨?_, ?_⟩ <;> rw [holdings, sweepAfter_game] <;> rfl
  cases h with
  | leftWorld hstep => exact Or.inl ⟨rfl, by rw [meeting?, hstep]⟩
  | unpainted | halted | refused => exact Or.inr (Or.inl ⟨_, rfl⟩)
  | blocked hstep hp hmeet =>
    obtain ⟨m, hm, hencounter⟩ := meeting?_of_palette hstep hp
    exact Or.inr (Or.inr ⟨_, m, _, _, rfl, by simp, hm, hencounter.trans hmeet, hswept _⟩)
  | @moved _ _ _ scene _ _ hstep hp hmeet _ hocc =>
    obtain ⟨m, hm, hencounter⟩ := meeting?_of_palette hstep hp
    refine Or.inr (Or.inr ⟨_, m, _, scene, rfl, by simp, hm, hencounter.trans hmeet, ?_⟩)
    have hheld : holdings { s.sweepAfter scene with game := _ } = _ := holdings_occupy hocc
    rw [Scene.SweptIn, hheld]
    exact hswept scene

end Session

/-! ## Evaluations -/

namespace Episode

variable {e : Episode}

theorem sweeps_resume (s : Session) (d : Deferred) : sweeps ⟨s, .resume d⟩ = false := by
  unfold sweeps
  rw [(s.resume_eq d).1]
  rcases (s.undoing (Session.tryResume d)).1 with halt | outcome <;> rfl

/-- Resuming an action moves no tile. -/
theorem layout_tryResume (s : Session) (d : Deferred) :
    (Session.tryResume d s).2.holdings.rooms.layout = s.holdings.rooms.layout := by
  cases hp : s.game.palette? with
  | error f => rw [Session.tryResume_of_failure hp]
  | ok palette =>
    rw [Session.tryResume_of_palette hp]
    exact (Setting.changes_perform (Catalogue.admits_true _) _ trivial _ _ _).layout

/-- The tiles of an encounter are those that the evaluation begins with. -/
theorem rooms_of_meeting? {m : Meeting} (h : e.meeting? = some m) :
    m.scene.rooms = e.before.holdings.rooms := by
  obtain ⟨s, direction | d⟩ := e
  · obtain ⟨facing, hturn⟩ := s.turn_eq direction
    have hrooms : m.scene.rooms = (s.turn direction).game.world.rooms :=
      Session.rooms_of_meeting? h
    rwa [hturn] at hrooms
  · cases h

/-- An evaluation that returns leaves the tiles in their rooms and collects none, or it is a
move that has succeeded or ended at a wall, and has swept what its encounter left. -/
theorem swept_cases (e : Episode) (hreturn : e.result ≠ .error .lostPlace) :
    (e.sweeps = false ∧ e.collected = [] ∧
        e.after.holdings.rooms.layout = e.before.holdings.rooms.layout) ∨
      e.sweeps = true ∧ e.failed = false ∧ ∃ m met scene, e.meeting? = some m ∧
        m.encounter = (.ok met, scene) ∧ scene.SweptIn e.after := by
  rcases e.cases with ⟨move, hresult, hattempt, hafter⟩ | ⟨f, hresult, -, hafter⟩ | ⟨hlost, -⟩
  · have hkept : e.failed = false := by simp [failed, hresult]
    rw [hafter]
    obtain ⟨s, direction | d⟩ := e
    · rcases (s.course_tryMove direction).swept with ⟨heq, hnone⟩ | ⟨halt, hhalt⟩ |
        ⟨move', m, met, scene, hmove, hne, hm, hencounter, hswept⟩
      · obtain rfl : some .leftWorld = move := by
          simpa [Evaluation.attempt, heq, Except.map] using hattempt
        obtain ⟨facing, hturn⟩ := s.turn_eq direction
        refine Or.inl ⟨by simp [sweeps, hresult], ?_, ?_⟩
        · simp [collected, pickUps, meeting?, hnone]
        · simp only [Evaluation.attempt, heq, hturn]
          rfl
      · simp [Evaluation.attempt, hhalt, Except.map] at hattempt
      · obtain rfl : some move' = move := by
          simpa [Evaluation.attempt, hmove, Except.map] using hattempt
        refine Or.inr ⟨?_, hkept, m, met, scene, hm, hencounter, hswept⟩
        cases move' with
        | leftWorld => exact (hne rfl).elim
        | moved | blocked => simp [sweeps, hresult]
    · exact Or.inl ⟨sweeps_resume s d, by simp [collected, pickUps, meeting?],
        layout_tryResume s d⟩
  · refine Or.inl ⟨by simp [sweeps, hresult], by simp [collected, failed, hresult], ?_⟩
    rw [hafter]
    exact congrArg (fun w : World => w.rooms.layout) e.restore_attempt.1
  · exact (hreturn hlost).elim

/-- Up to the sweep, an encounter leaves the tiles in their rooms. -/
theorem layout_of_meeting? {m : Meeting} (h : e.meeting? = some m) :
    m.encounter.2.rooms.layout = e.before.holdings.rooms.layout := by
  rw [← rooms_of_meeting? h]
  exact (Setting.changes_meetCell m.setting.sprites.admits_true m.avatarCell m.scene).layout

/-- The tiles that an evaluation takes out of their rooms and those that it leaves there are
the tiles that were there. -/
theorem ledger (hreturn : e.result ≠ .error .lostPlace) :
    (e.removed ++ e.after.holdings.rooms.ids).Perm e.before.holdings.rooms.ids := by
  rcases e.swept_cases hreturn with ⟨hs, -, hlayout⟩ |
    ⟨hs, -, m, met, scene, hm, hencounter, hswept⟩
  · rw [removed, hs, Rooms.ids_of_layout hlayout]
    exact .refl _
  · -- up to the sweep all tiles are still there, and the sweep parts them
    have hlayout := layout_of_meeting? hm
    have hremoved : e.removed = scene.rooms.removedIds := by
      simp [removed, hs, hm, Meeting.marked, hencounter]
    rw [hencounter] at hlayout
    rw [hremoved, hswept.1, ← Rooms.ids_of_layout hlayout]
    exact scene.rooms.perm_sweep

/-- An evaluation moves no tile, it only takes tiles away. -/
theorem thins (hreturn : e.result ≠ .error .lostPlace) :
    e.before.holdings.rooms.Thins e.after.holdings.rooms := by
  rcases e.swept_cases hreturn with ⟨-, -, hlayout⟩ | ⟨-, -, m, met, scene, hm, hencounter, hswept⟩
  · exact .of_layout hlayout
  · have hlayout := layout_of_meeting? hm
    rw [hencounter] at hlayout
    rw [hswept.1]
    exact (Rooms.Thins.of_layout hlayout).trans scene.rooms.thins_sweep

/-- No tile is picked up twice in an encounter, as each has an id of its own. -/
theorem nodup_pickUps (hids : e.before.holdings.rooms.ids.Nodup) : e.pickUps.Nodup := by
  unfold pickUps
  cases hm : e.meeting? with
  | none => exact List.nodup_nil
  | some m =>
    have hsub : (m.pickUps.map Tile.id).Sublist m.scene.rooms.ids :=
      Setting.ids_pickUpsAtCell m.avatarCell m.scene
    rw [rooms_of_meeting? hm] at hsub
    exact hids.sublist hsub

/-- What an evaluation picks up for good, it takes out of its room. -/
theorem collected_subperm (hreturn : e.result ≠ .error .lostPlace)
    (hids : e.before.holdings.rooms.ids.Nodup) : e.collected.Subperm e.removed := by
  rcases e.swept_cases hreturn with ⟨-, hnone, -⟩ | ⟨hs, hkept, m, _, _, hm, -⟩
  · rw [hnone]
    exact List.nil_subperm
  · have hcollected : e.collected = e.pickUps := by simp [collected, hkept]
    rw [hcollected]
    refine (nodup_pickUps hids).subperm fun id hid => ?_
    obtain ⟨tile, htile, rfl⟩ : ∃ tile ∈ m.pickUps, tile.id = id := by
      simpa [pickUps, hm] using hid
    have hmarked : tile.id ∈ m.marked :=
      Setting.marked_pickUpsAtCell m.avatarCell m.scene tile htile
    simpa [removed, hs, hm] using hmarked

end Episode

/-! ## Steps and calls -/

namespace Session

variable {s t : Session} {es : List Episode} {e : Episode}

/-- The tiles that have been swept and those in the rooms are the tiles that were there. -/
theorem Steps.ledger (h : Steps s es t) :
    (es.flatMap Episode.removed ++ t.holdings.rooms.ids).Perm s.holdings.rooms.ids := by
  refine h.holds (P := fun es holdings =>
    (es.flatMap Episode.removed ++ holdings.rooms.ids).Perm s.holdings.rooms.ids) (.refl _) ?_
  intro es u e _ hu hbegins hreturn
  have hledger := Episode.ledger hreturn
  rw [hbegins.holdings.1] at hledger
  have hparts : (es ++ [e]).flatMap Episode.removed ++ e.after.holdings.rooms.ids =
      es.flatMap Episode.removed ++ (e.removed ++ e.after.holdings.rooms.ids) := by simp
  rw [hparts]
  exact (hledger.append_left _).trans hu

theorem Steps.nodup_ids (h : Steps s es t) (hids : s.holdings.rooms.ids.Nodup) :
    (es.flatMap Episode.removed ++ t.holdings.rooms.ids).Nodup :=
  h.ledger.nodup_iff.mpr hids

/-- Steps move no tile, they only take tiles away. -/
theorem Steps.thins (h : Steps s es t) : s.holdings.rooms.Thins t.holdings.rooms := by
  refine h.holds (P := fun _ holdings => s.holdings.rooms.Thins holdings.rooms)
    (.of_layout rfl) ?_
  intro es u e _ hu hbegins hreturn
  have hthins := Episode.thins hreturn
  rw [hbegins.holdings.1] at hthins
  exact hu.trans hthins

/-- Without a sweep all tiles stay. -/
theorem Steps.layout (h : Steps s es t) (hes : ∀ e ∈ es, e.sweeps = false) :
    t.holdings.rooms.layout = s.holdings.rooms.layout := by
  refine h.holds (P := fun es holdings => (∀ e ∈ es, e.sweeps = false) →
    holdings.rooms.layout = s.holdings.rooms.layout) (fun _ => rfl) ?_ hes
  intro es u e _ hu hbegins hreturn hes
  rcases e.swept_cases hreturn with ⟨-, -, hlayout⟩ | ⟨hs, -⟩
  · rw [hlayout, hbegins.holdings.1]
    exact hu fun e' he' => hes e' (List.mem_append_left _ he')
  · cases (hes e (by simp)).symm.trans hs

/-- What has been collected has been swept. -/
theorem Steps.collected_subperm (h : Steps s es t) (hids : s.holdings.rooms.ids.Nodup) :
    (es.flatMap Episode.collected).Subperm (es.flatMap Episode.removed) := by
  refine h.holds (P := fun es _ =>
    (es.flatMap Episode.collected).Subperm (es.flatMap Episode.removed)) (.refl _) ?_
  intro es u e hsteps hu hbegins hreturn
  have hbefore : e.before.holdings.rooms.ids.Nodup := by
    rw [hbegins.holdings.1]
    exact (List.nodup_append.mp (hsteps.nodup_ids hids)).2.1
  have hlast := Episode.collected_subperm hreturn hbefore
  simpa using hu.append hlast

theorem Draining.sweeps {n : Nat} {first : Option Failure}
    {r : Except Halt (Option Failure) × Session} (h : Draining n first s r es) (he : e ∈ es) :
    e.sweeps = false := by
  induction h with
  | stopped => cases he
  | lost =>
    obtain rfl := List.mem_singleton.mp he
    exact Episode.sweeps_resume _ _
  | resumed _ _ _ ih =>
    rcases List.mem_cons.mp he with rfl | he
    · exact Episode.sweeps_resume _ _
    · exact ih he

theorem Confirmation.sweeps {r : Except Halt Unit × Session} (h : Confirmation s r es)
    (he : e ∈ es) : e.sweeps = false := by
  cases h with
  | nothing | page => cases he
  | halted _ hdraining | drained _ hdraining => exact hdraining.sweeps he

theorem Sets.holdings (h : Sets s t) : t.holdings = s.holdings := by
  obtain ⟨controls, clock, rfl⟩ := h
  rfl

/-- A call that sweeps makes one evaluation, and what that leaves is what the call leaves. -/
theorem holdings_of_sweeps {c : Call} (he : e ∈ s.episodes c) (hs : e.sweeps = true) :
    e.before.holdings = s.holdings ∧ (s.call c).2.holdings = e.after.holdings := by
  cases c with
  | handle input =>
    cases hc : s.confirmedBy? input with
    | none => simp [episodes, hc] at he
    | some t =>
      simp only [episodes, hc, Option.map_some, Option.getD_some] at he
      cases (t.confirmation.sweeps he).symm.trans hs
  | tick elapsed =>
    rcases (s.elapse elapsed).2.evaluateInput_cases (s.elapse elapsed).1 with
      ⟨hes, -⟩ | ⟨e', hes, hsets, -, hresult, hafter⟩
    · simp [episodes, hes] at he
    · obtain rfl : e = e' := by simpa [episodes, hes] using he
      refine ⟨hsets.holdings.trans (s.sets_elapse elapsed).holdings, ?_⟩
      rcases s.tick_cases elapsed with ⟨halt, hr, -⟩ | ⟨move, -, htick, -⟩
      · simp [Episode.sweeps, hresult.symm.trans hr] at hs
      · rw [← hafter, call, htick, holdings_draw]
  | confirm => cases (s.confirmation.sweeps he).symm.trans hs
  | move direction =>
    obtain rfl := List.mem_singleton.mp he
    exact ⟨rfl, congrArg holdings (s.move_eq direction).2.symm⟩

/-! ## Runs -/

/-- From `s` to `t` just the tiles that are marked in the scene have gone, with all marks and
with their bookmarks. -/
structure SweepsTo (s t : Session) (scene : Scene) : Prop where
  rooms : t.game.world.rooms = scene.rooms.sweep
  parts : (scene.rooms.removedIds ++ t.game.world.rooms.ids).Perm s.game.world.rooms.ids
  unmarked : t.game.world.rooms.removedIds = []
  bookmarks : ∀ entry ∈ t.game.state.bookmarks.entries,
    entry.1.tile ∉ scene.rooms.removedIds

theorem sweepsTo_of_sweptIn {scene : Scene} (h : scene.SweptIn t)
    (hlayout : scene.rooms.layout = s.game.world.rooms.layout) : SweepsTo s t scene where
  rooms := h.1
  parts := by
    have hrooms : t.game.world.rooms = scene.rooms.sweep := h.1
    rw [hrooms, ← Rooms.ids_of_layout hlayout]
    exact scene.rooms.perm_sweep
  unmarked := by
    have hrooms : t.game.world.rooms = scene.rooms.sweep := h.1
    rw [hrooms, Rooms.removedIds_sweep]
  bookmarks := by
    have hbookmarks : t.game.state.bookmarks = scene.bookmarks.forget scene.rooms.removedIds :=
      h.2
    intro entry hentry
    rw [hbookmarks] at hentry
    simpa using (List.mem_filter.mp hentry).2

/-- A move that succeeds or ends at a wall sweeps what its encounter has left, and so does the
call that makes it. -/
theorem sweepsTo_of_sweeps {c : Call} (he : e ∈ s.episodes c) (hs : e.sweeps = true) :
    ∃ m met scene, e.meeting? = some m ∧ m.scene.rooms = s.game.world.rooms ∧
      m.encounter = (.ok met, scene) ∧ met.pickedUp = m.pickUps.map Tile.sprite ∧
      SweepsTo s (s.call c).2 scene := by
  obtain ⟨hbefore, hafter⟩ := holdings_of_sweeps he hs
  have hreturn : e.result ≠ .error .lostPlace := by
    intro hlost
    simp [Episode.sweeps, hlost] at hs
  have hrooms : e.before.holdings.rooms = s.game.world.rooms := by
    rw [hbefore]
    rfl
  rcases e.swept_cases hreturn with ⟨hnot, -⟩ | ⟨-, -, m, met, scene, hm, hencounter, hswept⟩
  · cases hnot.symm.trans hs
  · have hlayout := Episode.layout_of_meeting? hm
    rw [hencounter, hrooms] at hlayout
    rw [Scene.SweptIn, ← hafter] at hswept
    exact ⟨m, met, scene, hm, (Episode.rooms_of_meeting? hm).trans hrooms, hencounter,
      Setting.pickedUp_meetCell hencounter, sweepsTo_of_sweptIn hswept hlayout⟩

/-- Tiles along a run from the start of a session in a world of parts. Each has an id of its
own, and those that have been swept and those in the rooms are the tiles of the world. What
successful evaluations have collected has been collected once, and is in no room. A call that
returns only takes tiles away, and those only in a move that succeeds or ends at a wall,
which sweeps just the tiles that are marked by then. In no encounter is a tile picked up
twice. -/
theorem tiles_of_run {dimensions : Dimensions} {sprites : List Sprite} {palettes : List Palette}
    {rooms : Rooms} {config : Config} {stage : Stage} {s₀ s : Session} {es : List Episode}
    (hstart : start (.ofParts dimensions sprites palettes rooms) config stage = .ok s₀)
    (hrun : Run s₀ es s) :
    s.game.world.rooms.ids.Nodup ∧
      (es.flatMap Episode.removed ++ s.game.world.rooms.ids).Perm (rooms.numbered 0).ids ∧
      (es.flatMap Episode.collected).Nodup ∧
      (∀ id ∈ es.flatMap Episode.collected, ¬s.game.world.rooms.Has id) ∧
      ∀ c, (s.call c).1 ≠ .error .lostPlace →
        s.game.world.rooms.Thins (s.call c).2.game.world.rooms ∧
        ((∀ e ∈ s.episodes c, e.sweeps = false) →
          (s.call c).2.game.world.rooms.layout = s.game.world.rooms.layout) ∧
        ∀ e ∈ s.episodes c, e.pickUps.Nodup ∧
          (e.sweeps = true → ∃ m met scene, e.meeting? = some m ∧
            m.scene.rooms = s.game.world.rooms ∧ m.encounter = (.ok met, scene) ∧
            met.pickedUp = m.pickUps.map Tile.sprite ∧ SweepsTo s (s.call c).2 scene) := by
  obtain ⟨-, hholdings⟩ := holdings_start hstart
  have hids₀ : s₀.holdings.rooms.ids.Nodup := by
    rw [hholdings]
    exact World.nodup_ids_ofParts dimensions sprites palettes rooms
  have hledger := hrun.steps.ledger
  obtain ⟨hremoved, hids, hgone⟩ := List.nodup_append.mp (hrun.steps.nodup_ids hids₀)
  have hcollected := hrun.steps.collected_subperm hids₀
  rw [hholdings] at hledger
  refine ⟨hids, hledger, ?_, fun id hid hhas => ?_, fun c hreturn => ⟨?_, ?_, fun e he => ⟨?_, ?_⟩⟩⟩
  · obtain ⟨swept, hperm, hsub⟩ := hcollected
    exact hperm.nodup_iff.mp (hremoved.sublist hsub)
  · exact hgone id (hcollected.subset hid) id (Rooms.has_iff.mp hhas) rfl
  · exact (steps_call hreturn).thins
  · exact (steps_call hreturn).layout
  · obtain ⟨es', t, hsteps, hbegins⟩ := begins_of_mem_episodes he
    refine Episode.nodup_pickUps ?_
    rw [hbegins.holdings.1]
    exact (List.nodup_append.mp (hsteps.nodup_ids hids)).2.1
  · exact sweepsTo_of_sweeps he

/-- The parrot is collected by the first step, which sweeps its tile, and although it goes on
to act when its dialog is confirmed, the tile is in no room any more. -/
theorem tiles_of_run_parrot :
    start (beside parrot []) .default (.ofPageChars 40) = .ok (atTile parrot []) ∧
      (∃ scene, SweepsTo (atTile parrot [])
          ((atTile parrot []).call (.move (some .right))).2 scene ∧
        scene.rooms.removedIds = [⟨1⟩]) ∧
      ∃ es s, Run (atTile parrot []) es s ∧ es.flatMap Episode.collected = [⟨1⟩] ∧
        s.game.world.rooms.ids = [⟨0⟩] ∧ ¬s.game.world.rooms.Has ⟨1⟩ := by
  have hstart : start (beside parrot []) .default (.ofPageChars 40) = .ok (atTile parrot []) :=
    rfl
  have hrun : Run (atTile parrot []) _ _ :=
    .call .confirm (.call (.move (some .right)) .nil (by decide)) (by decide)
  obtain ⟨-, -, -, hgone, -⟩ := tiles_of_run hstart hrun
  obtain ⟨-, -, -, -, hcall⟩ := tiles_of_run hstart .nil
  obtain ⟨-, -, hepisode⟩ := hcall (.move (some .right)) (by decide)
  obtain ⟨-, hsweep⟩ := hepisode _ List.mem_cons_self
  obtain ⟨m, met, scene, hm, -, hencounter, -, hswept⟩ := hsweep rfl
  refine ⟨hstart, ⟨scene, hswept, ?_⟩, _, _, hrun, rfl, rfl, hgone _ (by decide)⟩
  have hmarked : scene.rooms.removedIds = m.marked := by rw [Meeting.marked, hencounter]
  rw [hmarked]
  cases hm
  rfl

end Session

end TileAdventure
