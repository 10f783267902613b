import TileAdventure.Proofs.Acting.Course

/-!
# Effects of dispatches

Acting has its effects one after another, and each effect beyond picking up items and moving
bookmarks comes from one of the dispatches (`Scene.Effect`). `Setting.effects_perform` and
`Setting.effects_meetCell` say so of an action and of an encounter, with the dispatches of
`Setting.dispatches` and `Setting.dispatchesAtCell`, whether they succeed or halt. So what is
held back is just what joins the queue (`Setting.queue_perform`, `Setting.queue_meetCell`),
and only a dispatch that redirects the avatar changes the target
(`Scene.Effects.target`).
-/

namespace TileAdventure

/-- One effect of acting, with the dispatch that it comes from, if any. -/
inductive Scene.Effect (setting : Setting) : Scene → List Dispatch → Scene → Prop
  /-- An action that comes up under a dialog is held back. -/
  | defer {s : Scene} (depth : Nat) (action : Action) (tile : TileAddress)
      (path : ActionPath) : s.gate.showing = true →
      Effect setting s [s.dispatch depth action tile path] (s.defer action tile path)
  /-- An action that comes up fails, or all it does is done by others. -/
  | comeUp {s : Scene} (depth : Nat) (action : Action) (tile : TileAddress)
      (path : ActionPath) : s.gate.showing = false →
      Effect setting s [s.dispatch depth action tile path] s
  | does {s t : Scene} (depth : Nat) {action : Action} {tile : TileAddress}
      (path : ActionPath) : s.gate.showing = false → action.Does setting tile s t →
      Effect setting s [s.dispatch depth action tile path] t
  | pickUp (s : Scene) (sprite : Sprite) (room position : Nat) :
      Effect setting s [] (s.pickUp sprite room position)
  | currentIndex (s : Scene) (key : SequenceKey) (form : SequenceForm) :
      Effect setting s [] (s.currentIndex key form).2
  | advance (s : Scene) (key : SequenceKey) (form : SequenceForm) :
      Effect setting s [] (s.advance key form)

/-- Effects one after another, with the dispatches that they come from. -/
inductive Scene.Effects (setting : Setting) (s : Scene) : List Dispatch → Scene → Prop
  | refl : Effects setting s [] s
  | tail {ds more : List Dispatch} {t u : Scene} : Effects setting s ds t →
      t.Effect setting more u → Effects setting s (ds ++ more) u

namespace Scene.Effects

variable {setting : Setting} {s t u : Scene} {ds more : List Dispatch}

theorem single (h : s.Effect setting ds t) : s.Effects setting ds t := by
  simpa using Effects.refl.tail h

theorem trans (h : s.Effects setting ds t) (h' : t.Effects setting more u) :
    s.Effects setting (ds ++ more) u := by
  induction h' with
  | refl => simpa using h
  | tail _ hstep ih => simpa using ih.tail hstep

end Scene.Effects

/-! ## Acting has effects only -/

namespace Setting

variable {setting : Setting}

theorem effects_inTurn {α β : Type} {step : α → Scene → Attempt β}
    {observe : α → Scene → List Dispatch}
    (h : ∀ a, ∀ scene : Scene, scene.Effects setting (observe a scene) (step a scene).2)
    (as : List α) (scene : Scene) :
    scene.Effects setting (dispatchesInTurn step observe as scene)
      (inTurn step as scene).2 := by
  induction as generalizing scene with
  | nil => exact .refl
  | cons a as ih =>
    have hstep := h a scene
    rw [inTurn, dispatchesInTurn]
    generalize step a scene = attempt at hstep ⊢
    obtain ⟨halt | _, after⟩ := attempt
    · exact hstep.trans .refl
    · exact hstep.trans (ih after)

theorem effects_answer {performer : Performer} {observer : Observer}
    (h : ∀ action tile path, ∀ scene : Scene, scene.Effects setting
      (observer action tile path scene) (performer action tile path scene).2)
    (event : String) (target : TileAddress) (scene : Scene) :
    scene.Effects setting
      (setting.dispatchesInAnswer performer observer event target scene)
      (setting.answer performer event target scene).2 := by
  unfold answer dispatchesInAnswer
  rcases scene.rooms.tile? target with _ | tile
  · exact .refl
  rcases hs : setting.sprites.find? tile.sprite with _ | sprite
  · simp only [hs]
    exact .refl
  rcases hb : sprite.behavior? event with _ | behavior
  · simp only [hs, hb]
    exact .refl
  · simp only [hs, hb]
    exact effects_inTurn (fun (a : Action × Nat) => h a.1 target _) _ scene

/-- A sequence looks its bookmark up, and moves it on if the action that it runs succeeds. -/
theorem effects_sequence {levels : Nat} {observer : Observer}
    (h : ∀ action tile path, ∀ scene : Scene, scene.Effects setting
      (observer action tile path scene) (setting.perform levels action tile path scene).2)
    (looping shuffled : Bool) (actions : List Action) (tile : TileAddress)
    (path : ActionPath) {scene : Scene} (hs : scene.gate.showing = false) :
    scene.Effects setting
      (setting.dispatchesWithin (setting.perform levels) observer
        (.sequence looping shuffled actions) tile path scene)
      (setting.perform (levels + 1) (.sequence looping shuffled actions) tile path
        scene).2 := by
  have hn : ¬scene.gate.showing = true := by simp [hs]
  rw [perform, if_neg hn, dispatchesWithin]
  dsimp only
  have hcurrent : scene.Effects setting []
      (scene.currentIndex ⟨tile.tile, path⟩ ⟨actions.length, looping, shuffled⟩).2 :=
    .single (.currentIndex ..)
  generalize scene.currentIndex ⟨tile.tile, path⟩ ⟨actions.length, looping, shuffled⟩ =
    attempt at hcurrent ⊢
  obtain ⟨halt | index, current⟩ := attempt
  · exact hcurrent
  dsimp only
  rcases actions[index]? with _ | next
  · exact hcurrent
  have hrun := hcurrent.trans (h next tile (path.child index) current)
  dsimp only
  generalize setting.perform levels next tile (path.child index) current = attempt at hrun ⊢
  obtain ⟨halt | _, after⟩ := attempt
  · exact hrun
  · simpa using hrun.tail (.advance after ⟨tile.tile, path⟩ ⟨actions.length, looping, shuffled⟩)

/-- Performing an action has the effects of its dispatches. -/
theorem effects_perform (setting : Setting) (depth levels : Nat) (action : Action)
    (tile : TileAddress) (path : ActionPath) (scene : Scene) :
    scene.Effects setting (setting.dispatches depth levels action tile path scene)
      (setting.perform levels action tile path scene).2 := by
  induction levels generalizing depth action tile path scene with
  | zero => exact .refl
  | succ levels ih =>
    cases hs : scene.gate.showing with
    | true =>
      rw [dispatches_of_showing depth levels action tile path hs, perform_of_showing hs]
      exact .single (.defer depth action tile path hs)
    | false =>
      have hn : ¬scene.gate.showing = true := by simp [hs]
      have hself : scene.Effects setting [scene.dispatch depth action tile path] scene :=
        .single (.comeUp depth action tile path hs)
      rw [dispatches_of_not_showing depth levels action tile path hs]
      cases action with
      | dialog text =>
        rw [perform, if_neg hn]
        exact .single (.does depth path hs (.dialog text scene))
      | giveItem item quantity giving =>
        rw [perform, if_neg hn]
        split
        · exact hself
        · exact .single (.does depth path hs (.giveItem item quantity giving scene))
      | transformSelf name =>
        rw [perform, if_neg hn]
        split
        · exact hself
        · rename_i hfind
          exact .single (.does depth path hs (.transformSelf scene hfind))
      | moveAvatar room x y =>
        rw [perform, if_neg hn]
        exact .single (.does depth path hs (.moveAvatar room x y scene))
      | removeSelf =>
        rw [perform, if_neg hn]
        exact .single (.does depth path hs (.removeSelf scene))
      | triggerEvent event =>
        rw [perform, if_neg hn]
        exact hself.trans (effects_inTurn (effects_answer (ih (depth + 1)) event) _ scene)
      | conditional comparison item quantity actions =>
        rw [perform, if_neg hn, dispatchesWithin]
        rcases setting.sprites.find? item with _ | sprite
        · exact hself
        · dsimp only
          split
          · exact hself.trans
              (effects_inTurn (fun (a : Action × Nat) => ih (depth + 1) a.1 tile _) _ scene)
          · exact hself
      | sequence looping shuffled actions =>
        exact hself.trans (effects_sequence (ih (depth + 1)) _ _ _ _ _ hs)

theorem effects_push (setting : Setting) (behavior : Behavior) (tile : TileAddress)
    (scene : Scene) :
    scene.Effects setting (setting.dispatchesInPush behavior tile scene)
      (setting.push behavior tile scene).2 :=
  effects_inTurn (fun (a : Action × Nat) => setting.effects_perform 0 _ a.1 tile _) _ scene

theorem effects_meetTile (setting : Setting) (avatarCell : Int × Int) (room position : Nat)
    (tile : Tile) (met : Encounter) (scene : Scene) :
    scene.Effects setting (setting.dispatchesAtTile avatarCell room position tile scene)
      (setting.meetTile avatarCell room position tile met scene).2 := by
  unfold meetTile dispatchesAtTile
  split
  · exact .refl
  rcases setting.sprites.find? tile.sprite with _ | sprite
  · exact .refl
  dsimp only
  split
  · exact .refl
  have hpick : scene.Effects setting []
      (if sprite.isItem then scene.pickUp sprite room position else scene) := by
    split
    · exact .single (.pickUp scene sprite room position)
    · exact .refl
  generalize (if sprite.isItem then scene.pickUp sprite room position else scene) = picked
    at hpick ⊢
  split
  · exact hpick
  rcases sprite.behavior? Behavior.pushEvent with _ | behavior
  · exact hpick
  · exact hpick.trans (setting.effects_push behavior _ picked)

theorem effects_meetTiles (setting : Setting) (avatarCell : Int × Int) (room : Nat)
    (positions : List Nat) (met : Encounter) (scene : Scene) :
    scene.Effects setting (setting.dispatchesAtTiles avatarCell room positions met scene)
      (setting.meetTiles avatarCell room positions met scene).2 := by
  induction positions generalizing met scene with
  | nil => exact .refl
  | cons position positions ih =>
    rw [meetTiles, dispatchesAtTiles]
    rcases scene.tileAt? room position with _ | tile
    · exact ih met scene
    · have hmeet := setting.effects_meetTile avatarCell room position tile met scene
      dsimp only
      generalize setting.meetTile avatarCell room position tile met scene = attempt at hmeet ⊢
      obtain ⟨halt | met', after⟩ := attempt
      · exact hmeet.trans .refl
      · exact hmeet.trans (ih met' after)

/-- Meeting the tiles of a cell has the effects of its dispatches. -/
theorem effects_meetCell (setting : Setting) (avatarCell : Int × Int) (scene : Scene) :
    scene.Effects setting (setting.dispatchesAtCell avatarCell scene)
      (setting.meetCell avatarCell scene).2 := by
  unfold meetCell dispatchesAtCell
  dsimp only
  rcases scene.rooms[scene.target.room]? with _ | r
  · exact .refl
  · exact setting.effects_meetTiles avatarCell _ _ _ scene

end Setting

/-! ## What joins the queue -/

namespace Scene

variable {setting : Setting} {s t : Scene} {ds : List Dispatch}

theorem Effect.queues (h : s.Effect setting ds t) : s.Queues t ds := by
  cases h with
  | defer depth action tile path hs =>
    simp [Queues, dispatch, heldBack, hs, Scene.defer, Gate.defer]
  | comeUp depth action tile path hs => simp [Queues, dispatch, heldBack, hs]
  | does depth path hs hdoes =>
    cases hdoes <;> simp [Queues, dispatch, heldBack, hs, beginDialog, Gate.close, addItem,
      transform, modifyTile, markRemoved]
  | pickUp | currentIndex | advance => exact .of_eq rfl

/-- The queue grows by what is held back, in order. -/
theorem Effects.queues (h : s.Effects setting ds t) : s.Queues t ds := by
  induction h with
  | refl => exact .of_eq rfl
  | tail _ hstep ih => exact ih.trans hstep.queues

end Scene

/-- Performing an action puts those into the queue that are held back, in order. -/
theorem Setting.queue_perform (setting : Setting) (depth levels : Nat) (action : Action)
    (tile : TileAddress) (path : ActionPath) (scene : Scene) :
    scene.Queues (setting.perform levels action tile path scene).2
      (setting.dispatches depth levels action tile path scene) :=
  (setting.effects_perform depth levels action tile path scene).queues

/-- Meeting the tiles of a cell puts those into the queue that are held back, in order. -/
theorem Setting.queue_meetCell (setting : Setting) (avatarCell : Int × Int) (scene : Scene) :
    scene.Queues (setting.meetCell avatarCell scene).2
      (setting.dispatchesAtCell avatarCell scene) :=
  (setting.effects_meetCell avatarCell scene).queues

/-! ## What redirects the avatar -/

/-- The dispatch sends the avatar to a location. -/
def Dispatch.Redirects (x : Dispatch) (l : Location) : Prop :=
  x.held = false ∧ x.action.action = .moveAvatar l.room l.x l.y

namespace Scene

variable {setting : Setting} {s t : Scene} {ds : List Dispatch}

theorem Effect.target (h : s.Effect setting ds t) :
    t.target = s.target ∨ ∃ x ∈ ds, x.Redirects t.target := by
  cases h with
  | does depth path hs hdoes =>
    cases hdoes with
    | moveAvatar => exact Or.inr ⟨_, List.mem_singleton_self _, hs, rfl⟩
    | _ => exact Or.inl rfl
  | _ => exact Or.inl rfl

/-- The target is what it was, or where a dispatch sends the avatar. -/
theorem Effects.target (h : s.Effects setting ds t) :
    t.target = s.target ∨ ∃ x ∈ ds, x.Redirects t.target := by
  induction h with
  | refl => exact Or.inl rfl
  | tail _ hstep ih =>
    rcases hstep.target with hsame | ⟨x, hx, hredirects⟩
    · rw [hsame]
      exact ih.imp_right fun ⟨x, hx, hredirects⟩ =>
        ⟨x, List.mem_append_left _ hx, hredirects⟩
    · exact Or.inr ⟨x, List.mem_append_right _ hx, hredirects⟩

end Scene

end TileAdventure
