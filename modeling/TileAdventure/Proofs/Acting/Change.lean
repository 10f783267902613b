import Mathlib.Logic.Relation
import TileAdventure.Acting.Encounter
import TileAdventure.Proofs.World.Modify

/-!
# Changes of a scene

Performing actions changes the scene in a few ways only. `Change` lists them, each with what
is known when it is made, and `Setting.changes_perform` and `Setting.changes_meetCell` say
that an action and an encounter are nothing but such changes, one after another, whether
they succeed or halt. What every change keeps, all of play keeps.

Changes are made for actions that satisfy some `allowed`. It has to pass from an action to
the actions in it and has to hold of every behavior (`Catalogue.Admits`).
-/

namespace TileAdventure

open Relation

/-- One change of a scene. -/
inductive Scene.Change (setting : Setting) (allowed : Action → Prop) : Scene → Scene → Prop
  | defer (scene : Scene) {action : Action} (tile : TileAddress) (path : ActionPath) :
      allowed action → scene.gate.showing = true →
      Change setting allowed scene (scene.defer action tile path)
  | beginDialog (scene : Scene) (text : String) : scene.gate.showing = false →
      Change setting allowed scene (scene.beginDialog setting text)
  | addItem (scene : Scene) {item : String} (change : Int) :
      (setting.sprites.find? item).isSome →
      Change setting allowed scene (scene.addItem item change)
  | transform (scene : Scene) (tile : TileAddress) {name : String} {sprite : Sprite} :
      allowed (.transformSelf name) → setting.sprites.find? name = some sprite →
      Change setting allowed scene (scene.transform setting tile sprite)
  | redirect (scene : Scene) {room : Nat} {x y : Int} : allowed (.moveAvatar room x y) →
      Change setting allowed scene { scene with target := ⟨room, x, y⟩ }
  | markAt (scene : Scene) (room position : Nat) :
      Change setting allowed scene (scene.markAt room position)
  | currentIndex (scene : Scene) (key : SequenceKey) (form : SequenceForm) :
      Change setting allowed scene (scene.currentIndex key form).2
  | advance (scene : Scene) (key : SequenceKey) (form : SequenceForm) :
      Change setting allowed scene (scene.advance key form)

/-- Changes one after another. -/
abbrev Scene.Changes (setting : Setting) (allowed : Action → Prop) : Scene → Scene → Prop :=
  ReflTransGen (Change setting allowed)

/-- What one step keeps, steps one after another keep. -/
theorem keeps_of_step {α : Type} {r : α → α → Prop} {I : α → Prop}
    (h : ∀ {a b}, r a b → I a → I b) {a b : α} (hab : ReflTransGen r a b) (ha : I a) : I b := by
  induction hab with
  | refl => exact ha
  | tail _ hstep ih => exact h hstep ih

/-- `allowed` holds of the actions in every allowed action and in every behavior. -/
structure Catalogue.Admits (sprites : Catalogue) (allowed : Action → Prop) : Prop where
  conditional {comparison : Comparison} {item : String} {quantity : Int} {actions : List Action} :
    allowed (.conditional comparison item quantity actions) → ∀ a ∈ actions, allowed a
  sequence {looping shuffled : Bool} {actions : List Action} :
    allowed (.sequence looping shuffled actions) → ∀ a ∈ actions, allowed a
  behavior {name event : String} {sprite : Sprite} {behavior : Behavior} :
    sprites.find? name = some sprite → sprite.behavior? event = some behavior →
      ∀ a ∈ behavior.actions, allowed a

/-- A sprite is found again under its own name. -/
theorem Catalogue.find?_name {sprites : Catalogue} {name : String} {sprite : Sprite}
    (h : sprites.find? name = some sprite) : sprites.find? sprite.name = some sprite := by
  have hname : sprite.name = name := by simpa using List.find?_some h
  rw [hname, h]

/-- Every action is allowed. -/
theorem Catalogue.admits_true (sprites : Catalogue) : sprites.Admits fun _ => True :=
  ⟨fun _ _ _ => trivial, fun _ _ _ => trivial, fun _ _ _ _ => trivial⟩

/-- To mark a tile is to mark the one at a position of its room. -/
theorem Scene.exists_markRemoved_eq (scene : Scene) (tile : TileAddress) :
    ∃ position, scene.markRemoved tile = scene.markAt tile.room position := by
  obtain ⟨position, heq, -⟩ := scene.rooms.exists_modifyTile_eq tile Tile.mark
  exact ⟨position, by rw [markRemoved, modifyTile, heq, markAt]⟩

@[simp] theorem executed_snd {α : Type} (attempt : Attempt α) :
    (executed attempt).2 = attempt.2 := rfl

theorem mem_answers {b : Behavior} {event : String} {action : Action} {index : Nat}
    (h : (action, index) ∈ b.answers event) : action ∈ b.actions :=
  List.fst_mem_of_mem_zipIdx (List.mem_filter.mp h).1

namespace Setting

variable {setting : Setting} {allowed : Action → Prop}

theorem changes_inTurn {α β : Type} {step : α → Scene → Attempt β} {as : List α}
    (h : ∀ a ∈ as, ∀ scene, Scene.Changes setting allowed scene (step a scene).2) (scene : Scene) :
    Scene.Changes setting allowed scene (inTurn step as scene).2 := by
  induction as generalizing scene with
  | nil => exact .refl
  | cons a as ih =>
    have hstep := h a (by simp) scene
    rw [inTurn]
    split
    · rename_i heq
      rw [heq] at hstep
      exact hstep.trans (ih (fun b hb => h b (by simp [hb])) _)
    · rename_i heq
      rwa [heq] at hstep

theorem changes_answer (hp : setting.sprites.Admits allowed) {performer : Performer}
    (h : ∀ action, allowed action → ∀ tile path scene,
      Scene.Changes setting allowed scene (performer action tile path scene).2)
    (event : String) (target : TileAddress) (scene : Scene) :
    Scene.Changes setting allowed scene (setting.answer performer event target scene).2 := by
  rw [answer]
  split
  · exact .refl
  · split
    · exact .refl
    · rename_i sprite hs
      split
      · exact .refl
      · rename_i behavior hb
        exact changes_inTurn
          (fun a ha => h a.1 (hp.behavior hs hb _ (mem_answers ha)) target _) scene

/-- While a dialog shows, an action is put off. -/
theorem perform_of_showing {scene : Scene} (h : scene.gate.showing = true) (levels : Nat)
    (action : Action) (tile : TileAddress) (path : ActionPath) :
    setting.perform (levels + 1) action tile path scene =
      (.ok .deferred, scene.defer action tile path) := by
  cases action <;> rw [perform, if_pos h]

/-- Performing an allowed action makes changes only. -/
theorem changes_perform (hp : setting.sprites.Admits allowed) (levels : Nat) {action : Action}
    (ha : allowed action) (tile : TileAddress) (path : ActionPath) (scene : Scene) :
    Scene.Changes setting allowed scene (setting.perform levels action tile path scene).2 := by
  induction levels generalizing action tile path scene with
  | zero => exact .refl
  | succ levels ih =>
    cases hs : scene.gate.showing with
    | true =>
      rw [perform_of_showing hs]
      exact .single (.defer scene tile path ha hs)
    | false =>
      have hn : ¬scene.gate.showing = true := by simp [hs]
      cases action with
      | dialog text =>
        rw [perform, if_neg hn]
        exact .single (.beginDialog scene text hs)
      | giveItem item quantity giving =>
        rw [perform, if_neg hn]
        split
        · exact .refl
        · rename_i hi
          exact .single (.addItem scene _ (by rw [hi]; rfl))
      | transformSelf name =>
        rw [perform, if_neg hn]
        split
        · exact .refl
        · rename_i hn
          exact .single (.transform scene tile ha hn)
      | moveAvatar room x y =>
        rw [perform, if_neg hn]
        exact .single (.redirect scene ha)
      | removeSelf =>
        obtain ⟨position, hmark⟩ := scene.exists_markRemoved_eq tile
        rw [perform, if_neg hn, hmark]
        exact .single (.markAt scene tile.room position)
      | triggerEvent event =>
        rw [perform, if_neg hn, executed_snd]
        exact changes_inTurn (fun target _ => changes_answer hp (fun _ => ih) event target) scene
      | conditional comparison item quantity actions =>
        rw [perform, if_neg hn]
        split
        · exact .refl
        · split
          · exact changes_inTurn
              (fun a h => ih (hp.conditional ha _ (List.fst_mem_of_mem_zipIdx h)) tile _) scene
          · exact .refl
      | sequence looping shuffled actions =>
        rw [perform, if_neg hn]
        dsimp only
        have hcurrent : Scene.Change setting allowed scene
            (scene.currentIndex ⟨tile.tile, path⟩ ⟨actions.length, looping, shuffled⟩).2 :=
          .currentIndex ..
        split
        · rename_i heq
          rw [heq] at hcurrent
          exact .single hcurrent
        · rename_i index current heq
          rw [heq] at hcurrent
          split
          · exact .single hcurrent
          · rename_i action hget
            have hrun := ih (hp.sequence ha _ (List.mem_of_getElem? hget)) tile
              (path.child index) current
            split
            · rename_i heq
              rw [heq] at hrun
              exact .head hcurrent hrun
            · rename_i heq
              rw [heq] at hrun
              exact (ReflTransGen.head hcurrent hrun).tail (.advance _ _ _)

/-- An item tile is picked up by two changes. -/
theorem changes_pickUp {tile : Tile} {sprite : Sprite}
    (hs : setting.sprites.find? tile.sprite = some sprite) (room position : Nat) (scene : Scene) :
    Scene.Changes setting allowed scene (scene.pickUp sprite room position) := by
  have hitem : (setting.sprites.find? sprite.name).isSome := by
    rw [Catalogue.find?_name hs]
    rfl
  exact (ReflTransGen.single (.addItem scene 1 hitem)).tail (.markAt _ room position)

theorem changes_push (hp : setting.sprites.Admits allowed) {behavior : Behavior}
    (hb : ∀ a ∈ behavior.actions, allowed a) (tile : TileAddress) (scene : Scene) :
    Scene.Changes setting allowed scene (setting.push behavior tile scene).2 :=
  changes_inTurn (fun _ ha => changes_perform hp _ (hb _ (List.fst_mem_of_mem_zipIdx ha)) tile _)
    scene

theorem changes_meetTile (hp : setting.sprites.Admits allowed) (avatarCell : Int × Int)
    (room position : Nat) (tile : Tile) (met : Encounter) (scene : Scene) :
    Scene.Changes setting allowed scene
      (setting.meetTile avatarCell room position tile met scene).2 := by
  unfold meetTile
  split
  · exact .refl
  split
  · exact .refl
  rename_i sprite hs
  split
  · exact .refl
  have hpick : Scene.Changes setting allowed scene
      (if sprite.isItem then scene.pickUp sprite room position else scene) := by
    split
    · exact changes_pickUp hs room position scene
    · exact .refl
  dsimp only
  generalize (if sprite.isItem then scene.pickUp sprite room position else scene) = picked
    at hpick ⊢
  split
  · exact hpick
  split
  · exact hpick
  · rename_i hb
    exact hpick.trans (changes_push hp (hp.behavior hs hb) _ _)

theorem changes_meetTiles (hp : setting.sprites.Admits allowed) (avatarCell : Int × Int)
    (room : Nat) (positions : List Nat) (met : Encounter) (scene : Scene) :
    Scene.Changes setting allowed scene
      (setting.meetTiles avatarCell room positions met scene).2 := by
  induction positions generalizing met scene with
  | nil => exact .refl
  | cons position positions ih =>
    rw [meetTiles]
    split
    · exact ih met scene
    · rename_i tile _
      have hmeet := changes_meetTile hp avatarCell room position tile met scene
      split
      · rename_i heq
        rw [heq] at hmeet
        exact hmeet.trans (ih _ _)
      · rename_i heq
        rwa [heq] at hmeet

/-- Meeting the tiles of a cell makes changes only. -/
theorem changes_meetCell (hp : setting.sprites.Admits allowed) (avatarCell : Int × Int)
    (scene : Scene) :
    Scene.Changes setting allowed scene (setting.meetCell avatarCell scene).2 := by
  unfold meetCell
  dsimp only
  split
  · exact .refl
  · exact changes_meetTiles hp avatarCell _ _ _ scene

end Setting

end TileAdventure
