import TileAdventure.Proofs.Acting.Frame
import TileAdventure.Proofs.World.Complete

/-!
# Failures of actions

An action fails over a sprite that is missing, over a sequence without actions, or because
it nests too deep. If a world grounds the action and has sprites for all tiles, only the last
is left (`Setting.onlyTooDeep_perform`), and the same goes for meeting the tiles of a cell
(`Setting.onlyTooDeep_meetCell`).
-/

namespace TileAdventure

/-- If the result is a failure, then because actions were nested too deep. -/
def OnlyTooDeep {α : Type} (result : Except Halt α) : Prop :=
  ∀ f, result = .error (.failed f) → ∃ limit path, f = .tooDeep limit path

theorem onlyTooDeep_ok {α : Type} (a : α) : OnlyTooDeep (.ok a : Except Halt α) :=
  fun _ h => nomatch h

theorem onlyTooDeep_lostPlace {α : Type} : OnlyTooDeep (.error .lostPlace : Except Halt α) :=
  fun _ h => nomatch h

theorem OnlyTooDeep.error {α β : Type} {halt : Halt}
    (h : OnlyTooDeep (.error halt : Except Halt α)) :
    OnlyTooDeep (.error halt : Except Halt β) := by
  intro f hf
  cases hf
  exact h f rfl

theorem OnlyTooDeep.map {α β : Type} {result : Except Halt α} (h : OnlyTooDeep result)
    (f : α → β) : OnlyTooDeep (result.map f) := by
  cases result with
  | ok a => exact onlyTooDeep_ok _
  | error halt => exact h.error

/-! ## Furnished rooms -/

theorem Catalogue.Furnishes.modifyAt {sprites : Catalogue} {rooms : Rooms}
    (h : sprites.Furnishes rooms) (room position : Nat) {f : Tile → Tile}
    (hf : ∀ t, (sprites.find? t.sprite).isSome → (sprites.find? (f t).sprite).isSome) :
    sprites.Furnishes (rooms.modifyAt room position f) := by
  intro r hr t ht
  obtain ⟨i, hi⟩ := List.mem_iff_getElem?.mp hr
  obtain ⟨r', hr', t', ht', rfl | rfl⟩ := Rooms.mem_of_modifyAt hi ht
  · exact h r' (List.mem_of_getElem? hr') t ht'
  · exact hf t' (h r' (List.mem_of_getElem? hr') t' ht')

theorem Catalogue.Furnishes.modifyTile {sprites : Catalogue} {rooms : Rooms}
    (h : sprites.Furnishes rooms) (address : TileAddress) {f : Tile → Tile}
    (hf : ∀ t, (sprites.find? t.sprite).isSome → (sprites.find? (f t).sprite).isSome) :
    sprites.Furnishes (rooms.modifyTile address f) := by
  obtain ⟨position, heq, -⟩ := rooms.exists_modifyTile_eq address f
  exact heq ▸ h.modifyAt _ position hf

namespace Scene

variable {setting : Setting} {allowed : Action → Prop} {s t : Scene}

theorem Change.furnished (h : Change setting allowed s t)
    (hs : setting.sprites.Furnishes s.rooms) : setting.sprites.Furnishes t.rooms := by
  cases h with
  | transform tile _ hfind =>
    refine hs.modifyTile tile fun _ _ => ?_
    rw [Catalogue.find?_name hfind]
    rfl
  | markAt room position => exact hs.modifyAt room position fun _ h => h
  | _ => exact hs

/-- All tiles keep having a sprite. -/
theorem Changes.furnished (h : Changes setting allowed s t)
    (hs : setting.sprites.Furnishes s.rooms) : setting.sprites.Furnishes t.rooms :=
  keeps_of_step (I := fun t => setting.sprites.Furnishes t.rooms) Change.furnished h hs

end Scene

/-! ## Performing -/

theorem Bookmarks.onlyTooDeep_current {γ : Type} [Random.Source γ] (marks : Bookmarks)
    (key : SequenceKey) {form : SequenceForm} (source : γ) (h : form.length ≠ 0) :
    OnlyTooDeep (marks.current key form source).1 := by
  unfold current
  rw [if_neg h]
  dsimp only
  split
  · exact onlyTooDeep_ok _
  · exact onlyTooDeep_lostPlace

namespace Setting

variable {w : World} {setting : Setting} {scene : Scene}

/-- The attempt fails only for nesting too deep, and leaves a sprite to every tile. -/
def Fares {α : Type} (setting : Setting) (attempt : Attempt α) : Prop :=
  OnlyTooDeep attempt.1 ∧ setting.sprites.Furnishes attempt.2.rooms

theorem fares_inTurn {α β : Type} {step : α → Scene → Attempt β} {as : List α}
    (h : ∀ a ∈ as, ∀ {scene}, setting.sprites.Furnishes scene.rooms →
      setting.Fares (step a scene))
    (hs : setting.sprites.Furnishes scene.rooms) : setting.Fares (inTurn step as scene) := by
  induction as generalizing scene with
  | nil => exact ⟨onlyTooDeep_ok _, hs⟩
  | cons a as ih =>
    have hstep := h a (by simp) hs
    rw [inTurn]
    generalize step a scene = attempt at hstep ⊢
    obtain ⟨halt | _, after⟩ := attempt
    · exact ⟨hstep.1.error, hstep.2⟩
    · exact ih (fun b hb => h b (by simp [hb])) hstep.2

theorem find?_of_tile? {address : TileAddress} {tile : Tile}
    (hs : setting.sprites.Furnishes scene.rooms) (h : scene.rooms.tile? address = some tile) :
    ∃ sprite, setting.sprites.find? tile.sprite = some sprite := by
  obtain ⟨r, hr, ht⟩ := Option.bind_eq_some_iff.mp h
  exact Option.isSome_iff_exists.mp
    (hs r (List.mem_of_getElem? hr) tile (List.mem_of_find?_eq_some ht))

theorem fares_answer (hadmits : setting.sprites.Admits w.Grounds) {performer : Performer}
    (h : ∀ {action}, w.Grounds action → ∀ tile path {scene},
      setting.sprites.Furnishes scene.rooms → setting.Fares (performer action tile path scene))
    (event : String) (target : TileAddress) (hs : setting.sprites.Furnishes scene.rooms) :
    setting.Fares (setting.answer performer event target scene) := by
  unfold answer
  cases ht : scene.rooms.tile? target with
  | none => exact ⟨onlyTooDeep_ok _, hs⟩
  | some tile =>
    obtain ⟨sprite, hfind⟩ := find?_of_tile? hs ht
    simp only [hfind]
    cases hb : sprite.behavior? event with
    | none => exact ⟨onlyTooDeep_ok _, hs⟩
    | some behavior =>
      exact fares_inTurn
        (fun a ha => h (hadmits.behavior hfind hb _ (mem_answers ha)) target _) hs

/-- Performing a grounded action fails only for nesting too deep. -/
theorem fares_perform (hw : w.Complete) (hsprites : setting.sprites = w.sprites)
    (levels : Nat) {action : Action} (ha : w.Grounds action) (tile : TileAddress)
    (path : ActionPath) (hs : setting.sprites.Furnishes scene.rooms) :
    setting.Fares (setting.perform levels action tile path scene) := by
  have hadmits : setting.sprites.Admits w.Grounds := hsprites ▸ hw.admits
  refine ⟨?_, (changes_perform hadmits levels ha tile path scene).furnished hs⟩
  induction levels generalizing action tile path scene with
  | zero => exact fun f hf => ⟨_, _, by cases hf; rfl⟩
  | succ levels ih =>
    -- nested actions meet the rooms as those before have left them, so both halves are needed
    have hnested : ∀ {action}, w.Grounds action → ∀ tile path {scene},
        setting.sprites.Furnishes scene.rooms →
        setting.Fares (setting.perform levels action tile path scene) :=
      fun ha tile path scene hs =>
        ⟨ih ha tile path hs, (changes_perform hadmits levels ha tile path scene).furnished hs⟩
    cases hshow : scene.gate.showing with
    | true =>
      rw [perform_of_showing hshow]
      exact onlyTooDeep_ok _
    | false =>
      have hn : ¬scene.gate.showing = true := by simp [hshow]
      have hself := ha.self
      cases action with
      | dialog | moveAvatar | removeSelf =>
        rw [perform, if_neg hn]
        exact onlyTooDeep_ok _
      | giveItem item quantity giving =>
        obtain ⟨sprite, hfind⟩ := Option.isSome_iff_exists.mp hself
        rw [perform, if_neg hn, hsprites, hfind]
        exact onlyTooDeep_ok _
      | transformSelf name =>
        obtain ⟨sprite, hfind⟩ := Option.isSome_iff_exists.mp hself
        rw [perform, if_neg hn, hsprites, hfind]
        exact onlyTooDeep_ok _
      | triggerEvent event =>
        rw [perform, if_neg hn]
        exact (fares_inTurn (fun target _ => fares_answer hadmits hnested event target) hs).1.map _
      | conditional comparison item quantity actions =>
        obtain ⟨sprite, hfind⟩ := Option.isSome_iff_exists.mp hself
        rw [perform, if_neg hn, hsprites, hfind]
        dsimp only
        split
        · refine OnlyTooDeep.map (fares_inTurn (fun a hmem => ?_) hs).1 _
          exact hnested (hw.admits.conditional ha _ (List.fst_mem_of_mem_zipIdx hmem)) tile _
        · exact onlyTooDeep_ok _
      | sequence looping shuffled actions =>
        have hlength : actions.length ≠ 0 := by simpa [World.Supports] using hself
        rw [perform, if_neg hn]
        dsimp only
        have hcurrent : setting.Fares
            (scene.currentIndex ⟨tile.tile, path⟩ ⟨actions.length, looping, shuffled⟩) :=
          ⟨scene.bookmarks.onlyTooDeep_current _ scene.random hlength, hs⟩
        generalize scene.currentIndex ⟨tile.tile, path⟩ ⟨actions.length, looping, shuffled⟩ =
          attempt at hcurrent ⊢
        obtain ⟨halt | index, current⟩ := attempt
        · exact hcurrent.1.error
        · dsimp only
          cases hget : actions[index]? with
          | none => exact onlyTooDeep_lostPlace
          | some next =>
            have hrun := hnested (hw.admits.sequence ha _ (List.mem_of_getElem? hget)) tile
              (path.child index) hcurrent.2
            dsimp only
            generalize setting.perform levels next tile (path.child index) current = attempt
              at hrun ⊢
            obtain ⟨halt | _, after⟩ := attempt
            · exact hrun.1.error
            · exact onlyTooDeep_ok _

/-! ## Encounters -/

theorem fares_meetTile (hw : w.Complete) (hsprites : setting.sprites = w.sprites)
    (avatarCell : Int × Int) (room position : Nat) {tile : Tile}
    (htile : (setting.sprites.find? tile.sprite).isSome) (met : Encounter)
    (hs : setting.sprites.Furnishes scene.rooms) :
    setting.Fares (setting.meetTile avatarCell room position tile met scene) := by
  have hadmits : setting.sprites.Admits w.Grounds := hsprites ▸ hw.admits
  refine ⟨?_, (changes_meetTile hadmits avatarCell room position tile met scene).furnished hs⟩
  obtain ⟨sprite, hfind⟩ := Option.isSome_iff_exists.mp htile
  unfold meetTile
  split
  · exact onlyTooDeep_ok _
  simp only [hfind]
  split
  · exact onlyTooDeep_ok _
  have hpicked : setting.sprites.Furnishes
      (if sprite.isItem then scene.pickUp sprite room position else scene).rooms := by
    split
    · have hchanges : Scene.Changes setting w.Grounds scene (scene.pickUp sprite room position) :=
        changes_pickUp hfind room position scene
      exact hchanges.furnished hs
    · exact hs
  generalize (if sprite.isItem then scene.pickUp sprite room position else scene) = picked
    at hpicked ⊢
  split
  · exact onlyTooDeep_ok _
  cases hb : sprite.behavior? Behavior.pushEvent with
  | none => exact onlyTooDeep_ok _
  | some behavior =>
    refine OnlyTooDeep.map (fares_inTurn (fun a ha => ?_) hpicked).1 _
    exact fares_perform hw hsprites _
      (hadmits.behavior hfind hb _ (List.fst_mem_of_mem_zipIdx ha)) _ _

theorem fares_meetTiles (hw : w.Complete) (hsprites : setting.sprites = w.sprites)
    (avatarCell : Int × Int) (room : Nat) (positions : List Nat) (met : Encounter)
    (hs : setting.sprites.Furnishes scene.rooms) :
    setting.Fares (setting.meetTiles avatarCell room positions met scene) := by
  induction positions generalizing met scene with
  | nil => exact ⟨onlyTooDeep_ok _, hs⟩
  | cons position positions ih =>
    rw [meetTiles]
    cases htile : scene.tileAt? room position with
    | none => exact ih met hs
    | some tile =>
      obtain ⟨r, hr, ht⟩ := Option.bind_eq_some_iff.mp htile
      have hmeet := fares_meetTile hw hsprites avatarCell room position
        (hs r (List.mem_of_getElem? hr) tile (List.mem_of_getElem? ht)) met hs
      dsimp only
      generalize setting.meetTile avatarCell room position tile met scene = attempt at hmeet ⊢
      obtain ⟨halt | met', after⟩ := attempt
      · exact ⟨hmeet.1.error, hmeet.2⟩
      · exact ih met' hmeet.2

/-- Meeting the tiles of a cell in a room of the world fails only for nesting too deep. -/
theorem fares_meetCell (hw : w.Complete) (hsprites : setting.sprites = w.sprites)
    (avatarCell : Int × Int) (hroom : scene.target.room < scene.rooms.length)
    (hs : setting.sprites.Furnishes scene.rooms) :
    setting.Fares (setting.meetCell avatarCell scene) := by
  unfold meetCell
  dsimp only
  rw [List.getElem?_eq_getElem hroom]
  exact fares_meetTiles hw hsprites avatarCell _ _ _ hs

end Setting

end TileAdventure
