import TileAdventure.Proofs.Acting.Change
import TileAdventure.Proofs.World.Complete

/-!
# Scenes that are alike

An action does not read the stage, nor the random words unless a sequence is shuffled, nor
what waits in the queue. So in two scenes that differ in these only (`Scene.Alike`) it ends
in the same way and leaves scenes that are alike, if neither it nor any behavior has a
shuffled sequence (`Setting.endAlike_perform`), and so does an encounter
(`Setting.endAlike_meetCell`).
-/

namespace TileAdventure

/-! ## Shuffled sequences -/

/-- Neither the action nor any action in it is a shuffled sequence. -/
def Action.Unshuffled (a : Action) : Prop :=
  ∀ looping actions, ¬a.Contains (.sequence looping true actions)

/-- No action of a behavior is a shuffled sequence or has one in it. -/
def Catalogue.NeverShuffles (sprites : Catalogue) : Prop :=
  ∀ s ∈ sprites.sprites, ∀ b ∈ s.behaviors, ∀ a ∈ b.actions, a.Unshuffled

theorem Catalogue.NeverShuffles.admits {sprites : Catalogue} (h : sprites.NeverShuffles) :
    sprites.Admits Action.Unshuffled where
  conditional ha _ hmem _ _ hb := ha _ _ (.conditional hmem hb)
  sequence ha _ hmem _ _ hb := ha _ _ (.sequence hmem hb)
  behavior hs hb := h _ (List.mem_of_find?_eq_some hs) _ (List.mem_of_find?_eq_some hb)

theorem Action.Unshuffled.sequence {looping shuffled : Bool} {actions : List Action}
    (h : (Action.sequence looping shuffled actions).Unshuffled) : shuffled = false := by
  cases shuffled with
  | false => rfl
  | true => exact (h looping actions (.self _)).elim

mutual

/-- Whether the action or an action in it is a shuffled sequence. -/
def Action.shuffles : Action → Bool
  | .conditional _ _ _ actions => Action.anyShuffles actions
  | .sequence _ shuffled actions => shuffled || Action.anyShuffles actions
  | .dialog _ | .giveItem .. | .transformSelf _ | .moveAvatar .. | .removeSelf
  | .triggerEvent _ => false

/-- Whether one of the actions shuffles. -/
def Action.anyShuffles : List Action → Bool
  | [] => false
  | a :: as => a.shuffles || Action.anyShuffles as

end

namespace Action

theorem anyShuffles_of_mem {a : Action} {actions : List Action} (hmem : a ∈ actions)
    (h : a.shuffles = true) : anyShuffles actions = true := by
  induction actions with
  | nil => cases hmem
  | cons b actions ih =>
    rw [anyShuffles, Bool.or_eq_true]
    rcases List.mem_cons.mp hmem with rfl | hmem
    · exact Or.inl h
    · exact Or.inr (ih hmem)

theorem shuffles_of_contains {a b : Action} (h : a.Contains b) (hb : b.shuffles = true) :
    a.shuffles = true := by
  induction h with
  | self => exact hb
  | conditional hmem _ ih => exact anyShuffles_of_mem hmem (ih hb)
  | sequence hmem _ ih =>
    exact Bool.or_eq_true_iff.mpr (Or.inr (anyShuffles_of_mem hmem (ih hb)))

mutual

theorem contains_of_shuffles : ∀ {a : Action}, a.shuffles = true →
    ∃ looping actions, a.Contains (.sequence looping true actions)
  | .conditional _ _ _ _, h => by
    obtain ⟨a, hmem, looping, actions, ha⟩ := mem_of_anyShuffles h
    exact ⟨looping, actions, .conditional hmem ha⟩
  | .sequence looping true actions, _ => ⟨looping, actions, .self _⟩
  | .sequence _ false _, h => by
    obtain ⟨a, hmem, looping, actions, ha⟩ := mem_of_anyShuffles h
    exact ⟨looping, actions, .sequence hmem ha⟩

theorem mem_of_anyShuffles : ∀ {as : List Action}, anyShuffles as = true →
    ∃ a ∈ as, ∃ looping actions, a.Contains (.sequence looping true actions)
  | a :: as, h => by
    rcases Bool.or_eq_true_iff.mp h with h | h
    · obtain ⟨looping, actions, ha⟩ := contains_of_shuffles h
      exact ⟨a, List.mem_cons_self, looping, actions, ha⟩
    · obtain ⟨b, hmem, hb⟩ := mem_of_anyShuffles h
      exact ⟨b, List.mem_cons_of_mem _ hmem, hb⟩

end

theorem unshuffled_iff {a : Action} : a.Unshuffled ↔ a.shuffles = false := by
  rw [← Bool.not_eq_true]
  constructor
  · intro h hshuffles
    obtain ⟨looping, actions, ha⟩ := contains_of_shuffles hshuffles
    exact h looping actions ha
  · exact fun h looping actions ha => h (shuffles_of_contains ha rfl)

instance (a : Action) : Decidable a.Unshuffled :=
  decidable_of_iff' _ unshuffled_iff

end Action

instance (sprites : Catalogue) : Decidable sprites.NeverShuffles :=
  inferInstanceAs (Decidable (∀ s ∈ sprites.sprites, ∀ b ∈ s.behaviors, ∀ a ∈ b.actions,
    a.Unshuffled))

/-! ## Lookups without random words -/

theorem Random.visitOrder_false {γ : Type} [Random.Source γ] (n : Nat) (source : γ) :
    Random.visitOrder n false source = (List.range n, source) := rfl

namespace Bookmarks

variable {γ : Type} [Random.Source γ] {marks : Bookmarks} {key : SequenceKey}
  {form : SequenceForm}

/-- Looking up a sequence that is not shuffled draws no words. -/
theorem current_of_not_shuffled (h : form.shuffled = false) (source source' : γ) :
    marks.current key form source' =
      ((marks.current key form source).1, (marks.current key form source).2.1, source') := by
  unfold current ensure
  rw [h, Random.visitOrder_false, Random.visitOrder_false]
  split
  · rfl
  · cases marks.get? key with
    | none =>
      dsimp only
      split <;> rfl
    | some mark =>
      dsimp only
      split <;> rfl

/-- Moving a sequence on that is not shuffled draws no words. -/
theorem advance_of_not_shuffled (h : form.shuffled = false) (source source' : γ) :
    marks.advance key form source' = ((marks.advance key form source).1, source') := by
  unfold advance
  rw [h]
  cases marks.get? key with
  | none => rfl
  | some mark =>
    dsimp only
    split
    · rfl
    · split <;> rfl

end Bookmarks

/-! ## Alike scenes -/

/-- `same` still holds of two stages when both are told the same. -/
structure Stage.Parallel (same : Stage → Stage → Prop) : Prop where
  tell {s t : Stage} (notices : List Notice) : same s t → same (s.tell notices) (t.tell notices)
  beginDialog {s t : Stage} (text : String) (atBottom : Bool) : same s t →
    same (s.beginDialog text atBottom) (t.beginDialog text atBottom)

/-- The scenes differ in the random words, in the stage as far as `same` allows, and in the
queue, where `front` stands first in one and `front'` in the other. -/
structure Scene.Alike (same : Stage → Stage → Prop) (front front' : List Deferred)
    (s t : Scene) : Prop where
  rooms : t.rooms = s.rooms
  inventory : t.inventory = s.inventory
  bookmarks : t.bookmarks = s.bookmarks
  target : t.target = s.target
  showing : t.gate.showing = s.gate.showing
  queue : ∃ later, s.gate.queue = front ++ later ∧ t.gate.queue = front' ++ later
  stage : same s.stage t.stage

/-- The attempts end in the same way, in scenes that are alike. -/
def EndAlike {α : Type} (same : Stage → Stage → Prop) (front front' : List Deferred)
    (attempt other : Attempt α) : Prop :=
  ∃ result s t, attempt = (result, s) ∧ other = (result, t) ∧ s.Alike same front front' t

section

variable {same : Stage → Stage → Prop} {front front' : List Deferred} {s t : Scene}

namespace Scene.Alike

theorem defer (h : s.Alike same front front' t) (action : Action) (tile : TileAddress)
    (path : ActionPath) :
    (s.defer action tile path).Alike same front front' (t.defer action tile path) := by
  obtain ⟨later, hs, ht⟩ := h.queue
  refine ⟨h.rooms, h.inventory, h.bookmarks, h.target, h.showing,
    ⟨later ++ [⟨action, tile, s.target, path⟩], ?_, ?_⟩, h.stage⟩
  · simp [Scene.defer, Gate.defer, hs]
  · simp [Scene.defer, Gate.defer, ht, h.target]

theorem beginDialog (hsame : Stage.Parallel same) (h : s.Alike same front front' t)
    (setting : Setting) (text : String) :
    (s.beginDialog setting text).Alike same front front' (t.beginDialog setting text) := by
  refine ⟨h.rooms, h.inventory, h.bookmarks, h.target, rfl, h.queue, ?_⟩
  unfold Scene.beginDialog
  rw [h.target]
  exact hsame.beginDialog _ _ h.stage

theorem addItem (h : s.Alike same front front' t) (item : String) (change : Int) :
    (s.addItem item change).Alike same front front' (t.addItem item change) :=
  { h with inventory := congrArg (·.add item change) h.inventory }

theorem modifyTile (h : s.Alike same front front' t) (tile : TileAddress) (f : Tile → Tile) :
    (s.modifyTile tile f).Alike same front front' (t.modifyTile tile f) :=
  { h with rooms := congrArg (·.modifyTile tile f) h.rooms }

theorem markAt (h : s.Alike same front front' t) (room position : Nat) :
    (s.markAt room position).Alike same front front' (t.markAt room position) :=
  { h with rooms := congrArg (·.modifyAt room position Tile.mark) h.rooms }

theorem transform (hsame : Stage.Parallel same) (h : s.Alike same front front' t)
    (setting : Setting) (tile : TileAddress) (sprite : Sprite) :
    (s.transform setting tile sprite).Alike same front front'
      (t.transform setting tile sprite) :=
  { h.modifyTile tile fun t => { t with sprite := sprite.name } with
    stage := hsame.tell _ h.stage }

theorem redirect (h : s.Alike same front front' t) (target : Location) :
    Alike same front front' { s with target } { t with target } :=
  { h with target := rfl }

theorem currentIndex (h : s.Alike same front front' t) (key : SequenceKey)
    {form : SequenceForm} (hform : form.shuffled = false) :
    EndAlike same front front' (s.currentIndex key form) (t.currentIndex key form) := by
  unfold Scene.currentIndex
  rw [h.bookmarks, Bookmarks.current_of_not_shuffled hform s.random t.random]
  exact ⟨_, _, _, rfl, rfl, { h with bookmarks := rfl }⟩

theorem advance (h : s.Alike same front front' t) (key : SequenceKey)
    {form : SequenceForm} (hform : form.shuffled = false) :
    (s.advance key form).Alike same front front' (t.advance key form) := by
  unfold Scene.advance
  rw [h.bookmarks, Bookmarks.advance_of_not_shuffled hform s.random t.random]
  exact { h with bookmarks := rfl }

end Scene.Alike

/-! ## Attempts -/

theorem Scene.Alike.endAlike {α : Type} (h : s.Alike same front front' t)
    (result : Except Halt α) : EndAlike same front front' (result, s) (result, t) :=
  ⟨result, s, t, rfl, rfl, h⟩

theorem EndAlike.executed {α : Type} {attempt other : Attempt α}
    (h : EndAlike same front front' attempt other) :
    EndAlike same front front' (executed attempt) (executed other) := by
  obtain ⟨result, s, t, rfl, rfl, h⟩ := h
  exact h.endAlike _

theorem endAlike_inTurn {α β : Type} {step : α → Scene → Attempt β} {as : List α}
    (hstep : ∀ a ∈ as, ∀ ⦃s t : Scene⦄, s.Alike same front front' t →
      EndAlike same front front' (step a s) (step a t))
    (h : s.Alike same front front' t) :
    EndAlike same front front' (inTurn step as s) (inTurn step as t) := by
  induction as generalizing s t with
  | nil => exact h.endAlike _
  | cons a as ih =>
    obtain ⟨result, s', t', hs, ht, h'⟩ := hstep a List.mem_cons_self h
    rw [inTurn, inTurn, hs, ht]
    cases result with
    | error halt => exact h'.endAlike _
    | ok b => exact ih (fun a ha => hstep a (List.mem_cons_of_mem _ ha)) h'

namespace Setting

variable {setting : Setting}

theorem endAlike_answer (hnever : setting.sprites.NeverShuffles) {performer : Performer}
    (hperform : ∀ ⦃action : Action⦄, action.Unshuffled → ∀ tile path ⦃s t : Scene⦄,
      s.Alike same front front' t →
      EndAlike same front front' (performer action tile path s) (performer action tile path t))
    (event : String) (target : TileAddress) (h : s.Alike same front front' t) :
    EndAlike same front front' (setting.answer performer event target s)
      (setting.answer performer event target t) := by
  unfold answer
  rw [h.rooms]
  split
  · exact h.endAlike _
  · split
    · exact h.endAlike _
    · rename_i sprite hs
      split
      · exact h.endAlike _
      · rename_i behavior hb
        exact endAlike_inTurn
          (fun a ha => hperform (hnever.admits.behavior hs hb _ (mem_answers ha)) target _) h

/-- An action without shuffled sequences ends alike in scenes that are alike. -/
theorem endAlike_perform (hsame : Stage.Parallel same) (hnever : setting.sprites.NeverShuffles)
    (levels : Nat) ⦃action : Action⦄ (ha : action.Unshuffled) (tile : TileAddress)
    (path : ActionPath) ⦃s t : Scene⦄ (h : s.Alike same front front' t) :
    EndAlike same front front' (setting.perform levels action tile path s)
      (setting.perform levels action tile path t) := by
  induction levels generalizing action tile path s t with
  | zero => exact h.endAlike _
  | succ levels ih =>
    cases hs : s.gate.showing with
    | true =>
      rw [perform_of_showing hs, perform_of_showing (h.showing.trans hs)]
      exact (h.defer action tile path).endAlike _
    | false =>
      have hn : ¬s.gate.showing = true := by simp [hs]
      have hn' : ¬t.gate.showing = true := by simp [h.showing, hs]
      cases action with
      | dialog text =>
        rw [perform, perform, if_neg hn, if_neg hn']
        exact (h.beginDialog hsame setting text).endAlike _
      | giveItem item quantity giving =>
        rw [perform, perform, if_neg hn, if_neg hn']
        cases setting.sprites.find? item with
        | none => exact h.endAlike _
        | some _ => exact (h.addItem item _).endAlike _
      | transformSelf name =>
        rw [perform, perform, if_neg hn, if_neg hn']
        cases setting.sprites.find? name with
        | none => exact h.endAlike _
        | some sprite => exact (h.transform hsame setting tile sprite).endAlike _
      | moveAvatar room x y =>
        rw [perform, perform, if_neg hn, if_neg hn']
        exact (h.redirect ⟨room, x, y⟩).endAlike _
      | removeSelf =>
        rw [perform, perform, if_neg hn, if_neg hn']
        exact (h.modifyTile tile _).endAlike _
      | triggerEvent event =>
        rw [perform, perform, if_neg hn, if_neg hn', broadcast, broadcast, h.rooms]
        exact (endAlike_inTurn
          (fun target _ _ _ => endAlike_answer hnever ih event target) h).executed
      | conditional comparison item quantity actions =>
        rw [perform, perform, if_neg hn, if_neg hn', h.inventory]
        cases setting.sprites.find? item with
        | none => exact h.endAlike _
        | some _ =>
          dsimp only
          split
          · refine (endAlike_inTurn (fun a hmem => ?_) h).executed
            exact ih (hnever.admits.conditional ha _ (List.fst_mem_of_mem_zipIdx hmem)) tile _
          · exact h.endAlike _
      | sequence looping shuffled actions =>
        have hform : (⟨actions.length, looping, shuffled⟩ : SequenceForm).shuffled = false :=
          ha.sequence
        obtain ⟨result, s', t', hs, ht, h'⟩ := h.currentIndex ⟨tile.tile, path⟩ hform
        rw [perform, perform, if_neg hn, if_neg hn']
        dsimp only
        rw [hs, ht]
        cases result with
        | error halt => exact h'.endAlike _
        | ok index =>
          dsimp only
          cases hget : actions[index]? with
          | none => exact h'.endAlike _
          | some next =>
            obtain ⟨result, s', t', hs, ht, h'⟩ := ih
              (hnever.admits.sequence ha _ (List.mem_of_getElem? hget)) tile (path.child index) h'
            dsimp only
            rw [hs, ht]
            cases result with
            | error halt => exact h'.endAlike _
            | ok _ => exact (h'.advance ⟨tile.tile, path⟩ hform).endAlike _

/-! ## Encounters -/

theorem endAlike_push (hsame : Stage.Parallel same) (hnever : setting.sprites.NeverShuffles)
    {name : String} {sprite : Sprite} {behavior : Behavior}
    (hs : setting.sprites.find? name = some sprite)
    (hb : sprite.behavior? Behavior.pushEvent = some behavior) (tile : TileAddress)
    (h : s.Alike same front front' t) :
    EndAlike same front front' (setting.push behavior tile s) (setting.push behavior tile t) :=
  endAlike_inTurn
    (fun _ ha => endAlike_perform hsame hnever _
      (hnever.admits.behavior hs hb _ (List.fst_mem_of_mem_zipIdx ha)) tile _) h

theorem endAlike_meetTile (hsame : Stage.Parallel same) (hnever : setting.sprites.NeverShuffles)
    (avatarCell : Int × Int) (room position : Nat) (tile : Tile) (met : Encounter)
    (h : s.Alike same front front' t) :
    EndAlike same front front' (setting.meetTile avatarCell room position tile met s)
      (setting.meetTile avatarCell room position tile met t) := by
  have hcell : t.isOnTarget tile = s.isOnTarget tile := by
    unfold Scene.isOnTarget
    rw [h.target]
  unfold meetTile
  rw [hcell]
  split
  · exact h.endAlike _
  cases hs : setting.sprites.find? tile.sprite with
  | none => exact h.endAlike _
  | some sprite =>
    dsimp only
    split
    · exact h.endAlike _
    obtain ⟨s', hs', t', ht', h'⟩ : ∃ s', (if sprite.isItem then s.pickUp sprite room position
        else s) = s' ∧ ∃ t', (if sprite.isItem then t.pickUp sprite room position else t) = t' ∧
          s'.Alike same front front' t' := by
      refine ⟨_, rfl, _, rfl, ?_⟩
      split
      · exact (h.addItem sprite.name 1).markAt _ _
      · exact h
    have htarget : t'.targetIs avatarCell = s'.targetIs avatarCell := by
      unfold Scene.targetIs
      rw [h'.target]
    rw [hs', ht', htarget]
    split
    · exact h'.endAlike _
    cases hb : sprite.behavior? Behavior.pushEvent with
    | none => exact h'.endAlike _
    | some behavior =>
      obtain ⟨result, _, _, hpush, hpush', h''⟩ :=
        endAlike_push hsame hnever hs hb ⟨room, tile.id⟩ h'
      dsimp only
      rw [hpush, hpush']
      exact h''.endAlike _

theorem endAlike_meetTiles (hsame : Stage.Parallel same)
    (hnever : setting.sprites.NeverShuffles) (avatarCell : Int × Int) (room : Nat)
    (positions : List Nat) (met : Encounter) (h : s.Alike same front front' t) :
    EndAlike same front front' (setting.meetTiles avatarCell room positions met s)
      (setting.meetTiles avatarCell room positions met t) := by
  induction positions generalizing met s t with
  | nil => exact h.endAlike _
  | cons position positions ih =>
    have htile : t.tileAt? room position = s.tileAt? room position := by
      unfold Scene.tileAt?
      rw [h.rooms]
    rw [meetTiles, meetTiles, htile]
    cases s.tileAt? room position with
    | none => exact ih met h
    | some tile =>
      obtain ⟨result, s', t', hs, ht, h'⟩ :=
        endAlike_meetTile hsame hnever avatarCell room position tile met h
      dsimp only
      rw [hs, ht]
      cases result with
      | error halt => exact h'.endAlike _
      | ok met => exact ih met h'

/-- Where nothing shuffles, an encounter ends alike in scenes that are alike. -/
theorem endAlike_meetCell (hsame : Stage.Parallel same) (hnever : setting.sprites.NeverShuffles)
    (avatarCell : Int × Int) (h : s.Alike same front front' t) :
    EndAlike same front front' (setting.meetCell avatarCell s)
      (setting.meetCell avatarCell t) := by
  unfold meetCell
  dsimp only
  rw [h.target, h.rooms]
  split
  · exact h.endAlike _
  · exact endAlike_meetTiles hsame hnever avatarCell _ _ _ h

end Setting

end

end TileAdventure
