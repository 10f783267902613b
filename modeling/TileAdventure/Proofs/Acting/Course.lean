import TileAdventure.Proofs.Acting.Dispatch
import TileAdventure.Proofs.World.Occurrence

/-!
# The course of acting

`Scene.Acts` follows acting from one scene to another beside what comes up on the way and
how it ends. In contrast to `Scene.Change` it knows which action makes a change, and that a
sequence runs one of its actions between looking up its bookmark and moving it on. Performing
an action and meeting the tiles of a cell are such courses (`Setting.acts_perform`,
`Setting.acts_meetCell`), with just the dispatches of `Setting.dispatches`.

Actions are followed that are `placed` on their tile and path. It has to pass from an action
to those right below it and has to hold of what a tile answers to an event
(`Setting.Places`).
-/

namespace TileAdventure

/-- How an attempt ends, whatever it results in. -/
def ending {α : Type} (attempt : Attempt α) : Except Halt Unit :=
  attempt.1.map fun _ => ()

/-- An action comes up in a scene. -/
def Scene.dispatch (s : Scene) (depth : Nat) (action : Action) (tile : TileAddress)
    (path : ActionPath) : Dispatch :=
  ⟨depth, ⟨action, tile, s.target, path⟩, s.gate.showing⟩

/-- What an action without actions in it does to a scene. -/
inductive Action.Does (setting : Setting) (tile : TileAddress) : Action → Scene → Scene → Prop
  | dialog (text : String) (s : Scene) :
      Does setting tile (.dialog text) s (s.beginDialog setting text)
  | giveItem (item : String) (quantity : Int) (giving : Bool) (s : Scene) :
      Does setting tile (.giveItem item quantity giving) s
        (s.addItem item (Inventory.transfer quantity giving))
  | transformSelf {name : String} {sprite : Sprite} (s : Scene) :
      setting.sprites.find? name = some sprite →
      Does setting tile (.transformSelf name) s (s.transform setting tile sprite)
  | moveAvatar (room : Nat) (x y : Int) (s : Scene) :
      Does setting tile (.moveAvatar room x y) s { s with target := ⟨room, x, y⟩ }
  | removeSelf (s : Scene) : Does setting tile .removeSelf s (s.markRemoved tile)

/-- Acting leads from a scene to another, with these dispatches on the way and this
ending. -/
inductive Scene.Acts (setting : Setting) (placed : TileAddress → ActionPath → Action → Prop) :
    Scene → List Dispatch → Except Halt Unit → Scene → Prop
  | refl (s : Scene) : Acts setting placed s [] (.ok ()) s
  | trans {s t u : Scene} {ds more : List Dispatch} {e : Except Halt Unit} :
      Acts setting placed s ds (.ok ()) t → Acts setting placed t more e u →
      Acts setting placed s (ds ++ more) e u
  | fail (s : Scene) (f : Failure) : Acts setting placed s [] (.error (.failed f)) s
  | pickUp (s : Scene) (sprite : Sprite) (room position : Nat) :
      Acts setting placed s [] (.ok ()) (s.pickUp sprite room position)
  | effect {s t : Scene} {action : Action} {tile : TileAddress} {path : ActionPath} :
      placed tile path action → action.Does setting tile s t →
      Acts setting placed s [] (.ok ()) t
  | defer {s : Scene} {action : Action} {tile : TileAddress} {path : ActionPath}
      (depth : Nat) : placed tile path action → s.gate.showing = true →
      Acts setting placed s [s.dispatch depth action tile path] (.ok ())
        (s.defer action tile path)
  /-- An action that is no sequence comes up, and all it does is within it. -/
  | perform {s t : Scene} {action : Action} {tile : TileAddress} {path : ActionPath}
      {depth : Nat} {ds : List Dispatch} {e : Except Halt Unit} :
      placed tile path action → s.gate.showing = false → action.kind ≠ .sequence →
      (∀ y ∈ ds, depth < y.depth) → Acts setting placed s ds e t →
      Acts setting placed s (s.dispatch depth action tile path :: ds) e t
  /-- A sequence has no index at its bookmark. -/
  | stuck {s t : Scene} {looping shuffled : Bool} {actions : List Action}
      {tile : TileAddress} {path : ActionPath} {halt : Halt} (depth : Nat) :
      placed tile path (.sequence looping shuffled actions) → s.gate.showing = false →
      s.currentIndex ⟨tile.tile, path⟩ ⟨actions.length, looping, shuffled⟩ =
        (.error halt, t) →
      Acts setting placed s [s.dispatch depth (.sequence looping shuffled actions) tile path]
        (.error halt) t
  /-- A sequence has no action at the index of its bookmark. -/
  | lost {s t : Scene} {looping shuffled : Bool} {actions : List Action}
      {tile : TileAddress} {path : ActionPath} {index : Nat} (depth : Nat) :
      placed tile path (.sequence looping shuffled actions) → s.gate.showing = false →
      s.currentIndex ⟨tile.tile, path⟩ ⟨actions.length, looping, shuffled⟩ =
        (.ok index, t) →
      actions[index]? = none →
      Acts setting placed s [s.dispatch depth (.sequence looping shuffled actions) tile path]
        (.error .lostPlace) t
  /-- A sequence has an action to run, but no level is left for it. -/
  | deep {s t : Scene} {looping shuffled : Bool} {actions : List Action}
      {tile : TileAddress} {path : ActionPath} {index : Nat} (depth : Nat) (f : Failure) :
      placed tile path (.sequence looping shuffled actions) → s.gate.showing = false →
      s.currentIndex ⟨tile.tile, path⟩ ⟨actions.length, looping, shuffled⟩ =
        (.ok index, t) →
      Acts setting placed s [s.dispatch depth (.sequence looping shuffled actions) tile path]
        (.error (.failed f)) t
  /-- A sequence runs one of its actions and moves on. -/
  | visit {s t u : Scene} {looping shuffled : Bool} {actions : List Action}
      {tile : TileAddress} {path : ActionPath} {depth index : Nat} {action : Action}
      {ds : List Dispatch} :
      placed tile path (.sequence looping shuffled actions) → s.gate.showing = false →
      s.currentIndex ⟨tile.tile, path⟩ ⟨actions.length, looping, shuffled⟩ =
        (.ok index, t) →
      actions[index]? = some action →
      (∀ y ∈ t.dispatch (depth + 1) action tile (path.child index) :: ds, depth < y.depth) →
      Acts setting placed t (t.dispatch (depth + 1) action tile (path.child index) :: ds)
        (.ok ()) u →
      Acts setting placed s
        (s.dispatch depth (.sequence looping shuffled actions) tile path ::
          t.dispatch (depth + 1) action tile (path.child index) :: ds)
        (.ok ()) (u.advance ⟨tile.tile, path⟩ ⟨actions.length, looping, shuffled⟩)
  /-- A sequence runs one of its actions, which halts. -/
  | halt {s t u : Scene} {looping shuffled : Bool} {actions : List Action}
      {tile : TileAddress} {path : ActionPath} {depth index : Nat} {action : Action}
      {ds : List Dispatch} {h : Halt} :
      placed tile path (.sequence looping shuffled actions) → s.gate.showing = false →
      s.currentIndex ⟨tile.tile, path⟩ ⟨actions.length, looping, shuffled⟩ =
        (.ok index, t) →
      actions[index]? = some action →
      (∀ y ∈ t.dispatch (depth + 1) action tile (path.child index) :: ds, depth < y.depth) →
      Acts setting placed t (t.dispatch (depth + 1) action tile (path.child index) :: ds)
        (.error h) u →
      Acts setting placed s
        (s.dispatch depth (.sequence looping shuffled actions) tile path ::
          t.dispatch (depth + 1) action tile (path.child index) :: ds)
        (.error h) u

/-- Whatever comes up where `I` holds of the rooms is placed. -/
structure Setting.Places (setting : Setting)
    (placed : TileAddress → ActionPath → Action → Prop) (I : Rooms → Prop) : Prop where
  inner {tile : TileAddress} {path : ActionPath} {parent action : Action} {index : Nat} :
    placed tile path parent → parent.inner[index]? = some action →
    placed tile (path.child index) action
  behavior {rooms : Rooms} {tile : Tile} {address : TileAddress} {sprite : Sprite}
      {event : String} {behavior : Behavior} {action : Action} {index : Nat} :
    I rooms → tile ∈ rooms.tiles → tile.id = address.tile →
    setting.sprites.find? tile.sprite = some sprite → sprite.behavior? event = some behavior →
    behavior.actions[index]? = some action → placed address (.root event index) action
  acts {s t : Scene} {ds : List Dispatch} {e : Except Halt Unit} :
    s.Acts setting placed ds e t → I s.rooms → I t.rooms

/-- Every action is followed, wherever it comes up. -/
theorem Setting.places_true (setting : Setting) :
    setting.Places (fun _ _ _ => True) fun _ => True :=
  ⟨fun _ _ => trivial, fun _ _ _ _ _ _ => trivial, fun _ _ => trivial⟩

/-! ## Tiles and behaviors -/

theorem Rooms.mem_of_tile? {rooms : Rooms} {address : TileAddress} {tile : Tile}
    (h : rooms.tile? address = some tile) : tile ∈ rooms.tiles ∧ tile.id = address.tile := by
  obtain ⟨r, hr, ht⟩ := Option.bind_eq_some_iff.mp h
  exact ⟨List.mem_flatMap.mpr ⟨r, List.mem_of_getElem? hr, List.mem_of_find?_eq_some ht⟩,
    by simpa using List.find?_some ht⟩

theorem Scene.mem_of_tileAt? {s : Scene} {room position : Nat} {tile : Tile}
    (h : s.tileAt? room position = some tile) : tile ∈ s.rooms.tiles := by
  obtain ⟨r, hr, ht⟩ := Option.bind_eq_some_iff.mp h
  exact List.mem_flatMap.mpr ⟨r, List.mem_of_getElem? hr, List.mem_of_getElem? ht⟩

theorem getElem?_of_mem_answers {b : Behavior} {event : String} {a : Action × Nat}
    (h : a ∈ b.answers event) : b.actions[a.2]? = some a.1 :=
  List.mem_zipIdx_iff_getElem?.mp (List.mem_filter.mp h).1

/-- Looking up a bookmark changes the bookmarks and draws random words. -/
theorem Scene.currentIndex_eq {s t : Scene} {key : SequenceKey} {form : SequenceForm}
    {r : Except Halt Nat} : s.currentIndex key form = (r, t) ↔
      ∃ marks random, s.bookmarks.current key form s.random = (r, marks, random) ∧
        t = { s with bookmarks := marks, random } := by
  unfold currentIndex
  rcases s.bookmarks.current key form s.random with ⟨r', marks, random⟩
  constructor
  · rintro ⟨⟩
    exact ⟨marks, random, rfl, rfl⟩
  · rintro ⟨marks', random', ⟨⟩, rfl⟩
    rfl

/-! ## Performing -/

@[simp] theorem ending_ok {α : Type} (a : α) (s : Scene) : ending (.ok a, s) = .ok () := rfl

@[simp] theorem ending_error {α : Type} (halt : Halt) (s : Scene) :
    ending ((.error halt, s) : Attempt α) = .error halt := rfl

@[simp] theorem ending_map {α β : Type} (attempt : Attempt α) (f : α → β) (s : Scene) :
    ending (attempt.1.map f, s) = ending attempt := by
  obtain ⟨_ | _, _⟩ := attempt <;> rfl

@[simp] theorem ending_executed {α : Type} (attempt : Attempt α) :
    ending (executed attempt) = ending attempt :=
  ending_map ..

namespace Setting

variable {setting : Setting} {placed : TileAddress → ActionPath → Action → Prop}
  {I : Rooms → Prop} {scene : Scene}

theorem acts_inTurn (hplaces : setting.Places placed I) {α β : Type}
    {step : α → Scene → Attempt β} {observe : α → Scene → List Dispatch} {as : List α}
    (h : ∀ a ∈ as, ∀ {scene : Scene}, I scene.rooms →
      scene.Acts setting placed (observe a scene) (ending (step a scene)) (step a scene).2)
    (hs : I scene.rooms) :
    scene.Acts setting placed (dispatchesInTurn step observe as scene)
      (ending (inTurn step as scene)) (inTurn step as scene).2 := by
  induction as generalizing scene with
  | nil => exact .refl scene
  | cons a as ih =>
    have hstep := h a (by simp) hs
    rw [inTurn, dispatchesInTurn]
    generalize step a scene = attempt at hstep ⊢
    obtain ⟨halt | b, after⟩ := attempt
    · simpa using hstep
    · exact hstep.trans (ih (fun b hb => h b (by simp [hb])) (hplaces.acts hstep hs))

theorem acts_answer (hplaces : setting.Places placed I) {performer : Performer}
    {observer : Observer}
    (h : ∀ {action tile path}, placed tile path action → ∀ {scene : Scene}, I scene.rooms →
      scene.Acts setting placed (observer action tile path scene)
        (ending (performer action tile path scene)) (performer action tile path scene).2)
    (event : String) (target : TileAddress) (hs : I scene.rooms) :
    scene.Acts setting placed
      (setting.dispatchesInAnswer performer observer event target scene)
      (ending (setting.answer performer event target scene))
      (setting.answer performer event target scene).2 := by
  unfold answer dispatchesInAnswer
  cases ht : scene.rooms.tile? target with
  | none => exact .refl scene
  | some tile =>
    obtain ⟨hmem, hid⟩ := Rooms.mem_of_tile? ht
    cases hfind : setting.sprites.find? tile.sprite with
    | none =>
      simp only [hfind]
      exact .fail scene _
    | some sprite =>
      cases hb : sprite.behavior? event with
      | none =>
        simp only [hfind, hb]
        exact .refl scene
      | some behavior =>
        simp only [hfind, hb]
        exact acts_inTurn hplaces
          (fun a ha _ => h (hplaces.behavior hs hmem hid hfind hb (getElem?_of_mem_answers ha)))
          hs

theorem dispatches_of_showing (depth levels : Nat) (action : Action) (tile : TileAddress)
    (path : ActionPath) (h : scene.gate.showing = true) :
    setting.dispatches depth (levels + 1) action tile path scene =
      [scene.dispatch depth action tile path] := by
  simp [dispatches, Scene.dispatch, h]

theorem dispatches_of_not_showing (depth levels : Nat) (action : Action)
    (tile : TileAddress) (path : ActionPath) (h : scene.gate.showing = false) :
    setting.dispatches depth (levels + 1) action tile path scene =
      scene.dispatch depth action tile path ::
        setting.dispatchesWithin (setting.perform levels)
          (setting.dispatches (depth + 1) levels) action tile path scene := by
  simp [dispatches, Scene.dispatch, h]

theorem deeper_of_mem_within {depth levels : Nat} {action : Action} {tile : TileAddress}
    {path : ActionPath} {x : Dispatch}
    (h : x ∈ setting.dispatchesWithin (setting.perform levels)
      (setting.dispatches (depth + 1) levels) action tile path scene) : depth < x.depth := by
  obtain ⟨_, _, _, _, hx⟩ := mem_dispatchesWithin h
  exact depth_le_of_mem_dispatches hx

/-- A sequence acts as it should if the actions in it do. -/
theorem acts_sequence (hplaces : setting.Places placed I) {levels depth : Nat}
    {looping shuffled : Bool} {actions : List Action} {tile : TileAddress} {path : ActionPath}
    (h : ∀ {action path}, placed tile path action → ∀ {scene : Scene}, I scene.rooms →
      scene.Acts setting placed
        (setting.dispatches (depth + 1) levels action tile path scene)
        (ending (setting.perform levels action tile path scene))
        (setting.perform levels action tile path scene).2)
    (hp : placed tile path (.sequence looping shuffled actions))
    (hshow : scene.gate.showing = false) (hs : I scene.rooms) :
    scene.Acts setting placed
      (scene.dispatch depth (.sequence looping shuffled actions) tile path ::
        setting.dispatchesWithin (setting.perform levels)
          (setting.dispatches (depth + 1) levels) (.sequence looping shuffled actions) tile
          path scene)
      (ending (setting.perform (levels + 1) (.sequence looping shuffled actions) tile path
        scene))
      (setting.perform (levels + 1) (.sequence looping shuffled actions) tile path
        scene).2 := by
  have hn : ¬scene.gate.showing = true := by simp [hshow]
  rw [perform, if_neg hn, dispatchesWithin]
  dsimp only
  rcases hcurrent : scene.currentIndex ⟨tile.tile, path⟩ ⟨actions.length, looping, shuffled⟩ with
    ⟨halt | index, current⟩
  · exact .stuck depth hp hshow hcurrent
  dsimp only
  cases hget : actions[index]? with
  | none => exact .lost depth hp hshow hcurrent hget
  | some action =>
    have hrooms : I current.rooms := by
      obtain ⟨_, _, -, rfl⟩ := Scene.currentIndex_eq.mp hcurrent
      exact hs
    have hrun := h (hplaces.inner hp hget) hrooms
    have hdeeper : ∀ y ∈ setting.dispatches (depth + 1) levels action tile (path.child index)
        current, depth < y.depth := fun y hy => depth_le_of_mem_dispatches hy
    dsimp only
    cases levels with
    | zero => exact .deep depth _ hp hshow hcurrent
    | succ levels =>
      obtain ⟨nested, hhead, -⟩ := setting.dispatches_succ (depth + 1) levels action tile
        (path.child index) current
      rw [hhead] at hrun hdeeper ⊢
      generalize setting.perform (levels + 1) action tile (path.child index) current = attempt
        at hrun ⊢
      obtain ⟨halt | _, after⟩ := attempt
      · exact .halt hp hshow hcurrent hget hdeeper hrun
      · exact .visit hp hshow hcurrent hget hdeeper hrun

/-- An action without a sequence around it acts as it should if the actions in it do. -/
theorem acts_within (hplaces : setting.Places placed I) {levels : Nat} {observer : Observer}
    (h : ∀ {action tile path}, placed tile path action → ∀ {scene : Scene}, I scene.rooms →
      scene.Acts setting placed (observer action tile path scene)
        (ending (setting.perform levels action tile path scene))
        (setting.perform levels action tile path scene).2)
    {action : Action} {tile : TileAddress} {path : ActionPath} (hp : placed tile path action)
    (hkind : action.kind ≠ .sequence) (hshow : scene.gate.showing = false)
    (hs : I scene.rooms) :
    scene.Acts setting placed
      (setting.dispatchesWithin (setting.perform levels) observer action tile path scene)
      (ending (setting.perform (levels + 1) action tile path scene))
      (setting.perform (levels + 1) action tile path scene).2 := by
  have hn : ¬scene.gate.showing = true := by simp [hshow]
  cases action with
  | dialog text =>
    rw [perform, if_neg hn]
    exact .effect hp (.dialog text scene)
  | giveItem item quantity giving =>
    rw [perform, if_neg hn]
    split
    · exact .fail scene _
    · exact .effect hp (.giveItem item quantity giving scene)
  | transformSelf name =>
    rw [perform, if_neg hn]
    split
    · exact .fail scene _
    · rename_i hfind
      exact .effect hp (.transformSelf scene hfind)
  | moveAvatar room x y =>
    rw [perform, if_neg hn]
    exact .effect hp (.moveAvatar room x y scene)
  | removeSelf =>
    rw [perform, if_neg hn]
    exact .effect hp (.removeSelf scene)
  | triggerEvent event =>
    rw [perform, if_neg hn, ending_executed]
    exact acts_inTurn hplaces (fun target _ _ => acts_answer hplaces h event target) hs
  | conditional comparison item quantity actions =>
    rw [perform, if_neg hn, dispatchesWithin]
    rcases setting.sprites.find? item with _ | sprite
    · exact .fail scene _
    · dsimp only
      split
      · rw [ending_executed]
        refine acts_inTurn hplaces (fun a ha _ => h (hplaces.inner hp ?_)) hs
        exact List.mem_zipIdx_iff_getElem?.mp ha
      · exact .refl scene
  | sequence => exact (hkind rfl).elim

/-- Performing an action that is placed is a course of acting. -/
theorem acts_perform (hplaces : setting.Places placed I) (depth levels : Nat)
    {action : Action} {tile : TileAddress} {path : ActionPath} (hp : placed tile path action)
    (hs : I scene.rooms) :
    scene.Acts setting placed (setting.dispatches depth levels action tile path scene)
      (ending (setting.perform levels action tile path scene))
      (setting.perform levels action tile path scene).2 := by
  induction levels generalizing depth action tile path scene with
  | zero => exact .fail scene _
  | succ levels ih =>
    cases hshow : scene.gate.showing with
    | true =>
      rw [dispatches_of_showing depth levels action tile path hshow, perform_of_showing hshow]
      exact .defer depth hp hshow
    | false =>
      rw [dispatches_of_not_showing depth levels action tile path hshow]
      by_cases hkind : action.kind = .sequence
      · cases action with
        | sequence => exact acts_sequence hplaces (fun hp _ => ih (depth + 1) hp) hp hshow hs
        | _ => cases hkind
      · exact .perform hp hshow hkind (fun y hy => deeper_of_mem_within hy)
          (acts_within hplaces (fun hp _ => ih (depth + 1) hp) hp hkind hshow hs)

/-! ## Encounters -/

theorem acts_push (hplaces : setting.Places placed I) {tile : Tile} {address : TileAddress}
    {sprite : Sprite} {behavior : Behavior} {rooms : Rooms} (hrooms : I rooms)
    (hmem : tile ∈ rooms.tiles) (hid : tile.id = address.tile)
    (hfind : setting.sprites.find? tile.sprite = some sprite)
    (hb : sprite.behavior? Behavior.pushEvent = some behavior) (hs : I scene.rooms) :
    scene.Acts setting placed (setting.dispatchesInPush behavior address scene)
      (ending (setting.push behavior address scene)) (setting.push behavior address scene).2 := by
  refine acts_inTurn hplaces (fun a ha _ => acts_perform hplaces 0 _ ?_) hs
  exact hplaces.behavior hrooms hmem hid hfind hb (List.mem_zipIdx_iff_getElem?.mp ha)

theorem acts_meetTile (hplaces : setting.Places placed I) (avatarCell : Int × Int)
    (room position : Nat) {tile : Tile} (met : Encounter) (hmem : tile ∈ scene.rooms.tiles)
    (hs : I scene.rooms) :
    scene.Acts setting placed (setting.dispatchesAtTile avatarCell room position tile scene)
      (ending (setting.meetTile avatarCell room position tile met scene))
      (setting.meetTile avatarCell room position tile met scene).2 := by
  unfold meetTile dispatchesAtTile
  split
  · exact .refl scene
  cases hfind : setting.sprites.find? tile.sprite with
  | none => exact .fail scene _
  | some sprite =>
    dsimp only
    split
    · exact .refl scene
    have hpick : scene.Acts setting placed [] (.ok ())
        (if sprite.isItem then scene.pickUp sprite room position else scene) := by
      split
      · exact .pickUp scene sprite room position
      · exact .refl scene
    generalize (if sprite.isItem then scene.pickUp sprite room position else scene) = picked
      at hpick ⊢
    split
    · exact hpick
    cases hb : sprite.behavior? Behavior.pushEvent with
    | none => exact hpick
    | some behavior =>
      dsimp only
      rw [ending_map]
      exact hpick.trans (acts_push hplaces hs hmem rfl hfind hb (hplaces.acts hpick hs))

theorem acts_meetTiles (hplaces : setting.Places placed I) (avatarCell : Int × Int)
    (room : Nat) (positions : List Nat) (met : Encounter) (hs : I scene.rooms) :
    scene.Acts setting placed (setting.dispatchesAtTiles avatarCell room positions met scene)
      (ending (setting.meetTiles avatarCell room positions met scene))
      (setting.meetTiles avatarCell room positions met scene).2 := by
  induction positions generalizing met scene with
  | nil => exact .refl scene
  | cons position positions ih =>
    rw [meetTiles, dispatchesAtTiles]
    cases htile : scene.tileAt? room position with
    | none => exact ih met hs
    | some tile =>
      have hmeet :=
        acts_meetTile hplaces avatarCell room position met (Scene.mem_of_tileAt? htile) hs
      dsimp only
      generalize setting.meetTile avatarCell room position tile met scene = attempt at hmeet ⊢
      obtain ⟨halt | met', after⟩ := attempt
      · simpa using hmeet
      · exact hmeet.trans (ih met' (hplaces.acts hmeet hs))

/-- Meeting the tiles of a cell is a course of acting. -/
theorem acts_meetCell (hplaces : setting.Places placed I) (avatarCell : Int × Int)
    (hs : I scene.rooms) :
    scene.Acts setting placed (setting.dispatchesAtCell avatarCell scene)
      (ending (setting.meetCell avatarCell scene)) (setting.meetCell avatarCell scene).2 := by
  unfold meetCell dispatchesAtCell
  dsimp only
  rcases scene.rooms[scene.target.room]? with _ | r
  · exact .fail scene _
  · exact acts_meetTiles hplaces avatarCell _ _ _ hs

end Setting

end TileAdventure
