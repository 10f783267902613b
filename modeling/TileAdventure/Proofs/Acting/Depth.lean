import TileAdventure.Proofs.Acting.Change
import TileAdventure.Proofs.World.Occurrence

/-!
# How deep actions nest

The depth limit only cuts: an action that does not go too deep does the same under every
greater limit (`Setting.run_of_limit_le`). And it is ample if it is great enough for the
world, unless events trigger each other in a cycle. Where events can be ranked, so that what
answers an event triggers only events of lower rank, every action has a limit at which it
never goes too deep (`Setting.exists_ample_limit`). A broadcast leaves out an action that
triggers the same event, so such an action may stand in a behavior, though not within another
action.
-/

namespace TileAdventure

/-- Actions were nested too deep. -/
def TooDeep {α : Type} (result : Except Halt α) : Prop :=
  ∃ limit path, result = .error (.failed (.tooDeep limit path))

section

variable {α β : Type}

theorem not_tooDeep_ok (a : α) : ¬TooDeep (.ok a : Except Halt α) := by
  rintro ⟨_, _, h⟩
  cases h

theorem not_tooDeep_error {halt : Halt} (h : ∀ limit path, halt ≠ .failed (.tooDeep limit path)) :
    ¬TooDeep (.error halt : Except Halt α) := by
  rintro ⟨limit, path, hdeep⟩
  exact h limit path (Except.error.inj hdeep)

theorem TooDeep.error {halt : Halt} (h : TooDeep (.error halt : Except Halt α)) :
    TooDeep (.error halt : Except Halt β) := by
  obtain ⟨limit, path, h⟩ := h
  exact ⟨limit, path, by rw [Except.error.inj h]⟩

theorem tooDeep_map {result : Except Halt α} {f : α → β} :
    TooDeep (result.map f) ↔ TooDeep result := by
  cases result with
  | ok a => exact iff_of_false (not_tooDeep_ok (f a)) (not_tooDeep_ok a)
  | error halt => exact ⟨TooDeep.error, TooDeep.error⟩

/-! ## A greater limit -/

/-- The attempt is the same as the other, unless the other went too deep. -/
def Extends (attempt other : Attempt α) : Prop :=
  ¬TooDeep other.1 → attempt = other

theorem extends_of_tooDeep {attempt other : Attempt α} (h : TooDeep other.1) :
    Extends attempt other :=
  fun hnot => (hnot h).elim

theorem Extends.executed {attempt other : Attempt α} (h : Extends attempt other) :
    Extends (executed attempt) (executed other) := by
  intro hnot
  rw [h fun hdeep => hnot (tooDeep_map.mpr hdeep)]

theorem extends_inTurn {step other : α → Scene → Attempt β}
    (h : ∀ a scene, Extends (step a scene) (other a scene)) (as : List α) (scene : Scene) :
    Extends (inTurn step as scene) (inTurn other as scene) := by
  induction as generalizing scene with
  | nil => exact fun _ => rfl
  | cons a as ih =>
    have hstep := h a scene
    simp only [inTurn]
    generalize other a scene = attempt at hstep ⊢
    obtain ⟨halt | b, after⟩ := attempt
    · intro hnot
      rw [hstep fun hdeep => hnot hdeep.error]
    · rw [hstep (not_tooDeep_ok b)]
      exact ih after

end

namespace Setting

variable {setting : Setting}

/-- The setting with another depth limit. -/
def withLimit (setting : Setting) (limit : Nat) : Setting :=
  { setting with depthLimit := limit }

theorem extends_answer (limit : Nat) {performer other : Performer}
    (h : ∀ action tile path scene,
      Extends (performer action tile path scene) (other action tile path scene))
    (event : String) (target : TileAddress) (scene : Scene) :
    Extends ((setting.withLimit limit).answer performer event target scene)
      (setting.answer other event target scene) := by
  unfold answer
  rcases scene.rooms.tile? target with _ | tile
  · exact fun _ => rfl
  dsimp only [withLimit]
  rcases setting.sprites.find? tile.sprite with _ | sprite
  · exact fun _ => rfl
  dsimp only
  rcases sprite.behavior? event with _ | behavior
  · exact fun _ => rfl
  · exact extends_inTurn (fun (a : Action × Nat) => h a.1 target _) _ scene

/-- With more levels and another limit an action does the same, unless it went too deep. -/
theorem extends_perform (limit : Nat) {levels more : Nat} (hle : levels ≤ more)
    (action : Action) (tile : TileAddress) (path : ActionPath) (scene : Scene) :
    Extends ((setting.withLimit limit).perform more action tile path scene)
      (setting.perform levels action tile path scene) := by
  induction levels generalizing more action tile path scene with
  | zero => exact extends_of_tooDeep ⟨_, _, rfl⟩
  | succ levels ih =>
    obtain ⟨more, rfl⟩ : ∃ m, more = m + 1 := ⟨more - 1, by omega⟩
    have hnested := fun action tile path scene =>
      ih (Nat.le_of_succ_le_succ hle) action tile path scene
    cases hshow : scene.gate.showing with
    | true =>
      rw [perform_of_showing hshow, perform_of_showing hshow]
      exact fun _ => rfl
    | false =>
      have hn : ¬scene.gate.showing = true := by simp [hshow]
      cases action with
      | dialog | giveItem | transformSelf =>
        rw [perform, perform, if_neg hn, if_neg hn]
        exact fun _ => rfl
      | moveAvatar | removeSelf =>
        rw [perform, perform, if_neg hn]
        exact fun _ => rfl
      | triggerEvent event =>
        rw [perform, perform, if_neg hn, if_neg hn]
        exact (extends_inTurn (extends_answer limit hnested event) _ scene).executed
      | conditional comparison item quantity actions =>
        rw [perform, perform, if_neg hn, if_neg hn]
        dsimp only [withLimit]
        rcases setting.sprites.find? item with _ | sprite
        · exact fun _ => rfl
        · dsimp only
          split
          · exact (extends_inTurn (fun (a : Action × Nat) => hnested a.1 tile _) _ scene).executed
          · exact fun _ => rfl
      | sequence looping shuffled actions =>
        rw [perform, perform, if_neg hn, if_neg hn]
        dsimp only
        rcases scene.currentIndex ⟨tile.tile, path⟩ ⟨actions.length, looping, shuffled⟩ with
          ⟨halt | index, current⟩
        · exact fun _ => rfl
        dsimp only
        rcases actions[index]? with _ | next
        · exact fun _ => rfl
        have hrun := hnested next tile (path.child index) current
        dsimp only
        generalize setting.perform levels next tile (path.child index) current = attempt
          at hrun ⊢
        obtain ⟨halt | outcome, after⟩ := attempt
        · intro hnot
          rw [hrun fun hdeep => hnot hdeep.error]
        · rw [hrun (not_tooDeep_ok outcome)]
          exact fun _ => rfl

/-- An action that does not go too deep under a limit ends in the same way under every
greater limit, in the same scene: with the same rooms, inventory, bookmarks, gate, random
words and target, and the same notices on the stage. -/
theorem run_of_limit_le {limit : Nat} (hle : setting.depthLimit ≤ limit) {action : Action}
    {tile : TileAddress} {path : ActionPath} {scene : Scene}
    (hnot : ¬TooDeep (setting.run action tile path scene).1) :
    (setting.withLimit limit).run action tile path scene = setting.run action tile path scene :=
  extends_perform limit (Nat.succ_le_succ hle) action tile path scene hnot

/-- A bell that rings when it is pushed, and counts how often it has rung. It pushes the
world in turn, but not itself. -/
def tower (limit : Nat) : Setting where
  dimensions := .ofGrid 1 1 1 1 false false
  sprites := ⟨[⟨"bell", [], 0, false, false, false, false,
    [⟨"push", [.triggerEvent "push", .conditional .less "bell" 3 [.triggerEvent "ring"]]⟩,
      ⟨"ring", [.triggerEvent "ring", .sequence true false [.giveItem "bell" 1 true]]⟩]⟩]⟩
  palette := ⟨"day", []⟩
  depthLimit := limit

/-- The scene where the bell has not rung. -/
def towerScene : Scene where
  rooms := [⟨"day", [⟨⟨0⟩, "bell", 0, 0, false⟩]⟩]
  inventory := .empty
  bookmarks := .empty
  gate := .idle
  stage := .ofPageChars 40
  random := .ofSeed 0
  target := ⟨0, 0, 0⟩

/-- Pushing the bell from a broadcast nests four actions in it, so it goes as deep as that and
no deeper under every greater limit. -/
theorem run_of_limit_le_tower :
    (tower 4).depthLimit ≤ 256 ∧
      ¬TooDeep ((tower 4).run (.triggerEvent "push") ⟨0, ⟨0⟩⟩ (.root "push" 0) towerScene).1 ∧
      ((tower 4).withLimit 256).run (.triggerEvent "push") ⟨0, ⟨0⟩⟩ (.root "push" 0) towerScene =
        (tower 4).run (.triggerEvent "push") ⟨0, ⟨0⟩⟩ (.root "push" 0) towerScene := by
  have hle : (tower 4).depthLimit ≤ 256 := by decide
  have hnot : ¬TooDeep
      ((tower 4).run (.triggerEvent "push") ⟨0, ⟨0⟩⟩ (.root "push" 0) towerScene).1 :=
    not_tooDeep_ok Outcome.executed
  exact ⟨hle, hnot, run_of_limit_le hle hnot⟩

-- One level less is too few: the count itself is nested four deep.
example : ((tower 3).run (.triggerEvent "push") ⟨0, ⟨0⟩⟩ (.root "push" 0) towerScene).1 =
    .error (.failed (.tooDeep 3 "ring-1-0")) := rfl

end Setting

/-! ## Ranked events -/

mutual

/-- How many levels an action takes with the actions in it, broadcasts left aside. -/
def Action.height : Action → Nat
  | .conditional _ _ _ actions | .sequence _ _ actions => Action.heights actions + 1
  | .dialog _ | .giveItem .. | .transformSelf _ | .moveAvatar .. | .removeSelf
  | .triggerEvent _ => 1

/-- The height of the highest action. -/
def Action.heights : List Action → Nat
  | [] => 0
  | a :: as => max a.height (Action.heights as)

end

/-- The height of the highest action in a behavior. -/
def Catalogue.height (sprites : Catalogue) : Nat :=
  Action.heights (sprites.sprites.flatMap fun s => s.behaviors.flatMap Behavior.actions)

/-- The events that an action triggers, at any depth, have ranks below `bound`. -/
def Action.TriggersBelow (rank : String → Nat) (bound : Nat) (a : Action) : Prop :=
  ∀ event, a.Contains (.triggerEvent event) → rank event < bound

/-- What answers an event triggers, at any depth, only events of lower rank. A behavior may
also trigger its own event, but not within another action. -/
def Catalogue.RankedBy (sprites : Catalogue) (rank : String → Nat) : Prop :=
  ∀ s ∈ sprites.sprites, ∀ b ∈ s.behaviors, ∀ a ∈ b.actions,
    a = .triggerEvent b.event ∨ a.TriggersBelow rank (rank b.event)

namespace Action

theorem height_pos (a : Action) : 0 < a.height := by
  cases a <;> simp [height]

theorem height_le_heights {a : Action} {actions : List Action} (h : a ∈ actions) :
    a.height ≤ heights actions := by
  induction actions with
  | nil => cases h
  | cons b actions ih =>
    rw [heights]
    rcases List.mem_cons.mp h with rfl | h
    · exact Nat.le_max_left ..
    · exact Nat.le_trans (ih h) (Nat.le_max_right ..)

/-- An action is lower than the one that it is in. -/
theorem height_lt_of_mem_inner {a b : Action} (h : b ∈ a.inner) : b.height < a.height := by
  cases a with
  | conditional | sequence =>
    rw [height]
    exact Nat.lt_succ_of_le (height_le_heights h)
  | _ => cases h

variable {rank : String → Nat} {bound more : Nat} {a b : Action}

theorem TriggersBelow.inner (h : a.TriggersBelow rank bound) (hb : b ∈ a.inner) :
    b.TriggersBelow rank bound := by
  intro event hevent
  refine h event ?_
  cases a with
  | conditional => exact .conditional hb hevent
  | sequence => exact .sequence hb hevent
  | _ => cases hb

theorem TriggersBelow.mono (h : a.TriggersBelow rank bound) (hle : bound ≤ more) :
    a.TriggersBelow rank more :=
  fun event hevent => Nat.lt_of_lt_of_le (h event hevent) hle

theorem triggersBelow_of_inner (hself : ∀ event, a ≠ .triggerEvent event)
    (h : ∀ b ∈ a.inner, b.TriggersBelow rank bound) : a.TriggersBelow rank bound := by
  intro event hevent
  cases hevent with
  | self => exact (hself event rfl).elim
  | conditional hmem hevent | sequence hmem hevent => exact h _ hmem event hevent

mutual

/-- An action triggers finitely many events. -/
theorem exists_triggersBelow (rank : String → Nat) :
    ∀ a : Action, ∃ bound, a.TriggersBelow rank bound
  | .triggerEvent name => by
    refine ⟨rank name + 1, fun event hevent => ?_⟩
    cases hevent
    exact Nat.lt_succ_self _
  | .conditional _ _ _ actions => by
    obtain ⟨bound, h⟩ := exists_forall_triggersBelow rank actions
    exact ⟨bound, triggersBelow_of_inner (by simp) h⟩
  | .sequence _ _ actions => by
    obtain ⟨bound, h⟩ := exists_forall_triggersBelow rank actions
    exact ⟨bound, triggersBelow_of_inner (by simp) h⟩
  | .dialog _ | .giveItem .. | .transformSelf _ | .moveAvatar .. | .removeSelf =>
    ⟨0, triggersBelow_of_inner (by simp) (by simp [inner])⟩

theorem exists_forall_triggersBelow (rank : String → Nat) :
    ∀ actions : List Action, ∃ bound, ∀ a ∈ actions, a.TriggersBelow rank bound
  | [] => ⟨0, by simp⟩
  | a :: actions => by
    obtain ⟨bound, ha⟩ := exists_triggersBelow rank a
    obtain ⟨more, hactions⟩ := exists_forall_triggersBelow rank actions
    refine ⟨max bound more, fun b hb => ?_⟩
    rcases List.mem_cons.mp hb with rfl | hb
    · exact ha.mono (Nat.le_max_left ..)
    · exact (hactions b hb).mono (Nat.le_max_right ..)

end

end Action

namespace Catalogue

variable {sprites : Catalogue} {rank : String → Nat} {name event : String} {sprite : Sprite}
  {behavior : Behavior} {a : Action × Nat}

theorem height_le_of_mem_answers (hs : sprites.find? name = some sprite)
    (hb : sprite.behavior? event = some behavior) (ha : a ∈ behavior.answers event) :
    a.1.height ≤ sprites.height :=
  Action.height_le_heights <| List.mem_flatMap.mpr ⟨sprite, List.mem_of_find?_eq_some hs,
    List.mem_flatMap.mpr ⟨behavior, List.mem_of_find?_eq_some hb, mem_answers ha⟩⟩

/-- What answers an event triggers events of lower rank only, since a broadcast of the same
event is left out. -/
theorem RankedBy.triggersBelow (h : sprites.RankedBy rank)
    (hs : sprites.find? name = some sprite) (hb : sprite.behavior? event = some behavior)
    (ha : a ∈ behavior.answers event) : a.1.TriggersBelow rank (rank event) := by
  have hevent : behavior.event = event := by simpa using List.find?_some hb
  have hanswer : a.1.triggers event = false := by simpa using (List.mem_filter.mp ha).2
  rcases h sprite (List.mem_of_find?_eq_some hs) behavior (List.mem_of_find?_eq_some hb) a.1
    (mem_answers ha) with htrigger | hbelow
  · simp [htrigger, hevent, Action.triggers] at hanswer
  · exact hevent ▸ hbelow

end Catalogue

/-- Looking up a bookmark does not go deep. -/
theorem Scene.not_tooDeep_currentIndex (scene : Scene) (key : SequenceKey)
    (form : SequenceForm) : ¬TooDeep (scene.currentIndex key form).1 := by
  have hcurrent : ¬TooDeep (scene.bookmarks.current key form scene.random).1 := by
    unfold Bookmarks.current
    split
    · exact not_tooDeep_error (by simp)
    · dsimp only
      split
      · exact not_tooDeep_ok _
      · exact not_tooDeep_error (by simp)
  exact hcurrent

namespace Setting

variable {setting : Setting} {rank : String → Nat}

theorem not_tooDeep_inTurn {α β : Type} {step : α → Scene → Attempt β} {as : List α}
    (h : ∀ a ∈ as, ∀ scene, ¬TooDeep (step a scene).1) (scene : Scene) :
    ¬TooDeep (inTurn step as scene).1 := by
  induction as generalizing scene with
  | nil => exact not_tooDeep_ok _
  | cons a as ih =>
    have hstep := h a List.mem_cons_self scene
    rw [inTurn]
    generalize step a scene = attempt at hstep ⊢
    obtain ⟨halt | _, after⟩ := attempt
    · exact fun hdeep => hstep hdeep.error
    · exact ih (fun b hb => h b (List.mem_cons_of_mem _ hb)) after

theorem not_tooDeep_answer {performer : Performer} {event : String}
    (h : ∀ {name sprite behavior a}, setting.sprites.find? name = some sprite →
      sprite.behavior? event = some behavior → a ∈ behavior.answers event →
      ∀ tile path scene, ¬TooDeep (performer a.1 tile path scene).1)
    (target : TileAddress) (scene : Scene) :
    ¬TooDeep (setting.answer performer event target scene).1 := by
  unfold answer
  rcases scene.rooms.tile? target with _ | tile
  · exact not_tooDeep_ok _
  dsimp only
  cases hs : setting.sprites.find? tile.sprite with
  | none => exact not_tooDeep_error (by simp)
  | some sprite =>
    dsimp only
    cases hb : sprite.behavior? event with
    | none => exact not_tooDeep_ok _
    | some behavior => exact not_tooDeep_inTurn (fun a ha => h hs hb ha target _) scene

/-- With as many levels as an action is high, and for each rank that it may trigger as many
as behaviors are high, it does not go too deep. -/
theorem not_tooDeep_perform (hranked : setting.sprites.RankedBy rank) {levels bound : Nat}
    {action : Action} (ha : action.TriggersBelow rank bound)
    (hle : action.height + bound * setting.sprites.height ≤ levels) (tile : TileAddress)
    (path : ActionPath) (scene : Scene) :
    ¬TooDeep (setting.perform levels action tile path scene).1 := by
  induction levels generalizing bound action tile path scene with
  | zero =>
    have hpos := action.height_pos
    omega
  | succ levels ih =>
    -- what is in the action needs a level less, for the same ranks
    have hinner : ∀ {b}, b ∈ action.inner → ∀ tile path scene,
        ¬TooDeep (setting.perform levels b tile path scene).1 := by
      intro b hb
      have hlt := Action.height_lt_of_mem_inner hb
      exact ih (ha.inner hb) (by omega)
    cases hshow : scene.gate.showing with
    | true =>
      rw [perform_of_showing hshow]
      exact not_tooDeep_ok _
    | false =>
      have hn : ¬scene.gate.showing = true := by simp [hshow]
      cases action with
      | dialog | moveAvatar | removeSelf =>
        rw [perform, if_neg hn]
        exact not_tooDeep_ok _
      | giveItem | transformSelf =>
        rw [perform, if_neg hn]
        split
        · exact not_tooDeep_error (by simp)
        · exact not_tooDeep_ok _
      | triggerEvent event =>
        rw [perform, if_neg hn]
        have hevent : rank event < bound := ha event (.self _)
        -- what answers is no higher than behaviors are, and triggers ranks below this one's
        have hanswers := calc setting.sprites.height + rank event * setting.sprites.height
            = (rank event + 1) * setting.sprites.height := by rw [Nat.succ_mul, Nat.add_comm]
          _ ≤ bound * setting.sprites.height := Nat.mul_le_mul_right _ hevent
          _ ≤ levels := by
            rw [Action.height] at hle
            omega
        refine mt tooDeep_map.mp (not_tooDeep_inTurn (fun target _ => ?_) scene)
        refine not_tooDeep_answer (fun hs hb hmem => ?_) target
        have hheight := Catalogue.height_le_of_mem_answers hs hb hmem
        exact ih (hranked.triggersBelow hs hb hmem) (by omega)
      | conditional comparison item quantity actions =>
        rw [perform, if_neg hn]
        split
        · exact not_tooDeep_error (by simp)
        split
        · refine mt tooDeep_map.mp (not_tooDeep_inTurn (fun a hmem => ?_) scene)
          exact hinner (List.fst_mem_of_mem_zipIdx hmem) tile _
        · exact not_tooDeep_ok _
      | sequence looping shuffled actions =>
        have hcurrent :=
          scene.not_tooDeep_currentIndex ⟨tile.tile, path⟩ ⟨actions.length, looping, shuffled⟩
        rw [perform, if_neg hn]
        dsimp only
        generalize scene.currentIndex ⟨tile.tile, path⟩ ⟨actions.length, looping, shuffled⟩ =
          attempt at hcurrent ⊢
        obtain ⟨halt | index, current⟩ := attempt
        · exact fun hdeep => hcurrent hdeep.error
        dsimp only
        cases hget : actions[index]? with
        | none => exact not_tooDeep_error (by simp)
        | some next =>
          have hrun := hinner (List.mem_of_getElem? hget) tile (path.child index) current
          dsimp only
          generalize setting.perform levels next tile (path.child index) current = attempt
            at hrun ⊢
          obtain ⟨halt | _, after⟩ := attempt
          · exact fun hdeep => hrun hdeep.error
          · exact not_tooDeep_ok _

/-- If events can be ranked, every action has a limit that is ample: under it and every
greater one the action does not go too deep, in whatever scene and on whatever tile. -/
theorem exists_ample_limit {sprites : Catalogue} {rank : String → Nat}
    (hranked : sprites.RankedBy rank) (action : Action) :
    ∃ ample, ∀ setting : Setting, setting.sprites = sprites → ample ≤ setting.depthLimit →
      ∀ tile path scene, ¬TooDeep (setting.run action tile path scene).1 := by
  obtain ⟨bound, hbelow⟩ := action.exists_triggersBelow rank
  refine ⟨action.height + bound * sprites.height, fun setting hsprites hle => ?_⟩
  subst hsprites
  exact not_tooDeep_perform hranked hbelow (Nat.le_succ_of_le hle)

/-- A push comes before the ringing that it triggers. -/
def towerRank (event : String) : Nat :=
  if event = "push" then 1 else 0

theorem rankedBy_tower : (tower 0).sprites.RankedBy towerRank := by
  intro s hs b hb a ha
  obtain rfl := List.mem_singleton.mp hs
  rcases List.mem_pair.mp hb with rfl | rfl
  · rcases List.mem_pair.mp ha with rfl | rfl
    · exact Or.inl rfl
    · refine Or.inr fun event hevent => ?_
      cases hevent with
      | conditional hmem hevent =>
        obtain rfl := List.mem_singleton.mp hmem
        cases hevent
        decide
  · rcases List.mem_pair.mp ha with rfl | rfl
    · exact Or.inl rfl
    · refine Or.inr fun event hevent => ?_
      cases hevent with
      | sequence hmem hevent =>
        obtain rfl := List.mem_singleton.mp hmem
        cases hevent

/-- Some limit is ample for pushing the bell, though it triggers its own events. -/
theorem exists_ample_limit_tower :
    (tower 0).sprites.RankedBy towerRank ∧
      ∃ ample, ∀ setting : Setting, setting.sprites = (tower 0).sprites →
        ample ≤ setting.depthLimit → ∀ tile path scene,
          ¬TooDeep (setting.run (.triggerEvent "push") tile path scene).1 :=
  ⟨rankedBy_tower, exists_ample_limit rankedBy_tower (.triggerEvent "push")⟩

end Setting

end TileAdventure
