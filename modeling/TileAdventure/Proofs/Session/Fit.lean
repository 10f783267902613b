import TileAdventure.Proofs.Acting.Fit
import TileAdventure.Proofs.Session.Acting
import TileAdventure.Proofs.Session.Place

/-!
# Sequences of a session keep their places

In a world of parts where no action gives a tile another sprite and no event has a hyphen in
its name, the rooms, the bookmarks and the actions that wait fit the rooms of the start all
along (`Session.fitIn_of_steps`). So no call loses the place of a sequence
(`Session.fit_of_run`).
-/

namespace TileAdventure

/-- What a session holds fits `rooms`: its tiles are from there, bookmarks belong to sequences
there, and actions that wait occur there. -/
structure Holdings.FitIn (holdings : Holdings) (rooms : Rooms) (sprites : Catalogue) : Prop where
  keeps : rooms.Keeps holdings.rooms
  fit : holdings.bookmarks.FitIn rooms sprites
  occur : ∀ d ∈ holdings.waiting, rooms.OccursAt sprites d.tile d.path d.action

namespace Session

variable {rooms : Rooms} {sprites : Catalogue} {s t : Session} {es : List Episode}
  {e : Episode}

theorem Begins.fitIn (h : Begins s e) (hs : s.holdings.FitIn rooms sprites) :
    e.before.holdings.FitIn rooms sprites ∧
      ∀ d ∈ e.evaluation.resumed?, rooms.OccursAt sprites d.tile d.path d.action := by
  obtain ⟨hrooms, hbookmarks, hwaiting⟩ := h.holdings
  have hall := hs.occur
  rw [hwaiting] at hall
  refine ⟨⟨hrooms ▸ hs.keeps, hbookmarks ▸ hs.fit, fun d hd => ?_⟩, fun d hd => ?_⟩
  · exact hall d (List.mem_append_right _ hd)
  · exact hall d (List.mem_append_left _ (Option.mem_toList.mpr hd))

/-- What comes up in an evaluation occurs in `rooms`. -/
theorem Begins.enacts_occursAt (h : Begins s e) (hsprites : s.game.world.sprites = sprites)
    (hnever : sprites.NeverTransforms) (hs : s.holdings.FitIn rooms sprites) :
    e.before.Enacts (rooms.OccursAt sprites) e.dispatches (e.evaluation.attempt e.before) := by
  obtain ⟨hbefore, hresumed⟩ := h.fitIn hs
  obtain rfl : e.before.game.world.sprites = sprites := by rw [h.world, hsprites]
  exact Episode.enacts_attempt (fun _ => Setting.places_occursAt rooms hnever) hbefore.keeps
    hresumed

/-- An evaluation loses no place. -/
theorem Begins.result_ne_lostPlace (h : Begins s e) (hplain : sprites.PlainEvents)
    (hids : (rooms.tiles.map Tile.id).Nodup) (hsprites : s.game.world.sprites = sprites)
    (hnever : sprites.NeverTransforms) (hs : s.holdings.FitIn rooms sprites) :
    e.result ≠ .error .lostPlace := by
  intro hlost
  obtain ⟨_, _, _, _, hacts, -, -, hending⟩ := h.enacts_occursAt hsprites hnever hs
  rcases e.cases with ⟨_, hresult, -⟩ | ⟨_, hresult, -⟩ | ⟨-, hattempt, -⟩
  · cases hlost.symm.trans hresult
  · cases hlost.symm.trans hresult
  · exact (hacts.fit hplain hids (h.fitIn hs).1.fit).1 (hending hattempt)

theorem Begins.fitIn_after (h : Begins s e) (hplain : sprites.PlainEvents)
    (hids : (rooms.tiles.map Tile.id).Nodup) (hsprites : s.game.world.sprites = sprites)
    (hnever : sprites.NeverTransforms) (hs : s.holdings.FitIn rooms sprites) :
    e.after.holdings.FitIn rooms sprites := by
  obtain ⟨hbefore, -⟩ := h.fitIn hs
  have hreturn := h.result_ne_lostPlace hplain hids hsprites hnever hs
  rcases e.after_cases hreturn (h.enacts_occursAt hsprites hnever hs) with
    ⟨-, hsame⟩ | ⟨-, _, _, scene, hacts, hleft⟩
  · exact hsame ▸ hbefore
  have hkeeps : rooms.Keeps scene.rooms := hacts.keeps hnever hbefore.keeps
  have hfit : scene.bookmarks.FitIn rooms sprites := (hacts.fit hplain hids hbefore.fit).2
  have hoccur : ∀ d ∈ e.after.holdings.waiting, rooms.OccursAt sprites d.tile d.path d.action := by
    intro d hd
    rcases Episode.mem_waiting_after hreturn hd with hd | ⟨x, hx, rfl⟩
    · exact hbefore.occur d hd
    · exact hacts.placed_of_mem hx
  rcases hleft with ⟨hrooms, hbookmarks⟩ | ⟨hrooms, hbookmarks⟩
  · exact ⟨hrooms ▸ hkeeps, hbookmarks ▸ hfit, hoccur⟩
  · exact ⟨hrooms ▸ hkeeps.sweep, hbookmarks ▸ hfit.forget _, hoccur⟩

/-- Holdings keep fitting the rooms of the start. -/
theorem Steps.fitIn (h : Steps s es t) (hplain : sprites.PlainEvents)
    (hids : (rooms.tiles.map Tile.id).Nodup) (hsprites : s.game.world.sprites = sprites)
    (hnever : sprites.NeverTransforms) (hs : s.holdings.FitIn rooms sprites) :
    t.holdings.FitIn rooms sprites :=
  h.holds (P := fun _ holdings => holdings.FitIn rooms sprites) hs
    fun hsteps hu hbegins _ =>
      hbegins.fitIn_after hplain hids (hsteps.sprites.trans hsprites) hnever hu

/-- Sequences along a run from the start of a session, in a world of parts where no action
gives a tile another sprite and no event has a hyphen in its name. Every bookmark belongs to
a sequence of a tile, stands at one of its actions and has an order of all of them, and no
call loses a place. -/
theorem fit_of_run {dimensions : Dimensions} {sprites : List Sprite} {palettes : List Palette}
    {rooms : Rooms} {config : Config} {stage : Stage} {s₀ s : Session} {es : List Episode}
    (hnever : Catalogue.NeverTransforms ⟨sprites⟩) (hplain : Catalogue.PlainEvents ⟨sprites⟩)
    (hstart : start (.ofParts dimensions sprites palettes rooms) config stage = .ok s₀)
    (hrun : Run s₀ es s) :
    s.game.state.bookmarks.FitIn (rooms.numbered 0) ⟨sprites⟩ ∧
      ∀ c, (s.call c).1 ≠ .error .lostPlace := by
  obtain ⟨hworld, hholdings⟩ := holdings_start hstart
  have hids := World.nodup_ids_ofParts dimensions sprites palettes rooms
  have hsprites : s₀.game.world.sprites = ⟨sprites⟩ := by rw [hworld]; rfl
  have hs₀ : s₀.holdings.FitIn (rooms.numbered 0) ⟨sprites⟩ := by
    rw [hholdings]
    exact ⟨.refl _, .empty _ _, fun d hd => nomatch hd⟩
  have hs := hrun.steps.fitIn hplain hids hsprites hnever hs₀
  refine ⟨hs.fit, fun c hlost => ?_⟩
  obtain ⟨e, he, hresult⟩ := call_lostPlace hlost
  obtain ⟨es', t, hsteps, hbegins⟩ := begins_of_mem_episodes he
  have ht := (hrun.steps.trans hsteps).fitIn hplain hids hsprites hnever hs₀
  have htsprites := (hrun.steps.trans hsteps).sprites.trans hsprites
  exact hbegins.result_ne_lostPlace hplain hids htsprites hnever ht hresult

/-- A bell in a wall that speaks when it is pushed, and the next time tells the world, which
is heard by itself. -/
def bell : Sprite where
  __ := plainSprite "bell"
  isWall := true
  behaviors :=
    [⟨"push", [.sequence true false [.dialog "Ding", .triggerEvent "ring"]]⟩,
      ⟨"ring", [.sequence false false [.giveItem "bell" 1 true, .dialog "Dong"]]⟩]

theorem start_bell :
    start (beside bell []) .default (.ofPageChars 40) = .ok (atTile bell []) := rfl

/-- All that the bell does, at any depth, is to speak, to give, and to tell the world. -/
theorem kind_of_contains_bell {sprite : Sprite}
    (hs : sprite ∈ (beside bell []).sprites.sprites) {b : Behavior} (hb : b ∈ sprite.behaviors)
    {a c : Action} (ha : a ∈ b.actions) (h : a.Contains c) :
    c.kind ∈ [.sequence, .dialog, .giveItem, .triggerEvent] := by
  rcases List.mem_pair.mp hs with rfl | rfl
  · cases hb
  · rcases List.mem_pair.mp hb with rfl | rfl
    all_goals
      obtain rfl := List.mem_singleton.mp ha
      cases h with
      | self => decide
      | sequence hmem h => rcases List.mem_pair.mp hmem with rfl | rfl <;> cases h <;> decide

theorem neverTransforms_bell : (beside bell []).sprites.NeverTransforms :=
  fun _ hs _ hb _ ha _ h => absurd (kind_of_contains_bell hs hb ha h) (by simp [Action.kind])

theorem plainEvents_bell : (beside bell []).sprites.PlainEvents := by
  unfold Catalogue.PlainEvents
  decide

/-- When the bell has been pushed twice, both its sequences have bookmarks, and pushing it
once more loses no place. -/
theorem fit_of_run_bell :
    (beside bell []).sprites.NeverTransforms ∧ (beside bell []).sprites.PlainEvents ∧
      start (beside bell []) .default (.ofPageChars 40) = .ok (atTile bell []) ∧
        ∃ es s, Run (atTile bell []) es s ∧ s.game.state.bookmarks.size = 2 ∧
          (s.call (.move (some .right))).1 ≠ .error .lostPlace := by
  have hrun : Run (atTile bell []) _ _ :=
    .call (.move (some .right))
      (.call .confirm (.call (.move (some .right)) .nil (by decide)) (by decide)) (by decide)
  have hfit := fit_of_run neverTransforms_bell plainEvents_bell start_bell hrun
  exact ⟨neverTransforms_bell, plainEvents_bell, start_bell, _, _, hrun, rfl, hfit.2 _⟩

end Session

end TileAdventure
