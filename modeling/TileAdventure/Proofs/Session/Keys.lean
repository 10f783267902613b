import TileAdventure.Proofs.Session.Fit

/-!
# Bookmarks of tiles that have gone

Where a tile is swept its bookmarks are forgotten, and a move reaches only tiles that are
there. So a bookmark of a tile that has gone was set by an action of that tile which had
waited for the end of a dialog and was resumed when the tile had gone
(`Session.keys_of_run`). That does happen: an item that is picked up speaks before its
sequence runs (`Session.gone_parrot`).
-/

namespace TileAdventure

/-- A tile is in the rooms. -/
def Rooms.Has (rooms : Rooms) (id : TileId) : Prop :=
  ∃ tile ∈ rooms.tiles, tile.id = id

theorem Rooms.has_iff {rooms : Rooms} {id : TileId} :
    rooms.Has id ↔ id ∈ rooms.tiles.map Tile.id :=
  List.mem_map.symm

theorem Bookmarks.get?_ne_none {marks : Bookmarks} {entry : SequenceKey × Bookmark}
    (h : entry ∈ marks.entries) : marks.get? entry.1 ≠ none := by
  intro hnone
  simpa using List.lookup_eq_none_iff.mp hnone entry h

/-! ## In a course of acting -/

/-- Whatever comes up is an action of a tile in the rooms, or of one given besides. -/
theorem Setting.places_has (setting : Setting) (rooms : Rooms) (besides : TileId → Prop) :
    setting.Places (fun address _ _ => rooms.Has address.tile ∨ besides address.tile)
      fun rooms' => ∀ id, rooms'.Has id ↔ rooms.Has id where
  inner hparent _ := hparent
  behavior := by
    intro rooms' tile address sprite event behavior action index hrooms htile hid _ _ _
    exact Or.inl ((hrooms _).mp ⟨tile, htile, hid⟩)
  acts := by
    intro s t ds e hacts hs id
    have hsame := hacts.map_tiles (g := Tile.id) (fun _ => rfl) fun _ _ _ => rfl
    rw [Rooms.has_iff, hsame, ← Rooms.has_iff]
    exact hs id

/-- What has a bookmark in the end has one in the scene, and its tile is not swept. -/
theorem Scene.LeftIn.get? {scene : Scene} {s : Session} (h : scene.LeftIn s)
    {key : SequenceKey} (hkey : s.holdings.bookmarks.get? key ≠ none) :
    scene.bookmarks.get? key ≠ none ∧
      (scene.rooms.Has key.tile → s.holdings.rooms.Has key.tile) := by
  rcases h with ⟨hrooms, hbookmarks⟩ | ⟨hrooms, hbookmarks⟩
  · rw [hrooms]
    exact ⟨hbookmarks ▸ hkey, id⟩
  · rw [hbookmarks, Bookmarks.get?_forget] at hkey
    split at hkey
    · exact (hkey rfl).elim
    · rename_i hkept
      refine ⟨hkey, ?_⟩
      rintro ⟨tile, htile, hid⟩
      rw [hrooms]
      refine ⟨tile, ?_, hid⟩
      rw [Rooms.tiles_sweep]
      refine List.mem_filter.mpr ⟨htile, ?_⟩
      cases hremoved : tile.removed with
      | false => rfl
      | true =>
        have hmem : tile.id ∈ scene.rooms.removedIds :=
          List.mem_map_of_mem (List.mem_filter.mpr ⟨htile, hremoved⟩)
        exact (hkept (hid ▸ hmem)).elim

/-! ## In a session -/

/-- A kept evaluation has resumed an action of a tile that had gone, and has run a sequence
under a key of the tile. -/
def Episode.RunsGone (e : Episode) (key : SequenceKey) : Prop :=
  e.failed = false ∧ (∃ d ∈ e.evaluation.resumed?, d.tile.tile = key.tile) ∧
    ¬e.before.game.world.rooms.Has key.tile ∧ ∃ x ∈ e.dispatches, x.sequence? = some key

namespace Session

variable {s t : Session} {es : List Episode} {e : Episode}

/-- A bookmark that there is after an evaluation is of a tile in the rooms, or the evaluation
has run a sequence of a tile that had gone, or it was there before without its tile. -/
theorem Begins.has_after (h : Begins s e) (hreturn : e.result ≠ .error .lostPlace)
    {key : SequenceKey} (hkey : e.after.holdings.bookmarks.get? key ≠ none) :
    e.after.holdings.rooms.Has key.tile ∨ e.RunsGone key ∨
      s.holdings.bookmarks.get? key ≠ none ∧ ¬s.holdings.rooms.Has key.tile := by
  obtain ⟨hrooms, hbookmarks, -⟩ := h.holdings
  rw [← hrooms, ← hbookmarks]
  let gone (id : TileId) : Prop := ∃ d ∈ e.evaluation.resumed?, d.tile.tile = id
  have henacts := e.enacts_attempt
    (fun _ => Setting.places_has _ e.before.holdings.rooms gone) (fun _ => Iff.rfl)
    fun d hd => Or.inr ⟨d, hd, rfl⟩
  rcases e.after_cases hreturn henacts with ⟨-, hsame⟩ | ⟨hkept, setting, _, scene, hacts, hleft⟩
  · rw [hsame] at hkey ⊢
    by_cases hhas : e.before.holdings.rooms.Has key.tile
    · exact Or.inl hhas
    · exact Or.inr (Or.inr ⟨hkey, hhas⟩)
  obtain ⟨hscene, hstays⟩ := hleft.get? hkey
  by_cases hhas : e.before.holdings.rooms.Has key.tile
  · exact Or.inl
      (hstays (((Setting.places_has setting _ gone).acts hacts (fun _ => Iff.rfl) _).mpr hhas))
  refine Or.inr ?_
  by_cases hruns : ∃ x ∈ e.dispatches, x.sequence? = some key
  · obtain ⟨x, hx, hxkey⟩ := hruns
    refine Or.inl ⟨hkept, ?_, hhas, x, hx, hxkey⟩
    rw [Dispatch.of_sequence? hxkey] at hhas ⊢
    exact (hacts.placed_of_mem hx).resolve_left hhas
  · have hsame : scene.bookmarks.get? key = e.before.holdings.bookmarks.get? key :=
      hacts.get?_bookmarks fun x hx hxkey => hruns ⟨x, hx, hxkey⟩
    exact Or.inr ⟨hsame ▸ hscene, hhas⟩

theorem Steps.has_or_runsGone (h : Steps s es t)
    (hs : ∀ key, s.holdings.bookmarks.get? key ≠ none → s.holdings.rooms.Has key.tile)
    {key : SequenceKey} (hkey : t.holdings.bookmarks.get? key ≠ none) :
    t.holdings.rooms.Has key.tile ∨ ∃ e ∈ es, e.RunsGone key := by
  refine h.holds (P := fun es holdings => holdings.bookmarks.get? key ≠ none →
    holdings.rooms.Has key.tile ∨ ∃ e ∈ es, e.RunsGone key)
    (fun hkey => Or.inl (hs key hkey)) ?_ hkey
  intro es u e _ hu hbegins hreturn hkey
  rcases hbegins.has_after hreturn hkey with hhas | hgone | ⟨hbefore, hnot⟩
  · exact Or.inl hhas
  · exact Or.inr ⟨e, by simp, hgone⟩
  · obtain ⟨e', he', hgone⟩ := (hu hbefore).resolve_left hnot
    exact Or.inr ⟨e', List.mem_append_left _ he', hgone⟩

/-- Bookmarks along a run from the start of a session. The summary counts them, and each of
them belongs to a tile in the rooms, unless an evaluation has resumed an action of its tile
when that had gone, and run the bookmark's sequence. -/
theorem keys_of_run {w : World} {config : Config} {stage : Stage} {s₀ s : Session}
    {es : List Episode} (hstart : start w config stage = .ok s₀) (hrun : Run s₀ es s) :
    s.summary.bookmarks = s.game.state.bookmarks.entries.length ∧
      ∀ entry ∈ s.game.state.bookmarks.entries,
        s.game.world.rooms.Has entry.1.tile ∨ ∃ e ∈ es, e.RunsGone entry.1 := by
  obtain ⟨-, hholdings⟩ := holdings_start hstart
  refine ⟨rfl, fun entry hentry => ?_⟩
  refine hrun.steps.has_or_runsGone (fun key hkey => ?_) (Bookmarks.get?_ne_none hentry)
  rw [hholdings] at hkey
  exact (hkey rfl).elim

/-- The bookmark of the bell belongs to the bell, which is still there. -/
theorem keys_of_run_bell :
    start (beside bell []) .default (.ofPageChars 40) = .ok (atTile bell []) ∧
      ∃ es s, Run (atTile bell []) es s ∧
        s.game.state.bookmarks.entries.map Prod.fst = [⟨⟨1⟩, ⟨"push-0"⟩⟩] ∧
        s.game.world.rooms.Has ⟨1⟩ := by
  have hrun : Run (atTile bell []) _ _ := .call (.move (some .right)) .nil (by decide)
  refine ⟨start_bell, _, _, hrun, rfl, ?_⟩
  rcases (keys_of_run start_bell hrun).2 _ List.mem_cons_self with hhas | ⟨e, he, hgone⟩
  · exact hhas
  · obtain rfl := List.mem_singleton.mp he
    obtain ⟨-, ⟨d, hd, -⟩, -⟩ := hgone
    cases hd

/-- A parrot to pick up, which speaks and then tells a sequence of things. -/
def parrot : Sprite where
  __ := plainSprite "parrot"
  isItem := true
  behaviors := [⟨"push", [.dialog "Hello", .sequence true false [.giveItem "parrot" 1 true]]⟩]

/-- When the dialog of a parrot that was picked up ends, its sequence runs and leaves a
bookmark, which counts in the summary although the parrot's tile has gone. -/
theorem gone_parrot :
    start (beside parrot []) .default (.ofPageChars 40) = .ok (atTile parrot []) ∧
      ∃ es s, Run (atTile parrot []) es s ∧
        s.game.state.bookmarks.entries.map Prod.fst = [⟨⟨1⟩, ⟨"push-1"⟩⟩] ∧
        ¬s.game.world.rooms.Has ⟨1⟩ ∧ s.summary.bookmarks = 1 := by
  have hrun : Run (atTile parrot []) _ _ :=
    .call .confirm (.call (.move (some .right)) .nil (by decide)) (by decide)
  refine ⟨rfl, _, _, hrun, rfl, ?_, rfl⟩
  rw [Rooms.has_iff]
  decide

end Session

end TileAdventure
