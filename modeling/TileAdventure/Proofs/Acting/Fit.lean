import TileAdventure.Proofs.Acting.Bookmarks

/-!
# Bookmarks that fit their sequences

Where no action gives a tile another sprite, the tiles in play are tiles of the first rooms
with the sprites they have there (`Rooms.Keeps`), so whatever comes up occurs in the first
rooms (`Setting.places_occursAt`). With plain events a bookmark then belongs to one sequence
for good and fits it (`Bookmarks.FitIn`). Acting keeps it so, and no sequence loses its place
(`Scene.Acts.fit`).
-/

namespace TileAdventure

/-- Every tile of `rooms` is one of `rooms₀`, with the sprite it has there. -/
def Rooms.Keeps (rooms₀ rooms : Rooms) : Prop :=
  ∀ tile ∈ rooms.tiles, ∃ tile₀ ∈ rooms₀.tiles, tile₀.id = tile.id ∧ tile₀.sprite = tile.sprite

/-- `action` occurs at `path` in the behaviors of the tile at an address, wherever the tile
is. -/
abbrev Rooms.OccursAt (rooms : Rooms) (sprites : Catalogue) (address : TileAddress)
    (path : ActionPath) (action : Action) : Prop :=
  rooms.Occurs sprites address.tile path action

theorem Rooms.Keeps.refl (rooms : Rooms) : rooms.Keeps rooms :=
  fun tile htile => ⟨tile, htile, rfl, rfl⟩

theorem Rooms.Keeps.sweep {rooms₀ rooms : Rooms} (h : rooms₀.Keeps rooms) :
    rooms₀.Keeps rooms.sweep := by
  intro tile htile
  rw [tiles_sweep] at htile
  exact h tile (List.mem_filter.mp htile).1

/-- Where nothing transforms, acting keeps the sprites of tiles. -/
theorem Scene.Acts.keeps {setting : Setting} {rooms : Rooms} {sprites : Catalogue}
    (hnever : sprites.NeverTransforms) {s t : Scene} {ds : List Dispatch}
    {e : Except Halt Unit} (h : s.Acts setting (rooms.OccursAt sprites) ds e t)
    (hs : rooms.Keeps s.rooms) : rooms.Keeps t.rooms := by
  intro tile htile
  have hsame := h.map_tiles (g := fun tile => (tile.id, tile.sprite)) (fun _ => rfl)
    fun hp => (Rooms.Occurs.not_transform hnever hp).elim
  have hmem : (tile.id, tile.sprite) ∈ s.rooms.tiles.map fun tile => (tile.id, tile.sprite) :=
    hsame ▸ List.mem_map_of_mem htile
  obtain ⟨before, hbefore, heq⟩ := List.mem_map.mp hmem
  obtain ⟨hid, hsprite⟩ := Prod.mk.inj heq
  obtain ⟨tile₀, htile₀, hid₀, hsprite₀⟩ := hs before hbefore
  exact ⟨tile₀, htile₀, hid₀.trans hid, hsprite₀.trans hsprite⟩

/-- Where nothing transforms, only what occurs in the first rooms comes up. -/
theorem Setting.places_occursAt {setting : Setting} (rooms₀ : Rooms)
    (hnever : setting.sprites.NeverTransforms) :
    setting.Places (rooms₀.OccursAt setting.sprites) rooms₀.Keeps where
  inner hparent ha := Rooms.Occurs.inner hparent ha
  behavior := by
    intro rooms tile address sprite event behavior action index hrooms htile hid hfind hb ha
    obtain ⟨tile₀, htile₀, hid₀, hsprite₀⟩ := hrooms tile htile
    exact ⟨tile₀, htile₀, hid₀.trans hid, sprite, hsprite₀ ▸ hfind, .behavior hb ha⟩
  acts hacts hs := hacts.keeps hnever hs

/-- Every bookmark belongs to a sequence of a tile and fits it. -/
def Bookmarks.FitIn (marks : Bookmarks) (rooms : Rooms) (sprites : Catalogue) : Prop :=
  ∀ key mark, marks.get? key = some mark → ∃ looping shuffled actions,
    rooms.Occurs sprites key.tile key.path (.sequence looping shuffled actions) ∧
      mark.Fits actions.length

namespace Bookmarks.FitIn

variable {marks marks' : Bookmarks} {rooms : Rooms} {sprites : Catalogue}
  {key : SequenceKey} {looping shuffled : Bool} {actions : List Action}

theorem empty (rooms : Rooms) (sprites : Catalogue) : Bookmarks.empty.FitIn rooms sprites := by
  intro key mark h
  simp at h

theorem forget (h : marks.FitIn rooms sprites) (tiles : List TileId) :
    (marks.forget tiles).FitIn rooms sprites := by
  intro key mark hmark
  rw [get?_forget] at hmark
  split at hmark
  · cases hmark
  · exact h key mark hmark

/-- The bookmark of a sequence fits it, as its key belongs to no other sequence. -/
theorem fits (hplain : sprites.PlainEvents) (hids : (rooms.tiles.map Tile.id).Nodup)
    (h : marks.FitIn rooms sprites)
    (hocc : rooms.Occurs sprites key.tile key.path (.sequence looping shuffled actions))
    {mark : Bookmark} (hmark : marks.get? key = some mark) : mark.Fits actions.length := by
  obtain ⟨looping', shuffled', actions', hocc', hfits⟩ := h key mark hmark
  obtain ⟨rfl, rfl, rfl⟩ := Action.sequence.inj (hocc.unique hplain hids hocc')
  exact hfits

/-- Bookmarks fit when one of them has changed to one that fits. -/
theorem of_change (h : marks.FitIn rooms sprites)
    (hocc : rooms.Occurs sprites key.tile key.path (.sequence looping shuffled actions))
    (hother : ∀ other, other ≠ key → marks'.get? other = marks.get? other)
    (hkey : ∀ mark, marks'.get? key = some mark → mark.Fits actions.length) :
    marks'.FitIn rooms sprites := by
  intro other mark hmark
  by_cases heq : other = key
  · subst heq
    exact ⟨looping, shuffled, actions, hocc, hkey mark hmark⟩
  · exact h other mark (hother other heq ▸ hmark)

variable {γ : Type} [Random.Source γ] {source source' : γ} {r : Except Halt Nat}

/-- A sequence looks up the index of one of its actions, unless it has none. -/
theorem current (hplain : sprites.PlainEvents) (hids : (rooms.tiles.map Tile.id).Nodup)
    (h : marks.FitIn rooms sprites)
    (hocc : rooms.Occurs sprites key.tile key.path (.sequence looping shuffled actions))
    (hcurrent : marks.current key ⟨actions.length, looping, shuffled⟩ source =
      (r, marks', source')) :
    marks'.FitIn rooms sprites ∧
      ((∃ f, r = .error (.failed f)) ∨ ∃ index < actions.length, r = .ok index) := by
  by_cases hlength : actions.length = 0
  · obtain ⟨rfl, rfl⟩ := current_of_empty hcurrent hlength
    exact ⟨h, Or.inl ⟨_, rfl⟩⟩
  · obtain ⟨mark, hmark, hcases, hindex⟩ := current_of_actions hcurrent hlength
    have hfits : mark.Fits actions.length := by
      rcases hcases with ⟨hold, -⟩ | ⟨-, -, rfl⟩
      · exact h.fits hplain hids hocc hold
      · exact Bookmark.fits_fresh hlength shuffled source
    have hmarks : marks'.FitIn rooms sprites :=
      h.of_change hocc (fun _ hother => get?_current hcurrent hother) fun mark' hmark' => by
        rwa [Option.some.inj (hmark'.symm.trans hmark)]
    obtain ⟨index, hat, hlt⟩ := hfits.getElem?
    rcases hindex with ⟨index', hat', rfl⟩ | ⟨hnone, -⟩
    · obtain rfl : index = index' := Option.some.inj (hat.symm.trans hat')
      exact ⟨hmarks, Or.inr ⟨index, hlt, rfl⟩⟩
    · cases hat.symm.trans hnone

theorem advance (hplain : sprites.PlainEvents) (hids : (rooms.tiles.map Tile.id).Nodup)
    (h : marks.FitIn rooms sprites)
    (hocc : rooms.Occurs sprites key.tile key.path (.sequence looping shuffled actions)) :
    (marks.advance key ⟨actions.length, looping, shuffled⟩ source).1.FitIn rooms sprites := by
  cases hmark : marks.get? key with
  | none =>
    rw [advance_of_none hmark]
    exact h
  | some mark =>
    obtain ⟨moved, hget, hmoves⟩ :=
      moves_advance ⟨actions.length, looping, shuffled⟩ source hmark
    refine h.of_change hocc (fun _ hother => get?_advance hother) fun mark' hmark' => ?_
    obtain rfl : mark' = moved := Option.some.inj (hmark'.symm.trans hget)
    exact hmoves.fits (h.fits hplain hids hocc hmark)

end Bookmarks.FitIn

namespace Scene

variable {setting : Setting} {rooms : Rooms} {sprites : Catalogue} {s t : Scene}

/-- Looking up a bookmark in a scene keeps bookmarks that fit. -/
theorem fit_currentIndex (hplain : sprites.PlainEvents)
    (hids : (rooms.tiles.map Tile.id).Nodup) (hs : s.bookmarks.FitIn rooms sprites)
    {tile : TileAddress} {path : ActionPath} {looping shuffled : Bool} {actions : List Action}
    (hocc : rooms.OccursAt sprites tile path (.sequence looping shuffled actions))
    {r : Except Halt Nat}
    (h : s.currentIndex ⟨tile.tile, path⟩ ⟨actions.length, looping, shuffled⟩ = (r, t)) :
    t.bookmarks.FitIn rooms sprites ∧
      ((∃ f, r = .error (.failed f)) ∨ ∃ index < actions.length, r = .ok index) := by
  obtain ⟨marks, random, hcurrent, rfl⟩ := currentIndex_eq.mp h
  exact hs.current hplain hids hocc hcurrent

/-- Acting in the first rooms loses no place and keeps bookmarks that fit. -/
theorem Acts.fit (hplain : sprites.PlainEvents) (hids : (rooms.tiles.map Tile.id).Nodup)
    {ds : List Dispatch} {e : Except Halt Unit}
    (h : s.Acts setting (rooms.OccursAt sprites) ds e t)
    (hs : s.bookmarks.FitIn rooms sprites) :
    e ≠ .error .lostPlace ∧ t.bookmarks.FitIn rooms sprites := by
  induction h with
  | refl | pickUp | defer | fail => exact ⟨by simp, hs⟩
  | trans _ _ ih ih' => exact ih' (ih hs).2
  | effect _ hdoes =>
    refine ⟨by simp, ?_⟩
    cases hdoes <;> exact hs
  | perform _ _ _ _ _ ih => exact ih hs
  | stuck _ hocc _ hcurrent =>
    obtain ⟨hfit, ⟨f, hf⟩ | ⟨index, -, hindex⟩⟩ := fit_currentIndex hplain hids hs hocc hcurrent
    · obtain rfl := Except.error.inj hf
      exact ⟨by simp, hfit⟩
    · cases hindex
  | lost _ hocc _ hcurrent hnone =>
    obtain ⟨hfit, ⟨f, hf⟩ | ⟨index, hlt, hindex⟩⟩ := fit_currentIndex hplain hids hs hocc hcurrent
    · cases hf
    · obtain rfl := Except.ok.inj hindex
      simp [hlt] at hnone
  | deep _ _ hocc _ hcurrent =>
    exact ⟨by simp, (fit_currentIndex hplain hids hs hocc hcurrent).1⟩
  | visit hocc _ hcurrent _ _ _ ih =>
    have hrun := (ih (fit_currentIndex hplain hids hs hocc hcurrent).1).2
    exact ⟨by simp, hrun.advance hplain hids hocc⟩
  | halt hocc _ hcurrent _ _ _ ih =>
    exact ih (fit_currentIndex hplain hids hs hocc hcurrent).1

end Scene

end TileAdventure
