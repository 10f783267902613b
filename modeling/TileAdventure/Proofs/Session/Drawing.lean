import TileAdventure.Proofs.Acting.Failure
import TileAdventure.Proofs.Session.Place

/-!
# Drawing never fails

A room is entered only if its tiles and the avatar have sprites, and a tile of the current room
takes on another sprite only if there is one. So whatever the world lacks elsewhere, the current
room can be drawn at any time (`Drawable`, `Session.draw_of_run`).
-/

namespace TileAdventure

/-- The current room is there with its palette, and its tiles and the avatar have sprites. -/
structure Drawable (avatarName : String) (w : World) (state : PlayState) : Prop where
  located : Located w state
  avatar : (w.sprites.find? avatarName).isSome
  tiles : w.sprites.Furnishes w.rooms[state.room]?.toList

/-! ## One room -/

/-- A change of a tile is a change in its own room. -/
theorem Rooms.toList_getElem?_modifyAt (rooms : Rooms) (room position : Nat) (f : Tile → Tile)
    (i : Nat) : (rooms.modifyAt room position f)[i]?.toList =
      modifyAt rooms[i]?.toList (if room = i then 0 else 1) position f := by
  rw [getElem?_modifyAt]
  cases rooms[i]? with
  | none => simp [modifyAt]
  | some r => split <;> simp [modifyAt, *]

namespace Scene

variable {setting : Setting} {allowed : Action → Prop} {s t : Scene} {room : Nat}

theorem furnished_room_modifyAt (hs : setting.sprites.Furnishes s.rooms[room]?.toList)
    (i position : Nat) {f : Tile → Tile}
    (hf : ∀ t, (setting.sprites.find? t.sprite).isSome →
      (setting.sprites.find? (f t).sprite).isSome) :
    setting.sprites.Furnishes (s.rooms.modifyAt i position f)[room]?.toList := by
  rw [Rooms.toList_getElem?_modifyAt]
  exact hs.modifyAt _ position hf

theorem furnished_room_modifyTile (hs : setting.sprites.Furnishes s.rooms[room]?.toList)
    (tile : TileAddress) {f : Tile → Tile}
    (hf : ∀ t, (setting.sprites.find? t.sprite).isSome →
      (setting.sprites.find? (f t).sprite).isSome) :
    setting.sprites.Furnishes (s.modifyTile tile f).rooms[room]?.toList := by
  obtain ⟨position, heq, -⟩ := s.rooms.exists_modifyTile_eq tile f
  rw [modifyTile, heq]
  exact furnished_room_modifyAt hs _ position hf

theorem Change.furnished_room (h : Change setting allowed s t)
    (hs : setting.sprites.Furnishes s.rooms[room]?.toList) :
    setting.sprites.Furnishes t.rooms[room]?.toList := by
  cases h with
  | transform tile _ hfind =>
    refine furnished_room_modifyTile hs tile fun _ _ => ?_
    rw [Catalogue.find?_name hfind]
    rfl
  | markAt i position => exact furnished_room_modifyAt hs i position fun _ h => h
  | _ => exact hs

/-- The tiles of each room keep having sprites. -/
theorem Changes.furnished_room (h : Changes setting allowed s t) (room : Nat)
    (hs : setting.sprites.Furnishes s.rooms[room]?.toList) :
    setting.sprites.Furnishes t.rooms[room]?.toList :=
  keeps_of_step (I := fun t => setting.sprites.Furnishes t.rooms[room]?.toList)
    (fun hstep hs => hstep.furnished_room hs) h hs

end Scene

namespace Game

variable {g g' : Game} {avatarName : String}

theorem isSome_of_sprites? {tiles : List Tile} {sprites : List Sprite}
    (h : g.sprites? tiles = .ok sprites) :
    ∀ tile ∈ tiles, (g.world.sprites.find? tile.sprite).isSome := by
  intro tile ht
  have hmem : g.world.sprites.find? tile.sprite ∈ sprites.map some :=
    sprites?_eq_ok.mp h ▸ List.mem_map_of_mem ht
  obtain ⟨sprite, -, hsprite⟩ := List.mem_map.mp hmem
  rw [← hsprite]
  rfl

/-- A room that is entered can be drawn. -/
theorem drawable_enterRoom {room : Nat} (h : g.enterRoom avatarName room = .ok g') :
    Drawable avatarName g'.world g'.state := by
  have hlocated := located_enterRoom h
  obtain ⟨r, palette, index, avatar, sprites, hr, hp, havatar, hsprites, rfl⟩ :=
    enterRoom_eq_ok h
  refine ⟨hlocated, ?_, fun r' hr' => ?_⟩
  · have hfind : g.world.sprites.find? avatarName = some avatar := sprite?_eq_ok.mp havatar
    exact Option.isSome_iff_exists.mpr ⟨avatar, hfind⟩
  · obtain rfl : r = r' := Option.some.inj (hr.symm.trans (Option.mem_toList.mp hr'))
    exact isSome_of_sprites? (g := g) hsprites

theorem invariant_drawable (limit : Nat) (avatarName : String) :
    Invariant limit avatarName (fun _ => True) (Drawable avatarName) where
  admits _ := Catalogue.admits_true _
  waiting _ _ _ := trivial
  gate h _ := ⟨h.located, h.avatar, h.tiles⟩
  change {g g'} h hchange := by
    have hlocated := (invariant_located limit avatarName).change h.located hchange
    cases hchange with
    | turn => exact ⟨hlocated, h.avatar, h.tiles⟩
    | act hp hscene =>
      exact ⟨hlocated, h.avatar, hscene.furnished_room g.state.room h.tiles⟩
    | sweep =>
      refine ⟨hlocated, h.avatar, fun r hr tile ht => ?_⟩
      obtain ⟨r₀, hr₀, rfl⟩ := Option.map_eq_some_iff.mp
        ((List.getElem?_map ..).symm.trans (Option.mem_toList.mp hr))
      exact h.tiles r₀ (Option.mem_toList.mpr hr₀) tile (List.mem_filter.mp ht).1
    | occupy hocc =>
      obtain ⟨-, -, middle, ⟨-, rfl⟩ | hm, rfl⟩ := occupy_eq_ok hocc
      · exact ⟨hlocated, h.avatar, h.tiles⟩
      · have hmiddle := drawable_enterRoom hm
        exact ⟨hlocated, hmiddle.avatar, hmiddle.tiles⟩

/-- What can be drawn is drawn. -/
theorem draw_ok (h : Drawable avatarName g.world g.state) (frame : Nat) :
    (g.draw avatarName frame).1 = .ok () := by
  obtain ⟨palette, hp⟩ := h.located.palette?
  obtain ⟨r, hr, -⟩ := h.located
  have hroom : g.room? g.state.room = .ok r := by rw [room?, hr]
  have htiles := (g.tell [.drawBackground palette]).drawTiles_eq_tell frame r.tiles
  rw [draw, hp, hroom]
  dsimp only
  rcases hdrawn : (g.tell [.drawBackground palette]).drawTiles frame r.tiles with ⟨f | _, drawn⟩
  · obtain ⟨tile, ht, -, hnone⟩ := drawTiles_failure (congrArg Prod.fst hdrawn)
    have hsome := h.tiles r (Option.mem_toList.mpr hr) tile ht
    have hnone : g.world.sprites.find? tile.sprite = none := hnone
    simp [hnone] at hsome
  · rw [hdrawn] at htiles
    obtain ⟨notices, -, rfl⟩ := htiles
    obtain ⟨avatar, havatar⟩ := Option.isSome_iff_exists.mp h.avatar
    have hsprite : ((g.tell [.drawBackground palette]).tell notices).sprite? avatarName =
        .ok avatar := sprite?_eq_ok.mpr havatar
    dsimp only
    rw [hsprite]

end Game

namespace Session

theorem drawable_start {w : World} {config : Config} {stage : Stage} {s : Session}
    (h : start w config stage = .ok s) : Drawable s.avatarName s.game.world s.game.state := by
  unfold start at h
  split at h
  · cases h
  · obtain ⟨game, hgame, h⟩ := bind_eq_ok.mp h
    cases h
    exact Game.drawable_enterRoom hgame

variable {w : World} {config : Config} {stage : Stage} {s₀ s : Session} {es : List Episode}

theorem drawable_of_run (hstart : start w config stage = .ok s₀) (hrun : Run s₀ es s) :
    Drawable s.avatarName s.game.world s.game.state := by
  rw [hrun.steps.fixed.2]
  exact (Game.invariant_drawable _ _).steps (drawable_start hstart) hrun.steps

/-- Along a run from the start of a session the room can always be drawn. -/
theorem draw_of_run (hstart : start w config stage = .ok s₀) (hrun : Run s₀ es s)
    (frame : Nat) : (s.game.draw s.avatarName frame).1 = .ok () :=
  Game.draw_ok (drawable_of_run hstart hrun) frame

end Session

end TileAdventure
