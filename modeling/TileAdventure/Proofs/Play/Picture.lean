import TileAdventure.Proofs.Play.Change
import TileAdventure.Proofs.Stage.Screen

/-!
# Sprites that are prepared

To enter a room prepares the sprites of its tiles and the avatar's in the colours of the room
(`Game.presents_enterRoom`). Acting then prepares each sprite that a tile turns into in the
same colours, wherever the tile is (`Scene.Changes.dresses`). So a game is ready to be drawn
at all times (`Game.Ready`), and what it draws is prepared (`Game.Presents.draw`). A game that
has gone on acting in its room is still ready when the acting is undone, since what was
prepared on the way does no harm (`Game.Dresses.of_same`).
-/

namespace TileAdventure

open Relation

/-! ## Calm stages -/

/-- From stage `s` to stage `t` calm notices have been logged, which have prepared
`added`. -/
def Stage.Adds (palette : Palette) (s t : Stage) (added : List Preparation) : Prop :=
  ∃ more, t.log = s.log ++ more ∧ (∀ notice ∈ more, notice.Calm palette) ∧
    preparations more = added

namespace Stage

variable {palette : Palette} {s t u : Stage} {added more : List Preparation}

theorem Adds.refl (s : Stage) : Adds palette s s [] :=
  ⟨[], by simp, by simp, rfl⟩

theorem Adds.trans (h : Adds palette s t added) (h' : Adds palette t u more) :
    Adds palette s u (added ++ more) := by
  obtain ⟨notices, hlog, hcalm, rfl⟩ := h
  obtain ⟨notices', hlog', hcalm', rfl⟩ := h'
  refine ⟨notices ++ notices', by rw [hlog', hlog, List.append_assoc], fun notice hnotice => ?_,
    preparations_append ..⟩
  exact (List.mem_append.mp hnotice).elim (hcalm notice) (hcalm' notice)

theorem Adds.colours (h : Adds palette s t added) : ∀ x ∈ added, x.palette = palette := by
  obtain ⟨notices, -, hcalm, rfl⟩ := h
  intro x hx
  obtain ⟨notice, hnotice, hprepares⟩ := List.mem_filterMap.mp hx
  have hcalm := hcalm notice hnotice
  cases notice <;> cases hprepares
  exact hcalm

theorem adds_tellPager (s : Stage) (notice : Notice) (h : notice.Calm palette)
    (hnone : notice.preparation? = none) (shown : List String × Pager) :
    Adds palette s (s.tellPager notice shown) [] := by
  refine ⟨notice :: shown.1.map .line, rfl, fun n hn => ?_, ?_⟩
  · rcases List.mem_cons.mp hn with rfl | hn
    · exact h
    · obtain ⟨line, -, rfl⟩ := List.mem_map.mp hn
      exact trivial
  · refine List.filterMap_eq_nil_iff.mpr fun n hn => ?_
    rcases List.mem_cons.mp hn with rfl | hn
    · exact hnone
    · obtain ⟨line, -, rfl⟩ := List.mem_map.mp hn
      rfl

theorem adds_beginDialog (s : Stage) (text : String) (atBottom : Bool) :
    Adds palette s (s.beginDialog text atBottom) [] :=
  s.adds_tellPager (.dialogBegan text atBottom) trivial rfl _

theorem adds_endDialog (s : Stage) : Adds palette s s.endDialog [] :=
  s.adds_tellPager .dialogEnded trivial rfl _

theorem adds_finishPage (s : Stage) : Adds palette s s.finishPage [] :=
  s.adds_tellPager .pageFinished trivial rfl _

theorem adds_prepare (s : Stage) (sprite : Sprite) (flipped : Bool) :
    Adds palette s (s.tell [.prepare sprite palette flipped]) [⟨sprite, palette, flipped⟩] :=
  ⟨_, rfl, by simp [Notice.Calm], rfl⟩

/-- From stage `s` to stage `t` nothing has been drawn. -/
def Undrawn (s t : Stage) : Prop :=
  ∃ more, t.log = s.log ++ more ∧ ∀ notice ∈ more, notice.Quiet

theorem Undrawn.refl (s : Stage) : s.Undrawn s :=
  ⟨[], by simp, by simp⟩

theorem Undrawn.trans (h : s.Undrawn t) (h' : t.Undrawn u) : s.Undrawn u := by
  obtain ⟨notices, hlog, hquiet⟩ := h
  obtain ⟨notices', hlog', hquiet'⟩ := h'
  refine ⟨notices ++ notices', by rw [hlog', hlog, List.append_assoc], fun n hn => ?_⟩
  exact (List.mem_append.mp hn).elim (hquiet n) (hquiet' n)

theorem Adds.undrawn (h : Adds palette s t added) : s.Undrawn t := by
  obtain ⟨notices, hlog, hcalm, -⟩ := h
  exact ⟨notices, hlog, fun n hn => (hcalm n hn).quiet⟩

/-- From stage `s` to stage `t` at most one picture has been drawn, as the last thing, and on
a background of which `p` holds. -/
def Pictured (s t : Stage) (p : Palette → Prop) : Prop :=
  ∃ quiet picture, t.log = s.log ++ (quiet ++ picture) ∧
    (∀ notice ∈ quiet, notice.Quiet) ∧
    (picture = [] ∨ ∃ palette parts, picture = .drawBackground palette :: parts ∧
      (∀ part ∈ parts, part.Draws) ∧ p palette)

theorem Undrawn.pictured {p : Palette → Prop} (h : s.Undrawn t) : s.Pictured t p := by
  obtain ⟨quiet, hlog, hquiet⟩ := h
  exact ⟨quiet, [], by rw [hlog, List.append_nil], hquiet, Or.inl rfl⟩

theorem Pictured.mono {p q : Palette → Prop} (h : s.Pictured t p)
    (hpq : ∀ palette, p palette → q palette) : s.Pictured t q := by
  obtain ⟨quiet, picture, hlog, hquiet, hpicture⟩ := h
  refine ⟨quiet, picture, hlog, hquiet, hpicture.imp_right ?_⟩
  rintro ⟨palette, parts, heq, hparts, hp⟩
  exact ⟨palette, parts, heq, hparts, hpq palette hp⟩

theorem undrawn_endDialog (s : Stage) : s.Undrawn s.endDialog :=
  Adds.undrawn (s.adds_endDialog : Adds ⟨"", []⟩ s s.endDialog [])

theorem undrawn_finishPage (s : Stage) : s.Undrawn s.finishPage :=
  Adds.undrawn (s.adds_finishPage : Adds ⟨"", []⟩ s s.finishPage [])

end Stage

/-! ## Tiles of a room -/

/-- The sprites of all tiles in the room numbered `room` are prepared. -/
def Rooms.Dressed (rooms : Rooms) (sprites : Catalogue) (palette : Palette) (room : Nat)
    (prepared : List Preparation) : Prop :=
  ∀ r, rooms[room]? = some r → ∀ tile ∈ r.tiles, ∀ sprite,
    sprites.find? tile.sprite = some sprite → ⟨sprite, palette, false⟩ ∈ prepared

namespace Rooms.Dressed

variable {rooms : Rooms} {sprites : Catalogue} {palette : Palette} {room : Nat}
  {prepared : List Preparation}

theorem append (h : rooms.Dressed sprites palette room prepared) (added : List Preparation) :
    rooms.Dressed sprites palette room (prepared ++ added) :=
  fun r hr tile ht sprite hfind => List.mem_append_left _ (h r hr tile ht sprite hfind)

theorem modifyAt (h : rooms.Dressed sprites palette room prepared) (i position : Nat)
    {f : Tile → Tile}
    (hf : ∀ tile sprite, sprites.find? (f tile).sprite = some sprite →
      sprites.find? tile.sprite = some sprite ∨ ⟨sprite, palette, false⟩ ∈ prepared) :
    (rooms.modifyAt i position f).Dressed sprites palette room prepared := by
  intro r hr tile ht sprite hfind
  obtain ⟨r₀, hr₀, tile₀, ht₀, rfl | rfl⟩ := Rooms.mem_of_modifyAt hr ht
  · exact h r₀ hr₀ tile ht₀ sprite hfind
  · rcases hf tile₀ sprite hfind with hfind | hprepared
    · exact h r₀ hr₀ tile₀ ht₀ sprite hfind
    · exact hprepared

theorem modifyTile (h : rooms.Dressed sprites palette room prepared) (address : TileAddress)
    {f : Tile → Tile}
    (hf : ∀ tile sprite, sprites.find? (f tile).sprite = some sprite →
      sprites.find? tile.sprite = some sprite ∨ ⟨sprite, palette, false⟩ ∈ prepared) :
    (rooms.modifyTile address f).Dressed sprites palette room prepared := by
  obtain ⟨position, heq, -⟩ := rooms.exists_modifyTile_eq address f
  exact heq ▸ h.modifyAt _ position hf

theorem sweep (h : rooms.Dressed sprites palette room prepared) :
    rooms.sweep.Dressed sprites palette room prepared := by
  intro r hr tile ht sprite hfind
  obtain ⟨r₀, hr₀, rfl⟩ := Option.map_eq_some_iff.mp ((List.getElem?_map ..).symm.trans hr)
  exact h r₀ hr₀ tile (List.mem_filter.mp ht).1 sprite hfind

end Rooms.Dressed

namespace Scene

variable {setting : Setting} {allowed : Action → Prop} {s t : Scene}

/-- From scene `s` to scene `t` only calm notices are logged, and a tile has a sprite that it
had, or that they have prepared. -/
def Dresses (setting : Setting) (s t : Scene) : Prop :=
  ∃ added, s.stage.Adds setting.palette t.stage added ∧ ∀ room prepared,
    s.rooms.Dressed setting.sprites setting.palette room prepared →
      t.rooms.Dressed setting.sprites setting.palette room (prepared ++ added)

theorem Change.dresses (h : Change setting allowed s t) : Dresses setting s t := by
  have hsame : ∀ {prepared room} {rooms : Rooms},
      rooms.Dressed setting.sprites setting.palette room prepared →
      rooms.Dressed setting.sprites setting.palette room (prepared ++ []) :=
    fun h => h.append []
  cases h with
  | beginDialog text => exact ⟨[], s.stage.adds_beginDialog _ _, fun _ _ => hsame⟩
  | @transform tile name sprite _ hfind =>
    refine ⟨[⟨sprite, setting.palette, false⟩], s.stage.adds_prepare sprite false,
      fun room prepared hdressed => ?_⟩
    refine (hdressed.append _).modifyTile tile fun _ sprite' hfind' => Or.inr ?_
    obtain rfl : sprite = sprite' :=
      Option.some.inj ((Catalogue.find?_name hfind).symm.trans hfind')
    simp
  | markAt i position =>
    exact ⟨[], .refl _, fun _ _ hdressed =>
      (hsame hdressed).modifyAt i position fun _ _ hfind => Or.inl hfind⟩
  | defer | addItem | redirect | currentIndex | advance =>
    exact ⟨[], .refl _, fun _ _ => hsame⟩

/-- Acting prepares the sprites that tiles turn into. -/
theorem Changes.dresses (h : Changes setting allowed s t) : Dresses setting s t := by
  induction h with
  | refl => exact ⟨[], .refl _, fun _ _ hdressed => hdressed.append []⟩
  | tail _ hstep ih =>
    obtain ⟨added, hadds, hdressed⟩ := ih
    obtain ⟨more, hadds', hdressed'⟩ := hstep.dresses
    refine ⟨added ++ more, hadds.trans hadds', fun room prepared h => ?_⟩
    rw [← List.append_assoc]
    exact hdressed' room _ (hdressed room prepared h)

end Scene

/-! ## Games -/

namespace Game

variable {g g' : Game} {avatarName : String} {earlier : List Notice}

/-- Whatever there is to draw is prepared, and all that is prepared is in the colours of the
current room. -/
structure Ready (g : Game) (avatarName : String) (palette : Palette)
    (prepared : List Preparation) : Prop where
  current : g.palette? = .ok palette
  colours : ∀ x ∈ prepared, x.palette = palette
  room : g.world.rooms.Dressed g.world.sprites palette g.state.room prepared
  avatar : ∀ sprite, g.world.sprites.find? avatarName = some sprite →
    ∀ flipped, ⟨sprite, palette, flipped⟩ ∈ prepared

/-- Going from `g` to `g'` is calm, and keeps the game ready. -/
def Dresses (avatarName : String) (g g' : Game) : Prop :=
  ∀ palette prepared, g.Ready avatarName palette prepared → ∃ added,
    g.stage.Adds palette g'.stage added ∧ g'.Ready avatarName palette (prepared ++ added)

/-- Since the log was `earlier`, all notices have been faithful, and the game is ready. -/
def Presents (g : Game) (avatarName : String) (earlier : List Notice) : Prop :=
  ∃ notices palette, g.stage.log = earlier ++ notices ∧ Screen.blank.Faithful notices ∧
    g.Ready avatarName palette (Screen.blank.after notices).prepared

namespace Ready

variable {palette : Palette} {prepared added : List Preparation}

theorem append (h : g.Ready avatarName palette prepared)
    (hadded : ∀ x ∈ added, x.palette = palette) :
    g.Ready avatarName palette (prepared ++ added) where
  current := h.current
  colours x hx := (List.mem_append.mp hx).elim (h.colours x) (hadded x)
  room := h.room.append added
  avatar sprite hfind flipped := List.mem_append_left _ (h.avatar sprite hfind flipped)

/-- The world and the current room with its palette are all that matters. -/
theorem of_same (h : g.Ready avatarName palette prepared) (hworld : g'.world = g.world)
    (hroom : g'.state.room = g.state.room) (hpalette : g'.state.palette = g.state.palette) :
    g'.Ready avatarName palette prepared where
  current := by
    rw [palette?, hworld, hpalette]
    exact h.current
  colours := h.colours
  room := by
    rw [hworld, hroom]
    exact h.room
  avatar := by
    rw [hworld]
    exact h.avatar

end Ready

namespace Dresses

variable {g'' : Game}

/-- What was prepared in a game that goes back to the room it came from does no harm there. -/
theorem of_same (h : g.Dresses avatarName g'') (hworld : g'.world = g.world)
    (hroom : g'.state.room = g.state.room) (hpalette : g'.state.palette = g.state.palette)
    (hstage : ∀ palette, g''.stage.Adds palette g'.stage []) : g.Dresses avatarName g' := by
  intro palette prepared hready
  obtain ⟨added, hadds, -⟩ := h palette prepared hready
  refine ⟨added, by simpa using hadds.trans (hstage palette), ?_⟩
  exact (hready.append hadds.colours).of_same hworld hroom hpalette

theorem refl (g : Game) : g.Dresses avatarName g :=
  fun _ _ hready => ⟨[], .refl _, hready.append fun _ h => nomatch h⟩

theorem trans (h : g.Dresses avatarName g') (h' : g'.Dresses avatarName g'') :
    g.Dresses avatarName g'' := by
  intro palette prepared hready
  obtain ⟨added, hadds, hready⟩ := h palette prepared hready
  obtain ⟨more, hadds', hready⟩ := h' palette _ hready
  exact ⟨added ++ more, hadds.trans hadds', by rwa [← List.append_assoc]⟩

end Dresses

/-- To act in the scene of a game keeps it ready. -/
theorem dresses_absorb {palette : Palette} {limit : Nat} {target : Location} {scene : Scene}
    {allowed : Action → Prop} (hp : g.palette? = .ok palette)
    (h : Scene.Changes (g.setting palette limit) allowed (g.scene target) scene) :
    g.Dresses avatarName (g.absorb scene) := by
  intro palette' prepared hready
  obtain rfl : palette' = palette := Except.ok.inj (hready.current.symm.trans hp)
  obtain ⟨added, hadds, hdressed⟩ := h.dresses
  have hgrown := hready.append hadds.colours
  exact ⟨added, hadds, hgrown.current, hgrown.colours, hdressed _ _ hready.room, hgrown.avatar⟩

theorem dresses_sweep (g : Game) : g.Dresses avatarName g.sweep := by
  intro palette prepared hready
  have hgrown : g.Ready avatarName palette (prepared ++ []) :=
    hready.append fun _ h => nomatch h
  exact ⟨[], .refl _, hgrown.current, hgrown.colours, hgrown.room.sweep, hgrown.avatar⟩

namespace Presents

theorem of_dresses (h : g.Presents avatarName earlier) (hg : g.Dresses avatarName g') :
    g'.Presents avatarName earlier := by
  obtain ⟨notices, palette, hlog, hfaithful, hready⟩ := h
  obtain ⟨added, ⟨more, hlog', hcalm, rfl⟩, hready'⟩ := hg palette _ hready
  refine ⟨notices ++ more, palette, by rw [hlog', hlog, List.append_assoc], ?_, ?_⟩
  · exact Screen.faithful_append.mpr ⟨hfaithful, Screen.faithful_of_calm hcalm⟩
  · rwa [Screen.after_append, Screen.prepared_after hcalm]

end Presents

/-! ## Entering a room -/

theorem mem_of_sprites? {tiles : List Tile} {sprites : List Sprite}
    (h : g.sprites? tiles = .ok sprites) {tile : Tile} (ht : tile ∈ tiles) {sprite : Sprite}
    (hfind : g.world.sprites.find? tile.sprite = some sprite) : sprite ∈ sprites := by
  have hmem : some sprite ∈ sprites.map some := by
    rw [← sprites?_eq_ok.mp h, ← hfind]
    exact List.mem_map_of_mem ht
  simpa using hmem

theorem getElem?_of_palette? {w : World} {name : String} {palette : Palette} {index : Nat}
    (h : w.palette? name = some (palette, index)) : w.palettes[index]? = some palette :=
  List.mem_zipIdx_iff_getElem?.mp (List.mem_of_find?_eq_some h)

/-- An entry drops all sprites and then calmly prepares its own. -/
theorem entryNotices_parts (sprites : List Sprite) (avatar : Sprite) (palette : Palette) :
    ∃ prepares, entryNotices sprites avatar palette = .dropSprites :: prepares ∧
      (∀ notice ∈ prepares, notice.Calm palette) ∧
      preparations prepares = sprites.map (⟨·, palette, false⟩) ++
        [⟨avatar, palette, false⟩, ⟨avatar, palette, true⟩] := by
  refine ⟨sprites.map (.prepare · palette false) ++
    [.prepare avatar palette false, .prepare avatar palette true], rfl, fun n hn => ?_, ?_⟩
  · simp only [List.mem_append, List.mem_map, List.mem_cons, List.not_mem_nil, or_false] at hn
    rcases hn with ⟨_, -, rfl⟩ | rfl | rfl <;> rfl
  · simp [preparations, Notice.preparation?, List.filterMap_map, Function.comp_def]

/-- An entry is faithful, and what it leaves prepared is what it has prepared itself. -/
theorem faithful_entryNotices (screen : Screen) (sprites : List Sprite) (avatar : Sprite)
    (palette : Palette) :
    screen.Faithful (entryNotices sprites avatar palette) ∧
      (screen.after (entryNotices sprites avatar palette)).prepared =
        sprites.map (⟨·, palette, false⟩) ++
          [⟨avatar, palette, false⟩, ⟨avatar, palette, true⟩] := by
  obtain ⟨prepares, heq, hcalm, hprepares⟩ := entryNotices_parts sprites avatar palette
  have hafter : (screen.after (.dropSprites :: prepares)).prepared =
      ([] : List Preparation) ++ preparations prepares :=
    Screen.prepared_after hcalm
  rw [heq, hafter, hprepares, List.nil_append]
  exact ⟨⟨trivial, Screen.faithful_of_calm hcalm⟩, rfl⟩

/-- A room that is entered is ready, whatever has been prepared before. -/
theorem presents_enterRoom {room : Nat} {notices : List Notice}
    (hlog : g.stage.log = earlier ++ notices) (hfaithful : Screen.blank.Faithful notices)
    (h : g.enterRoom avatarName room = .ok g') : g'.Presents avatarName earlier := by
  obtain ⟨r, palette, index, avatar, sprites, hr, hp, ha, hs, rfl⟩ := enterRoom_eq_ok h
  obtain ⟨hentry, hprepared⟩ := faithful_entryNotices (Screen.blank.after notices) sprites
    avatar palette
  refine ⟨notices ++ entryNotices sprites avatar palette, palette, ?_, ?_, ?_⟩
  · simp [tell, Stage.tell, hlog]
  · exact Screen.faithful_append.mpr ⟨hfaithful, hentry⟩
  rw [Screen.after_append, hprepared]
  refine ⟨?_, ?_, ?_, ?_⟩
  · have hindex : g.world.palettes[index]? = some palette := getElem?_of_palette? hp
    simp [palette?, tell, hindex]
  · intro x hx
    simp only [List.mem_append, List.mem_map, List.mem_cons, List.not_mem_nil, or_false] at hx
    rcases hx with ⟨_, -, rfl⟩ | rfl | rfl <;> rfl
  · intro r' hr' tile ht sprite hfind
    obtain rfl : r = r' := Option.some.inj (hr.symm.trans hr')
    exact List.mem_append_left _
      (List.mem_map.mpr ⟨sprite, mem_of_sprites? hs ht hfind, rfl⟩)
  · intro sprite hfind flipped
    obtain rfl : avatar = sprite :=
      Option.some.inj ((sprite?_eq_ok.mp ha).symm.trans hfind)
    cases flipped <;> simp

/-- To occupy a cell keeps the game ready, or makes it so by entering a room. -/
theorem Presents.occupy {target : Location} {entered : Bool}
    (h : g.Presents avatarName earlier)
    (hocc : g.occupy avatarName target = .ok (entered, g')) :
    g'.Presents avatarName earlier := by
  obtain ⟨-, -, middle, hm, rfl⟩ := occupy_eq_ok hocc
  have hmiddle : middle.Presents avatarName earlier := by
    rcases hm with ⟨-, rfl⟩ | hm
    · exact h
    · obtain ⟨notices, -, hlog, hfaithful, -⟩ := h
      exact presents_enterRoom hlog hfaithful hm
  exact hmiddle.of_dresses ((Dresses.refl middle).of_same rfl rfl rfl fun _ => .refl _)

/-! ## Drawing -/

theorem Depicts.draws {part : Notice} (h : g.Depicts avatarName part) : part.Draws := by
  cases part with
  | drawTile | drawAvatar => exact trivial
  | _ => exact h.elim

/-- A screen with the background allows whatever there is to draw. -/
theorem Ready.allows {palette : Palette} {screen : Screen}
    (h : g.Ready avatarName palette screen.prepared)
    (hbackground : screen.background = some palette) {part : Notice}
    (hpart : g.Depicts avatarName part) : screen.Allows part := by
  cases part with
  | drawTile =>
    obtain ⟨r, hr, tile, ht, hfind⟩ := hpart
    exact ⟨palette, ⟨hbackground, h.colours⟩, h.room r hr tile ht _ hfind⟩
  | drawAvatar =>
    exact ⟨palette, ⟨hbackground, h.colours⟩, h.avatar _ hpart false, h.avatar _ hpart true⟩
  | _ => exact hpart.elim

/-- What is drawn of a game that is ready is prepared. -/
theorem Presents.draw (h : g.Presents avatarName earlier) (frame : Nat) :
    (g.draw avatarName frame).2.Presents avatarName earlier := by
  obtain ⟨notices, palette, hlog, hfaithful, hready⟩ := h
  obtain ⟨more, hmore, heq⟩ := g.draw_parts avatarName frame
  rw [heq]
  refine ⟨notices ++ more, palette, by simp [tell, Stage.tell, hlog], ?_⟩
  rw [Screen.faithful_append, Screen.after_append]
  generalize Screen.blank.after notices = screen at hready ⊢
  have htell : ∀ {prepared}, g.Ready avatarName palette prepared →
      (g.tell more).Ready avatarName palette prepared :=
    fun h => h.of_same rfl rfl rfl
  rcases hmore with rfl | ⟨palette', parts, hp, rfl, hparts⟩
  · exact ⟨⟨hfaithful, trivial⟩, htell hready⟩
  · -- from its background on, a picture leaves the screen as it is
    obtain rfl : palette' = palette := Except.ok.inj (hp.symm.trans hready.current)
    let begun : Screen := ⟨screen.prepared, some palette'⟩
    have hbegun : g.Ready avatarName palette' begun.prepared := hready
    obtain ⟨hdrawn, hafter⟩ := Screen.faithful_of_draws fun part hpart =>
      ⟨(hparts part hpart).draws, hbegun.allows rfl (hparts part hpart)⟩
    refine ⟨⟨hfaithful, trivial, hdrawn⟩, ?_⟩
    have hscreen : screen.after (.drawBackground palette' :: parts) = begun := hafter
    rw [hscreen]
    exact htell hready

/-! ## No pictures -/

variable {limit : Nat} {allowed : Action → Prop}

theorem undrawn_entryNotices (g : Game) (sprites : List Sprite) (avatar : Sprite)
    (palette : Palette) :
    g.stage.Undrawn (g.stage.tell (entryNotices sprites avatar palette)) := by
  obtain ⟨prepares, heq, hcalm, -⟩ := entryNotices_parts sprites avatar palette
  refine ⟨_, rfl, fun notice hnotice => ?_⟩
  rcases List.mem_cons.mp (heq ▸ hnotice) with rfl | hnotice
  · exact trivial
  · exact (hcalm notice hnotice).quiet

theorem Change.undrawn (h : Change limit allowed avatarName g g') :
    g.stage.Undrawn g'.stage := by
  cases h with
  | turn | sweep => exact .refl _
  | act _ hscene =>
    obtain ⟨added, hadds, -⟩ := hscene.dresses
    exact hadds.undrawn
  | occupy hocc =>
    obtain ⟨-, -, middle, ⟨-, rfl⟩ | hm, rfl⟩ := occupy_eq_ok hocc
    · exact .refl _
    · obtain ⟨_, palette, _, avatar, sprites, -, -, -, -, rfl⟩ := enterRoom_eq_ok hm
      exact g.undrawn_entryNotices sprites avatar palette

/-- An evaluation draws nothing. -/
theorem Changes.undrawn (h : Changes limit allowed avatarName g g') :
    g.stage.Undrawn g'.stage :=
  keeps_of_step (I := fun g' => g.stage.Undrawn g'.stage)
    (fun hstep ih => ih.trans hstep.undrawn) h (.refl _)

end Game

end TileAdventure
