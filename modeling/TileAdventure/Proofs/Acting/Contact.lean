import TileAdventure.Proofs.Acting.Effect
import TileAdventure.Proofs.Acting.PickUp

/-!
# Contacts

An encounter goes through the positions of a room in order (`Setting.meetUpTo`). When it
comes to a tile on the target's cell, the avatar meets that tile in the role of its sprite,
unless it is one of an avatar: that is a contact (`Setting.contactAt?`). What an encounter
tells is a tally of its contacts (`Setting.tally_meetCell`), and elsewhere nothing happens
(`Setting.meetUpTo_succ_of_no_contact`).

A contact is on the target's cell as it is at that moment, but it is in the room of the
start. So it is where the avatar is about to go unless a dispatch before it has redirected
the avatar to another room (`Setting.contacts_on_target`), and then the avatar meets tiles of
a room to which it is not going (`Setting.contact_in_mirage`).
-/

namespace TileAdventure

/-- The sprite in whose role a tile is met. Tiles of avatars are not met. -/
def Catalogue.role? (sprites : Catalogue) (tile : Tile) : Option Sprite :=
  (sprites.find? tile.sprite).filter (!·.isAvatar)

theorem Catalogue.role?_eq_some {sprites : Catalogue} {tile : Tile} {sprite : Sprite} :
    sprites.role? tile = some sprite ↔
      sprites.find? tile.sprite = some sprite ∧ sprite.isAvatar = false := by
  simp [role?, Option.filter_eq_some_iff]

/-- A tile that the avatar meets in the role of its sprite, and the scene at that moment. -/
structure Contact where
  tile : Tile
  sprite : Sprite
  scene : Scene

/-- Whether the tile is pushed in a contact. -/
def Contact.isPushed (avatarCell : Int × Int) (c : Contact) : Bool :=
  !c.scene.targetIs avatarCell && (c.sprite.behavior? Behavior.pushEvent).isSome

namespace Encounter

/-- What has been met after some contacts. -/
def tally (avatarCell : Int × Int) (met : Encounter) (contacts : List Contact) :
    Encounter where
  passable := met.passable && contacts.all (!·.sprite.isWall)
  pickedUp := met.pickedUp ++ (contacts.filter (·.sprite.isItem)).map (·.sprite.name)
  pushed := met.pushed + contacts.countP (·.isPushed avatarCell)

variable (avatarCell : Int × Int) (met : Encounter)

@[simp] theorem tally_nil : met.tally avatarCell [] = met := by
  simp [tally]

theorem tally_append (contacts more : List Contact) :
    met.tally avatarCell (contacts ++ more) =
      (met.tally avatarCell contacts).tally avatarCell more := by
  simp [tally, Bool.and_assoc, Nat.add_assoc]

end Encounter

namespace Setting

variable (setting : Setting) (avatarCell : Int × Int)

/-- The contact with a tile that an encounter has come to. -/
def contact? (now : Scene) (tile : Tile) : Option Contact :=
  if now.isOnTarget tile then (setting.sprites.role? tile).map (⟨tile, ·, now⟩) else none

/-- An encounter as far as it goes before it comes to a position of the room. -/
def meetUpTo (scene : Scene) (position : Nat) : Attempt Encounter :=
  setting.meetTiles avatarCell scene.target.room (List.range position) .nothing scene

/-- The contact at a position of the room, if the encounter gets there. -/
def contactAt? (scene : Scene) (position : Nat) : Option Contact :=
  match setting.meetUpTo avatarCell scene position with
  | (.ok _, now) => (now.tileAt? scene.target.room position).bind (setting.contact? now)
  | (.error _, _) => none

/-- The contacts at the first positions of the room, in order. -/
def contactsUpTo (scene : Scene) (position : Nat) : List Contact :=
  (List.range position).filterMap (setting.contactAt? avatarCell scene)

/-- The contacts of an encounter, in order. -/
def contacts (scene : Scene) : List Contact :=
  match scene.rooms[scene.target.room]? with
  | none => []
  | some r => setting.contactsUpTo avatarCell scene r.tiles.length

variable {setting avatarCell} {room position : Nat} {scene now : Scene} {met : Encounter}

/-! ## One position -/

/-- A tile without contact is left alone, or has no sprite. -/
theorem meetTile_of_no_contact {tile : Tile} (h : setting.contact? now tile = none)
    (avatarCell : Int × Int) (room position : Nat) (met : Encounter) :
    (setting.meetTile avatarCell room position tile met now).2 = now ∧
      ∀ met', (setting.meetTile avatarCell room position tile met now).1 = .ok met' →
        met' = met := by
  unfold contact? at h
  unfold meetTile
  split
  · exact ⟨rfl, fun met' h => (Except.ok.inj h).symm⟩
  rename_i hon
  rw [if_pos (by simpa using hon)] at h
  rcases hfind : setting.sprites.find? tile.sprite with _ | sprite
  · exact ⟨rfl, fun met' h => nomatch h⟩
  · have ha : sprite.isAvatar = true := by simpa [Catalogue.role?, hfind] using h
    dsimp only
    rw [if_pos ha]
    exact ⟨rfl, fun met' h => (Except.ok.inj h).symm⟩

/-- A tile with a contact is met as that contact says. -/
theorem tally_meetTile_of_contact {tile : Tile} {c : Contact}
    (h : setting.contact? now tile = some c) {met' : Encounter}
    (hmeet : (setting.meetTile avatarCell room position tile met now).1 = .ok met') :
    met' = met.tally avatarCell [c] := by
  unfold contact? at h
  split at h
  case isFalse => cases h
  rename_i hon
  obtain ⟨sprite, hrole, rfl⟩ := Option.map_eq_some_iff.mp h
  obtain ⟨hfind, ha⟩ := Catalogue.role?_eq_some.mp hrole
  have htally : met.tally avatarCell [⟨tile, sprite, now⟩] =
      { met.note sprite with
        pushed := met.pushed +
          if !now.targetIs avatarCell && (sprite.behavior? Behavior.pushEvent).isSome then 1
          else 0 } := by
    cases hitem : sprite.isItem <;>
      simp [Encounter.tally, Encounter.note, Contact.isPushed, List.countP_cons, hitem]
  rw [htally]
  unfold meetTile at hmeet
  simp only [hon, Bool.not_true, Bool.false_eq_true, if_false, hfind, ha,
    Scene.targetIs_ite_pickUp] at hmeet
  split at hmeet
  · rename_i hsame
    rw [← Except.ok.inj hmeet]
    simp [hsame, Encounter.note]
  · rename_i hsame
    rcases hb : sprite.behavior? Behavior.pushEvent with _ | behavior
    · rw [hb] at hmeet
      rw [← Except.ok.inj hmeet]
      simp [Encounter.note]
    · rw [hb] at hmeet
      dsimp only at hmeet
      generalize (setting.push behavior ⟨room, tile.id⟩ _).1 = pushed at hmeet
      obtain halt | _ := pushed
      · cases hmeet
      · rw [← Except.ok.inj hmeet]
        simp [hsame, Encounter.note]

/-- To meet a tile is to meet it as its contact says, if it has one. -/
theorem tally_meetTile {tile : Tile} {met' : Encounter} {after : Scene}
    (h : setting.meetTile avatarCell room position tile met now = (.ok met', after)) :
    met' = met.tally avatarCell (setting.contact? now tile).toList := by
  rcases hc : setting.contact? now tile with _ | c
  · have hsame := (meetTile_of_no_contact hc avatarCell room position met).2 met'
    simpa using hsame (congrArg Prod.fst h)
  · exact tally_meetTile_of_contact hc (congrArg Prod.fst h)

/-! ## One position after another -/

theorem meetTiles_append (positions more : List Nat) (met : Encounter) (scene : Scene) :
    setting.meetTiles avatarCell room (positions ++ more) met scene =
      match setting.meetTiles avatarCell room positions met scene with
      | (.ok met, scene) => setting.meetTiles avatarCell room more met scene
      | (.error halt, scene) => (.error halt, scene) := by
  induction positions generalizing met scene with
  | nil => rfl
  | cons position positions ih =>
    rw [List.cons_append, meetTiles, meetTiles]
    rcases scene.tileAt? room position with _ | tile
    · exact ih met scene
    · dsimp only
      rcases setting.meetTile avatarCell room position tile met scene with ⟨halt | met, after⟩
      · rfl
      · exact ih met after

/-- An encounter that has got to a position goes on with the tile there. -/
theorem meetUpTo_succ (h : setting.meetUpTo avatarCell scene position = (.ok met, now)) :
    setting.meetUpTo avatarCell scene (position + 1) =
      match now.tileAt? scene.target.room position with
      | none => (.ok met, now)
      | some tile => setting.meetTile avatarCell scene.target.room position tile met now := by
  unfold meetUpTo at h ⊢
  rw [List.range_succ, meetTiles_append, h]
  dsimp only
  rw [meetTiles]
  rcases now.tileAt? scene.target.room position with _ | tile
  · rfl
  · dsimp only
    rcases setting.meetTile avatarCell scene.target.room position tile met now with
      ⟨_ | _, _⟩ <;> rfl

/-- An encounter gets to a position by way of the one before. -/
theorem meetUpTo_ok_of_succ {after : Scene}
    (h : setting.meetUpTo avatarCell scene (position + 1) = (.ok met, after)) :
    ∃ met' now, setting.meetUpTo avatarCell scene position = (.ok met', now) := by
  rcases hprev : setting.meetUpTo avatarCell scene position with ⟨halt | met', now⟩
  · unfold meetUpTo at h hprev
    rw [List.range_succ, meetTiles_append, hprev] at h
    cases h
  · exact ⟨met', now, rfl⟩

theorem contactAt?_eq (h : setting.meetUpTo avatarCell scene position = (.ok met, now)) :
    setting.contactAt? avatarCell scene position =
      (now.tileAt? scene.target.room position).bind (setting.contact? now) := by
  rw [contactAt?, h]

/-- Where there is no contact, nothing happens. -/
theorem meetUpTo_succ_of_no_contact
    (h : setting.meetUpTo avatarCell scene position = (.ok met, now))
    (hnone : setting.contactAt? avatarCell scene position = none) :
    (setting.meetUpTo avatarCell scene (position + 1)).2 = now ∧
      ∀ met', (setting.meetUpTo avatarCell scene (position + 1)).1 = .ok met' →
        met' = met := by
  rw [contactAt?_eq h] at hnone
  rw [meetUpTo_succ h]
  rcases htile : now.tileAt? scene.target.room position with _ | tile
  · exact ⟨rfl, fun met' h => (Except.ok.inj h).symm⟩
  · rw [htile] at hnone
    exact meetTile_of_no_contact hnone avatarCell _ _ met

theorem contactsUpTo_succ (avatarCell : Int × Int) (scene : Scene) (position : Nat) :
    setting.contactsUpTo avatarCell scene (position + 1) =
      setting.contactsUpTo avatarCell scene position ++
        (setting.contactAt? avatarCell scene position).toList := by
  rw [contactsUpTo, contactsUpTo, List.range_succ, List.filterMap_append]
  cases hc : setting.contactAt? avatarCell scene position <;> simp [hc]

/-- As far as an encounter has got, it tells its contacts. -/
theorem tally_meetUpTo (h : setting.meetUpTo avatarCell scene position = (.ok met, now)) :
    met = Encounter.nothing.tally avatarCell
      (setting.contactsUpTo avatarCell scene position) := by
  induction position generalizing met now with
  | zero =>
    cases h
    simp [contactsUpTo]
  | succ position ih =>
    obtain ⟨met', now', hprev⟩ := meetUpTo_ok_of_succ h
    rw [meetUpTo_succ hprev] at h
    rw [contactsUpTo_succ, contactAt?_eq hprev, Encounter.tally_append, ← ih hprev]
    generalize now'.tileAt? scene.target.room position = tile? at h ⊢
    obtain _ | tile := tile?
    · cases h
      simp
    · exact tally_meetTile h

theorem meetCell_eq_meetUpTo {r : Room} (hr : scene.rooms[scene.target.room]? = some r)
    (avatarCell : Int × Int) :
    setting.meetCell avatarCell scene =
      setting.meetUpTo avatarCell scene r.tiles.length := by
  simp only [meetCell, hr]
  rfl

/-- An encounter tells its contacts. -/
theorem tally_meetCell {after : Scene}
    (h : setting.meetCell avatarCell scene = (.ok met, after)) :
    met = Encounter.nothing.tally avatarCell (setting.contacts avatarCell scene) := by
  rcases hr : scene.rooms[scene.target.room]? with _ | r
  · simp [meetCell, hr] at h
  · rw [meetCell_eq_meetUpTo hr] at h
    simpa [contacts, hr] using tally_meetUpTo h

/-! ## Where contacts are -/

theorem contact?_eq_some {tile : Tile} {c : Contact}
    (h : setting.contact? now tile = some c) :
    c.tile = tile ∧ c.scene = now ∧ setting.sprites.role? tile = some c.sprite ∧
      (tile.x, tile.y) = (now.target.x, now.target.y) := by
  unfold contact? at h
  split at h
  case isFalse => cases h
  rename_i hon
  obtain ⟨sprite, hrole, rfl⟩ := Option.map_eq_some_iff.mp h
  exact ⟨rfl, rfl, hrole, by simpa [Scene.isOnTarget] using hon⟩

theorem contactAt?_eq_some {c : Contact}
    (h : setting.contactAt? avatarCell scene position = some c) :
    (∃ met, setting.meetUpTo avatarCell scene position = (.ok met, c.scene)) ∧
      c.scene.tileAt? scene.target.room position = some c.tile ∧
      setting.sprites.role? c.tile = some c.sprite ∧
      (c.tile.x, c.tile.y) = (c.scene.target.x, c.scene.target.y) := by
  unfold contactAt? at h
  split at h
  · rename_i met now hmeet
    obtain ⟨tile, htile, hc⟩ := Option.bind_eq_some_iff.mp h
    obtain ⟨rfl, rfl, hrole, hcell⟩ := contact?_eq_some hc
    exact ⟨⟨met, hmeet⟩, htile, hrole, hcell⟩
  · cases h

/-- What the avatar meets, and where that is. An encounter tells its contacts, and at a
position without a contact nothing happens. A contact is a tile at its position of the room
of the start, and at that moment it is on the target's cell. The target is then as it was at
the start, or where a dispatch at one of the positions before has redirected the avatar. So
the tile is in the target's room as long as no dispatch redirects to another room. -/
theorem contacts_on_target (setting : Setting) (avatarCell : Int × Int) (scene : Scene) :
    (∀ met after, setting.meetCell avatarCell scene = (.ok met, after) →
      met = Encounter.nothing.tally avatarCell (setting.contacts avatarCell scene)) ∧
    (∀ position met now, setting.meetUpTo avatarCell scene position = (.ok met, now) →
      setting.contactAt? avatarCell scene position = none →
      (setting.meetUpTo avatarCell scene (position + 1)).2 = now ∧
        ∀ met', (setting.meetUpTo avatarCell scene (position + 1)).1 = .ok met' →
          met' = met) ∧
    ∀ position c, setting.contactAt? avatarCell scene position = some c →
      let earlier := setting.dispatchesAtTiles avatarCell scene.target.room
        (List.range position) .nothing scene
      c.scene = (setting.meetUpTo avatarCell scene position).2 ∧
      c.scene.tileAt? scene.target.room position = some c.tile ∧
      setting.sprites.role? c.tile = some c.sprite ∧
      (c.tile.x, c.tile.y) = (c.scene.target.x, c.scene.target.y) ∧
      (c.scene.target = scene.target ∨ ∃ x ∈ earlier, x.Redirects c.scene.target) ∧
      ((∀ x ∈ earlier, ∀ l, x.Redirects l → l.room = scene.target.room) →
        c.scene.tileAt? c.scene.target.room position = some c.tile) := by
  refine ⟨fun met after h => tally_meetCell h,
    fun position met now h => meetUpTo_succ_of_no_contact h, fun position c hc => ?_⟩
  obtain ⟨⟨met, hmeet⟩, htile, hrole, hcell⟩ := contactAt?_eq_some hc
  have heffects : scene.Effects setting
      (setting.dispatchesAtTiles avatarCell scene.target.room (List.range position) .nothing
        scene)
      (setting.meetUpTo avatarCell scene position).2 :=
    setting.effects_meetTiles avatarCell _ _ _ scene
  rw [hmeet] at heffects
  refine ⟨(congrArg Prod.snd hmeet).symm, htile, hrole, hcell, heffects.target, fun hstays => ?_⟩
  have hroom : c.scene.target.room = scene.target.room := by
    rcases heffects.target with hsame | ⟨x, hx, hredirects⟩
    · exact congrArg Location.room hsame
    · exact hstays x hx _ hredirects
  rw [hroom]
  exact htile

/-- Two rooms. In the first one a portal leads to the second one, past the cell of a wall. -/
def mirage : Setting where
  dimensions := .ofGrid 3 1 2 1 false false
  sprites := ⟨[⟨"walker", [], 0, true, false, false, false, []⟩,
    ⟨"portal", [], 0, false, false, false, false, [⟨"push", [.moveAvatar 1 2 0]⟩]⟩,
    ⟨"wall", [], 0, false, true, false, false, []⟩]⟩
  palette := ⟨"day", []⟩
  depthLimit := 256

/-- The scene in which the walker is about to go through the portal. -/
def atPortal : Scene where
  rooms := [⟨"day", [⟨⟨0⟩, "walker", 0, 0, false⟩, ⟨⟨1⟩, "portal", 1, 0, false⟩,
    ⟨⟨2⟩, "wall", 2, 0, false⟩]⟩, ⟨"day", []⟩]
  inventory := .empty
  bookmarks := .empty
  gate := .idle
  stage := .ofPageChars 40
  random := .ofSeed 0
  target := ⟨0, 1, 0⟩

/-- The portal is met where the walker is about to go. The wall comes after it, when a
dispatch has redirected the walker to the wall's cell, but in the other room. -/
theorem contacts_on_target_mirage :
    (∃ c, mirage.contactAt? (0, 0) atPortal 1 = some c ∧ c.tile.sprite = "portal" ∧
      c.scene.tileAt? c.scene.target.room 1 = some c.tile) ∧
    ∃ c, mirage.contactAt? (0, 0) atPortal 2 = some c ∧ c.tile.sprite = "wall" ∧
      (c.tile.x, c.tile.y) = (c.scene.target.x, c.scene.target.y) ∧
      ∃ x ∈ mirage.dispatchesAtTiles (0, 0) 0 (List.range 2) .nothing atPortal,
        x.Redirects c.scene.target := by
  obtain ⟨-, -, hcontact⟩ := contacts_on_target mirage (0, 0) atPortal
  obtain ⟨-, -, -, -, -, hroom⟩ := hcontact 1 _ rfl
  obtain ⟨-, -, -, hcell, htarget, -⟩ := hcontact 2 _ rfl
  refine ⟨⟨_, rfl, rfl, hroom fun x hx => nomatch hx⟩, _, rfl, rfl, hcell, ?_⟩
  exact htarget.resolve_left (by decide)

/-- The wall that stands in the way is in the first room when the walker is about to go to
the second one, where nothing stands. -/
theorem contact_in_mirage :
    ∃ c, mirage.contactAt? (0, 0) atPortal 2 = some c ∧ c.sprite.isWall = true ∧
      c.scene.tileAt? 0 2 = some c.tile ∧ c.scene.target = ⟨1, 2, 0⟩ ∧
      c.scene.rooms[1]? = some ⟨"day", []⟩ ∧
      ∃ met after, mirage.meetCell (0, 0) atPortal = (.ok met, after) ∧
        met.passable = false :=
  ⟨_, rfl, rfl, rfl, rfl, rfl, _, _, rfl, rfl⟩

end Setting

end TileAdventure
