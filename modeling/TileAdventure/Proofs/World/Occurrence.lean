import Mathlib.Data.List.Nodup
import TileAdventure.Acting.Bookmarks
import TileAdventure.Proofs.World.Complete
import TileAdventure.World.Document

/-!
# Occurrences of actions

A path names one occurrence of an action: in the behavior for an event, at an index, and at
an index below that one, and so on (`Sprite.Occurs`). The last step of a path can always be
read off (`ActionPath.child_inj`). What is left in the end is the event, and it can be told
from a longer path if it has no hyphen of its own. So in a catalogue of plain events a path
leads to one action at most (`Sprite.Occurs.unique`), and so it does on a tile as long as
tiles have ids of their own (`Rooms.Occurs.unique`). They do in a world of parts
(`World.nodup_ids_ofParts`), as every world is that has been read from a text
(`World.exists_ofParts_of_load`).
-/

namespace TileAdventure

/-! ## Paths -/

/-- A list is cut in one way only before the last of its separators. -/
theorem eq_of_append_cons {α : Type} {sep : α} {xs xs' ys ys' : List α} (hy : sep ∉ ys)
    (hy' : sep ∉ ys') (h : xs ++ sep :: ys = xs' ++ sep :: ys') : xs = xs' ∧ ys = ys' := by
  rcases List.append_eq_append_iff.mp h with ⟨gap, rfl, hgap⟩ | ⟨gap, rfl, hgap⟩
  · cases gap with
    | nil => exact ⟨(List.append_nil _).symm, by simpa using hgap⟩
    | cons x gap =>
      obtain rfl : ys = gap ++ sep :: ys' := (List.cons.inj hgap).2
      simp at hy
  · cases gap with
    | nil => exact ⟨List.append_nil _, by simpa using hgap.symm⟩
    | cons x gap =>
      obtain rfl : ys' = gap ++ sep :: ys := (List.cons.inj hgap).2
      simp at hy'

namespace ActionPath

theorem hyphen_notMem_index (i : Nat) : '-' ∉ (toString i).toList := by
  intro h
  rw [Nat.toString_eq_repr, Nat.toList_repr] at h
  exact absurd (Nat.isDigit_of_mem_toDigits (by decide) (by decide) h) (by decide)

theorem toList_child (p : ActionPath) (i : Nat) :
    (p.child i).text.toList = p.text.toList ++ '-' :: (toString i).toList := by
  simp [child]

/-- The last step of a path can be read off. -/
theorem child_inj {p q : ActionPath} {i j : Nat} : p.child i = q.child j ↔ p = q ∧ i = j := by
  constructor
  · intro h
    have hlist := congrArg (fun path : ActionPath => path.text.toList) h
    simp only [toList_child] at hlist
    obtain ⟨hpath, hindex⟩ :=
      eq_of_append_cons (hyphen_notMem_index i) (hyphen_notMem_index j) hlist
    have hdigits : Nat.toDigits 10 i = Nat.toDigits 10 j := by
      simpa only [Nat.toString_eq_repr, Nat.toList_repr] using hindex
    refine ⟨congrArg ActionPath.mk (String.toList_inj.mp hpath), ?_⟩
    simpa using congrArg (fun digits => Nat.ofDigitChars 10 digits 0) hdigits
  · rintro ⟨rfl, rfl⟩
    rfl

/-- A path that starts at an event is one step from the event's name. -/
theorem root_eq_child (event : String) (i : Nat) : root event i = child ⟨event⟩ i := rfl

theorem hyphen_mem_child (p : ActionPath) (i : Nat) : '-' ∈ (p.child i).text.toList := by
  simp [toList_child]

end ActionPath

/-! ## Actions of a sprite -/

/-- The actions right below an action. -/
def Action.inner : Action → List Action
  | .conditional _ _ _ actions | .sequence _ _ actions => actions
  | .dialog _ | .giveItem .. | .transformSelf _ | .moveAvatar .. | .removeSelf
  | .triggerEvent _ => []

theorem Action.Contains.inner {a b c : Action} (h : a.Contains b) (hc : c ∈ b.inner) :
    a.Contains c := by
  induction h with
  | self b =>
    cases b with
    | conditional => exact .conditional hc (.self c)
    | sequence => exact .sequence hc (.self c)
    | _ => cases hc
  | conditional hmem _ ih => exact .conditional hmem (ih hc)
  | sequence hmem _ ih => exact .sequence hmem (ih hc)

/-- `action` occurs at `path` in the behaviors of a sprite. -/
inductive Sprite.Occurs (sprite : Sprite) : ActionPath → Action → Prop
  | behavior {event : String} {behavior : Behavior} {action : Action} {index : Nat} :
      sprite.behavior? event = some behavior → behavior.actions[index]? = some action →
      Occurs sprite (.root event index) action
  | inner {path : ActionPath} {parent action : Action} {index : Nat} :
      Occurs sprite path parent → parent.inner[index]? = some action →
      Occurs sprite (path.child index) action

/-- No event that a behavior answers has a hyphen in its name. -/
def Catalogue.PlainEvents (sprites : Catalogue) : Prop :=
  ∀ s ∈ sprites.sprites, ∀ b ∈ s.behaviors, '-' ∉ b.event.toList

/-- No action of a behavior, at any depth, gives its tile another sprite. -/
def Catalogue.NeverTransforms (sprites : Catalogue) : Prop :=
  ∀ s ∈ sprites.sprites, ∀ b ∈ s.behaviors, ∀ a ∈ b.actions, ∀ name,
    ¬a.Contains (.transformSelf name)

namespace Sprite.Occurs

variable {sprite : Sprite} {path : ActionPath} {a b : Action}

theorem hyphen_mem (h : sprite.Occurs path a) : '-' ∈ path.text.toList := by
  cases h with
  | behavior => exact ActionPath.hyphen_mem_child _ _
  | inner => exact ActionPath.hyphen_mem_child _ _

/-- An action occurs within one of the actions of a behavior. -/
theorem contains (h : sprite.Occurs path a) :
    ∃ behavior ∈ sprite.behaviors, ∃ top ∈ behavior.actions, top.Contains a := by
  induction h with
  | behavior hb ha =>
    exact ⟨_, List.mem_of_find?_eq_some hb, _, List.mem_of_getElem? ha, .self _⟩
  | inner _ ha ih =>
    obtain ⟨behavior, hb, top, htop, hcontains⟩ := ih
    exact ⟨behavior, hb, top, htop, hcontains.inner (List.mem_of_getElem? ha)⟩

/-- A plain event is no path of an action. -/
theorem ne_event (hplain : ∀ b ∈ sprite.behaviors, '-' ∉ b.event.toList)
    (h : sprite.Occurs path a) {event : String} {behavior : Behavior}
    (hb : sprite.behavior? event = some behavior) : path ≠ ⟨event⟩ := by
  rintro rfl
  have hname : behavior.event = event := by simpa using List.find?_some hb
  have hyphen := h.hyphen_mem
  rw [← hname] at hyphen
  exact hplain behavior (List.mem_of_find?_eq_some hb) hyphen

/-- With plain events a path leads to one action at most. -/
theorem unique (hplain : ∀ b ∈ sprite.behaviors, '-' ∉ b.event.toList)
    (h : sprite.Occurs path a) (h' : sprite.Occurs path b) : a = b := by
  induction h generalizing b with
  | @behavior event behavior a i hb ha =>
    generalize hp : ActionPath.root event i = p at h'
    rw [ActionPath.root_eq_child] at hp
    cases h' with
    | behavior hb' ha' =>
      rw [ActionPath.root_eq_child, ActionPath.child_inj] at hp
      obtain ⟨hevent, rfl⟩ := hp
      obtain rfl := congrArg ActionPath.text hevent
      obtain rfl : behavior = _ := Option.some.inj (hb.symm.trans hb')
      exact Option.some.inj (ha.symm.trans ha')
    | inner hparent =>
      exact (ne_event hplain hparent hb (ActionPath.child_inj.mp hp).1.symm).elim
  | @inner path parent a i hparent ha ih =>
    generalize hp : path.child i = p at h'
    cases h' with
    | behavior hb' =>
      rw [ActionPath.root_eq_child] at hp
      exact (ne_event hplain hparent hb' (ActionPath.child_inj.mp hp).1).elim
    | inner hparent' ha' =>
      obtain ⟨rfl, rfl⟩ := ActionPath.child_inj.mp hp
      obtain rfl := ih hparent'
      exact Option.some.inj (ha.symm.trans ha')

end Sprite.Occurs

/-! ## Actions of a tile -/

/-- `action` occurs at `path` in the behaviors of the tile numbered `id`. -/
def Rooms.Occurs (rooms : Rooms) (sprites : Catalogue) (id : TileId) (path : ActionPath)
    (action : Action) : Prop :=
  ∃ tile ∈ rooms.tiles, tile.id = id ∧
    ∃ sprite, sprites.find? tile.sprite = some sprite ∧ sprite.Occurs path action

namespace Rooms.Occurs

variable {rooms : Rooms} {sprites : Catalogue} {id : TileId} {path : ActionPath}
  {a b : Action}

theorem inner (h : rooms.Occurs sprites id path a) {index : Nat}
    (hb : a.inner[index]? = some b) : rooms.Occurs sprites id (path.child index) b := by
  obtain ⟨tile, ht, hid, sprite, hs, ha⟩ := h
  exact ⟨tile, ht, hid, sprite, hs, ha.inner hb⟩

/-- With plain events a path leads to one action of a tile at most. -/
theorem unique (hplain : sprites.PlainEvents) (hids : (rooms.tiles.map Tile.id).Nodup)
    (h : rooms.Occurs sprites id path a) (h' : rooms.Occurs sprites id path b) : a = b := by
  obtain ⟨tile, ht, hid, sprite, hs, ha⟩ := h
  obtain ⟨tile', ht', hid', sprite', hs', hb⟩ := h'
  obtain rfl : tile = tile' :=
    List.inj_on_of_nodup_map hids ht ht' (hid.trans hid'.symm)
  obtain rfl : sprite = sprite' := Option.some.inj (hs.symm.trans hs')
  exact ha.unique (hplain sprite (List.mem_of_find?_eq_some hs)) hb

/-- Where nothing transforms, no occurrence does. -/
theorem not_transform (hnever : sprites.NeverTransforms) {name : String} :
    ¬rooms.Occurs sprites id path (.transformSelf name) := by
  rintro ⟨tile, -, -, sprite, hs, ha⟩
  obtain ⟨behavior, hb, top, htop, hcontains⟩ := ha.contains
  exact hnever sprite (List.mem_of_find?_eq_some hs) behavior hb top htop name hcontains

end Rooms.Occurs

/-- The tiles of a world of parts have ids of their own. -/
theorem World.nodup_ids_ofParts (dimensions : Dimensions) (sprites : List Sprite)
    (palettes : List Palette) (rooms : Rooms) :
    ((World.ofParts dimensions sprites palettes rooms).rooms.tiles.map Tile.id).Nodup := by
  have hindexes : ((World.ofParts dimensions sprites palettes rooms).rooms.tiles.map
      (·.id.index)).Nodup := by
    rw [World.ofParts, Rooms.ids_numbered]
    exact List.nodup_range'
  refine List.Nodup.of_map TileId.index ?_
  rw [List.map_map]
  exact hindexes

theorem Decode.exists_ofParts_of_world {j : Json} {w : World} (h : Decode.world j = .ok w) :
    ∃ dimensions sprites palettes rooms, w = .ofParts dimensions sprites palettes rooms := by
  unfold Decode.world at h
  simp only [bind, Except.bind] at h
  split at h
  · split at h
    · cases h
    split at h
    · cases h
    exact ⟨_, _, _, _, (Except.ok.inj h).symm⟩
  · cases h

theorem World.exists_ofParts_of_ofJson {j : Json} {w : World} (h : World.ofJson j = .ok w) :
    ∃ dimensions sprites palettes rooms, w = .ofParts dimensions sprites palettes rooms := by
  unfold ofJson at h
  simp only [bind, Except.bind] at h
  cases hworld : Decode.world j with
  | error fault =>
    rw [hworld] at h
    cases h
  | ok world =>
    simp only [hworld, Except.mapError] at h
    split at h
    · cases h
    · cases h
      exact Decode.exists_ofParts_of_world hworld

/-- Every world that is read from a text is made of parts. -/
theorem World.exists_ofParts_of_load {text : String} {w : World} (h : World.load text = .ok w) :
    ∃ dimensions sprites palettes rooms, w = .ofParts dimensions sprites palettes rooms := by
  unfold load at h
  split at h
  · cases h
  · split at h
    · exact exists_ofParts_of_ofJson h
    · unfold ofTree at h
      split at h
      · rename_i hvalue
        cases h
        obtain ⟨j, -, hj⟩ := Option.map_eq_some_iff.mp hvalue
        exact exists_ofParts_of_ofJson hj
      · cases h
      · cases h

end TileAdventure
