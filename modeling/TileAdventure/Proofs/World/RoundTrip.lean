import TileAdventure.Proofs.World.Occurrence
import TileAdventure.Proofs.World.Record
import TileAdventure.World.Encode

/-!
# Reading what was written

What is written of a sprite, a palette or the measures of a world is read back as it was. The
only condition is that numbers fit the fields that hold them, and whatever has been read meets
it; so a value that has been read is read again from its own writing, in whatever other way it
was written before (`read_toJson`).

An action is read in three steps, its kind, its fields and the action of these
(`memberKind_toJson`, `actionMembers_toJson`, `finish_draft`). The actions in it are among
its fields, so the rest is induction on how actions nest (`action_toJson`). The way back
(`inRange_of_action`) is by induction on the value read: no field can bring a number out of
range into a draft (`ActionDraft.InRange.fill`), and the numbers of an action are those of its
draft (`ActionDraft.InRange.finish`).
-/

namespace TileAdventure

open Decode (IntegerRange)

/-! ## Numbers that fit -/

namespace Action

/-- The numbers of an action itself fit their fields. -/
def FieldsInRange : Action → Prop
  | .giveItem _ quantity _ | .conditional _ _ quantity _ => IntegerRange.int64.Has quantity
  | .moveAvatar room x y =>
    IntegerRange.nat64.Has room ∧ IntegerRange.int32.Has x ∧ IntegerRange.int32.Has y
  | .dialog _ | .transformSelf _ | .removeSelf | .triggerEvent _ | .sequence .. => True

/-- The numbers of an action and of the actions in it, at any depth, fit their fields. -/
def InRange (a : Action) : Prop :=
  ∀ b, a.Contains b → b.FieldsInRange

theorem InRange.fields {a : Action} (h : a.InRange) : a.FieldsInRange :=
  h a (.self a)

theorem InRange.of_mem_inner {a b : Action} (h : a.InRange) (hb : b ∈ a.inner) :
    b.InRange := by
  intro c hc
  cases a with
  | conditional => exact h c (.conditional hb hc)
  | sequence => exact h c (.sequence hb hc)
  | _ => cases hb

theorem inRange_of_inner {a : Action} (hfields : a.FieldsInRange)
    (hinner : ∀ b ∈ a.inner, b.InRange) : a.InRange := by
  intro c hc
  cases hc with
  | self => exact hfields
  | conditional hmem hc => exact hinner _ hmem c hc
  | sequence hmem hc => exact hinner _ hmem c hc

end Action

/-- The numbers of a behavior fit their fields. -/
def Behavior.InRange (b : Behavior) : Prop :=
  ∀ a ∈ b.actions, a.InRange

/-- The numbers of a sprite fit their fields. -/
structure Sprite.InRange (s : Sprite) : Prop where
  colorIndex : IntegerRange.nat64.Has s.colorIndex
  behaviors : ∀ b ∈ s.behaviors, b.InRange

/-- Measures fit their fields. -/
structure Dimensions.InRange (d : Dimensions) : Prop where
  roomWidth : IntegerRange.int32.Has d.roomWidth
  roomHeight : IntegerRange.int32.Has d.roomHeight
  worldWidth : IntegerRange.int32.Has d.worldWidth
  worldHeight : IntegerRange.int32.Has d.worldHeight
  spriteWidth : IntegerRange.nat32.Has d.spriteWidth
  spriteHeight : IntegerRange.nat32.Has d.spriteHeight

/-! ## Reading actions back -/

/-- The draft with all fields of an action. -/
def Action.draft : Action → Decode.ActionDraft
  | .dialog text => { text := some text }
  | .giveItem item quantity giving =>
    { spriteName := some item, quantity := some quantity, isGiving := some giving }
  | .transformSelf sprite => { spriteName := some sprite }
  | .moveAvatar room x y => { roomIndex := some room, tileX := some x, tileY := some y }
  | .removeSelf => {}
  | .triggerEvent event => { eventName := some event }
  | .conditional comparison item quantity actions =>
    { comparison := some comparison, spriteName := some item, quantity := some quantity,
      actionList := some actions }
  | .sequence looping shuffled actions =>
    { isLooping := some looping, isShuffled := some shuffled, actionList := some actions }

namespace Decode

theorem comparison_toJson (inAction : Bool) (c : Comparison) :
    comparison inAction c.toJson = .ok c := by
  cases c <;> rfl

theorem object_members_toJson (a : Action) : .object a.toJson.members = a.toJson := by
  cases a <;> rfl

theorem memberKind_toJson (nested : Bool) (a : Action) :
    memberKind nested a.toJson.members = .ok a.kind := by
  cases a <;> rfl

theorem actionMembers_toJson {a : Action} (hfields : a.FieldsInRange)
    (hinner : nestedActions (.array (Action.listToJson a.inner)) = .ok a.inner) :
    actionMembers a.kind a.toJson.members {} = .ok a.draft := by
  cases a
  case' giveItem => have hquantity := integer_of_has hfields
  case' conditional => have hquantity := integer_of_has hfields
  case' moveAvatar =>
    have hroom := natural_of_has hfields.1
    have hx := integer_of_has hfields.2.1
    have hy := integer_of_has hfields.2.2
  all_goals
    simp only [Action.inner] at hinner
    simp [Action.toJson, Json.members, Action.kind, Action.draft, actionMembers, fieldsOf,
      ActionField.name, ActionDraft.isFilled, ActionDraft.fill, comparison_toJson, *]

theorem finish_draft (a : Action) (absent : Absence) : a.draft.finish a.kind absent = .ok a := by
  cases a <;> rfl

/-- An action is read back if the actions in it are. -/
theorem action_toJson_of_inner (nested : Bool) {a : Action} (hfields : a.FieldsInRange)
    (hinner : nestedActions (.array (Action.listToJson a.inner)) = .ok a.inner) :
    action nested a.toJson = .ok a := by
  rw [← object_members_toJson, action, memberKind_toJson, ok_bind,
    actionMembers_toJson hfields hinner, ok_bind, finish_draft, mapError_ok]

mutual

/-- An action is read back, at the top of a behavior or within another action. -/
theorem action_toJson (nested : Bool) :
    ∀ a : Action, a.InRange → action nested a.toJson = .ok a
  | .conditional comparison item quantity actions, h => by
    refine action_toJson_of_inner nested h.fields ?_
    exact actionList_toJson actions fun b hb => h.of_mem_inner hb
  | .sequence looping shuffled actions, h => by
    refine action_toJson_of_inner nested h.fields ?_
    exact actionList_toJson actions fun b hb => h.of_mem_inner hb
  | .dialog _, h | .giveItem .., h | .transformSelf _, h | .moveAvatar .., h
  | .removeSelf, h | .triggerEvent _, h => action_toJson_of_inner nested h.fields rfl

/-- The actions within an action are read back. -/
theorem actionList_toJson :
    ∀ as : List Action, (∀ a ∈ as, a.InRange) → actionList (Action.listToJson as) = .ok as
  | [], _ => rfl
  | a :: as, h => by
    have ha := action_toJson true a (h a List.mem_cons_self)
    have has := actionList_toJson as fun b hb => h b (List.mem_cons_of_mem a hb)
    simp [Action.listToJson, actionList, ha, has]

end

/-! ## Reading records back -/

theorem listToJson_eq_map (as : List Action) : Action.listToJson as = as.map Action.toJson := by
  induction as with
  | nil => rfl
  | cons a as ih => rw [Action.listToJson, ih, List.map_cons]

theorem behavior_toJson (mode : Mode) {b : Behavior} (h : b.InRange) :
    behaviorShape.read mode b.toJson = .ok b := by
  have hactions := list_map Action.toJson fun a ha => action_toJson false a (h a ha)
  simp [Behavior.toJson, behaviorShape, Shape.read, fillMembers, scalarSlot, slot,
    listToJson_eq_map, hactions]

theorem sprite_toJson (mode : Mode) {s : Sprite} (h : s.InRange) :
    (spriteShape mode).read mode s.toJson = .ok s := by
  have hframes : list .ok (.array (s.frames.map id)) = .ok s.frames :=
    list_map id fun _ _ => rfl
  have hcolor := natural_of_has h.colorIndex
  have hbehaviors := list_map Behavior.toJson fun b hb => behavior_toJson mode (h.behaviors b hb)
  rw [List.map_id] at hframes
  simp [Sprite.toJson, spriteShape, Shape.read, fillMembers, scalarSlot, slot, hframes, hcolor,
    hbehaviors]

theorem palette_toJson (mode : Mode) (p : Palette) :
    paletteShape.read mode p.toJson = .ok p := by
  have hcolors : list (fun j => (text j).mapError .here) (.array (p.colors.map .string)) =
      .ok p.colors :=
    list_map .string fun _ _ => rfl
  simp [Palette.toJson, paletteShape, Shape.read, fillMembers, scalarSlot, slot, hcolors]

theorem dimensions_toJson (mode : Mode) {d : Dimensions} (h : d.InRange) :
    dimensionsShape.read mode d.toJson = .ok d := by
  simp [Dimensions.toJson, dimensionsShape, Shape.read, fillMembers, scalarSlot, slot,
    integer_of_has h.roomWidth, integer_of_has h.roomHeight, integer_of_has h.worldWidth,
    integer_of_has h.worldHeight, natural_of_has h.spriteWidth, natural_of_has h.spriteHeight]

/-! ## Numbers that have been read -/

/-- The numbers of a draft fit their fields. -/
structure ActionDraft.InRange (d : ActionDraft) : Prop where
  quantity : ∀ n ∈ d.quantity, IntegerRange.int64.Has n
  roomIndex : ∀ n ∈ d.roomIndex, IntegerRange.nat64.Has n
  tileX : ∀ n ∈ d.tileX, IntegerRange.int32.Has n
  tileY : ∀ n ∈ d.tileY, IntegerRange.int32.Has n
  actionList : ∀ as ∈ d.actionList, ∀ a ∈ as, a.InRange

namespace ActionDraft

theorem inRange_empty : InRange {} := by
  constructor <;> simp

variable {d d' : ActionDraft}

theorem InRange.fill (h : d.InRange) {field : ActionField} {j : Json}
    {actions : Except Problem (List Action)}
    (hactions : ∀ as, actions = .ok as → ∀ a ∈ as, a.InRange)
    (hfill : d.fill field j actions = .ok d') : d'.InRange := by
  cases field <;> obtain ⟨b, hb, rfl⟩ := map_eq_ok.mp hfill
  case quantity => exact { h with quantity := by simpa using (integer_eq_ok.mp hb).2 }
  case roomIndex => exact { h with roomIndex := by simpa using has_of_natural (by decide) hb }
  case tileX => exact { h with tileX := by simpa using (integer_eq_ok.mp hb).2 }
  case tileY => exact { h with tileY := by simpa using (integer_eq_ok.mp hb).2 }
  case actionList => exact { h with actionList := by simpa using hactions b hb }
  all_goals exact { h with }

theorem InRange.finish (h : d.InRange) {kind : ActionKind} {absent : Absence} {a : Action}
    (hfinish : d.finish kind absent = .ok a) : a.InRange := by
  have hlist : ∀ b ∈ d.actionList.getD [], b.InRange := of_getD (by simp) h.actionList
  cases kind <;>
    simp only [ActionDraft.finish, bind_eq_ok, required_eq_ok, pure_eq_ok, Except.ok.injEq]
      at hfinish
  case giveItem =>
    obtain ⟨item, -, quantity, hquantity, rfl⟩ := hfinish
    exact Action.inRange_of_inner (h.quantity _ hquantity) (by simp [Action.inner])
  case moveAvatar =>
    obtain ⟨room, hroom, x, hx, y, hy, rfl⟩ := hfinish
    exact Action.inRange_of_inner ⟨h.roomIndex _ hroom, h.tileX _ hx, h.tileY _ hy⟩
      (by simp [Action.inner])
  case conditional =>
    obtain ⟨comparison, -, item, -, quantity, hquantity, rfl⟩ := hfinish
    exact Action.inRange_of_inner (h.quantity _ hquantity) hlist
  case sequence =>
    obtain rfl := hfinish
    exact Action.inRange_of_inner trivial hlist
  case removeSelf =>
    obtain rfl := hfinish
    exact Action.inRange_of_inner trivial (by simp [Action.inner])
  -- What is left has one text as its only field.
  all_goals
    obtain ⟨text, -, rfl⟩ := hfinish
    exact Action.inRange_of_inner trivial (by simp [Action.inner])

end ActionDraft

mutual

/-- The numbers of an action that has been read fit their fields. -/
theorem inRange_of_action {nested : Bool} {a : Action} :
    ∀ {j : Json}, action nested j = .ok a → a.InRange
  | .object members, h => by
    simp only [action, bind_eq_ok, mapError_eq_ok] at h
    obtain ⟨kind, -, d, hd, hfinish⟩ := h
    exact (inRange_of_actionMembers ActionDraft.inRange_empty hd).finish hfinish
  | .array (tag :: js), h => by
    simp only [action, bind_eq_ok, mapError_eq_ok] at h
    obtain ⟨kind, -, d, hd, b, hfinish, -, -, hb⟩ := h
    cases hb
    exact (inRange_of_actionItems ActionDraft.inRange_empty hd).finish hfinish
  | .array [], h | .null, h | .bool _, h | .integer _, h | .float _, h | .string _, h => by
    simp [action] at h

theorem inRange_of_actionMembers {kind : ActionKind} {d d' : ActionDraft} (hd : d.InRange) :
    ∀ {members : List (String × Json)}, actionMembers kind members d = .ok d' → d'.InRange
  | [], h => by
    simp only [actionMembers, Except.ok.injEq] at h
    exact h ▸ hd
  | (name, j) :: members, h => by
    rw [actionMembers] at h
    split at h
    · exact inRange_of_actionMembers hd h
    · split at h
      · cases h
      · obtain ⟨e, he, h⟩ := bind_eq_ok.mp h
        have hactions := fun as (has : nestedActions j = .ok as) => inRange_of_nestedActions has
        exact inRange_of_actionMembers (hd.fill hactions he) h

theorem inRange_of_actionItems {d d' : ActionDraft} (hd : d.InRange) :
    ∀ {js : List Json} {fields : List ActionField},
      actionItems fields js d = .ok d' → d'.InRange
  | [], _, h => by
    simp only [actionItems, Except.ok.injEq] at h
    exact h ▸ hd
  | _ :: _, [], h => by
    simp only [actionItems, Except.ok.injEq] at h
    exact h ▸ hd
  | j :: js, field :: fields, h => by
    rw [actionItems] at h
    obtain ⟨e, he, h⟩ := bind_eq_ok.mp h
    have hactions := fun as (has : nestedActions j = .ok as) => inRange_of_nestedActions has
    exact inRange_of_actionItems (hd.fill hactions he) h

theorem inRange_of_nestedActions {as : List Action} :
    ∀ {j : Json}, nestedActions j = .ok as → ∀ a ∈ as, a.InRange
  | .array js, h => inRange_of_actionList h
  | .object _, h | .null, h | .bool _, h | .integer _, h | .float _, h | .string _, h => by
    simp [nestedActions] at h

theorem inRange_of_actionList {as : List Action} :
    ∀ {js : List Json}, actionList js = .ok as → ∀ a ∈ as, a.InRange
  | [], h => by
    simp only [actionList, Except.ok.injEq] at h
    simp [← h]
  | j :: js, h => by
    simp only [actionList, bind_eq_ok, mapError_eq_ok, pure_eq_ok, Except.ok.injEq] at h
    obtain ⟨b, hb, bs, hbs, rfl⟩ := h
    exact List.forall_mem_cons.mpr ⟨inRange_of_action hb, inRange_of_actionList hbs⟩

end

/-- The numbers of a behavior that has been read fit their fields. -/
theorem inRange_of_behavior {mode : Mode} {j : Json} {b : Behavior}
    (h : behaviorShape.read mode j = .ok b) : b.InRange := by
  refine Shape.of_read (P := fun d => ∀ as ∈ d.actions, ∀ a ∈ as, a.InRange) ?_ ?_ ?_ h
  · simp [behaviorShape]
  · intro s hs j d d' hd hfill
    simp only [behaviorShape, scalarSlot, List.mem_cons, List.not_mem_nil, or_false] at hs
    rcases hs with rfl | rfl <;> obtain ⟨b, hb, rfl⟩ := slot_fill_eq_ok.mp hfill
    · exact hd
    · simpa using forall_of_list inRange_of_action hb
  · intro absent d b hd hfinish
    simp only [behaviorShape, bind_eq_ok, required_eq_ok, pure_eq_ok, Except.ok.injEq]
      at hfinish
    obtain ⟨event, -, rfl⟩ := hfinish
    exact of_getD (by simp) hd

/-- The numbers of a draft fit their fields. -/
structure SpriteDraft.InRange (d : SpriteDraft) : Prop where
  colorIndex : ∀ n ∈ d.colorIndex, IntegerRange.nat64.Has n
  behaviors : ∀ bs ∈ d.behaviors, ∀ b ∈ bs, b.InRange

/-- The numbers of a sprite that has been read fit their fields. -/
theorem inRange_of_sprite {mode : Mode} {j : Json} {s : Sprite}
    (h : (spriteShape mode).read mode j = .ok s) : s.InRange := by
  refine Shape.of_read (P := SpriteDraft.InRange) ?_ ?_ ?_ h
  · constructor <;> simp [spriteShape]
  · intro s hs j d d' hd hfill
    simp only [spriteShape, scalarSlot, List.mem_cons, List.not_mem_nil, or_false] at hs
    rcases hs with rfl | rfl | rfl | rfl | rfl | rfl | rfl | rfl <;>
      obtain ⟨b, hb, rfl⟩ := slot_fill_eq_ok.mp hfill
    · exact { hd with }
    · exact { hd with }
    · have hcolor := has_of_natural (by decide) (mapError_eq_ok.mp hb)
      exact { hd with colorIndex := by simpa using hcolor }
    · exact { hd with }
    · exact { hd with }
    · exact { hd with }
    · exact { hd with }
    · have hbehaviors := forall_of_list inRange_of_behavior hb
      exact { hd with behaviors := by simpa using hbehaviors }
  · intro absent d s hd hfinish
    simp only [spriteShape, bind_eq_ok, required_eq_ok, pure_eq_ok, Except.ok.injEq] at hfinish
    obtain ⟨name, -, rfl⟩ := hfinish
    exact ⟨of_getD (by decide) hd.colorIndex, of_getD (by simp) hd.behaviors⟩

/-- The measures of a draft fit their fields. -/
structure DimensionsDraft.InRange (d : DimensionsDraft) : Prop where
  roomWidth : ∀ n ∈ d.roomWidth, IntegerRange.int32.Has n
  roomHeight : ∀ n ∈ d.roomHeight, IntegerRange.int32.Has n
  worldWidth : ∀ n ∈ d.worldWidth, IntegerRange.int32.Has n
  worldHeight : ∀ n ∈ d.worldHeight, IntegerRange.int32.Has n
  spriteWidth : ∀ n ∈ d.spriteWidth, IntegerRange.nat32.Has n
  spriteHeight : ∀ n ∈ d.spriteHeight, IntegerRange.nat32.Has n

/-- Measures that have been read fit their fields. -/
theorem inRange_of_dimensions {mode : Mode} {j : Json} {d : Dimensions}
    (h : dimensionsShape.read mode j = .ok d) : d.InRange := by
  refine Shape.of_read (P := DimensionsDraft.InRange) ?_ ?_ ?_ h
  · constructor <;> simp [dimensionsShape]
  · intro s hs j d d' hd hfill
    simp only [dimensionsShape, scalarSlot, List.mem_cons, List.not_mem_nil, or_false] at hs
    rcases hs with rfl | rfl | rfl | rfl | rfl | rfl | rfl | rfl <;>
      obtain ⟨b, hb, rfl⟩ := slot_fill_eq_ok.mp hfill <;> rw [mapError_eq_ok] at hb
    · exact { hd with roomWidth := by simpa using (integer_eq_ok.mp hb).2 }
    · exact { hd with roomHeight := by simpa using (integer_eq_ok.mp hb).2 }
    · exact { hd with worldWidth := by simpa using (integer_eq_ok.mp hb).2 }
    · exact { hd with worldHeight := by simpa using (integer_eq_ok.mp hb).2 }
    · exact { hd with }
    · exact { hd with }
    · exact { hd with spriteWidth := by simpa using has_of_natural (by decide) hb }
    · exact { hd with spriteHeight := by simpa using has_of_natural (by decide) hb }
  · intro absent d measures hd hfinish
    simp only [dimensionsShape, bind_eq_ok, required_eq_ok, pure_eq_ok, Except.ok.injEq]
      at hfinish
    obtain ⟨width, hwidth, height, hheight, columns, hcolumns, rows, hrows, rfl⟩ := hfinish
    exact ⟨hd.roomWidth _ hwidth, hd.roomHeight _ hheight, hd.worldWidth _ hcolumns,
      hd.worldHeight _ hrows, of_getD (by decide) hd.spriteWidth,
      of_getD (by decide) hd.spriteHeight⟩

/-! ## The round trip -/

/-- A sprite with numbers that fit, a palette, and measures that fit are read back from their
own writing. So what has been read from any value is read again from its own writing. -/
theorem read_toJson (mode : Mode) :
    (∀ s : Sprite, s.InRange → (spriteShape mode).read mode s.toJson = .ok s) ∧
    (∀ p : Palette, paletteShape.read mode p.toJson = .ok p) ∧
    (∀ d : Dimensions, d.InRange → dimensionsShape.read mode d.toJson = .ok d) ∧
    (∀ j s, (spriteShape mode).read mode j = .ok s →
      s.InRange ∧ (spriteShape mode).read mode s.toJson = .ok s) ∧
    (∀ j p, paletteShape.read mode j = .ok p → paletteShape.read mode p.toJson = .ok p) ∧
    (∀ j d, dimensionsShape.read mode j = .ok d →
      d.InRange ∧ dimensionsShape.read mode d.toJson = .ok d) := by
  refine ⟨fun s => sprite_toJson mode, palette_toJson mode, fun d => dimensions_toJson mode,
    ?_, fun _ p _ => palette_toJson mode p, ?_⟩
  · intro j s h
    have hs := inRange_of_sprite h
    exact ⟨hs, sprite_toJson mode hs⟩
  · intro j d h
    have hd := inRange_of_dimensions h
    exact ⟨hd, dimensions_toJson mode hd⟩

/-- A lantern that lights up on the second push, if the player has a match. -/
def lantern : Sprite where
  name := "lantern"
  frames := [.array [.integer 0, .float 0.5]]
  colorIndex := 0
  isAvatar := false
  isWall := true
  isItem := false
  isTransparent := false
  behaviors := [⟨"push", [.sequence true false
    [.dialog "It is dark.", .conditional .equal "match" 1 [.giveItem "match" (-1) true]]]⟩]

/-- Other words for the lantern: fields with a default are left out, there is one that sprites
do not have, and both the comparison and the kind of an inner action are spelled differently. -/
def lanternInOtherWords : Json :=
  .object [("behaviorList", .array [.array [.string "push", .array [.object [
      ("actionList", .array [
        .array [.integer 0, .string "It is dark."],
        .object [("comparison", .string "=="), ("quantity", .integer 1),
          ("spriteName", .string "match"), ("type", .string "conditional"),
          ("actionList", .array [.object [("type", .string "give_item"),
            ("spriteName", .string "match"), ("quantity", .integer (-1))]])]]),
      ("type", .string "sequence"), ("isLooping", .bool true)]]]]),
    ("isWall", .bool true), ("brightness", .integer 3), ("name", .string "lantern"),
    ("frameList", .array [.array [.integer 0, .float 0.5]])]

theorem read_lanternInOtherWords :
    (spriteShape .held).read .held lanternInOtherWords = .ok lantern := by
  rfl

/-- Measures of a world that wraps on one axis. -/
def measures : Dimensions :=
  .ofGrid 16 16 (-1) 4 true false

/-- The lantern, a palette without colours and the measures are read in other words, and again
from their own writing. -/
theorem read_toJson_lantern :
    (spriteShape .held).read .held lanternInOtherWords = .ok lantern ∧ lantern.InRange ∧
    (spriteShape .held).read .held lantern.toJson = .ok lantern ∧
    paletteShape.read .held (.array [.string "dusk"]) = .ok ⟨"dusk", []⟩ ∧
    paletteShape.read .held (Palette.toJson ⟨"dusk", []⟩) = .ok ⟨"dusk", []⟩ ∧
    dimensionsShape.read .held (.array [.integer 16, .integer 16, .integer (-1), .integer 4,
      .bool true]) = .ok measures ∧ measures.InRange ∧
    dimensionsShape.read .held measures.toJson = .ok measures := by
  obtain ⟨hsprite, -, hmeasures, hsprite', hpalette', hmeasures'⟩ := read_toJson .held
  have hlantern := hsprite' lanternInOtherWords lantern read_lanternInOtherWords
  have hread : dimensionsShape.read .held (.array [.integer 16, .integer 16, .integer (-1),
      .integer 4, .bool true]) = .ok measures := rfl
  have hin := (hmeasures' _ measures hread).1
  exact ⟨read_lanternInOtherWords, hlantern.1, hsprite lantern hlantern.1, rfl,
    hpalette' (.array [.string "dusk"]) ⟨"dusk", []⟩ rfl, hread, hin, hmeasures measures hin⟩

end Decode

end TileAdventure
