import Mathlib.Data.List.Pairwise
import TileAdventure.Proofs.World.Record
import TileAdventure.World.Document

/-!
# The order of members

What a reader gives, if it gives anything, is `Except.toOption` of its outcome; only the words
for a fault are lost. To that it does not matter in which order the members of a record
stand, and members that the record does not know count for nothing. The reason is that the fields
of every record are orderless (`Orderless`): each one can be told from a draft once it is filled,
and no two of them get in each other's way. So two members may change places
(`enter_comm`), and hence all members (`toOption_fillMembers_perm`).

The kind of an action is one of its members too. Once it is known the other members are read
like those of a record (`toOption_action`). The measures of a document are read from the
same members as its lists (`toOption_world`).
-/

namespace TileAdventure.Decode

/-! ## Outcomes without their faults -/

section

variable {ε ε' α β : Type}

@[simp] theorem toOption_ok (a : α) : (Except.ok a : Except ε α).toOption = some a := rfl

@[simp] theorem toOption_error (e : ε) : (Except.error e : Except ε α).toOption = none := rfl

@[simp] theorem toOption_eq_some {x : Except ε α} {a : α} :
    x.toOption = some a ↔ x = .ok a := by
  cases x <;> simp

@[simp] theorem toOption_bind (x : Except ε α) (f : α → Except ε β) :
    (x >>= f).toOption = x.toOption.bind fun a => (f a).toOption := by
  cases x <;> rfl

@[simp] theorem toOption_map (x : Except ε α) (f : α → β) :
    (x.map f).toOption = x.toOption.map f := by
  cases x <;> rfl

@[simp] theorem toOption_mapError (x : Except ε α) (f : ε → ε') :
    (x.mapError f).toOption = x.toOption := by
  cases x <;> rfl

end

/-! ## Orderless fields -/

section

variable {δ α : Type}

/-- Read a field into a draft that does not have it yet. -/
def Slot.enter (s : Slot δ) (j : Json) (d : δ) : Option δ :=
  if s.isFilled d then none else (s.fill j d).toOption

/-- A field that can be told from a draft once it is filled. -/
def Slot.Marks (s : Slot δ) : Prop :=
  ∀ {j d d'}, s.fill j d = .ok d' → s.isFilled d' = true

/-- Two fields that do not get in each other's way. -/
structure Slot.Apart (s t : Slot δ) : Prop where
  isFilled_right : ∀ {j d d'}, s.fill j d = .ok d' → t.isFilled d' = t.isFilled d
  isFilled_left : ∀ {j d d'}, t.fill j d = .ok d' → s.isFilled d' = s.isFilled d
  fill_comm : ∀ i j d, ((s.fill i d).toOption.bind fun d' => (t.fill j d').toOption) =
    (t.fill j d).toOption.bind fun d' => (s.fill i d').toOption

instance : Std.Symm (Slot.Apart (δ := δ)) :=
  ⟨fun _ _ h => ⟨h.isFilled_left, h.isFilled_right, fun i j d => (h.fill_comm j i d).symm⟩⟩

theorem Slot.Apart.enter_enter {s t : Slot δ} (h : s.Apart t) (i j : Json) (d : δ) :
    ((s.enter i d).bind fun d' => t.enter j d') =
      if s.isFilled d ∨ t.isFilled d then none
      else (s.fill i d).toOption.bind fun d' => (t.fill j d').toOption := by
  unfold Slot.enter
  by_cases hs : s.isFilled d
  · simp [hs]
  · cases hfill : s.fill i d with
    | error fault => simp [hs]
    | ok d' => simp [hs, h.isFilled_right hfill]

/-- Fields whose order does not matter. -/
structure Orderless (slots : List (Slot δ)) : Prop where
  marks : ∀ s ∈ slots, s.Marks
  apart : slots.Pairwise Slot.Apart

/-- Fields may be read in either order. -/
theorem Orderless.enter_comm {slots : List (Slot δ)} (h : Orderless slots) {s t : Slot δ}
    (hs : s ∈ slots) (ht : t ∈ slots) (i j : Json) (d : δ) :
    ((s.enter i d).bind fun d' => t.enter j d') =
      (t.enter j d).bind fun d' => s.enter i d' := by
  by_cases hst : s = t
  · subst hst
    -- Whichever value comes first fills the field, so the other one is refused.
    have hnone (i j : Json) : ((s.enter i d).bind fun d' => s.enter j d') = none := by
      unfold Slot.enter
      cases hfill : s.fill i d with
      | error fault => simp
      | ok d' => simp [h.marks s hs hfill]
    rw [hnone, hnone]
  · have happart : s.Apart t := h.apart.forall hs ht hst
    rw [happart.enter_enter, (Std.Symm.symm s t happart).enter_enter, happart.fill_comm]
    simp only [or_comm]

/-- Read one member into a draft. -/
def enterMember (slots : List (Slot δ)) (m : String × Json) (d : δ) : Option δ :=
  match slots.find? (·.name = m.1) with
  | none => some d
  | some s => s.enter m.2 d

theorem toOption_fillMembers_cons (slots : List (Slot δ)) (m : String × Json)
    (members : List (String × Json)) (d : δ) :
    (fillMembers slots (m :: members) d).toOption =
      (enterMember slots m d).bind fun d' => (fillMembers slots members d').toOption := by
  obtain ⟨name, j⟩ := m
  unfold enterMember
  rw [fillMembers]
  cases slots.find? (·.name = name) with
  | none => rfl
  | some s => by_cases hs : s.isFilled d <;> simp [Slot.enter, hs]

/-- Two members may change places. -/
theorem Orderless.enterMember_comm {slots : List (Slot δ)} (h : Orderless slots)
    (m n : String × Json) (d : δ) :
    ((enterMember slots m d).bind fun d' => enterMember slots n d') =
      (enterMember slots n d).bind fun d' => enterMember slots m d' := by
  unfold enterMember
  cases hm : slots.find? (·.name = m.1) with
  | none => simp
  | some s =>
    cases hn : slots.find? (·.name = n.1) with
    | none => simp
    | some t =>
      exact h.enter_comm (List.mem_of_find?_eq_some hm) (List.mem_of_find?_eq_some hn) m.2 n.2 d

/-- The order of the members does not matter to the draft. -/
theorem Orderless.toOption_fillMembers_perm {slots : List (Slot δ)} (h : Orderless slots)
    {members members' : List (String × Json)} (hperm : members.Perm members') (d : δ) :
    (fillMembers slots members d).toOption = (fillMembers slots members' d).toOption := by
  induction hperm generalizing d with
  | nil => rfl
  | cons m _ ih => simp only [toOption_fillMembers_cons, ih]
  | swap m n members =>
    simp only [toOption_fillMembers_cons, ← Option.bind_assoc, h.enterMember_comm m n d]
  | trans _ _ ih ih' => rw [ih, ih']

namespace Shape

variable {shape : Shape δ α} {mode : Mode}

theorem toOption_read_object (members : List (String × Json)) :
    (shape.read mode (.object members)).toOption =
      (fillMembers shape.slots members shape.empty).toOption.bind fun d =>
        (shape.finish (fun _ name => .missingField name) d).toOption := by
  simp [Shape.read]

theorem toOption_read_perm (h : Orderless shape.slots) {members members' : List (String × Json)}
    (hperm : members.Perm members') :
    (shape.read mode (.object members)).toOption =
      (shape.read mode (.object members')).toOption := by
  rw [toOption_read_object, h.toOption_fillMembers_perm hperm, toOption_read_object]

end Shape

end

/-! ## The fields of the parts of a world -/

section

variable {δ β γ : Type} {name name' : String} {get : δ → Option β} {put : δ → β → δ}
  {decode : Json → Except Fault β} {get' : δ → Option γ} {put' : δ → γ → δ}
  {decode' : Json → Except Fault γ}

@[simp] theorem slot_name : (slot name get put decode).name = name := rfl

theorem toOption_slot_fill (j : Json) (d : δ) :
    ((slot name get put decode).fill j d).toOption = (decode j).toOption.map (put d) :=
  toOption_map _ _

theorem toOption_slot_fill_congr {j j' : Json} (h : (decode j).toOption = (decode j').toOption)
    (d : δ) : ((slot name get put decode).fill j d).toOption =
      ((slot name get put decode).fill j' d).toOption := by
  rw [toOption_slot_fill, h, toOption_slot_fill]

theorem slot_marks (h : ∀ d b, (get (put d b)).isSome) : (slot name get put decode).Marks := by
  intro j d d' hfill
  obtain ⟨b, -, rfl⟩ := slot_fill_eq_ok.mp hfill
  exact h d b

/-- Fields with entries of their own are apart. -/
theorem slot_apart (hget' : ∀ d b, get' (put d b) = get' d) (hget : ∀ d c, get (put' d c) = get d)
    (hput : ∀ d b c, put' (put d b) c = put (put' d c) b) :
    (slot name get put decode).Apart (slot name' get' put' decode') where
  isFilled_right hfill := by
    obtain ⟨b, -, rfl⟩ := slot_fill_eq_ok.mp hfill
    exact congrArg Option.isSome (hget' _ b)
  isFilled_left hfill := by
    obtain ⟨c, -, rfl⟩ := slot_fill_eq_ok.mp hfill
    exact congrArg Option.isSome (hget _ c)
  fill_comm i j d := by
    simp only [toOption_slot_fill]
    cases (decode i).toOption <;> cases (decode' j).toOption <;> simp [hput]

end

theorem orderless_tile : Orderless tileShape.slots := by
  constructor <;> simp [tileShape, scalarSlot, slot_marks, slot_apart]

theorem orderless_room (mode : Mode) : Orderless (roomShape mode).slots := by
  constructor <;> simp [roomShape, scalarSlot, slot_marks, slot_apart]

theorem orderless_palette : Orderless paletteShape.slots := by
  constructor <;> simp [paletteShape, scalarSlot, slot_marks, slot_apart]

theorem orderless_behavior : Orderless behaviorShape.slots := by
  constructor <;> simp [behaviorShape, scalarSlot, slot_marks, slot_apart]

theorem orderless_sprite (mode : Mode) : Orderless (spriteShape mode).slots := by
  constructor <;> simp [spriteShape, scalarSlot, slot_marks, slot_apart]

theorem orderless_dimensions : Orderless dimensionsShape.slots := by
  constructor <;> simp [dimensionsShape, scalarSlot, slot_marks, slot_apart]

theorem orderless_document (mode : Mode) : Orderless (documentSlots mode) := by
  constructor <;> simp [documentSlots, slot_marks, slot_apart]

/-! ## Lists -/

section

variable {α : Type} {item : Json → Except Fault α}

end

/-! ## Actions -/

/-- A field of actions as one of records. -/
def ActionField.slot : ActionField → Slot ActionDraft
  | .text => scalarSlot "text" (·.text) (fun d s => { d with text := some s }) Decode.text
  | .spriteName =>
    scalarSlot "spriteName" (·.spriteName) (fun d s => { d with spriteName := some s })
      Decode.text
  | .quantity =>
    scalarSlot "quantity" (·.quantity) (fun d n => { d with quantity := some n })
      (integer .int64)
  | .isGiving =>
    scalarSlot "isGiving" (·.isGiving) (fun d b => { d with isGiving := some b }) flag
  | .roomIndex =>
    scalarSlot "roomIndex" (·.roomIndex) (fun d n => { d with roomIndex := some n })
      (natural .nat64)
  | .tileX => scalarSlot "tileX" (·.tileX) (fun d n => { d with tileX := some n }) (integer .int32)
  | .tileY => scalarSlot "tileY" (·.tileY) (fun d n => { d with tileY := some n }) (integer .int32)
  | .eventName =>
    scalarSlot "eventName" (·.eventName) (fun d s => { d with eventName := some s }) Decode.text
  | .comparison =>
    scalarSlot "comparison" (·.comparison) (fun d c => { d with comparison := some c })
      (Decode.comparison true)
  | .isLooping =>
    scalarSlot "isLooping" (·.isLooping) (fun d b => { d with isLooping := some b }) flag
  | .isShuffled =>
    scalarSlot "isShuffled" (·.isShuffled) (fun d b => { d with isShuffled := some b }) flag
  | .actionList =>
    scalarSlot "actionList" (·.actionList) (fun d as => { d with actionList := some as })
      nestedActions

namespace ActionField

theorem slot_name (field : ActionField) : field.slot.name = field.name := by
  cases field <;> rfl

theorem slot_isFilled (field : ActionField) (d : ActionDraft) :
    field.slot.isFilled d = d.isFilled field := by
  cases field <;> rfl

theorem toOption_slot_fill (field : ActionField) (j : Json) (d : ActionDraft) :
    (field.slot.fill j d).toOption = (d.fill field j (nestedActions j)).toOption := by
  cases field <;> simp [slot, scalarSlot, Decode.slot, ActionDraft.fill]

end ActionField

/-- The records of the actions of a kind. -/
def kindShape (kind : ActionKind) : Shape ActionDraft Action where
  name := variantName kind
  slots := (fieldsOf kind).map ActionField.slot
  empty := {}
  finish := ActionDraft.finish kind

theorem orderless_kind (kind : ActionKind) : Orderless (kindShape kind).slots := by
  cases kind <;> constructor <;>
    simp [kindShape, fieldsOf, ActionField.slot, scalarSlot, slot_marks, slot_apart]

/-- The members of an action are read like those of a record. -/
theorem toOption_actionMembers (kind : ActionKind) (members : List (String × Json))
    (d : ActionDraft) :
    (actionMembers kind members d).toOption =
      (fillMembers (kindShape kind).slots members d).toOption := by
  induction members generalizing d with
  | nil => rfl
  | cons m members ih =>
    obtain ⟨name, j⟩ := m
    have hfind : (kindShape kind).slots.find? (·.name = name) =
        ((fieldsOf kind).find? (·.name = name)).map ActionField.slot := by
      simp only [kindShape, List.find?_map, Function.comp_def, ActionField.slot_name]
    rw [actionMembers, toOption_fillMembers_cons, enterMember, hfind]
    cases (fieldsOf kind).find? (·.name = name) with
    | none => exact ih d
    | some field =>
      by_cases hd : d.isFilled field <;>
        simp [Slot.enter, ActionField.slot_isFilled, ActionField.toOption_slot_fill, hd, ih]

/-- Once the kind of an action is known the action is read like a record. -/
theorem toOption_action (nested : Bool) (members : List (String × Json)) :
    (action nested (.object members)).toOption =
      (memberKind nested members).toOption.bind fun kind =>
        ((kindShape kind).read .streamed (.object members)).toOption := by
  simp [action, Shape.toOption_read_object, toOption_actionMembers, kindShape]

/-- The kind of an action is known if just one member is called `type`, and tells it. -/
theorem memberKind_eq_ok {nested : Bool} {members : List (String × Json)} {kind : ActionKind} :
    memberKind nested members = .ok kind ↔
      ∃ m, members.filter (·.1 = "type") = [m] ∧ actionKind nested m.2 = .ok kind := by
  rcases hms : members.filter (·.1 = "type") with _ | ⟨m, _ | ⟨n, more⟩⟩
  · simp [memberKind, hms]
  · simp [memberKind, hms, bind_eq_ok, mapError_eq_ok]
  · simp [memberKind, hms, bind_eq_ok]

theorem toOption_memberKind_perm (nested : Bool) {members members' : List (String × Json)}
    (hperm : members.Perm members') :
    (memberKind nested members).toOption = (memberKind nested members').toOption := by
  have hfilter (m : String × Json) :
      members.filter (·.1 = "type") = [m] ↔ members'.filter (·.1 = "type") = [m] := by
    rw [← List.perm_singleton, (hperm.filter _).congr_left, List.perm_singleton]
  refine Option.ext fun kind => ?_
  simp only [toOption_eq_some, memberKind_eq_ok, hfilter]

theorem toOption_action_perm (nested : Bool) {members members' : List (String × Json)}
    (hperm : members.Perm members') :
    (action nested (.object members)).toOption = (action nested (.object members')).toOption := by
  simp only [toOption_action, toOption_memberKind_perm nested hperm,
    Shape.toOption_read_perm (orderless_kind _) hperm]

theorem toOption_world (members : List (String × Json)) :
    (world (.object members)).toOption =
      (fillMembers (documentSlots .streamed) members {}).toOption.bind fun draft =>
        (dimensionsShape.read .streamed (.object members)).toOption.map fun dimensions =>
          .ofParts dimensions (draft.sprites.getD []) (draft.palettes.getD [])
            (draft.rooms.getD []) := by
  simp only [world, toOption_bind, toOption_mapError, Option.map_eq_bind]
  rfl

theorem toOption_world_perm {members members' : List (String × Json)}
    (hperm : members.Perm members') :
    (world (.object members)).toOption = (world (.object members')).toOption := by
  rw [toOption_world, (orderless_document .streamed).toOption_fillMembers_perm hperm,
    Shape.toOption_read_perm orderless_dimensions hperm, toOption_world]

end TileAdventure.Decode
