import TileAdventure.Proofs.Acting.Change
import TileAdventure.Proofs.Stage.Dialogs

/-!
# What acting leaves alone

Changes keep the layout of the rooms: their number, their palettes, and which tiles stand
where (`Scene.Changes.layout`). The gate is closed at most once and never lifted, with one
call of the dialog when it closes (`Scene.Changes.opening`), and as long as it is open nothing
joins the queue (`Scene.Changes.queue`).
-/

namespace TileAdventure

open Relation

/-! ## The layout of rooms -/

/-- What is fixed about a room in acting: its palette, and where its tiles stand. -/
def Room.layout (r : Room) : String × List (TileId × Int × Int) :=
  (r.palette, r.tiles.map fun t => (t.id, t.x, t.y))

/-- What is fixed about rooms in acting. -/
def Rooms.layout (rooms : Rooms) : List (String × List (TileId × Int × Int)) :=
  rooms.map Room.layout

theorem Room.layout_modifyAt (r : Room) (position : Nat) {f : Tile → Tile}
    (hf : ∀ t, ((f t).id, (f t).x, (f t).y) = (t.id, t.x, t.y)) :
    (r.modifyAt position f).layout = r.layout := by
  rw [layout, map_tiles_modifyAt hf]
  rfl

theorem Rooms.layout_modifyAt (rooms : Rooms) (room position : Nat) {f : Tile → Tile}
    (hf : ∀ t, ((f t).id, (f t).x, (f t).y) = (t.id, t.x, t.y)) :
    (rooms.modifyAt room position f).layout = rooms.layout := by
  refine List.ext_getElem? fun i => ?_
  rw [layout, layout, List.getElem?_map, List.getElem?_map, getElem?_modifyAt, Option.map_map]
  congr 1
  funext r
  by_cases hi : room = i <;> simp [hi, Room.layout_modifyAt r position hf]

theorem Rooms.layout_modifyTile (rooms : Rooms) (address : TileAddress) {f : Tile → Tile}
    (hf : ∀ t, ((f t).id, (f t).x, (f t).y) = (t.id, t.x, t.y)) :
    (rooms.modifyTile address f).layout = rooms.layout := by
  obtain ⟨position, heq, -⟩ := rooms.exists_modifyTile_eq address f
  rw [heq, layout_modifyAt rooms _ _ hf]

namespace Scene

variable {setting : Setting} {allowed : Action → Prop} {s t : Scene}

theorem Change.layout (h : Change setting allowed s t) : t.rooms.layout = s.rooms.layout := by
  cases h with
  | transform tile => exact Rooms.layout_modifyTile _ tile fun _ => rfl
  | markAt room position => exact Rooms.layout_modifyAt _ room position fun _ => rfl
  | _ => rfl

/-- Acting moves no tile and repaints no room. -/
theorem Changes.layout (h : Changes setting allowed s t) : t.rooms.layout = s.rooms.layout :=
  keeps_of_step (I := fun t => t.rooms.layout = s.rooms.layout)
    (fun hstep ih => hstep.layout.trans ih) h rfl

/-! ## What actions bring in -/

theorem Change.waiting (h : Change setting allowed s t)
    (hs : ∀ d ∈ s.gate.queue, allowed d.action) : ∀ d ∈ t.gate.queue, allowed d.action := by
  cases h with
  | defer tile path ha =>
    intro d hd
    rcases List.mem_append.mp hd with hd | hd
    · exact hs d hd
    · obtain rfl := List.mem_singleton.mp hd
      exact ha
  | _ => exact hs

/-- The actions that wait are allowed. -/
theorem Changes.waiting (h : Changes setting allowed s t)
    (hs : ∀ d ∈ s.gate.queue, allowed d.action) : ∀ d ∈ t.gate.queue, allowed d.action :=
  keeps_of_step (I := fun t => ∀ d ∈ t.gate.queue, allowed d.action) Change.waiting h hs

theorem Change.target {P : Location → Prop} (h : Change setting allowed s t)
    (hP : ∀ room x y, allowed (.moveAvatar room x y) → P ⟨room, x, y⟩) (hs : P s.target) :
    P t.target := by
  cases h with
  | redirect ha => exact hP _ _ _ ha
  | _ => exact hs

/-- The target is what it was, or where an allowed action sends the avatar. -/
theorem Changes.target {P : Location → Prop} (h : Changes setting allowed s t)
    (hP : ∀ room x y, allowed (.moveAvatar room x y) → P ⟨room, x, y⟩) (hs : P s.target) :
    P t.target :=
  keeps_of_step (I := fun t => P t.target) (fun hstep => hstep.target hP) h hs

/-! ## The gate -/

theorem Change.opening (h : Change setting allowed s t) :
    Stage.Opening s.gate.showing s.stage t.stage t.gate.showing := by
  cases h with
  | beginDialog text hs =>
    rw [hs]
    exact .began text _ (.refl _) (.refl _)
  | transform => exact .quiet _ ⟨_, by simp [Notice.IsMute, Notice.dialogCall?, Notice.line?], rfl⟩
  | _ => exact .refl _ _

/-- Acting begins at most one dialog, and ends none. -/
theorem Changes.opening (h : Changes setting allowed s t) :
    Stage.Opening s.gate.showing s.stage t.stage t.gate.showing := by
  induction h with
  | refl => exact .refl _ _
  | tail _ hstep ih => exact ih.trans hstep.opening

theorem Change.queue (h : Change setting allowed s t) (ht : t.gate.showing = false) :
    s.gate.showing = false ∧ t.gate.queue = s.gate.queue := by
  cases h with
  | defer tile path _ hs =>
    have hf : s.gate.showing = false := ht
    simp [hs] at hf
  | beginDialog => cases ht
  | _ => exact ⟨ht, rfl⟩

/-- As long as no dialog has begun, the queue stays as it is. -/
theorem Changes.queue (h : Changes setting allowed s t) (ht : t.gate.showing = false) :
    s.gate.showing = false ∧ t.gate.queue = s.gate.queue := by
  induction h with
  | refl => exact ⟨ht, rfl⟩
  | tail _ hstep ih =>
    obtain ⟨hm, hq⟩ := hstep.queue ht
    exact ⟨(ih hm).1, hq.trans (ih hm).2⟩

end Scene

end TileAdventure
