import Mathlib
import TileAdventure.Proofs.Grid.Step

/-!
# The world as one grid

Laid side by side the rooms make one grid of `width` by `height` cells, and each cell of the
world has a place there (`Location.globalCell`), which no other cell has
(`bijOn_globalCell`). A step is found room by room, but on the grid it is one cell up, down,
left or right: an axis that wraps is a circle, and past the end of any other there is nothing
(`map_globalCell_step?`). So a step can always be taken back (`step?_opposite`).
-/

namespace TileAdventure

/-- The direction that leads back. -/
def Direction.opposite : Direction → Direction
  | .up => .down
  | .down => .up
  | .left => .right
  | .right => .left

/-- The change of column and row of a step or of none. -/
def Direction.shift (direction : Option Direction) : Int × Int :=
  (direction.map delta).getD (0, 0)

theorem Direction.shift_opposite (direction : Option Direction) :
    shift (direction.map opposite) = (-(shift direction).1, -(shift direction).2) := by
  rcases direction with _ | _ | _ | _ | _ <;> rfl

theorem Direction.shift_bounds (direction : Option Direction) :
    (-1 ≤ (shift direction).1 ∧ (shift direction).1 ≤ 1) ∧
      -1 ≤ (shift direction).2 ∧ (shift direction).2 ≤ 1 := by
  rcases direction with _ | _ | _ | _ | _ <;> decide

namespace Dimensions

variable (d : Dimensions)

/-- How many rooms the world's grid has. -/
def roomCount : Nat := (d.worldWidth * d.worldHeight).toNat

/-- How many cells stand in a row across the world. -/
def width : Int := d.worldWidth * d.roomWidth

/-- How many cells stand in a column down the world. -/
def height : Int := d.worldHeight * d.roomHeight

/-- A place on the grid of cells, where the axes that wrap are circles. -/
def wrapped (cell : Int × Int) : Int × Int :=
  (if d.wrapHorizontal then cell.1 % d.width else cell.1,
    if d.wrapVertical then cell.2 % d.height else cell.2)

/-- A place lies past the end of an axis that does not wrap. -/
def Leaves (cell : Int × Int) : Prop :=
  d.wrapHorizontal = false ∧ cell.1 ∉ Set.Ico 0 d.width ∨
    d.wrapVertical = false ∧ cell.2 ∉ Set.Ico 0 d.height

end Dimensions

/-- Where a location stands on the grid of all cells. -/
def Location.globalCell (d : Dimensions) (l : Location) : Int × Int :=
  (l.room % d.worldWidth * d.roomWidth + l.x, l.room / d.worldWidth * d.roomHeight + l.y)

/-- The place on the grid of all cells one step on from a location, or the same place without
a direction. -/
def Location.ahead (d : Dimensions) (l : Location) (direction : Option Direction) : Int × Int :=
  ((l.globalCell d).1 + (Direction.shift direction).1,
    (l.globalCell d).2 + (Direction.shift direction).2)

/-! ## One axis -/

/-- A place on an axis. Past its ends the axis starts over if it wraps. -/
def onAxis? (n extent : Int) (wraps : Bool) : Option Int :=
  if wraps then some (n % extent) else if 0 ≤ n ∧ n < extent then some n else none

section Axis

variable {c x δ size count n m extent : Int} {wraps : Bool}

theorem crossEdge_of_mem (h : x ∈ Set.Ico 0 extent) : crossEdge x extent = (x, 0) := by
  obtain ⟨hlow, hhigh⟩ := h
  simp [crossEdge, Int.not_lt.mpr hlow, Int.not_le.mpr hhigh]

theorem crossEdge_neg_one (extent : Int) : crossEdge (-1) extent = (extent - 1, -1) := by
  have hlast : ¬extent ≤ extent - 1 := by omega
  simp [crossEdge, hlast]

theorem crossEdge_extent (h : 0 < extent) : crossEdge extent extent = (0, 1) := by
  simp [crossEdge, Int.not_lt.mpr (Int.le_of_lt h)]

theorem wrapAxis?_of_mem (h : n ∈ Set.Ico 0 extent) (wraps : Bool) :
    wrapAxis? n extent wraps = some n := by
  obtain ⟨hlow, hhigh⟩ := h
  simp [wrapAxis?, Int.not_lt.mpr hlow, Int.not_le.mpr hhigh]

theorem wrapAxis?_neg_one (extent : Int) (wraps : Bool) :
    wrapAxis? (-1) extent wraps = if wraps then some (extent - 1) else none := by
  simp [wrapAxis?]

theorem wrapAxis?_extent (h : 0 < extent) (wraps : Bool) :
    wrapAxis? extent extent wraps = if wraps then some 0 else none := by
  simp [wrapAxis?, Int.not_lt.mpr (Int.le_of_lt h)]

theorem onAxis?_of_mem (h : n ∈ Set.Ico 0 extent) (wraps : Bool) :
    onAxis? n extent wraps = some n := by
  obtain ⟨hlow, hhigh⟩ := h
  cases wraps with
  | true => simp [onAxis?, Int.emod_eq_of_lt hlow hhigh]
  | false => simp [onAxis?, hlow, hhigh]

theorem onAxis?_neg_one (h : 0 < extent) (wraps : Bool) :
    onAxis? (-1) extent wraps = if wraps then some (extent - 1) else none := by
  have hmod : (-1 : Int) % extent = extent - 1 := by
    rw [← Int.add_emod_right, Int.emod_eq_of_lt (by omega) (by omega)]
    omega
  simp [onAxis?, hmod]

theorem onAxis?_extent (extent : Int) (wraps : Bool) :
    onAxis? extent extent wraps = if wraps then some 0 else none := by
  simp [onAxis?]

/-- A place on an axis is the place itself, around the circle if the axis wraps. -/
theorem onAxis?_eq_some (h : onAxis? n extent wraps = some m) :
    m = if wraps then n % extent else n := by
  unfold onAxis? at h
  cases wraps with
  | true => simpa using h.symm
  | false =>
    simp only [Bool.false_eq_true, if_false] at h ⊢
    split at h
    · exact (Option.some.inj h).symm
    · cases h

theorem onAxis?_eq_none :
    onAxis? n extent wraps = none ↔ wraps = false ∧ n ∉ Set.Ico 0 extent := by
  cases wraps <;> simp [onAxis?, Set.mem_Ico]

/-- What was one way on an axis is the other way back. -/
theorem onAxis?_back (hn : n ∈ Set.Ico 0 extent) (h : onAxis? (n + δ) extent wraps = some m) :
    onAxis? (m + -δ) extent wraps = some n := by
  obtain rfl := onAxis?_eq_some h
  cases wraps with
  | true =>
    have hback : ((n + δ) % extent + -δ) % extent = n := by
      rw [Int.emod_add_emod, Int.add_neg_cancel_right, Int.emod_eq_of_lt hn.1 hn.2]
    simp [onAxis?, hback]
  | false =>
    rw [if_neg (by simp), Int.add_neg_cancel_right]
    exact onAxis?_of_mem hn false

/-- The cells of one room on an axis lie on the axis. -/
theorem mul_size_bounds (hc : c ∈ Set.Ico 0 count) (hsize : 0 < size) :
    0 ≤ c * size ∧ c * size + size ≤ count * size := by
  have hnext : (c + 1) * size ≤ count * size :=
    Int.mul_le_mul_of_nonneg_right (Int.add_one_le_of_lt hc.2) (Int.le_of_lt hsize)
  rw [Int.add_mul, Int.one_mul] at hnext
  exact ⟨Int.mul_nonneg hc.1 (Int.le_of_lt hsize), hnext⟩

/-- A place on an axis lies in one room only, and in that at one cell only. -/
theorem eq_of_mul_size_add_eq {c' x' : Int} (hx : x ∈ Set.Ico 0 size) (hx' : x' ∈ Set.Ico 0 size)
    (h : c * size + x = c' * size + x') : c = c' ∧ x = x' := by
  have hsize : size ≠ 0 := Int.ne_of_gt (Int.lt_of_le_of_lt hx.1 hx.2)
  rw [Int.add_comm, Int.add_comm (c' * size)] at h
  have hdiv := congrArg (· / size) h
  have hmod := congrArg (· % size) h
  simp only [Int.add_mul_ediv_right _ _ hsize, Int.ediv_eq_zero_of_lt hx.1 hx.2,
    Int.ediv_eq_zero_of_lt hx'.1 hx'.2, Int.zero_add] at hdiv
  simp only [Int.add_mul_emod_self_right, Int.emod_eq_of_lt hx.1 hx.2,
    Int.emod_eq_of_lt hx'.1 hx'.2] at hmod
  exact ⟨hdiv, hmod⟩

/-- Each place on an axis is a cell of one of its rooms. -/
theorem div_mod_size_mem (hsize : 0 < size) (hn : n ∈ Set.Ico 0 (count * size)) :
    n / size ∈ Set.Ico 0 count ∧ n % size ∈ Set.Ico 0 size :=
  ⟨⟨Int.ediv_nonneg hn.1 (Int.le_of_lt hsize), Int.ediv_lt_of_lt_mul hsize hn.2⟩,
    Int.emod_nonneg _ (Int.ne_of_gt hsize), Int.emod_lt_of_pos _ hsize⟩

/-- A step back from the first cell of a room leads to the last cell of the room before. -/
theorem map_wrapAxis?_before (hc : c ∈ Set.Ico 0 count) (hsize : 0 < size) (wraps : Bool) :
    (wrapAxis? (c + -1) count wraps).map (fun c' => c' * size + (size - 1)) =
      onAxis? (c * size + -1) (count * size) wraps := by
  obtain ⟨hlow, hhigh⟩ := mul_size_bounds hc hsize
  -- before the first room of the axis there is its last one or nothing
  rcases Int.lt_or_eq_of_le hc.1 with hpos | rfl
  · have hprev : c + -1 ∈ Set.Ico 0 count := ⟨by omega, by have := hc.2; omega⟩
    have hstart : (c + -1) * size = c * size - size := by
      rw [Int.add_mul, Int.neg_mul, Int.one_mul, Int.sub_eq_add_neg]
    obtain ⟨hlow', -⟩ := mul_size_bounds hprev hsize
    rw [wrapAxis?_of_mem hprev, onAxis?_of_mem ⟨by omega, by omega⟩, Option.map_some]
    congr 1
    omega
  · have hlast : (count - 1) * size = count * size - size := by
      rw [Int.sub_mul, Int.one_mul]
    simp only [Int.zero_mul, Int.zero_add, wrapAxis?_neg_one,
      onAxis?_neg_one (show 0 < count * size by omega)]
    cases wraps with
    | true =>
      simp only [if_true, Option.map_some, hlast]
      congr 1
      omega
    | false => rfl

/-- A step on from the last cell of a room leads to the first cell of the room after. -/
theorem map_wrapAxis?_after (hc : c ∈ Set.Ico 0 count) (hsize : 0 < size) (wraps : Bool) :
    (wrapAxis? (c + 1) count wraps).map (fun c' => c' * size + 0) =
      onAxis? (c * size + size) (count * size) wraps := by
  have hstart : (c + 1) * size = c * size + size := by rw [Int.add_mul, Int.one_mul]
  have hcount : 0 < count := Int.lt_of_le_of_lt hc.1 hc.2
  rw [← hstart]
  rcases Int.lt_or_eq_of_le (Int.add_one_le_of_lt hc.2) with hlt | hlast
  · have hnext : c + 1 ∈ Set.Ico 0 count := ⟨Int.le_add_one hc.1, hlt⟩
    obtain ⟨hlow, hhigh⟩ := mul_size_bounds hnext hsize
    rw [wrapAxis?_of_mem hnext, onAxis?_of_mem ⟨hlow, by omega⟩, Option.map_some, Int.add_zero]
  · rw [hlast, wrapAxis?_extent hcount, onAxis?_extent]
    cases wraps <;> simp

/-- On one axis of rooms of a size, a step is a step on the axis of all their cells. -/
theorem map_wrapAxis?_crossEdge (hc : c ∈ Set.Ico 0 count) (hx : x ∈ Set.Ico 0 size)
    (hδ : -1 ≤ δ ∧ δ ≤ 1) (wraps : Bool) :
    (wrapAxis? (c + (crossEdge (x + δ) size).2) count wraps).map
        (fun c' => c' * size + (crossEdge (x + δ) size).1) =
      onAxis? (c * size + x + δ) (count * size) wraps := by
  obtain ⟨hx0, hxs⟩ := hx
  have hsize : 0 < size := Int.lt_of_le_of_lt hx0 hxs
  -- a step leaves the room at its start, not at all, or at its end
  rcases Int.lt_or_le (x + δ) 0 with hneg | hpos
  · obtain ⟨rfl, rfl⟩ : x = 0 ∧ δ = -1 := by omega
    rw [Int.zero_add, crossEdge_neg_one, Int.add_zero]
    exact map_wrapAxis?_before hc hsize wraps
  rcases Int.lt_or_le (x + δ) size with hin | hout
  · obtain ⟨hlow, hhigh⟩ := mul_size_bounds hc hsize
    rw [crossEdge_of_mem ⟨hpos, hin⟩, Int.add_zero, wrapAxis?_of_mem hc,
      onAxis?_of_mem ⟨by omega, by omega⟩, Option.map_some, Int.add_assoc]
  · obtain ⟨rfl, rfl⟩ : x = size - 1 ∧ δ = 1 := by omega
    rw [Int.sub_add_cancel, crossEdge_extent hsize, Int.add_assoc, Int.sub_add_cancel]
    exact map_wrapAxis?_after hc hsize wraps

end Axis

/-! ## Rooms and cells -/

namespace Dimensions

variable {d : Dimensions}

theorem mem_of_containsCell {x y : Int} (h : d.containsCell x y = true) :
    x ∈ Set.Ico 0 d.roomWidth ∧ y ∈ Set.Ico 0 d.roomHeight := by
  simp only [containsCell, Bool.and_eq_true, decide_eq_true_eq] at h
  exact ⟨⟨h.1.1.1, h.1.1.2⟩, h.1.2, h.2⟩

theorem containsCell_of_mem {x y : Int} (hx : x ∈ Set.Ico 0 d.roomWidth)
    (hy : y ∈ Set.Ico 0 d.roomHeight) : d.containsCell x y = true := by
  simp [containsCell, hx.1, hx.2, hy.1, hy.2]

/-- A room of the grid stands in one of its columns and one of its rows. -/
theorem mem_of_lt_roomCount (hd : d.Proper) {room : Nat} (h : room < d.roomCount) :
    (room : Int) % d.worldWidth ∈ Set.Ico 0 d.worldWidth ∧
      (room : Int) / d.worldWidth ∈ Set.Ico 0 d.worldHeight := by
  have hpos := hd.worldWidth
  have hlt : (room : Int) < d.worldHeight * d.worldWidth := by
    rw [Int.mul_comm]
    unfold roomCount at h
    omega
  exact ⟨⟨Int.emod_nonneg _ (Int.ne_of_gt hpos), Int.emod_lt_of_pos _ hpos⟩,
    Int.ediv_nonneg (Int.natCast_nonneg room) (Int.le_of_lt hpos),
    Int.ediv_lt_of_lt_mul hpos hlt⟩

/-- Numbers below `2 ^ 31` are cut into column and row by division. -/
theorem roomCoords_of_lt {room : Nat} (h : room < 2 ^ 31) :
    d.roomCoords room = ((room : Int) % d.worldWidth, (room : Int) / d.worldWidth) := by
  have hroom : (0 : Int) ≤ room := Int.natCast_nonneg room
  rw [roomCoords, signedLow_of_lt h, Int.tmod_eq_emod_of_nonneg hroom,
    Int.tdiv_eq_ediv_of_nonneg hroom]

/-- The room at a column and a row stands there. -/
theorem coords_roomAt {column row : Int} (hcolumn : column ∈ Set.Ico 0 d.worldWidth)
    (hrow : 0 ≤ row) : (d.roomAt column row : Int) % d.worldWidth = column ∧
      (d.roomAt column row : Int) / d.worldWidth = row := by
  have hpos : 0 < d.worldWidth := Int.lt_of_le_of_lt hcolumn.1 hcolumn.2
  have hroom : (d.roomAt column row : Int) = column + row * d.worldWidth := by
    have hstart : 0 ≤ row * d.worldWidth := Int.mul_nonneg hrow (Int.le_of_lt hpos)
    have hnumber : 0 ≤ row * d.worldWidth + column := Int.add_nonneg hstart hcolumn.1
    rw [roomAt, if_pos hnumber, Int.toNat_of_nonneg hnumber, Int.add_comm]
  rw [hroom, Int.add_mul_emod_self_right, Int.emod_eq_of_lt hcolumn.1 hcolumn.2,
    Int.add_mul_ediv_right _ _ (Int.ne_of_gt hpos), Int.ediv_eq_zero_of_lt hcolumn.1 hcolumn.2,
    Int.zero_add]
  exact ⟨rfl, rfl⟩

end Dimensions

/-- Each cell of the world has a place of its own on the grid of all cells, and each place of
the grid is that of a cell. -/
theorem bijOn_globalCell {d : Dimensions} (hd : d.Proper) :
    Set.BijOn (Location.globalCell d) {l | l.InWorld d d.roomCount}
      (Set.Ico 0 d.width ×ˢ Set.Ico 0 d.height) := by
  refine ⟨?_, ?_, ?_⟩
  · rintro l ⟨hroom, hcell⟩
    obtain ⟨hcolumn, hrow⟩ := Dimensions.mem_of_lt_roomCount hd hroom
    obtain ⟨⟨hx, hx'⟩, hy, hy'⟩ := Dimensions.mem_of_containsCell hcell
    obtain ⟨hleft, hright⟩ := mul_size_bounds hcolumn hd.roomWidth
    obtain ⟨htop, hbottom⟩ := mul_size_bounds hrow hd.roomHeight
    unfold Location.globalCell Dimensions.width Dimensions.height
    exact ⟨⟨by dsimp only; omega, by dsimp only; omega⟩, by dsimp only; omega, by dsimp only; omega⟩
  · rintro l ⟨-, hcell⟩ l' ⟨-, hcell'⟩ heq
    obtain ⟨hx, hy⟩ := Dimensions.mem_of_containsCell hcell
    obtain ⟨hx', hy'⟩ := Dimensions.mem_of_containsCell hcell'
    obtain ⟨hcolumn, hx⟩ := eq_of_mul_size_add_eq hx hx' (congrArg Prod.fst heq)
    obtain ⟨hrow, hy⟩ := eq_of_mul_size_add_eq hy hy' (congrArg Prod.snd heq)
    have hroom : (l.room : Int) = l'.room := by
      rw [← Int.mul_ediv_add_emod l.room d.worldWidth, hcolumn, hrow, Int.mul_ediv_add_emod]
    exact (Location.mk.injEq ..).mpr ⟨Int.natCast_inj.mp hroom, hx, hy⟩
  · rintro ⟨gx, gy⟩ ⟨hgx, hgy⟩
    obtain ⟨hcolumn, hx⟩ := div_mod_size_mem hd.roomWidth hgx
    obtain ⟨hrow, hy⟩ := div_mod_size_mem hd.roomHeight hgy
    obtain ⟨hmod, hdiv⟩ := Dimensions.coords_roomAt hcolumn hrow.1
    refine ⟨⟨d.roomAt (gx / d.roomWidth) (gy / d.roomHeight), gx % d.roomWidth,
      gy % d.roomHeight⟩, ⟨?_, Dimensions.containsCell_of_mem hx hy⟩, ?_⟩
    · exact roomAt_lt hd (Int.self_le_toNat _) hcolumn hrow
    · simp only [Location.globalCell, hmod, hdiv, Int.ediv_mul_add_emod]

namespace Dimensions

variable {d : Dimensions} {cell cell' : Int × Int}

/-- A place on the grid of all cells. Past its ends an axis starts over if it wraps. -/
def onGrid? (d : Dimensions) (cell : Int × Int) : Option (Int × Int) :=
  match onAxis? cell.1 d.width d.wrapHorizontal, onAxis? cell.2 d.height d.wrapVertical with
  | some x, some y => some (x, y)
  | _, _ => none

theorem onGrid?_eq_some_iff : d.onGrid? cell = some cell' ↔
    onAxis? cell.1 d.width d.wrapHorizontal = some cell'.1 ∧
      onAxis? cell.2 d.height d.wrapVertical = some cell'.2 := by
  unfold onGrid?
  rcases onAxis? cell.1 d.width d.wrapHorizontal with _ | x <;>
    rcases onAxis? cell.2 d.height d.wrapVertical with _ | y <;>
    simp [Prod.ext_iff]

theorem onGrid?_eq_none_iff : d.onGrid? cell = none ↔ d.Leaves cell := by
  rw [Leaves, ← onAxis?_eq_none, ← onAxis?_eq_none]
  unfold onGrid?
  rcases onAxis? cell.1 d.width d.wrapHorizontal with _ | x <;>
    rcases onAxis? cell.2 d.height d.wrapVertical with _ | y <;> simp

theorem eq_wrapped_of_onGrid? (h : d.onGrid? cell = some cell') : cell' = d.wrapped cell := by
  obtain ⟨hx, hy⟩ := onGrid?_eq_some_iff.mp h
  exact Prod.ext (onAxis?_eq_some hx) (onAxis?_eq_some hy)

end Dimensions

/-! ## Steps -/

section Steps

variable {d : Dimensions} {start target : Location} {direction : Option Direction}

/-- A step is a step on the grid of all cells. -/
theorem map_globalCell_step? (hd : d.Proper) (hstart : start.InWorld d d.roomCount)
    (hroom : start.room < 2 ^ 31) (direction : Option Direction) :
    (start.step? d direction).map (Location.globalCell d) =
      d.onGrid? (start.ahead d direction) := by
  obtain ⟨hgrid, hcell⟩ := hstart
  obtain ⟨hcolumn, hrow⟩ := Dimensions.mem_of_lt_roomCount hd hgrid
  obtain ⟨hx, hy⟩ := Dimensions.mem_of_containsCell hcell
  obtain ⟨hdx, hdy⟩ := Direction.shift_bounds direction
  have hhorizontal := map_wrapAxis?_crossEdge hcolumn hx hdx d.wrapHorizontal
  have hvertical := map_wrapAxis?_crossEdge hrow hy hdy d.wrapVertical
  unfold Location.step? Dimensions.onGrid? Location.ahead Location.globalCell Dimensions.width
    Dimensions.height
  unfold Direction.shift at hhorizontal hvertical ⊢
  dsimp only
  rw [Dimensions.roomCoords_of_lt hroom, ← hhorizontal, ← hvertical]
  dsimp only
  rcases hcolumn' : wrapAxis? _ d.worldWidth d.wrapHorizontal with _ | column
  · rfl
  rcases hrow' : wrapAxis? _ d.worldHeight d.wrapVertical with _ | row
  · rfl
  obtain ⟨hmod, hdiv⟩ := Dimensions.coords_roomAt (wrapAxis?_bounds hd.worldWidth hcolumn')
    (wrapAxis?_bounds hd.worldHeight hrow').1
  simp only [Option.map_some, hmod, hdiv]

/-- A step leads to a cell of the grid. -/
theorem inWorld_of_step? (hd : d.Proper) (h : start.step? d direction = some target) :
    target.InWorld d d.roomCount :=
  step?_inWorld hd (Int.self_le_toNat _) h

/-- A step can be taken back. -/
theorem step?_opposite (hd : d.Proper) (hrooms : d.roomCount ≤ 2 ^ 31)
    (hstart : start.InWorld d d.roomCount) (h : start.step? d direction = some target) :
    target.step? d (direction.map Direction.opposite) = some start := by
  have htarget := inWorld_of_step? hd h
  obtain ⟨hmaps, hinj, -⟩ := bijOn_globalCell hd
  obtain ⟨hx, hy⟩ := hmaps hstart
  have hahead := map_globalCell_step? hd hstart (Nat.lt_of_lt_of_le hstart.1 hrooms) direction
  rw [h, Option.map_some] at hahead
  obtain ⟨hright, hdown⟩ := Dimensions.onGrid?_eq_some_iff.mp hahead.symm
  have hback := map_globalCell_step? hd htarget (Nat.lt_of_lt_of_le htarget.1 hrooms)
    (direction.map Direction.opposite)
  have hplace : d.onGrid? (target.ahead d (direction.map Direction.opposite)) =
      some (start.globalCell d) := by
    rw [Location.ahead, Direction.shift_opposite]
    exact Dimensions.onGrid?_eq_some_iff.mpr ⟨onAxis?_back hx hright, onAxis?_back hy hdown⟩
  rw [hplace] at hback
  obtain ⟨l, hl, heq⟩ := Option.map_eq_some_iff.mp hback
  rw [hl, hinj (inWorld_of_step? hd hl) hstart heq]

/-- Without a direction a step stays on its cell exactly if the cell's room is one of the
grid. -/
theorem step?_none_eq_some_iff (hd : d.Proper) (hroom : start.room < 2 ^ 31)
    (hcell : d.containsCell start.x start.y = true) :
    start.step? d none = some start ↔ start.room < d.roomCount := by
  refine ⟨fun h => (inWorld_of_step? hd h).1, fun hgrid => ?_⟩
  have hstart : start.InWorld d d.roomCount := ⟨hgrid, hcell⟩
  obtain ⟨hmaps, hinj, -⟩ := bijOn_globalCell hd
  obtain ⟨hx, hy⟩ := hmaps hstart
  have hahead : start.ahead d none = start.globalCell d := by
    simp [Location.ahead, Direction.shift]
  have hstep := map_globalCell_step? hd hstart hroom none
  have hplace : d.onGrid? (start.globalCell d) = some (start.globalCell d) :=
    Dimensions.onGrid?_eq_some_iff.mpr ⟨onAxis?_of_mem hx _, onAxis?_of_mem hy _⟩
  rw [hahead, hplace] at hstep
  obtain ⟨l, hl, heq⟩ := Option.map_eq_some_iff.mp hstep
  rw [hl, hinj (inWorld_of_step? hd hl) hstart heq]

/-- Steps on the grid of all cells. The cells of the world and the places of the grid
correspond. A step leads one place on, around the circle on an axis that wraps, and nowhere
exactly if that is past the end of an axis that does not; and the step in the opposite
direction leads back. -/
theorem step?_on_grid {d : Dimensions} (hd : d.improper? = none)
    (hrooms : d.roomCount ≤ 2 ^ 31) :
    Set.BijOn (Location.globalCell d) {l | l.InWorld d d.roomCount}
        (Set.Ico 0 d.width ×ˢ Set.Ico 0 d.height) ∧
      ∀ start : Location, start.InWorld d d.roomCount → ∀ direction,
        (start.step? d direction = none ↔ d.Leaves (start.ahead d direction)) ∧
        ∀ target, start.step? d direction = some target →
          target.InWorld d d.roomCount ∧
          target.globalCell d = d.wrapped (start.ahead d direction) ∧
          target.step? d (direction.map Direction.opposite) = some start := by
  have hproper := Dimensions.proper_iff.mpr hd
  refine ⟨bijOn_globalCell hproper, fun start hstart direction => ?_⟩
  have hahead := map_globalCell_step? hproper hstart (Nat.lt_of_lt_of_le hstart.1 hrooms) direction
  refine ⟨?_, fun target htarget => ⟨inWorld_of_step? hproper htarget, ?_,
    step?_opposite hproper hrooms hstart htarget⟩⟩
  · rw [← Dimensions.onGrid?_eq_none_iff, ← hahead, Option.map_eq_none_iff]
  · rw [htarget, Option.map_some] at hahead
    exact Dimensions.eq_wrapped_of_onGrid? hahead.symm

/-- In a world of three by two rooms of five by five cells that wraps to all sides, a step to
the left from the first room of the second row leads to the last room of that row. -/
theorem step?_on_grid_ring :
    let d : Dimensions := .ofGrid 5 5 3 2 true true
    d.improper? = none ∧ d.roomCount ≤ 2 ^ 31 ∧ Location.InWorld ⟨3, 0, 2⟩ d d.roomCount ∧
      Location.step? d ⟨3, 0, 2⟩ (some .left) = some ⟨5, 4, 2⟩ ∧
      Location.globalCell d ⟨5, 4, 2⟩ = d.wrapped (Location.ahead d ⟨3, 0, 2⟩ (some .left)) ∧
      Location.step? d ⟨5, 4, 2⟩ (some .right) = some ⟨3, 0, 2⟩ := by
  have hstart : Location.InWorld ⟨3, 0, 2⟩ (.ofGrid 5 5 3 2 true true)
      (Dimensions.ofGrid 5 5 3 2 true true).roomCount := ⟨by decide, by decide⟩
  obtain ⟨-, hsteps⟩ := step?_on_grid (d := .ofGrid 5 5 3 2 true true) (by decide) (by decide)
  obtain ⟨-, hplace, hback⟩ := (hsteps _ hstart (some .left)).2 ⟨5, 4, 2⟩ (by decide)
  exact ⟨by decide, by decide, hstart, by decide, hplace, hback⟩

end Steps

end TileAdventure
