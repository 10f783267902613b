import TileAdventure.Proofs.Grid.Globe
import TileAdventure.Acting.Gate

/-!
# Steps within 32 bits

The coordinates of a world have 32 bits with a sign, and steps are computed with whole numbers
without bounds. In a world whose measures are small enough (`Dimensions.Fits32`) this makes no
difference: whatever `limit` may do to a number beyond 32 bits, a step that limits every number
on its way is the same step (`limitedStep?_eq`). So is the placement of a dialog, for rows from
`-2 ^ 30` to below `2 ^ 30` (`limitedDisplayAtBottom_eq`).
-/

namespace TileAdventure

/-- A number that 32 bits with a sign can hold. -/
def Fits32 (n : Int) : Prop :=
  -2 ^ 31 ≤ n ∧ n < 2 ^ 31

instance (n : Int) : Decidable (Fits32 n) :=
  inferInstanceAs (Decidable (_ ∧ _))

/-- The measures are positive, and fit 32 bits with a sign together with the number of rooms. -/
structure Dimensions.Fits32 (d : Dimensions) : Prop extends d.Proper where
  roomWidth_lt : d.roomWidth < 2 ^ 31
  roomHeight_lt : d.roomHeight < 2 ^ 31
  rooms_lt : d.worldWidth * d.worldHeight < 2 ^ 31

/-! ## With every number limited -/

section

variable (limit : Int → Int)

/-- `crossEdge` with every number limited. -/
def limitedCrossEdge (x extent : Int) : Int × Int :=
  let (x, change) := if x < 0 then (limit (extent - 1), -1) else (x, 0)
  if extent ≤ x then (0, limit (change + 1)) else (x, change)

/-- `wrapAxis?` with every number limited. -/
def limitedWrapAxis? (n extent : Int) (wraps : Bool) : Option Int :=
  if n < 0 then if wraps then some (limit (extent - 1)) else none
  else if extent ≤ n then if wraps then some 0 else none
  else some n

/-- `Dimensions.roomAt` with every number limited. -/
def Dimensions.limitedRoomAt (d : Dimensions) (column row : Int) : Nat :=
  let n := limit (limit (row * d.worldWidth) + column)
  if 0 ≤ n then n.toNat else (n + 2 ^ 64).toNat

/-- `Location.step?` with every number limited. -/
def Location.limitedStep? (d : Dimensions) (start : Location) (direction : Option Direction) :
    Option Location :=
  let (dx, dy) := (direction.map Direction.delta).getD (0, 0)
  let (column, row) := d.roomCoords start.room
  let (x, columnChange) := limitedCrossEdge limit (limit (start.x + dx)) d.roomWidth
  let (y, rowChange) := limitedCrossEdge limit (limit (start.y + dy)) d.roomHeight
  match limitedWrapAxis? limit (limit (column + columnChange)) d.worldWidth d.wrapHorizontal,
    limitedWrapAxis? limit (limit (row + rowChange)) d.worldHeight d.wrapVertical with
  | some column, some row => some ⟨d.limitedRoomAt limit column row, x, y⟩
  | _, _ => none

/-- `displayAtBottom` with every number limited. -/
def limitedDisplayAtBottom (y roomHeight : Int) : Bool :=
  limit (y * 2) < roomHeight

end

/-! ## Within the range -/

section

variable {limit : Int → Int} {extent : Int}

theorem limitedCrossEdge_eq (hlimit : ∀ n, Fits32 n → limit n = n) (hpos : 0 < extent)
    (hlt : extent < 2 ^ 31) (x : Int) : limitedCrossEdge limit x extent = crossEdge x extent := by
  have hlast : limit (extent - 1) = extent - 1 := hlimit _ ⟨by omega, by omega⟩
  have hchange : ∀ change : Int, change = 0 ∨ change = -1 → limit (change + 1) = change + 1 := by
    rintro change (rfl | rfl) <;> exact hlimit _ (by decide)
  unfold limitedCrossEdge crossEdge
  by_cases hneg : x < 0
  · simp only [if_pos hneg, hlast, hchange (-1) (by simp)]
  · simp only [if_neg hneg, hchange 0 (by simp)]

theorem limitedWrapAxis?_eq (hlimit : ∀ n, Fits32 n → limit n = n) (hpos : 0 < extent)
    (hlt : extent < 2 ^ 31) (n : Int) (wraps : Bool) :
    limitedWrapAxis? limit n extent wraps = wrapAxis? n extent wraps := by
  have hlast : limit (extent - 1) = extent - 1 := hlimit _ ⟨by omega, by omega⟩
  rw [limitedWrapAxis?, hlast]
  rfl

/-- Past an edge the coordinate of the room changes by one at most. -/
theorem crossEdge_change_bounds (x extent : Int) :
    -1 ≤ (crossEdge x extent).2 ∧ (crossEdge x extent).2 ≤ 1 := by
  unfold crossEdge
  split
  rename_i x' change heq
  have hchange : change = -1 ∨ change = 0 := by
    split at heq <;> cases heq <;> simp
  split <;> omega

end

section

variable {limit : Int → Int} {d : Dimensions} {start : Location}

theorem Dimensions.Fits32.worldWidth_lt (hd : d.Fits32) : d.worldWidth < 2 ^ 31 :=
  Int.lt_of_le_of_lt (le_mul_of_one_le_right (Int.le_of_lt hd.worldWidth)
    (Int.add_one_le_of_lt hd.worldHeight)) hd.rooms_lt

theorem Dimensions.Fits32.worldHeight_lt (hd : d.Fits32) : d.worldHeight < 2 ^ 31 :=
  Int.lt_of_le_of_lt (le_mul_of_one_le_left (Int.le_of_lt hd.worldHeight)
    (Int.add_one_le_of_lt hd.worldWidth)) hd.rooms_lt

theorem limitedRoomAt_eq (hlimit : ∀ n, Fits32 n → limit n = n) (hd : d.Fits32) {column row : Int}
    (hcolumn : 0 ≤ column ∧ column < d.worldWidth) (hrow : 0 ≤ row ∧ row < d.worldHeight) :
    d.limitedRoomAt limit column row = d.roomAt column row := by
  obtain ⟨hlow, hhigh⟩ := mul_size_bounds hrow hd.worldWidth
  have hrooms := Int.mul_comm d.worldWidth d.worldHeight ▸ hd.rooms_lt
  rw [Dimensions.limitedRoomAt, hlimit (row * d.worldWidth) ⟨by omega, by omega⟩,
    hlimit (row * d.worldWidth + column) ⟨by omega, by omega⟩]
  rfl

/-- No number on the way of a step leaves 32 bits with a sign, so to limit them changes
nothing. The step begins on a cell of a room, which need not be one of the grid. -/
theorem limitedStep?_eq (hlimit : ∀ n, Fits32 n → limit n = n) (hd : d.Fits32)
    (hcell : d.containsCell start.x start.y = true) (hroom : start.room < 2 ^ 31 - 1)
    (direction : Option Direction) :
    start.limitedStep? limit d direction = start.step? d direction := by
  obtain ⟨⟨hx, hx'⟩, hy, hy'⟩ := Dimensions.mem_of_containsCell hcell
  obtain ⟨hdx, hdy⟩ := Direction.shift_bounds direction
  have hwidth := hd.roomWidth_lt
  have hheight := hd.roomHeight_lt
  unfold Location.limitedStep? Location.step?
  unfold Direction.shift at hdx hdy
  generalize (direction.map Direction.delta).getD (0, 0) = shift at hdx hdy ⊢
  obtain ⟨dx, dy⟩ := shift
  rw [Dimensions.roomCoords_of_lt (Nat.lt_of_lt_pred hroom)]
  dsimp only at hdx hdy ⊢
  rw [hlimit (start.x + dx) ⟨by omega, by omega⟩, hlimit (start.y + dy) ⟨by omega, by omega⟩,
    limitedCrossEdge_eq hlimit hd.roomWidth hwidth,
    limitedCrossEdge_eq hlimit hd.roomHeight hheight]
  -- the room stands in a column of the grid, but its row may be any of 31 bits
  have hleft := Int.emod_nonneg start.room (Int.ne_of_gt hd.worldWidth)
  have hright := Int.emod_lt_of_pos start.room hd.worldWidth
  have htop := Int.ediv_nonneg (Int.natCast_nonneg start.room) (Int.le_of_lt hd.worldWidth)
  have hbottom := Int.ediv_le_self d.worldWidth (Int.natCast_nonneg start.room)
  have hacross := crossEdge_change_bounds (start.x + dx) d.roomWidth
  have hdown := crossEdge_change_bounds (start.y + dy) d.roomHeight
  have hcolumns := hd.worldWidth_lt
  rw [hlimit (_ + (crossEdge (start.x + dx) d.roomWidth).2) ⟨by omega, by omega⟩,
    hlimit (_ + (crossEdge (start.y + dy) d.roomHeight).2) ⟨by omega, by omega⟩,
    limitedWrapAxis?_eq hlimit hd.worldWidth hcolumns,
    limitedWrapAxis?_eq hlimit hd.worldHeight hd.worldHeight_lt]
  rcases hcolumn : wrapAxis? _ d.worldWidth d.wrapHorizontal with _ | column
  · rfl
  rcases hrow : wrapAxis? _ d.worldHeight d.wrapVertical with _ | row
  · rfl
  dsimp only
  rw [limitedRoomAt_eq hlimit hd (wrapAxis?_bounds hd.worldWidth hcolumn)
    (wrapAxis?_bounds hd.worldHeight hrow)]

/-- No number on the way of placing a dialog leaves 32 bits with a sign. -/
theorem limitedDisplayAtBottom_eq (hlimit : ∀ n, Fits32 n → limit n = n) {y : Int}
    (hlow : -2 ^ 30 ≤ y) (hhigh : y < 2 ^ 30) (roomHeight : Int) :
    limitedDisplayAtBottom limit y roomHeight = displayAtBottom y roomHeight := by
  rw [limitedDisplayAtBottom, hlimit (y * 2) ⟨by omega, by omega⟩]
  rfl

/-- The range of rows ends there: twice the next one starts over from below. -/
example : displayAtBottom (2 ^ 30) 9 = false ∧
    limitedDisplayAtBottom (Int.bmod · (2 ^ 32)) (2 ^ 30) 9 = true := by decide

end

end TileAdventure
