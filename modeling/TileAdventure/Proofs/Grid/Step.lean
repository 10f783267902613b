import TileAdventure.Grid.Location

/-!
# Steps stay in the world

Crossing an edge leads back into the room (`crossEdge_bounds`), and wrapping an axis leads
back into the world (`wrapAxis?_bounds`), wherever the step began. So the cell to which a
step leads lies in the grid of a room that the world has (`step?_inWorld`).
-/

namespace TileAdventure

/-- The measures that have to be positive are. -/
structure Dimensions.Proper (d : Dimensions) : Prop where
  roomWidth : 0 < d.roomWidth
  roomHeight : 0 < d.roomHeight
  worldWidth : 0 < d.worldWidth
  worldHeight : 0 < d.worldHeight

theorem Dimensions.proper_iff {d : Dimensions} : d.Proper ↔ d.improper? = none := by
  constructor
  · rintro ⟨hrw, hrh, hww, hwh⟩
    simp [improper?, extents]
    omega
  · intro h
    simp [improper?, extents] at h
    exact ⟨by omega, by omega, by omega, by omega⟩

/-- A room of the world, and a cell of its grid. -/
def Location.InWorld (l : Location) (d : Dimensions) (rooms : Nat) : Prop :=
  l.room < rooms ∧ d.containsCell l.x l.y = true

theorem crossEdge_bounds (x : Int) {extent : Int} (h : 0 < extent) :
    0 ≤ (crossEdge x extent).1 ∧ (crossEdge x extent).1 < extent := by
  unfold crossEdge
  by_cases hneg : x < 0
  · rw [if_pos hneg]
    dsimp only
    split <;> omega
  · rw [if_neg hneg]
    dsimp only
    split <;> omega

theorem containsCell_crossEdge {d : Dimensions} (hd : d.Proper) (x y : Int) :
    d.containsCell (crossEdge x d.roomWidth).1 (crossEdge y d.roomHeight).1 = true := by
  obtain ⟨hx, hx'⟩ := crossEdge_bounds x hd.roomWidth
  obtain ⟨hy, hy'⟩ := crossEdge_bounds y hd.roomHeight
  simp [Dimensions.containsCell, hx, hx', hy, hy']

theorem wrapAxis?_bounds {n m extent : Int} {wraps : Bool} (h : 0 < extent)
    (hwrap : wrapAxis? n extent wraps = some m) : 0 ≤ m ∧ m < extent := by
  unfold wrapAxis? at hwrap
  split at hwrap
  · split at hwrap
    · obtain rfl := Option.some.inj hwrap
      omega
    · cases hwrap
  · split at hwrap
    · split at hwrap
      · obtain rfl := Option.some.inj hwrap
        omega
      · cases hwrap
    · obtain rfl := Option.some.inj hwrap
      omega

/-- The room at a column and a row of the world is one of the first `worldWidth *
worldHeight`. -/
theorem roomAt_lt {d : Dimensions} {rooms : Nat} (hd : d.Proper)
    (hrooms : d.worldWidth * d.worldHeight ≤ rooms) {column row : Int}
    (hcolumn : 0 ≤ column ∧ column < d.worldWidth) (hrow : 0 ≤ row ∧ row < d.worldHeight) :
    d.roomAt column row < rooms := by
  have hlow : 0 ≤ row * d.worldWidth := Int.mul_nonneg hrow.1 (Int.le_of_lt hd.worldWidth)
  have hhigh : row * d.worldWidth + d.worldWidth ≤ d.worldWidth * d.worldHeight := by
    have hnext : (row + 1) * d.worldWidth ≤ d.worldHeight * d.worldWidth :=
      Int.mul_le_mul_of_nonneg_right (by omega) (Int.le_of_lt hd.worldWidth)
    rw [Int.add_mul, Int.one_mul] at hnext
    rwa [Int.mul_comm d.worldWidth]
  unfold Dimensions.roomAt
  dsimp only
  rw [if_pos (by omega)]
  omega

/-- A step leads to a cell of the world, or nowhere. -/
theorem step?_inWorld {d : Dimensions} {rooms : Nat} (hd : d.Proper)
    (hrooms : d.worldWidth * d.worldHeight ≤ rooms) {start target : Location}
    {direction : Option Direction} (h : start.step? d direction = some target) :
    target.InWorld d rooms := by
  unfold Location.step? at h
  dsimp only at h
  split at h
  · rename_i column row hcolumn hrow
    obtain rfl := Option.some.inj h
    exact ⟨roomAt_lt hd hrooms (wrapAxis?_bounds hd.worldWidth hcolumn)
      (wrapAxis?_bounds hd.worldHeight hrow), containsCell_crossEdge hd _ _⟩
  · cases h

end TileAdventure
