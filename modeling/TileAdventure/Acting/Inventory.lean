import TileAdventure.Json.Value
import TileAdventure.Power

/-!
# The inventory

The inventory counts items by name. A count stays between zero and `maxCount` whatever is
added or taken, and an item once changed keeps its entry even at zero. Entries are in the
order of the UTF-8 bytes of their names. Changes are numbers of 64 bits with a sign, and what
is beyond these on the way to a count is held to the nearest of them (`saturated`).
-/

namespace TileAdventure

/-- Whether the UTF-8 bytes of `a` come before those of `b`. -/
def bytesBefore (a b : String) : Bool :=
  decide (a.toByteArray.data.toList < b.toByteArray.data.toList)

/-- Item counts by name. -/
structure Inventory where
  counts : List (String × Nat)
  deriving DecidableEq, Repr

namespace Inventory

/-- The greatest count. -/
def maxCount : Nat := 2 ^ 32 - 1

/-- No items. -/
def empty : Inventory := ⟨[]⟩

/-- The count of an item. -/
def count (inv : Inventory) (item : String) : Nat :=
  (inv.counts.lookup item).getD 0

/-- The least number of 64 bits with a sign. -/
def leastChange : Int := -(2 ^ 63 : Nat)

/-- The greatest number of 64 bits with a sign. -/
def greatestChange : Int := (2 ^ 63 - 1 : Nat)

/-- The number of 64 bits with a sign that is nearest to `z`. -/
def saturated (z : Int) : Int :=
  max leastChange (min z greatestChange)

/-- The change of a count when a quantity is given or taken. -/
def transfer (quantity : Int) (giving : Bool) : Int :=
  if giving then quantity else saturated (-quantity)

/-- `n` after a change, between zero and the greatest count. -/
def clamped (n : Nat) (change : Int) : Nat :=
  (max 0 (min (saturated (n + change)) maxCount)).toNat

/-- The entries with the count of `item` set. -/
def put (item : String) (n : Nat) : List (String × Nat) → List (String × Nat)
  | [] => [(item, n)]
  | (name, m) :: entries =>
    if name = item then (item, n) :: entries
    else if bytesBefore item name then (item, n) :: (name, m) :: entries
    else (name, m) :: put item n entries

/-- Change the count of an item. -/
def add (inv : Inventory) (item : String) (change : Int) : Inventory :=
  ⟨put item (clamped (inv.count item) change) inv.counts⟩

@[simp] theorem count_empty (item : String) : empty.count item = 0 := rfl

/-- The numbers beyond 64 bits are beyond the counts too. -/
theorem clamped_eq (n : Nat) (change : Int) :
    clamped n change = min (n + change).toNat maxCount := by
  unfold clamped saturated leastChange greatestChange maxCount
  omega

theorem clamped_le (n : Nat) (change : Int) : clamped n change ≤ maxCount := by
  rw [clamped_eq]
  exact Nat.min_le_right ..

theorem lookup_put (item name : String) (n : Nat) (entries : List (String × Nat)) :
    (put item n entries).lookup name = if name = item then some n else entries.lookup name := by
  fun_induction put item n entries <;> grind

/-- A change goes to the count of its own item only. -/
theorem count_add (inv : Inventory) (item name : String) (change : Int) :
    (inv.add item change).count name =
      if name = item then clamped (inv.count item) change else inv.count name := by
  by_cases h : name = item <;> simp [add, count, lookup_put, h]

/-- Whether no item is held. -/
def isEmpty (inv : Inventory) : Bool :=
  inv.counts.all fun (_, n) => n = 0

/-- The inventory as an object, in order. -/
def toJson (inv : Inventory) : Json :=
  .object (inv.counts.map fun (item, n) => (item, .natural n))

end Inventory

end TileAdventure
