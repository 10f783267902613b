import TileAdventure.Proofs.Acting.Change
import TileAdventure.Proofs.Grid.Step

/-!
# Complete worlds

A world is complete if it has all that its rooms and its actions refer to
(`World.Complete`). What an action refers to includes what the actions in it do, at any depth
(`World.Grounds`). So in a complete world the actions of all behaviors are grounded, and so
are all that they contain (`World.Complete.admits`).
-/

namespace TileAdventure

/-- `b` is the action `a` or one of the actions in it, at any depth. -/
inductive Action.Contains : Action → Action → Prop
  | self (a : Action) : Contains a a
  | conditional {comparison : Comparison} {item : String} {quantity : Int}
      {actions : List Action} {a b : Action} : a ∈ actions → Contains a b →
      Contains (.conditional comparison item quantity actions) b
  | sequence {looping shuffled : Bool} {actions : List Action} {a b : Action} :
      a ∈ actions → Contains a b → Contains (.sequence looping shuffled actions) b

/-- Every tile in the rooms has a sprite. -/
def Catalogue.Furnishes (sprites : Catalogue) (rooms : Rooms) : Prop :=
  ∀ r ∈ rooms, ∀ t ∈ r.tiles, (sprites.find? t.sprite).isSome

namespace World

/-- The world has what an action itself refers to, and a sequence has actions. -/
def Supports (w : World) : Action → Prop
  | .giveItem item _ _ => (w.sprites.find? item).isSome
  | .transformSelf name => (w.sprites.find? name).isSome
  | .conditional _ item _ _ => (w.sprites.find? item).isSome
  | .moveAvatar room x y =>
    Location.InWorld ⟨room, x, y⟩ w.dimensions w.rooms.length
  | .sequence _ _ actions => actions ≠ []
  | .dialog _ | .removeSelf | .triggerEvent _ => True

/-- The world has what an action and the actions in it refer to. -/
def Grounds (w : World) (a : Action) : Prop :=
  ∀ b, a.Contains b → w.Supports b

theorem Grounds.self {w : World} {a : Action} (h : w.Grounds a) : w.Supports a :=
  h a (.self a)

/-- The world has all that its rooms and its actions refer to. Its measures are positive, as
they are in every world that is read from a document. -/
structure Complete (w : World) : Prop where
  proper : w.dimensions.improper? = none
  sprites : w.sprites.sprites ≠ []
  rooms : w.dimensions.worldWidth * w.dimensions.worldHeight ≤ w.rooms.length
  palettes : ∀ r ∈ w.rooms, (w.palette? r.palette).isSome
  tiles : w.sprites.Furnishes w.rooms
  actions : ∀ s ∈ w.sprites.sprites, ∀ b ∈ s.behaviors, ∀ a ∈ b.actions, w.Grounds a

/-- What holds of the actions of all behaviors holds of all the actions in them. -/
theorem Complete.admits {w : World} (h : w.Complete) : w.sprites.Admits w.Grounds where
  conditional ha _ hmem b hb := ha b (.conditional hmem hb)
  sequence ha _ hmem b hb := ha b (.sequence hmem hb)
  behavior hs hb :=
    h.actions _ (List.mem_of_find?_eq_some hs) _ (List.mem_of_find?_eq_some hb)

end World

end TileAdventure
