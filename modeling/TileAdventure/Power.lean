/-!
# Powers of whole numbers

A power of a natural number or an integer is the one of the core library in every module,
also in those where another library gives powers by other means.
-/

namespace TileAdventure

@[default_instance high]
instance (priority := high) powNat : Pow Nat Nat := instPowNat

@[default_instance high]
instance (priority := high) powInt : Pow Int Nat := instPowNat

end TileAdventure
