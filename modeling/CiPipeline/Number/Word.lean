set_option autoImplicit false

/-! # Sizes of integers

The integers that fit into so many bits, with a sign or without one.
-/

namespace CiPipeline.Number

/-- The integers of 64 bits, signed or not. -/
def isWord (n : Int) : Bool := decide (-(Nat.pow 2 63 : Int) ≤ n) && decide (n < Nat.pow 2 64)

/-- The integers of 128 bits, signed or not. -/
def isDoubleWord (n : Int) : Bool := decide (-(Nat.pow 2 127 : Int) ≤ n) && decide (n < Nat.pow 2 128)

end CiPipeline.Number
