/-
The range of 64-bit integers, in which the host counts and the values of bounds lie.
-/

namespace ForeignGlue

/-- The number of 64-bit words, that is, two to the 64th. -/
def wordCount : Nat := 0x10000000000000000

/-- Whether a value is a 64-bit signed integer. -/
def fitsWord (value : Int) : Bool :=
  -0x8000000000000000 ≤ value && value < 0x8000000000000000

end ForeignGlue
