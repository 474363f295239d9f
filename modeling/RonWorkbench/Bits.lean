/-!
# Words of bits

How far a count goes that is kept in a word of so many bits.
-/

namespace RonWorkbench.Bits

/-- The number of words of so many bits, which is the first count that does not fit into one. -/
def wordCount (bits : Nat) : Nat :=
  Nat.pow 2 bits

theorem wordCount_pos (bits : Nat) : 0 < wordCount bits :=
  Nat.pow_pos (by decide)

end RonWorkbench.Bits
