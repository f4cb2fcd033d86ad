/-
# A generator of random bytes

A machine that is run for a user takes its random bytes from a generator which
starts from a seed. All bytes are equally likely.
-/

import Chip8.Peripheral

namespace Chip8

instance : RandomSource StdGen where
  nextByte generator :=
    let (byte, generator) := randNat generator 0 255
    (.ofNat byte, generator)

end Chip8
