/-
# Filling a buffer

A device asks for a number of samples at a time. The buffer is filled frame by
frame: each frame takes one value from the source and repeats it for every
channel. If the last frame does not fit it is cut short, and the next request
starts with a new frame.
-/

import Chip8.Fault

namespace Chip8.Frames

variable {σ α : Type}

/-- Fill a buffer of a given length from a source. -/
def fillBuffer (next : σ → α × σ) (channels : Nat) (positive : 0 < channels)
    (source : σ) (length : Nat) : List α × σ :=
  if length = 0 then ([], source)
  else
    let (value, source) := next source
    let frame := List.replicate (min channels length) value
    let (rest, source) := fillBuffer next channels positive source (length - channels)
    (frame ++ rest, source)
termination_by length

/-- Fill a buffer; a frame must have at least one channel. -/
def fill (next : σ → α × σ) (channels : Nat) (source : σ) (length : Nat) :
    Except Breach (List α × σ) :=
  if positive : 0 < channels then .ok (fillBuffer next channels positive source length)
  else .error .outsideTable

end Chip8.Frames
