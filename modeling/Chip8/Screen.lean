/-
# The screen

A grid of pixels that are lit or not, stored row by row. A sprite is a list of
rows of eight pixels; painting it switches every pixel under a set bit. The
place where a sprite starts wraps around the screen, the sprite itself is cut
off at the right and lower edges.

`touched` is the list of pixels that a sprite covers, and `paint` switches them
one after the other. A collision is a lit pixel that was switched off.
-/

import Chip8.Fault

namespace Chip8

/-- The pixels of a machine. -/
structure Screen where
  /-- Row by row from the top, each row from the left. -/
  pixels : Vector Bool 2048
  deriving BEq, DecidableEq, Repr

namespace Screen

/-- Pixels in a row. -/
def width : Nat := 64

/-- Rows. -/
def height : Nat := 32

/-- Pixels in a row of a sprite. -/
def spriteWidth : Nat := 8

/-- A screen on which nothing is lit. -/
def blank : Screen := ⟨Vector.replicate 2048 false⟩

/-- The place of a pixel in the grid. -/
def index (x y : Nat) : Nat := y * width + x

/-- Whether the pixel at a column and row is lit. Only its place in the grid is
checked, so a column beyond the edge names a pixel of a later row. -/
def isLit (screen : Screen) (x y : Nat) : Except Breach Bool :=
  if inside : index x y < 2048 then .ok screen.pixels[index x y]
  else .error .outsideTable

/-- The number of lit pixels. -/
def litCount (screen : Screen) : Nat := screen.pixels.toList.count true

/-- Switch the pixel at a place in the grid. Also says whether it was lit. -/
def toggle (screen : Screen) (place : Nat) : Except Breach (Screen × Bool) :=
  if inside : place < 2048 then
    let lit := screen.pixels[place]
    .ok (⟨screen.pixels.set place (!lit)⟩, lit)
  else .error .outsideTable

/-- Whether the pixel in a column of a sprite's row is set. Column 0 is the leftmost. -/
def isSet (row : UInt8) (column : Nat) : Bool :=
  row.toNat.testBit (spriteWidth - 1 - column)

/-- The places in one row of the grid that a row of a sprite covers. -/
def touchedInRow (x y : Nat) (row : UInt8) : List Nat :=
  ((List.range (min spriteWidth (width - x))).filter (isSet row)).map
    fun column => index (x + column) y

/-- The places in the grid that a sprite covers which starts at a column and row
of the screen. -/
def touched (sprite : List UInt8) (x y : Nat) : List Nat :=
  ((sprite.take (height - y)).zipIdx y).flatMap fun (row, line) => touchedInRow x line row

/-- Switch the pixels at some places one after the other. Also says whether any
of them was lit when its turn came. -/
def toggleAll (screen : Screen) (places : List Nat) : Except Breach (Screen × Bool) :=
  places.foldlM (fun (painted, collided) place => do
    let (painted, lit) ← painted.toggle place
    return (painted, collided || lit)) (screen, false)

/-- Paint a sprite whose start is given by two bytes. Also says whether it
collided with what was there. -/
def paint (screen : Screen) (sprite : List UInt8) (x y : UInt8) :
    Except Breach (Screen × Bool) :=
  screen.toggleAll (touched sprite (x.toNat % width) (y.toNat % height))

end Screen

end Chip8
