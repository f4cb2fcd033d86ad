/-
# Painting stays on the screen

The start of a sprite is taken modulo the size of the screen and the sprite is cut
off at the edges, so every place that it covers is a place of the grid. Painting
therefore always succeeds, for a sprite of any length and any two bytes as its start.
-/

import Chip8.Proofs.Outcome
import Chip8.Screen
import Mathlib.Tactic.Common

namespace Chip8.Screen

theorem touchedInRow_lt {x y place : Nat} {row : UInt8} (onScreen : y < height)
    (covered : place ∈ touchedInRow x y row) : place < 2048 := by
  rw [touchedInRow, List.mem_map] at covered
  obtain ⟨column, chosen, rfl⟩ := covered
  have inRow : column < min spriteWidth (width - x) :=
    List.mem_range.mp (List.mem_filter.mp chosen).1
  have fits : x + column < width := by omega
  simp only [index, width, height] at *
  omega

/-- A sprite that starts on the screen covers no place outside of it. -/
theorem touched_lt {sprite : List UInt8} {x y place : Nat} (onScreen : y < height)
    (covered : place ∈ touched sprite x y) : place < 2048 := by
  rw [touched, List.mem_flatMap] at covered
  obtain ⟨⟨row, line⟩, listed, covered⟩ := covered
  have lineBound : line < y + (sprite.take (height - y)).length :=
    List.snd_lt_add_of_mem_zipIdx listed
  rw [List.length_take] at lineBound
  exact touchedInRow_lt (by omega) covered

theorem toggle_of_lt (screen : Screen) {place : Nat} (inside : place < 2048) :
    screen.toggle place =
      .ok (⟨screen.pixels.set place (!screen.pixels[place])⟩, screen.pixels[place]) :=
  dif_pos inside

/-- Painting never leaves the grid. -/
theorem paint_eq_ok (screen : Screen) (sprite : List UInt8) (x y : UInt8) :
    ∃ painted, screen.paint sprite x y = .ok painted := by
  apply foldlM_eq_ok
  rintro ⟨painted, collided⟩ place covered
  have inside : place < 2048 := touched_lt (Nat.mod_lt _ (by decide)) covered
  simp only [toggle_of_lt painted inside, ok_bind]
  exact ⟨_, rfl⟩

end Chip8.Screen
