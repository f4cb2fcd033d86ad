/-
# Painting switches what a drawing covers

A drawing is a sprite together with the two bytes that its start is given by, and it
covers pixels of the screen: `covers` says which, by rows and columns. Painting visits
the covered places one after the other. No place is visited twice, so painting switches
the covered pixels and no others, and it collides if one of them was lit to begin with.
-/

import Chip8.Proofs.Screen.Bounds
import Mathlib.Data.List.Nodup

namespace Chip8

/-- A sprite, and the two bytes that its start is given by. -/
structure Drawing where
  /-- The byte that gives the column. -/
  x : UInt8
  /-- The byte that gives the row. -/
  y : UInt8
  /-- The rows of the sprite. -/
  rows : List UInt8
  deriving DecidableEq, Repr

namespace Drawing

variable (drawing : Drawing)

/-- The first column that a drawing can cover. -/
def left : Nat := drawing.x.toNat % Screen.width

/-- The first row that a drawing can cover. -/
def top : Nat := drawing.y.toNat % Screen.height

/-- Whether a drawing covers the pixel at a column and row: whether that lies in the
eight columns and the rows from its start on, and is set there. -/
def covers (column row : Nat) : Bool :=
  drawing.left ≤ column && column < drawing.left + Screen.spriteWidth && drawing.top ≤ row &&
    drawing.rows[row - drawing.top]?.any (Screen.isSet · (column - drawing.left))

theorem covers_iff {column row : Nat} :
    drawing.covers column row = true ↔
      ∃ i j bits, drawing.rows[i]? = some bits ∧ j < 8 ∧ Screen.isSet bits j = true ∧
        row = drawing.top + i ∧ column = drawing.left + j := by
  have eight : Screen.spriteWidth = 8 := rfl
  simp only [covers, Bool.and_eq_true, decide_eq_true_eq, Option.any_eq_true]
  constructor
  · rintro ⟨⟨⟨fromLeft, within⟩, fromTop⟩, bits, listed, set⟩
    exact ⟨_, _, bits, listed, by omega, set, by omega, by omega⟩
  · rintro ⟨i, j, bits, listed, within, set, rfl, rfl⟩
    refine ⟨⟨⟨by omega, by omega⟩, by omega⟩, bits, ?_, ?_⟩
    · rwa [Nat.add_sub_cancel_left]
    · rwa [Nat.add_sub_cancel_left]

end Drawing

namespace Screen

/-! ## Places -/

/-- Places of different pixels are different. -/
theorem index_inj {column column' row row' : Nat} (inside : column < width)
    (inside' : column' < width) (same : index column row = index column' row') :
    column = column' ∧ row = row' := by
  simp only [index, width] at *
  omega

theorem index_lt {column row : Nat} (insideRow : column < width) (insideColumn : row < height) :
    index column row < 2048 := by
  simp only [index, width, height] at *
  omega

theorem mem_touchedInRow_iff {x y place : Nat} {bits : UInt8} :
    place ∈ touchedInRow x y bits ↔
      ∃ j, j < 8 ∧ x + j < width ∧ isSet bits j = true ∧ place = index (x + j) y := by
  simp only [touchedInRow, spriteWidth, List.mem_map, List.mem_filter, List.mem_range]
  constructor
  · rintro ⟨j, ⟨within, set⟩, rfl⟩
    exact ⟨j, by omega, by omega, set, rfl⟩
  · rintro ⟨j, within, inside, set, rfl⟩
    exact ⟨j, ⟨by omega, set⟩, rfl⟩

theorem nodup_touchedInRow (x y : Nat) (bits : UInt8) : (touchedInRow x y bits).Nodup := by
  apply List.Nodup.map
  · intro j j' same
    simp only [index] at same
    omega
  · exact List.nodup_range.filter _

/-- The places that a sprite touches are the places of the pixels that it covers. -/
theorem mem_touched_iff (drawing : Drawing) {column row : Nat} (insideRow : column < width)
    (insideColumn : row < height) :
    index column row ∈ touched drawing.rows drawing.left drawing.top ↔
      drawing.covers column row = true := by
  simp only [touched, List.mem_flatMap, Prod.exists, List.mk_mem_zipIdx_iff_le_and_getElem?_sub,
    mem_touchedInRow_iff, Drawing.covers_iff]
  constructor
  · rintro ⟨bits, line, ⟨fromTop, listed⟩, j, within, inside, set, same⟩
    obtain ⟨rfl, rfl⟩ := index_inj insideRow inside same
    refine ⟨row - drawing.top, j, bits, ?_, within, set, by omega, rfl⟩
    rw [List.getElem?_take] at listed
    split at listed
    · exact listed
    · cases listed
  · rintro ⟨i, j, bits, listed, within, set, rfl, rfl⟩
    refine ⟨bits, drawing.top + i, ⟨Nat.le_add_right _ _, ?_⟩, j, within, insideRow, set, rfl⟩
    rw [List.getElem?_take, if_pos (by omega), Nat.add_sub_cancel_left, listed]

theorem nodup_touched (sprite : List UInt8) (x y : Nat) : (touched sprite x y).Nodup := by
  rw [touched, List.nodup_flatMap]
  refine ⟨fun line _ => nodup_touchedInRow _ _ _, ?_⟩
  have lines : (((sprite.take (height - y)).zipIdx y).map Prod.snd).Nodup := by
    rw [List.zipIdx_map_snd]
    exact List.nodup_range'
  refine (List.pairwise_map.mp lines).imp ?_
  -- Different lines of the screen have no place in common.
  rintro ⟨bits, line⟩ ⟨bits', line'⟩ apart place here there
  obtain ⟨j, -, inside, -, rfl⟩ := mem_touchedInRow_iff.mp here
  obtain ⟨j', -, inside', -, same⟩ := mem_touchedInRow_iff.mp there
  exact apart (index_inj inside inside' same).2

/-! ## Pixels -/

/-- Whether the pixel at a place is lit. -/
def litAt (screen : Screen) (place : Nat) : Bool := screen.pixels[place]?.getD false

theorem isLit_of_lt (screen : Screen) {column row : Nat} (insideRow : column < width)
    (insideColumn : row < height) :
    screen.isLit column row = .ok (screen.litAt (index column row)) := by
  have inside := index_lt insideRow insideColumn
  rw [isLit, dif_pos inside, litAt, Vector.getElem?_eq_getElem inside]
  rfl

theorem litAt_blank (place : Nat) : blank.litAt place = false := by
  simp only [litAt, blank, Vector.getElem?_replicate]
  split <;> rfl

/-- Every place belongs to a pixel. -/
theorem exists_index_eq {place : Nat} (inside : place < 2048) :
    ∃ column row, column < width ∧ row < height ∧ index column row = place := by
  refine ⟨place % width, place / width, Nat.mod_lt _ (by decide), ?_, Nat.div_add_mod' place width⟩
  simp only [width, height]
  omega

/-- Screens are the same if all their pixels are. -/
theorem eq_of_litAt {screen screen' : Screen}
    (same : ∀ column row, column < width → row < height →
      screen.litAt (index column row) = screen'.litAt (index column row)) : screen = screen' := by
  suffices screen.pixels = screen'.pixels from congrArg Screen.mk this
  apply Vector.ext
  intro place inside
  obtain ⟨column, row, insideRow, insideColumn, rfl⟩ := exists_index_eq inside
  simpa [litAt, inside] using same column row insideRow insideColumn

/-! ## Switching -/

theorem exists_toggle (screen : Screen) {place : Nat} (inside : place < 2048) :
    ∃ toggled, screen.toggle place = .ok (toggled, screen.litAt place) ∧
      ∀ other, toggled.litAt other = (screen.litAt other ^^ decide (other = place)) := by
  have lit : screen.litAt place = screen.pixels[place] := by simp [litAt, inside]
  refine ⟨_, lit ▸ toggle_of_lt screen inside, ?_⟩
  intro other
  by_cases here : other = place
  · subst here
    simp [litAt, inside]
  · simp [litAt, Ne.symm here, here]

/-- One step of painting: switch a pixel, and remember whether any was lit so far. -/
def toggleNext (state : Screen × Bool) (place : Nat) : Except Breach (Screen × Bool) := do
  let (toggled, lit) ← state.1.toggle place
  return (toggled, state.2 || lit)

/-- Switching different pixels one after the other switches each of them once, and finds
those lit that were lit to begin with. -/
theorem exists_foldlM_toggleNext {places : List Nat} (inside : ∀ place ∈ places, place < 2048)
    (distinct : places.Nodup) (screen : Screen) (collided : Bool) :
    ∃ toggled,
      places.foldlM toggleNext (screen, collided) =
        .ok (toggled, collided || places.any screen.litAt) ∧
      ∀ place, toggled.litAt place = (screen.litAt place ^^ decide (place ∈ places)) := by
  induction places generalizing screen collided with
  | nil => exact ⟨screen, by simp [pure, Except.pure], by simp⟩
  | cons first rest ih =>
      obtain ⟨absent, distinct⟩ := List.nodup_cons.mp distinct
      obtain ⟨painted, toggles, switched⟩ := exists_toggle screen (inside first List.mem_cons_self)
      obtain ⟨toggled, toggleRest, switchedRest⟩ := ih
        (fun place listed => inside place (List.mem_cons_of_mem _ listed)) distinct painted
        (collided || screen.litAt first)
      have next : toggleNext (screen, collided) first =
          .ok (painted, collided || screen.litAt first) := by
        rw [toggleNext, toggles]
        rfl
      -- The first place is not visited again, so the others are as they were.
      have untouched : rest.map painted.litAt = rest.map screen.litAt := by
        apply List.map_congr_left
        intro place listed
        have apart : place ≠ first := fun same => absent (same ▸ listed)
        simp [switched, apart]
      have foundRest : rest.any painted.litAt = rest.any screen.litAt := by
        simpa [List.any_map] using congrArg (List.any · id) untouched
      refine ⟨toggled, ?_, ?_⟩
      · rw [List.foldlM_cons, next, ok_bind, toggleRest, foundRest, List.any_cons, Bool.or_assoc]
      · intro place
        rw [switchedRest, switched]
        by_cases here : place = first
        · simp [here, absent]
        · simp [here]

/-- Painting a drawing switches the pixels that it covers, and collides if one of them
was lit. -/
theorem exists_paint (screen : Screen) (drawing : Drawing) :
    ∃ painted collided,
      screen.paint drawing.rows drawing.x drawing.y = .ok (painted, collided) ∧
      (∀ column row, column < width → row < height →
        painted.litAt (index column row) =
          (screen.litAt (index column row) ^^ drawing.covers column row)) ∧
      (collided = true ↔ ∃ column row, column < width ∧ row < height ∧
        drawing.covers column row = true ∧ screen.litAt (index column row) = true) := by
  have inside : ∀ place ∈ touched drawing.rows drawing.left drawing.top, place < 2048 :=
    fun place covered => touched_lt (Nat.mod_lt _ (by decide)) covered
  obtain ⟨painted, paints, switched⟩ :=
    exists_foldlM_toggleNext inside (nodup_touched _ _ _) screen false
  refine ⟨painted, _, paints, ?_, ?_⟩
  · intro column row insideRow insideColumn
    have covered : decide (index column row ∈ touched drawing.rows drawing.left drawing.top) =
        drawing.covers column row := by
      rw [Bool.eq_iff_iff, decide_eq_true_eq, mem_touched_iff drawing insideRow insideColumn]
    rw [switched, covered]
  · rw [Bool.false_or, List.any_eq_true]
    constructor
    · rintro ⟨place, covered, lit⟩
      obtain ⟨column, row, insideRow, insideColumn, rfl⟩ := exists_index_eq (inside place covered)
      exact ⟨column, row, insideRow, insideColumn,
        (mem_touched_iff drawing insideRow insideColumn).mp covered, lit⟩
    · rintro ⟨column, row, insideRow, insideColumn, covered, lit⟩
      exact ⟨_, (mem_touched_iff drawing insideRow insideColumn).mpr covered, lit⟩

theorem isLit_eq_ok_iff {screen : Screen} {column row : Nat} {lit : Bool}
    (insideRow : column < width) (insideColumn : row < height) :
    screen.isLit column row = .ok lit ↔ screen.litAt (index column row) = lit := by
  rw [isLit_of_lt screen insideRow insideColumn, Except.ok.injEq]

/-- Of pixels of the screen, the same can be said in two ways if it can be of each. -/
theorem exists_onScreen_congr {holds holds' : Nat → Nat → Prop}
    (same : ∀ column row, column < width → row < height → (holds column row ↔ holds' column row)) :
    (∃ column row, column < width ∧ row < height ∧ holds column row) ↔
      ∃ column row, column < width ∧ row < height ∧ holds' column row := by
  constructor
  · rintro ⟨column, row, insideRow, insideColumn, held⟩
    exact ⟨column, row, insideRow, insideColumn, (same _ _ insideRow insideColumn).mp held⟩
  · rintro ⟨column, row, insideRow, insideColumn, held⟩
    exact ⟨column, row, insideRow, insideColumn, (same _ _ insideRow insideColumn).mpr held⟩

/-- Painting always succeeds. It switches those pixels of the screen that lie under a set bit of
the sprite, whose start wraps around and whose rest does not, and it collides if one of them was
lit and is lit no longer. Painting the same once more brings the screen back, and collides if a
pixel under a set bit was not lit at first. -/
theorem paint_switches_what_is_covered (screen : Screen) (sprite : List UInt8) (x y : UInt8) :
    let covers := (Drawing.mk x y sprite).covers
    (∀ column row, covers column row = true ↔
      ∃ i j bits, sprite[i]? = some bits ∧ j < 8 ∧ bits.toNat.testBit (7 - j) = true ∧
        row = y.toNat % 32 + i ∧ column = x.toNat % 64 + j) ∧
    ∃ painted collided, screen.paint sprite x y = .ok (painted, collided) ∧
      painted.pixels.toList.length = 2048 ∧
      (∀ column row, column < 64 → row < 32 → ∃ lit, screen.isLit column row = .ok lit ∧
        painted.isLit column row = .ok (lit ^^ covers column row)) ∧
      (collided = true ↔ ∃ column row, column < 64 ∧ row < 32 ∧
        screen.isLit column row = .ok true ∧ painted.isLit column row = .ok false) ∧
      ∃ again, painted.paint sprite x y = .ok (screen, again) ∧
        (again = true ↔ ∃ column row, column < 64 ∧ row < 32 ∧
          covers column row = true ∧ screen.isLit column row = .ok false) := by
  intro covers
  obtain ⟨painted, collided, paints, switched, collides⟩ := exists_paint screen ⟨x, y, sprite⟩
  obtain ⟨restored, again, repaints, switchedBack, collidesAgain⟩ :=
    exists_paint painted ⟨x, y, sprite⟩
  have same : restored = screen := by
    apply eq_of_litAt
    intro column row insideRow insideColumn
    rw [switchedBack column row insideRow insideColumn, switched column row insideRow insideColumn,
      Bool.xor_assoc, Bool.xor_self, Bool.xor_false]
  subst same
  refine ⟨fun column row => Drawing.covers_iff _, painted, collided, paints, Vector.length_toList,
    ?_, collides.trans ?_, again, repaints, collidesAgain.trans ?_⟩
  · intro column row insideRow insideColumn
    refine ⟨_, isLit_of_lt _ insideRow insideColumn, ?_⟩
    rw [isLit_eq_ok_iff insideRow insideColumn, switched column row insideRow insideColumn]
  · -- What is covered was lit if and only if it is lit no longer.
    apply exists_onScreen_congr
    intro column row insideRow insideColumn
    rw [isLit_eq_ok_iff insideRow insideColumn, isLit_eq_ok_iff insideRow insideColumn,
      switched column row insideRow insideColumn]
    cases restored.litAt (index column row) <;> simp
  · apply exists_onScreen_congr
    intro column row insideRow insideColumn
    rw [isLit_eq_ok_iff insideRow insideColumn, switched column row insideRow insideColumn]
    cases restored.litAt (index column row) <;> simp [covers]

end Screen

end Chip8
