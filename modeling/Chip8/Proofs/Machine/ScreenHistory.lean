/-
# The screen is the parity of its drawings

Drawing switches pixels, so what is on the screen depends only on how often each pixel
was covered since the screen was last cleared: it is lit after an odd number of drawings
that cover it. `drawings` collects them from the history of a run, each with the bytes of
the sprite as they were in memory then, and `coverage` counts.

A parity does not know the order of what is counted, nor pairs. So neither does the
screen, and two runs that draw the same, in any order and up to pairs of equal drawings,
end with the same screen.
-/

import Chip8.Proofs.Machine.History
import Chip8.Proofs.Screen.Paint
import Mathlib.Algebra.Ring.Parity

namespace Chip8.Machine

variable {τ δ ρ β : Type}

/-! ## Drawings of a history -/

/-- What an instruction that draws would draw: the bytes from I on, at the place that
two registers give. -/
def drawing (machine : Machine τ δ ρ β) (x y height : UInt8) : Drawing where
  x := machine.registers.value x
  y := machine.registers.value y
  rows := machine.memory.bytesFrom machine.registers.index.toNat height.toNat

/-- The drawings on the screen behind one more deed. -/
def drawingsBehind (drawings : List Drawing) : Deed τ δ ρ β → List Drawing
  | .executed _ .clearScreen => []
  | .executed machine (.draw x y height) => drawings ++ [machine.drawing x y height]
  | _ => drawings

/-- The drawings of a history since the screen was last cleared, the oldest first. -/
def drawings (deeds : List (Deed τ δ ρ β)) : List Drawing := deeds.foldl drawingsBehind []

theorem drawingsBehind_of_other {instruction : Instruction} (drawings : List Drawing)
    (machine : Machine τ δ ρ β) (not_clear : instruction ≠ .clearScreen)
    (not_draw : ∀ x y height, instruction ≠ .draw x y height) :
    drawingsBehind drawings (.executed machine instruction) = drawings := by
  cases instruction with
  | clearScreen => exact absurd rfl not_clear
  | draw x y height => exact absurd rfl (not_draw x y height)
  | _ => rfl

theorem drawings_concat (deeds : List (Deed τ δ ρ β)) (deed : Deed τ δ ρ β) :
    drawings (deeds ++ [deed]) = drawingsBehind (drawings deeds) deed := by
  rw [drawings, List.foldl_append]
  rfl

/-- How many drawings cover a pixel. -/
def coverage (drawings : List Drawing) (column row : Nat) : Nat :=
  drawings.countP (·.covers column row)

theorem coverage_concat (drawings : List Drawing) (drawing : Drawing) (column row : Nat) :
    coverage (drawings ++ [drawing]) column row =
      coverage drawings column row + (drawing.covers column row).toNat := by
  rw [coverage, List.countP_append, List.countP_singleton]
  cases drawing.covers column row <;> rfl

theorem odd_coverage_concat (drawings : List Drawing) (drawing : Drawing) (column row : Nat) :
    decide (Odd (coverage (drawings ++ [drawing]) column row)) =
      (decide (Odd (coverage drawings column row)) ^^ drawing.covers column row) := by
  rw [coverage_concat]
  cases drawing.covers column row with
  | false => simp
  | true =>
      rw [Bool.xor_true, ← decide_not]
      exact decide_eq_decide.mpr Nat.odd_add_one

/-- Neither the order of drawings nor pairs of them count. -/
theorem odd_coverage_of_perm {drawings drawings' twice : List Drawing}
    (drawn : drawings'.Perm (drawings ++ (twice ++ twice))) (column row : Nat) :
    Odd (coverage drawings' column row) ↔ Odd (coverage drawings column row) := by
  have counted : coverage drawings' column row =
      coverage drawings column row + 2 * coverage twice column row := by
    rw [coverage, drawn.countP_eq, List.countP_append, List.countP_append, ← Nat.two_mul]
    rfl
  rw [counted, Nat.odd_add, iff_true_right (even_two_mul _)]

/-- A drawing covers a pixel that others have left lit. -/
def Collides (drawings : List Drawing) (drawing : Drawing) : Prop :=
  ∃ column row, column < Screen.width ∧ row < Screen.height ∧
    drawing.covers column row = true ∧ Odd (coverage drawings column row)

/-! ## What deeds do to the screen -/

section Effect

variable [Seconds τ] [Display δ] [ScreenDisplay δ] [RandomSource ρ]
variable {machine : Machine τ δ ρ β} {instruction : Instruction}

/-- Only two instructions touch the display. -/
theorem effect_display (not_clear : instruction ≠ .clearScreen)
    (not_draw : ∀ x y height, instruction ≠ .draw x y height) :
    (machine.effect instruction).display = machine.display := by
  cases instruction with
  | clearScreen => exact absurd rfl not_clear
  | draw x y height => exact absurd rfl (not_draw x y height)
  | awaitKey x => exact machine.await_display x
  | _ => rfl

/-- An instruction that draws switches the pixels that its drawing covers, and VF says
whether one of them was lit. -/
theorem effect_draw (machine : Machine τ δ ρ β) (x y : UInt8) {height : UInt8}
    (inside : machine.memory.spanFault? machine.registers.index height.toNat = none) :
    (∀ column row, column < Screen.width → row < Screen.height →
      (ScreenDisplay.screen (machine.effect (.draw x y height)).display).litAt
          (Screen.index column row) =
        ((ScreenDisplay.screen machine.display).litAt (Screen.index column row) ^^
          (machine.drawing x y height).covers column row)) ∧
    ∃ collided : Bool,
      (machine.effect (.draw x y height)).registers.get 0xF = .ok collided.toUInt8 ∧
      (collided = true ↔ ∃ column row, column < Screen.width ∧ row < Screen.height ∧
        (machine.drawing x y height).covers column row = true ∧
        (ScreenDisplay.screen machine.display).litAt (Screen.index column row) = true) := by
  obtain ⟨painted, collided, paints, switched, met⟩ :=
    (ScreenDisplay.screen machine.display).exists_paint (machine.drawing x y height)
  rw [drawing, ← Memory.span_eq_bytesFrom (Nat.le_of_lt height.toNat_lt) inside] at paints
  obtain ⟨onScreen, flag⟩ := ScreenDisplay.drawn_of_paint paints
  refine ⟨?_, collided, ?_, met⟩
  · intro column row insideRow insideColumn
    rw [← switched column row insideRow insideColumn, ← onScreen]
    rfl
  · rw [← flag]
    exact Registers.get_setFlag _ _

end Effect

/-! ## Runs -/

variable [Display δ] [ScreenDisplay δ]

/-- What a history says about the screen, and about VF if the last deed was to draw. -/
structure Shows (past : List (Deed τ δ ρ β)) (machine : Machine τ δ ρ β) : Prop where
  litAt_eq : ∀ column row, column < Screen.width → row < Screen.height →
    (ScreenDisplay.screen machine.display).litAt (Screen.index column row) =
      decide (Odd (coverage (drawings past) column row))
  flag_eq : ∀ earlier drawer x y height, past = earlier ++ [.executed drawer (.draw x y height)] →
    (Collides (drawings earlier) (drawer.drawing x y height) →
      machine.registers.get 0xF = .ok 1) ∧
    (¬ Collides (drawings earlier) (drawer.drawing x y height) →
      machine.registers.get 0xF = .ok 0)

variable {past : List (Deed τ δ ρ β)} {machine : Machine τ δ ρ β}

/-- A deed that does not draw leaves nothing to say about VF. -/
theorem Shows.of_not_draw {deed : Deed τ δ ρ β}
    (lit : ∀ column row, column < Screen.width → row < Screen.height →
      (ScreenDisplay.screen machine.display).litAt (Screen.index column row) =
        decide (Odd (coverage (drawingsBehind (drawings past) deed) column row)))
    (not_draw : ∀ drawer x y height, deed ≠ .executed drawer (.draw x y height)) :
    Shows (past ++ [deed]) machine where
  litAt_eq := by rwa [drawings_concat]
  flag_eq := by
    intro earlier drawer x y height same
    obtain ⟨-, last⟩ := List.append_inj' same rfl
    exact absurd (List.singleton_inj.mp last) (not_draw drawer x y height)

variable [Seconds τ] [RandomSource ρ]

theorem Shows.draw (shows : Shows past machine) {x y height : UInt8}
    (unstopped : machine.stop? (.draw x y height) = none) :
    Shows (past ++ [.executed machine (.draw x y height)])
      (machine.fetched.effect (.draw x y height)) := by
  have inside : machine.memory.spanFault? machine.registers.index height.toNat = none :=
    Option.map_eq_none_iff.mp unstopped
  obtain ⟨switched, collided, flag, met⟩ := effect_draw machine.fetched x y inside
  have collides : collided = true ↔ Collides (drawings past) (machine.drawing x y height) := by
    rw [met]
    constructor
    · rintro ⟨column, row, insideRow, insideColumn, covered, lit⟩
      refine ⟨column, row, insideRow, insideColumn, covered, ?_⟩
      exact of_decide_eq_true ((shows.litAt_eq column row insideRow insideColumn).symm.trans lit)
    · rintro ⟨column, row, insideRow, insideColumn, covered, odd⟩
      refine ⟨column, row, insideRow, insideColumn, covered, ?_⟩
      exact (shows.litAt_eq column row insideRow insideColumn).trans (decide_eq_true odd)
  constructor
  · intro column row insideRow insideColumn
    rw [switched column row insideRow insideColumn, drawings_concat, drawingsBehind,
      odd_coverage_concat, ← shows.litAt_eq column row insideRow insideColumn]
    rfl
  · intro earlier drawer x' y' height' same
    obtain ⟨rfl, last⟩ := List.append_inj' same rfl
    obtain ⟨rfl, drawn⟩ := Deed.executed.inj (List.singleton_inj.mp last)
    obtain ⟨rfl, rfl, rfl⟩ := Instruction.draw.inj drawn
    rw [flag, ← collides]
    cases collided <;> simp [Bool.toUInt8]

theorem Shows.clear (past : List (Deed τ δ ρ β)) (machine : Machine τ δ ρ β) :
    Shows (past ++ [.executed machine .clearScreen]) (machine.fetched.effect .clearScreen) := by
  refine .of_not_draw ?_ (by simp)
  intro column row _ _
  have cleared : ScreenDisplay.screen (machine.fetched.effect .clearScreen).display = .blank :=
    ScreenDisplay.screen_clearScreen _
  rw [cleared, Screen.litAt_blank]
  simp [drawingsBehind, coverage]

theorem chronicle_shows : Chronicle (@Shows τ δ ρ β _ _) where
  loaded past machine rom _ shows := by
    obtain ⟨memory, journal, loaded, -⟩ := machine.loadRom_eq rom
    rw [loaded]
    exact .of_not_draw shows.litAt_eq (by simp)
  fetched past machine shows := ⟨shows.litAt_eq, shows.flag_eq⟩
  executed past machine instruction _ unstopped shows := by
    by_cases draws : ∃ x y height, instruction = .draw x y height
    · obtain ⟨x, y, height, rfl⟩ := draws
      exact shows.draw unstopped
    · by_cases clears : instruction = .clearScreen
      · subst clears
        exact .clear past machine
      · simp only [not_exists] at draws
        refine .of_not_draw ?_ ?_
        · rw [effect_display clears draws, drawingsBehind_of_other _ _ clears draws]
          exact shows.litAt_eq
        · rintro drawer x y height ⟨⟩
          exact draws x y height rfl
  within past machine around same shows := by
    refine ⟨?_, shows.flag_eq⟩
    intro column row insideRow insideColumn
    rw [← shows.litAt_eq column row insideRow insideColumn, ← same]
    rfl

variable [Buzzer β]

theorem shows_run (events : List (Event τ))
    (blank : ScreenDisplay.screen machine.display = .blank) :
    Shows (machine.history events) (machine.run events).1 := by
  have nothing : Shows [] machine := by
    refine ⟨?_, by simp⟩
    intro column row _ _
    rw [blank, Screen.litAt_blank]
    simp [drawings, coverage]
  exact chronicle_shows.run_history nothing events

/-- After any run that begins with a blank screen, a pixel is lit exactly if an odd number
of the drawings since the screen was last cleared cover it. If the last deed was to draw,
VF is 1 or 0 according to whether the drawing covered a pixel which an odd number of
drawings had covered before. And any run that makes the same drawings, in whatever order
and with any number of them made twice more, ends with the same screen. -/
theorem screen_of_history (events : List (Event τ))
    (blank : ScreenDisplay.screen machine.display = .blank) :
    let final := (machine.run events).1
    let deeds := machine.history events
    (∀ column row, column < Screen.width → row < Screen.height →
      (ScreenDisplay.screen final.display).isLit column row =
        .ok (decide (Odd (coverage (drawings deeds) column row)))) ∧
    (∀ earlier drawer x y height, deeds = earlier ++ [.executed drawer (.draw x y height)] →
      (Collides (drawings earlier) (drawer.drawing x y height) →
        final.registers.get 0xF = .ok 1) ∧
      (¬ Collides (drawings earlier) (drawer.drawing x y height) →
        final.registers.get 0xF = .ok 0)) ∧
    ∀ (other : Machine τ δ ρ β) (others : List (Event τ)) (twice : List Drawing),
      ScreenDisplay.screen other.display = .blank →
      (drawings (other.history others)).Perm (drawings deeds ++ (twice ++ twice)) →
        ScreenDisplay.screen (other.run others).1.display =
          ScreenDisplay.screen final.display := by
  intro final deeds
  have shows := shows_run events blank
  refine ⟨?_, shows.flag_eq, ?_⟩
  · intro column row insideRow insideColumn
    rw [Screen.isLit_of_lt _ insideRow insideColumn, shows.litAt_eq _ _ insideRow insideColumn]
  · intro other others twice otherBlank drawn
    apply Screen.eq_of_litAt
    intro column row insideRow insideColumn
    have parity := odd_coverage_of_perm drawn column row
    rw [(shows_run others otherBlank).litAt_eq _ _ insideRow insideColumn,
      shows.litAt_eq _ _ insideRow insideColumn, decide_eq_decide]
    exact parity

/-- A program that draws its own first byte at the same place twice. -/
theorem screen_of_equal_drawings :
    ∃ machine : Machine Rat HeadlessDisplay ByteCycle BuzzerTape,
      machine.display.screen = .blank ∧
        drawings (machine.history [.tick, .tick]) = [⟨0, 0, [0xD0]⟩, ⟨0, 0, [0xD0]⟩] ∧
        (machine.run [.tick, .tick]).1.display.screen.isLit 0 0 = .ok false ∧
        (machine.run [.tick, .tick]).1.registers.get 0xF = .ok 1 := by
  let machine : Machine Rat HeadlessDisplay ByteCycle BuzzerTape := {
    registers := { Registers.start with pc := 0 }
    memory := (Memory.zeros 4).withOverlay 0 [0xD0, 0x11, 0xD0, 0x11]
    stack := .empty CallStack.machineDepth
    display := {}
    random := .ofBytes 0 []
    buzzer := {}
    dialect := {}
    period := 1
    backlog := 0
    awaitedKey := none
    journal := #[] }
  let drawn := machine.tick.1
  have blank : ScreenDisplay.screen machine.display = .blank := rfl
  have draws : machine.tick.2 = .ok (.draw 0 1 1) := by decide +kernel
  have again : drawn.tick.2 = .ok (.draw 0 1 1) := by decide +kernel
  have first : machine.drawing 0 1 1 = ⟨0, 0, [0xD0]⟩ := by decide +kernel
  have second : drawn.drawing 0 1 1 = ⟨0, 0, [0xD0]⟩ := by decide +kernel
  have deeds : machine.history [.tick, .tick] =
      [.executed machine (.draw 0 1 1)] ++ [.executed drawn (.draw 0 1 1)] := by
    rw [history_of_tick draws, history_of_tick again]
    rfl
  have earlier : drawings [.executed machine (.draw 0 1 1)] = [⟨0, 0, [0xD0]⟩] :=
    congrArg ([·]) first
  have both : drawings (machine.history [.tick, .tick]) = [⟨0, 0, [0xD0]⟩, ⟨0, 0, [0xD0]⟩] := by
    rw [deeds, drawings_concat, earlier, drawingsBehind, second]
    rfl
  obtain ⟨lit, flag, -⟩ := screen_of_history [.tick, .tick] blank
  refine ⟨machine, blank, both, ?_, ?_⟩
  · have dark := lit 0 0 (by decide) (by decide)
    rw [both] at dark
    exact dark
  · refine (flag _ drawn 0 1 1 deeds).1 ⟨0, 0, by decide, by decide, ?_, ?_⟩
    · rw [second]
      decide
    · rw [earlier]
      decide

end Chip8.Machine
