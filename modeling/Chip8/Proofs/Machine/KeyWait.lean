/-
# Waiting for a key

The instruction that waits is executed again and again, and each time one of four
things happens. Without a latched key, either no key is down and it repeats itself,
or the first key that is down is latched and put into the register, and it repeats
itself. With a latched key, either that key is still down and it repeats itself, or
the key has come up and the latch is cleared. Only the last lets the program go on.
-/

import Chip8.Machine.Execute
import Chip8.Proofs.RegisterFile
import Chip8.Proofs.ScreenDisplay

namespace Chip8.Machine

variable {τ δ ρ β : Type} [Display δ] [ScreenDisplay δ]

/-- Searching keys that exist finds the first that is down. -/
theorem firstPressed?_of_lt (display : δ) {keys : List UInt8}
    (small : ∀ key ∈ keys, key.toNat < 16) :
    firstPressed? display keys =
      .ok (keys.find? (ScreenDisplay.keypad display).holds) := by
  induction keys with
  | nil => rfl
  | cons key rest ih =>
      have here : key.toNat < 16 := small key List.mem_cons_self
      have found := ih fun other listed => small other (List.mem_cons_of_mem _ listed)
      rw [firstPressed?, ScreenDisplay.isKeyPressed_of_lt _ here, ok_bind, found,
        List.find?_cons]
      cases (ScreenDisplay.keypad display).holds key <;> rfl

/-- All hexadecimal keys exist. -/
theorem toNat_lt_of_mem_hexKeys : ∀ key ∈ hexKeys, key.toNat < 16 := by
  intro key listed
  obtain ⟨number, below, rfl⟩ := List.mem_map.mp listed
  have small : number < 16 := List.mem_range.mp below
  rw [UInt8.toNat_ofNat']
  omega

/-- The smallest key that is down. -/
def firstDown? (machine : Machine τ δ ρ β) : Option UInt8 :=
  hexKeys.find? (ScreenDisplay.keypad machine.display).holds

variable {machine : Machine τ δ ρ β} {x key : UInt8}

theorem toNat_lt_of_firstDown? (found : machine.firstDown? = some key) : key.toNat < 16 :=
  toNat_lt_of_mem_hexKeys key (List.mem_of_find?_eq_some found)

/-- The machine that has just latched a key. -/
def latch (machine : Machine τ δ ρ β) (x key : UInt8) : Machine τ δ ρ β :=
  { machine with
    awaitedKey := some key
    registers := (machine.registers.put (Registers.place x) key).retreat }.record (.keyLatched key)

/-- The machine whose latched key has come up. -/
def unlatch (machine : Machine τ δ ρ β) (key : UInt8) : Machine τ δ ρ β :=
  { machine with awaitedKey := none }.record (.keyResolved key)

/-- What one execution of the waiting instruction does. -/
def await (machine : Machine τ δ ρ β) (x : UInt8) : Machine τ δ ρ β :=
  match machine.awaitedKey with
  | none =>
      match machine.firstDown? with
      | none => machine.repeatInstruction
      | some key => machine.latch x key
  | some key =>
      if (ScreenDisplay.keypad machine.display).holds key then machine.repeatInstruction
      else machine.unlatch key

/-- Waiting cannot fail if register X exists and what is latched is a key. -/
theorem awaitKey_of_lt (small : x.toNat < 16)
    (latched_lt : ∀ key, machine.awaitedKey = some key → key.toNat < 16) :
    machine.awaitKey x = (machine.await x, .ok ()) := by
  unfold awaitKey await
  cases latched : machine.awaitedKey with
  | none =>
      have searched : firstPressed? machine.display hexKeys = .ok machine.firstDown? :=
        firstPressed?_of_lt machine.display toNat_lt_of_mem_hexKeys
      simp only [searched]
      cases machine.firstDown? with
      | none => rfl
      | some key =>
          simp only [Registers.set_of_lt _ small]
          rfl
  | some key =>
      simp only [ScreenDisplay.isKeyPressed_of_lt machine.display (latched_lt key latched)]
      cases (ScreenDisplay.keypad machine.display).holds key <;> rfl

/-- Waiting for what is no key breaks a contract. -/
theorem awaitKey_of_noKey (latched : machine.awaitedKey = some key) (large : 16 ≤ key.toNat) :
    machine.awaitKey x = (machine, .error (.breach (.noKey key))) := by
  have refused : Display.isKeyPressed machine.display key = .error (.noKey key) := by
    rw [ScreenDisplay.isKeyPressed_eq, Keypad.isPressed, Keypad.key,
      dif_neg (Nat.not_lt.mpr large)]
    rfl
  simp only [awaitKey, latched, refused]

/-- On machines with the same latch and the same keys down, waiting does the same. What it
does is one of three things, so a relation holds afterwards if each of them establishes it. -/
theorem await_related {τ' δ' ρ' β' : Type} [Display δ'] [ScreenDisplay δ']
    (related : Machine τ δ ρ β → Machine τ' δ' ρ' β' → Prop) {first : Machine τ δ ρ β}
    {second : Machine τ' δ' ρ' β'} (latch_eq : first.awaitedKey = second.awaitedKey)
    (keypad_eq : ScreenDisplay.keypad first.display = ScreenDisplay.keypad second.display)
    (repeated : related first.repeatInstruction second.repeatInstruction)
    (latched : ∀ key, related (first.latch x key) (second.latch x key))
    (unlatched : ∀ key, related (first.unlatch key) (second.unlatch key)) :
    related (first.await x) (second.await x) := by
  unfold await firstDown?
  rw [latch_eq, keypad_eq]
  split
  · split
    · exact repeated
    · exact latched _
  · split
    · exact repeated
    · exact unlatched _

/-- Waiting changes nothing but registers, the latch and the journal. -/
theorem await_eq (machine : Machine τ δ ρ β) (x : UInt8) :
    ∃ registers awaitedKey journal,
      machine.await x = { machine with registers, awaitedKey, journal } := by
  unfold await
  split
  · split <;> exact ⟨_, _, _, rfl⟩
  · split <;> exact ⟨_, _, _, rfl⟩

@[simp]
theorem await_memory (machine : Machine τ δ ρ β) (x : UInt8) :
    (machine.await x).memory = machine.memory := by
  obtain ⟨registers, awaitedKey, journal, waited⟩ := machine.await_eq x
  rw [waited]

@[simp]
theorem await_stack (machine : Machine τ δ ρ β) (x : UInt8) :
    (machine.await x).stack = machine.stack := by
  obtain ⟨registers, awaitedKey, journal, waited⟩ := machine.await_eq x
  rw [waited]

@[simp]
theorem await_display (machine : Machine τ δ ρ β) (x : UInt8) :
    (machine.await x).display = machine.display := by
  obtain ⟨registers, awaitedKey, journal, waited⟩ := machine.await_eq x
  rw [waited]

/-- If a key was latched, or none, then so it is after waiting. -/
theorem await_latch_lt {x : UInt8}
    (latch_lt : ∀ key, machine.awaitedKey = some key → key.toNat < 16) :
    ∀ key, (machine.await x).awaitedKey = some key → key.toNat < 16 := by
  intro key latched
  unfold await at latched
  cases before : machine.awaitedKey with
  | none =>
      cases found : machine.firstDown? with
      | none => simp [before, found, repeatInstruction] at latched
      | some first =>
          simp only [before, found, latch, record, Option.some.injEq] at latched
          exact latched ▸ toNat_lt_of_firstDown? found
  | some old =>
      simp only [before] at latched
      split at latched
      · exact latch_lt key latched
      · simp [unlatch, record] at latched

end Chip8.Machine
