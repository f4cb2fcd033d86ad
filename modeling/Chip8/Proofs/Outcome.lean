/-
# Steps that may stop

The operations of a machine are written as short sequences of steps, each of which
may fault or breach. The lemmas below say what such a sequence amounts to once it
is known how its first step ends, so that later proofs only have to say that.

The last of them is what atomicity rests on: an operation that is committed and
stops leaves the machine as it was.
-/

import Chip8.Machine

namespace Chip8

/-! ## Sequences -/

section Sequences

variable {ε α α' : Type}

/-- A step that succeeds hands its answer on. -/
@[simp]
theorem ok_bind (answer : α) (next : α → Except ε α') :
    (Except.ok answer >>= next) = next answer := rfl

/-- Nothing happens behind a step that fails. -/
@[simp]
theorem error_bind (cause : ε) (next : α → Except ε α') :
    (Except.error cause >>= next) = .error cause := rfl

@[simp]
theorem liftFault_ok (answer : α) :
    (liftM (Except.ok answer : Except Fault α) : Except Stop α) = .ok answer := rfl

@[simp]
theorem liftFault_error (fault : Fault) :
    (liftM (Except.error fault : Except Fault α) : Except Stop α) =
      .error (.fault fault) := rfl

@[simp]
theorem liftBreach_ok (answer : α) :
    (liftM (Except.ok answer : Except Breach α) : Except Stop α) = .ok answer := rfl

@[simp]
theorem liftBreach_error (breach : Breach) :
    (liftM (Except.error breach : Except Breach α) : Except Stop α) =
      .error (.breach breach) := rfl

/-- A loop succeeds if each of its steps does, wherever it starts. -/
theorem foldlM_eq_ok {step : α' → α → Except ε α'} {items : List α}
    (succeeds : ∀ state, ∀ item ∈ items, ∃ next, step state item = .ok next)
    (state : α') : ∃ final, items.foldlM step state = .ok final := by
  induction items generalizing state with
  | nil => exact ⟨state, rfl⟩
  | cons item rest ih =>
      obtain ⟨next, taken⟩ := succeeds state item List.mem_cons_self
      rw [List.foldlM_cons, taken, ok_bind]
      exact ih (fun state other listed =>
        succeeds state other (List.mem_cons_of_mem _ listed)) next

end Sequences

/-! ## Committing -/

namespace Machine

variable {τ δ ρ β : Type} {machine : Machine τ δ ρ β}

@[simp]
theorem commit_ok (after : Machine τ δ ρ β) :
    machine.commit (.ok after) = (after, .ok ()) := rfl

@[simp]
theorem commit_error (stop : Stop) :
    machine.commit (.error stop) = (machine, .error stop) := rfl

@[simp]
theorem commitRegisters_ok (registers : Registers τ) :
    machine.commitRegisters (.ok registers) = ({ machine with registers }, .ok ()) := rfl

@[simp]
theorem commitRegisters_error (stop : Stop) :
    machine.commitRegisters (.error stop) = (machine, .error stop) := rfl

/-- A committed operation that stops has not happened. -/
theorem commit_of_stop {result : Except Stop (Machine τ δ ρ β)} {stop : Stop}
    (stopped : (machine.commit result).2 = .error stop) :
    (machine.commit result).1 = machine := by
  cases result with
  | ok after => simp at stopped
  | error cause => rfl

/-- The same of an operation on the register file. -/
theorem commitRegisters_of_stop {result : Except Stop (Registers τ)} {stop : Stop}
    (stopped : (machine.commitRegisters result).2 = .error stop) :
    (machine.commitRegisters result).1 = machine :=
  commit_of_stop stopped

end Machine

end Chip8
