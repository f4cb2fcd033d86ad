/-
# Stores and loads

Registers are stored to memory and loaded again, and the digits of a byte are stored beside
them. This module says how such transfers compose, for memories of any capacity, any number of
registers, and spans that may overlap in any way: loading gives back what was stored, also a
part of it; storing what was just loaded changes nothing; stores to spans that lie apart can be
exchanged; and a store leaves no trace if a later one covers its span.

A store is known by the place at which it starts and by the bytes that it lays out from there.
Whether a transfer is refused depends on its span and on the capacity, and on nothing that is
stored in either place.

What is answered to a transfer is a value, so that a refusal cannot change anything. The same
transfers are therefore also made in place, one byte after the other, in steps that nothing
undoes. There the span is checked before the first byte moves, and this is why a refused
transfer changes nothing.
-/

import Chip8.Proofs.Memory.Span

namespace Chip8

namespace Memory

/-! ## Bytes over bytes -/

section Spans

variable {memory : Memory} {address : UInt16} {first second length : Nat} {data more : List UInt8}

/-- Data that lies apart can be laid out in either order. -/
theorem withOverlay_comm (inside : first + data.length ≤ memory.bytes.size)
    (inside' : second + more.length ≤ memory.bytes.size)
    (apart : first + data.length ≤ second ∨ second + more.length ≤ first) :
    (memory.withOverlay first data).withOverlay second more =
      (memory.withOverlay second more).withOverlay first data := by
  have same : overlay (overlay memory.bytes first data) second more =
      overlay (overlay memory.bytes second more) first data := by
    apply Array.ext_getElem?
    intro place
    rw [getElem?_overlay _ _ _ (by rwa [size_overlay]), getElem?_overlay _ _ _ inside,
      getElem?_overlay _ _ _ (by rwa [size_overlay]), getElem?_overlay _ _ _ inside']
    by_cases covered : first ≤ place ∧ place < first + data.length
    · have uncovered : ¬ (second ≤ place ∧ place < second + more.length) := by omega
      rw [if_neg uncovered, if_pos covered, if_pos covered]
    · rw [if_neg covered, if_neg covered]
  simp only [withOverlay, same]

/-- Nothing is left of data that other data covers. -/
theorem withOverlay_of_covered (inside : second + more.length ≤ memory.bytes.size)
    (starts : second ≤ first) (ends : first + data.length ≤ second + more.length) :
    (memory.withOverlay first data).withOverlay second more = memory.withOverlay second more := by
  have same : overlay (overlay memory.bytes first data) second more =
      overlay memory.bytes second more := by
    apply Array.ext_getElem?
    intro place
    rw [getElem?_overlay _ _ _ (by rwa [size_overlay]), getElem?_overlay _ _ _ (by omega),
      getElem?_overlay _ _ _ inside]
    by_cases covered : second ≤ place ∧ place < second + more.length
    · rw [if_pos covered, if_pos covered]
    · have uncovered : ¬ (first ≤ place ∧ place < first + data.length) := by omega
      rw [if_neg covered, if_neg covered, if_neg uncovered]
  simp only [withOverlay, same]

/-- Bytes that are there already change nothing. -/
theorem withOverlay_span (small : length ≤ 256)
    (admitted : memory.spanFault? address length = none) :
    memory.withOverlay address.toNat (memory.span address length) = memory := by
  have found := length_span small admitted
  have kept := span_le_size small (spanFault?_eq_none_iff.mp admitted)
  have same : overlay memory.bytes address.toNat (memory.span address length) = memory.bytes := by
    apply Array.ext_getElem?
    intro place
    rw [getElem?_overlay _ _ _ (by rwa [found]), found]
    by_cases covered : address.toNat ≤ place ∧ place < address.toNat + length
    · rw [if_pos covered, span, Array.getElem?_toList, Array.getElem?_extract, if_pos (by omega),
        Nat.add_sub_of_le covered.1]
    · rw [if_neg covered]
  simp only [withOverlay, same]

/-- Data that is laid out from the first place on is followed by what it does not reach. -/
theorem toList_overlay {bytes : Array UInt8} (inside : data.length ≤ bytes.size) :
    (overlay bytes 0 data).toList = data ++ bytes.toList.drop data.length := by
  apply List.ext_getElem?
  intro place
  rw [Array.getElem?_toList, getElem?_overlay _ _ _ (by rwa [Nat.zero_add]), List.getElem?_append]
  by_cases covered : place < data.length
  · rw [if_pos (by omega), if_pos covered, Nat.sub_zero]
  · rw [if_neg (by omega), if_neg covered, List.getElem?_drop, Nat.add_sub_of_le (by omega),
      Array.getElem?_toList]

/-- The registers behind a load are the bytes that were read, and then those that were there. -/
theorem exists_loadRegisters {count : Nat} {last : UInt8} (old : Vector UInt8 count)
    (enough : last.toNat < count)
    (admitted : memory.spanFault? address (last.toNat + 1) = none) :
    ∃ loaded, memory.loadRegisters address last old = .ok loaded ∧
      loaded.toList = memory.span address (last.toNat + 1) ++ old.toList.drop (last.toNat + 1) := by
  have found : (memory.span address (last.toNat + 1)).length = last.toNat + 1 :=
    length_span last.toNat_lt admitted
  refine ⟨_, loadRegisters_eq_mapIdx old enough admitted, ?_⟩
  apply List.ext_getElem?
  intro place
  rw [List.getElem?_append, found, Vector.getElem?_toList, Vector.getElem?_mapIdx]
  by_cases read : place < last.toNat + 1
  · rw [if_pos read, Vector.getElem?_eq_getElem (by omega), Option.map_some,
      List.getD_eq_getElem?_getD, List.getElem?_eq_getElem (by omega), Option.getD_some]
  · rw [if_neg read, List.getElem?_drop, Nat.add_sub_of_le (by omega), Vector.getElem?_toList]
    -- Behind the bytes that were read, each register gives way to itself.
    cases old[place]? with
    | none => rfl
    | some value =>
        rw [Option.map_some, List.getD_eq_getElem?_getD, List.getElem?_eq_none (by omega)]
        rfl

end Spans

/-! ## Stores -/

/-- What writes to a memory: the first registers of some, or the digits of a byte. -/
inductive Store where
  /-- The first `last + 1` of some registers. -/
  | registers {count : Nat} (address : UInt16) (last : UInt8) (values : Vector UInt8 count)
      (enough : last.toNat < count)
  /-- The decimal digits of a byte. -/
  | digits (address : UInt16) (value : UInt8)

namespace Store

/-- The memory behind a store. -/
def apply (memory : Memory) : Store → Except Stop Memory
  | registers address last values _ => memory.storeRegisters address last values
  | digits address value => memory.storeDigits address value

/-- The address at which a store starts. -/
def address : Store → UInt16
  | registers address .. | digits address _ => address

/-- How many bytes a store writes. -/
def length : Store → Nat
  | registers _ last .. => last.toNat + 1
  | digits .. => 3

/-- The place behind the last byte that a store writes. -/
def behind (store : Store) : Nat := store.address.toNat + store.length

/-- The bytes that a store writes. -/
def data : Store → List UInt8
  | registers _ last values _ => values.toList.take (last.toNat + 1)
  | digits _ value => decimalDigits value

variable {store first second : Store} {memory after both : Memory}

theorem length_data (store : Store) : store.data.length = store.length := by
  cases store with
  | registers address last values enough =>
      rw [data, List.length_take, Vector.length_toList]
      exact Nat.min_eq_left enough
  | digits address value => rfl

theorem length_le (store : Store) : store.length ≤ 256 := by
  cases store with
  | registers address last values enough => exact last.toNat_lt
  | digits address value => exact Nat.le_of_ble_eq_true rfl

/-- The bytes under a store that is not refused are all kept. -/
theorem data_le_size (admitted : memory.spanFault? store.address store.length = none) :
    store.address.toNat + store.data.length ≤ memory.bytes.size := by
  rw [length_data]
  exact span_le_size store.length_le (spanFault?_eq_none_iff.mp admitted)

/-- A store that is not refused lays out its bytes. -/
theorem apply_of_none (admitted : memory.spanFault? store.address store.length = none) :
    store.apply memory = .ok (memory.withOverlay store.address.toNat store.data) := by
  cases store with
  | registers address last values enough => exact storeRegisters_of_none values enough admitted
  | digits address value =>
      have stored : memory.storeDigits address value = _ := storeDigits_of_none admitted
      rw [apply, stored, liftFault_ok]
      rfl

theorem apply_of_some {fault : Fault}
    (outside : memory.spanFault? store.address store.length = some fault) :
    store.apply memory = .error (.fault fault) := by
  cases store with
  | registers address last values enough => exact storeRegisters_of_some values outside
  | digits address value =>
      have refused : memory.storeDigits address value = _ := storeDigits_of_some outside
      rw [apply, refused, liftFault_error]

/-- A store that succeeds was not refused and has laid out its bytes. -/
theorem eq_of_apply (stored : store.apply memory = .ok after) :
    memory.spanFault? store.address store.length = none ∧
      after = memory.withOverlay store.address.toNat store.data := by
  cases refused : memory.spanFault? store.address store.length with
  | some fault =>
      rw [apply_of_some refused] at stored
      cases stored
  | none =>
      rw [apply_of_none refused, Except.ok.injEq] at stored
      exact ⟨rfl, stored.symm⟩

/-- Stores to spans that lie apart can be made in either order. -/
theorem commute (apart : first.behind ≤ second.address.toNat ∨
      second.behind ≤ first.address.toNat)
    (stored : first.apply memory = .ok after) (stored' : second.apply after = .ok both) :
    ∃ other, second.apply memory = .ok other ∧ first.apply other = .ok both := by
  obtain ⟨admitted, rfl⟩ := eq_of_apply stored
  obtain ⟨admitted', rfl⟩ := eq_of_apply stored'
  refine ⟨_, apply_of_none admitted', ?_⟩
  have apart' : first.address.toNat + first.data.length ≤ second.address.toNat ∨
      second.address.toNat + second.data.length ≤ first.address.toNat := by
    rwa [length_data, length_data]
  rw [withOverlay_comm (data_le_size admitted) (data_le_size admitted') apart']
  exact apply_of_none admitted

/-- A store leaves no trace if the next one covers its span. -/
theorem overwrite (starts : second.address.toNat ≤ first.address.toNat)
    (ends : first.behind ≤ second.behind)
    (stored : first.apply memory = .ok after) (stored' : second.apply after = .ok both) :
    second.apply memory = .ok both := by
  obtain ⟨-, rfl⟩ := eq_of_apply stored
  obtain ⟨admitted, rfl⟩ := eq_of_apply stored'
  -- Whether a store is refused does not depend on what another has laid out.
  have admitted' : memory.spanFault? second.address second.length = none := admitted
  have ends' : first.address.toNat + first.data.length ≤
      second.address.toNat + second.data.length := by
    rwa [length_data, length_data]
  rw [withOverlay_of_covered (data_le_size admitted') starts ends']
  exact apply_of_none admitted'

end Store

/-! ## Transfers in place -/

/-- A memory, and registers beside it that are loaded from it. -/
structure Exchange (count : Nat) where
  memory : Memory
  registers : Vector UInt8 count

namespace Exchange

variable {count : Nat} {address : UInt16} {length : Nat} {exchange : Exchange count}

/-- Stop at a span that does not lie inside the memory. -/
def check (address : UInt16) (length : Nat) : EStateM Stop (Exchange count) Unit := do
  let exchange ← MonadState.get
  match exchange.memory.checkSpan address length with
  | .ok () => return ()
  | .error fault => throw (.fault fault)

/-- Put bytes into the memory, one after the other. -/
def putBytes (start : Nat) : List UInt8 → EStateM Stop (Exchange count) Unit
  | [] => return ()
  | byte :: rest => do
      modify fun exchange => { exchange with memory := exchange.memory.withOverlay start [byte] }
      putBytes (start + 1) rest

/-- Put bytes into the registers, one after the other. -/
def putRegisters (start : Nat) : List UInt8 → EStateM Stop (Exchange count) Unit
  | [] => return ()
  | byte :: rest => do
      modify fun exchange =>
        { exchange with registers := exchange.registers.setIfInBounds start byte }
      putRegisters (start + 1) rest

theorem run_check_of_none (inside : exchange.memory.spanFault? address length = none) :
    (check address length).run exchange = .ok () exchange := by
  rw [check, EStateM.run_bind, EStateM.run_get]
  dsimp only
  rw [checkSpan_of_none inside]
  rfl

theorem run_check_of_some {fault : Fault}
    (outside : exchange.memory.spanFault? address length = some fault) :
    (check address length).run exchange = .error (.fault fault) exchange := by
  rw [check, EStateM.run_bind, EStateM.run_get]
  dsimp only
  rw [checkSpan_of_some outside]
  rfl

theorem run_putBytes (exchange : Exchange count) (start : Nat) (data : List UInt8) :
    (putBytes start data).run exchange =
      .ok () { exchange with memory := exchange.memory.withOverlay start data } := by
  induction data generalizing exchange start with
  | nil => rfl
  | cons byte rest ih => exact ih _ (start + 1)

theorem run_putRegisters (exchange : Exchange count) (start : Nat) (data : List UInt8) :
    ∃ registers, (putRegisters start data).run exchange = .ok () { exchange with registers } ∧
      registers.toArray = overlay exchange.registers.toArray start data := by
  induction data generalizing exchange start with
  | nil => exact ⟨exchange.registers, rfl, rfl⟩
  | cons byte rest ih =>
      let put : Exchange count :=
        { exchange with registers := exchange.registers.setIfInBounds start byte }
      exact ih put (start + 1)

end Exchange

/-- What moves bytes: a store, or a load of the first `last + 1` registers. -/
inductive Transfer (count : Nat) where
  | store (store : Store)
  | load (address : UInt16) (last : UInt8) (enough : last.toNat < count)

namespace Transfer

variable {count : Nat}

/-- The address at which a transfer starts. -/
def address : Transfer count → UInt16
  | store given => given.address
  | load address .. => address

/-- How many bytes a transfer moves. -/
def length : Transfer count → Nat
  | store given => given.length
  | load _ last _ => last.toNat + 1

/-- The steps of a transfer in place. What one of them has changed stays changed if a later one
stops. -/
def perform : Transfer count → EStateM Stop (Exchange count) Unit
  | store given => do
      Exchange.check given.address given.length
      Exchange.putBytes given.address.toNat given.data
  | load address last _ => do
      Exchange.check address (last.toNat + 1)
      let exchange ← MonadState.get
      Exchange.putRegisters 0 (exchange.memory.span address (last.toNat + 1))

/-- What is answered to a transfer. -/
def answer (exchange : Exchange count) : Transfer count → Except Stop (Exchange count)
  | store given => return { exchange with memory := ← given.apply exchange.memory }
  | load address last _ => do
      let registers ← exchange.memory.loadRegisters address last exchange.registers
      return { exchange with registers }

variable {transfer : Transfer count} (exchange : Exchange count)

/-- A transfer whose span lies inside the memory reaches in place what is answered to it. -/
theorem run_perform_of_none
    (inside : exchange.memory.spanFault? transfer.address transfer.length = none) :
    ∃ behind, transfer.answer exchange = .ok behind ∧
      transfer.perform.run exchange = .ok () behind := by
  cases transfer with
  | store given =>
      have admitted : exchange.memory.spanFault? given.address given.length = none := inside
      refine ⟨{ exchange with
        memory := exchange.memory.withOverlay given.address.toNat given.data }, ?_, ?_⟩
      · rw [answer, Store.apply_of_none admitted]
        rfl
      · rw [perform, EStateM.run_bind, Exchange.run_check_of_none admitted]
        exact Exchange.run_putBytes exchange given.address.toNat given.data
  | load start last enough =>
      have admitted : exchange.memory.spanFault? start (last.toNat + 1) = none := inside
      obtain ⟨loaded, answered, loaded_eq⟩ :=
        exists_loadRegisters exchange.registers enough admitted
      refine ⟨{ exchange with registers := loaded }, ?_, ?_⟩
      · rw [answer, answered]
        rfl
      · obtain ⟨registers, put, registers_eq⟩ := Exchange.run_putRegisters exchange 0
          (exchange.memory.span start (last.toNat + 1))
        have same : registers = loaded := by
          apply Vector.toList_inj.mp
          have found : (exchange.memory.span start (last.toNat + 1)).length = last.toNat + 1 :=
            length_span last.toNat_lt admitted
          rw [loaded_eq, Vector.toList, registers_eq, toList_overlay, found]
          · rfl
          · rw [found, Vector.size_toArray]
            exact enough
        rw [perform, EStateM.run_bind, Exchange.run_check_of_none admitted]
        dsimp only
        rw [EStateM.run_bind, EStateM.run_get]
        dsimp only
        rw [put, same]

/-- A transfer whose span does not lie inside the memory is refused, and nothing has changed. -/
theorem run_perform_of_some {fault : Fault}
    (outside : exchange.memory.spanFault? transfer.address transfer.length = some fault) :
    transfer.answer exchange = .error (.fault fault) ∧
      transfer.perform.run exchange = .error (.fault fault) exchange := by
  cases transfer with
  | store given =>
      have refused : exchange.memory.spanFault? given.address given.length = some fault := outside
      constructor
      · rw [answer, Store.apply_of_some refused]
        rfl
      · rw [perform, EStateM.run_bind, Exchange.run_check_of_some refused]
  | load start last enough =>
      have refused : exchange.memory.spanFault? start (last.toNat + 1) = some fault := outside
      constructor
      · rw [answer, loadRegisters_of_some exchange.registers refused]
        rfl
      · rw [perform, EStateM.run_bind, Exchange.run_check_of_some refused]

/-- A transfer reaches in place what is answered to it. -/
theorem run_perform_eq : transfer.perform.run exchange =
    match transfer.answer exchange with
    | .ok behind => .ok () behind
    | .error stop => .error stop exchange := by
  cases refused : exchange.memory.spanFault? transfer.address transfer.length with
  | some fault =>
      obtain ⟨answered, stopped⟩ := run_perform_of_some exchange refused
      rw [answered, stopped]
  | none =>
      obtain ⟨behind, answered, reached⟩ := run_perform_of_none exchange refused
      rw [answered, reached]

theorem exists_run_perform_iff : (∃ behind, transfer.perform.run exchange = .ok () behind) ↔
    transfer.address.toNat + transfer.length ≤ exchange.memory.capacity := by
  rw [← spanFault?_eq_none_iff]
  constructor
  · rintro ⟨behind, succeeded⟩
    cases refused : exchange.memory.spanFault? transfer.address transfer.length with
    | some fault =>
        rw [(run_perform_of_some exchange refused).2] at succeeded
        cases succeeded
    | none => rfl
  · intro admitted
    obtain ⟨behind, -, reached⟩ := run_perform_of_none exchange admitted
    exact ⟨behind, reached⟩

theorem eq_of_run_perform {stop : Stop} {behind : Exchange count}
    (failed : transfer.perform.run exchange = .error stop behind) : behind = exchange := by
  rw [run_perform_eq] at failed
  cases answered : transfer.answer exchange with
  | ok reached =>
      rw [answered] at failed
      cases failed
  | error refused =>
      rw [answered] at failed
      cases failed
      rfl

end Transfer

/-! ## How transfers compose -/

/-- What holds of the transfers between a memory and registers, for spans that overlap in any
way. -/
structure TransferLaws (memory : Memory) : Prop where
  /-- Registers that were stored can be loaded again, and those behind them stay. -/
  load_of_store : ∀ {m n : Nat} (address : UInt16) (last : UInt8) (stored : Vector UInt8 m)
    (old : Vector UInt8 n) {after : Memory}, last.toNat < m → last.toNat < n →
    memory.storeRegisters address last stored = .ok after →
    ∃ loaded, after.loadRegisters address last old = .ok loaded ∧
      loaded.toList =
        stored.toList.take (last.toNat + 1) ++ old.toList.drop (last.toNat + 1)
  /-- Registers that were loaded are there already. -/
  store_of_load : ∀ {n : Nat} (address : UInt16) (last : UInt8) (old : Vector UInt8 n)
    {loaded : Vector UInt8 n}, last.toNat < n →
    memory.loadRegisters address last old = .ok loaded →
    memory.storeRegisters address last loaded = .ok memory
  /-- Of registers that were stored, each part can be loaded from its own place. -/
  load_part_of_store : ∀ {m n : Nat} (address inner : UInt16) (last innerLast : UInt8)
    (stored : Vector UInt8 m) (old : Vector UInt8 n) {after : Memory},
    last.toNat < m → innerLast.toNat < n →
    address.toNat ≤ inner.toNat →
    inner.toNat + innerLast.toNat + 1 ≤ address.toNat + last.toNat + 1 →
    memory.storeRegisters address last stored = .ok after →
    ∃ loaded, after.loadRegisters inner innerLast old = .ok loaded ∧
      loaded.toList =
        (stored.toList.drop (inner.toNat - address.toNat)).take (innerLast.toNat + 1) ++
          old.toList.drop (innerLast.toNat + 1)
  /-- Stores to spans that lie apart can be made in either order. -/
  commute : ∀ (first second : Store) {after both : Memory},
    first.behind ≤ second.address.toNat ∨ second.behind ≤ first.address.toNat →
    first.apply memory = .ok after → second.apply after = .ok both →
    ∃ other, second.apply memory = .ok other ∧ first.apply other = .ok both
  /-- A store leaves no trace if the next one covers its span. -/
  overwrite : ∀ (first second : Store) {after both : Memory},
    second.address.toNat ≤ first.address.toNat → first.behind ≤ second.behind →
    first.apply memory = .ok after → second.apply after = .ok both →
    second.apply memory = .ok both
  /-- A transfer reaches in place what is answered to it. -/
  in_place : ∀ {n : Nat} (transfer : Transfer n) (registers : Vector UInt8 n),
    transfer.perform.run ⟨memory, registers⟩ =
      match transfer.answer ⟨memory, registers⟩ with
      | .ok behind => .ok () behind
      | .error stop => .error stop ⟨memory, registers⟩
  /-- Whether a transfer succeeds is decided by its span and the capacity alone. -/
  succeeds_iff : ∀ {n : Nat} (transfer : Transfer n) (registers : Vector UInt8 n),
    (∃ behind, transfer.perform.run ⟨memory, registers⟩ = .ok () behind) ↔
      transfer.address.toNat + transfer.length ≤ memory.capacity
  /-- A transfer that fails has changed nothing, neither in memory nor in the registers. -/
  unchanged_of_error : ∀ {n : Nat} (transfer : Transfer n) (registers : Vector UInt8 n)
    {stop : Stop} {behind : Exchange n},
    transfer.perform.run ⟨memory, registers⟩ = .error stop behind → behind = ⟨memory, registers⟩

variable {memory after : Memory} {m n : Nat}

/-- Of registers that were stored, each part can be loaded from its own place. -/
theorem loadRegisters_of_storeRegisters {address inner : UInt16} {last innerLast : UInt8}
    {stored : Vector UInt8 m} (old : Vector UInt8 n) (enough : last.toNat < m)
    (enough' : innerLast.toNat < n) (starts : address.toNat ≤ inner.toNat)
    (ends : inner.toNat + innerLast.toNat + 1 ≤ address.toNat + last.toNat + 1)
    (succeeds : memory.storeRegisters address last stored = .ok after) :
    ∃ loaded, after.loadRegisters inner innerLast old = .ok loaded ∧
      loaded.toList =
        (stored.toList.drop (inner.toNat - address.toNat)).take (innerLast.toNat + 1) ++
          old.toList.drop (innerLast.toNat + 1) := by
  let store : Store := .registers address last stored enough
  have applied : store.apply memory = .ok after := succeeds
  obtain ⟨admitted, rfl⟩ := Store.eq_of_apply applied
  have length_eq : store.data.length = last.toNat + 1 := store.length_data
  have kept : address.toNat + store.data.length ≤ memory.bytes.size :=
    Store.data_le_size admitted
  have reaches : (memory.withOverlay address.toNat store.data).spanFault? inner
      (innerLast.toNat + 1) = none :=
    spanFault?_eq_none_iff.mpr (Nat.le_trans ends (spanFault?_eq_none_iff.mp admitted))
  obtain ⟨loaded, answered, loaded_eq⟩ := exists_loadRegisters old enough' reaches
  refine ⟨loaded, answered, ?_⟩
  have part : (store.data.drop (inner.toNat - address.toNat)).take (innerLast.toNat + 1) =
      (stored.toList.drop (inner.toNat - address.toNat)).take (innerLast.toNat + 1) := by
    rw [Store.data, List.drop_take, List.take_take, Nat.min_eq_left (by omega)]
  have found : (memory.withOverlay address.toNat store.data).span inner (innerLast.toNat + 1) = _ :=
    span_withOverlay kept starts (by omega)
  rw [loaded_eq, ← part, ← found]

/-- Registers that were loaded are there already. -/
theorem storeRegisters_of_loadRegisters {address : UInt16} {last : UInt8}
    {old loaded : Vector UInt8 n} (enough : last.toNat < n)
    (succeeds : memory.loadRegisters address last old = .ok loaded) :
    memory.storeRegisters address last loaded = .ok memory := by
  cases refused : memory.spanFault? address (last.toNat + 1) with
  | some fault =>
      rw [loadRegisters_of_some old refused] at succeeds
      cases succeeds
  | none =>
      obtain ⟨found, answered, found_eq⟩ := exists_loadRegisters old enough refused
      obtain rfl : found = loaded := Except.ok.inj (answered.symm.trans succeeds)
      rw [storeRegisters_of_none found enough refused, found_eq,
        List.take_left' (length_span last.toNat_lt refused), withOverlay_span last.toNat_lt refused]

/-- Transfers between a memory and registers obey the laws: whatever is stored can be loaded
again, what is there already need not be stored, stores apart from each other commute, a later
store hides an earlier one that it covers, and a refused transfer changes nothing. -/
theorem transfers_compose (memory : Memory) : memory.TransferLaws where
  load_of_store address last stored old after enough enough' succeeds := by
    have whole := loadRegisters_of_storeRegisters old enough enough' (Nat.le_refl _)
      (Nat.le_refl _) succeeds
    rwa [Nat.sub_self, List.drop_zero] at whole
  store_of_load _ _ _ _ enough succeeds := storeRegisters_of_loadRegisters enough succeeds
  load_part_of_store _ _ _ _ _ old _ enough enough' starts ends succeeds :=
    loadRegisters_of_storeRegisters old enough enough' starts ends succeeds
  commute _ _ _ _ apart stored stored' := Store.commute apart stored stored'
  overwrite _ _ _ _ starts ends stored stored' := Store.overwrite starts ends stored stored'
  in_place transfer registers := Transfer.run_perform_eq ⟨memory, registers⟩
  succeeds_iff transfer registers := Transfer.exists_run_perform_iff ⟨memory, registers⟩
  unchanged_of_error transfer registers stop behind failed :=
    Transfer.eq_of_run_perform ⟨memory, registers⟩ failed

/-- Two of four registers are loaded from the middle of where they were stored. -/
theorem transfers_compose_of_part :
    ∃ after, (zeros 8).storeRegisters 2 3 #v[11, 12, 13, 14] = .ok after ∧
      ∃ loaded, after.loadRegisters 3 1 #v[1, 2, 3] = .ok loaded ∧
        loaded.toList = [12, 13, 3] := by
  have admitted : (zeros 8).spanFault? 2 ((3 : UInt8).toNat + 1) = none := by decide
  have stored := storeRegisters_of_none #v[11, 12, 13, 14] (by decide) admitted
  exact ⟨_, stored, (transfers_compose (zeros 8)).load_part_of_store 2 3 3 1 _ #v[1, 2, 3]
    (by decide) (by decide) (by decide) (by decide) stored⟩

end Memory

end Chip8
