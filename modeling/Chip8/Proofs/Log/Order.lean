/-
# The order of records

While a machine ticks, each record is about the instruction that was fetched last. A report of
fetching comes first. Behind it stands a warning if the word means nothing, and a note if the
instruction waits for a key and has seen one go down or come up. From the first of these notes
to the second, the instruction that waits is all that is fetched.

`Orderly` says so for records that begin while a key is latched, or while none is. What a reader
of the log can rely on follows from it: which warnings there are and where, that the two kinds
of notes alternate and name the same key in pairs, and what stands between them.
-/

import Chip8.Log
import Mathlib.Tactic.Common

namespace Chip8

/-- A key that is latched, and the instruction that waits for it to come up. -/
structure KeyWait where
  /-- The key. -/
  key : UInt8
  /-- Where the instruction stands. -/
  address : UInt16
  /-- Its word. -/
  op : Opcode
  /-- The register that it names. -/
  x : UInt8

/-- The report of fetching the instruction that waits. -/
def KeyWait.report (wait : KeyWait) : LogRecord :=
  .fetched wait.address wait.op (.awaitKey wait.x)

/-- The records that ticks can write, while a key is latched or none is. -/
inductive Orderly : Option KeyWait → List LogRecord → Prop where
  /-- Nothing has been written. -/
  | nil {waiting : Option KeyWait} : Orderly waiting []
  /-- An instruction was fetched, and there is nothing more to say. -/
  | fetched {address : UInt16} {op : Opcode} {instruction : Instruction}
      {rest : List LogRecord} (known : ∀ word, instruction ≠ .unknown word)
      (behind : Orderly none rest) : Orderly none (.fetched address op instruction :: rest)
  /-- A word was fetched that means nothing. -/
  | unknown {address : UInt16} {op : Opcode} {rest : List LogRecord}
      (behind : Orderly none rest) :
      Orderly none (.fetched address op (.unknown op) :: .unknownWord op address :: rest)
  /-- A key went down. -/
  | latched {wait : KeyWait} {rest : List LogRecord} (behind : Orderly (some wait) rest) :
      Orderly none (wait.report :: .keyLatched wait.key :: rest)
  /-- The key is still down. -/
  | waited {wait : KeyWait} {rest : List LogRecord} (behind : Orderly (some wait) rest) :
      Orderly (some wait) (wait.report :: rest)
  /-- The key came up. -/
  | resolved {wait : KeyWait} {rest : List LogRecord} (behind : Orderly none rest) :
      Orderly (some wait) (wait.report :: .keyResolved wait.key :: rest)

/-! ## Warnings -/

/-- Each warning is about the word that was fetched right before it, which means nothing, and
each report of such a word is followed by its warning. -/
structure WarnsOfUnknown (records : List LogRecord) : Prop where
  of_warning : ∀ before warning after, records = before ++ warning :: after →
    warning.severity = .warn →
      ∃ earlier address op, before = earlier ++ [.fetched address op (.unknown op)] ∧
        warning = .unknownWord op address
  of_unknown : ∀ before address op word after,
    records = before ++ .fetched address op (.unknown word) :: after →
      ∃ later, after = .unknownWord op address :: later

namespace WarnsOfUnknown

variable {records : List LogRecord}

theorem nil : WarnsOfUnknown [] :=
  ⟨fun _ _ _ split => by simp at split, fun _ _ _ _ _ split => by simp at split⟩

/-- In front of such records there may stand any that neither warns nor asks for a warning. -/
theorem cons (warns : WarnsOfUnknown records) {record : LogRecord}
    (calm : record.severity ≠ .warn)
    (known : ∀ address op word, record ≠ .fetched address op (.unknown word)) :
    WarnsOfUnknown (record :: records) := by
  constructor
  · intro before warning after split warned
    rcases List.cons_eq_append_iff.mp split with ⟨rfl, here⟩ | ⟨before, rfl, there⟩
    · cases here
      exact absurd warned calm
    · obtain ⟨earlier, address, op, rfl, same⟩ := warns.of_warning _ _ _ there warned
      exact ⟨record :: earlier, address, op, rfl, same⟩
  · intro before address op word after split
    rcases List.cons_eq_append_iff.mp split with ⟨rfl, here⟩ | ⟨before, rfl, there⟩
    · cases here
      exact absurd rfl (known address op word)
    · exact warns.of_unknown _ _ _ _ _ there

/-- So may a report that asks for a warning, together with it. -/
theorem unknown (warns : WarnsOfUnknown records) (address : UInt16) (op : Opcode) :
    WarnsOfUnknown (.fetched address op (.unknown op) :: .unknownWord op address :: records) := by
  constructor
  · intro before warning after split warned
    rcases List.cons_eq_append_iff.mp split with ⟨rfl, here⟩ | ⟨before, rfl, there⟩
    · cases here
      cases warned
    rcases List.cons_eq_append_iff.mp there with ⟨rfl, here⟩ | ⟨before, rfl, behind⟩
    · cases here
      exact ⟨[], address, op, rfl, rfl⟩
    · obtain ⟨earlier, address', op', rfl, same⟩ := warns.of_warning _ _ _ behind warned
      exact ⟨_ :: _ :: earlier, address', op', rfl, same⟩
  · intro before address' op' word after split
    rcases List.cons_eq_append_iff.mp split with ⟨rfl, here⟩ | ⟨before, rfl, there⟩
    · cases here
      exact ⟨records, rfl⟩
    rcases List.cons_eq_append_iff.mp there with ⟨rfl, here⟩ | ⟨before, rfl, behind⟩
    · cases here
    · exact warns.of_unknown _ _ _ _ _ behind

end WarnsOfUnknown

theorem Orderly.warnsOfUnknown {waiting : Option KeyWait} {records : List LogRecord}
    (orderly : Orderly waiting records) : WarnsOfUnknown records := by
  induction orderly with
  | nil => exact .nil
  | fetched known _ ih =>
      apply ih.cons (by simp [LogRecord.severity])
      rintro address op word ⟨⟩
      exact known word rfl
  | unknown _ ih => exact ih.unknown _ _
  | latched _ ih | resolved _ ih =>
      apply (ih.cons _ _).cons <;> simp [LogRecord.severity, KeyWait.report]
  | waited _ ih => apply ih.cons <;> simp [LogRecord.severity, KeyWait.report]

/-! ## Notes -/

/-- Keys are latched and resolved in turn, and what is resolved is the key that was latched. -/
def Alternates : List LogRecord → Prop
  | [] => True
  | [.keyLatched _] => True
  | .keyLatched key :: .keyResolved key' :: rest => key' = key ∧ Alternates rest
  | _ => False

/-- The notes among some records. -/
def notes (records : List LogRecord) : List LogRecord := records.filter (·.severity = .debug)

theorem Orderly.alternates {waiting : Option KeyWait} {records : List LogRecord}
    (orderly : Orderly waiting records) :
    Alternates (waiting.toList.map (.keyLatched ·.key) ++ notes records) := by
  induction orderly with
  | @nil waiting => cases waiting <;> trivial
  | fetched _ _ ih => exact ih
  | unknown _ ih => exact ih
  | latched _ ih => exact ih
  | waited _ ih => exact ih
  | resolved _ ih => exact ⟨rfl, ih⟩

/-- From the note that a key is latched to the next one, nothing is fetched but the instruction
that was fetched right before the first, and from the same address. -/
def WaitsInPlace (records : List LogRecord) : Prop :=
  ∀ before key between key' after,
    records = before ++ .keyLatched key :: (between ++ .keyResolved key' :: after) →
    (∀ record ∈ between, record.severity ≠ .debug) →
      ∃ earlier address op x, before = earlier ++ [.fetched address op (.awaitKey x)] ∧
        ∀ record ∈ between, record = .fetched address op (.awaitKey x)

namespace WaitsInPlace

variable {records : List LogRecord}

theorem cons (waits : WaitsInPlace records) {record : LogRecord}
    (other : ∀ key, record ≠ .keyLatched key) : WaitsInPlace (record :: records) := by
  intro before key between key' after split quiet
  rcases List.cons_eq_append_iff.mp split with ⟨rfl, here⟩ | ⟨before, rfl, there⟩
  · cases here
    exact absurd rfl (other key)
  · obtain ⟨earlier, address, op, x, rfl, same⟩ := waits _ _ _ _ _ there quiet
    exact ⟨record :: earlier, address, op, x, rfl, same⟩

theorem latched (waits : WaitsInPlace records) {wait : KeyWait}
    (stays : ∀ between key after, records = between ++ .keyResolved key :: after →
      (∀ record ∈ between, record.severity ≠ .debug) → ∀ record ∈ between, record = wait.report) :
    WaitsInPlace (wait.report :: .keyLatched wait.key :: records) := by
  intro before key between key' after split quiet
  rcases List.cons_eq_append_iff.mp split with ⟨rfl, here⟩ | ⟨before, rfl, there⟩
  · cases here
  rcases List.cons_eq_append_iff.mp there with ⟨rfl, here⟩ | ⟨before, rfl, behind⟩
  · obtain ⟨-, behind⟩ := List.cons.inj here
    exact ⟨[], _, _, _, rfl, stays between key' after behind.symm quiet⟩
  · obtain ⟨earlier, address, op, x, rfl, same⟩ := waits _ _ _ _ _ behind quiet
    exact ⟨_ :: _ :: earlier, address, op, x, rfl, same⟩

end WaitsInPlace

/-- While a key is latched, nothing is fetched but the instruction that waits. -/
theorem Orderly.eq_report_of_latched {waiting : Option KeyWait} {records : List LogRecord}
    (orderly : Orderly waiting records) {wait : KeyWait} (latched : waiting = some wait) :
    ∀ between key after, records = between ++ .keyResolved key :: after →
      (∀ record ∈ between, record.severity ≠ .debug) →
        ∀ record ∈ between, record = wait.report := by
  induction orderly with
  | nil =>
      intro between key after split
      simp at split
  | fetched | unknown | latched => cases latched
  | waited _ ih =>
      obtain rfl := Option.some.inj latched
      intro between key after split quiet
      rcases List.cons_eq_append_iff.mp split with ⟨rfl, here⟩ | ⟨between, rfl, there⟩
      · cases here
      · have still := ih latched between key after there fun record listed =>
          quiet record (List.mem_cons_of_mem _ listed)
        simpa using still
  | @resolved held _ _ _ =>
      obtain rfl := Option.some.inj latched
      intro between key after split quiet
      rcases List.cons_eq_append_iff.mp split with ⟨rfl, here⟩ | ⟨between, rfl, there⟩
      · cases here
      rcases List.cons_eq_append_iff.mp there with ⟨rfl, here⟩ | ⟨between, rfl, behind⟩
      · simp
      · exact absurd rfl (quiet (.keyResolved held.key) (by simp))

theorem Orderly.waitsInPlace {waiting : Option KeyWait} {records : List LogRecord}
    (orderly : Orderly waiting records) : WaitsInPlace records := by
  induction orderly with
  | nil =>
      intro before key between key' after split
      simp at split
  | fetched _ _ ih => exact ih.cons (by simp)
  | unknown _ ih => exact (ih.cons (by simp)).cons (by simp)
  | latched behind ih => exact ih.latched (behind.eq_report_of_latched rfl)
  | waited _ ih => exact ih.cons (by simp [KeyWait.report])
  | resolved _ ih => exact (ih.cons (by simp)).cons (by simp [KeyWait.report])

end Chip8
