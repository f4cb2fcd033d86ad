/-
# Command lines in any order

A command line that says everything at most once is read as what it says, whatever the order of
its entries: `Choices` has no order, and all arrangements of its entries are read alike. This rests
on two facts. Reading entries about different things gives what each of them says, and what two
such entries say can be given in either order.

A command line that is about one thing twice is never accepted. The first repetition is refused,
unless it was only put aside and a second path comes right behind it.
-/

import Chip8.Proofs.CommandLine.Reading
import Mathlib.Data.List.Induction
import Mathlib.Data.List.Nodup
import Mathlib.Data.List.ReduceOption

namespace Chip8.CommandLine

/-! ## The rest of a command line -/

namespace Reading

variable {reading : Reading} {error : UsageError}

/-- Read the arguments that are left. -/
def finish (reading : Reading) (rest : List String) : Except UsageError Arguments :=
  rest.foldlM read reading >>= fun final => final.settle >>= Given.arguments

theorem finish_append (reading : Reading) (first rest : List String) :
    reading.finish (first ++ rest) = first.foldlM read reading >>= (·.finish rest) := by
  rw [finish, List.foldlM_append, bind_assoc]
  rfl

/-- A reading that fails never ends well. Only a second path comes before its own error. -/
theorem Fails.finish (fails : reading.Fails error) (rest : List Entry) :
    reading.finish (rest.flatMap Entry.words) = .error error ∨
      ∃ entry ∈ rest, entry.option? = none ∧ reading.romSeen = true ∧
        reading.finish (rest.flatMap Entry.words) = .error entry.refusal := by
  cases rest with
  | nil =>
      refine .inl ?_
      rw [Reading.finish, List.flatMap_nil, List.foldlM_nil, pure_bind, fails.settle_eq, error_bind]
  | cons entry others =>
      rw [List.flatMap_cons, finish_append]
      rcases fails.read entry with refused | ⟨seen, unnamed, refused⟩
      · exact .inl (by rw [refused, error_bind])
      · exact .inr ⟨entry, List.mem_cons_self, unnamed, seen, by rw [refused, error_bind]⟩

end Reading

theorem parse_eq_finish (arguments : List String) :
    parse arguments = ({} : Reading).finish arguments :=
  rfl

/-! ## Entries about different things -/

/-- Behind entries that are all about different things, everything that they say is given. -/
theorem read_of_nodup {entries : List Entry} (distinct : (entries.map Entry.option?).Nodup) :
    ∃ next, (entries.flatMap Entry.words).foldlM Reading.read {} = .ok next ∧
      next.Holds (entries.foldl Given.add {}) :=
  Reading.holds_empty.read_entries (fun entry _ => Given.mentions_empty entry.option?) distinct

theorem parse_of_nodup {entries : List Entry} (distinct : (entries.map Entry.option?).Nodup) :
    parse (entries.flatMap Entry.words) = (entries.foldl Given.add {}).arguments := by
  obtain ⟨next, read, holds⟩ := read_of_nodup distinct
  rw [parse_eq_finish, Reading.finish, read, ok_bind, holds.settle_eq, ok_bind]

/-! ## Entries about the same thing -/

/-- Where a list has repetitions, there is a first of them. -/
theorem exists_first_repetition {α β : Type} {key : α → β} {items : List α}
    (repeated : ¬ (items.map key).Nodup) :
    ∃ first again rest, items = first ++ again :: rest ∧ (first.map key).Nodup ∧
      key again ∈ first.map key := by
  induction items using List.reverseRecOn with
  | nil => exact absurd List.nodup_nil repeated
  | append_singleton items last ih =>
      by_cases distinct : (items.map key).Nodup
      · refine ⟨items, last, [], rfl, distinct, ?_⟩
        by_contra new
        exact repeated (by simpa [List.nodup_append, distinct] using new)
      · obtain ⟨first, again, rest, rfl, first_distinct, listed⟩ := ih distinct
        exact ⟨first, again, rest ++ [last], by simp, first_distinct, listed⟩

/-- If two entries are about the same thing, reading fails with the error of such an entry. -/
theorem parse_of_not_nodup {entries : List Entry}
    (repeated : ¬ (entries.map Entry.option?).Nodup) :
    ∃ entry ∈ entries, 2 ≤ (entries.map Entry.option?).count entry.option? ∧
      parse (entries.flatMap Entry.words) = .error entry.refusal := by
  obtain ⟨first, again, rest, rfl, distinct, listed⟩ := exists_first_repetition repeated
  have twice : ∀ entry ∈ again :: rest, entry.option? ∈ first.map Entry.option? →
      2 ≤ ((first ++ again :: rest).map Entry.option?).count entry.option? := by
    intro entry behind before
    have here := List.count_pos_iff.mpr before
    have there := List.count_pos_iff.mpr (List.mem_map_of_mem (f := Entry.option?) behind)
    rw [List.map_append, List.count_append]
    omega
  obtain ⟨next, read, holds⟩ := read_of_nodup distinct
  have told : (first.foldl Given.add {}).mentions again.option? = true :=
    (Given.mentions_foldl_add _ _ _).mpr (.inr listed)
  have parsed : parse ((first ++ again :: rest).flatMap Entry.words) =
      again.words.foldlM Reading.read next >>= (·.finish (rest.flatMap Entry.words)) := by
    rw [parse_eq_finish, List.flatMap_append, Reading.finish_append, read, ok_bind,
      List.flatMap_cons, Reading.finish_append]
  rw [parsed]
  rcases holds.read_again told with refused | ⟨stuck, taken, fails, seen_eq⟩
  · exact ⟨again, by simp, twice again (by simp) listed, by rw [refused, error_bind]⟩
  rw [taken, ok_bind]
  -- The entry has been put aside. It is refused with the next one, or at the end.
  rcases fails.finish rest with refused | ⟨entry, behind, unnamed, seen, refused⟩
  · exact ⟨again, by simp, twice again (by simp) listed, refused⟩
  · rw [seen_eq, holds.romSeen_eq, ← unnamed] at seen
    have path_listed : entry.option? ∈ first.map Entry.option? := by
      simpa [Given.mentions_foldl_add, Given.mentions_empty] using seen
    have entry_behind : entry ∈ again :: rest := List.mem_cons_of_mem again behind
    exact ⟨entry, List.mem_append_right first entry_behind, twice entry entry_behind path_listed,
      refused⟩

/-! ## Orders -/

/-- Entries about different things may change places. -/
theorem Given.add_comm (given : Given) {first second : Entry}
    (different : first.option? ≠ second.option?) :
    (given.add first).add second = (given.add second).add first := by
  rcases first with path | ⟨setting, value, spelling⟩ | switch <;>
    rcases second with path' | ⟨setting', value', spelling'⟩ | switch'
  · exact absurd rfl different
  · cases setting' <;> rfl
  · cases switch' <;> rfl
  · cases setting <;> rfl
  · cases setting <;> cases setting' <;> simp_all [add, put, Entry.option?]
  · cases setting <;> cases switch' <;> rfl
  · cases switch <;> rfl
  · cases switch <;> cases setting' <;> rfl
  · cases switch <;> cases switch' <;> simp_all [add, Entry.option?]

/-- What entries about different things say does not depend on their order. -/
theorem Given.foldl_add_of_perm {entries order : List Entry} (perm : order.Perm entries)
    (distinct : (entries.map Entry.option?).Nodup) (given : Given) :
    order.foldl add given = entries.foldl add given := by
  refine (perm.symm.foldl_eq' ?_ given).symm
  intro first first_listed second second_listed before
  by_cases same : first.option? = second.option?
  · rw [List.inj_on_of_nodup_map distinct first_listed second_listed same]
  · exact before.add_comm same

/-! ## Choices -/

/-- What a user may want to say: a path, and of each option whether it is there, with its value and
the spelling of it. -/
structure Choices where
  rom : RomPath
  ips : Option (Number × Spelling .ips) := none
  scale : Option (WindowScale × Spelling .scale) := none
  refreshRate : Option (Number × Spelling .refreshRate) := none
  legacyShift : Bool := false
  modernJump : Bool := false
  mute : Bool := false

namespace Choices

/-- The entries that say what was chosen, in one of the orders. -/
def entries (choices : Choices) : List Entry :=
  [some (.rom choices.rom),
    choices.ips.map fun (number, spelling) => .assign .ips number spelling,
    choices.scale.map fun (size, spelling) => .assign .scale size spelling,
    choices.refreshRate.map fun (number, spelling) => .assign .refreshRate number spelling,
    if choices.legacyShift then some (.enable .legacyShift) else none,
    if choices.modernJump then some (.enable .modernJump) else none,
    if choices.mute then some (.enable .mute) else none].reduceOption

/-- What was chosen, and for the rest what the program chooses by itself. -/
def arguments (choices : Choices) : Arguments where
  rom := choices.rom.text
  ips := choices.ips.elim 500 fun (number, _) => number.value
  legacyShift := choices.legacyShift
  modernJump := choices.modernJump
  scale := choices.scale.elim .x16 fun (size, _) => size
  refreshRate := choices.refreshRate.elim 60 fun (number, _) => number.value
  mute := choices.mute

theorem nodup_entries (choices : Choices) : (choices.entries.map Entry.option?).Nodup := by
  rcases choices with ⟨rom, _ | ips, _ | scale, _ | rate, _ | _, _ | _, _ | _⟩ <;>
    simp [entries, Entry.option?]

theorem arguments_foldl_entries (choices : Choices) :
    (choices.entries.foldl Given.add {}).arguments = .ok choices.arguments := by
  rcases choices with ⟨rom, _ | ips, _ | scale, _ | rate, _ | _, _ | _, _ | _⟩ <;> rfl

end Choices

/-- A command line may say what was chosen in any order, with each option in any of its spellings:
it is read as what was chosen, with the values that the program chooses by itself for the options
that are not there. A command line that is about an option twice, or has two paths, whatever else
it says and in which order, is refused because of what is there twice. -/
theorem parse_entries_in_any_order :
    (∀ (choices : Choices) (order : List Entry), order.Perm choices.entries →
      parse (order.flatMap Entry.words) = .ok choices.arguments) ∧
    ∀ entries : List Entry, ¬ (entries.map Entry.option?).Nodup →
      ∃ entry ∈ entries, 2 ≤ (entries.map Entry.option?).count entry.option? ∧
        parse (entries.flatMap Entry.words) = .error entry.refusal := by
  refine ⟨?_, fun entries => parse_of_not_nodup⟩
  intro choices order perm
  have distinct := choices.nodup_entries
  have order_distinct : (order.map Entry.option?).Nodup := (perm.map _).nodup_iff.mpr distinct
  rw [parse_of_nodup order_distinct, Given.foldl_add_of_perm perm distinct,
    choices.arguments_foldl_entries]

/-- Three options behind each other in three spellings, with the path at the end, and a scale that
is given twice. -/
theorem parse_entries_of_reversed :
    parse ["--mute", "-s8", "--ips", "+0700", "game.ch8"] =
        .ok { rom := "game.ch8", ips := 700, scale := .x8, mute := true } ∧
      parse ["--scale=8", "game.ch8", "-s", "4", "--mute"] = .error (.repeated (.setting .scale)) := by
  let rom : RomPath := ⟨"game.ch8", by decide, by decide⟩
  let choices : Choices := {
    rom
    ips := some (⟨700, true, 1⟩, .named)
    scale := some (.x8, .letteredClose)
    mute := true }
  let twice : List Entry :=
    [.assign .scale .x8 .namedEqual, .rom rom, .assign .scale .x4 .lettered, .enable .mute]
  obtain ⟨accepted, refused⟩ := parse_entries_in_any_order
  constructor
  · exact accepted choices choices.entries.reverse (List.reverse_perm _)
  · obtain ⟨entry, listed, often, error_eq⟩ := refused twice (by decide)
    have refusal_eq : entry.refusal = .repeated (.setting .scale) := by
      simp only [twice, List.mem_cons, List.not_mem_nil, or_false] at listed
      rcases listed with rfl | rfl | rfl | rfl
      · rfl
      · exact absurd often (by decide)
      · rfl
      · exact absurd often (by decide)
    exact error_eq.trans (congrArg Except.error refusal_eq)

end Chip8.CommandLine
