/-
# What a command line can say

A command line says some things, each in one or two arguments: the path of the program, what a
setting is to be, that a switch is to be on. An `Entry` is one of them, together with the way in
which it is written. Numbers may have a plus and zeros before them. The value of a setting may
stand behind the name as an argument of its own or behind an equals sign, and the scale can also
be given by its letter.

What reading does with the arguments of one entry does not depend on the way in which they are
written, but for the time at which the entry is settled: at once, or when the next one is read.
-/

import Chip8.CommandLine.Parser
import Chip8.Proofs.Outcome
import Chip8.Proofs.Text.Numeral

namespace Chip8.CommandLine

/-! ## Values and their texts -/

/-- A number as it is written. -/
structure Number where
  value : UInt32
  /-- Whether there is a plus before it. -/
  plus : Bool := false
  /-- How many zeros are before its digits. -/
  zeros : Nat := 0

def Number.text (number : Number) : String :=
  Text.numeral number.plus number.zeros number.value.toNat

/-- What a setting can be. -/
def Setting.Value : Setting → Type
  | .ips | .refreshRate => Number
  | .scale => WindowScale

/-- The value of a setting as it is written. -/
def Setting.text : (setting : Setting) → setting.Value → String
  | .ips, number | .refreshRate, number => Number.text number
  | .scale, size => WindowScale.value size

/-- The path of a program, if it can be told from an option. -/
structure RomPath where
  text : String
  ne_empty : text ≠ ""
  no_hyphen : text.toList.head? ≠ some '-'

theorem Number.exists_text_eq_cons (number : Number) :
    ∃ c rest, number.text.toList = c :: rest ∧ c ≠ '-' ∧ c ≠ '=' := by
  obtain ⟨c, rest, text_eq, isFirst⟩ :=
    Text.exists_toList_numeral_eq_cons number.plus number.zeros number.value.toNat
  refine ⟨c, rest, text_eq, ?_, ?_⟩ <;> rintro rfl <;> simp at isFirst

/-- The text of a value begins neither with a hyphen nor with an equals sign. -/
theorem Setting.exists_text_eq_cons {setting : Setting} (value : setting.Value) :
    ∃ c rest, (setting.text value).toList = c :: rest ∧ c ≠ '-' ∧ c ≠ '=' := by
  cases setting with
  | ips => exact Number.exists_text_eq_cons value
  | refreshRate => exact Number.exists_text_eq_cons value
  | scale => cases value <;> exact ⟨_, _, rfl, by decide, by decide⟩

theorem parseNumber_text (setting : Setting) (number : Number) :
    parseNumber setting number.text = .ok number.value := by
  have small := number.value.toNat_lt
  have read : Text.parseInteger number.text = .ok (number.value.toNat : Int) :=
    Text.parseInteger_numeral _ _ (by omega)
  have inRange : (0 : Int) ≤ number.value.toNat ∧ (number.value.toNat : Int) < 0x100000000 := by
    omega
  simp only [parseNumber, read, if_pos inRange, Int.toNat_natCast, UInt32.ofNat_toNat]

theorem parseScale_value (scale : WindowScale) : parseScale scale.value = .ok scale := by
  cases scale <;> decide

/-! ## Arguments and their forms -/

theorem LongOption.mem_all (option : LongOption) : option ∈ LongOption.all := by
  rcases option with setting | switch | notice
  · cases setting <;> decide
  · cases switch <;> decide
  · cases notice <;> decide

theorem LongOption.ofName?_name (option : LongOption) :
    LongOption.ofName? option.name = some option :=
  (by decide : ∀ option ∈ all, ofName? option.name = some option) option option.mem_all

namespace Token

theorem splitAtEquals_append {name : List Char} (unequal : '=' ∉ name) (value : List Char) :
    splitAtEquals (name ++ '=' :: value) = (name, some value) := by
  induction name with
  | nil => rfl
  | cons c rest ih =>
      have other : c ≠ '=' := fun same => unequal (same ▸ List.mem_cons_self)
      simp [splitAtEquals, ih fun listed => unequal (List.mem_cons_of_mem c listed)]

theorem ofArgument_of_cons {text : String} {c : Char} {rest : List Char}
    (text_eq : text.toList = c :: rest) (noHyphen : c ≠ '-') : ofArgument text = .plain text := by
  rw [ofArgument, text_eq]
  split <;> simp_all

theorem ofArgument_named (option : LongOption) :
    ofArgument ("--" ++ option.name) = .long option.name none :=
  (by decide : ∀ option ∈ LongOption.all, ofArgument ("--" ++ option.name) = .long option.name none)
    option option.mem_all

theorem ofArgument_namedEqual (option : LongOption) (value : String) :
    ofArgument ("--" ++ option.name ++ "=" ++ value) = .long option.name (some value) := by
  have unequal : '=' ∉ option.name.toList :=
    (by decide : ∀ option ∈ LongOption.all, '=' ∉ option.name.toList) option option.mem_all
  have cut := splitAtEquals_append unequal value.toList
  obtain ⟨c, rest, cons_eq⟩ :=
    List.exists_cons_of_ne_nil (List.append_ne_nil_of_right_ne_nil option.name.toList
      (List.cons_ne_nil '=' value.toList))
  have argument_eq : ("--" ++ option.name ++ "=" ++ value).toList = '-' :: '-' :: c :: rest := by
    simp [← cons_eq]
  rw [cons_eq] at cut
  rw [ofArgument, argument_eq]
  change Token.long (String.ofList (splitAtEquals (c :: rest)).1) _ = _
  simp [cut]

/-- Whatever is behind the letter of the scale comes with it. -/
theorem ofArgument_lettered (rest : String) :
    ofArgument ("-s" ++ rest) = .short 's' rest.toList := by
  have argument_eq : ("-s" ++ rest).toList = '-' :: 's' :: rest.toList := by simp
  rw [ofArgument, argument_eq]
  rfl

end Token

/-! ## Entries -/

/-- The ways to write that a setting is to have a value. -/
inductive Spelling : Setting → Type where
  /-- The value is an argument of its own behind the name. -/
  | named {setting : Setting} : Spelling setting
  /-- The value is behind the name and an equals sign. -/
  | namedEqual {setting : Setting} : Spelling setting
  /-- The value is an argument of its own behind the letter. -/
  | lettered : Spelling .scale
  /-- The value is right behind the letter. -/
  | letteredClose : Spelling .scale
  /-- The value is behind the letter and an equals sign. -/
  | letteredEqual : Spelling .scale

namespace Spelling

variable {setting : Setting}

/-- The arguments of a spelling. -/
def words (spelling : Spelling setting) (value : String) : List String :=
  let name := "--" ++ (LongOption.setting setting).name
  match spelling with
  | .named => [name, value]
  | .namedEqual => [name ++ "=" ++ value]
  | .lettered => ["-s", value]
  | .letteredClose => ["-s" ++ value]
  | .letteredEqual => ["-s=" ++ value]

/-- Whether the value is an argument of its own. -/
def isApart : Spelling setting → Bool
  | .named | .lettered => true
  | .namedEqual | .letteredClose | .letteredEqual => false

end Spelling

/-- One of the things that a command line says. -/
inductive Entry where
  | rom (path : RomPath)
  | assign (setting : Setting) (value : setting.Value) (spelling : Spelling setting)
  | enable (switch : Switch)

namespace Entry

/-- The arguments of an entry. -/
def words : Entry → List String
  | .rom path => [path.text]
  | .assign setting value spelling => spelling.words (setting.text value)
  | .enable switch => ["--" ++ (LongOption.switch switch).name]

/-- The option that an entry names. The path has no name. -/
def option? : Entry → Option LongOption
  | .rom _ => none
  | .assign setting _ _ => some (.setting setting)
  | .enable switch => some (.switch switch)

/-- The error of an entry that says something again. -/
def refusal : Entry → UsageError
  | .rom path => .unknownArgument path.text
  | .assign setting _ _ => .repeated (.setting setting)
  | .enable switch => .repeated (.switch switch)

end Entry

namespace Given

/-- Whether an option, or the path, has been given. -/
def mentions (given : Given) : Option LongOption → Bool
  | none => given.rom.isSome
  | some (.setting setting) => given.has setting
  | some (.switch switch) => given.isOn switch
  | some (.notice _) => false

/-- Give a setting a value. -/
def put (given : Given) : (setting : Setting) → setting.Value → Given
  | .ips, number => { given with ips := some (Number.value number) }
  | .scale, size => { given with scale := some size }
  | .refreshRate, number => { given with refreshRate := some (Number.value number) }

/-- Give what an entry says. -/
def add (given : Given) : Entry → Given
  | .rom path => { given with rom := some path.text }
  | .assign setting value _ => given.put setting value
  | .enable .legacyShift => { given with legacyShift := true }
  | .enable .modernJump => { given with modernJump := true }
  | .enable .mute => { given with mute := true }

/-- What has been given behind an entry is what it names and what had been given before. -/
theorem mentions_add (given : Given) (entry : Entry) (option : Option LongOption) :
    (given.add entry).mentions option = (given.mentions option || entry.option? == option) := by
  rcases option with _ | setting | switch | notice
  · rcases entry with path | ⟨setting, value, spelling⟩ | switch
    · simp [add, mentions, Entry.option?]
    · cases setting <;> simp [add, put, mentions, Entry.option?]
    · cases switch <;> simp [add, mentions, Entry.option?]
  · rcases entry with path | ⟨setting', value, spelling⟩ | switch
    · cases setting <;> simp [add, mentions, has, Entry.option?]
    · cases setting <;> cases setting' <;> simp [add, put, mentions, has, Entry.option?]
      rfl
    · cases setting <;> cases switch <;> simp [add, mentions, has, Entry.option?]
  · rcases entry with path | ⟨setting, value, spelling⟩ | switch'
    · cases switch <;> simp [add, mentions, isOn, Entry.option?]
    · cases switch <;> cases setting <;> simp [add, put, mentions, isOn, Entry.option?]
    · cases switch <;> cases switch' <;> simp [add, mentions, isOn, Entry.option?]
  · rcases entry with path | ⟨setting, value, spelling⟩ | switch <;>
      simp [mentions, Entry.option?]

/-- A setting takes a value once. -/
theorem set_text (given : Given) {setting : Setting} (value : setting.Value) :
    given.set setting (setting.text value) =
      if given.has setting then .error (.repeated (.setting setting))
      else .ok (given.put setting value) := by
  cases taken : given.has setting with
  | true =>
      rw [set.eq_def, taken]
      rfl
  | false =>
      rw [set.eq_def, taken]
      cases setting with
      | ips => exact congrArg (· >>= _) (parseNumber_text .ips value)
      | refreshRate => exact congrArg (· >>= _) (parseNumber_text .refreshRate value)
      | scale => exact congrArg (· >>= _) (parseScale_value value)

/-- A switch is turned on once. -/
theorem turnOn_eq (given : Given) (switch : Switch) :
    given.turnOn switch =
      if given.isOn switch then .error (.repeated (.switch switch))
      else .ok (given.add (.enable switch)) := by
  cases taken : given.isOn switch with
  | true =>
      rw [turnOn.eq_def, taken]
      rfl
  | false =>
      rw [turnOn.eq_def, taken]
      cases switch <;> rfl

theorem mentions_empty (option : Option LongOption) : ({} : Given).mentions option = false := by
  rcases option with _ | setting | switch | notice
  · rfl
  · cases setting <;> rfl
  · cases switch <;> rfl
  · rfl

/-- A path is given, whatever was before. -/
theorem setRom_eq (given : Given) (path : RomPath) :
    given.setRom path.text = .ok (given.add (.rom path)) := by
  have nonempty : path.text.isEmpty = false := by simp [path.ne_empty]
  rw [setRom, nonempty]
  rfl

/-- What has been given behind some entries is what they name and what had been given before. -/
theorem mentions_foldl_add (given : Given) (entries : List Entry) (option : Option LongOption) :
    (entries.foldl add given).mentions option = true ↔
      given.mentions option = true ∨ option ∈ entries.map Entry.option? := by
  induction entries generalizing given with
  | nil => simp
  | cons entry rest ih =>
      rw [List.foldl_cons, ih, mentions_add, List.map_cons, List.mem_cons, Bool.or_eq_true,
        beq_iff_eq, or_assoc, eq_comm (a := option)]

end Given

end Chip8.CommandLine
