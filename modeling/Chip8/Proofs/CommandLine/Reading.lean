/-
# Reading entries

The arguments of an entry first settle what was put aside before them, and then they are put
aside themselves or settled at once. So the state of the reader between two entries can be
described without the way in which they were written. It `Holds` what would have been given if
the command line ended there, or it `Fails`. An entry about something new is given, and one about
something that is there already makes the reader fail, now or with the next entry.

Only a second path does not wait for what was put aside before it.
-/

import Chip8.Proofs.CommandLine.Entry

namespace Chip8.CommandLine

/-! ## Reading the arguments of an entry -/

namespace Reading

variable {reading : Reading} {setting : Setting}

theorem read_of_running (running : reading.optionsEnded = false) (argument : String) :
    reading.read argument =
      match Token.ofArgument argument with
      | .endOfOptions => .ok { reading with optionsEnded := true }
      | .long name value => reading.readLong name value
      | .short letter rest => reading.readShort letter rest
      | .plain text => reading.readPlain text := by
  rw [read, running]
  rfl

/-- A setting that waits for its value takes the next argument. -/
theorem putAside_read (running : reading.optionsEnded = false) (value : setting.Value) :
    (reading.putAside (.setting setting none) >>= fun next => next.read (setting.text value)) =
      reading.putAside (.setting setting (some (setting.text value))) := by
  obtain ⟨c, rest, text_eq, noHyphen, -⟩ := Setting.exists_text_eq_cons value
  unfold putAside
  cases reading.settle with
  | error cause => rfl
  | ok given =>
      let waiting : Reading := { reading with given, pending := some (.setting setting none) }
      have waits : waiting.optionsEnded = false := running
      change waiting.read (setting.text value) = _
      rw [read_of_running waits, Token.ofArgument_of_cons text_eq noHyphen]
      rfl

/-- A setting with its value, however it is written, is put aside if the value is an argument of
its own, and else is settled. -/
theorem read_spelling (running : reading.optionsEnded = false) (spelling : Spelling setting)
    (value : setting.Value) :
    (spelling.words (setting.text value)).foldlM read reading =
      if spelling.isApart then reading.putAside (.setting setting (some (setting.text value)))
      else reading.settleThen (·.set setting (setting.text value)) := by
  obtain ⟨c, rest, text_eq, noHyphen, unequal⟩ := Setting.exists_text_eq_cons value
  have known := LongOption.ofName?_name (.setting setting)
  cases spelling with
  | named =>
      have named : reading.read ("--" ++ (LongOption.setting setting).name) =
          reading.putAside (.setting setting none) := by
        rw [read_of_running running, Token.ofArgument_named]
        simp only [readLong, known]
        rfl
      simp only [Spelling.words, List.foldlM_cons, named, List.foldlM_nil, bind_pure]
      exact putAside_read running value
  | namedEqual =>
      simp only [Spelling.words, List.foldlM_cons, List.foldlM_nil, bind_pure,
        read_of_running running, Token.ofArgument_namedEqual, readLong, known]
      rfl
  | lettered =>
      have lettered : reading.read "-s" = reading.putAside (.setting .scale none) := by
        rw [read_of_running running]
        rfl
      simp only [Spelling.words, List.foldlM_cons, lettered, List.foldlM_nil, bind_pure]
      exact putAside_read running value
  | letteredClose =>
      have attached : reading.readShort 's' (c :: rest) =
          reading.readSetting .scale (some (String.ofList (c :: rest))) :=
        by simp [readShort, unequal]
      simp only [Spelling.words, List.foldlM_cons, List.foldlM_nil, bind_pure,
        read_of_running running, Token.ofArgument_lettered, text_eq, attached]
      rw [← text_eq, String.ofList_toList]
      rfl
  | letteredEqual =>
      have argument_eq : "-s=" ++ Setting.scale.text value =
          "-s" ++ ("=" ++ Setting.scale.text value) := by
        rw [← String.append_assoc]
        rfl
      have attached : ("=" ++ Setting.scale.text value).toList =
          '=' :: (Setting.scale.text value).toList := by
        simp
      simp only [Spelling.words, List.foldlM_cons, List.foldlM_nil, bind_pure,
        read_of_running running, argument_eq, Token.ofArgument_lettered, attached, readShort,
        String.ofList_toList]
      rfl

/-- Take up an entry when what was put aside before it has been settled: put it aside too, or
settle it at once. -/
def takeUp (reading : Reading) (given : Given) : Entry → Except UsageError Reading
  | .rom path => .ok { reading with given, pending := some (.rom path.text), romSeen := true }
  | .assign setting value spelling =>
      let text := setting.text value
      if spelling.isApart then
        .ok { reading with given, pending := some (.setting setting (some text)) }
      else do return { reading with given := ← given.set setting text, pending := none }
  | .enable switch => do return { reading with given := ← given.turnOn switch, pending := none }

/-- The next argument may begin an entry: it can still be an option, and no setting waits for it. -/
structure IsReady (reading : Reading) : Prop where
  running : reading.optionsEnded = false
  idle : ∀ setting, reading.pending ≠ some (.setting setting none)

theorem IsReady.read_path (ready : reading.IsReady) (path : RomPath) :
    (Entry.rom path).words.foldlM read reading = reading.readRom path.text := by
  have nonempty : path.text.toList ≠ [] := by simp [path.ne_empty]
  obtain ⟨c, rest, text_eq⟩ := List.exists_cons_of_ne_nil nonempty
  have noHyphen : c ≠ '-' := by
    have begins := path.no_hyphen
    rw [text_eq] at begins
    exact fun same => begins (congrArg some same)
  have plain := Token.ofArgument_of_cons text_eq noHyphen
  simp only [Entry.words, List.foldlM_cons, List.foldlM_nil, bind_pure,
    read_of_running ready.running, plain]
  rw [readPlain]
  split
  · next setting pending => exact absurd pending (ready.idle setting)
  · rfl

/-- The arguments of an entry settle what was put aside before them, and then are taken up. -/
theorem IsReady.read_words (ready : reading.IsReady) {entry : Entry}
    (first : entry.option? = none → reading.romSeen = false) :
    entry.words.foldlM read reading =
      reading.settle >>= fun given => reading.takeUp given entry := by
  cases entry with
  | rom path =>
      rw [ready.read_path, readRom, first rfl]
      rfl
  | assign setting value spelling =>
      rw [Entry.words, read_spelling ready.running]
      cases apart : spelling.isApart with
      | true => simp only [takeUp, apart, if_true]; rfl
      | false => simp only [takeUp, apart, Bool.false_eq_true, if_false]; rfl
  | enable switch =>
      simp only [Entry.words, List.foldlM_cons, List.foldlM_nil, bind_pure,
        read_of_running ready.running, Token.ofArgument_named, readLong, LongOption.ofName?_name]
      rfl

/-! ## Reading entries -/

/-- If the command line ended here, this would have been given. -/
structure Holds (reading : Reading) (given : Given) : Prop extends reading.IsReady where
  settle_eq : reading.settle = .ok given
  romSeen_eq : reading.romSeen = given.mentions none

/-- If the command line ended here, this would be wrong with it. -/
structure Fails (reading : Reading) (error : UsageError) : Prop extends reading.IsReady where
  settle_eq : reading.settle = .error error

variable {given : Given} {entry : Entry} {error : UsageError}

theorem holds_empty : ({} : Reading).Holds {} :=
  ⟨⟨rfl, nofun⟩, rfl, rfl⟩

/-- What an entry says for the first time is given. -/
theorem Holds.read_fresh (holds : reading.Holds given)
    (fresh : given.mentions entry.option? = false) :
    ∃ next, entry.words.foldlM read reading = .ok next ∧ next.Holds (given.add entry) := by
  have first : entry.option? = none → reading.romSeen = false := by
    intro unnamed
    rw [holds.romSeen_eq, ← unnamed, fresh]
  have romSeen_eq := holds.romSeen_eq
  rw [holds.read_words first, holds.settle_eq, ok_bind]
  cases entry with
  | rom path =>
      exact ⟨_, rfl, ⟨holds.running, by simp⟩, given.setRom_eq path, rfl⟩
  | assign setting value spelling =>
      have untaken : given.has setting = false := fresh
      have given_eq := given.set_text value
      rw [untaken] at given_eq
      have kept : reading.romSeen = (given.add (.assign setting value spelling)).mentions none := by
        rw [Given.mentions_add]
        simpa [Entry.option?] using romSeen_eq
      cases apart : spelling.isApart with
      | true =>
          simp only [takeUp, apart, if_true]
          exact ⟨_, rfl, ⟨holds.running, by simp⟩, given_eq, kept⟩
      | false =>
          simp only [takeUp, apart, Bool.false_eq_true, if_false, given_eq]
          exact ⟨_, rfl, ⟨holds.running, by simp⟩, rfl, kept⟩
  | enable switch =>
      have untaken : given.isOn switch = false := fresh
      have given_eq := given.turnOn_eq switch
      rw [untaken] at given_eq
      simp only [takeUp, given_eq]
      refine ⟨_, rfl, ⟨holds.running, by simp⟩, rfl, ?_⟩
      rw [Given.mentions_add]
      simpa [Entry.option?] using romSeen_eq

/-- What an entry says again is refused, at once or as soon as it is settled. -/
theorem Holds.read_again (holds : reading.Holds given)
    (again : given.mentions entry.option? = true) :
    entry.words.foldlM read reading = .error entry.refusal ∨
      ∃ next, entry.words.foldlM read reading = .ok next ∧ next.Fails entry.refusal ∧
        next.romSeen = reading.romSeen := by
  cases entry with
  | rom path =>
      refine .inl ?_
      rw [holds.read_path, readRom, holds.romSeen_eq]
      exact if_pos again
  | assign setting value spelling =>
      have taken : given.has setting = true := again
      have given_eq := given.set_text value
      rw [taken] at given_eq
      rw [holds.read_words (fun unnamed => by cases unnamed), holds.settle_eq, ok_bind]
      cases apart : spelling.isApart with
      | true =>
          simp only [takeUp, apart, if_true]
          exact .inr ⟨_, rfl, ⟨⟨holds.running, by simp⟩, given_eq⟩, rfl⟩
      | false =>
          simp only [takeUp, apart, Bool.false_eq_true, if_false, given_eq]
          exact .inl rfl
  | enable switch =>
      have taken : given.isOn switch = true := again
      have given_eq := given.turnOn_eq switch
      rw [taken] at given_eq
      rw [holds.read_words (fun unnamed => by cases unnamed), holds.settle_eq, ok_bind]
      simp only [takeUp, given_eq]
      exact .inl rfl

/-- A reading that fails does so with the next entry, unless that is a second path, which is wrong
by itself. -/
theorem Fails.read (fails : reading.Fails error) (entry : Entry) :
    entry.words.foldlM read reading = .error error ∨
      (reading.romSeen = true ∧ entry.option? = none ∧
        entry.words.foldlM read reading = .error entry.refusal) := by
  by_cases second : reading.romSeen = true ∧ entry.option? = none
  · obtain ⟨seen, unnamed⟩ := second
    cases entry with
    | rom path =>
        refine .inr ⟨seen, unnamed, ?_⟩
        rw [fails.read_path, readRom, seen]
        rfl
    | assign setting value spelling => cases unnamed
    | enable switch => cases unnamed
  · have first : entry.option? = none → reading.romSeen = false := fun unnamed =>
      Bool.eq_false_iff.mpr fun seen => second ⟨seen, unnamed⟩
    refine .inl ?_
    rw [fails.read_words first, fails.settle_eq, error_bind]

/-- Entries that are all about different things are given, one after the other. -/
theorem Holds.read_entries {entries : List Entry} (holds : reading.Holds given)
    (fresh : ∀ entry ∈ entries, given.mentions entry.option? = false)
    (distinct : (entries.map Entry.option?).Nodup) :
    ∃ next, (entries.flatMap Entry.words).foldlM read reading = .ok next ∧
      next.Holds (entries.foldl Given.add given) := by
  induction entries generalizing reading given with
  | nil => exact ⟨reading, rfl, holds⟩
  | cons entry rest ih =>
      obtain ⟨untold, others⟩ := List.forall_mem_cons.mp fresh
      obtain ⟨different, rest_distinct⟩ := List.nodup_cons.mp distinct
      obtain ⟨next, taken, next_holds⟩ := holds.read_fresh untold
      have rest_fresh : ∀ other ∈ rest, (given.add entry).mentions other.option? = false := by
        intro other listed
        have apart : entry.option? ≠ other.option? := fun same =>
          different (same ▸ List.mem_map_of_mem listed)
        simp [Given.mentions_add, others other listed, apart]
      obtain ⟨final, rest_taken, final_holds⟩ := ih next_holds rest_fresh rest_distinct
      refine ⟨final, ?_, final_holds⟩
      rw [List.flatMap_cons, List.foldlM_append, taken, ok_bind, rest_taken]

end Reading

end Chip8.CommandLine
