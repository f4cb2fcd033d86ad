/-
# The program

What a user sees of the program: its exit code and the lines that it writes. What
the user chose to see of the log is read first; then a command line that asks for a
text or cannot be read ends the program before a session begins.
-/

import Chip8.CommandLine.Help
import Chip8.CommandLine.Parser
import Chip8.Log.Filter
import Chip8.Session
import Chip8.Transcript

namespace Chip8

/-- What a program leaves behind. -/
structure Output where
  /-- The number for the system. -/
  exitCode : UInt32
  /-- Lines for the user. -/
  standardOutput : List String := []
  /-- Lines about trouble. -/
  standardError : List Passage := []
  deriving DecidableEq, Repr

/-- What is written about complaints. -/
def complaintPassages (complaints : List String) : List Passage :=
  complaints.map fun problem => { text := LogFilter.warning problem }

namespace CommandLine.UsageError

/-- What is written about an error. -/
def report (error : UsageError) : Option String :=
  let missing := if error = .missingRom then "  " ++ romUsage ++ "\n" else ""
  error.written.map fun message =>
    message ++ "\n" ++ missing ++ "\n" ++ usageText ++ "\n\nFor more information, try '--help'.\n"

/-- What a user sees of a command line that starts no session. -/
def output (error : UsageError) (logSetting : Option String) : Output :=
  let complaints := complaintPassages (LogFilter.ofSetting logSetting).2
  let passages := complaints ++ (error.report.map fun text => { text }).toList
  let standardError := Passage.lines passages
  match error with
  | .notice asked => { exitCode := 0, standardOutput := asked.lines, standardError }
  | _ => { exitCode := 2, standardError }

end CommandLine.UsageError

namespace Report

variable {η σ : Type}

/-- What is written about a failure. A broken contract is reported by its wording
alone. -/
def failure (report : Report η σ) : Option String :=
  match report.ending with
  | .failed error => some (error.report ++ "\n")
  | .aborted breach => breach.message?.map (· ++ "\n")
  | .finished | .unfinished => none

/-- What is written of a session, if the user chose what to see of the log. -/
def passages (report : Report η σ) (logSetting : Option String) : List Passage :=
  let (filter, complaints) := LogFilter.ofSetting logSetting
  let records := (report.journal.filter filter.shows).map fun record =>
    { isRecord := true, text := record.written }
  complaintPassages complaints ++ records ++ (report.failure.map fun text => { text }).toList

/-- What a user sees of a session. -/
def output (report : Report η σ) (logSetting : Option String) : Output where
  exitCode := report.ending.exitCode
  standardError := Passage.lines (report.passages logSetting)

end Report

namespace Program

/-- Run the program on a command line, with a session of at most so many turns.
Time is kept in floating point. -/
def run {η ρ σ : Type} [Host η] [LoopClock η] [RandomSource ρ] [AudioStream σ]
    (environment : Environment η ρ σ) (logSetting : Option String)
    (commandLine : List String) (turns : Nat) : Output :=
  match CommandLine.parse commandLine with
  | .error error => error.output logSetting
  | .ok arguments => (Session.run Float environment arguments turns).output logSetting

end Program

end Chip8
