/-
# Choosing log records

Which records a user sees is given by a text of directives between commas. A
directive is a severity, which holds for all parts of the program; or the name
of a part, which shows all of its records; or a name and a severity with an
equals sign between them. A later directive with the same name takes the place of
the earlier one. The directive with the longest name that fits a record decides,
and the last one of those. A severity may also be `off`. Behind a slash there may
stand a pattern that a record has to match.

Directives and patterns that make no sense are left out, and each is complained
about. A text without any directive shows errors only.
-/

import Chip8.Log
import Chip8.Text.Pattern.Meaning
import Chip8.Text.Pattern.Search

namespace Chip8

open Text

/-- Which records of some part of the program are shown. -/
structure LogDirective where
  /-- The name of the part; none stands for all. -/
  part : Option String
  /-- The least severity that is shown; none hides all records. -/
  least : Option Severity
  deriving DecidableEq, Repr

/-- Which records are shown. -/
structure LogFilter where
  /-- What holds for which part. No two directives have the same name. -/
  directives : List LogDirective
  /-- What a record has to match. -/
  pattern : Option Pattern := none
  deriving Repr

/-- The part of the program that an event belongs to. -/
def LogRecord.part : LogRecord → String
  | .fetched .. | .unknownWord .. | .keyLatched _ | .keyResolved _ => "chipvm::emulator"
  | .romLoaded _ => "chipvm::memory"
  | .windowOpened _ | .updateFailed => "chipvm::display"
  | .audioOutput _ | .pauseFailed _ | .toggleFailed _ | .streamError _ => "chipvm::sound"
  | .withoutSound _ | .halted .. => "chipvm"

namespace LogFilter

/-- The least severity that a word stands for. Capital and small letters are equal. -/
def severity? (word : String) : Option (Option Severity) :=
  let name := word.map Char.toUpper
  if name == "OFF" then some none
  else (Severity.all.find? (·.name == name)).map some

/-- Cut a text at each of some separators. -/
def cut (separator : Char) (text : String) : List String :=
  (text.toList.splitOn separator).map String.ofList

/-- The wording of a complaint. -/
def complaint (text : String) : String :=
  s!"invalid logging spec '{text}'"

/-- Read one directive. The name keeps its blanks, the severity behind it does not. -/
def parseDirective (text : String) : Except String LogDirective :=
  match cut '=' text with
  | [word] =>
      match severity? word with
      | some least => .ok ⟨none, least⟩
      | none => .ok ⟨some word, some .trace⟩
  | [name, word] =>
      let word := trim word
      if word.isEmpty then .ok ⟨some name, some .trace⟩
      else
        match severity? word with
        | some least => .ok ⟨some name, least⟩
        | none => .error (complaint word)
  | _ => .error (complaint text)

/-- Put a directive in the place of the one with the same name, or behind the others. -/
def add (directives : List LogDirective) (directive : LogDirective) : List LogDirective :=
  if directives.any (·.part == directive.part) then
    directives.map fun other => if other.part == directive.part then directive else other
  else directives ++ [directive]

/-- Read what follows the slash. -/
def parsePattern (text : String) : Except String Pattern :=
  (Pattern.parse text).mapError fun error => s!"invalid regex filter - {error.message}"

/-- What was read, and the complaint if something was wrong. -/
def separate {α : Type} : Except String α → Option α × List String
  | .ok value => (some value, [])
  | .error problem => (none, [problem])

/-- Read a filter. Also gives the complaints. -/
def parse (text : String) : LogFilter × List String :=
  let errorsOnly : List LogDirective := [⟨none, some .error⟩]
  match cut '/' text with
  | directives :: rest =>
      if 1 < rest.length then
        ({ directives := errorsOnly }, [complaint text ++ " (too many '/'s)"])
      else
        let words := ((cut ',' directives).map trim).filter (!·.isEmpty)
        let results := words.map fun word => separate (parseDirective word)
        let kept := (results.filterMap (·.1)).foldl add []
        let (pattern, problems) := match rest.head? with
          | none => (none, [])
          | some text => separate (parsePattern text)
        ({ directives := if kept.isEmpty then errorsOnly else kept, pattern },
          results.flatMap (·.2) ++ problems)
  | [] => ({ directives := errorsOnly }, [])

/-- What is written about a complaint. -/
def warning (problem : String) : String := s!"warning: {problem}, ignoring it\n"

/-- The filter of a user who has not chosen one: warnings and errors. -/
def default : LogFilter := { directives := [⟨none, some .warn⟩] }

/-- The filter of a user who may have chosen one, and the complaints about it. -/
def ofSetting (setting : Option String) : LogFilter × List String :=
  match setting with
  | none => (default, [])
  | some text => parse text

/-- How many characters of a part's name a directive fixes, if it fits the part. -/
def fit? (directive : LogDirective) (part : String) : Option Nat :=
  match directive.part with
  | none => some 0
  | some name => if part.startsWith name then some name.length else none

/-- The least severity that is shown of a part. -/
def least (filter : LogFilter) (part : String) : Option Severity :=
  (filter.directives.foldl
    (fun (best : Nat × Option Severity) directive =>
      match fit? directive part with
      | some length => if best.1 ≤ length then (length, directive.least) else best
      | none => best)
    (0, none)).2

/-- Whether a record is shown. -/
def shows (filter : LogFilter) (record : LogRecord) : Bool :=
  (match filter.least record.part with
    | none => false
    | some least => record.severity.rank ≤ least.rank) &&
  match filter.pattern with
  | none => true
  | some pattern => pattern.occursIn record.text

end LogFilter

end Chip8
