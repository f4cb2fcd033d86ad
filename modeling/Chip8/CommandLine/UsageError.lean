/-
# What can be wrong with a command line

Each error is kept as its cause; `message` gives what the user reads of it first.
It quotes what the user wrote in colour, and names of options in bold; where it is
read there is no terminal, and so all escape sequences are taken out again, those
that the user wrote among them. Asking for a notice ends the reading of the
arguments in the same way as an error, and so it is one of the cases, without a
message.
-/

import Chip8.CommandLine.Arguments
import Chip8.Text.Integer
import Chip8.Text.Terminal

namespace Chip8.CommandLine

open Text

/-- Why a text is no value for a number. -/
inductive NumberError where
  /-- It is no integer. -/
  | integer (cause : IntegerError)
  /-- It is an integer that is not in the range of 32-bit words. -/
  | outOfRange (value : Int)
  deriving DecidableEq, Repr

/-- The wording of why a text is no value for a number. -/
def NumberError.message : NumberError → String
  | .integer cause => cause.message
  | .outOfRange value => s!"{value} is not in 0..=4294967295"

/-- Why a command line does not start a session. -/
inductive UsageError where
  /-- The user asked for a text. -/
  | notice (notice : Notice)
  /-- An option that does not exist, or a second path. -/
  | unknownArgument (argument : String)
  /-- An option that was there before. -/
  | repeated (option : LongOption)
  /-- A value for an option that takes none. -/
  | needlessValue (option : LongOption) (value : String)
  /-- No value for a setting. -/
  | missingValue (setting : Setting)
  /-- A path without a character. -/
  | emptyRom
  /-- A text that is no scale. -/
  | noScale (value : String)
  /-- A text that is no number. -/
  | noNumber (setting : Setting) (value : String) (cause : NumberError)
  /-- No path. -/
  | missingRom
  deriving DecidableEq, Repr

namespace UsageError

/-- What the user wrote, in yellow. -/
def quote (text : String) : String := styled 33 text

/-- How an option or the path is written, in bold. -/
def literal (usage : String) : String := styled 1 usage

/-- The wording of an error for a terminal; a notice has none. -/
def styledMessage : UsageError → Option String
  | .notice _ => none
  | .unknownArgument argument => some s!"error: unexpected argument '{quote argument}' found"
  | .repeated option =>
      some s!"error: the argument '{quote option.usage}' cannot be used multiple times"
  | .needlessValue option value =>
      some (s!"error: unexpected value '{quote value}' for '{literal option.usage}' found; " ++
        "no more were expected")
  | .missingValue setting => some (required (LongOption.setting setting).usage)
  | .emptyRom => some (required romUsage)
  | .noScale value =>
      some (if value.isEmpty then required (LongOption.setting .scale).usage
        else invalid value (LongOption.setting .scale).usage)
  | .noNumber setting value cause =>
      some s!"{invalid value (LongOption.setting setting).usage}: {cause.message}"
  | .missingRom => some "error: the following required arguments were not provided:"
where
  /-- The wording for a value that is not there or empty. -/
  required (usage : String) : String :=
    s!"error: a value is required for '{quote usage}' but none was supplied"
  /-- The wording for a value that means nothing. -/
  invalid (value usage : String) : String :=
    s!"error: invalid value '{quote value}' for '{literal usage}'"

/-- The wording of an error; a notice has none. -/
def message (error : UsageError) : Option String := error.styledMessage.map withoutEscapes

/-- What is written of the wording of an error. -/
def written (error : UsageError) : Option String := error.styledMessage.map streamed

end UsageError

end Chip8.CommandLine
