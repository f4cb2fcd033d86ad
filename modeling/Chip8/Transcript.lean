/-
# The stream for trouble

Complaints, log records and the text about a failure are written to one stream, each
of them at once. A line of the stream belongs to the log if a record begins it,
whatever follows in it. A record that loses its last line break, because an
unfinished escape sequence takes it, is joined by what is written next.
-/

import Chip8.Text.Blank

namespace Chip8

/-- A text on the stream, written at once or read as a line. -/
structure Passage where
  /-- Whether a log record begins it. -/
  isRecord : Bool := false
  /-- The text. -/
  text : String
  deriving DecidableEq, Repr

namespace Passage

/-- The lines that a passage finishes, and the line that it leaves unfinished if there
is one, behind a line that was left unfinished before. -/
def follow (unfinished : Option Passage) (passage : Passage) :
    List Passage × Option Passage :=
  let start := unfinished.getD { passage with text := "" }
  match passage.text.toList.splitOn '\n' with
  | [] => ([], unfinished)
  | first :: others =>
      let first : Passage := { start with text := start.text ++ String.ofList first }
      let pieces := first :: others.map fun other => { text := String.ofList other }
      (pieces.dropLast, pieces.getLast?.filter (!·.text.isEmpty))

/-- A finished line without the carriage return at its end. -/
def finish (line : Passage) : Passage :=
  { line with text := String.ofList (Text.dropReturn line.text.toList) }

/-- The lines of a stream to which passages were written. -/
def lines (passages : List Passage) : List Passage :=
  let (finished, unfinished) := passages.foldl
    (fun (finished, unfinished) passage =>
      let (more, unfinished) := follow unfinished passage
      (finished ++ (more.map finish).toArray, unfinished))
    ((#[] : Array Passage), (none : Option Passage))
  finished.toList ++ unfinished.toList

end Passage

end Chip8
