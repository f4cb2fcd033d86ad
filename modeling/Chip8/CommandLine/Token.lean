/-
# Arguments by their form

An argument that starts with two hyphens names an option, with a value behind
the first equals sign if there is one; two hyphens alone end the options. An
argument that starts with one hyphen and goes on names an option by a letter. All
others, the empty one and a single hyphen among them, are plain text.
-/

namespace Chip8.CommandLine

/-- An argument as the form of its text shows it. -/
inductive Token where
  /-- Two hyphens: everything that follows is plain. -/
  | endOfOptions
  /-- An option by name. -/
  | long (name : String) (value : Option String)
  /-- An option by letter, and the characters behind the letter. -/
  | short (letter : Char) (rest : List Char)
  /-- Anything else. -/
  | plain (text : String)
  deriving DecidableEq, Repr

namespace Token

/-- The characters before the first equals sign, and those behind it if there is one. -/
def splitAtEquals : List Char → List Char × Option (List Char)
  | [] => ([], none)
  | '=' :: rest => ([], some rest)
  | c :: rest =>
      let (name, value) := splitAtEquals rest
      (c :: name, value)

/-- The form of an argument. -/
def ofArgument (argument : String) : Token :=
  match argument.toList with
  | ['-', '-'] => .endOfOptions
  | '-' :: '-' :: rest =>
      let (name, value) := splitAtEquals rest
      .long (String.ofList name) (value.map String.ofList)
  | '-' :: letter :: rest => .short letter rest
  | _ => .plain argument

end Token

end Chip8.CommandLine
