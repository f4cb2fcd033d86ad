/-
# Program files

A program is the bytes of a file, without any header. The file is found by a
path of components between slashes, starting in the working directory. How
the system refuses a path is decided component by component, from the left.

The directory described here holds files and nothing else. Of the directories
around it nothing is known but that they are directories.
-/

import Chip8.Fault

namespace Chip8

/-- Why the system does not give the bytes of a file. -/
inductive SystemError where
  | notFound
  | notADirectory
  | isADirectory
  | nameTooLong
  /-- A path with a zero character, which the system cannot be asked for. -/
  | zeroInPath
  /-- Anything else, by the system's number and description. -/
  | other (number : Nat) (description : String)
  deriving DecidableEq, Repr

/-- The system's wording. -/
def SystemError.message : SystemError → String
  | .notFound => numbered 2 "No such file or directory"
  | .notADirectory => numbered 20 "Not a directory"
  | .isADirectory => numbered 21 "Is a directory"
  | .nameTooLong => numbered 36 "File name too long"
  | .zeroInPath => "file name contained an unexpected NUL byte"
  | .other number description => numbered number description
where
  /-- A description with the system's number for it. -/
  numbered (number : Nat) (description : String) : String :=
    s!"{description} (os error {number})"

/-- What the system means by a number. The description is used for numbers that are
not among the cases above. -/
def SystemError.ofNumber (number : Nat) (description : String) : SystemError :=
  match number with
  | 2 => .notFound
  | 20 => .notADirectory
  | 21 => .isADirectory
  | 36 => .nameTooLong
  | _ => .other number description

/-- A way to get the bytes of a file by its path. -/
abbrev FileReader : Type := String → Except SystemError (List UInt8)

/-- The bytes of a program file. -/
def readRom (read : FileReader) (path : String) : Except LoadError (List UInt8) :=
  (read path).mapError fun cause => .unreadable path cause.message

/-- The components of a path. -/
def pathComponents (path : String) : List String :=
  (path.toList.splitOn '/').map String.ofList

/-- The name of the file that a path leads to, if its last component is one. A
slash at the end and components that stay where they are do not count. -/
def fileName? (path : String) : Option String :=
  match ((pathComponents path).filter fun name => name != "" && name != ".").getLast? with
  | none | some ".." => none
  | some name => some name

/-- A directory of files. -/
structure Directory where
  /-- Names and bytes. -/
  files : List (String × List UInt8) := []
  deriving DecidableEq, Repr

namespace Directory

/-- Where a part of a path leads. -/
inductive Place where
  /-- The directory itself. -/
  | here
  /-- A directory around it. -/
  | outside
  /-- A file. -/
  | file (bytes : List UInt8)

/-- Follow one more component of a path. -/
def follow (directory : Directory) (place : Place) (name : String) : Except SystemError Place :=
  match place with
  | .file _ => .error .notADirectory
  | .here | .outside =>
      if name == "" || name == "." then .ok place
      else if name == ".." then .ok .outside
      else if 255 < name.utf8ByteSize then .error .nameTooLong
      else
        match place, directory.files.lookup name with
        | .here, some bytes => .ok (.file bytes)
        | _, _ => .error .notFound

/-- The bytes of the file that a path leads to. -/
def read (directory : Directory) : FileReader := fun path => do
  if path.contains '\x00' then throw .zeroInPath
  if path.isEmpty then throw .notFound
  if 4096 ≤ path.utf8ByteSize then throw .nameTooLong
  let start : Place := if path.startsWith "/" then .outside else .here
  match ← (pathComponents path).foldlM directory.follow start with
  | .file bytes => return bytes
  | .here | .outside => throw .isADirectory

end Directory

end Chip8
