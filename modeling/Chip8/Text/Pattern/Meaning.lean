/-
# The meaning of a written pattern

What a part of a pattern means depends on the modes that hold at it. Modes that a
group turns on end with it; modes in parentheses of their own hold for everything
behind them in the group around them, also in later branches of a choice.

Where characters of all scripts are meant, as they are from the start, a pattern
cannot ask for digits, blanks and words by letter, for properties, or for small and
capital letters to be equal: which characters these are is known for ASCII only.
Where only ASCII is meant, a pattern can ask for all of these but properties, and
then no set may have characters beyond ASCII.
-/

import Chip8.Text.Pattern.Automaton
import Chip8.Text.Pattern.Group

namespace Chip8.Text.Pattern

/-- What is turned on. -/
structure Modes where
  /-- Small and capital letters are equal. -/
  caseless : Bool := false
  /-- The signs for the ends of a text stand for the ends of its lines too. -/
  lineEnds : Bool := false
  /-- The dot stands for a newline too. -/
  dotAll : Bool := false
  /-- Repetitions prefer few rounds. -/
  frugal : Bool := false
  /-- Characters of all scripts are meant. -/
  allScripts : Bool := true
  /-- A carriage return ends a line too. -/
  returns : Bool := false
  deriving DecidableEq, Repr

/-- The modes after changes. -/
def Modes.change (modes : Modes) (changes : FlagChanges) : Modes where
  caseless := (changes.find? .caseless).getD modes.caseless
  lineEnds := (changes.find? .lineEnds).getD modes.lineEnds
  dotAll := (changes.find? .dotAll).getD modes.dotAll
  frugal := (changes.find? .frugal).getD modes.frugal
  allScripts := (changes.find? .allScripts).getD modes.allScripts
  returns := (changes.find? .returns).getD modes.returns

/-- A fault at a part. -/
def fault {α : Type} (span : Span) (fault : Fault) : Except Flaw α := throw { fault, span }

namespace Literal

/-- The character, if it can be meant: where only ASCII is meant, a byte must be ASCII. -/
def meant (written : Literal) (modes : Modes) : Except Flaw Char :=
  if !modes.allScripts && written.isByte && 0x80 ≤ written.char.toNat then
    fault written.span .notText
  else .ok written.char

/-- The character as a pattern of its own. -/
def meaning (written : Literal) (modes : Modes) : Except Flaw Pattern := do
  let c ← written.meant modes
  if !modes.caseless then return .exactly [c]
  if modes.allScripts then fault written.span .caseUnknown
  return if c.isAlpha then .ofSet (CharSet.ofChars [c]).caseless true else .exactly [c]

/-- The character inside of brackets: where only ASCII is meant, it must be ASCII. -/
def inSet (written : Literal) (modes : Modes) : Except Flaw Char := do
  let c ← written.meant modes
  if !modes.allScripts && 0x80 ≤ c.toNat then fault written.span .scriptsNotAllowed
  return c

end Literal

/-! ## Sets -/

/-- A set that has been read, and whether small and capital letters are known to be equal
in it. -/
structure ReadSet where
  /-- The set. -/
  set : CharSet
  /-- Whether small and capital letters are known to be equal. -/
  closed : Bool
  deriving DecidableEq, Repr

namespace ReadSet

/-- The set without characters. -/
def empty : ReadSet := ⟨.empty, true⟩

/-- A set in which nothing is known of letters. -/
def plain (set : CharSet) : ReadSet := ⟨set, false⟩

/-- The characters in one of two sets. -/
def union (a b : ReadSet) : ReadSet :=
  if b.set.isEmpty || a.set == b.set then a
  else ⟨a.set.union b.set, a.closed && b.closed⟩

/-- The characters in both of two sets. -/
def intersection (a b : ReadSet) : ReadSet :=
  if a.set.isEmpty then a
  else if b.set.isEmpty then empty
  else ⟨a.set.intersection b.set, a.closed && b.closed⟩

/-- The characters in the first of two sets only. -/
def difference (a b : ReadSet) : ReadSet :=
  if a.set.isEmpty || b.set.isEmpty then a
  else ⟨a.set.difference b.set, a.closed && b.closed⟩

/-- The characters in exactly one of two sets. -/
def exclusive (a b : ReadSet) : ReadSet := (a.union b).difference (a.intersection b)

/-- The characters that are not in a set. -/
def complement (a : ReadSet) : ReadSet := ⟨a.set.complement, a.set.isEmpty || a.closed⟩

end ReadSet

/-- The ASCII characters of a set by letter. -/
def LetterClass.set : LetterClass → CharSet
  | .digit => .ofRanges [('0', '9')]
  | .space => .ofRanges [('\t', '\r'), (' ', ' ')]
  | .word => .ofRanges [('0', '9'), ('A', 'Z'), ('_', '_'), ('a', 'z')]

/-- The name of a property without what makes no difference: a first syllable `is`,
blanks, hyphens, underscores, and capital letters. -/
def plainName (name : String) : String :=
  let isFirst : List Char → List Char
    | i :: s :: rest => if i.toLower == 'i' && s.toLower == 's' then rest else i :: s :: rest
    | short => short
  let kept := (isFirst name.toList).filter fun c =>
    c.toNat < 0x80 && c != ' ' && c != '_' && c != '-'
  String.ofList (kept.map Char.toLower)

/-- What is wrong with a property by name. No property is known; a few names could
only be those of general categories, of which no value is known. -/
def propertyFault (name : String) : Fault :=
  if ["cf", "sc", "lc"].contains (plainName name) then .propertyValueUnknown
  else .propertyUnknown

namespace Modes

/-- A set in which small and capital letters are equal if that is turned on. -/
def fold (modes : Modes) (span : Span) (a : ReadSet) : Except Flaw ReadSet :=
  if !modes.caseless || a.closed || a.set.isEmpty then .ok a
  else if modes.allScripts then fault span .caseUnknown
  else .ok ⟨a.set.caseless, true⟩

/-- The complement of a set if that is meant. Beyond ASCII there may be nothing where
only ASCII is meant. -/
def negate (modes : Modes) (span : Span) (negated : Bool) (a : ReadSet) :
    Except Flaw ReadSet :=
  if !negated then .ok a
  else if modes.allScripts then .ok a.complement
  else fault span .notText

end Modes

/-- The result of an operation on two sets. -/
def SetOperation.apply (operation : SetOperation) (a b : ReadSet) : ReadSet :=
  ReadSet.empty.union <|
    match operation with
    | .intersection => a.intersection b
    | .difference => a.difference b
    | .exclusive => a.exclusive b

/-- The meaning of a written set. -/
def SetExpression.meaning (modes : Modes) : SetExpression → Except Flaw ReadSet
  | .empty _ => .ok .empty
  | .literal written => return .plain (.ofChars [← written.inSet modes])
  | .range _ first last =>
      return .plain (.ofRanges [(← first.inSet modes, ← last.inSet modes)])
  | .named span charSet negated => do
      modes.negate span negated (← modes.fold span (.plain charSet))
  | .letter span kind negated =>
      if modes.allScripts then fault span .letterClassUnknown
      else modes.negate span negated (.plain kind.set)
  | .property span name =>
      fault span (if modes.allScripts then propertyFault name else .scriptsNotAllowed)
  | .bracketed span negated body => do
      modes.negate span negated (← modes.fold span (← body.meaning modes))
  | .union _ items => unionMeaning modes .empty items
  | .combined _ operation left right => do
      let a ← left.meaning modes
      let b ← right.meaning modes
      let b ← modes.fold right.span b
      let a ← modes.fold left.span a
      return operation.apply a b
where
  /-- The meaning of sets beside others. -/
  unionMeaning (modes : Modes) (others : ReadSet) : List SetExpression → Except Flaw ReadSet
    | [] => .ok others
    | item :: rest => do
        let a ← item.meaning modes
        unionMeaning modes (others.union a) rest

/-! ## Patterns -/

/-- The characters that the dot stands for. -/
def Modes.dot (modes : Modes) (span : Span) : Except Flaw CharSet :=
  if !modes.allScripts then fault span .notText
  else if modes.dotAll then .ok .all
  else if modes.returns then .ok (CharSet.ofChars ['\n', '\r']).complement
  else .ok (CharSet.ofChars ['\n']).complement

/-- What is asked of a place. -/
def Modes.look (modes : Modes) : Assertion → Look
  | .start => if modes.lineEnds then .lineStart modes.returns else .textStart
  | .stop => if modes.lineEnds then .lineEnd modes.returns else .textEnd
  | .textStart => .textStart
  | .textEnd => .textEnd
  | .edge edge => .word edge modes.allScripts

/-- The meaning of a written pattern, and the modes behind it. -/
def Expression.meaning (modes : Modes) : Expression → Except Flaw (Pattern × Modes)
  | .empty _ => .ok (.empty, modes)
  | .flags _ changes => .ok (.empty, modes.change changes)
  | .literal written => return (← written.meaning modes, modes)
  | .dot span => return (.ofSet (← modes.dot span) false, modes)
  | .assertion _ kind => .ok (.look (modes.look kind), modes)
  | .set written => return (.ofSet (← written.meaning modes).set !modes.allScripts, modes)
  | .repetition _ body least most marked => do
      let (body, modes) ← body.meaning modes
      return (.repeated body least most (modes.frugal != marked), modes)
  | .group _ number changes body => do
      let (body, _) ← body.meaning (modes.change changes)
      return (number.elim body (.group · body), modes)
  | .choice _ branches => do
      let (branches, modes) ← listMeaning modes branches
      return (.choice branches, modes)
  | .sequence _ items => do
      let (items, modes) ← listMeaning modes items
      return (.sequence items, modes)
where
  /-- The meanings of several patterns, each with the modes behind the one before. -/
  listMeaning (modes : Modes) : List Expression → Except Flaw (List Pattern × Modes)
    | [] => .ok ([], modes)
    | item :: rest => do
        let (first, modes) ← item.meaning modes
        let (others, modes) ← listMeaning modes rest
        return (first :: others, modes)

/-- Why a text gives no pattern to search for. -/
inductive PatternError where
  /-- Something is wrong with the text. -/
  | flawed (text : String) (flaw : Flaw)
  /-- An automaton would take too much memory. -/
  | tooLarge
  /-- It asks for edges of words of all scripts. -/
  | unsupported
  deriving DecidableEq, Repr

/-- The wording of why a text gives no pattern. -/
def PatternError.message : PatternError → String
  | .flawed text flaw => flaw.report text
  | .tooLarge => s!"Compiled regex exceeds size limit of {byteLimit} bytes."
  | .unsupported => "error building NFA"

/-- Read a pattern to search for. -/
def parse (text : String) : Except PatternError Pattern := do
  let read := Expression.parse text >>= fun expression => expression.meaning {}
  match read with
  | .error flaw => throw (.flawed text flaw)
  | .ok (pattern, _) =>
      if (pattern.draft .forward).isTooLarge then throw .tooLarge
      if pattern.usesAllScripts then throw .unsupported
      if (pattern.draft .backward).isTooLarge then throw .tooLarge
      return pattern

end Chip8.Text.Pattern
