/-
# Groups and sequences

A pattern is a choice of sequences. An item of a sequence may be followed by signs
for its repetition. A group is a pattern in parentheses; signs behind the opening
one give it a name, or turn modes on and off inside of it. Modes in parentheses of
their own hold up to the end of the group around them.
-/

import Chip8.Text.Pattern.Bracket

namespace Chip8.Text.Pattern

/-- The opening parenthesis of a group. -/
structure Opening where
  /-- Where it stands. -/
  span : Span
  /-- The number of the group, if it has one. -/
  number : Option Nat := none
  /-- What is turned on or off inside. -/
  changes : FlagChanges := []
  /-- Whether blanks had no meaning before it. -/
  verboseBefore : Bool := false

/-- A pattern that is being read. -/
structure Level where
  /-- The parenthesis that it began with, if it is a group. -/
  opening : Option Opening := none
  /-- Where the pattern began. -/
  start : Place
  /-- The sequences before this one, the last one first. -/
  branches : List Expression := []
  /-- Where the sequence began. -/
  sequenceStart : Place
  /-- The items of the sequence, the last one first. -/
  items : List Expression := []

namespace Level

/-- A pattern of which nothing has been read. -/
def new (opening : Option Opening) (start : Place) : Level :=
  { opening, start, sequenceStart := start }

/-- The pattern with an item behind it. -/
def push (level : Level) (item : Expression) : Level :=
  { level with items := item :: level.items }

/-- The sequence that is being read, as it ends at a place. -/
def sequence (level : Level) (stop : Place) : Expression :=
  match level.items with
  | [] => .empty ⟨level.sequenceStart, stop⟩
  | [item] => item
  | items => .sequence ⟨level.sequenceStart, stop⟩ items.reverse

/-- The pattern, as it ends at a place. -/
def close (level : Level) (stop : Place) : Expression :=
  if level.branches.isEmpty then level.sequence stop
  else .choice ⟨level.start, stop⟩ (level.sequence stop :: level.branches).reverse

end Level

namespace Reader

/-! ## Repetitions -/

/-- The last item, if it can be repeated, and the items before it. -/
def repeatable (level : Level) : Reader (Expression × List Expression) := do
  match level.items with
  | [] | .empty _ :: _ | .flags _ _ :: _ =>
      fail (Span.point (← here)) .nothingToRepeat
  | item :: rest => return (item, rest)

/-- The last item as a repetition that ends here. -/
def repeated (level : Level) (item : Expression) (rest : List Expression) (least : Nat)
    (most : Option Nat) (marked : Bool) : Reader Level := do
  let span ← since item.span.first
  return { level with items := .repetition span item least most marked :: rest }

/-- Read a sign for a repetition, and the question mark behind it if there is one. -/
def repetition (level : Level) (least : Nat) (most : Option Nat) : Reader Level := do
  let (item, rest) ← repeatable level
  take
  repeated level item rest least most (← takeIf "?")

/-- Read numbers in braces for a repetition. -/
def countedRepetition (level : Level) : Reader Level := do
  let start ← here
  let (item, rest) ← repeatable level
  let unclosed : Reader Unit := do fail (← since start) .countUnclosed
  if !(← advance) then unclosed
  let least ← decimal
  if ← atEnd then unclosed
  let (least, most) ←
    if (← peek) == some ',' then
      if !(← advance) then unclosed
      if (← peek) == some '}' then pure (← liftExcept least, none)
      else
        let least ← liftExcept least
        pure (least, some (← liftExcept (← decimal)))
    else
      let least ← liftExcept least
      pure (least, some least)
  if (← peek) != some '}' then unclosed
  let marked ← if ← advance then takeIf "?" else pure false
  if most.any (· < least) then fail (← since start) .countInvalid
  repeated level item rest least most marked
where
  /-- The value, or the flaw. -/
  liftExcept : Except Flaw Nat → Reader Nat
    | .ok value => return value
    | .error flaw => throw flaw

/-! ## Groups -/

/-- Whether a character may stand in the name of a group, at the front or behind. -/
def isNameChar (isFirst : Bool) (c : Char) : Bool :=
  c == '_' || isLetter c ||
    (!isFirst && (isNumeral c || c == '.' || c == '[' || c == ']'))

/-- Read the name of a group, and the sign that closes it. -/
def groupName : Reader Unit := do
  let start ← here
  let name := (← get).rest.takeWhile (· != '>')
  check true name
  let span ← since start
  if ← atEnd then fail (Span.point (← here)) .nameUnfinished
  take
  if name.isEmpty then fail (Span.point start) .nameEmpty
  match (← get).names.find? (·.1 == name) with
  | some (_, other) => throw { fault := .nameRepeated, span, other := some other }
  | none => modify fun reading => { reading with names := (name, span) :: reading.names }
where
  /-- Take the characters of a name. -/
  check (isFirst : Bool) : List Char → Reader Unit
    | [] => return
    | c :: rest => do
        if !isNameChar isFirst c then fail (← charSpan) .nameInvalid
        take
        check false rest

/-- What has been read of flags: each of them, or the sign for turning off, and
where it stands; the last one first. -/
abbrev FlagItems := List (Option Flag × Span)

/-- What flags turn on or off: off is what stands behind the sign for it. -/
def flagChanges (items : FlagItems) : FlagChanges :=
  (items.reverse.foldl
    (fun (changes, on) item =>
      match item.1 with
      | none => (changes, false)
      | some flag => (changes ++ [(flag, on)], on))
    (([] : FlagChanges), true)).1

/-- Read flags up to a colon or a closing parenthesis, in at most so many rounds. -/
def flags : Nat → FlagItems → Reader FlagItems
  | 0, items => return items
  | rounds + 1, items => do
      match ← peek with
      | none => fail (Span.point (← here)) .flagUnfinished
      | some ':' | some ')' =>
          match items with
          | (none, span) :: _ => fail span .flagDangling
          | _ => return items
      | some c =>
          let span ← charSpan
          let flag := Flag.ofChar? c
          if flag.isNone && c != '-' then fail span .flagUnknown
          match items.find? (·.1 == flag) with
          | some (_, other) =>
              let fault := if flag.isNone then .flagNegatedTwice else .flagRepeated
              throw { fault, span, other := some other }
          | none => take
          flags rounds ((flag, span) :: items)

/-- The number of the next group that has one. -/
def nextGroup : Reader Nat := modifyGet fun reading =>
  (reading.groups + 1, { reading with groups := reading.groups + 1 })

/-- Read an opening parenthesis and the signs behind it. Gives a group, or modes
that stand for themselves. -/
def openGroup : Reader (Opening ⊕ Expression) := do
  let verboseBefore := (← get).verbose
  let span ← charSpan
  take
  skip
  let inner ← here
  for sign in ["?=", "?!", "?<=", "?<!"] do
    if ← takeIf sign then fail (← since span.first) .lookAround
  if (← takeIf "?P<") || (← takeIf "?<") then
    if ← atEnd then fail (Span.point (← here)) .nameUnfinished
    groupName
    return .inl { span, number := some (← nextGroup), verboseBefore }
  if !(← takeIf "?") then
    return .inl { span, number := some (← nextGroup), verboseBefore }
  if ← atEnd then fail span .groupUnclosed
  let items ← flags ((← get).rest.length + 1) []
  let changes := flagChanges items
  if (← takeIf ")") then
    if items.isEmpty then fail (Span.point inner) .nothingToRepeat
    return .inr (.flags (← since span.first) changes)
  take
  return .inl { span, changes, verboseBefore }

/-- Let changes decide whether blanks have a meaning, if they name it. -/
def turnVerbose (changes : FlagChanges) : Reader Unit := modify fun reading =>
  { reading with verbose := (changes.find? .verbose).getD reading.verbose }

/-! ## The whole -/

/-- Read what is neither a group nor a repetition. -/
def item (c : Char) : Reader Expression := do
  let span ← charSpan
  match c with
  | '\\' => return (← escape).toExpression
  | '[' => return .set (← bracket)
  | _ =>
      take
      match c with
      | '.' => return .dot span
      | '^' => return .assertion span .start
      | '$' => return .assertion span .stop
      | _ => return .literal { span, char := c }

/-- Read the rest of a pattern, in at most so many rounds. The patterns around the
one that is being read wait, the innermost first. -/
def patternLoop : Nat → List Level → Level → Reader Expression
  | 0, _, level => return level.close (← here)
  | rounds + 1, outer, level => do
      skip
      match ← peek with
      | none =>
          match level.opening with
          | some opening => fail opening.span .groupUnclosed
          | none => return level.close (← here)
      | some '(' =>
          match ← openGroup with
          | .inl opening =>
              turnVerbose opening.changes
              patternLoop rounds (level :: outer) (.new (some opening) (← here))
          | .inr modes =>
              match modes with
              | .flags _ changes => turnVerbose changes
              | _ => pure ()
              patternLoop rounds outer (level.push modes)
      | some ')' =>
          match level.opening, outer with
          | some opening, parent :: rest =>
              let body := level.close (← here)
              modify fun reading => { reading with verbose := opening.verboseBefore }
              take
              let span ← since opening.span.first
              let group := .group span opening.number opening.changes body
              patternLoop rounds rest (parent.push group)
          | _, _ => fail (← charSpan) .groupUnopened
      | some '|' =>
          let branch := level.sequence (← here)
          take
          patternLoop rounds outer
            { level with
              branches := branch :: level.branches
              items := []
              sequenceStart := ← here }
      | some '?' => patternLoop rounds outer (← repetition level 0 (some 1))
      | some '*' => patternLoop rounds outer (← repetition level 0 none)
      | some '+' => patternLoop rounds outer (← repetition level 1 none)
      | some '{' => patternLoop rounds outer (← countedRepetition level)
      | some c => patternLoop rounds outer (level.push (← item c))

end Reader

/-- How deep groups, sets, sequences and choices may be nested. -/
def nestingLimit : Nat := 250

/-- Read a written pattern. -/
def Expression.parse (text : String) : Except Flaw Expression := do
  let chars := text.toList
  let start : Place := {}
  let (expression, _) ←
    (Reader.patternLoop (chars.length + 1) [] (.new none start)).run { rest := chars }
  match expression.tooDeep? nestingLimit with
  | some span => throw { fault := .nesting nestingLimit, span }
  | none => return expression

end Chip8.Text.Pattern
