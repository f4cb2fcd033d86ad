/-
# Sets of characters

A set of characters is kept as ranges of their numbers. The ranges stand in order,
and no two of them touch, so that there is one list for each way in which a set falls
into ranges.

The numbers from 0xD800 to 0xDFFF belong to no character. A step from one character
to the next leaps over them. Ranges on both sides of them do not touch, but one
range may reach across.
-/

namespace Chip8.Text

/-- A set of characters. -/
structure CharSet where
  /-- The first and the last number of each range. -/
  ranges : List (Nat × Nat)
  deriving DecidableEq, Repr

namespace CharSet

/-- The number of the last character. -/
def lastNumber : Nat := 0x10FFFF

/-- The set without characters. -/
def empty : CharSet := ⟨[]⟩

/-- The set of all characters. -/
def all : CharSet := ⟨[(0, lastNumber)]⟩

/-- The number of the next character. -/
def above (number : Nat) : Nat := if number == 0xD7FF then 0xE000 else number + 1

/-- The number of the character before. -/
def below (number : Nat) : Nat := if number == 0xE000 then 0xD7FF else number - 1

/-- Put a range into its place among others. Ranges that meet or touch become one. -/
def insert (first last : Nat) : List (Nat × Nat) → List (Nat × Nat)
  | [] => [(first, last)]
  | (first', last') :: rest =>
      if last + 1 < first' then (first, last) :: (first', last') :: rest
      else if last' + 1 < first then (first', last') :: insert first last rest
      else insert (min first first') (max last last') rest

/-- The set of the characters in some ranges. -/
def ofNumbers (ranges : List (Nat × Nat)) : CharSet :=
  ⟨ranges.foldr (fun range others => insert range.1 range.2 others) []⟩

/-- The set of the characters in some ranges. -/
def ofRanges (ranges : List (Char × Char)) : CharSet :=
  ofNumbers (ranges.map fun (first, last) => (first.toNat, last.toNat))

/-- The set of some characters. -/
def ofChars (chars : List Char) : CharSet := ofRanges (chars.map fun c => (c, c))

/-- Whether there are no characters in a set. -/
def isEmpty (set : CharSet) : Bool := set.ranges.isEmpty

/-- Whether a set has ASCII characters only. -/
def isAscii (set : CharSet) : Bool := set.ranges.all (·.2 ≤ 0x7F)

/-- Whether a character is in a set. -/
def has (set : CharSet) (c : Char) : Bool :=
  set.ranges.any fun (first, last) => first ≤ c.toNat && c.toNat ≤ last

/-- The character of a set that has only one. -/
def single? (set : CharSet) : Option Char :=
  match set.ranges with
  | [(first, last)] => if first == last then some (Char.ofNat first) else none
  | _ => none

/-- The characters in one of two sets. -/
def union (a b : CharSet) : CharSet :=
  ⟨b.ranges.foldl (fun others range => insert range.1 range.2 others) a.ranges⟩

/-- The characters in both of two sets. -/
def intersection (a b : CharSet) : CharSet :=
  ⟨a.ranges.flatMap fun (first, last) => b.ranges.filterMap fun (first', last') =>
    let range := (max first first', min last last')
    if range.1 ≤ range.2 then some range else none⟩

/-- What is left of a range if others are cut out of it. -/
def cut (first last : Nat) : List (Nat × Nat) → List (Nat × Nat)
  | [] => [(first, last)]
  | (first', last') :: rest =>
      if last' < first then cut first last rest
      else if last < first' then [(first, last)]
      else
        (if first < first' then [(first, below first')] else []) ++
          (if last' < last then cut (above last') last rest else [])

/-- The characters in the first of two sets only. -/
def difference (a b : CharSet) : CharSet :=
  ⟨a.ranges.flatMap fun (first, last) => cut first last b.ranges⟩

/-- The ranges behind a number, between and behind others. Where there is no
character between two ranges, the gap goes from the end of the one to the start of
the other. -/
def gaps (last : Nat) : List (Nat × Nat) → List (Nat × Nat)
  | [] => if last < lastNumber then [(above last, lastNumber)] else []
  | (first', last') :: rest =>
      (min (above last) (below first'), max (above last) (below first')) :: gaps last' rest

/-- The characters that are not in a set. -/
def complement (set : CharSet) : CharSet :=
  match set.ranges with
  | [] => all
  | (first, last) :: rest => ⟨(if 0 < first then [(0, below first)] else []) ++ gaps last rest⟩

/-- The letters of a set of ASCII characters, as far as they lie between two, moved by
a distance. -/
def moved (set : CharSet) (first last : Char) (move : Nat → Nat) : CharSet :=
  ofNumbers ((set.intersection (ofRanges [(first, last)])).ranges.map fun range =>
    (move range.1, move range.2))

/-- The characters that are in a set as a small or as a capital ASCII letter. -/
def caseless (set : CharSet) : CharSet :=
  (set.union (set.moved 'a' 'z' (· - 32))).union (set.moved 'A' 'Z' (· + 32))

end CharSet

end Chip8.Text
