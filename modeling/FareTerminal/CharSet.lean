/-! Sets of characters, as ranges of code points. -/

namespace FareTerminal

/-- A set of characters: ranges of code points with both ends included, in increasing order and with
gaps between them. -/
structure CharSet where
  ranges : List (Nat × Nat)
  deriving Repr, DecidableEq

namespace CharSet

/-- Whether ranges hold a code point. -/
def covers (ranges : List (Nat × Nat)) (code : Nat) : Bool :=
  ranges.any fun (low, high) => low ≤ code && code ≤ high

/-- Adds a range to ranges in increasing order; those that it overlaps or touches become one with
it. -/
def insertRange (low high : Nat) : List (Nat × Nat) → List (Nat × Nat)
  | [] => [(low, high)]
  | (first, last) :: rest =>
    if high + 1 < first then (low, high) :: (first, last) :: rest
    else if last + 1 < low then (first, last) :: insertRange low high rest
    else insertRange (min low first) (max high last) rest

/-- The set that any ranges cover. -/
def ofRanges (ranges : List (Nat × Nat)) : CharSet :=
  ⟨ranges.foldr (fun (low, high) others => insertRange low high others) []⟩

def ofList (chars : List Char) : CharSet := ofRanges (chars.map fun c => (c.toNat, c.toNat))

def singleton (c : Char) : CharSet := ⟨[(c.toNat, c.toNat)]⟩

def contains (set : CharSet) (c : Char) : Bool := covers set.ranges c.toNat

/-- The only character of the set, if it has one alone. -/
def only? (set : CharSet) : Option Char :=
  match set.ranges with
  | [(low, high)] => if low = high then some (Char.ofNat low) else none
  | _ => none

/-- Whether the set holds no character beyond ASCII. -/
def isAscii (set : CharSet) : Bool := set.ranges.all fun (_, high) => high < 0x80

def union (left right : CharSet) : CharSet := ofRanges (left.ranges ++ right.ranges)

/-- The gaps between ranges in increasing order, from a code point on. -/
def gapsFrom (next : Nat) : List (Nat × Nat) → List (Nat × Nat)
  | [] => if next ≤ 0x10FFFF then [(next, 0x10FFFF)] else []
  | (low, high) :: rest =>
    if next < low then (next, low - 1) :: gapsFrom (high + 1) rest else gapsFrom (high + 1) rest

/-- The code points of surrogates, which are no characters. -/
def surrogates : Nat × Nat := (0xD800, 0xDFFF)

def complement (set : CharSet) : CharSet :=
  ⟨gapsFrom 0 (ofRanges (surrogates :: set.ranges)).ranges⟩

def inter (left right : CharSet) : CharSet := (left.complement.union right.complement).complement

def diff (left right : CharSet) : CharSet := left.inter right.complement

def symmDiff (left right : CharSet) : CharSet := (left.diff right).union (right.diff left)

/-- A range of letters moved onto the letters in the other case, as far as it is within the given
first and last letter. -/
def moved (first last : Nat) (move : Nat → Nat) (range : Nat × Nat) : Option (Nat × Nat) :=
  let low := max first range.1
  let high := min last range.2
  if low ≤ high then some (move low, move high) else none

/-- Characters that are one and the same where case does not matter, apart from a capital letter of
ASCII with its small one: the long s is an s, and the kelvin sign a k. -/
def sameLetters : List (List Char) := [['S', 's', '\u017f'], ['K', 'k', '\u212a']]

/-- The set with the letters of ASCII in the other case, for text in which case does not matter. -/
def ignoringCase (set : CharSet) : CharSet :=
  let small := set.ranges.filterMap (moved 0x41 0x5A (· + 0x20))
  let capital := set.ranges.filterMap (moved 0x61 0x7A (· - 0x20))
  let others := (sameLetters.filter (·.any set.contains)).flatten.map fun c => (c.toNat, c.toNat)
  ofRanges (set.ranges ++ small ++ capital ++ others)

end CharSet

end FareTerminal
