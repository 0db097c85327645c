import FareTerminal.CharSet

/-! The characters of a set as sequences of bytes in UTF-8. -/

namespace FareTerminal.CharSet

/-- Numbers with a leading digit and so many further digits to the base 64, both ends included, as
sequences of ranges of digits: whatever is within the ranges, digit by digit, is between the ends.
The sequences are in increasing order, and as few as can be. -/
def digitRanges : Nat → Nat → Nat → List (List (Nat × Nat))
  | 0, low, high => [[(low, high)]]
  | further + 1, low, high =>
    let unit := 64 ^ (further + 1)
    let first := low / unit
    let last := high / unit
    if first = last then
      (digitRanges further (low % unit) (high % unit)).map ((first, first) :: ·)
    else
      let isWholeFirst := low % unit = 0
      let isWholeLast := high % unit = unit - 1
      let front := if isWholeFirst then []
        else (digitRanges further (low % unit) (unit - 1)).map ((first, first) :: ·)
      let back := if isWholeLast then []
        else (digitRanges further 0 (high % unit)).map ((last, last) :: ·)
      let middleFirst := if isWholeFirst then first else first + 1
      let middleLast := if isWholeLast then last else last - 1
      let middle := if middleFirst ≤ middleLast then
          [(middleFirst, middleLast) :: List.replicate (further + 1) (0, 63)]
        else []
      front ++ middle ++ back

/-- The characters by the length of their encodings: the first and the last of them, how many bytes
follow the leading one, and what is added to the leading digit. -/
def encodingForms : List (Nat × Nat × Nat × Nat) :=
  [(0x0, 0x7F, 0, 0x0), (0x80, 0x7FF, 1, 0xC0), (0x800, 0xD7FF, 2, 0xE0), (0xE000, 0xFFFF, 2, 0xE0),
   (0x10000, 0x10FFFF, 3, 0xF0)]

/-- Adds a number to both ends of a range. -/
def shift (amount : Nat) (range : Nat × Nat) : Nat × Nat := (range.1 + amount, range.2 + amount)

/-- The encodings of the characters in a range, as sequences of ranges of bytes. -/
def rangeEncodings (range : Nat × Nat) : List (List (Nat × Nat)) :=
  encodingForms.flatMap fun (first, last, further, lead) =>
    let low := max first range.1
    let high := min last range.2
    if low ≤ high then
      (digitRanges further low high).map fun
        | [] => []
        | digit :: digits => shift lead digit :: digits.map (shift 0x80)
    else []

/-- The encodings of the characters of a set, as sequences of ranges of bytes in increasing order. -/
def encodings (set : CharSet) : List (List (Nat × Nat)) := set.ranges.flatMap rangeEncodings

end FareTerminal.CharSet
