import FareTerminal.Pattern.Shape
import FareTerminal.CharSet.Utf8

/-! How much room the machines take that search for a pattern, the one that reads a text forward and
the one that reads it backward.

A machine is made of states of one size. A state that goes different ways by the byte that it reads
has an entry for each way, and so does one that goes several ways without reading. -/

namespace FareTerminal.Pattern

/-- The room for a state, in bytes. -/
def stateSize : Nat := 32

/-- The room for a range of bytes and where it leads. -/
def rangeSize : Nat := 8

/-- The room for a way that is gone without reading. -/
def waySize : Nat := 4

namespace Machine

/-- A state that goes by the byte it reads: each range of bytes, and the number of the state where it
leads. The last state of all has the number zero. -/
abbrev Node := List ((Nat × Nat) × Nat)

/-- The number of a node, and the nodes known from then on. -/
def number (known : List Node) (node : Node) : Nat × List Node :=
  match known.idxOf? node with
  | some index => (index + 1, known)
  | none => (known.length + 1, known ++ [node])

/-- Finds the node for sequences of ranges of bytes, of at most the given length and in increasing
order. Nodes that agree are one. -/
def nodeFor : Nat → List (List (Nat × Nat)) → List Node → Nat × List Node
  | 0, _, known => (0, known)
  | length + 1, sequences, known =>
    let groups := sequences.splitBy fun left right => left.head? == right.head?
    let (ways, known) := groups.foldl (fun (ways, known) group =>
      match group with
      | (range :: _) :: _ =>
        let rests := (group.map List.tail).filter (!·.isEmpty)
        let (next, known) := if rests.isEmpty then (0, known) else nodeFor length rests known
        (ways ++ [(range, next)], known)
      | _ => (ways, known)) ([], known)
    number known ways

/-- The room for a set whose encodings are read forward; they share what they end with. -/
def forwardSize (encodings : List (List (Nat × Nat))) : Nat :=
  let nodes := (nodeFor 4 encodings []).2
  stateSize + total (nodes.map fun node => stateSize + rangeSize * node.length)

/-- How much longer a sequence is than its beginning that it shares with another. -/
def lengthBeyond : List (Nat × Nat) → List (Nat × Nat) → Nat
  | previous :: others, range :: ranges =>
    if previous = range then lengthBeyond others ranges else ranges.length + 1
  | _, ranges => ranges.length

/-- The room for a set whose encodings are read backward; they share what they begin with. -/
def backwardSize (encodings : List (List (Nat × Nat))) : Nat :=
  let states :=
    total ((([] :: encodings).zip encodings).map fun (left, right) => lengthBeyond left right)
  2 * stateSize + waySize * encodings.length + stateSize * states

def setSize (backward : Bool) (set : CharSet) : Nat :=
  if set.isAscii then 2 * stateSize + rangeSize * set.ranges.length
  else if backward then backwardSize set.encodings
  else forwardSize set.encodings

/-- The room for words that are read along a tree, without the end that they share. At a place where
words end and others go on, those before and behind such an end are kept apart. -/
def treeSize : Nat → List (List UInt8) → Nat
  | 0, _ => 0
  | length + 1, words =>
    if words.all List.isEmpty then 0
    else
      let closed := words.count [] - ((words.takeWhile List.isEmpty).length - 1)
      let chunks := (words.splitOn []).filter (!·.isEmpty)
      let inside := chunks.map fun chunk =>
        let letters := (chunk.filterMap List.head?).eraseDups
        let behind := letters.map fun letter =>
          treeSize length ((chunk.filter (·.head? == some letter)).map List.tail)
        let ranges := if letters.length = 1 then 0 else rangeSize * letters.length
        stateSize + ranges + total behind
      stateSize + waySize * (closed + chunks.length) + total inside

def wordsSize (backward : Bool) (words : List (List Char)) : Nat :=
  let encoded := words.map fun word => word.flatMap String.utf8EncodeChar
  let ordered := if backward then encoded.map List.reverse else encoded
  stateSize + treeSize ((ordered.map List.length).foldl max 0 + 1) ordered

end Machine

namespace Shape

def word? : Shape → Option (List Char)
  | word chars => some chars
  | _ => none

/-- The room for a shape, in bytes. For the rest of a choice that is the room that it adds to the
choice. -/
def size (backward : Bool) : (isRest : Bool) → Shape → Nat
  | isRest, alt first rest =>
    let inside := waySize + first.size backward false + rest.size backward true
    if isRest then inside
    else
      match (alt first rest).branches.mapM word? with
      | some words => Machine.wordsSize backward words
      | none => 2 * stateSize + inside
  | isRest, nothing | isRest, assertion _ => stateSize + if isRest then waySize else 0
  | isRest, word chars =>
    stateSize * total (chars.map Char.utf8Size) + if isRest then waySize else 0
  | isRest, set chars => Machine.setSize backward chars + if isRest then waySize else 0
  | isRest, capture body =>
    (if backward then 0 else 2 * stateSize) + body.size backward false +
      if isRest then waySize else 0
  | isRest, seq first rest =>
    first.size backward false + rest.size backward false + if isRest then waySize else 0
  | isRest, repeated body least most =>
    let once := body.size backward false
    let whole :=
      match least, most with
      | 0, none =>
        if body.leastLength?.any (0 < ·) then once + stateSize + 2 * waySize
        else once + 3 * stateSize + 4 * waySize
      | least, none => least * once + stateSize + 2 * waySize
      | 0, some 1 => once + 2 * stateSize + 2 * waySize
      | least, some most =>
        if least = most then least * once
        else
          (if least = 0 then stateSize else least * once) + stateSize +
            (most - least) * (once + stateSize + 2 * waySize)
    whole + if isRest then waySize else 0

/-- Whether every match begins at the beginning of the text. -/
def startsAtStart : Shape → Bool
  | assertion asked => asked == .textStart
  | repeated body least _ => 0 < least && body.startsAtStart
  | capture body => body.startsAtStart
  | seq first rest => first.startsAtStart || first.mostLength? = some 0 && rest.startsAtStart
  | alt first rest => first.startsAtStart && rest.startsAtStart
  | _ => false

/-- Whether every match ends at the end of the text. -/
def endsAtEnd : Shape → Bool
  | assertion asked => asked == .textEnd
  | repeated body least _ => 0 < least && body.endsAtEnd
  | capture body => body.endsAtEnd
  | seq first rest => rest.endsAtEnd || rest.mostLength? = some 0 && first.endsAtEnd
  | alt first rest => first.endsAtEnd && rest.endsAtEnd
  | _ => false

/-- The room for what skips the characters before a match, which is a single state if there can be
none. -/
def skipSize (isAnchored : Bool) : Nat :=
  if isAnchored then stateSize else 3 * stateSize + rangeSize + 2 * waySize

/-- The room for the machine that reads forward. It keeps where the match begins and ends. -/
def forwardSize (shape : Shape) : Nat :=
  skipSize shape.startsAtStart + 2 * stateSize + shape.size false false + stateSize

/-- The room for the machine that reads backward. -/
def backwardSize (shape : Shape) : Nat :=
  skipSize shape.endsAtEnd + shape.size true false + stateSize

end Shape

/-- The most room for a machine, ten mebibytes. -/
def maxSize : Nat := 10 * 1024 * 1024

/-- Whether there is room for the machines that search for a pattern. -/
def fits (pattern : Pattern) : Bool :=
  let shape := pattern.shape
  shape.forwardSize ≤ maxSize && shape.backwardSize ≤ maxSize

end FareTerminal.Pattern
