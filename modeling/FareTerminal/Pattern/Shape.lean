import FareTerminal.Pattern

/-! Patterns in the form in which a machine is made for them: without what makes no difference, and
with neighbours joined. -/

namespace FareTerminal.Pattern

def total (numbers : List Nat) : Nat := numbers.foldl (· + ·) 0

/-- What a machine is made for. The rest of a sequence and of a choice is one again, unless it is the
last part; a sequence holds no two words side by side. -/
inductive Shape where
  | nothing
  | word (chars : List Char)
  | set (set : CharSet)
  | assertion (asked : Assertion)
  | repeated (body : Shape) (least : Nat) (most : Option Nat)
  | capture (body : Shape)
  | seq (first rest : Shape)
  | alt (first rest : Shape)
  deriving Repr, DecidableEq

namespace Shape

/-- The characters of a set, one of which alone is a word. -/
def ofSet (chars : CharSet) : Shape :=
  match chars.only? with
  | some c => word [c]
  | none => set chars

def never : Shape := set ⟨[]⟩

def parts : Shape → List Shape
  | nothing => []
  | seq first rest => first :: rest.parts
  | shape => [shape]

def branches : Shape → List Shape
  | alt first rest => first :: rest.branches
  | shape => [shape]

def ofParts : List Shape → Shape
  | [] => nothing
  | [part] => part
  | part :: parts => seq part (ofParts parts)

def ofBranches : List Shape → Shape
  | [] => never
  | [branch] => branch
  | branch :: branches => alt branch (ofBranches branches)

/-- One part before a sequence; two words side by side become one. -/
def prepend : Shape → Shape → Shape
  | part, nothing => part
  | word chars, word others => word (chars ++ others)
  | word chars, seq (word others) rest => seq (word (chars ++ others)) rest
  | part, sequence => seq part sequence

def append : Shape → Shape → Shape
  | nothing, second => second
  | seq first rest, second => first.prepend (rest.append second)
  | part, second => part.prepend second

/-- The fewest characters that a match can have, if there is any match. -/
def leastLength? : Shape → Option Nat
  | nothing | assertion _ => some 0
  | word chars => some chars.length
  | set chars => if chars.ranges.isEmpty then none else some 1
  | repeated body least _ => body.leastLength?.map (least * ·)
  | capture body => body.leastLength?
  | seq first rest => do return (← first.leastLength?) + (← rest.leastLength?)
  | alt first rest => do return min (← first.leastLength?) (← rest.leastLength?)

/-- The most characters that a match can have, if there is a bound. -/
def mostLength? : Shape → Option Nat
  | nothing | assertion _ => some 0
  | word chars => some chars.length
  | set chars => if chars.ranges.isEmpty then none else some 1
  | repeated body _ most => do return (← most) * (← body.mostLength?)
  | capture body => body.mostLength?
  | seq first rest => do return (← first.mostLength?) + (← rest.mostLength?)
  | alt first rest => do return max (← first.mostLength?) (← rest.mostLength?)

/-- A repetition. A second match of what has no characters changes nothing. -/
def again (body : Shape) (least : Nat) (most : Option Nat) : Shape :=
  let isBlank := body.mostLength? = some 0
  let least := if isBlank then min least 1 else least
  let most := if isBlank then some (min (most.getD 1) 1) else most
  if most = some 0 then nothing
  else if least = 1 ∧ most = some 1 then body
  else repeated body least most

/-- The beginning that two lists share. -/
def sharedFront : List Shape → List Shape → List Shape
  | left :: lefts, right :: rights =>
    if left = right then left :: sharedFront lefts rights else []
  | _, _ => []

/-- The parts with which all branches begin, if all are sequences. -/
def commonParts : List Shape → List Shape
  | [] => []
  | first :: others =>
    if (first :: others).all (2 ≤ ·.parts.length) then
      others.foldl (fun shared branch => sharedFront shared branch.parts) first.parts
    else []

/-- The character of a word that has one alone. -/
def letter? : Shape → Option Char
  | word [c] => some c
  | _ => none

def ranges? : Shape → Option (List (Nat × Nat))
  | set chars => some chars.ranges
  | _ => none

/-- A choice between branches, none of which is a choice. Single characters and sets of them become a
set. A beginning that all branches share is taken out, as often as the first number says. -/
def choiceOf : Nat → List Shape → Shape
  | _, [] => never
  | _, [branch] => branch
  | budget, branches =>
    match branches.mapM letter?, branches.mapM ranges? with
    | some chars, _ => ofSet (.ofList chars)
    | _, some ranges => ofSet (.ofRanges ranges.flatten)
    | none, none =>
      match budget, commonParts branches with
      | 0, _ | _, [] => ofBranches branches
      | budget + 1, shared =>
        let rests := branches.map fun branch => ofParts (branch.parts.drop shared.length)
        (ofParts shared).append (choiceOf budget (rests.flatMap Shape.branches))

/-- How many parts there are in a shape, at every level. -/
def count : Shape → Nat
  | nothing | word _ | set _ | assertion _ => 1
  | repeated body _ _ | capture body => body.count + 1
  | seq first rest | alt first rest => first.count + rest.count + 1

def choice : List Shape → Shape
  | [shape] => shape
  | shapes => choiceOf (total (shapes.map count)) (shapes.flatMap branches)

end Shape

def branchShapes : Pattern → List Shape
  | empty => [.nothing]
  | one set _ => [.ofSet set]
  | assertion asked => [.assertion asked]
  | seq first rest => [(Shape.choice first.branchShapes).append (.choice rest.branchShapes)]
  | alt first rest => first.branchShapes ++ rest.branchShapes
  | repeated body least most => [(Shape.choice body.branchShapes).again least most]
  | group captures body =>
    let shape := Shape.choice body.branchShapes
    [if captures then .capture shape else shape]

def shape (pattern : Pattern) : Shape := .choice pattern.branchShapes

end FareTerminal.Pattern
