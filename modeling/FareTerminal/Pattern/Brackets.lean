import FareTerminal.Pattern.Token

/-! The sets of characters that brackets hold. -/

namespace FareTerminal.Pattern

/-- A set between brackets, and how deep it nests. -/
structure Bracketed where
  set : CharSet
  depth : Nat
  deriving Repr, DecidableEq

/-- Brackets that are being read: whether they stand for the characters outside of their set, what
stands before the last operator and that operator, and the members behind it, last first. -/
structure OpenBrackets where
  negated : Bool
  left : Option (SetOperator × Bracketed) := none
  members : List Bracketed := []
  deriving Repr, DecidableEq

namespace OpenBrackets

def push (brackets : OpenBrackets) (member : Bracketed) : OpenBrackets :=
  { brackets with members := member :: brackets.members }

/-- The set of the members. Two or more make a level of their own. -/
def union (brackets : OpenBrackets) (ignoreCase : Bool) : Bracketed :=
  let set := CharSet.ofRanges (brackets.members.flatMap (·.set.ranges))
  let depth := (brackets.members.map (·.depth)).foldl max 0
  { set := if ignoreCase then set.ignoringCase else set
    depth := if brackets.members.length < 2 then depth else depth + 1 }

/-- The set of everything that was read. An operator takes all that is before it. -/
def value (brackets : OpenBrackets) (ignoreCase : Bool) : Bracketed :=
  let right := brackets.union ignoreCase
  match brackets.left with
  | none => right
  | some (operator, left) =>
    { set := operator.apply left.set right.set, depth := max left.depth right.depth + 1 }

/-- The brackets behind an operator. -/
def operator (brackets : OpenBrackets) (ignoreCase : Bool) (operator : SetOperator) :
    OpenBrackets :=
  { brackets with left := some (operator, brackets.value ignoreCase), members := [] }

def close (brackets : OpenBrackets) (ignoreCase : Bool) : Bracketed :=
  let inside := brackets.value ignoreCase
  { set := if brackets.negated then inside.set.complement else inside.set
    depth := inside.depth + 1 }

end OpenBrackets

end FareTerminal.Pattern
