import FareTerminal.Pattern.Brackets
import FareTerminal.Pattern.Machine

/-! The regular expression that a text spells. -/

namespace FareTerminal.Pattern

/-- A group that is being read: the branches before the last bar and the parts after it, both last
first, and whether case matters from here on. -/
structure OpenGroup where
  captures : Bool := false
  branches : List Pattern := []
  parts : List Pattern := []
  ignoreCase : Bool := false
  deriving Repr, DecidableEq

namespace OpenGroup

def push (group : OpenGroup) (part : Pattern) : OpenGroup :=
  { group with parts := part :: group.parts }

/-- The group with its last part repeated; there has to be one, and a flag is none. -/
def repeatLast? (group : OpenGroup) (least : Nat) (most : Option Nat) : Option OpenGroup :=
  match group.parts with
  | [] | .empty :: _ => none
  | part :: parts => some { group with parts := .repeated part least most :: parts }

/-- The group at the beginning of its next branch. -/
def bar (group : OpenGroup) : OpenGroup :=
  { group with branches := ofParts group.parts.reverse :: group.branches, parts := [] }

/-- The group behind a flag. -/
def flag (group : OpenGroup) (ignoreCase : Bool) : OpenGroup :=
  { group.push .empty with ignoreCase }

def pattern (group : OpenGroup) : Pattern := ofBranches group.bar.branches.reverse

end OpenGroup

/-- A reader of tokens: the group that is being read, those around it, and the brackets that are
open, innermost first. -/
structure Reader where
  group : OpenGroup := {}
  outer : List OpenGroup := []
  brackets : List OpenBrackets := []
  deriving Repr, DecidableEq

namespace Reader

def push (reader : Reader) (part : Pattern) : Reader :=
  { reader with group := reader.group.push part }

/-- The reader behind a set of characters outside of brackets. -/
def pushSet (reader : Reader) (set : CharSet) : Reader :=
  reader.push (.one (if reader.group.ignoreCase then set.ignoringCase else set) 0)

/-- The reader behind the brackets that were opened last. -/
def closeBrackets? (reader : Reader) : Option Reader :=
  match reader.brackets with
  | [] => none
  | [brackets] =>
    let closed := brackets.close reader.group.ignoreCase
    some { reader with group := reader.group.push (.one closed.set closed.depth), brackets := [] }
  | brackets :: next :: others =>
    some { reader with
      brackets := next.push (brackets.close reader.group.ignoreCase) :: others }

/-- The reader with a change to the brackets that were opened last. -/
def changeBrackets? (reader : Reader) (change : OpenBrackets → OpenBrackets) : Option Reader :=
  match reader.brackets with
  | [] => none
  | brackets :: others => some { reader with brackets := change brackets :: others }

def closeGroup? (reader : Reader) : Option Reader :=
  match reader.outer with
  | [] => none
  | parent :: outer =>
    some { reader with
      group := parent.push (.group reader.group.captures reader.group.pattern)
      outer }

def read? (reader : Reader) : Token → Option Reader
  | .one set => some (reader.pushSet set)
  | .assertion asked => some (reader.push (.assertion asked))
  | .bar => some { reader with group := reader.group.bar }
  | .flag ignoreCase => some { reader with group := reader.group.flag ignoreCase }
  | .openGroup captures _ ignoreCase =>
    let group := { captures, ignoreCase := ignoreCase.getD reader.group.ignoreCase }
    some { reader with group, outer := reader.group :: reader.outer }
  | .closeGroup => reader.closeGroup?
  | .repeated least most =>
    (reader.group.repeatLast? least most).map fun group => { reader with group }
  | .openSet negated => some { reader with brackets := { negated } :: reader.brackets }
  | .member set => reader.changeBrackets? (·.push { set, depth := 0 })
  | .operator operator => reader.changeBrackets? (·.operator reader.group.ignoreCase operator)
  | .closeSet => reader.closeBrackets?

/-- What was read; every group has to be closed. -/
def pattern? (reader : Reader) : Option Pattern :=
  if reader.outer.isEmpty then some reader.group.pattern else none

end Reader

/-- The name of a group that opens. -/
def Token.name? : Token → Option (List Char)
  | .openGroup _ name _ => name
  | _ => none

def maxDepth : Nat := 250

/-- Reads a regular expression. Names of groups may not occur twice, and a pattern that nests too
deep or needs too large a machine is refused. -/
def parse? (text : String) : Option Pattern := do
  let tokens ← tokens? text.toList
  let reader ← tokens.foldlM Reader.read? {}
  let pattern ← reader.pattern?
  let isSound :=
    decide (tokens.filterMap Token.name?).Nodup && pattern.depth ≤ maxDepth && pattern.fits
  if isSound then some pattern else none

end FareTerminal.Pattern
