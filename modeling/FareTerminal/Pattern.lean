import FareTerminal.CharSet
import FareTerminal.Pattern.Reach
import FareTerminal.Text.WordCharacters

/-! Regular expressions, and the search for a match anywhere in a text. -/

namespace FareTerminal

/-- What can be asked of a place in a text. -/
inductive Assertion where
  | textStart
  | textEnd
  | wordEdge
  | noWordEdge
  deriving Repr, DecidableEq

namespace Assertion

/-- Whether a character is part of a word. -/
def isWord (c : Option Char) : Bool := c.any (CharSet.mk Text.WordCharacters.ranges).contains

/-- Whether a place is as asked for, by the characters before and behind it. -/
def holds : Assertion → Option Char → Option Char → Bool
  | textStart, before, _ => before.isNone
  | textEnd, _, behind => behind.isNone
  | wordEdge, before, behind => isWord before != isWord behind
  | noWordEdge, before, behind => isWord before == isWord behind

end Assertion

/-- A regular expression as it is written. A set of characters tells how deep its brackets nest; the
rest of a sequence and of a choice is a sequence or a choice again, unless it is the last part. -/
inductive Pattern where
  | empty
  | one (set : CharSet) (brackets : Nat)
  | assertion (asked : Assertion)
  | seq (first rest : Pattern)
  | alt (first rest : Pattern)
  | repeated (body : Pattern) (least : Nat) (most : Option Nat)
  | group (captures : Bool) (body : Pattern)
  deriving Repr, DecidableEq

namespace Pattern

def ofParts : List Pattern → Pattern
  | [] => empty
  | [part] => part
  | part :: parts => seq part (ofParts parts)

def ofBranches : List Pattern → Pattern
  | [] => empty
  | [branch] => branch
  | branch :: branches => alt branch (ofBranches branches)

/-- Where a match that begins at each place of a text can end. -/
def reach (text : List Char) : Pattern → Reach
  | empty => .stay (text.length + 1)
  | one set _ => .pass set.contains text
  | assertion asked => .stayWhere asked.holds text
  | seq first rest => (first.reach text).andThen (rest.reach text)
  | alt first rest => (first.reach text).orElse (rest.reach text)
  | repeated body least most => (body.reach text).again least most
  | group _ body => body.reach text

/-- Whether a match begins anywhere in a text. -/
def matchesIn (pattern : Pattern) (text : String) : Bool := (pattern.reach text.toList).leadsOn

def isSeq : Pattern → Bool
  | seq .. => true
  | _ => false

def isAlt : Pattern → Bool
  | alt .. => true
  | _ => false

/-- How deep the pattern nests: a sequence, a choice, a repetition, a group and brackets are each one
level above their deepest part. -/
def depth : Pattern → Nat
  | empty | assertion _ => 0
  | one _ brackets => brackets
  | seq first rest => max (first.depth + 1) (if rest.isSeq then rest.depth else rest.depth + 1)
  | alt first rest => max (first.depth + 1) (if rest.isAlt then rest.depth else rest.depth + 1)
  | repeated body _ _ | group _ body => body.depth + 1

end Pattern

end FareTerminal
