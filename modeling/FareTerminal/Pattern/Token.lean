import FareTerminal.Pattern
import FareTerminal.Text.Lines

/-! The tokens in the text of a regular expression. -/

namespace FareTerminal.Pattern

/-- A character of the text, or one behind a backslash. -/
inductive Symbol where
  | plain (c : Char)
  | escaped (c : Char)
  deriving Repr, DecidableEq

/-- Reads a backslash with the character behind it; there has to be one. -/
def symbols? : List Char → Option (List Symbol)
  | [] => some []
  | ['\\'] => none
  | '\\' :: c :: rest => (symbols? rest).map (.escaped c :: ·)
  | c :: rest => (symbols? rest).map (.plain c :: ·)

/-- What makes one set of two between brackets. -/
inductive SetOperator where
  | inter
  | diff
  | symmDiff
  deriving Repr, DecidableEq

def SetOperator.apply : SetOperator → CharSet → CharSet → CharSet
  | inter => CharSet.inter
  | diff => CharSet.diff
  | symmDiff => CharSet.symmDiff

/-- The parts of which a regular expression is made. A group, and whatever stands behind a flag in
its group, may say whether case matters. What stands between brackets are members and operators, and
brackets again. -/
inductive Token where
  | one (set : CharSet)
  | assertion (asked : Assertion)
  | bar
  | openGroup (captures : Bool) (name : Option (List Char)) (ignoreCase : Option Bool)
  | closeGroup
  | flag (ignoreCase : Bool)
  | repeated (least : Nat) (most : Option Nat)
  | openSet (negated : Bool)
  | member (set : CharSet)
  | operator (operator : SetOperator)
  | closeSet
  deriving Repr, DecidableEq

/-- The set that a letter behind a backslash stands for. -/
def letterSet? : Char → Option CharSet
  | 'd' => some ⟨Text.Digits.ranges⟩
  | 'D' => some (CharSet.mk Text.Digits.ranges).complement
  | 'w' => some ⟨Text.WordCharacters.ranges⟩
  | 'W' => some (CharSet.mk Text.WordCharacters.ranges).complement
  | 's' => some (.ofList Text.blanks)
  | 'S' => some (CharSet.ofList Text.blanks).complement
  | _ => none

/-- The character that a character behind a backslash stands for: a control for some letters, and
itself for what is no letter or digit. -/
def escapedChar? : Char → Option Char
  | 'a' => some '\x07'
  | 'f' => some '\x0c'
  | 'n' => some '\n'
  | 'r' => some '\r'
  | 't' => some '\t'
  | 'v' => some '\x0b'
  | c => if c.toNat < 128 && !c.isAlphanum && c != '<' && c != '>' then some c else none

/-- What a letter behind a backslash asks of its place. -/
def assertion? : Char → Option Assertion
  | 'A' => some .textStart
  | 'z' => some .textEnd
  | 'b' => some .wordEdge
  | 'B' => some .noWordEdge
  | _ => none

/-- The token for a character behind a backslash, outside of brackets. -/
def escapedToken? (c : Char) : Option Token :=
  ((assertion? c).map .assertion).or (((letterSet? c).or ((escapedChar? c).map .singleton)).map .one)

/-- The token for a character that stands for itself, or alone for something else. -/
def plainToken (c : Char) : Token :=
  match c with
  | '.' => .one (CharSet.singleton '\n').complement
  | '^' => .assertion .textStart
  | '$' => .assertion .textEnd
  | '|' => .bar
  | ')' => .closeGroup
  | '*' => .repeated 0 none
  | '+' => .repeated 1 none
  | '?' => .repeated 0 (some 1)
  | c => .one (.singleton c)

def isRepetition (c : Char) : Bool := c = '*' || c = '+' || c = '?'

/-- A number in decimal digits, with blanks around, that fits into 32 bits. -/
def number? (text : List Char) : Option Nat :=
  let digits := Text.trim text
  if digits.isEmpty || !digits.all Char.isDigit then none
  else
    let n := digits.foldl (fun n c => 10 * n + (c.toNat - '0'.toNat)) 0
    if n < UInt32.size then some n else none

/-- The repetition between braces: exactly so often, at least, or between two numbers. -/
def count? (text : List Char) : Option Token :=
  match text.splitOn ',' with
  | [exact] => (number? exact).map fun n => .repeated n (some n)
  | [least, []] => (number? least).map fun n => .repeated n none
  | [least, most] => do
    let least ← number? least
    let most ← number? most
    if least ≤ most then some (.repeated least (some most)) else none
  | _ => none

/-- How far the reader is between brackets: right behind the opening bracket, behind minus signs
there, or further on. -/
inductive Front where
  | bare
  | dashes
  | past
  deriving Repr, DecidableEq

/-- Where in the text the reader is: outside, between brackets within so many others, between braces
with what was read there last first, or before symbols that have been read already. -/
inductive Mode where
  | outside
  | brackets (outer : Nat) (front : Front)
  | braces (read : List Char)
  | passing (count : Nat) (mode : Mode)
  deriving Repr, DecidableEq

/-- The mode behind one symbol that has been read with the one before it, if there is one. -/
def Mode.behind (mode : Mode) (isThere : Bool) : Mode := if isThere then .passing 1 mode else mode

/-- The plain characters at the beginning of symbols. -/
def plainPart : List Symbol → List Char
  | .plain c :: rest => c :: plainPart rest
  | _ => []

/-- Whether the name of a group can have a character, in front or further on. -/
def isNameChar (isFirst : Bool) (c : Char) : Bool :=
  c = '_' || c.isAlpha || (c.toNat ≥ 0x80 && (CharSet.mk Text.WordCharacters.ranges).contains c) ||
    !isFirst && (c = '.' || c = '[' || c = ']' || c.isDigit)

/-- The name of a group, up to the angle bracket that closes it, and how many symbols were read. -/
def groupName? (symbols : List Symbol) : Option (List Char × Nat) :=
  let text := plainPart symbols
  let name := text.takeWhile (· != '>')
  match name with
  | [] => none
  | c :: others =>
    if name.length < text.length && isNameChar true c && others.all (isNameChar false) then
      some (name, name.length + 1)
    else none

/-- The token for an opening parenthesis, and how many of the symbols behind it belong to it. -/
def openToken? : List Symbol → Option (Token × Nat)
  | .plain '?' :: .plain ':' :: _ => some (.openGroup false none none, 2)
  | .plain '?' :: .plain 'i' :: .plain ':' :: _ => some (.openGroup false none (some true), 3)
  | .plain '?' :: .plain '-' :: .plain 'i' :: .plain ':' :: _ =>
    some (.openGroup false none (some false), 4)
  | .plain '?' :: .plain 'i' :: .plain ')' :: _ => some (.flag true, 3)
  | .plain '?' :: .plain '-' :: .plain 'i' :: .plain ')' :: _ => some (.flag false, 4)
  | .plain '?' :: .plain 'P' :: .plain '<' :: rest =>
    (groupName? rest).map fun (name, read) => (.openGroup true (some name) none, read + 3)
  | .plain '?' :: .plain '<' :: rest =>
    (groupName? rest).map fun (name, read) => (.openGroup true (some name) none, read + 2)
  | .plain '?' :: _ => none
  | _ => some (.openGroup true none none, 0)

/-- The named sets of ASCII characters. -/
def namedRanges : List (String × List (Char × Char)) :=
  [("alnum", [('0', '9'), ('A', 'Z'), ('a', 'z')]), ("alpha", [('A', 'Z'), ('a', 'z')]),
   ("ascii", [('\x00', '\x7f')]), ("blank", [('\t', '\t'), (' ', ' ')]),
   ("cntrl", [('\x00', '\x1f'), ('\x7f', '\x7f')]), ("digit", [('0', '9')]),
   ("graph", [('!', '~')]), ("lower", [('a', 'z')]), ("print", [(' ', '~')]),
   ("punct", [('!', '/'), (':', '@'), ('[', '\x60'), ('\x7b', '~')]),
   ("space", [('\t', '\r'), (' ', ' ')]), ("upper", [('A', 'Z')]),
   ("word", [('0', '9'), ('A', 'Z'), ('_', '_'), ('a', 'z')]),
   ("xdigit", [('0', '9'), ('A', 'F'), ('a', 'f')])]

/-- The set that a name between colons stands for, behind a bracket within brackets, and how many
symbols were read, the closing bracket with them. A name may be negated. -/
def namedSet? : List Symbol → Option (CharSet × Nat)
  | .plain ':' :: symbols =>
    let text := plainPart symbols
    let negated := text.head? = some '^'
    let rest := if negated then text.tail else text
    let name := rest.takeWhile (· != ':')
    match (rest.drop name.length).take 2, namedRanges.lookup (String.ofList name) with
    | [':', ']'], some ranges =>
      let set := CharSet.ofRanges (ranges.map fun (low, high) => (low.toNat, high.toNat))
      some (if negated then (set.complement, name.length + 4) else (set, name.length + 3))
    | _, _ => none
  | _ => none

/-- The character that can begin or end a range between brackets. -/
def rangeEnd? : Symbol → Option Char
  | .plain c => some c
  | .escaped c => escapedChar? c

/-- The set that one symbol between brackets stands for. -/
def symbolSet? : Symbol → Option CharSet
  | .plain c => some (.singleton c)
  | .escaped c => (letterSet? c).or ((escapedChar? c).map .singleton)

/-- The operator that two equal characters between brackets stand for. -/
def operator? : Symbol → List Symbol → Option SetOperator
  | .plain '&', .plain '&' :: _ => some .inter
  | .plain '-', .plain '-' :: _ => some .diff
  | .plain '~', .plain '~' :: _ => some .symmDiff
  | _, _ => none

/-- The tokens and the next mode for a bracket that opens, with so many others around it. -/
def openBracket (outer : Nat) (rest : List Symbol) : List Token × Mode :=
  let negated := rest.head? = some (.plain '^')
  ([.openSet negated], Mode.behind (.brackets outer .bare) negated)

/-- Reads a symbol outside of brackets and braces, in view of the rest. A question mark behind a
repetition only says which of several matches is meant, and that does not matter here. -/
def readOutside? (rest : List Symbol) : Symbol → Option (List Token × Mode)
  | .escaped c => (escapedToken? c).map fun token => ([token], .outside)
  | .plain '[' => some (openBracket 0 rest)
  | .plain '{' => some ([], .braces [])
  | .plain '(' => (openToken? rest).map fun (token, read) =>
    ([token], .passing read .outside)
  | .plain c =>
    some ([plainToken c],
      Mode.behind .outside (isRepetition c && rest.head? = some (.plain '?')))

/-- Reads a symbol between braces, in view of the rest. -/
def readInBraces? (read : List Char) (rest : List Symbol) : Symbol → Option (List Token × Mode)
  | .plain '}' => (count? read.reverse).map fun token =>
    ([token], Mode.behind .outside (rest.head? = some (.plain '?')))
  | .plain c => some ([], .braces (c :: read))
  | .escaped _ => none

/-- Reads a member of a set, in view of the rest: a range if a minus sign follows and neither a
closing bracket nor another minus sign behind that. -/
def readMember? (symbol : Symbol) (rest : List Symbol) : Option (CharSet × Nat) :=
  match rest with
  | .plain '-' :: last :: _ =>
    if last = .plain ']' || last = .plain '-' then (symbolSet? symbol).map (·, 0)
    else do
      let low ← rangeEnd? symbol
      let high ← rangeEnd? last
      if low ≤ high then some (⟨[(low.toNat, high.toNat)]⟩, 2) else none
  | _ => (symbolSet? symbol).map (·, 0)

/-- Reads a symbol between brackets, in view of the rest. Minus signs right behind the opening
bracket stand for themselves, and so does a closing bracket there. -/
def readInBrackets? (outer : Nat) (front : Front) (rest : List Symbol) (symbol : Symbol) :
    Option (List Token × Mode) :=
  let further := Mode.brackets outer .past
  if symbol = .plain '-' && front != .past then
    some ([.member (.singleton '-')], .brackets outer .dashes)
  else if symbol = .plain ']' && front = .bare then some ([.member (.singleton ']')], further)
  else if symbol = .plain ']' then
    some ([.closeSet], if outer = 0 then .outside else .brackets (outer - 1) .past)
  else if symbol = .plain '[' then
    match namedSet? rest with
    | some (set, read) => some ([.member set], .passing read further)
    | none => some (openBracket (outer + 1) rest)
  else
    match operator? symbol rest with
    | some operator => some ([.operator operator], .passing 1 further)
    | none => (readMember? symbol rest).map fun (set, read) => ([.member set], .passing read further)

/-- Reads one symbol, in view of the rest. -/
def read? (rest : List Symbol) (symbol : Symbol) : Mode → Option (List Token × Mode)
  | .outside => readOutside? rest symbol
  | .brackets outer front => readInBrackets? outer front rest symbol
  | .braces read => readInBraces? read rest symbol
  | .passing 0 mode => read? rest symbol mode
  | .passing (count + 1) mode => some ([], .passing count mode)

def Mode.isOutside : Mode → Bool
  | .outside => true
  | .passing _ mode => mode.isOutside
  | _ => false

def tokensIn? (mode : Mode) : List Symbol → Option (List Token)
  | [] => if mode.isOutside then some [] else none
  | symbol :: rest => do
    let (tokens, mode) ← read? rest symbol mode
    let others ← tokensIn? mode rest
    return tokens ++ others

def tokens? (text : List Char) : Option (List Token) := (symbols? text).bind (tokensIn? .outside)

end FareTerminal.Pattern
