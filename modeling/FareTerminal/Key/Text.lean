import FareTerminal.Bytes
import FareTerminal.Key.Table
import FareTerminal.Text.Lines
import FareTerminal.Text.Quoted

/-! The text of a key table.

A line names an access level, a key identifier and a key version, or it is `KVC` with a key version
that is accepted; fields are separated by tabs. Blank lines, and lines that begin with a number
sign, say nothing. The first line that is wrong decides the error. -/

namespace FareTerminal.Text

/-- The number written by hexadecimal digits, at least one of them. -/
def hexNumber? : List Char → Option Nat
  | [] => none
  | digits => digits.foldlM (fun n c => (Hex.digit? c).map (16 * n + ·)) 0

/-- The field without a leading plus sign. -/
def dropPlus : List Char → List Char
  | '+' :: rest => rest
  | field => field

/-- The byte in a field: hexadecimal digits of either case, with any number of leading zeros, an
optional plus sign in front and white space around. -/
def hexByte? (field : List Char) : Option UInt8 :=
  match hexNumber? (dropPlus (trim field)) with
  | some n => if n < 256 then some (UInt8.ofNat n) else none
  | none => none

example : hexByte? " +0ff ".toList = some 0xFF := by decide
example : hexByte? "100".toList = none := by decide
example : hexByte? "+".toList = none := by decide

end FareTerminal.Text

namespace FareTerminal

/-- What can be wrong with a line. -/
inductive KeyLineFault where
  | missingField
  | unknownLevel (label : String)
  | invalidByte (field : String)
  deriving Repr, DecidableEq

/-- A line, counted from one, and what is wrong with it. -/
structure KeyTableError where
  line : Nat
  fault : KeyLineFault
  deriving Repr, DecidableEq

namespace KeyTableError

def message (error : KeyTableError) : String :=
  "line " ++ toString error.line ++ ": " ++
    match error.fault with
    | .missingField => "expected LEVEL<TAB>KIF<TAB>KVC or KVC<TAB>value"
    | .unknownLevel label => "unknown access level " ++ Text.quote label
    | .invalidByte field => "invalid hex byte " ++ Text.quote field

end KeyTableError

namespace KeyEntry

def readByte (field : List Char) : Except KeyLineFault UInt8 :=
  match Text.hexByte? field with
  | some b => .ok b
  | none => .error (.invalidByte (String.ofList field))

/-- The entry on a line of fields; further fields are not looked at. -/
def ofFields : List (List Char) → Except KeyLineFault KeyEntry
  | label :: fields =>
    if label = "KVC".toList then
      match fields with
      | kvc :: _ => version <$> readByte kvc
      | [] => .error .missingField
    else
      match fields with
      | kif :: kvc :: _ =>
        match AccessLevel.ofLabel? (String.ofList label) with
        | some level => return key level ⟨← readByte kif, ← readByte kvc⟩
        | none => .error (.unknownLevel (String.ofList label))
      | _ => .error .missingField
  | [] => .error .missingField

/-- Whether a line says nothing: it is blank, or its first character is a number sign. -/
def isSilent (line : List Char) : Bool := (Text.trim line).isEmpty || line.head? == some '#'

/-- The entry on a line, if it has one. -/
def ofLine (line : List Char) : Except KeyLineFault (Option KeyEntry) :=
  if isSilent line then .ok none else some <$> ofFields (line.splitOn '\t')

/-- The entries of the lines from line `start` on, up to the first line that is wrong. -/
def ofLines (start : Nat) : List (List Char) → Except KeyTableError (List KeyEntry)
  | [] => .ok []
  | line :: rest =>
    match ofLine line with
    | .error fault => .error ⟨start, fault⟩
    | .ok none => ofLines (start + 1) rest
    | .ok (some entry) => (entry :: ·) <$> ofLines (start + 1) rest

@[simp] theorem ofLines_nil (start : Nat) : ofLines start [] = .ok [] := rfl

end KeyEntry

def KeyTable.parse (text : String) : Except KeyTableError KeyTable :=
  KeyTable.ofEntries <$> KeyEntry.ofLines 1 (Text.lines text.toList)

end FareTerminal
