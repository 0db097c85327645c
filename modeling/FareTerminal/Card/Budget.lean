/-! How much a card may be made to modify within one secure session.

Older cards count the modifying commands, newer ones the bytes of a session buffer. Numbers are
64-bit words: `record` stays at the highest one, the other sums wrap around. A terminal can also be
built so that it checks each sum and stops where one has no room; the functions that end in a question
mark are those of such a terminal, and give nothing where it stops. -/

namespace FareTerminal.Card

/-- What a budget counts. -/
inductive BudgetUnit where
  | bytes
  | commands
  deriving Repr, DecidableEq

/-- The sizes of the session buffer, by the indicator in the startup information. -/
def bufferSizes : List UInt64 :=
  [0, 0, 0, 0, 0, 0, 215, 256, 304, 362, 430, 512, 608, 724, 861, 1024, 1217, 1448, 1722, 2048,
   2435, 2896, 3444, 4096, 4870, 5792, 6888, 8192, 9741, 11585, 13777, 16384, 19483, 23170, 27554,
   32768, 38967, 46340, 55108, 65536, 77935, 92681, 110217, 131072, 155871, 185363, 220435, 262144,
   311743, 370727, 440871, 524288, 623487, 741455, 881743, 1048576]

/-- The size of the session buffer for an indicator, zero for one that is not in use. -/
def bufferSize (indicator : UInt8) : UInt64 := bufferSizes[indicator.toNat]?.getD 0

/-- The bytes of the session buffer that a modifying command takes. -/
def bufferCost (length : UInt64) : UInt64 := length + 6

/-- A sum, if it has room in 64 bits. -/
def add? (a b : UInt64) : Option UInt64 :=
  if a.toNat + b.toNat < UInt64.size then some (a + b) else none

def bufferCost? (length : UInt64) : Option UInt64 := add? length 6

/-- A limit and how much of it is used. -/
structure Budget where
  unit : BudgetUnit
  max : UInt64
  used : UInt64 := 0
  deriving Repr, DecidableEq

namespace Budget

/-- Why a command may not be sent any more. -/
structure Overflow where
  required : UInt64
  remaining : UInt64
  deriving Repr, DecidableEq

def Overflow.message (overflow : Overflow) : String :=
  "modification buffer overflow: " ++ toString overflow.required.toNat ++ " needed, " ++
    toString overflow.remaining.toNat ++ " left"

def remaining (budget : Budget) : UInt64 :=
  if budget.used ≤ budget.max then budget.max - budget.used else 0

/-- What a modifying command with so much data costs. -/
def cost (budget : Budget) (length : UInt64) : UInt64 :=
  match budget.unit with
  | .commands => 1
  | .bytes => bufferCost length

/-- Whether a command with so much data is too much for the budget. -/
def overflows (budget : Budget) (length : UInt64) : Bool :=
  budget.used + budget.cost length > budget.max

def record (budget : Budget) (length : UInt64) : Budget :=
  { budget with used := UInt64.ofNatClamp (budget.used.toNat + (budget.cost length).toNat) }

/-- Accounts for a command that fits. -/
def charge (budget : Budget) (length : UInt64) : Except Overflow Budget :=
  if budget.overflows length then .error ⟨budget.cost length, budget.remaining⟩
  else .ok (budget.record length)

def reset (budget : Budget) : Budget := { budget with used := 0 }

def cost? (budget : Budget) (length : UInt64) : Option UInt64 :=
  match budget.unit with
  | .commands => some 1
  | .bytes => bufferCost? length

def overflows? (budget : Budget) (length : UInt64) : Option Bool := do
  return (← add? budget.used (← budget.cost? length)) > budget.max

def record? (budget : Budget) (length : UInt64) : Option Budget := do
  let cost ← budget.cost? length
  return { budget with used := UInt64.ofNatClamp (budget.used.toNat + cost.toNat) }

def charge? (budget : Budget) (length : UInt64) : Option (Except Overflow Budget) := do
  if ← budget.overflows? length then
    return .error ⟨← budget.cost? length, budget.remaining⟩
  else
    return .ok (← budget.record? length)

@[simp] theorem max_record (budget : Budget) (length : UInt64) :
    (budget.record length).max = budget.max := rfl

@[simp] theorem unit_record (budget : Budget) (length : UInt64) :
    (budget.record length).unit = budget.unit := rfl

@[simp] theorem used_reset (budget : Budget) : budget.reset.used = 0 := rfl

end Budget

end FareTerminal.Card
