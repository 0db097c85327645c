/-! Access levels of a secure session. -/

namespace FareTerminal

/-- What a session may do, and with it the family of keys that protects it. -/
inductive AccessLevel where
  | personalization
  | load
  | debit
  deriving Repr, DecidableEq

namespace AccessLevel

/-- The number of the key on the card. -/
def keyIndex : AccessLevel → UInt8
  | personalization => 1
  | load => 2
  | debit => 3

/-- The name of the level in a key table. -/
def label : AccessLevel → String
  | personalization => "PERSO"
  | load => "LOAD"
  | debit => "DEBIT"

def ofLabel? (label : String) : Option AccessLevel :=
  if label = "PERSO" then some personalization
  else if label = "LOAD" then some load
  else if label = "DEBIT" then some debit
  else none

@[simp] theorem ofLabel?_label (level : AccessLevel) : ofLabel? level.label = some level := by
  cases level <;> rfl

end AccessLevel

end FareTerminal
