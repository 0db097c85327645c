/-! What can be done with the value stored on a card, and the limits a terminal sets. -/

namespace FareTerminal.StoredValue

/-- What a stored value is read for. -/
inductive Operation where
  | reload
  | debit
  deriving Repr, DecidableEq

def Operation.other : Operation → Operation
  | reload => debit
  | debit => reload

def Operation.name : Operation → String
  | reload => "Reload"
  | debit => "Debit"

/-- A change of the stored value. -/
inductive Action where
  | reload
  | debit
  | undebit
  deriving Repr, DecidableEq

namespace Action

/-- What the value has to be read for before it is changed. -/
def operation : Action → Operation
  | reload => .reload
  | debit | undebit => .debit

/-- The least and the greatest amount: three bytes with a sign, or two without. -/
def range : Action → Int32 × Int32
  | reload => (-8388608, 8388607)
  | debit | undebit => (0, 32767)

/-- The balance after the change, kept at the ends of the 32-bit range. -/
def apply (action : Action) (balance amount : Int32) : Int32 :=
  match action with
  | reload | undebit => Int32.ofIntClamp (balance.toInt + amount.toInt)
  | debit => Int32.ofIntClamp (balance.toInt - amount.toInt)

end Action

/-- Why an amount is refused. -/
inductive Refusal where
  | outOfRange (amount min max : Int32)
  | belowFloor (balance floor : Int32)
  deriving Repr, DecidableEq

def Refusal.message : Refusal → String
  | outOfRange amount min max =>
    "SV amount " ++ toString amount.toInt ++ " out of range " ++ toString min.toInt ++ "..=" ++
      toString max.toInt
  | belowFloor balance floor =>
    "SV balance would fall to " ++ toString balance.toInt ++ ", below the allowed floor " ++
      toString floor.toInt

/-- The lowest balance to which a change may take the value. -/
structure Policy where
  floor : Int32 := 0
  deriving Repr, DecidableEq

/-- Refuses an amount out of range, and one that takes the balance down to below the floor. -/
def Policy.check (policy : Policy) (action : Action) (balance amount : Int32) :
    Except Refusal Unit :=
  let (min, max) := action.range
  let result := action.apply balance amount
  if amount < min ∨ max < amount then .error (.outOfRange amount min max)
  else if result < policy.floor ∧ result < balance then .error (.belowFloor result policy.floor)
  else .ok ()

end FareTerminal.StoredValue
