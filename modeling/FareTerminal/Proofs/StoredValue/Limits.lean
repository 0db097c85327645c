import FareTerminal.StoredValue.Change
import FareTerminal.StoredValue.Reading

/-! The limits of a change in exact arithmetic. `Policy.check_eq_ok_iff` says what a policy lets pass,
with the balance after the change cut off at the ends of the 32-bit range. A card tells its balance in
three bytes and no amount takes more, so that nothing of it is ever cut off (`Action.nearest_result`). -/

namespace FareTerminal.StoredValue

/-- The balance after the change, without any limit. -/
def Action.result (action : Action) (balance amount : Int) : Int :=
  match action with
  | reload | undebit => balance + amount
  | debit => balance - amount

/-- The amount is in the range of the action, and the balance ends at the floor or above it, or is at
least not taken down. -/
structure WithinLimits (policy : Policy) (change : Change) (balance : Int32) : Prop where
  least : change.action.range.1 ≤ change.amount
  greatest : change.amount ≤ change.action.range.2
  floor : policy.floor.toInt ≤ change.action.result balance.toInt change.amount.toInt ∨
    balance.toInt ≤ change.action.result balance.toInt change.amount.toInt

/-- A balance of three bytes. -/
def IsShort (balance : Int32) : Prop := -0x800000 ≤ balance.toInt ∧ balance.toInt < 0x800000

theorem isShort_signed {bytes : Bytes} (three : bytes.length = 3) :
    IsShort (BigEndian.signed bytes) := by
  have width : BigEndian.capacity (min bytes.length 4) = 0x1000000 := by rw [three]; rfl
  have lower : -(((0x1000000 : Nat) : Int) / 2) ≤ (BigEndian.value bytes : Int).bmod 0x1000000 :=
    Int.le_bmod (by decide)
  have upper : (BigEndian.value bytes : Int).bmod 0x1000000 < (((0x1000000 : Nat) : Int) + 1) / 2 :=
    Int.bmod_lt (by decide)
  unfold BigEndian.signed IsShort
  rw [width, Int32.toInt_ofInt_of_le (by omega) (by omega)]
  omega

namespace Reading

theorem ofResponse?_eq_some {operation : Operation} {command response : Bytes} {reading : Reading}
    (told : ofResponse? operation command response = some reading) :
    reading.operation = operation ∧ reading.command = command ∧ reading.response = response ∧
      IsShort reading.balance := by
  unfold ofResponse? at told
  split at told
  · obtain ⟨logs, -, rfl⟩ := Option.map_eq_some_iff.mp told
    exact ⟨rfl, rfl, rfl, isShort_signed rfl⟩
  · cases told

end Reading

/-- An amount of a reload has three bytes and a sign, any other two bytes and none. -/
def Action.Allows : Action → Int → Prop
  | reload, amount => -0x800000 ≤ amount ∧ amount ≤ 0x7FFFFF
  | debit, amount | undebit, amount => 0 ≤ amount ∧ amount ≤ 0x7FFF

theorem Action.allows_iff (action : Action) (amount : Int32) :
    action.Allows amount.toInt ↔ action.range.1 ≤ amount ∧ amount ≤ action.range.2 := by
  rw [Int32.le_iff_toInt_le, Int32.le_iff_toInt_le]
  cases action <;> exact Iff.rfl

/-- The nearest number that 32 bits hold. -/
def nearest (n : Int) : Int :=
  if n < -0x80000000 then -0x80000000 else if 0x7FFFFFFF < n then 0x7FFFFFFF else n

theorem toInt_ofIntClamp_eq (n : Int) : (Int32.ofIntClamp n).toInt = nearest n := by
  have first : Int32.minValue.toInt = -0x80000000 := rfl
  have last : Int32.maxValue.toInt = 0x7FFFFFFF := rfl
  unfold nearest
  split
  · rename_i low
    rw [Int32.ofIntClamp, dif_neg (by omega), first]
  · split
    · rename_i high
      rw [Int32.ofIntClamp, dif_pos (by omega), dif_neg (by omega), last]
    · exact Int32.toInt_ofIntClamp (by omega) (by omega)

theorem Action.toInt_apply (action : Action) (balance amount : Int32) :
    (action.apply balance amount).toInt = nearest (action.result balance.toInt amount.toInt) := by
  cases action <;> exact toInt_ofIntClamp_eq _

/-- What the policy lets pass, with the balance kept within 32 bits. -/
theorem Policy.check_eq_ok_iff (policy : Policy) (action : Action) (balance amount : Int32) :
    policy.check action balance amount = .ok () ↔
      action.Allows amount.toInt ∧
        (policy.floor.toInt ≤ nearest (action.result balance.toInt amount.toInt) ∨
          balance.toInt ≤ nearest (action.result balance.toInt amount.toInt)) := by
  rw [action.allows_iff, ← action.toInt_apply, ← Int32.le_iff_toInt_le, ← Int32.le_iff_toInt_le]
  simp only [check]
  split
  · rename_i outside
    refine ⟨nofun, fun ⟨⟨least, greatest⟩, _⟩ => ?_⟩
    rcases outside with less | more
    · exact absurd least (Int32.not_le.mpr less)
    · exact absurd greatest (Int32.not_le.mpr more)
  · rename_i inside
    obtain ⟨least, greatest⟩ := not_or.mp inside
    have allowed := And.intro (Int32.not_lt.mp least) (Int32.not_lt.mp greatest)
    split
    · rename_i below
      refine ⟨nofun, fun ⟨_, above⟩ => ?_⟩
      rcases above with floor | kept
      · exact absurd floor (Int32.not_le.mpr below.1)
      · exact absurd kept (Int32.not_le.mpr below.2)
    · rename_i above
      exact ⟨fun _ => ⟨allowed, (Decidable.not_and_iff_not_or_not.mp above).imp
        Int32.not_lt.mp Int32.not_lt.mp⟩, fun _ => rfl⟩

/-- No change takes a balance of three bytes out of 32 bits. -/
theorem Action.nearest_result (action : Action) {balance amount : Int} (lower : -0x800000 ≤ balance)
    (upper : balance < 0x800000) (allowed : action.Allows amount) :
    nearest (action.result balance amount) = action.result balance amount := by
  have inside : -0x80000000 ≤ action.result balance amount ∧
      action.result balance amount ≤ 0x7FFFFFFF := by
    cases action <;> simp only [Allows, result] at allowed ⊢ <;> omega
  rw [nearest, if_neg (Int.not_lt.mpr inside.1), if_neg (Int.not_lt.mpr inside.2)]

/-- What the policy lets pass is within the limits. -/
theorem withinLimits_of_check {policy : Policy} {change : Change} {balance : Int32}
    (short : IsShort balance) (passed : policy.check change.action balance change.amount = .ok ()) :
    WithinLimits policy change balance := by
  obtain ⟨allowed, floor⟩ := (policy.check_eq_ok_iff _ _ _).mp passed
  obtain ⟨least, greatest⟩ := (change.action.allows_iff _).mp allowed
  rw [change.action.nearest_result short.1 short.2 allowed] at floor
  exact ⟨least, greatest, floor⟩

end FareTerminal.StoredValue
