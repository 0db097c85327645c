import FareTerminal.Card.Identity

/-! What a budget means in plain numbers: with a limit as small as those of cards, nothing wraps
around. -/

namespace FareTerminal.Card

/-- The price of a modifying command with so much data. -/
def BudgetUnit.price : BudgetUnit → Nat → Nat
  | .commands, _ => 1
  | .bytes, length => length + 6

theorem BudgetUnit.price_le_price (unit : BudgetUnit) {length longer : Nat} (le : length ≤ longer) :
    unit.price length ≤ unit.price longer := by
  cases unit with
  | commands => exact Nat.le_refl 1
  | bytes => exact Nat.add_le_add_right le 6

theorem BudgetUnit.price_le (unit : BudgetUnit) (length : Nat) : unit.price length ≤ length + 6 := by
  cases unit with
  | commands => exact Nat.le_add_left 1 (length + 5)
  | bytes => exact Nat.le_refl _

namespace Budget

/-- What would be used after a command with so much data, without any limit. -/
def total (budget : Budget) (length : UInt64) : Nat :=
  budget.used.toNat + budget.unit.price length.toNat

theorem toNat_cost_of_lt {budget : Budget} {length : UInt64}
    (room : budget.unit.price length.toNat < UInt64.size) :
    (budget.cost length).toNat = budget.unit.price length.toNat := by
  unfold cost
  cases counted : budget.unit with
  | commands => rfl
  | bytes =>
    rw [counted] at room
    change (length + 6).toNat = length.toNat + 6
    rw [UInt64.toNat_add]
    exact Nat.mod_eq_of_lt room

theorem toNat_ofNat_of_short {length : Nat} (short : length < 0x8000000000000000) :
    (UInt64.ofNat length).toNat = length :=
  UInt64.toNat_ofNat_of_lt' (Nat.lt_trans short (by decide))

theorem toNat_cost (budget : Budget) {length : Nat} (short : length < 0x8000000000000000) :
    (budget.cost (UInt64.ofNat length)).toNat = budget.unit.price length := by
  have whole := toNat_ofNat_of_short short
  have room : budget.unit.price length < UInt64.size :=
    Nat.lt_of_le_of_lt (budget.unit.price_le length)
      (Nat.lt_trans (Nat.add_lt_add_right short 6) (by decide))
  rw [toNat_cost_of_lt (by rwa [whole]), whole]

/-- Within a session the exact sum has room. -/
theorem total_lt_size {budget : Budget} {length : Nat} (short : length < 0x8000000000000000)
    (within : budget.used ≤ budget.max) (small : budget.max.toNat ≤ 0x100000) :
    budget.total (UInt64.ofNat length) < UInt64.size := by
  have used : budget.used.toNat ≤ budget.max.toNat := within
  have price := budget.unit.price_le length
  have size : UInt64.size = 18446744073709551616 := rfl
  rw [total, toNat_ofNat_of_short short]
  omega

theorem toNat_used_add_cost (budget : Budget) (length : UInt64) :
    (budget.used + budget.cost length).toNat = budget.total length % UInt64.size := by
  unfold cost total
  cases counted : budget.unit with
  | commands => exact UInt64.toNat_add budget.used 1
  | bytes =>
    have six : (6 : UInt64).toNat = 6 := rfl
    change (budget.used + (length + 6)).toNat = _
    rw [UInt64.toNat_add, UInt64.toNat_add, six]
    exact Nat.add_mod_mod _ _ _

/-- The verdict is taken on the sum modulo 2^64. -/
theorem overflows_iff (budget : Budget) (length : UInt64) :
    budget.overflows length = true ↔ budget.max.toNat < budget.total length % UInt64.size := by
  rw [overflows, decide_eq_true_iff, gt_iff_lt, UInt64.lt_iff_toNat_lt, toNat_used_add_cost]

/-- A command is charged exactly if it is within the limit. -/
theorem charge_ofNat {budget : Budget} {length : Nat} (short : length < 0x8000000000000000)
    (within : budget.used ≤ budget.max) (small : budget.max.toNat ≤ 0x100000) :
    budget.charge (UInt64.ofNat length) =
      if budget.max.toNat < budget.used.toNat + budget.unit.price length then
        .error ⟨budget.cost (UInt64.ofNat length), budget.max - budget.used⟩
      else .ok (budget.record (UInt64.ofNat length)) := by
  have exceeds := budget.overflows_iff (UInt64.ofNat length)
  rw [Nat.mod_eq_of_lt (total_lt_size short within small), total,
    toNat_ofNat_of_short short] at exceeds
  simp only [charge, exceeds, remaining, if_pos within]

theorem toNat_used_record {budget : Budget} {length : Nat} (short : length < 0x8000000000000000)
    (fits : budget.used.toNat + budget.unit.price length ≤ budget.max.toNat) :
    (budget.record (UInt64.ofNat length)).used.toNat =
      budget.used.toNat + budget.unit.price length := by
  have bound := budget.max.toNat_lt
  rw [record, budget.toNat_cost short]
  exact UInt64.toNat_ofNatClamp_of_lt (Nat.lt_of_le_of_lt fits bound)

end Budget

theorem used_budget (identity : Identity) : identity.budget.used = 0 := by
  unfold Identity.budget
  split <;> rfl

theorem max_budget_le (identity : Identity) : identity.budget.max.toNat ≤ 0x100000 := by
  have sizes : bufferSizes.all (·.toNat ≤ 0x100000) = true := by decide
  unfold Identity.budget
  split
  · decide
  · decide
  all_goals
    simp only [bufferSize]
    cases found : bufferSizes[identity.startup.bufferSizeIndicator.toNat]? with
    | none => simp
    | some size => simpa using List.all_eq_true.mp sizes size (List.mem_of_getElem? found)

end FareTerminal.Card
