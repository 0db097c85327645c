import FareTerminal.Proofs.Card.Budget

/-! Whether the verdict of a budget can be trusted over a whole session. The sum that decides it is
taken in 64 bits. As long as the exact sum has room there, the verdict is that of the exact sum and
stays once it has been given. Of a sum that has no room there is no verdict where sums are checked;
elsewhere it loses 2^64, and the verdict with it. -/

namespace FareTerminal.Card.Budget

/-- A call that accounts for a command: for any, or only for one that fits. -/
inductive Call where
  | record (length : UInt64)
  | charge (length : UInt64)
  deriving Repr, DecidableEq

/-- The budget after a call; a refusal comes without a new one. -/
def after (budget : Budget) : Call → Budget
  | .record length => budget.record length
  | .charge length =>
    match budget.charge length with
    | .ok charged => charged
    | .error _ => budget

def afterAll (budget : Budget) (calls : List Call) : Budget := calls.foldl after budget

/-- The budget after a call, unless the terminal stops at it. -/
def after? (budget : Budget) : Call → Option Budget
  | .record length => budget.record? length
  | .charge length =>
    (budget.charge? length).map fun
      | .ok charged => charged
      | .error _ => budget

def afterAll? (budget : Budget) (calls : List Call) : Option Budget := calls.foldlM after? budget

@[simp] theorem afterAll_nil (budget : Budget) : budget.afterAll [] = budget := rfl

@[simp] theorem afterAll_cons (budget : Budget) (call : Call) (calls : List Call) :
    budget.afterAll (call :: calls) = (budget.after call).afterAll calls := rfl

theorem charge_of_overflows {budget : Budget} {length : UInt64}
    (overflows : budget.overflows length = true) :
    budget.charge length = .error ⟨budget.cost length, budget.remaining⟩ := by
  rw [charge, if_pos overflows]

theorem charge_of_not_overflows {budget : Budget} {length : UInt64}
    (fits : budget.overflows length = false) :
    budget.charge length = .ok (budget.record length) := by
  rw [charge, if_neg (by simp [fits])]

section Checked

theorem cost?_eq (budget : Budget) (length : UInt64) :
    budget.cost? length =
      if budget.unit.price length.toNat < UInt64.size then some (budget.cost length) else none := by
  unfold cost? cost
  cases budget.unit with
  | commands => rfl
  | bytes => rfl

theorem record?_eq (budget : Budget) (length : UInt64) :
    budget.record? length =
      if budget.unit.price length.toNat < UInt64.size then some (budget.record length)
      else none := by
  rw [record?, cost?_eq]
  split <;> rfl

/-- There is a verdict just if the exact sum has room, and then it is the other terminal's. -/
theorem overflows?_eq (budget : Budget) (length : UInt64) :
    budget.overflows? length =
      if budget.total length < UInt64.size then some (budget.overflows length) else none := by
  have least : budget.unit.price length.toNat ≤ budget.total length := Nat.le_add_left _ _
  rw [overflows?, cost?_eq]
  by_cases room : budget.unit.price length.toNat < UInt64.size
  · have cost : (budget.cost length).toNat = budget.unit.price length.toNat :=
      toNat_cost_of_lt room
    rw [if_pos room, Option.bind_eq_bind, Option.bind_some, add?, cost, ← total]
    split <;> rfl
  · rw [if_neg room, if_neg fun total => room (Nat.lt_of_le_of_lt least total)]
    rfl

theorem charge?_eq (budget : Budget) (length : UInt64) :
    budget.charge? length =
      if budget.total length < UInt64.size then some (budget.charge length) else none := by
  rw [charge?, overflows?_eq]
  by_cases room : budget.total length < UInt64.size
  · have least : budget.unit.price length.toNat < UInt64.size :=
      Nat.lt_of_le_of_lt (Nat.le_add_left _ _) room
    rw [if_pos room, if_pos room, charge, cost?_eq, record?_eq, if_pos least, if_pos least]
    cases budget.overflows length <;> rfl
  · rw [if_neg room, if_neg room]
    rfl

end Checked

/-- A call records its command or does nothing. -/
theorem after_cases (budget : Budget) (call : Call) :
    budget.after call = budget ∨ ∃ length, budget.after call = budget.record length := by
  cases call with
  | record length => exact .inr ⟨length, rfl⟩
  | charge length =>
    cases verdict : budget.overflows length with
    | true => exact .inl (by rw [after, charge_of_overflows verdict])
    | false => exact .inr ⟨length, by rw [after, charge_of_not_overflows verdict]⟩

/-- Recording stays at the highest number, so that nothing is ever given back. -/
theorem used_le_record (budget : Budget) (length : UInt64) :
    budget.used.toNat ≤ (budget.record length).used.toNat := by
  have bound := budget.used.toNat_lt
  have size : UInt64.size = 18446744073709551616 := rfl
  rw [record]
  rcases Nat.lt_or_ge (budget.used.toNat + (budget.cost length).toNat) UInt64.size with fits | full
  · rw [UInt64.toNat_ofNatClamp_of_lt fits]
    exact Nat.le_add_right _ _
  · rw [UInt64.toNat_ofNatClamp_of_le full]
    omega

/-- What a call leaves alone, and which way it moves the rest. -/
structure Grows (budget later : Budget) : Prop where
  unit : later.unit = budget.unit
  max : later.max = budget.max
  used : budget.used.toNat ≤ later.used.toNat

theorem Grows.refl (budget : Budget) : budget.Grows budget := ⟨rfl, rfl, Nat.le_refl _⟩

theorem Grows.trans {first second third : Budget} (left : first.Grows second)
    (right : second.Grows third) : first.Grows third :=
  ⟨right.unit.trans left.unit, right.max.trans left.max, Nat.le_trans left.used right.used⟩

theorem grows_after (budget : Budget) (call : Call) : budget.Grows (budget.after call) := by
  rcases budget.after_cases call with same | ⟨length, recorded⟩
  · rw [same]
    exact .refl budget
  · rw [recorded]
    exact ⟨rfl, rfl, budget.used_le_record length⟩

theorem grows_afterAll (budget : Budget) (calls : List Call) :
    budget.Grows (budget.afterAll calls) := by
  induction calls generalizing budget with
  | nil =>
    rw [afterAll_nil]
    exact .refl budget
  | cons call calls ih =>
    rw [afterAll_cons]
    exact (budget.grows_after call).trans (ih _)

theorem Grows.total_le {budget later : Budget} (grows : budget.Grows later) (length : UInt64) :
    budget.total length ≤ later.total length := by
  rw [total, total, grows.unit]
  exact Nat.add_le_add_right grows.used _

theorem total_le_total (budget : Budget) {length longer : UInt64} (le : length ≤ longer) :
    budget.total length ≤ budget.total longer := by
  exact Nat.add_le_add_left (budget.unit.price_le_price (UInt64.le_iff_toNat_le.mp le)) _

theorem overflows_iff_of_lt {budget : Budget} {length : UInt64}
    (room : budget.total length < UInt64.size) :
    budget.overflows length = true ↔ budget.max.toNat < budget.total length := by
  rw [overflows_iff, Nat.mod_eq_of_lt room]

theorem after_of_after? {budget next : Budget} {call : Call}
    (reached : budget.after? call = some next) : budget.after call = next := by
  cases call with
  | record length =>
    rw [after?, record?_eq] at reached
    split at reached
    · exact Option.some.inj reached
    · cases reached
  | charge length =>
    rw [after?, charge?_eq] at reached
    split at reached
    · exact Option.some.inj reached
    · cases reached

/-- Checking the sums makes no other difference than that the terminal may stop. -/
theorem afterAll_of_afterAll? {budget reached : Budget} {calls : List Call}
    (reaches : budget.afterAll? calls = some reached) : budget.afterAll calls = reached := by
  induction calls generalizing budget with
  | nil => exact Option.some.inj reaches
  | cons call calls ih =>
    rw [afterAll?, List.foldlM_cons] at reaches
    obtain ⟨next, first, rest⟩ := Option.bind_eq_some_iff.mp reaches
    rw [afterAll_cons, after_of_after? first]
    exact ih rest

/-- The verdict after any calls. While the exact sum has room in 64 bits, there is a verdict, which is
that of the exact sum, stands once it has been given, and applies to any longer command too. Of a sum
that has no room there is none where sums are checked; elsewhere only what is left modulo 2^64 counts.
A command that is refused changes nothing. -/
theorem overflows_afterAll (budget : Budget) (calls : List Call) (length : UInt64) :
    let later := budget.afterAll calls
    (∀ reached, budget.afterAll? calls = some reached → reached = later) ∧
    (later.total length < UInt64.size →
      later.overflows? length = some (later.overflows length) ∧
      later.charge? length = some (later.charge length) ∧
      (later.overflows length = true ↔ later.max.toNat < later.total length) ∧
      (budget.overflows length = true → later.overflows length = true)) ∧
    (∀ longer, length ≤ longer → later.total longer < UInt64.size →
      later.overflows length = true → later.overflows longer = true) ∧
    (UInt64.size ≤ later.total length →
      later.overflows? length = none ∧ later.charge? length = none ∧
      (later.overflows length = true ↔
        later.max.toNat < later.total length % UInt64.size)) ∧
    (later.overflows length = true →
      later.charge length = .error ⟨later.cost length, later.remaining⟩ ∧
        later.after (.charge length) = later) := by
  intro later
  have grows : budget.Grows later := budget.grows_afterAll calls
  refine ⟨fun reached reaches => (afterAll_of_afterAll? reaches).symm, fun room =>
    ⟨?_, ?_, overflows_iff_of_lt room, fun given => ?_⟩, ?_, fun full =>
    ⟨?_, ?_, later.overflows_iff length⟩, fun refused => ?_⟩
  · rw [overflows?_eq, if_pos room]
  · rw [charge?_eq, if_pos room]
  · have less := grows.total_le length
    rw [overflows_iff_of_lt (Nat.lt_of_le_of_lt less room)] at given
    rw [overflows_iff_of_lt room, grows.max]
    exact Nat.lt_of_lt_of_le given less
  · intro longer le room given
    have less := later.total_le_total le
    rw [overflows_iff_of_lt (Nat.lt_of_le_of_lt less room)] at given
    rw [overflows_iff_of_lt room]
    exact Nat.lt_of_lt_of_le given less
  · rw [overflows?_eq, if_neg (Nat.not_lt.mpr full)]
  · rw [charge?_eq, if_neg (Nat.not_lt.mpr full)]
  · have charged := charge_of_overflows refused
    exact ⟨charged, by rw [after, charged]⟩

/-- Two commands are recorded, and the verdict that there is on a third after the first of them is not
given any more after the second, though the exact sum is beyond the limit. Where sums are checked, the
terminal stops instead. -/
def Withdraws (budget : Budget) (first second third : UInt64) : Prop :=
  let earlier := budget.afterAll [.record first]
  let later := budget.afterAll [.record first, .record second]
  budget.afterAll? [.record first, .record second] = some later ∧
    earlier.overflows third = true ∧ earlier.overflows? third = some true ∧
    later.overflows third = false ∧ later.overflows? third = none ∧
    later.max.toNat < later.total third

/-- A verdict is withdrawn once the exact sum is above 2^64, and does not apply to longer commands then
either. -/
theorem overflows_withdrawn :
    let budget : Budget := { unit := .bytes, max := 100 }
    budget.Withdraws 200 18446744073709551606 1 ∧
      budget.Withdraws 9223372036854775807 9223372036854775807 1 ∧
      budget.overflows? 95 = some true ∧ budget.overflows 18446744073709551615 = false ∧
      budget.overflows? 18446744073709551615 = none := by
  refine ⟨?_, ?_, by decide, by decide, by decide⟩
  · exact ⟨by decide, by decide, by decide, by decide, by decide, by decide⟩
  · exact ⟨by decide, by decide, by decide, by decide, by decide, by decide⟩

/-- A session of three calls, the second of which is refused. -/
theorem overflows_afterAll_refused :
    let budget : Budget := { unit := .bytes, max := 60 }
    let later := budget.afterAll [.record 29, .charge 29, .charge 10]
    later.used = 51 ∧ budget.afterAll? [.record 29, .charge 29, .charge 10] = some later ∧
      budget.overflows 60 = true ∧ later.overflows 60 = true ∧
      later.overflows? 4 = some true ∧ later.overflows 18446744073709551558 = true ∧
      later.after (.charge 4) = later := by
  intro budget later
  have used : later.used = 51 := by decide
  have reaches : budget.afterAll? [.record 29, .charge 29, .charge 10] = some later := by decide
  have given : later.overflows 4 = true := by decide
  obtain ⟨-, stands, longer, -, -⟩ :=
    overflows_afterAll budget [.record 29, .charge 29, .charge 10] 60
  obtain ⟨-, exact, -, -, refused⟩ :=
    overflows_afterAll budget [.record 29, .charge 29, .charge 10] 4
  have first : budget.overflows 60 = true := by decide
  have later60 := (stands (by decide)).2.2.2 first
  have verdict := (exact (by decide)).1
  rw [given] at verdict
  exact ⟨used, reaches, first, later60, verdict, longer _ (by decide) (by decide) later60,
    (refused given).2⟩

end FareTerminal.Card.Budget
