import FareTerminal.Proofs.StoredValue.Limits

/-! What a policy decides about any 32-bit balance. The balance after a change is kept at the ends of the
32-bit range before it is compared. At the upper end the verdict is the same as without; at the lower
end it is not if the floor or the balance is the lowest number itself, for then a result below that
number is taken for one that is high enough. -/

namespace FareTerminal.StoredValue

/-- The balance after the change is at the floor or above it, or is at least not taken down. -/
def Policy.Upholds (policy : Policy) (balance result : Int) : Prop :=
  policy.floor.toInt ≤ result ∨ balance ≤ result

instance (policy : Policy) (balance result : Int) : Decidable (policy.Upholds balance result) := by
  unfold Policy.Upholds
  infer_instance

/-- The balance after the change is below the lowest number, which is the floor or the balance
before. -/
def Policy.Escapes (policy : Policy) (balance result : Int) : Prop :=
  result < -0x80000000 ∧ (policy.floor.toInt = -0x80000000 ∨ balance = -0x80000000)

instance (policy : Policy) (balance result : Int) : Decidable (policy.Escapes balance result) := by
  unfold Policy.Escapes
  infer_instance

theorem nearest_of_lt {n : Int} (low : n < -0x80000000) : nearest n = -0x80000000 := if_pos low

theorem le_nearest_iff {bound n : Int} (upper : bound ≤ 0x7FFFFFFF) (low : ¬n < -0x80000000) :
    bound ≤ nearest n ↔ bound ≤ n := by
  rw [nearest, if_neg low]
  split <;> omega

/-- A result that escapes is let pass, and any other is judged as it is. -/
theorem Policy.upholds_nearest_iff (policy : Policy) (balance : Int32) (result : Int) :
    policy.Upholds balance.toInt (nearest result) ↔
      policy.Upholds balance.toInt result ∨ policy.Escapes balance.toInt result := by
  have floor := policy.floor.minValue_le_toInt
  have before := balance.minValue_le_toInt
  have first : Int32.minValue.toInt = -0x80000000 := rfl
  unfold Upholds Escapes
  by_cases low : result < -0x80000000
  · rw [nearest_of_lt low]
    omega
  · rw [le_nearest_iff policy.floor.toInt_le low, le_nearest_iff balance.toInt_le low]
    simp [low]

/-- The policy lets a change pass exactly if the amount is in the range of the action and the exact
balance after it is high enough, unless that escapes; then it lets pass any amount in range, although
the balance is taken down to below the floor. -/
theorem check_exact (policy : Policy) (action : Action) (balance amount : Int32) :
    let result := action.result balance.toInt amount.toInt
    (¬policy.Escapes balance.toInt result →
      (policy.check action balance amount = .ok () ↔
        action.Allows amount.toInt ∧ policy.Upholds balance.toInt result)) ∧
    (policy.Escapes balance.toInt result →
      (policy.check action balance amount = .ok () ↔ action.Allows amount.toInt) ∧
        ¬policy.Upholds balance.toInt result) := by
  intro result
  have verdict := policy.check_eq_ok_iff action balance amount
  rw [← Policy.Upholds, policy.upholds_nearest_iff] at verdict
  refine ⟨fun inside => ?_, fun escapes => ⟨?_, ?_⟩⟩
  · rwa [or_iff_left inside] at verdict
  · rwa [and_iff_left (.inr escapes)] at verdict
  · have floor := policy.floor.minValue_le_toInt
    have before := balance.minValue_le_toInt
    obtain ⟨low, -⟩ := escapes
    rintro (above | kept)
    · exact absurd low (Int.not_lt.mpr (Int.le_trans floor above))
    · exact absurd low (Int.not_lt.mpr (Int.le_trans before kept))

/-- A debit from the lowest balance, far below the floor, is let pass, and so is one that goes past a
floor at the lowest number. -/
theorem check_escapes :
    ({ floor := 0 } : Policy).check .debit (-2147483648) 1 = .ok () ∧
      ¬({ floor := 0 } : Policy).Upholds (-2147483648) (Action.debit.result (-2147483648) 1) ∧
      ({ floor := -2147483648 } : Policy).check .reload (-2147483640) (-9) = .ok () ∧
      ¬({ floor := -2147483648 } : Policy).Upholds (-2147483640)
        (Action.reload.result (-2147483640) (-9)) :=
  ⟨rfl, by decide, rfl, by decide⟩

/-- At both ends of the range, and the verdict is that of the exact balance. -/
theorem check_exact_saturated :
    let policy : Policy := { floor := 100 }
    policy.check .undebit 2147483647 32767 = .ok () ∧
      policy.check .debit (-2147483640) 9 ≠ .ok () ∧
      ({ floor := -2147483648 } : Policy).check .debit (-2147483640) 9 = .ok () := by
  intro policy
  have upper := (check_exact policy .undebit 2147483647 32767).1 (by decide)
  have lower := (check_exact policy .debit (-2147483640) 9).1 (by decide)
  have escaped := (check_exact { floor := -2147483648 } .debit (-2147483640) 9).2 (by decide)
  exact ⟨upper.mpr ⟨⟨by decide, by decide⟩, by decide⟩,
    fun passed => absurd (lower.mp passed).2 (by decide),
    escaped.1.mpr ⟨by decide, by decide⟩⟩

end FareTerminal.StoredValue
