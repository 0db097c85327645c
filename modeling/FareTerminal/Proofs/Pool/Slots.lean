import FareTerminal.Pool.Slots

/-! Which slot gives a security module out, and which one takes it back. -/

namespace FareTerminal.Pool

open scoped List

variable {η : Type}

/-- Whether a wanted security module is in a slot. -/
def Slot.offers (wanted : Descriptor → Bool) (slot : Slot η) : Bool :=
  slot.isFree && wanted slot.descriptor

/-- Whether a slot is held under the name and the lease of a security module. -/
def Slot.awaits (resource : Resource η) (slot : Slot η) : Prop :=
  slot.name = resource.name ∧ slot.handle.isNone ∧ slot.lease = resource.slotLease

instance (resource : Resource η) (slot : Slot η) : Decidable (slot.awaits resource) := by
  unfold Slot.awaits
  infer_instance

/-- The first slot with a wanted security module gives it out under a lease. -/
inductive GivesOut (wanted : Descriptor → Bool) (lease : Nat) :
    List (Slot η) → List (Slot η) → Resource η → Prop
  | intro (before : List (Slot η)) {after : List (Slot η)} {slot : Slot η} {handle : η}
    {poolLease : Nat}
    (passed : ∀ earlier ∈ before, earlier.offers wanted = false) (free : slot.handle = some handle)
    (fits : wanted slot.descriptor = true) :
    GivesOut wanted lease (before ++ slot :: after)
      (before ++ { slot with handle := none, lease } :: after)
      { name := slot.name, descriptor := slot.descriptor, handle, slotLease := lease, poolLease }

/-- The first slot that is held under the name and the lease of a security module takes it back. -/
inductive TakesBack (resource : Resource η) : List (Slot η) → List (Slot η) → Prop
  | intro (before : List (Slot η)) {after : List (Slot η)} {slot : Slot η}
    (passed : ∀ earlier ∈ before, ¬earlier.awaits resource) (awaits : slot.awaits resource) :
    TakesBack resource (before ++ slot :: after)
      (before ++ { slot with handle := some resource.handle, lease := 0 } :: after)

theorem GivesOut.cons {wanted : Descriptor → Bool} {lease : Nat} {slots slots' : List (Slot η)}
    {resource : Resource η} {slot : Slot η} (h : GivesOut wanted lease slots slots' resource)
    (passed : slot.offers wanted = false) :
    GivesOut wanted lease (slot :: slots) (slot :: slots') resource := by
  obtain ⟨before, earlier, free, fits⟩ := h
  exact .intro (slot :: before) (List.forall_mem_cons.mpr ⟨passed, earlier⟩) free fits

theorem TakesBack.cons {resource : Resource η} {slots slots' : List (Slot η)} {slot : Slot η}
    (h : TakesBack resource slots slots') (passed : ¬slot.awaits resource) :
    TakesBack resource (slot :: slots) (slot :: slots') := by
  obtain ⟨before, earlier, awaits⟩ := h
  exact .intro (slot :: before) (List.forall_mem_cons.mpr ⟨passed, earlier⟩) awaits

theorem GivesOut.mark {wanted : Descriptor → Bool} {lease : Nat} {slots slots' : List (Slot η)}
    {resource : Resource η} (h : GivesOut wanted lease slots slots' resource) (poolLease : Nat) :
    GivesOut wanted lease slots slots' { resource with poolLease } := by
  obtain ⟨before, passed, free, fits⟩ := h
  exact .intro before passed free fits

theorem GivesOut.handles_perm {wanted : Descriptor → Bool} {lease : Nat}
    {slots slots' : List (Slot η)} {resource : Resource η}
    (h : GivesOut wanted lease slots slots' resource) :
    slots.filterMap (·.handle) ~ resource.handle :: slots'.filterMap (·.handle) := by
  obtain ⟨_, _, free, _⟩ := h
  simp [free]

theorem TakesBack.handles_perm {resource : Resource η} {slots slots' : List (Slot η)}
    (h : TakesBack resource slots slots') :
    slots'.filterMap (·.handle) ~ resource.handle :: slots.filterMap (·.handle) := by
  obtain ⟨_, _, _, held, _⟩ := h
  simp [Option.isNone_iff_eq_none.mp held]

namespace Slots

/-- Nothing is given out just if no slot has what is wanted; else the first one gives it out. -/
theorem takeFirst?_cases (wanted : Descriptor → Bool) (lease : Nat) (slots : List (Slot η)) :
    (takeFirst? wanted lease slots = none ∧ ∀ slot ∈ slots, slot.offers wanted = false) ∨
    ∃ resource slots', takeFirst? wanted lease slots = some (resource, slots') ∧
      resource.poolLease = 0 ∧ GivesOut wanted lease slots slots' resource := by
  induction slots with
  | nil => exact .inl ⟨rfl, by simp⟩
  | cons slot rest ih =>
    unfold takeFirst?
    split
    next handle free fits => exact .inr ⟨_, _, rfl, rfl, .intro [] (by simp) free fits⟩
    next unfit =>
      have passed : slot.offers wanted = false := by
        cases free : slot.handle with
        | none => simp [Slot.offers, Slot.isFree, free]
        | some handle => simpa [Slot.offers] using fun _ => unfit handle free
      obtain ⟨nothing, none⟩ | ⟨resource, rest', found, unmarked, givesOut⟩ := ih
      · exact .inl ⟨by rw [nothing, Option.map_none], List.forall_mem_cons.mpr ⟨passed, none⟩⟩
      · exact .inr ⟨resource, _, by rw [found, Option.map_some], unmarked, givesOut.cons passed⟩

/-- Nothing is taken back just if no slot waits for it; else the first that does takes it back. -/
theorem putBackFirst?_cases (resource : Resource η) (slots : List (Slot η)) :
    (putBackFirst? resource slots = none ∧ ∀ slot ∈ slots, ¬slot.awaits resource) ∨
    ∃ slots', putBackFirst? resource slots = some slots' ∧ TakesBack resource slots slots' := by
  induction slots with
  | nil => exact .inl ⟨rfl, by simp⟩
  | cons slot rest ih =>
    unfold putBackFirst?
    split
    next awaits => exact .inr ⟨_, rfl, .intro [] (by simp) awaits⟩
    next passed =>
      obtain ⟨nothing, none⟩ | ⟨rest', found, takesBack⟩ := ih
      · exact .inl ⟨by rw [nothing, Option.map_none], List.forall_mem_cons.mpr ⟨passed, none⟩⟩
      · exact .inr ⟨_, by rw [found, Option.map_some], takesBack.cons passed⟩

theorem take?_cases (wanted : Descriptor → Bool) (slots : Slots η) :
    (slots.take? wanted = none ∧ ∀ slot ∈ slots.slots, slot.offers wanted = false) ∨
    ∃ resource after, slots.take? wanted =
        some (resource, { slots := after, nextLease := slots.nextLease + 1 }) ∧
      resource.poolLease = 0 ∧ GivesOut wanted slots.nextLease slots.slots after resource := by
  unfold take?
  obtain ⟨nothing, none⟩ | ⟨resource, after, found, rest⟩ :=
    takeFirst?_cases wanted slots.nextLease slots.slots
  · exact .inl ⟨by rw [nothing, Option.map_none], none⟩
  · exact .inr ⟨resource, after, by rw [found, Option.map_some], rest⟩

theorem putBack_cases (resource : Resource η) (slots : Slots η) :
    (slots.putBack resource = .error (.notAllocated resource.name) ∧
      (resource.slotLease ≠ 0 → ∀ slot ∈ slots.slots, ¬slot.awaits resource)) ∨
    ∃ after, slots.putBack resource = .ok { slots with slots := after } ∧
      resource.slotLease ≠ 0 ∧ TakesBack resource slots.slots after := by
  unfold putBack
  by_cases unleased : resource.slotLease = 0
  · exact .inl ⟨by rw [if_pos unleased], fun leased => absurd unleased leased⟩
  · rw [if_neg unleased]
    obtain ⟨nothing, none⟩ | ⟨after, found, takesBack⟩ := putBackFirst?_cases resource slots.slots
    · exact .inl ⟨by rw [nothing], fun _ => none⟩
    · exact .inr ⟨after, by rw [found], unleased, takesBack⟩

end Slots

end FareTerminal.Pool
