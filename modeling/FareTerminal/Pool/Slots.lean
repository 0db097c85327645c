import FareTerminal.Pool.Resource

/-! A fixed set of security modules, each in a slot of its own. A slot without its handle is held by
whoever has its lease, and no lease is given twice. -/

namespace FareTerminal.Pool

/-- A place for a security module, with its handle while it is free and a lease while it is held. -/
structure Slot (η : Type) where
  name : String
  descriptor : Descriptor
  handle : Option η
  lease : Nat := 0
  deriving Repr, DecidableEq

/-- Whether the security module is there. -/
def Slot.isFree {η : Type} (slot : Slot η) : Bool := slot.handle.isSome

/-- Slots in their order, and the lease to be given next, which is counted without end as those of a
pool are. -/
structure Slots (η : Type) where
  slots : List (Slot η) := []
  nextLease : Nat := 1
  deriving Repr, DecidableEq

namespace Slots

variable {η : Type}

/-- Takes the first free security module that is wanted out of its slot. -/
def takeFirst? (wanted : Descriptor → Bool) (lease : Nat) :
    List (Slot η) → Option (Resource η × List (Slot η))
  | [] => none
  | slot :: rest =>
    match slot.handle, wanted slot.descriptor with
    | some handle, true =>
      some ({ name := slot.name, descriptor := slot.descriptor, handle, slotLease := lease },
        { slot with handle := none, lease } :: rest)
    | _, _ => (takeFirst? wanted lease rest).map fun (resource, rest) => (resource, slot :: rest)

/-- Puts a security module back into the first slot that is held under its name and lease. -/
def putBackFirst? (resource : Resource η) : List (Slot η) → Option (List (Slot η))
  | [] => none
  | slot :: rest =>
    if slot.name = resource.name ∧ slot.handle.isNone ∧ slot.lease = resource.slotLease then
      some ({ slot with handle := some resource.handle, lease := 0 } :: rest)
    else (putBackFirst? resource rest).map (slot :: ·)

/-- The slots with one more, free, at the end. -/
def add (slots : Slots η) (name : String) (descriptor : Descriptor) (handle : η) : Slots η :=
  { slots with slots := slots.slots ++ [{ name, descriptor, handle := some handle }] }

def available (slots : Slots η) : Nat := slots.slots.countP Slot.isFree

/-- Hands out the first free security module that is wanted, under a new lease. -/
def take? (wanted : Descriptor → Bool) (slots : Slots η) : Option (Resource η × Slots η) :=
  (takeFirst? wanted slots.nextLease slots.slots).map fun (resource, rest) =>
    (resource, { slots := rest, nextLease := slots.nextLease + 1 })

/-- Takes a security module back from the holder of its lease. -/
def putBack (resource : Resource η) (slots : Slots η) : Except PoolError (Slots η) :=
  match if resource.slotLease = 0 then none else putBackFirst? resource slots.slots with
  | some rest => .ok { slots with slots := rest }
  | none => .error (.notAllocated resource.name)

instance : Provider (Slots η) η where
  take demand slots :=
    match take? demand.accepts slots with
    | some (resource, slots) => (some resource, slots)
    | none => (none, slots)
  putBack := putBack

@[simp] theorem available_add (slots : Slots η) (name : String) (descriptor : Descriptor)
    (handle : η) : (slots.add name descriptor handle).available = slots.available + 1 := by
  simp [available, add, Slot.isFree]

end Slots

end FareTerminal.Pool
