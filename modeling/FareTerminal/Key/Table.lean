import FareTerminal.Key.Level

/-! The keys a terminal uses, and the key versions it accepts from a card. -/

namespace FareTerminal

/-- A key as the security module knows it: identifier and version. -/
structure KeyReference where
  kif : UInt8
  kvc : UInt8
  deriving Repr, DecidableEq

/-- Which key versions a card may open a session with. -/
inductive VersionPolicy where
  | any
  | only (versions : List UInt8)
  deriving Repr, DecidableEq

def VersionPolicy.authorizes : VersionPolicy → UInt8 → Bool
  | any, _ => true
  | only versions, kvc => versions.contains kvc

/-- One line of content of a key table. -/
inductive KeyEntry where
  | key (level : AccessLevel) (reference : KeyReference)
  | version (kvc : UInt8)
  deriving Repr, DecidableEq

/-- At most one key for each access level, and the listed key versions in their order. -/
structure KeyTable where
  personalization : Option KeyReference := none
  load : Option KeyReference := none
  debit : Option KeyReference := none
  versions : List UInt8 := []
  deriving Repr, DecidableEq

namespace KeyTable

def empty : KeyTable := {}

def get? (table : KeyTable) : AccessLevel → Option KeyReference
  | .personalization => table.personalization
  | .load => table.load
  | .debit => table.debit

/-- The table with the key for one access level replaced. -/
def set (table : KeyTable) (level : AccessLevel) (key : KeyReference) : KeyTable :=
  match level with
  | .personalization => { table with personalization := some key }
  | .load => { table with load := some key }
  | .debit => { table with debit := some key }

/-- The table with one more key version listed. -/
def list (table : KeyTable) (kvc : UInt8) : KeyTable :=
  { table with versions := table.versions ++ [kvc] }

/-- The table with one entry more; of two keys for a level the later one counts. -/
def add (table : KeyTable) : KeyEntry → KeyTable
  | .key level reference => table.set level reference
  | .version kvc => table.list kvc

def ofEntries (entries : List KeyEntry) : KeyTable := entries.foldl add empty

/-- The listed versions and no others, or any version where none is listed. -/
def versionPolicy (table : KeyTable) : VersionPolicy :=
  if table.versions.isEmpty then .any else .only table.versions

/-- The keys of a terminal that was given no table: any key version is accepted. -/
def standard : KeyTable where
  personalization := some ⟨0x21, 0x79⟩
  load := some ⟨0x27, 0x79⟩
  debit := some ⟨0x30, 0x79⟩

@[simp] theorem get?_empty (level : AccessLevel) : empty.get? level = none := by cases level <;> rfl

@[simp] theorem get?_set_self (table : KeyTable) (level : AccessLevel) (key : KeyReference) :
    (table.set level key).get? level = some key := by cases level <;> rfl

@[simp] theorem get?_set_of_ne (table : KeyTable) {level other : AccessLevel} (key : KeyReference)
    (h : other ≠ level) : (table.set level key).get? other = table.get? other := by
  cases level <;> cases other <;> first | rfl | exact absurd rfl h

@[simp] theorem versions_set (table : KeyTable) (level : AccessLevel) (key : KeyReference) :
    (table.set level key).versions = table.versions := by cases level <;> rfl

@[simp] theorem get?_list (table : KeyTable) (kvc : UInt8) (level : AccessLevel) :
    (table.list kvc).get? level = table.get? level := by cases level <;> rfl

@[simp] theorem versions_list (table : KeyTable) (kvc : UInt8) :
    (table.list kvc).versions = table.versions ++ [kvc] := rfl

end KeyTable

end FareTerminal
