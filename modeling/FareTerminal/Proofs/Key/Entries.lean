import FareTerminal.Key.Text

/-! What a table has from its entries: for each level the last key, and all key versions in their
order. -/

namespace FareTerminal

namespace KeyEntry

/-- The key that an entry sets for a level. -/
def keyFor? (level : AccessLevel) : KeyEntry → Option KeyReference
  | key other reference => if other = level then some reference else none
  | version _ => none

/-- The key version that an entry lists. -/
def version? : KeyEntry → Option UInt8
  | key .. => none
  | version kvc => some kvc

end KeyEntry

namespace KeyTable

theorem ext_get? {table other : KeyTable} (keys : ∀ level, table.get? level = other.get? level)
    (versions : table.versions = other.versions) : table = other := by
  obtain ⟨personalization, load, debit, _⟩ := table
  obtain rfl : personalization = other.personalization := keys .personalization
  obtain rfl : load = other.load := keys .load
  obtain rfl : debit = other.debit := keys .debit
  obtain rfl : _ = other.versions := versions
  rfl

theorem get?_add (table : KeyTable) (entry : KeyEntry) (level : AccessLevel) :
    (table.add entry).get? level = (entry.keyFor? level).or (table.get? level) := by
  cases entry with
  | key other reference =>
    by_cases same : other = level
    · subst same
      simp [add, KeyEntry.keyFor?]
    · simp [add, KeyEntry.keyFor?, same, get?_set_of_ne table reference (Ne.symm same)]
  | version kvc => simp [add, KeyEntry.keyFor?]

theorem versions_add (table : KeyTable) (entry : KeyEntry) :
    (table.add entry).versions = table.versions ++ entry.version?.toList := by
  cases entry with
  | key level reference => simp [add, KeyEntry.version?]
  | version kvc => simp [add, KeyEntry.version?]

theorem get?_foldl_add (table : KeyTable) (entries : List KeyEntry) (level : AccessLevel) :
    (entries.foldl add table).get? level =
      (entries.filterMap (·.keyFor? level)).getLast?.or (table.get? level) := by
  induction entries generalizing table with
  | nil => rfl
  | cons entry rest ih =>
    rw [List.foldl_cons, ih, get?_add, ← Option.or_assoc]
    cases set : entry.keyFor? level with
    | none => simp [set]
    | some key => simp [set, List.getLast?_cons]

theorem versions_foldl_add (table : KeyTable) (entries : List KeyEntry) :
    (entries.foldl add table).versions = table.versions ++ entries.filterMap (·.version?) := by
  induction entries generalizing table with
  | nil => simp
  | cons entry rest ih =>
    rw [List.foldl_cons, ih, versions_add, List.append_assoc]
    cases listed : entry.version? <;> simp [listed]

/-- Of two keys for a level the later one counts. -/
theorem get?_ofEntries (entries : List KeyEntry) (level : AccessLevel) :
    (ofEntries entries).get? level = (entries.filterMap (·.keyFor? level)).getLast? := by
  rw [ofEntries, get?_foldl_add, get?_empty, Option.or_none]

theorem versions_ofEntries (entries : List KeyEntry) :
    (ofEntries entries).versions = entries.filterMap (·.version?) := by
  rw [ofEntries, versions_foldl_add]
  rfl

end KeyTable

end FareTerminal
