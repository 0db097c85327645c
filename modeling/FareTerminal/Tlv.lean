import FareTerminal.Bytes.BigEndian

/-! Tag, length, value: the nested data objects in which a card describes itself.

`find?` walks the objects of one level and `findPath?` goes down through constructed objects. An
object whose header or value runs past the end of the data ends the walk. -/

namespace FareTerminal.Tlv

/-- A tag has two bytes when the low five bits of the first are all set, else one. -/
def tagLength (first : UInt8) : Nat := if first &&& 0x1F = 0x1F then 2 else 1

/-- The length field at the head of the data, and what follows it. A byte below 128 is the length
itself; any other gives in its low seven bits how many bytes hold the length, which is kept modulo
2^64. -/
def takeLength? : Bytes → Option (Nat × Bytes)
  | [] => none
  | head :: rest =>
    if head < 0x80 then some (head.toNat, rest)
    else
      let count := (head &&& 0x7F).toNat
      if rest.length < count then none
      else some (BigEndian.value (rest.take count) % UInt64.size, rest.drop count)

/-- The tag, the value and the rest behind the object at the head of the data, with all of it
inside the data. -/
def takeObject? : Bytes → Option (Bytes × Bytes × Bytes)
  | [] => none
  | first :: rest =>
    let data := first :: rest
    let width := tagLength first
    if data.length < width then none
    else do
      let (length, body) ← takeLength? (data.drop width)
      if body.length < length then none
      else some (data.take width, body.take length, body.drop length)

theorem length_takeLength?_lt {data rest : Bytes} {n : Nat} (h : takeLength? data = some (n, rest)) :
    rest.length < data.length := by
  cases data with
  | nil => simp [takeLength?] at h
  | cons head tail =>
    simp only [takeLength?] at h
    split at h
    · obtain ⟨-, rfl⟩ := by simpa using h
      simp
    · split at h
      · simp at h
      · simp only [Option.some.injEq, Prod.mk.injEq] at h
        rw [← h.2, List.length_drop, List.length_cons]
        omega

/-- What follows an object is shorter than the data, so the walk ends. -/
theorem length_takeObject?_lt {data tag value rest : Bytes}
    (h : takeObject? data = some (tag, value, rest)) : rest.length < data.length := by
  cases data with
  | nil => simp [takeObject?] at h
  | cons first tail =>
    simp only [takeObject?] at h
    split at h
    · simp at h
    · cases hl : takeLength? ((first :: tail).drop (tagLength first)) with
      | none => simp [hl] at h
      | some field =>
        obtain ⟨n, body⟩ := field
        have := length_takeLength?_lt hl
        simp only [hl, Option.bind_eq_bind, Option.bind_some] at h
        split at h
        · simp at h
        · simp only [Option.some.injEq, Prod.mk.injEq] at h
          obtain ⟨-, -, rfl⟩ := h
          simp only [List.length_drop] at this ⊢
          omega

/-- The value of the first object with the given tag. -/
def find? (data tag : Bytes) : Option Bytes :=
  match _h : takeObject? data with
  | none => none
  | some (found, value, rest) => if found = tag then some value else find? rest tag
termination_by data.length
decreasing_by exact length_takeObject?_lt _h

theorem find?_of_takeObject? {data found value rest : Bytes} (tag : Bytes)
    (h : takeObject? data = some (found, value, rest)) :
    find? data tag = if found = tag then some value else find? rest tag := by
  rw [find?]
  split
  · simp_all
  · simp_all

theorem find?_of_takeObject?_eq_none {data : Bytes} (tag : Bytes) (h : takeObject? data = none) :
    find? data tag = none := by
  rw [find?]
  split
  · rfl
  · simp_all

/-- The value reached by looking up one tag inside the value of the one before it. -/
def findPath? (data : Bytes) (path : List Bytes) : Option Bytes := path.foldlM find? data

@[simp] theorem findPath?_nil (data : Bytes) : findPath? data [] = some data := rfl

@[simp] theorem findPath?_cons (data tag : Bytes) (path : List Bytes) :
    findPath? data (tag :: path) = (find? data tag).bind (findPath? · path) := rfl

end FareTerminal.Tlv
