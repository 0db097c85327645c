import FareTerminal.Tlv.Encoding

/-! Looking up tags undoes writing objects. Whatever forms their lengths have, the walk goes from one
object to the next, and a path leads down to the value that was put at its end. -/

namespace FareTerminal.Tlv

@[simp] theorem find?_nil (tag : Bytes) : find? [] tag = none := find?_of_takeObject?_eq_none tag rfl

/-- The walk stops at an object with the tag, and goes on behind any other. -/
theorem find?_toBytes_append {object : Object} (valid : object.Valid) (tag rest : Bytes) :
    find? (object.toBytes ++ rest) tag =
      if object.tag = tag then some object.value else find? rest tag :=
  find?_of_takeObject? tag (takeObject?_toBytes_append valid rest)

/-- Of several objects the first with the tag counts; if there is none, the walk goes on behind
them. -/
theorem find?_encode_append {objects : List Object} (valid : ∀ object ∈ objects, object.Valid)
    (tag rest : Bytes) :
    find? (encode objects ++ rest) tag =
      match objects.find? (·.tag = tag) with
      | some object => some object.value
      | none => find? rest tag := by
  induction objects with
  | nil => rfl
  | cons object objects ih =>
    rw [encode_cons, List.append_assoc, find?_toBytes_append (valid object (by simp)),
      List.find?_cons]
    by_cases same : object.tag = tag
    · simp [same]
    · rw [if_neg same, ih fun other member => valid other (by simp [member])]
      simp [same]

theorem find?_encode_append_of_ne {objects : List Object} {tag : Bytes}
    (others : ∀ object ∈ objects, object.Valid ∧ object.tag ≠ tag) (rest : Bytes) :
    find? (encode objects ++ rest) tag = find? rest tag := by
  have absent : objects.find? (·.tag = tag) = none :=
    List.find?_eq_none.mpr fun object member => by simpa using (others object member).2
  rw [find?_encode_append fun object member => (others object member).1, absent]

/-- Data in which a path leads to a value. At each level there may be objects with other tags before
the one that the path goes into, and anything behind it. -/
inductive Nested : Bytes → List Bytes → Bytes → Prop
  | here (value : Bytes) : Nested value [] value
  | inside (before : List Object) (object : Object) {path : List Bytes} {value : Bytes}
    (others : ∀ other ∈ before, other.Valid ∧ other.tag ≠ object.tag) (valid : object.Valid)
    (deeper : Nested object.value path value) (behind : Bytes) :
    Nested (encode before ++ (object.toBytes ++ behind)) (object.tag :: path) value

theorem findPath?_of_nested {data : Bytes} {path : List Bytes} {value : Bytes}
    (nested : Nested data path value) : findPath? data path = some value := by
  induction nested with
  | here value => rfl
  | inside before object others valid deeper behind ih =>
    rw [findPath?_cons, find?_encode_append_of_ne others, find?_toBytes_append valid, if_pos rfl]
    exact ih

/-- In what was written, each tag is found with the value of the first object that has it, whatever
follows the objects, and no other tag is found. Along a path, the innermost value is found. -/
theorem lookup_encode :
    (∀ (objects : List Object) (tag : Bytes), (∀ object ∈ objects, object.Valid) →
      (∀ object trailing, objects.find? (·.tag = tag) = some object →
        find? (encode objects ++ trailing) tag = some object.value) ∧
      ((∀ object ∈ objects, object.tag ≠ tag) → find? (encode objects) tag = none)) ∧
    ∀ (data : Bytes) (path : List Bytes) (value : Bytes), Nested data path value →
      findPath? data path = some value := by
  refine ⟨fun objects tag valid => ⟨fun object trailing first => ?_, fun other => ?_⟩,
    fun _ _ _ => findPath?_of_nested⟩
  · rw [find?_encode_append valid, first]
  · have passed := find?_encode_append_of_ne
      (fun object member => ⟨valid object member, other object member⟩) []
    rwa [List.append_nil, find?_nil] at passed

/-- A name, and behind it an object whose length is written with a leading zero. -/
def paddedObjects : List Object :=
  [⟨[0x84], .short, [0x31, 0x54]⟩, ⟨[0xBF, 0x0C], .long 2, [0xC7, 0x01, 0x2A]⟩]

theorem lookup_encode_padded :
    (∀ object ∈ paddedObjects, object.Valid) ∧
      find? (encode paddedObjects ++ [0xBF]) [0xBF, 0x0C] = some [0xC7, 0x01, 0x2A] ∧
      find? (encode paddedObjects) [0xC7] = none ∧
      findPath? (encode [⟨[0x6F], .short, encode paddedObjects⟩]) [[0x6F], [0xBF, 0x0C], [0xC7]] =
        some [0x2A] := by
  have valid : ∀ object ∈ paddedObjects, object.Valid := by decide
  have tagged := lookup_encode.1 paddedObjects
  have first : paddedObjects.find? (·.tag = [0xBF, 0x0C]) =
      some ⟨[0xBF, 0x0C], .long 2, [0xC7, 0x01, 0x2A]⟩ := by decide
  have innermost : Nested [0xC7, 0x01, 0x2A] [[0xC7]] [0x2A] :=
    .inside [] ⟨[0xC7], .short, [0x2A]⟩ nofun (by decide) (.here _) []
  have inner : Nested (encode paddedObjects) [[0xBF, 0x0C], [0xC7]] [0x2A] :=
    .inside [⟨[0x84], .short, [0x31, 0x54]⟩] ⟨[0xBF, 0x0C], .long 2, [0xC7, 0x01, 0x2A]⟩
      (by decide) (by decide) innermost []
  have nested : Nested (encode [⟨[0x6F], .short, encode paddedObjects⟩])
      [[0x6F], [0xBF, 0x0C], [0xC7]] [0x2A] :=
    .inside [] ⟨[0x6F], .short, encode paddedObjects⟩ nofun (by decide) inner []
  exact ⟨valid, (tagged _ valid).1 _ [0xBF] first, (tagged _ valid).2 (by decide),
    lookup_encode.2 _ _ _ nested⟩

end FareTerminal.Tlv
