import Mathlib.Data.List.Basic
import FareTerminal.Proofs.Tlv.Lookup

/-! Looking up tags in data that nobody vouches for. The walk takes an object only if the data holds as
many bytes of its value as its length field declares, and of a declared length what fits into 64 bits
counts. A field of at most eight length bytes is taken at its word, a longer one need not be. -/

namespace FareTerminal.Tlv

/-- Whether bytes are one length field: the first of them says how many there are. -/
def IsLengthField : Bytes → Prop
  | [] => False
  | head :: bytes => bytes.length = if head < 0x80 then 0 else (head &&& 0x7F).toNat

instance : DecidablePred IsLengthField
  | [] => instDecidableFalse
  | _ :: _ => Nat.decEq _ _

/-- The length that a field declares, of whatever size. -/
def declaredLength : Bytes → Nat
  | [] => 0
  | head :: bytes => if head < 0x80 then head.toNat else BigEndian.value bytes

/-- With at most eight length bytes, nothing of the declared length is lost. -/
theorem declaredLength_lt {field : Bytes} (eight : field.length ≤ 9) :
    declaredLength field < UInt64.size := by
  cases field with
  | nil => exact Nat.zero_lt_succ _
  | cons head bytes =>
    rw [declaredLength]
    split
    · exact Nat.lt_trans head.toNat_lt (by decide)
    · have eight : bytes.length ≤ 8 := Nat.le_of_succ_le_succ eight
      exact Nat.lt_of_lt_of_le (BigEndian.value_lt_capacity bytes)
        (BigEndian.capacity_le_capacity eight)

theorem takeLength?_append {field : Bytes} (isField : IsLengthField field) (rest : Bytes) :
    takeLength? (field ++ rest) = some (declaredLength field % UInt64.size, rest) := by
  cases field with
  | nil => exact isField.elim
  | cons head bytes =>
    simp only [IsLengthField] at isField
    by_cases small : head < 0x80
    · have fits : head.toNat < UInt64.size := Nat.lt_trans head.toNat_lt (by decide)
      rw [if_pos small] at isField
      obtain rfl := List.length_eq_zero_iff.mp isField
      simp [takeLength?, declaredLength, small, Nat.mod_eq_of_lt fits]
    · rw [if_neg small] at isField
      simp [takeLength?, declaredLength, small, ← isField]

theorem takeLength?_eq_some_iff {data rest : Bytes} {length : Nat} :
    takeLength? data = some (length, rest) ↔
      ∃ field, data = field ++ rest ∧ IsLengthField field ∧
        declaredLength field % UInt64.size = length := by
  constructor
  · intro taken
    cases data with
    | nil => cases taken
    | cons head tail =>
      simp only [takeLength?] at taken
      split at taken
      · rename_i small
        cases taken
        have fits : head.toNat < UInt64.size := Nat.lt_trans head.toNat_lt (by decide)
        refine ⟨[head], rfl, ?_, ?_⟩
        · rw [IsLengthField, if_pos small, List.length_nil]
        · rw [declaredLength, if_pos small, Nat.mod_eq_of_lt fits]
      · rename_i large
        split at taken
        · cases taken
        · rename_i room
          cases taken
          refine ⟨head :: tail.take (head &&& 0x7F).toNat, ?_, ?_, ?_⟩
          · rw [List.cons_append, List.take_append_drop]
          · rw [IsLengthField, if_neg large, List.length_take, Nat.min_eq_left (Nat.le_of_not_lt room)]
          · rw [declaredLength, if_neg large]
  · rintro ⟨field, rfl, isField, rfl⟩
    exact takeLength?_append isField rest

/-- An object as it stands in the data, with the field that declares its length. -/
structure RawObject where
  tag : Bytes
  field : Bytes
  value : Bytes

namespace RawObject

def toBytes (object : RawObject) : Bytes := object.tag ++ (object.field ++ object.value)

/-- The tag and the field are such, and the value is as long as the field is read to say. -/
structure Complete (object : RawObject) : Prop where
  isTag : IsTag object.tag
  isField : IsLengthField object.field
  length_value : declaredLength object.field % UInt64.size = object.value.length

theorem Complete.two_le {object : RawObject} (complete : object.Complete) :
    2 ≤ object.toBytes.length := by
  have tag : object.tag ≠ [] := fun empty => by simpa [empty, IsTag] using complete.isTag
  have field : object.field ≠ [] := fun empty => by
    simpa [empty, IsLengthField] using complete.isField
  have tag := List.length_pos_of_ne_nil tag
  have field := List.length_pos_of_ne_nil field
  simp only [toBytes, List.length_append]
  omega

end RawObject

theorem isTag_take {first : UInt8} {tail : Bytes}
    (room : tagLength first ≤ (first :: tail).length) :
    IsTag ((first :: tail).take (tagLength first)) := by
  obtain ⟨more, width⟩ : ∃ more, tagLength first = more + 1 := by
    unfold tagLength
    split <;> exact ⟨_, rfl⟩
  rw [width, List.length_cons] at room
  rw [width, List.take_succ_cons]
  change (first :: tail.take more).length = tagLength first
  rw [width, List.length_cons, List.length_take, Nat.min_eq_left (Nat.le_of_succ_le_succ room)]

theorem exists_tag_of_takeObject? {data tag value rest : Bytes}
    (taken : takeObject? data = some (tag, value, rest)) :
    ∃ body, data = tag ++ body ∧ IsTag tag ∧
      takeLength? body = some (value.length, value ++ rest) := by
  cases data with
  | nil => cases taken
  | cons first tail =>
    simp only [takeObject?] at taken
    split at taken
    · cases taken
    · rename_i room
      cases read : takeLength? ((first :: tail).drop (tagLength first)) with
      | none => simp [read] at taken
      | some field =>
        obtain ⟨length, body⟩ := field
        simp only [read, Option.bind_eq_bind, Option.bind_some] at taken
        split at taken
        · cases taken
        · rename_i whole
          cases taken
          refine ⟨_, (List.take_append_drop _ _).symm, isTag_take (Nat.le_of_not_lt room), ?_⟩
          rw [read, List.take_append_drop, List.length_take,
            Nat.min_eq_left (Nat.le_of_not_lt whole)]

/-- The object at the head of the data is taken exactly if it is complete. -/
theorem takeObject?_eq_some_iff {data tag value rest : Bytes} :
    takeObject? data = some (tag, value, rest) ↔
      ∃ field, data = (RawObject.mk tag field value).toBytes ++ rest ∧
        (RawObject.mk tag field value).Complete := by
  constructor
  · intro taken
    obtain ⟨body, rfl, isTag, read⟩ := exists_tag_of_takeObject? taken
    obtain ⟨field, rfl, isField, length⟩ := takeLength?_eq_some_iff.mp read
    exact ⟨field, by simp [RawObject.toBytes], isTag, isField, length⟩
  · rintro ⟨field, rfl, isTag, isField, length⟩
    rw [RawObject.toBytes, List.append_assoc, List.append_assoc]
    exact takeObject?_append isTag (length ▸ takeLength?_append isField _)

theorem RawObject.Complete.takeObject?_append {object : RawObject} (complete : object.Complete)
    (behind : Bytes) :
    takeObject? (object.toBytes ++ behind) = some (object.tag, object.value, behind) :=
  takeObject?_eq_some_iff.mpr ⟨object.field, rfl, complete⟩

def rawBytes (objects : List RawObject) : Bytes := objects.flatMap RawObject.toBytes

@[simp] theorem rawBytes_nil : rawBytes [] = [] := rfl

@[simp] theorem rawBytes_cons (object : RawObject) (objects : List RawObject) :
    rawBytes (object :: objects) = object.toBytes ++ rawBytes objects := rfl

/-- Complete objects with other tags. -/
def Passed (tag : Bytes) (skipped : List RawObject) : Prop :=
  ∀ object ∈ skipped, object.Complete ∧ object.tag ≠ tag

theorem two_mul_length_le {tag : Bytes} {skipped : List RawObject} (passed : Passed tag skipped) :
    2 * skipped.length ≤ (rawBytes skipped).length := by
  induction skipped with
  | nil => exact Nat.le_refl _
  | cons object skipped ih =>
    have first := (passed object (by simp)).1.two_le
    have others := ih fun other member => passed other (by simp [member])
    rw [rawBytes_cons, List.length_append, List.length_cons]
    omega

theorem find?_rawBytes_append {tag : Bytes} {skipped : List RawObject} (passed : Passed tag skipped)
    (rest : Bytes) : find? (rawBytes skipped ++ rest) tag = find? rest tag := by
  induction skipped with
  | nil => rfl
  | cons object skipped ih =>
    obtain ⟨complete, other⟩ := passed object (by simp)
    rw [rawBytes_cons, List.append_assoc, find?_of_takeObject? tag (complete.takeObject?_append _),
      if_neg other]
    exact ih fun other member => passed other (by simp [member])

/-- The walk ends behind some objects, at one with the tag or where there is no complete object. -/
theorem exists_passed (data tag : Bytes) :
    ∃ skipped rest, data = rawBytes skipped ++ rest ∧ Passed tag skipped ∧
      (takeObject? rest = none ∨
        ∃ value behind, takeObject? rest = some (tag, value, behind)) := by
  fun_induction find? data tag with
  | case1 data none => exact ⟨[], data, rfl, nofun, .inl none⟩
  | case2 data value rest taken => exact ⟨[], data, rfl, nofun, .inr ⟨value, rest, taken⟩⟩
  | case3 data found value rest taken other ih =>
    obtain ⟨field, rfl, complete⟩ := takeObject?_eq_some_iff.mp taken
    obtain ⟨skipped, last, rfl, passed, ends⟩ := ih
    refine ⟨⟨found, field, value⟩ :: skipped, last, ?_, ?_, ends⟩
    · rw [rawBytes_cons, List.append_assoc]
    · intro object member
      obtain rfl | member := List.mem_cons.mp member
      · exact ⟨complete, other⟩
      · exact passed object member

theorem find?_eq_some_iff {data tag value : Bytes} :
    find? data tag = some value ↔ ∃ skipped field behind,
      data = rawBytes skipped ++ ((RawObject.mk tag field value).toBytes ++ behind) ∧
        Passed tag skipped ∧ (RawObject.mk tag field value).Complete := by
  constructor
  · intro found
    obtain ⟨skipped, rest, rfl, passed, none | ⟨last, behind, taken⟩⟩ := exists_passed data tag
    · rw [find?_rawBytes_append passed, find?_of_takeObject?_eq_none tag none] at found
      cases found
    · rw [find?_rawBytes_append passed, find?_of_takeObject? tag taken, if_pos rfl] at found
      cases found
      obtain ⟨field, rfl, complete⟩ := takeObject?_eq_some_iff.mp taken
      exact ⟨skipped, field, behind, rfl, passed, complete⟩
  · rintro ⟨skipped, field, behind, rfl, passed, complete⟩
    rw [find?_rawBytes_append passed, find?_of_takeObject? tag (complete.takeObject?_append behind),
      if_pos rfl]

/-- There is no complete object at the head of the data. -/
def Broken (data : Bytes) : Prop :=
  ∀ object behind, data = RawObject.toBytes object ++ behind → ¬object.Complete

theorem takeObject?_eq_none_iff {data : Bytes} : takeObject? data = none ↔ Broken data := by
  constructor
  · rintro none object behind rfl complete
    rw [complete.takeObject?_append] at none
    cases none
  · intro broken
    cases taken : takeObject? data with
    | none => rfl
    | some parts =>
      obtain ⟨tag, value, behind⟩ := parts
      obtain ⟨field, split, complete⟩ := takeObject?_eq_some_iff.mp taken
      exact absurd complete (broken _ behind split)

theorem find?_eq_none_iff {data tag : Bytes} :
    find? data tag = none ↔
      ∃ skipped rest, data = rawBytes skipped ++ rest ∧ Passed tag skipped ∧ Broken rest := by
  constructor
  · intro absent
    obtain ⟨skipped, rest, rfl, passed, none | ⟨value, behind, taken⟩⟩ := exists_passed data tag
    · exact ⟨skipped, rest, rfl, passed, takeObject?_eq_none_iff.mp none⟩
    · rw [find?_rawBytes_append passed, find?_of_takeObject? tag taken, if_pos rfl] at absent
      cases absent
  · rintro ⟨skipped, rest, rfl, passed, broken⟩
    rw [find?_rawBytes_append passed]
    exact find?_of_takeObject?_eq_none tag (takeObject?_eq_none_iff.mpr broken)

/-- No tag is the beginning of another. -/
theorem eq_of_isTag {tag tag' rest rest' : Bytes} (isTag : IsTag tag) (isTag' : IsTag tag')
    (same : tag ++ rest = tag' ++ rest') : tag = tag' ∧ rest = rest' := by
  cases tag with
  | nil => exact isTag.elim
  | cons first more =>
    cases tag' with
    | nil => exact isTag'.elim
    | cons first' more' =>
      have head : first = first' := (List.cons.inj same).1
      have width : (first :: more).length = tagLength first := isTag
      have width' : (first' :: more').length = tagLength first' := isTag'
      exact List.append_inj same (by rw [width, width', head])

/-- The walk does not take an object whose value runs past the end. -/
theorem broken_of_lt {tag field body : Bytes} (isTag : IsTag tag) (isField : IsLengthField field)
    (short : body.length < declaredLength field % UInt64.size) :
    Broken (tag ++ (field ++ body)) := by
  rintro object behind split complete
  rw [RawObject.toBytes, List.append_assoc, List.append_assoc] at split
  obtain ⟨-, same⟩ := eq_of_isTag isTag complete.isTag split
  have read := takeLength?_append isField body
  rw [same, takeLength?_append complete.isField] at read
  obtain ⟨length, rfl⟩ := Prod.mk.inj (Option.some.inj read)
  rw [← length, complete.length_value, List.length_append] at short
  omega

/-- Looking up a tag in any data. A value that is found stands in the data behind the tag and a field
that declares its length, and behind complete objects with other tags; otherwise the data ends behind
such objects, or what is left begins with no complete object. So nothing is found behind an object
whose value runs past the end. The walk makes no more steps than the data has pairs of bytes, and a
field of at most eight length bytes counts for what it declares. -/
theorem lookup_complete (data tag : Bytes) :
    (∀ value, find? data tag = some value ↔ ∃ skipped field behind,
      data = rawBytes skipped ++ ((RawObject.mk tag field value).toBytes ++ behind) ∧
        Passed tag skipped ∧ (RawObject.mk tag field value).Complete) ∧
    (find? data tag = none ↔
      ∃ skipped rest, data = rawBytes skipped ++ rest ∧ Passed tag skipped ∧ Broken rest) ∧
    (∀ skipped other field body, data = rawBytes skipped ++ (other ++ (field ++ body)) →
      Passed tag skipped → IsTag other → IsLengthField field →
      body.length < declaredLength field % UInt64.size → find? data tag = none) ∧
    (∀ skipped rest, data = rawBytes skipped ++ rest → Passed tag skipped →
      2 * skipped.length ≤ data.length) ∧
    ∀ field : Bytes, field.length ≤ 9 →
      declaredLength field % UInt64.size = declaredLength field := by
  refine ⟨fun value => find?_eq_some_iff, find?_eq_none_iff, ?_, ?_, ?_⟩
  · intro skipped other field body split passed isTag isField short
    exact find?_eq_none_iff.mpr ⟨skipped, _, split, passed, broken_of_lt isTag isField short⟩
  · rintro skipped rest rfl passed
    have length := two_mul_length_le passed
    rw [List.length_append]
    omega
  · exact fun field eight => Nat.mod_eq_of_lt (declaredLength_lt eight)

/-- A field that declares one byte more than 64 bits can say. -/
def overlongField : Bytes := [0x89, 1, 0, 0, 0, 0, 0, 0, 0, 1]

/-- What is found behind such a field is shorter than declared, in whatever way the data is read. -/
theorem lookup_overlong :
    find? ([0x53] ++ (overlongField ++ [0xAA])) [0x53] = some [0xAA] ∧
      ∀ before field behind : Bytes,
        [0x53] ++ (overlongField ++ [0xAA]) = before ++ ([0x53] ++ (field ++ ([0xAA] ++ behind))) →
        IsLengthField field ∧ declaredLength field = UInt64.size + 1 := by
  have complete : (RawObject.mk [0x53] overlongField [0xAA]).Complete :=
    ⟨by decide, by decide, by decide⟩
  refine ⟨find?_eq_some_iff.mpr ⟨[], overlongField, [], rfl, nofun, complete⟩, ?_⟩
  intro before field behind split
  have start : before = [] := by
    cases before with
    | nil => rfl
    | cons first more =>
      have later : overlongField ++ [0xAA] = more ++ ([0x53] ++ (field ++ ([0xAA] ++ behind))) :=
        (List.cons.inj split).2
      have absent : (0x53 : UInt8) ∉ overlongField ++ [0xAA] := by decide
      rw [later] at absent
      simp at absent
  subst start
  have behind : overlongField ++ [0xAA] = field ++ 0xAA :: behind := (List.cons.inj split).2
  obtain ⟨rfl, -⟩ := (List.append_cons_inj_of_notMem (by decide) (by decide)).mp behind
  exact ⟨by decide, by decide⟩

theorem lookup_complete_short :
    let data : Bytes := [0x84, 0x01, 0x31, 0x53, 0x81, 0x02, 0xAA]
    find? data [0x84] = some [0x31] ∧ find? data [0x53] = none := by
  intro data
  have passed : Passed [0x53] [⟨[0x84], [0x01], [0x31]⟩] := by
    intro object member
    obtain rfl := List.mem_singleton.mp member
    exact ⟨⟨by decide, by decide, by decide⟩, by decide⟩
  have found := (lookup_complete data [0x84]).1 [0x31]
  have absent := (lookup_complete data [0x53]).2.2.1
  exact ⟨found.mpr ⟨[], [0x01], [0x53, 0x81, 0x02, 0xAA], rfl, nofun, by decide, by decide, by decide⟩,
    absent _ [0x53] [0x81, 0x02] [0xAA] rfl passed (by decide) (by decide) (by decide)⟩

end FareTerminal.Tlv
