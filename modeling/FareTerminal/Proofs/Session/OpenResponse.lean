import Mathlib.Data.List.Basic
import FareTerminal.Session.Opening

/-! The response to the opening is read exactly if it is laid out as the card's revision prescribes, and
what is read is what was laid out. -/

namespace FareTerminal.Session

namespace OpenResponse

/-- A response and the data as which a card of a revision writes it. -/
inductive IsLaidOut : Card.Revision → OpenResponse → Bytes → Prop
  | prefixed {revision : Card.Revision} (recent : revision ≠ .rev1 ∧ revision ≠ .rev24)
    (counter : UInt8 × UInt8 × UInt8) (random ratification kif kvc : UInt8) {record : Bytes}
    (short : record.length ≤ 255) :
    IsLaidOut revision { kif := some kif, kvc, ratified := ratification == 0, record }
      (prefixedLayout counter random ratification kif kvc record)
  | fixed {revision : Card.Revision} (older : revision = .rev1 ∨ revision = .rev24) (kvc : UInt8)
    (counter : UInt8 × UInt8 × UInt8) (random : UInt8) {record : Bytes}
    (sized : record.length = 0 ∨ record.length = recordLength)
    (unratified : Option (UInt8 × UInt8)) :
    IsLaidOut revision { kif := none, kvc, ratified := unratified.isNone, record }
      (fixedLayout kvc counter random record unratified)

/-- What is written in the layout before revision 3 is read back. -/
theorem ofFixedLayout?_fixedLayout (kvc : UInt8) (counter : UInt8 × UInt8 × UInt8) (random : UInt8)
    {record : Bytes} (sized : record.length = 0 ∨ record.length = recordLength)
    (unratified : Option (UInt8 × UInt8)) :
    ofFixedLayout? (fixedLayout kvc counter random record unratified) =
      some { kif := none, kvc, ratified := unratified.isNone, record } := by
  cases unratified with
  | none =>
    simp only [fixedLayout, ofFixedLayout?, List.cons_append, List.nil_append, List.append_nil]
    rw [if_pos sized]
    rfl
  | some pair =>
    have longer : ¬((record ++ [pair.1, pair.2]).length = 0 ∨
        (record ++ [pair.1, pair.2]).length = recordLength) := by
      unfold recordLength at sized ⊢
      simp only [List.length_append, List.length_cons, List.length_nil]
      omega
    have marked : (record ++ [pair.1, pair.2]).length = 2 ∨
        (record ++ [pair.1, pair.2]).length = recordLength + 2 := by
      simp only [List.length_append, List.length_cons, List.length_nil]
      omega
    simp only [fixedLayout, ofFixedLayout?, List.cons_append, List.nil_append]
    rw [if_neg longer, if_pos marked]
    simp

/-- Bytes with two more at their end. -/
theorem exists_append_pair {bytes : Bytes} (two : 2 ≤ bytes.length) :
    ∃ first second, bytes = bytes.take (bytes.length - 2) ++ [first, second] := by
  have last : (bytes.drop (bytes.length - 2)).length = 2 := by
    rw [List.length_drop]
    omega
  obtain ⟨first, second, pair⟩ := List.length_eq_two.mp last
  exact ⟨first, second, by rw [← pair, List.take_append_drop]⟩

theorem isLaidOut_of_ofFixedLayout? {revision : Card.Revision}
    (older : revision = .rev1 ∨ revision = .rev24) {data : Bytes} {opening : OpenResponse}
    (h : ofFixedLayout? data = some opening) : IsLaidOut revision opening data := by
  unfold ofFixedLayout? at h
  split at h
  case h_2 => cases h
  rename_i kvc first second third random rest
  split at h
  case isTrue sized =>
    cases h
    have laid := IsLaidOut.fixed older kvc (first, second, third) random sized none
    simpa [fixedLayout] using laid
  case isFalse =>
  split at h
  case isFalse => cases h
  case isTrue sized =>
    cases h
    have two : 2 ≤ rest.length := by omega
    obtain ⟨one, other, split⟩ := exists_append_pair two
    have sized : (rest.take (rest.length - 2)).length = 0 ∨
        (rest.take (rest.length - 2)).length = recordLength := by
      rw [List.length_take]
      omega
    have laid := IsLaidOut.fixed older kvc (first, second, third) random sized (some (one, other))
    simpa [fixedLayout, ← split] using laid

theorem isLaidOut_of_ofPrefixedLayout? {revision : Card.Revision}
    (recent : revision ≠ .rev1 ∧ revision ≠ .rev24) {data : Bytes} {opening : OpenResponse}
    (h : ofPrefixedLayout? data = some opening) : IsLaidOut revision opening data := by
  unfold ofPrefixedLayout? at h
  split at h
  case h_2 => cases h
  rename_i first second third random ratification kif kvc length record
  split at h
  case isFalse => cases h
  case isTrue delimited =>
    cases h
    have short : record.length ≤ 255 := delimited ▸ Nat.le_of_lt_succ length.toNat_lt
    have laid := IsLaidOut.prefixed recent (first, second, third) random ratification kif kvc short
    rwa [prefixedLayout, delimited, UInt8.ofNat_toNat] at laid

/-- A response is read from exactly the data as which a card of the revision writes it. -/
theorem ofData?_eq_some_iff {revision : Card.Revision} {data : Bytes} {opening : OpenResponse} :
    ofData? revision data = some opening ↔ IsLaidOut revision opening data := by
  constructor
  · intro read
    cases revision with
    | rev1 => exact isLaidOut_of_ofFixedLayout? (.inl rfl) read
    | rev24 => exact isLaidOut_of_ofFixedLayout? (.inr rfl) read
    | rev31 => exact isLaidOut_of_ofPrefixedLayout? (by decide) read
    | rev31Clap => exact isLaidOut_of_ofPrefixedLayout? (by decide) read
    | rev32 => exact isLaidOut_of_ofPrefixedLayout? (by decide) read
  · rintro (⟨recent, counter, random, ratification, kif, kvc, short⟩ |
      ⟨older, kvc, counter, random, sized, unratified⟩)
    · have read := ofPrefixedLayout?_prefixedLayout counter random ratification kif kvc short
      cases revision with
      | rev1 => exact absurd rfl recent.1
      | rev24 => exact absurd rfl recent.2
      | rev31 => exact read
      | rev31Clap => exact read
      | rev32 => exact read
    · have read := ofFixedLayout?_fixedLayout kvc counter random sized unratified
      obtain rfl | rfl := older <;> exact read

end OpenResponse

/-- With a response that reports success the opening goes by its layout. What is laid out is read, and then
only the key version can be refused; anything else is malformed. -/
theorem readOpening_inverts (identity : Card.Identity) (policy : VersionPolicy) (data : Bytes) :
    (∀ opening, OpenResponse.ofData? identity.revision data = some opening ↔
      OpenResponse.IsLaidOut identity.revision opening data) ∧
    (∀ opening, readOpening identity policy ⟨data, .success⟩ = .ok opening ↔
      OpenResponse.IsLaidOut identity.revision opening data ∧
        policy.authorizes opening.kvc = true) ∧
    (∀ fault, readOpening identity policy ⟨data, .success⟩ = .error (.malformed fault) ↔
      (∀ opening, ¬OpenResponse.IsLaidOut identity.revision opening data) ∧
        fault = .openSession data.length) := by
  refine ⟨fun opening => OpenResponse.ofData?_eq_some_iff, ?_⟩
  simp only [← OpenResponse.ofData?_eq_some_iff]
  cases laid : OpenResponse.ofData? identity.revision data with
  | none =>
    have refused : readOpening identity policy ⟨data, .success⟩ =
        .error (.malformed (.openSession data.length)) := by
      simp [readOpening, Apdu.Response.isSuccess, laid]
    rw [refused]
    refine ⟨fun opening => by simp, fun fault => ?_⟩
    simpa using eq_comm
  | some opening =>
    have read : readOpening identity policy ⟨data, .success⟩ =
        if policy.authorizes opening.kvc then .ok opening
        else .error (.unauthorizedVersion opening.kvc) := by
      simp [readOpening, Apdu.Response.isSuccess, laid]
    rw [read]
    cases authorized : policy.authorizes opening.kvc with
    | false =>
      refine ⟨fun other => ?_, fun fault => by simp⟩
      simp only [Bool.false_eq_true, if_false, reduceCtorEq, false_iff, not_and]
      rintro ⟨⟩
      simp [authorized]
    | true =>
      refine ⟨fun other => ?_, fun fault => by simp⟩
      simp only [if_true, Except.ok.injEq, Option.some.injEq]
      constructor
      · rintro rfl
        exact ⟨rfl, authorized⟩
      · exact And.left

end FareTerminal.Session
