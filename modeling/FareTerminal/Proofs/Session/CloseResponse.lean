import FareTerminal.Proofs.Bytes.Delimited
import FareTerminal.Session.Closing

/-! The response to the closing is read exactly if it is laid out as it should be: items behind their
lengths, and a signature of four bytes at the end. -/

namespace FareTerminal.Session

namespace CloseResponse

open Delimited (Short block)

/-- The bytes of items, followed by some bytes of one more, but not by all of them. -/
abbrev IsCutOff (bytes : Bytes) : Prop := Delimited.IsCutOff block Short bytes

/-- Items are taken from the front, each up to where its length byte says. -/
theorem reads_items? : Delimited.Reads block Short items? where
  nonempty item := List.cons_ne_nil _ _
  front := Delimited.front_block
  read_nil := by rw [items?]
  read_begun bytes begun := by
    obtain ⟨length, rest, rfl, less⟩ := Delimited.isBegun_block_iff.mp begun
    rw [items?, if_pos less]
  read_append item rest short := by
    rw [block, List.cons_append, items?, Delimited.toNat_lengthByte short, if_neg (by simp),
      List.drop_left, List.take_left]

/-- Short items are found again. -/
theorem items?_encodeItems {items : List Bytes} (short : ∀ item ∈ items, item.length ≤ 255) :
    items? (encodeItems items) = some items :=
  reads_items?.of_flatMap short

theorem items?_eq_some_iff {data : Bytes} {items : List Bytes} :
    items? data = some items ↔
      data = encodeItems items ∧ ∀ item ∈ items, item.length ≤ 255 :=
  reads_items?.eq_some_iff

theorem items?_eq_none_iff {data : Bytes} : items? data = none ↔ IsCutOff data :=
  reads_items?.eq_none_iff

/-- A signature at the end leaves what stands before it. -/
theorem length_sub_signature {signature : Bytes} (signed : signature.length = signatureLength)
    (before : Bytes) :
    ¬(before ++ signature).length < signatureLength ∧
      (before ++ signature).length - signatureLength = before.length := by
  rw [List.length_append, signed, Nat.add_sub_cancel]
  exact ⟨Nat.not_lt.mpr (Nat.le_add_left _ _), rfl⟩

end CloseResponse

/-- The response to the closing is read if it reports success and is laid out as it should be. -/
theorem readClosing_eq_ok_iff {response : Apdu.Response} {closing : CloseResponse} :
    readClosing response = .ok closing ↔
      response.isSuccess = true ∧ response.data = closing.toData ∧
        closing.signature.length = CloseResponse.signatureLength ∧
        ∀ item ∈ closing.postponed, item.length ≤ 255 := by
  unfold readClosing
  constructor
  · intro h
    split at h
    · rename_i success
      split at h
      · cases h
      · rename_i enough
        simp only at h
        split at h
        · rename_i postponed read
          cases h
          obtain ⟨written, short⟩ := CloseResponse.items?_eq_some_iff.mp read
          refine ⟨success, ?_, ?_, short⟩
          · rw [CloseResponse.toData, ← written, List.take_append_drop]
          · rw [List.length_drop]
            omega
        · cases h
    · cases h
  · rintro ⟨success, laid, signed, short⟩
    obtain ⟨postponed, signature⟩ := closing
    obtain ⟨enough, split⟩ :=
      CloseResponse.length_sub_signature signed (CloseResponse.encodeItems postponed)
    rw [if_pos success, laid, CloseResponse.toData, if_neg enough]
    simp only [split, List.take_left, List.drop_left, CloseResponse.items?_encodeItems short]

/-- Why a response that reports success is not read: it has no room for a signature, or an item reaches into
the signature. -/
theorem readClosing_eq_error_iff {data : Bytes} {error : SessionError} :
    readClosing ⟨data, .success⟩ = .error error ↔
      (data.length < CloseResponse.signatureLength ∧
          error = .malformed (.closeSession data.length)) ∨
        ∃ cut signature, data = cut ++ signature ∧ CloseResponse.IsCutOff cut ∧
          signature.length = CloseResponse.signatureLength ∧ error = .malformed .postponedData := by
  unfold readClosing
  rw [if_pos (by rfl)]
  constructor
  · intro failed
    split at failed
    · rename_i less
      cases failed
      exact .inl ⟨less, rfl⟩
    · rename_i enough
      simp only at failed enough
      split at failed
      · cases failed
      · rename_i missed
        cases failed
        have cutOff := CloseResponse.items?_eq_none_iff.mp missed
        refine .inr ⟨_, _, (List.take_append_drop _ data).symm, cutOff, ?_, rfl⟩
        rw [List.length_drop]
        omega
  · rintro (⟨less, rfl⟩ | ⟨cut, signature, rfl, cutOff, signed, rfl⟩)
    · rw [if_pos less]
    · obtain ⟨enough, split⟩ := CloseResponse.length_sub_signature signed cut
      simp only [if_neg enough, split, List.take_left, CloseResponse.items?_eq_none_iff.mpr cutOff]

/-- What a response that reports success says, for any data. Each list of items and each signature are
found again in their bytes, and nothing else is read: what is left has no room for a signature, or one of
its items reaches into the signature. -/
theorem readClosing_inverts (data : Bytes) :
    (∀ closing, readClosing ⟨data, .success⟩ = .ok closing ↔
      data = CloseResponse.encodeItems closing.postponed ++ closing.signature ∧
        closing.signature.length = 4 ∧ ∀ item ∈ closing.postponed, item.length ≤ 255) ∧
    ∀ error, readClosing ⟨data, .success⟩ = .error error ↔
      (data.length < 4 ∧ error = .malformed (.closeSession data.length)) ∨
        ∃ cut signature, data = cut ++ signature ∧ CloseResponse.IsCutOff cut ∧
          signature.length = 4 ∧ error = .malformed .postponedData := by
  refine ⟨fun closing => ?_, fun error => readClosing_eq_error_iff⟩
  rw [readClosing_eq_ok_iff]
  exact and_iff_right rfl

end FareTerminal.Session
