import FareTerminal.Proofs.Apdu.Packing
import FareTerminal.Session.Opening

/-! What the command that opens a session tells of the request. All of it can be read from the command
again but for the number of the record on cards of revision 2.4: there a flag takes its fifth bit. -/

namespace FareTerminal

namespace AccessLevel

theorem keyIndex_lt (level : AccessLevel) : level.keyIndex < 8 := by
  cases level <;> decide

theorem eq_of_keyIndex_eq {level level' : AccessLevel} (same : level.keyIndex = level'.keyIndex) :
    level = level' := by
  cases level <;> cases level' <;> first | rfl | cases same

end AccessLevel

namespace Session

/-- What is left of the number of a record in the command that opens a session. -/
def sentRecord : Card.Revision → UInt8 → UInt8
  | .rev24, record => record % 16
  | .rev1, record | .rev31, record | .rev31Clap, record | .rev32, record => record

/-- The flag in P1 of the opening. -/
def openingFlag : Card.Revision → Nat
  | .rev24 => 128
  | .rev1 | .rev31 | .rev31Clap | .rev32 => 0

/-- The layout of P1: flag, record and key. -/
theorem toNat_p1_openSession (revision : Card.Revision) (cla sfi : UInt8) (challenge : Bytes)
    {keyIndex record : UInt8} (three : keyIndex < 8) (five : record ≤ 31) :
    (Apdu.Command.openSession revision cla keyIndex sfi record challenge).p1.toNat =
      openingFlag revision + (8 * (sentRecord revision record).toNat + keyIndex.toNat) := by
  have packed := toNat_shiftLeft_three_or five three
  have three : keyIndex.toNat < 8 := three
  cases revision with
  | rev24 =>
    change ((0x80 : UInt8) ||| (record <<< 3 ||| keyIndex)).toNat =
      128 + (8 * (record % 16).toNat + keyIndex.toNat)
    rw [toNat_top_or, packed, UInt8.toNat_mod]
    change 128 + (8 * record.toNat + keyIndex.toNat) % 128 =
      128 + (8 * (record.toNat % 16) + keyIndex.toNat)
    omega
  | rev1 => exact packed.trans (Nat.zero_add _).symm
  | rev31 => exact packed.trans (Nat.zero_add _).symm
  | rev31Clap => exact packed.trans (Nat.zero_add _).symm
  | rev32 => exact packed.trans (Nat.zero_add _).symm

/-- The file stands above three bits of P2 that tell the revision. -/
theorem p2_openSession_shiftRight (revision : Card.Revision) (cla keyIndex record : UInt8)
    (challenge : Bytes) {sfi : UInt8} (five : sfi ≤ 31) :
    (Apdu.Command.openSession revision cla keyIndex sfi record challenge).p2 >>> 3 = sfi := by
  have flagged := shiftLeft_three_or_shiftRight five (by decide : (0x01 : UInt8) < 8)
  cases revision with
  | rev1 => exact shiftLeft_three_shiftRight five
  | rev24 => exact shiftLeft_three_shiftRight five
  | rev31 => exact flagged
  | rev31Clap => exact flagged
  | rev32 => exact flagged

theorem challenge_eq_of_data_eq {revision : Card.Revision} {cla keyIndex sfi record : UInt8}
    {cla' keyIndex' sfi' record' : UInt8} {challenge challenge' : Bytes}
    (same : (Apdu.Command.openSession revision cla keyIndex sfi record challenge).data =
      (Apdu.Command.openSession revision cla' keyIndex' sfi' record' challenge').data) :
    challenge = challenge' := by
  cases revision with
  | rev1 => exact same
  | rev24 => exact same
  | rev31 => exact List.tail_eq_of_cons_eq same
  | rev31Clap => exact List.tail_eq_of_cons_eq same
  | rev32 => exact List.tail_eq_of_cons_eq same

theorem le_openSession (revision : Card.Revision) (cla keyIndex sfi record : UInt8)
    (challenge : Bytes) :
    (Apdu.Command.openSession revision cla keyIndex sfi record challenge).le = some 0x00 := by
  cases revision <;> rfl

/-- Of the number of the record, the command holds what is sent of it and no more. -/
theorem openSession_eq_of_sentRecord_eq {revision : Card.Revision} {record record' : UInt8}
    (same : sentRecord revision record = sentRecord revision record') (cla sfi : UInt8)
    (challenge : Bytes) {keyIndex : UInt8} (three : keyIndex < 8) (five : record ≤ 31)
    (five' : record' ≤ 31) :
    Apdu.Command.openSession revision cla keyIndex sfi record challenge =
      Apdu.Command.openSession revision cla keyIndex sfi record' challenge := by
  have p1 : (Apdu.Command.openSession revision cla keyIndex sfi record challenge).p1 =
      (Apdu.Command.openSession revision cla keyIndex sfi record' challenge).p1 := by
    apply UInt8.toNat_inj.mp
    rw [toNat_p1_openSession revision cla sfi challenge three five,
      toNat_p1_openSession revision cla sfi challenge three five', same]
  cases revision <;> exact Apdu.Command.mk.injEq .. ▸ ⟨rfl, rfl, p1, rfl, rfl, rfl⟩

theorem openSession_eq_iff (revision : Card.Revision) (cla : UInt8)
    {keyIndex keyIndex' sfi sfi' record record' : UInt8} {challenge challenge' : Bytes}
    (three : keyIndex < 8) (three' : keyIndex' < 8) (file : sfi ≤ 31) (file' : sfi' ≤ 31)
    (five : record ≤ 31) (five' : record' ≤ 31) :
    Apdu.Command.openSession revision cla keyIndex sfi record challenge =
        Apdu.Command.openSession revision cla keyIndex' sfi' record' challenge' ↔
      keyIndex = keyIndex' ∧ sfi = sfi' ∧
        sentRecord revision record = sentRecord revision record' ∧ challenge = challenge' := by
  constructor
  · intro same
    have p1 := congrArg (·.p1.toNat) same
    simp only [toNat_p1_openSession revision cla _ _ three five,
      toNat_p1_openSession revision cla _ _ three' five'] at p1
    have low : keyIndex.toNat < 8 := three
    have low' : keyIndex'.toNat < 8 := three'
    have p2 := congrArg (fun command : Apdu.Command => command.p2 >>> 3) same
    simp only [p2_openSession_shiftRight _ _ _ _ _ file,
      p2_openSession_shiftRight _ _ _ _ _ file'] at p2
    refine ⟨UInt8.toNat_inj.mp (by omega), p2, UInt8.toNat_inj.mp (by omega), ?_⟩
    exact challenge_eq_of_data_eq (congrArg (·.data) same)
  · rintro ⟨rfl, rfl, same, rfl⟩
    exact openSession_eq_of_sentRecord_eq same cla sfi challenge three five five'

/-- Addresses that are accepted for the opening have room in the two parameters. -/
theorem le_of_checkReads {reads : List RecordAddress} (accepted : checkReads reads = .ok ()) :
    (firstRead reads).1 ≤ 31 ∧ (firstRead reads).2 ≤ 31 := by
  simp only [checkReads] at accepted
  split at accepted
  · cases accepted
  · rename_i inRange
    obtain ⟨file, record⟩ := not_or.mp inRange
    have file : (firstRead reads).1 ≤ 30 := UInt8.not_lt.mp file
    exact ⟨UInt8.le_trans file (by decide), UInt8.not_lt.mp record⟩

/-- Whether there is room for the whole number of the record. -/
def RecordFits (revision : Card.Revision) (record : UInt8) : Prop :=
  sentRecord revision record = record

instance (revision : Card.Revision) (record : UInt8) : Decidable (RecordFits revision record) :=
  inferInstanceAs (Decidable (_ = _))

/-- Among cards of one revision, two openings that are accepted send the same command exactly if they
agree in the level, the file, the challenge and what is sent of the number of the record. So a record
for whose number there is room is asked for under that number and no other. -/
theorem openingCommand_toBytes_eq_iff {identity identity' : Card.Identity}
    (alike : identity.revision = identity'.revision) {reads reads' : List RecordAddress}
    (accepted : checkReads reads = .ok ()) (accepted' : checkReads reads' = .ok ())
    (level level' : AccessLevel) (challenge challenge' : Bytes) :
    let same := (openingCommand identity level (firstRead reads) challenge).toBytes =
      (openingCommand identity' level' (firstRead reads') challenge').toBytes
    (same ↔ level = level' ∧ (firstRead reads).1 = (firstRead reads').1 ∧
        sentRecord identity.revision (firstRead reads).2 =
          sentRecord identity.revision (firstRead reads').2 ∧ challenge = challenge') ∧
      (RecordFits identity.revision (firstRead reads).2 →
        RecordFits identity.revision (firstRead reads').2 → same →
        level = level' ∧ firstRead reads = firstRead reads' ∧ challenge = challenge') := by
  intro same
  obtain ⟨file, record⟩ := le_of_checkReads accepted
  obtain ⟨file', record'⟩ := le_of_checkReads accepted'
  have told : same ↔ level = level' ∧ (firstRead reads).1 = (firstRead reads').1 ∧
      sentRecord identity.revision (firstRead reads).2 =
        sentRecord identity.revision (firstRead reads').2 ∧ challenge = challenge' := by
    have expected : (openingCommand identity level (firstRead reads) challenge).le =
        (openingCommand identity' level' (firstRead reads') challenge').le := by
      simp only [openingCommand, le_openSession]
    change _ = _ ↔ _
    rw [Apdu.Command.toBytes_inj_of_le_eq expected]
    simp only [openingCommand, Card.Identity.classByte, ← alike]
    rw [openSession_eq_iff _ _ level.keyIndex_lt level'.keyIndex_lt file file' record record']
    exact and_congr_left' ⟨AccessLevel.eq_of_keyIndex_eq, congrArg _⟩
  refine ⟨told, fun fits fits' sent => ?_⟩
  obtain ⟨level, file, number, challenge⟩ := told.mp sent
  rw [fits, fits'] at number
  exact ⟨level, Prod.ext file number, challenge⟩

/-- A card of revision 2.4 to try things on. -/
def olderCard : Card.Identity where
  revision := .rev24
  serial := [0, 0, 0, 0, 0x27, 0x1A, 0x05, 0xC3]
  name := none
  startup := ⟨0x06, 0x3C, 0x06, 0x05, 0x14, 0x10, 0x01⟩
  isInvalidated := false
  atr := []

theorem openingCommand_olderCard :
    checkReads [(8, 15)] = .ok () ∧ checkReads [(8, 31)] = .ok () ∧
      (openingCommand olderCard .debit (8, 15) [1, 2, 3, 4]).toBytes =
        (openingCommand olderCard .debit (8, 31) [1, 2, 3, 4]).toBytes := by
  have accepted : checkReads [(8, 15)] = .ok () := rfl
  have accepted' : checkReads [(8, 31)] = .ok () := rfl
  have alike : olderCard.revision = olderCard.revision := rfl
  have told := openingCommand_toBytes_eq_iff alike accepted accepted' .debit .debit [1, 2, 3, 4]
    [1, 2, 3, 4]
  exact ⟨accepted, accepted', told.1.mpr ⟨rfl, rfl, rfl, rfl⟩⟩

/-- On a card of revision 2.4, record 17 is asked for by the command for record 1, and what the card
returns is reported as record 17. -/
theorem openingCommand_not_injective :
    checkReads [(8, 1)] = .ok () ∧ checkReads [(8, 17)] = .ok () ∧
      (openingCommand olderCard .debit (8, 1) [1, 2, 3, 4]).toBytes =
        (openingCommand olderCard .debit (8, 17) [1, 2, 3, 4]).toBytes ∧
      ∀ opening, firstResult (8, 17) opening = [.records [(17, opening.record)]] :=
  ⟨rfl, rfl, rfl, fun _ => rfl⟩

end Session

end FareTerminal
