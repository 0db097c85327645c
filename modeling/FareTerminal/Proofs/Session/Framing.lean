import FareTerminal.Proofs.Apdu.Framing
import FareTerminal.Proofs.Session.Overflow
import FareTerminal.Proofs.Session.Sources

/-! What the bytes that go to the card tell of the commands that are meant. All of a command can be
read from its bytes unless its data is too long for the length byte in front of it. Nothing keeps
such commands back. -/

namespace FareTerminal

/-- The bytes that went to the card. -/
def Event.sent? : Event → Option Bytes
  | .card bytes _ => some bytes
  | .sam .. => none

/-- Whether what the security module has told, if anything, leaves room for what else goes into the
data of a command. -/
def Event.isBrief : Event → Bool
  | .sam .getChallenge (.ok challenge) => challenge.length ≤ 254
  | .sam .finalizeDigest (.ok mac) => mac.length ≤ 255
  | .sam (.prepareChange ..) (.ok complement) => complement.length ≤ 245
  | _ => true

namespace Session

variable {τ : Type}

theorem length_data_le (kvc : UInt8) (change : StoredValue.Change) :
    (change.data kvc).length ≤ 10 := by
  cases change <;> simp [StoredValue.Change.data, StoredValue.Change.reloadData,
    StoredValue.Change.debitData]

theorem length_data_openingCommand (identity : Card.Identity) (level : AccessLevel)
    (address : RecordAddress) (challenge : Bytes) :
    (openingCommand identity level address challenge).data.length ≤ challenge.length + 1 := by
  unfold openingCommand Apdu.Command.openSession
  cases identity.revision <;> simp

theorem fits_of_ordinary {identity : Card.Identity} {asked : FileCommand → Prop}
    {events : List Event} {command : Apdu.Command}
    (short : ∀ command, asked command → command.dataLength ≤ 255)
    (brief : ∀ event ∈ events, event.isBrief = true) (h : Ordinary identity asked events command) :
    command.Fits := by
  unfold Apdu.Command.Fits
  cases h with
  | @file command member =>
    have length : _ = command.dataLength := command.lc_toCommand identity.classByte
    exact Nat.le_trans (Nat.le_of_eq length) (short command member)
  | reading operation => exact Nat.zero_le _
  | @change change reading complement told =>
    have told : complement.length ≤ 245 := of_decide_eq_true (brief _ told)
    have known := length_data_le reading.kvc change
    simp only [changeCommand, Apdu.Command.storedValueChange, List.length_append]
    omega

/-- Data of at most 255 bytes is asked for, and what is told is brief: then all data fits. -/
theorem fits_of_issued {identity : Card.Identity} {asked : FileCommand → Prop} {events : List Event}
    {command : Apdu.Command} (short : ∀ command, asked command → command.dataLength ≤ 255)
    (brief : ∀ event ∈ events, event.isBrief = true) (h : Issued identity asked events command) :
    command.Fits := by
  unfold Apdu.Command.Fits
  cases h with
  | @opening level address challenge told =>
    have told : challenge.length ≤ 254 := of_decide_eq_true (brief _ told)
    have framed := length_data_openingCommand identity level address challenge
    omega
  | ordinary ordinary => exact fits_of_ordinary short brief ordinary
  | @closing ratify mac told =>
    have told : mac.length ≤ 255 := of_decide_eq_true (brief _ told)
    exact told
  | ratification => exact Nat.zero_le _

/-- What goes to the card are the bytes of commands that there is reason to send, and each of these
is read from its bytes just if its data fits. All data fits if what the caller asks for is short and
what the security module tells is brief. -/
theorem run_framing [Terminal τ] (terminal : τ) (identity : Card.Identity) (settings : Settings)
    (operations : List Operation) :
    let events := (history terminal identity settings operations).map (·.event)
    (∀ bytes ∈ events.filterMap Event.sent?, ∃ command,
      Issued identity (asksFor operations) events command ∧ bytes = command.toBytes ∧
        Apdu.Command.ofBytes? bytes = if command.Fits then some command else none) ∧
      ((∀ command, asksFor operations command → command.dataLength ≤ 255) →
        (∀ event ∈ events, event.isBrief = true) →
        ∀ bytes ∈ events.filterMap Event.sent?, ∃ command,
          Issued identity (asksFor operations) events command ∧
            Apdu.Command.ofBytes? bytes = some command) := by
  intro events
  have framed : ∀ bytes ∈ events.filterMap Event.sent?, ∃ command,
      Issued identity (asksFor operations) events command ∧ bytes = command.toBytes ∧
        Apdu.Command.ofBytes? bytes = if command.Fits then some command else none := by
    intro bytes member
    obtain ⟨event, member, sent⟩ := List.mem_filterMap.mp member
    have source := sourced_history terminal identity settings operations event member
    cases event with
    | sam call answer => cases sent
    | card command answer =>
      obtain ⟨command, issued, rfl⟩ := source
      cases sent
      exact ⟨command, issued, rfl, command.ofBytes?_toBytes_eq⟩
  refine ⟨framed, fun short brief bytes member => ?_⟩
  obtain ⟨command, issued, -, read⟩ := framed bytes member
  exact ⟨command, issued, by rw [read, if_pos (fits_of_issued short brief issued)]⟩

theorem run_framing_rejectedRun :
    let events := (history rejectingBench sampleCard {} rejectedRun).map (·.event)
    (∀ command, asksFor rejectedRun command → command.dataLength ≤ 255) ∧
      (∀ event ∈ events, event.isBrief = true) ∧
      ∀ bytes ∈ events.filterMap Event.sent?, ∃ command,
        Issued sampleCard (asksFor rejectedRun) events command ∧
          Apdu.Command.ofBytes? bytes = some command := by
  intro events
  have short : ∀ command, asksFor rejectedRun command → command.dataLength ≤ 255 := by
    rintro command ⟨operation, member, asked⟩
    simp only [rejectedRun, List.mem_cons, List.not_mem_nil, or_false] at member
    obtain rfl | rfl := member
    · cases asked
    · simp only [Operation.commands, List.mem_cons, List.not_mem_nil, or_false] at asked
      obtain rfl | rfl := asked <;> decide
  have brief : ∀ event ∈ events, event.isBrief = true := List.all_eq_true.mp (by decide)
  exact ⟨short, brief, (run_framing rejectingBench sampleCard {} rejectedRun).2 short brief⟩

/-- A card with room for larger commands than any. -/
def roomyCard : Card.Identity :=
  { sampleCard with startup := { sampleCard.startup with bufferSizeIndicator := 0x0A } }

/-- A session in which a record of 256 bytes is written. -/
def overlongRun : List Operation :=
  [.openSession .load [], .batch [.updateRecord 7 1 (List.replicate 256 0)]]

/-- The command is paid for and sent, with a length byte that says zero. -/
theorem run_framing_overlong :
    let events := (history rejectingBench roomyCard {} overlongRun).map (·.event)
    let sent := events.filterMap Event.sent?
    (run (new rejectingBench roomyCard {}) overlongRun).state.budget.used = 262 ∧
      sent[1]? = some ([0x00, 0xDC, 0x01, 0x3C, 0x00] ++ List.replicate 256 0) ∧
      sent.map (fun bytes => (Apdu.Command.ofBytes? bytes).isSome) = [true, false] := by
  decide +kernel

end Session

end FareTerminal
