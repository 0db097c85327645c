import FareTerminal.Sam.Client
import FareTerminal.Terminal

/-! What comes of the answers of a security module. The data of a challenge has to have the length that
was asked for; of a signature, the length is not looked at. -/

namespace FareTerminal

namespace Sam.Client

variable {κ : Type} [Reader κ]

theorem dataOf_eq_ok_iff {kind : CommandKind} {response : Apdu.Response} {data : Bytes} :
    dataOf kind response = .ok data ↔ response = ⟨data, .success⟩ := by
  unfold dataOf
  constructor
  · intro told
    split at told
    · rename_i success
      obtain rfl : response.data = data := Except.ok.inj told
      have status : response.status = .success := eq_of_beq success
      exact status ▸ rfl
    · cases told
  · rintro rfl
    rfl

theorem run_request_of_answer {kind : CommandKind} {command : Apdu.Command} {client : Client κ}
    {response : Apdu.Response} {after : κ}
    (answered : Reader.transmit command.toBytes client.reader = .ok response after) :
    (request kind command).run client =
      match dataOf kind response with
      | .ok data => .ok data ⟨after⟩
      | .error error => .error error ⟨after⟩ := by
  have sent : (exchange command).run client = .ok response ⟨after⟩ := by
    change exchange command client = _
    rw [exchange, answered]
  rw [request, EStateM.run_bind, sent]
  change (MonadExcept.ofExcept (dataOf kind response) : EStateM _ _ _).run _ = _
  cases dataOf kind response <;> rfl

theorem run_request_of_failure {kind : CommandKind} {command : Apdu.Command} {client : Client κ}
    {error : ReaderError} {after : κ}
    (failed : Reader.transmit command.toBytes client.reader = .error error after) :
    (request kind command).run client = .error (.reader error) ⟨after⟩ := by
  have sent : (exchange command).run client = .error (.reader error) ⟨after⟩ := by
    change exchange command client = _
    rw [exchange, failed]
  rw [request, EStateM.run_bind, sent]

/-- What the security module signs with when it is asked for a signature. -/
def signing (client : Client κ) : Except SessionError Bytes :=
  match Reader.transmit (Apdu.Command.digestClose signatureLength).toBytes client.reader with
  | .ok response _ => dataOf .digestClose response
  | .error error _ => .error (.reader error)

theorem exists_of_signing_eq_ok {client : Client κ} {mac : Bytes} (h : client.signing = .ok mac) :
    ∃ after, Reader.transmit (Apdu.Command.digestClose signatureLength).toBytes client.reader =
      .ok ⟨mac, .success⟩ after := by
  unfold signing at h
  split at h
  · rename_i response after answered
    obtain rfl := dataOf_eq_ok_iff.mp h
    exact ⟨after, answered⟩
  · cases h

theorem exists_run_finalizeDigest (client : Client κ) :
    ∃ after, (consult .finalizeDigest).run client =
      match client.signing with
      | .ok mac => .ok mac after
      | .error error => .error error after := by
  change ∃ after, (request .digestClose (.digestClose signatureLength)).run client = _
  unfold signing
  cases told : Reader.transmit (Apdu.Command.digestClose signatureLength).toBytes client.reader with
  | ok response after => exact ⟨⟨after⟩, run_request_of_answer told⟩
  | error error after => exact ⟨⟨after⟩, run_request_of_failure told⟩

/-- The security module derives the keys of the card, and answers with this challenge when it is then
asked for one. -/
def Challenges (client : Client κ) (serial challenge : Bytes) : Prop :=
  ∃ data reader after,
    Reader.transmit (Apdu.Command.selectDiversifier serial).toBytes client.reader =
        .ok ⟨data, .success⟩ reader ∧
      Reader.transmit (Apdu.Command.getChallenge challengeLength).toBytes reader =
        .ok ⟨challenge, .success⟩ after

/-- A challenge of any other length than was asked for is not taken. -/
theorem exists_run_getChallenge {client : Client κ} {serial challenge : Bytes}
    (h : client.Challenges serial challenge)
    (length : challenge.length ≠ challengeLength.toNat) :
    ∃ between after, (consult (.selectDiversifier serial)).run client = .ok () between ∧
      (consult .getChallenge).run between =
        .error (.malformed (.samChallenge challenge.length)) after := by
  obtain ⟨data, reader, after, diversified, challenged⟩ := h
  refine ⟨⟨reader⟩, ⟨after⟩, ?_, ?_⟩
  · rw [consult, EStateM.run_bind, run_request_of_answer diversified]
    rfl
  · have challenged : (request .getChallenge (.getChallenge challengeLength)).run ⟨reader⟩ =
        .ok challenge ⟨after⟩ := run_request_of_answer challenged
    simp only [consult, EStateM.run_bind, challenged, if_neg length]
    rfl

end Sam.Client

namespace Bench

variable {ρ σ : Type} [Reader ρ] [SecurityModule σ] {terminal : Bench ρ σ} {call : Sam.Call}

theorem run_consult_of_ok {answer : call.Answer} {sam : σ}
    (told : (SecurityModule.consult call).run terminal.sam = .ok answer sam) :
    (Terminal.consult call).run terminal = .ok answer { terminal with sam } := by
  change onSam (SecurityModule.consult call) terminal = _
  rw [onSam, show SecurityModule.consult call _ = _ from told]

theorem run_consult_of_error {error : SessionError} {sam : σ}
    (told : (SecurityModule.consult call).run terminal.sam = .error error sam) :
    (Terminal.consult call).run terminal = .error error { terminal with sam } := by
  change onSam (SecurityModule.consult call) terminal = _
  rw [onSam, show SecurityModule.consult call _ = _ from told]

end Bench

end FareTerminal
