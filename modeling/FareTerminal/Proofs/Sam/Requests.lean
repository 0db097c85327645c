import FareTerminal.Reader
import FareTerminal.Sam.Client

/-! What is sent to a security module for each question: one command, or two, and of these no more
than were needed for a failure. -/

namespace FareTerminal.Sam

/-- The commands for a question. -/
def Client.requests : Call → List Apdu.Command
  | .selectDiversifier serial => [.selectDiversifier serial]
  | .getChallenge => [.getChallenge challengeLength]
  | .beginDigest response kif kvc level => [.digestInit kif kvc level.keyIndex response]
  | .updateDigest command response => [.digestUpdate command, .digestUpdate response]
  | .finalizeDigest => [.digestClose signatureLength]
  | .verifyMac signature => [.digestAuthenticate signature]
  | .prepareChange action command response data =>
    [.storedValuePrepare (prepareInstruction action) (command.take 4 ++ response ++ data)]
  | .checkChange signature => [.storedValueCheck signature]

/-- The bytes of the commands for a question. -/
def Client.wire (call : Call) : List Bytes := (requests call).map (·.toBytes)

namespace Client

variable {ρ ε α β : Type}

/-- What a client has sent. -/
def sent (client : Client (Recorded ρ)) : List Bytes := client.reader.exchanges.map (·.1)

/-- The client that work leaves behind. -/
def left : EStateM.Result ε (Client ρ) α → Client ρ
  | .ok _ client | .error _ client => client

/-- What makes no use of the client leaves it as it is. -/
theorem left_bind (work : EStateM ε (Client ρ) α) {next : α → EStateM ε (Client ρ) β}
    (idle : ∀ a client, left ((next a).run client) = client) (client : Client ρ) :
    left ((work >>= next).run client) = left (work.run client) := by
  rw [EStateM.run_bind]
  cases work.run client with
  | ok a after => exact idle a after
  | error error after => rfl

theorem left_ofExcept (outcome : Except SessionError α) (client : Client ρ) :
    left ((MonadExcept.ofExcept outcome : EStateM SessionError (Client ρ) α).run client) =
      client := by
  cases outcome <;> rfl

/-- What has been sent when a question is answered, or has failed. -/
inductive Asks (call : Call) (before : List Bytes) :
    EStateM.Result SessionError (Client (Recorded ρ)) call.Answer → Prop
  | answered {answer : call.Answer} {client : Client (Recorded ρ)}
    (all : client.sent = before ++ wire call) : Asks call before (.ok answer client)
  | failed {error : SessionError} {client : Client (Recorded ρ)} {part : List Bytes}
    (some : part ≠ []) (first : part <+: wire call) (until_then : client.sent = before ++ part) :
    Asks call before (.error error client)

/-- Where there is one command for a question, it is sent whatever comes of it. -/
theorem asks_of_single {call : Call} {command : Apdu.Command} (single : requests call = [command])
    {before : List Bytes} {result : EStateM.Result SessionError (Client (Recorded ρ)) call.Answer}
    (h : (left result).sent = before ++ [command.toBytes]) : Asks call before result := by
  have wired : wire call = [command.toBytes] := by rw [wire, single]; rfl
  cases result with
  | ok answer client => exact .answered (by rw [wired]; exact h)
  | error error client => exact .failed (by simp) (by simp [wired]) h

variable [Reader ρ]

theorem sent_exchange (command : Apdu.Command) (client : Client (Recorded ρ)) :
    (left ((exchange command).run client)).sent = client.sent ++ [command.toBytes] := by
  simp only [exchange, EStateM.run, Reader.transmit, Recorded.transmit]
  cases Reader.transmit command.toBytes client.reader.reader <;> simp [left, sent]

theorem sent_request (kind : CommandKind) (command : Apdu.Command) (client : Client (Recorded ρ)) :
    (left ((request kind command).run client)).sent = client.sent ++ [command.toBytes] := by
  rw [request, left_bind _ fun _ => left_ofExcept _, sent_exchange]

theorem sent_verify (kind : CommandKind) (command : Apdu.Command) (client : Client (Recorded ρ)) :
    (left ((verify kind command).run client)).sent = client.sent ++ [command.toBytes] := by
  rw [verify, left_bind _ fun _ => left_ofExcept _, sent_exchange]

theorem asks_consult (call : Call) (client : Client (Recorded ρ)) :
    Asks call client.sent ((consult call).run client) := by
  cases call with
  | selectDiversifier serial =>
    refine asks_of_single rfl ?_
    rw [consult, left_bind _ fun _ _ => rfl, sent_request]
  | getChallenge =>
    refine asks_of_single rfl ?_
    rw [consult, left_bind, sent_request]
    intro challenge after
    split <;> rfl
  | beginDigest response kif kvc level =>
    refine asks_of_single rfl ?_
    rw [consult, left_bind _ fun _ _ => rfl, sent_request]
  | updateDigest command response =>
    -- The one question with two commands: when the first fails, the second is not sent.
    have first := sent_request .digestUpdate (.digestUpdate command) client
    rw [consult, EStateM.run_bind]
    cases begun : (request .digestUpdate (.digestUpdate command)).run client with
    | error error after =>
      rw [begun] at first
      exact .failed (List.cons_ne_nil _ _) ⟨[_], rfl⟩ first
    | ok _ after =>
      rw [begun] at first
      have second := sent_request .digestUpdate (.digestUpdate response) after
      rw [show after.sent = _ from first, List.append_assoc] at second
      simp only [EStateM.run_bind]
      cases ended : (request .digestUpdate (.digestUpdate response)).run after with
      | error error last =>
        rw [ended] at second
        exact .failed (List.cons_ne_nil _ _) (List.prefix_refl _) second
      | ok _ last =>
        rw [ended] at second
        exact .answered second
  | finalizeDigest => exact asks_of_single rfl (sent_request _ _ _)
  | verifyMac signature => exact asks_of_single rfl (sent_verify _ _ _)
  | prepareChange action command response data => exact asks_of_single rfl (sent_request _ _ _)
  | checkChange signature => exact asks_of_single rfl (sent_verify _ _ _)

end Client

end FareTerminal.Sam
