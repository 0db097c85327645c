import FareTerminal.Proofs.Session.Ensures
import FareTerminal.Sam.Client

/-! What kinds of failure a computation can have. Questions to a security module behind a reader fail
for what the reader or the module says, and for nothing else. -/

namespace FareTerminal.Session

variable {σ τ α β : Type} {p q : SessionError → Prop}

/-- All failures of a computation are of one kind. -/
def Raises (p : SessionError → Prop) (work : EStateM SessionError σ α) : Prop :=
  ∀ state error after, work.run state = .error error after → p error

theorem Raises.imp {work : EStateM SessionError σ α} (h : Raises p work)
    (weaker : ∀ error, p error → q error) : Raises q work :=
  fun state error after ends => weaker error (h state error after ends)

theorem raises_pure (a : α) : Raises (σ := σ) p (pure a) := nofun

theorem raises_throw {error : SessionError} (h : p error) :
    Raises p (throw error : EStateM SessionError σ α) := by
  intro state failure after ends
  cases ends
  exact h

theorem raises_get : Raises (σ := σ) p get := nofun

theorem raises_modifyState (change : State → State) :
    Raises p (modifyState change : SessionM τ Unit) := by
  intro session error after ends
  rw [run_modifyState] at ends
  cases ends

theorem raises_ofExcept {outcome : Except SessionError α}
    (h : ∀ error, outcome = .error error → p error) :
    Raises (σ := σ) p (MonadExcept.ofExcept outcome) := by
  intro state error after ends
  cases outcome with
  | ok a => cases ends
  | error failure =>
    cases ends
    exact h error rfl

theorem Raises.bind {work : EStateM SessionError σ α} {next : α → EStateM SessionError σ β}
    (h : Raises p work) (hn : ∀ a, Raises p (next a)) : Raises p (work >>= next) := by
  intro state error after ends
  rw [EStateM.run_bind] at ends
  cases first : work.run state with
  | ok a between =>
    rw [first] at ends
    exact hn a between error after ends
  | error failure between =>
    rw [first] at ends
    cases ends
    exact h state error after first

theorem raises_onTerminal {ε : Type} {wrap : ε → SessionError} {work : EStateM ε τ α}
    (h : ∀ terminal error after, work.run terminal = .error error after → p (wrap error)) :
    Raises p (onTerminal wrap work) := by
  intro session error after ends
  change onTerminal wrap work session = _ at ends
  unfold onTerminal at ends
  cases first : work session.terminal with
  | ok a terminal =>
    rw [first] at ends
    cases ends
  | error failure terminal =>
    rw [first] at ends
    cases ends
    exact h _ failure terminal first

/-- A journal makes no difference to the failures. -/
theorem raises_noting {ε : Type} {wrap : ε → SessionError} {event : Except ε α → Event}
    {work : EStateM ε τ α}
    (h : ∀ terminal error after, work.run terminal = .error error after → p (wrap error)) :
    Raises p (noting wrap event work) := by
  intro session error after ends
  change noting wrap event work session = _ at ends
  unfold noting at ends
  cases first : work session.terminal.terminal with
  | ok a terminal =>
    rw [first] at ends
    cases ends
  | error failure terminal =>
    rw [first] at ends
    cases ends
    exact h _ failure terminal first

theorem Raises.orAbort {work : SessionM τ α} (h : Raises p work) : Raises p (orAbort work) := by
  intro session error after ends
  rw [run_orAbort] at ends
  cases first : work.run session with
  | ok a between =>
    rw [first] at ends
    cases ends
  | error failure between =>
    rw [first] at ends
    cases ends
    exact h session error between first

/-- What holds after a computation, with the kind of its failure. -/
theorem Ensures.and_raises {work : SessionM τ α} {session : Session τ} {post : Postcondition τ α}
    (h : Ensures work session post) (raises : Raises p work) :
    Ensures work session fun outcome after =>
      post outcome after ∧ ∀ error, outcome = .error error → p error := by
  unfold Ensures at h ⊢
  cases ends : work.run session with
  | ok a after =>
    rw [ends] at h
    exact ⟨h, nofun⟩
  | error error after =>
    rw [ends] at h
    exact ⟨h, fun _ same => Except.error.inj same ▸ raises session error after ends⟩

/-- The failures that are reported to a session: there was no response, or not the one that was
needed. -/
inductive IsReported : SessionError → Prop
  | reader (error : ReaderError) : IsReported (.reader error)
  | samRejected (command : Sam.CommandKind) (status : StatusWord) :
    IsReported (.samRejected command status)
  | malformed (fault : ResponseFault) : IsReported (.malformed fault)

/-- Whether a result tells what the data of a response say. -/
def CommandResult.isValue : CommandResult → Bool
  | records _ | counter _ | applied => true
  | rejected _ | skipped => false

/-- The data of a response are a value, or they have not the shape of one. -/
theorem decode_cases (command : FileCommand) (data : Bytes) :
    (∃ result, command.decode data = .ok result ∧ result.isValue = true) ∨
      ∃ fault, command.decode data = .error (.malformed fault) := by
  have counted : (∃ result, FileCommand.decodeCounter data = .ok result ∧ result.isValue = true) ∨
      ∃ fault, FileCommand.decodeCounter data = .error (.malformed fault) := by
    unfold FileCommand.decodeCounter
    split
    · exact .inl ⟨_, rfl, rfl⟩
    · exact .inr ⟨_, rfl⟩
  cases command with
  | readRecords sfi record multiple expected =>
    cases multiple with
    | false => exact .inl ⟨_, rfl, rfl⟩
    | true =>
      simp only [FileCommand.decode]
      split
      · exact .inl ⟨_, rfl, rfl⟩
      · exact .inr ⟨_, rfl⟩
  | updateRecord sfi record data => exact .inl ⟨_, rfl, rfl⟩
  | writeRecord sfi record data => exact .inl ⟨_, rfl, rfl⟩
  | appendRecord sfi data => exact .inl ⟨_, rfl, rfl⟩
  | increase sfi counter amount => exact counted
  | decrease sfi counter amount => exact counted

theorem isReported_of_decode {command : FileCommand} {data : Bytes} {error : SessionError}
    (h : command.decode data = .error error) : IsReported error := by
  obtain ⟨told, decoded, _⟩ | ⟨fault, failed⟩ := decode_cases command data
  · rw [decoded] at h
    cases h
  · rw [failed] at h
    exact Except.error.inj h ▸ .malformed fault

section Client

open Sam (Client)

variable {ρ κ : Type} [Reader ρ] [Reader κ]

theorem raises_sam_exchange (command : Apdu.Command) :
    Raises IsReported (Client.exchange command : EStateM _ (Client κ) _) := by
  intro client error after ends
  change Client.exchange command client = _ at ends
  unfold Client.exchange at ends
  split at ends
  · cases ends
  · cases ends
    exact .reader _

theorem raises_request (kind : Sam.CommandKind) (command : Apdu.Command) :
    Raises IsReported (Client.request kind command : EStateM _ (Client κ) _) := by
  refine (raises_sam_exchange command).bind fun response => raises_ofExcept fun error failed => ?_
  unfold Client.dataOf at failed
  split at failed
  · cases failed
  · cases failed
    exact .samRejected _ _

theorem raises_verify (kind : Sam.CommandKind) (command : Apdu.Command) :
    Raises IsReported (Client.verify kind command : EStateM _ (Client κ) _) := by
  refine (raises_sam_exchange command).bind fun response => raises_ofExcept fun error failed => ?_
  unfold Client.verdictOf at failed
  split at failed
  · cases failed
  · split at failed
    · cases failed
    · cases failed
      exact .samRejected _ _

theorem raises_sam_consult (call : Sam.Call) :
    Raises IsReported (Client.consult call : EStateM _ (Client κ) _) := by
  cases call with
  | selectDiversifier serial => exact (raises_request _ _).bind fun _ => raises_pure _
  | getChallenge =>
    refine (raises_request _ _).bind fun challenge => ?_
    split
    · exact raises_pure _
    · exact raises_throw (.malformed _)
  | beginDigest response kif kvc level => exact (raises_request _ _).bind fun _ => raises_pure _
  | updateDigest command response =>
    exact (raises_request _ _).bind fun _ => (raises_request _ _).bind fun _ => raises_pure _
  | finalizeDigest => exact raises_request _ _
  | verifyMac signature => exact raises_verify _ _
  | prepareChange action command response data => exact raises_request _ _
  | checkChange signature => exact raises_verify _ _

/-- A security module next to a card is the same. -/
theorem raises_bench_consult (call : Sam.Call) :
    Raises IsReported (Terminal.consult call : EStateM _ (Bench ρ (Client κ)) _) := by
  intro terminal error after ends
  change Bench.onSam (Client.consult call) terminal = _ at ends
  unfold Bench.onSam at ends
  split at ends
  · cases ends
  · rename_i failed
    cases ends
    exact raises_sam_consult call _ _ _ failed

end Client

/-- All that questions and commands fail with is reported to the session. -/
structure Reporting (τ : Type) [Link τ] : Prop where
  raises_consult : ∀ call, Raises IsReported (consult call : SessionM τ call.Answer)
  raises_exchange : ∀ command, Raises IsReported (exchange command : SessionM τ Apdu.Response)

namespace Reporting

theorem raises_exchangeDigested [Link τ] (reporting : Reporting τ) (command : Apdu.Command) :
    Raises IsReported (exchangeDigested command : SessionM τ Apdu.Response) :=
  (reporting.raises_exchange command).bind fun _ =>
    (reporting.raises_consult _).bind fun _ => raises_pure _

/-- Once a command is charged, it does not fail for want of budget any more. -/
theorem raises_carryOut [Link τ] (reporting : Reporting τ) (command : FileCommand) :
    Raises IsReported (orAbort (carryOut command) : SessionM τ CommandResult) := by
  refine .orAbort (raises_get.bind fun _ =>
    (reporting.raises_exchangeDigested _).bind fun response => ?_)
  split
  · exact raises_ofExcept fun error => isReported_of_decode
  · exact (raises_modifyState _).bind fun _ => raises_pure _

variable {ρ κ : Type} [Reader ρ] [Reader κ]

theorem bench : Reporting (Bench ρ (Sam.Client κ)) where
  raises_consult call := raises_onTerminal fun _ _ _ => raises_bench_consult call _ _ _
  raises_exchange _ := raises_onTerminal fun _ error _ _ => .reader error

theorem journaled : Reporting (Journaled (Bench ρ (Sam.Client κ))) where
  raises_consult call := raises_noting fun _ _ _ => raises_bench_consult call _ _ _
  raises_exchange _ := raises_noting fun _ error _ _ => .reader error

end Reporting

end FareTerminal.Session
