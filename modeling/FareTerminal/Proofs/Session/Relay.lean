import FareTerminal.Proofs.Sam.Requests
import FareTerminal.Proofs.Session.Journal

/-! What the reader of the security module is sent, by the journal of a session: for each question
its commands, in order, and nothing for what goes to the card. -/

namespace FareTerminal

open Sam (Client)

/-- Whether this is what is sent to the security module on account of an event. A question that has
failed was put in part at least. -/
def Event.Relays : Event → List Bytes → Prop
  | .card .., part => part = []
  | .sam call (.ok _), part => part = Client.wire call
  | .sam call (.error _), part => part ≠ [] ∧ part <+: Client.wire call

namespace Session

/-- Whether this is what is sent to the security module on account of events. -/
def Relayed : List Event → List Bytes → Prop
  | [], sent => sent = []
  | event :: rest, sent =>
    ∃ part later, sent = part ++ later ∧ event.Relays part ∧ Relayed rest later

theorem relayed_append {events more : List Event} {sent : List Bytes} :
    Relayed (events ++ more) sent ↔
      ∃ first last, sent = first ++ last ∧ Relayed events first ∧ Relayed more last := by
  induction events generalizing sent with
  | nil =>
    constructor
    · exact fun h => ⟨[], sent, rfl, rfl, h⟩
    · rintro ⟨_, last, rfl, rfl, h⟩
      exact h
  | cons event rest ih =>
    simp only [List.cons_append, Relayed, ih]
    constructor
    · rintro ⟨part, _, rfl, relays, first, last, rfl, before, after⟩
      exact ⟨part ++ first, last, by rw [List.append_assoc],
        ⟨part, first, rfl, relays, before⟩, after⟩
    · rintro ⟨_, last, rfl, ⟨part, first, rfl, relays, before⟩, after⟩
      exact ⟨part, first ++ last, by rw [List.append_assoc],
        relays, first, last, rfl, before, after⟩

theorem Relayed.concat {events : List Event} {event : Event} {sent part : List Bytes}
    (h : Relayed events sent) (relays : event.Relays part) :
    Relayed (events ++ [event]) (sent ++ part) :=
  relayed_append.mpr ⟨sent, part, rfl, h, part, [], by simp, relays, rfl⟩

variable {ρ κ : Type}

/-- What was sent to the security module is what the journal accounts for. -/
def Relaying (terminal : Journaled (Bench ρ (Client (Recorded κ)))) : Prop :=
  Relayed (terminal.entries.map (·.event)) terminal.terminal.sam.sent

theorem Relaying.note {terminal : Journaled (Bench ρ (Client (Recorded κ)))} (h : Relaying terminal)
    {after : Bench ρ (Client (Recorded κ))} {event : Event} {part : List Bytes} (phase : Phase)
    (sent : after.sam.sent = terminal.terminal.sam.sent ++ part) (relays : event.Relays part) :
    Relaying ⟨after, terminal.entries ++ [⟨phase, event⟩]⟩ := by
  unfold Relaying at h ⊢
  rw [List.map_append, sent]
  exact h.concat relays

variable [Reader ρ] [Reader κ]

theorem parallel_consult_relaying (call : Sam.Call) :
    Parallel (Holding (Relaying (ρ := ρ) (κ := κ))) (consult call) (consult call) := by
  rintro session _ ⟨rfl, kept⟩
  change SameEnding _ (noting id (.sam call) (Bench.onSam (Client.consult call)) session)
    (noting id (.sam call) (Bench.onSam (Client.consult call)) session)
  have asks := Client.asks_consult call session.terminal.terminal.sam
  unfold EStateM.run at asks
  unfold noting Bench.onSam
  cases asked : Client.consult call session.terminal.terminal.sam with
  | ok answer client =>
    rw [asked] at asks
    cases asks with
    | answered all => exact .ok answer ⟨rfl, kept.note session.state.phase all rfl⟩
  | error error client =>
    rw [asked] at asks
    cases asks with
    | failed some first until_then =>
      exact .error _ ⟨rfl, kept.note session.state.phase until_then ⟨some, first⟩⟩

theorem parallel_exchange_relaying (command : Apdu.Command) :
    Parallel (Holding (Relaying (ρ := ρ) (κ := κ))) (exchange command) (exchange command) := by
  rintro session _ ⟨rfl, kept⟩
  change SameEnding _
    (noting .reader (.card command.toBytes) (Bench.onCard (Reader.transmit command.toBytes))
      session)
    (noting .reader (.card command.toBytes) (Bench.onCard (Reader.transmit command.toBytes))
      session)
  unfold noting Bench.onCard
  cases Reader.transmit command.toBytes session.terminal.terminal.card with
  | ok response card =>
    exact .ok response ⟨rfl, kept.note session.state.phase (List.append_nil _).symm rfl⟩
  | error error card =>
    exact .error _ ⟨rfl, kept.note session.state.phase (List.append_nil _).symm rfl⟩

theorem linked_relaying : Linked (Holding (Relaying (ρ := ρ) (κ := κ))) :=
  ⟨parallel_consult_relaying, parallel_exchange_relaying⟩

/-- A card, and a security module behind a reader that is to be recorded. -/
def recording (card : ρ) (reader : κ) : Bench ρ (Client (Recorded κ)) := ⟨card, ⟨⟨reader, []⟩⟩⟩

/-- What a run sends to the security module is what its journal accounts for. -/
theorem relayed_history (card : ρ) (reader : κ) (identity : Card.Identity) (settings : Settings)
    (operations : List Operation) :
    Relayed ((history (recording card reader) identity settings operations).map (·.event))
      (run (new (recording card reader) identity settings) operations).terminal.sam.sent := by
  rw [run_eq_erase]
  have start : Relaying (new ⟨recording card reader, []⟩ identity settings).terminal := rfl
  exact linked_relaying.holds_run start operations

end Session

end FareTerminal
