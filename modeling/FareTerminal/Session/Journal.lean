import FareTerminal.Session.Operation

/-! A journal of what went over the two channels of a session, and in which phase. -/

namespace FareTerminal

/-- A command to the card or a question to the security module, with what came of it. -/
inductive Event where
  | card (command : Bytes) (answer : Except ReaderError Apdu.Response)
  | sam (call : Sam.Call) (answer : Except SessionError call.Answer)

/-- An event and the phase in which the session was. -/
structure Entry where
  phase : Session.Phase
  event : Event

/-- A terminal and the journal that is kept of its use, in order. -/
structure Journaled (τ : Type) where
  terminal : τ
  entries : List Entry := []

namespace Session

variable {τ ε α : Type}

/-- The session with events written down, all of its present phase. -/
def note (session : Session (Journaled τ)) (terminal : τ) (events : List Event) :
    Session (Journaled τ) :=
  { session with
    terminal := ⟨terminal, session.terminal.entries ++ events.map (⟨session.state.phase, ·⟩)⟩ }

@[simp] theorem note_note (session : Session (Journaled τ)) (terminal next : τ)
    (events more : List Event) :
    (session.note terminal events).note next more = session.note next (events ++ more) := by
  simp [note]

/-- Works on the terminal, and writes down the event that its answer makes. -/
def noting (wrap : ε → SessionError) (event : Except ε α → Event) (work : EStateM ε τ α) :
    SessionM (Journaled τ) α := fun session =>
  match work session.terminal.terminal with
  | .ok a terminal => .ok a (session.note terminal [event (.ok a)])
  | .error error terminal => .error (wrap error) (session.note terminal [event (.error error)])

instance [Terminal τ] : Link (Journaled τ) where
  consult call := noting id (.sam call) (Terminal.consult call)
  exchange command := noting .reader (.card command.toBytes) (Terminal.transmit command.toBytes)

/-- The journal of a run from a new session. -/
def history [Terminal τ] (terminal : τ) (identity : Card.Identity) (settings : Settings)
    (operations : List Operation) : List Entry :=
  (run (new (⟨terminal, []⟩ : Journaled τ) identity settings) operations).terminal.entries

end Session

end FareTerminal
