import Mathlib.Logic.Relation
import FareTerminal.Proofs.Session.Dialogue

/-! The course of a session: all that is known of it but what it runs on. Whatever the terminal and
the card do, every operation takes a course through steps of the nine kinds listed here. -/

namespace FareTerminal.Session

variable {τ : Type}

/-- What each step keeps, any number of steps keep. -/
theorem kept_of_reflTransGen {σ : Type} {r : σ → σ → Prop} {p : σ → Prop} {first last : σ}
    (h : Relation.ReflTransGen r first last) (start : p first)
    (kept : ∀ s s', r s s' → p s → p s') : p last := by
  induction h with
  | refl => exact start
  | tail _ step ih => exact kept _ _ step ih

/-- What has come of a session, with the journal of what was said. -/
structure Course where
  identity : Card.Identity
  settings : Settings
  state : State
  reading : Option StoredValue.Reading
  signaturePending : Bool
  entries : List Entry

/-- The course that a session has taken. -/
def course (session : Session (Journaled τ)) : Course where
  identity := session.identity
  settings := session.settings
  state := session.state
  reading := session.reading
  signaturePending := session.signaturePending
  entries := session.terminal.entries

namespace Course

/-- The course of a session that nobody has used yet. -/
def start (identity : Card.Identity) (settings : Settings) : Course where
  identity := identity
  settings := settings
  state := { budget := identity.budget }
  reading := none
  signaturePending := false
  entries := []

/-- The course after events of the present phase that lead to the given state. -/
def advance (c : Course) (events : List Event) (state : State) : Course :=
  { c with entries := c.entries ++ events.map (⟨c.state.phase, ·⟩), state }

/-- A command is charged to the budget if it is modifying. -/
def Charged (command : FileCommand) (cla : UInt8) (budget budget' : Card.Budget) : Prop :=
  if command.isModifying then
    budget.charge (UInt64.ofNat (command.toCommand cla).lc) = .ok budget'
  else budget' = budget

/-- Whether the card has accepted a command. -/
def isAccepted : Except SessionError Apdu.Response → Bool
  | .ok response => response.isSuccess
  | .error _ => false

/-- What can happen next in a session, where only certain commands are asked for in batches. -/
inductive Step (asked : FileCommand → Prop) : Course → Course → Prop
  | openingFailed {c : Course} {level : AccessLevel} {address : RecordAddress}
    {events : List Event} {error : SessionError} (closed : c.state.phase = .closed)
    (negotiated : Negotiation c.identity c.settings level address events (.error error)) :
    Step asked c (c.advance events (c.state.fail error))
  | opened {c : Course} {level : AccessLevel} {address : RecordAddress} {events : List Event}
    {opening : OpenResponse} (closed : c.state.phase = .closed)
    (negotiated : Negotiation c.identity c.settings level address events (.ok opening)) :
    Step asked c (c.advance events (c.state.opened level opening.ratified))
  | commandSent {c : Course} {command : FileCommand} {budget : Card.Budget} {events : List Event}
    {outcome : Except SessionError Apdu.Response} (opened : c.state.phase = .opened)
    (member : asked command) (addressed : command.checkAddress = .ok ())
    (charged : Charged command c.identity.classByte c.state.budget budget)
    (digested : Digested (command.toCommand c.identity.classByte) events outcome) :
    Step asked c (c.advance events
      ({ c.state with budget }.settle command.kind (command.decode ·.data) outcome))
  | valueAsked {c : Course} {operation : StoredValue.Operation} {events : List Event}
    {outcome : Except SessionError Apdu.Response} (active : c.state.phase.isTerminated = false)
    (available : c.identity.capabilities.storedValue = true)
    (delivered : Delivered (readingCommand c.identity.classByte operation) c.state.phase events
      outcome) :
    Step asked c (c.advance events (c.state.settle .storedValueGet
      (readReading operation (readingCommand c.identity.classByte operation)) outcome))
  | valueRead {c : Course} {operation : StoredValue.Operation} {events : List Event}
    {response : Apdu.Response} {reading kept : StoredValue.Reading}
    (active : c.state.phase.isTerminated = false)
    (available : c.identity.capabilities.storedValue = true)
    (delivered : Delivered (readingCommand c.identity.classByte operation) c.state.phase events
      (.ok response))
    (success : response.isSuccess = true)
    (read : readReading operation (readingCommand c.identity.classByte operation) response =
      .ok reading)
    (logs : kept = reading ∨ ∃ other, kept = reading.withLogsOf other) :
    Step asked c { c.advance events c.state with reading := some kept }
  | valueChanged {c : Course} {change : StoredValue.Change} {reading : StoredValue.Reading}
    {events : List Event} {outcome : Except SessionError Apdu.Response}
    (active : c.state.phase.isTerminated = false)
    (available : c.identity.capabilities.storedValue = true)
    (free : c.signaturePending = false)
    (usable : usableReading c.settings.valuePolicy c.reading change = .ok reading)
    (changing : Changing c.identity.classByte change reading c.state.phase events outcome)
    (unfinished : c.state.phase = .opened ∨ isAccepted outcome = false) :
    Step asked c { c.advance events
        (c.state.settle (.storedValueChange change.action) Except.ok outcome) with
      reading := none, signaturePending := isAccepted outcome }
  | valueChangedOutside {c : Course} {change : StoredValue.Change}
    {reading : StoredValue.Reading} {events : List Event} {response : Apdu.Response}
    (closed : c.state.phase = .closed)
    (available : c.identity.capabilities.storedValue = true)
    (free : c.signaturePending = false)
    (usable : usableReading c.settings.valuePolicy c.reading change = .ok reading)
    (changing : Changing c.identity.classByte change reading .closed events (.ok response))
    (success : response.isSuccess = true) (answer : Except SessionError Bool) :
    Step asked c { c.advance (events ++ [.sam (.checkChange response.data) answer]) c.state with
      reading := none }
  | closingFailed {c : Course} {ratification : Ratification} {events : List Event}
    {outcome : Except SessionError Unit} {error : SessionError} (pending : Bool)
    (opened : c.state.phase = .opened)
    (closing : Closing c.identity.classByte ratification c.signaturePending events outcome)
    (failed : outcome.bind (fun _ => c.state.conclusion) = .error error) :
    Step asked c { c.advance events (c.state.fail error) with signaturePending := pending }
  | closed {c : Course} {ratification : Ratification} {events : List Event} (pending : Bool)
    (opened : c.state.phase = .opened)
    (closing : Closing c.identity.classByte ratification c.signaturePending events (.ok ()))
    (faultless : c.state.lastError = none) :
    Step asked c { c.advance events { c.state with phase := .terminated .success } with
      signaturePending := pending }

/-- Any number of steps. -/
abbrev Steps (asked : FileCommand → Prop) : Course → Course → Prop :=
  Relation.ReflTransGen (Step asked)

variable {asked : FileCommand → Prop}

theorem Steps.identity_eq {c c' : Course} (h : Steps asked c c') : c'.identity = c.identity := by
  refine kept_of_reflTransGen (p := fun c' => c'.identity = c.identity) h rfl ?_
  intro _ _ step same
  rw [← same]
  cases step <;> rfl

theorem Steps.settings_eq {c c' : Course} (h : Steps asked c c') : c'.settings = c.settings := by
  refine kept_of_reflTransGen (p := fun c' => c'.settings = c.settings) h rfl ?_
  intro _ _ step same
  rw [← same]
  cases step <;> rfl

theorem Step.entries_eq {c c' : Course} (h : Step asked c c') :
    ∃ more, c'.entries = c.entries ++ more := by
  cases h <;> exact ⟨_, rfl⟩

theorem Steps.entries_eq {c c' : Course} (h : Steps asked c c') :
    ∃ more, c'.entries = c.entries ++ more := by
  refine kept_of_reflTransGen (p := fun c' => ∃ more, c'.entries = c.entries ++ more) h
    ⟨[], (List.append_nil _).symm⟩ ?_
  rintro _ _ step ⟨first, said⟩
  obtain ⟨more, said'⟩ := step.entries_eq
  exact ⟨first ++ more, by rw [said', said, List.append_assoc]⟩

end Course

end FareTerminal.Session
