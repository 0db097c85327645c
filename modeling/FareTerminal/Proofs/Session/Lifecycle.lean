import FareTerminal.Proofs.Card.Budget
import FareTerminal.Proofs.Session.Journal
import FareTerminal.Proofs.Session.Steps
import FareTerminal.Sam.Client

/-! The life of a session. Its phase, the failure that is noted and the rejections that are collected
always agree, whatever operations are carried out and whatever comes back. -/

namespace FareTerminal.Session

open Course

variable {τ : Type} {asked : FileCommand → Prop}

/-- The phases that a session can still reach. -/
def Phase.LeadsTo : Phase → Phase → Prop
  | closed, _ => True
  | opened, later => later ≠ closed
  | terminated outcome, later => later = terminated outcome

theorem Phase.LeadsTo.refl (phase : Phase) : phase.LeadsTo phase := by
  cases phase <;> simp [LeadsTo]

theorem Phase.LeadsTo.trans {first second third : Phase} (h : first.LeadsTo second)
    (h' : second.LeadsTo third) : first.LeadsTo third := by
  cases first with
  | closed => trivial
  | opened =>
    cases second with
    | closed => exact absurd rfl h
    | opened => exact h'
    | terminated outcome =>
      obtain rfl : third = .terminated outcome := h'
      nofun
  | terminated outcome =>
    obtain rfl : second = .terminated outcome := h
    exact h'

theorem Phase.LeadsTo.eq_closed {phase : Phase} (h : phase.LeadsTo .closed) : phase = .closed := by
  cases phase with
  | closed => rfl
  | opened => exact absurd rfl h
  | terminated outcome => cases h

namespace State

/-- What the phase says of the rest of the state. Before the opening there is nothing but the budget;
in an open session only rejections are noted, and the first of them is the failure. -/
structure Consistent (budget : Card.Budget) (state : State) : Prop where
  closed : state.phase = .closed → state = { budget } ∧ state.budget.used = 0
  opened : state.phase = .opened →
    state.level.isSome = true ∧ state.ratified.isSome = true ∧
      state.lastError = state.rejections.head?
  succeeded : state.phase = .terminated .success → state.lastError = none ∧ state.rejections = []
  failed : state.phase = .terminated .failure → state.lastError.isSome = true

/-- The changes that the steps of a session make to its state. -/
inductive Change : State → State → Prop
  | opened {state : State} (closed : state.phase = .closed) (level : AccessLevel)
    (ratified : Bool) : Change state (state.opened level ratified)
  | charged {state : State} (opened : state.phase = .opened) (budget : Card.Budget) :
    Change state { state with budget }
  | rejected {state : State} (opened : state.phase = .opened) (error : SessionError) :
    Change state (state.reject error)
  | failed {state : State} (active : state.phase.isTerminated = false) (error : SessionError) :
    Change state (state.fail error)
  | succeeded {state : State} (opened : state.phase = .opened) (faultless : state.lastError = none) :
    Change state { state with phase := .terminated .success }

theorem consistent_of_opened {budget : Card.Budget} {state : State}
    (opened : state.phase = .opened) (level : state.level.isSome = true)
    (ratified : state.ratified.isSome = true) (first : state.lastError = state.rejections.head?) :
    state.Consistent budget where
  closed closed := by simp [opened] at closed
  opened _ := ⟨level, ratified, first⟩
  succeeded ended := by simp [opened] at ended
  failed ended := by simp [opened] at ended

theorem Change.consistent {budget : Card.Budget} {state state' : State} (h : Change state state')
    (consistent : state.Consistent budget) : state'.Consistent budget := by
  cases h with
  | opened closed level ratified =>
    have initial := (consistent.closed closed).1
    refine consistent_of_opened rfl rfl rfl ?_
    rw [initial]
    rfl
  | charged opened budget =>
    obtain ⟨level, ratified, first⟩ := consistent.opened opened
    exact consistent_of_opened opened level ratified first
  | rejected opened error =>
    obtain ⟨level, ratified, first⟩ := consistent.opened opened
    rw [reject, if_pos opened]
    refine consistent_of_opened opened level ratified ?_
    simp [noteError, first, List.head?_append]
  | failed active error =>
    constructor
    all_goals intro ended
    case failed => simp [fail, noteError]
    all_goals cases ended
  | succeeded opened faultless =>
    obtain ⟨_, _, first⟩ := consistent.opened opened
    constructor
    all_goals intro ended
    case succeeded =>
      rw [faultless] at first
      exact ⟨faultless, by simpa using first.symm⟩
    all_goals cases ended

theorem Change.leadsTo {state state' : State} (h : Change state state') :
    state.phase.LeadsTo state'.phase := by
  cases h with
  | opened closed level ratified => simp [closed, Phase.LeadsTo]
  | charged opened budget => simp [opened, Phase.LeadsTo]
  | rejected opened error => simp [opened, Phase.LeadsTo]
  | failed active error =>
    cases phase : state.phase with
    | closed => simp [Phase.LeadsTo]
    | opened => simp [Phase.LeadsTo]
    | terminated outcome => simp [phase, Phase.isTerminated] at active
  | succeeded opened faultless => simp [opened, Phase.LeadsTo]

theorem Change.lastError {state state' : State} (h : Change state state') {error : SessionError}
    (noted : state.lastError = some error) : state'.lastError = some error := by
  cases h with
  | opened closed level ratified => exact noted
  | charged opened budget => exact noted
  | rejected opened rejection => simp [reject, opened, noteError, noted]
  | failed active failure => simp [fail, noteError, noted]
  | succeeded opened faultless => simp [faultless] at noted

abbrev Changes : State → State → Prop := Relation.ReflTransGen Change

theorem changes_settle {α : Type} (state : State) (kind : Card.CommandKind)
    (read : Apdu.Response → Except SessionError α) (outcome : Except SessionError Apdu.Response) :
    Changes state (state.settle kind read outcome) := by
  by_cases opened : state.phase = .opened
  · have active : state.phase.isTerminated = false := by rw [opened]; rfl
    unfold settle
    rw [if_pos opened]
    cases outcome with
    | error error => exact .single (.failed active error)
    | ok response =>
      simp only
      split
      · split
        · exact .refl
        · exact .single (.failed active _)
      · exact .single (.rejected opened _)
  · unfold settle
    rw [if_neg opened]

theorem Changes.consistent {budget : Card.Budget} {state state' : State}
    (h : Changes state state') (consistent : state.Consistent budget) :
    state'.Consistent budget :=
  kept_of_reflTransGen h consistent fun _ _ change => change.consistent

theorem Changes.leadsTo {state state' : State} (h : Changes state state') :
    state.phase.LeadsTo state'.phase := by
  refine kept_of_reflTransGen (p := fun state' => state.phase.LeadsTo state'.phase) h (.refl _) ?_
  intro _ _ change leads
  exact leads.trans change.leadsTo

theorem Changes.lastError {state state' : State} (h : Changes state state') {error : SessionError}
    (noted : state.lastError = some error) : state'.lastError = some error :=
  kept_of_reflTransGen (p := fun state => state.lastError = some error) h noted
    fun _ _ change => change.lastError

/-- A session that is open after an exchange was open before, and the card has answered. -/
theorem opened_of_settle {α : Type} {state : State} {kind : Card.CommandKind}
    {read : Apdu.Response → Except SessionError α} {outcome : Except SessionError Apdu.Response}
    (h : (state.settle kind read outcome).phase = .opened) :
    state.phase = .opened ∧ ∃ response, outcome = .ok response := by
  unfold settle at h
  by_cases opened : state.phase = .opened
  · refine ⟨opened, ?_⟩
    cases outcome with
    | ok response => exact ⟨response, rfl⟩
    | error error => simp [opened] at h
  · rw [if_neg opened] at h
    contradiction

theorem closed_of_settle {α : Type} {state : State} {kind : Card.CommandKind}
    {read : Apdu.Response → Except SessionError α} {outcome : Except SessionError Apdu.Response}
    (h : (state.settle kind read outcome).phase = .closed) : state.phase = .closed := by
  have leads := (changes_settle state kind read outcome).leadsTo
  rw [h] at leads
  exact leads.eq_closed

end State

/-- A step changes the state in no other way. -/
theorem Course.Step.changes {c c' : Course} (h : Step asked c c') : State.Changes c.state c'.state := by
  cases h with
  | openingFailed closed negotiated => exact .single (.failed (by rw [closed]; rfl) _)
  | opened closed negotiated => exact .single (.opened closed _ _)
  | commandSent opened member addressed charged digested =>
    exact (State.changes_settle _ _ _ _).head (.charged opened _)
  | valueAsked active available delivered => exact State.changes_settle _ _ _ _
  | valueRead active available delivered success read logs => exact .refl
  | valueChanged active available free usable changing unfinished =>
    exact State.changes_settle _ _ Except.ok _
  | valueChangedOutside closed available free usable changing success answer => exact .refl
  | closingFailed pending opened closing failed => exact .single (.failed (by rw [opened]; rfl) _)
  | closed pending opened closing faultless => exact .single (.succeeded opened faultless)

theorem Course.Steps.changes {c c' : Course} (h : Steps asked c c') :
    State.Changes c.state c'.state := by
  refine kept_of_reflTransGen (p := fun c' => State.Changes c.state c'.state) h .refl ?_
  intro _ _ step changes
  exact changes.trans step.changes

/-- What a run does to the state, the steps do. -/
theorem changes_run [Terminal τ] (session : Session τ) (operations : List Operation) :
    State.Changes session.state (session.run operations).state := by
  have steps : Course.Steps (fun _ => True) _ _ := steps_run session.journaled operations (by simp)
  rw [← erase_journaled session, ← erase_run]
  exact steps.changes

theorem identity_run [Terminal τ] (terminal : τ) (identity : Card.Identity) (settings : Settings)
    (operations : List Operation) :
    (run (new terminal identity settings) operations).identity = identity := by
  have steps : Course.Steps (fun _ => True) _ _ :=
    steps_history terminal identity settings operations (by simp)
  rw [run_eq_erase]
  exact steps.identity_eq

theorem consistent_new (terminal : τ) (identity : Card.Identity) (settings : Settings) :
    (new terminal identity settings).state.Consistent identity.budget :=
  ⟨fun _ => ⟨rfl, Card.used_budget identity⟩, nofun, nofun, nofun⟩

theorem run_requirePhase (phase : Phase) (fault : StateFault) (session : Session τ) :
    (requirePhase phase fault).run session =
      if session.state.phase = phase then .ok () session
      else .error (.illegalState fault) session := by
  by_cases h : session.state.phase = phase <;> simp [requirePhase, h]

section Refusal

variable [Link τ]

/-- The operation fails for want of the right phase, before it has done anything. -/
def Refused (operation : Operation) (session : Session τ) : Prop :=
  ∃ fault, (perform operation).run session = .error (.illegalState fault) session

/-- A session that has ended refuses every operation. -/
theorem refused_of_terminated {session : Session τ} (ended : session.state.phase.isTerminated = true)
    (operation : Operation) : Refused operation session := by
  cases phase : session.state.phase with
  | closed => simp [phase, Phase.isTerminated] at ended
  | opened => simp [phase, Phase.isTerminated] at ended
  | terminated outcome =>
    cases operation with
    | openSession level reads =>
      exact ⟨.alreadyOpened, by simp [perform, openSession, run_requirePhase, phase]⟩
    | batch commands => exact ⟨.notOpened, by simp [perform, batch, run_requirePhase, phase]⟩
    | closeSession ratification =>
      exact ⟨.notOpened, by simp [perform, closeSession, run_requirePhase, phase]⟩
    | readValue operation bothLogs =>
      exact ⟨.terminated, by simp [perform, readValue, requireStoredValue, ended]⟩
    | changeValue change =>
      exact ⟨.terminated, by simp [perform, changeValue, requireStoredValue, ended]⟩

theorem after_of_refused {session : Session τ} {operation : Operation}
    (refused : Refused operation session) : session.after operation = session := by
  obtain ⟨fault, refused⟩ := refused
  simp [after, refused]

end Refusal

/-- The life of every session. -/
theorem run_lifecycle [Terminal τ] (terminal : τ) (identity : Card.Identity) (settings : Settings)
    (operations later : List Operation) :
    let session := run (new terminal identity settings) operations
    session.state.Consistent identity.budget ∧
      session.state.phase.LeadsTo (session.run later).state.phase ∧
      (∀ error, session.state.lastError = some error →
        (session.run later).state.lastError = some error) ∧
      (session.state.phase.isTerminated = true → ∀ operation,
        Refused operation session ∧
          history terminal identity settings (operations ++ [operation]) =
            history terminal identity settings operations) := by
  intro session
  have start := consistent_new terminal identity settings
  have before : State.Changes _ session.state := changes_run _ operations
  have after := changes_run session later
  refine ⟨before.consistent start, after.leadsTo, fun _ => after.lastError, ?_⟩
  intro ended operation
  refine ⟨refused_of_terminated ended operation, ?_⟩
  -- with a journal the session has ended just as well, so nothing more is written down
  let noted := run (new (⟨terminal, []⟩ : Journaled τ) identity settings) operations
  have erased : noted.erase = session := (run_eq_erase terminal identity settings operations).symm
  have noted_ended : noted.state.phase.isTerminated = true := by
    rw [← erased] at ended
    exact ended
  have same : noted.after operation = noted :=
    after_of_refused (refused_of_terminated noted_ended operation)
  unfold history
  rw [run_append]
  exact congrArg (·.terminal.entries) same

/-- A card to try things on. -/
def sampleCard : Card.Identity where
  revision := .rev31
  serial := [0, 0, 0, 0, 0x27, 0x1A, 0x05, 0xC3]
  name := some [0x31, 0x54, 0x49, 0x43, 0x2E, 0x49, 0x43, 0x41]
  startup := ⟨0x06, 0x3C, 0x22, 0x05, 0x14, 0x10, 0x01⟩
  isInvalidated := false
  atr := []

/-- A terminal on which the card and the security module give the answers of a script. -/
def scripted (card sam : List Bytes) : Bench Script (Sam.Client Script) :=
  ⟨{ answers := card.map .ok }, ⟨{ answers := sam.map .ok }⟩⟩

/-- A terminal on which a card with these answers and an agreeable security module are used. -/
def agreeableBench (card : List Bytes) : Bench Script (Sam.Client Script) :=
  scripted card ([[0x90, 0x00], [1, 2, 3, 4, 0x90, 0x00]] ++ List.replicate 5 [0x90, 0x00])

/-- A terminal on which a card is debited within a session. The card gives the signature of the debit
with the closing and then falls silent; the security module accepts both signatures. -/
def debitBench : Bench Script (Sam.Client Script) :=
  scripted
    [[0, 0, 0, 0, 0, 0x30, 0x7E, 0, 0x90, 0x00],
      [0x7C, 0, 5, 1, 2, 3, 4, 5, 0, 1, 0] ++ List.replicate 19 0 ++ [0x90, 0x00],
      [0x90, 0x00], [3, 0xA, 0xB, 0xC, 1, 2, 3, 4, 0x90, 0x00]]
    [[0x90, 0x00], [1, 2, 3, 4, 0x90, 0x00], [0x90, 0x00], [0x90, 0x00], [0x90, 0x00],
      [9, 9, 0x90, 0x00], [0x90, 0x00], [0x90, 0x00], [5, 6, 7, 8, 0x90, 0x00], [0x90, 0x00],
      [0x90, 0x00]]

def debitRun : List Operation :=
  [.openSession .debit [], .readValue .debit false, .changeValue (.debit 1 0 0)]

end FareTerminal.Session
