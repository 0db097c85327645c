import FareTerminal.Proofs.Session.Ensures
import FareTerminal.Proofs.Session.Parallel

/-! A journal changes nothing: without it, every operation returns the same and leaves the same
session. What is shown of the journals of all runs is therefore true of what is said in any run. -/

namespace FareTerminal.Session

variable {τ α : Type}

/-- The session without its journal. -/
def erase (session : Session (Journaled τ)) : Session τ :=
  { session with terminal := session.terminal.terminal }

/-- The session with an empty journal. -/
def journaled (session : Session τ) : Session (Journaled τ) :=
  { session with terminal := ⟨session.terminal, []⟩ }

@[simp] theorem erase_journaled (session : Session τ) : session.journaled.erase = session := rfl

def eraseResult :
    EStateM.Result SessionError (Session (Journaled τ)) α → EStateM.Result SessionError (Session τ) α
  | .ok a session => .ok a session.erase
  | .error error session => .error error session.erase

/-- The first computation does with a journal what the second does without. -/
def Mirrors (journaled : SessionM (Journaled τ) α) (plain : SessionM τ α) : Prop :=
  ∀ session, plain.run session.erase = eraseResult (journaled.run session)

theorem Mirrors.exists_ok {α : Type} {work : SessionM (Journaled τ) α} {work' : SessionM τ α}
    (h : Mirrors work work') {session : Session (Journaled τ)} {a : α} {after : Session τ}
    (ends : work'.run session.erase = .ok a after) :
    ∃ noted, work.run session = .ok a noted ∧ noted.erase = after := by
  rw [h session] at ends
  cases result : work.run session with
  | ok b noted =>
    rw [result] at ends
    cases ends
    exact ⟨noted, rfl, rfl⟩
  | error error noted =>
    rw [result] at ends
    cases ends

/-- What is shown with a journal, and does not speak of it, holds without. -/
theorem Mirrors.ensures {work : SessionM (Journaled τ) α} {work' : SessionM τ α}
    (h : Mirrors work work') (session : Session (Journaled τ)) {post : Postcondition τ α}
    (told : Ensures work session fun outcome after => post outcome after.erase) :
    Ensures work' session.erase post := by
  unfold Ensures at told ⊢
  rw [h session]
  cases ends : work.run session <;> rw [ends] at told <;> exact told

/-- A terminal is the one of which a journal is kept. -/
def IsTerminalOf (journal : Journaled τ) (terminal : τ) : Prop := terminal = journal.terminal

theorem Parallel.mirrors {work : SessionM (Journaled τ) α} {work' : SessionM τ α}
    (h : Parallel IsTerminalOf work work') : Mirrors work work' := by
  intro session
  match work.run session, work'.run session.erase, h session session.terminal.terminal rfl with
  | _, _, .ok a rfl => rfl
  | _, _, .error error rfl => rfl

theorem parallel_noting {ε : Type} (wrap : ε → SessionError) (event : Except ε α → Event)
    (work : EStateM ε τ α) :
    Parallel IsTerminalOf (noting wrap event work) (onTerminal wrap work) := by
  rintro session _ rfl
  change SameEnding _ (noting wrap event work session) (onTerminal wrap work (session.on _))
  have same : (session.on session.terminal.terminal).terminal = session.terminal.terminal := rfl
  unfold noting onTerminal
  rw [same]
  cases work session.terminal.terminal with
  | ok a terminal => exact .ok a rfl
  | error error terminal => exact .error _ rfl

section Operations

variable [Terminal τ]

theorem linked_isTerminalOf : Linked (IsTerminalOf (τ := τ)) where
  consult _ := parallel_noting _ _ _
  exchange _ := parallel_noting _ _ _

theorem mirrors_batch (commands : List FileCommand) :
    Mirrors (τ := τ) (batch commands) (batch commands) :=
  (linked_isTerminalOf.batch commands).mirrors

theorem erase_run (session : Session (Journaled τ)) (operations : List Operation) :
    (session.run operations).erase = session.erase.run operations := by
  have related : IsTerminalOf session.terminal session.terminal.terminal := rfl
  obtain ⟨_, rfl, same⟩ := linked_isTerminalOf.run related operations
  exact same.symm

/-- A run does what the run does of which `history` is the journal. -/
theorem run_eq_erase (terminal : τ) (identity : Card.Identity) (settings : Settings)
    (operations : List Operation) :
    run (new terminal identity settings) operations =
      (run (new (⟨terminal, []⟩ : Journaled τ) identity settings) operations).erase :=
  (erase_run (new ⟨terminal, []⟩ identity settings) operations).symm

end Operations

end FareTerminal.Session
