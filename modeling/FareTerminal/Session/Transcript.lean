import FareTerminal.Session.Journal

/-! The transcript of a run: its operations in order, and what came of each. -/

namespace FareTerminal.Session

/-- An operation of a run: the phase in which it was asked for, what it returned, and what was said
for it. -/
structure Turn where
  phase : Phase
  operation : Operation
  outcome : Except SessionError Answer
  entries : List Entry

variable {τ : Type}

def answerTo [Link τ] (session : Session τ) (operation : Operation) : Except SessionError Answer :=
  match (perform operation).run session with
  | .ok answer _ => .ok answer
  | .error error _ => .error error

variable [Terminal τ]

/-- The operation with what it would come to now. Its entries are those that it adds to the journal. -/
def turn (session : Session (Journaled τ)) (operation : Operation) : Turn where
  phase := session.state.phase
  operation := operation
  outcome := session.answerTo operation
  entries := (session.after operation).terminal.entries.drop session.terminal.entries.length

def turns (session : Session (Journaled τ)) : List Operation → List Turn
  | [] => []
  | operation :: rest => session.turn operation :: turns (session.after operation) rest

/-- The transcript of a run from a new session. -/
def transcript (terminal : τ) (identity : Card.Identity) (settings : Settings)
    (operations : List Operation) : List Turn :=
  (new (⟨terminal, []⟩ : Journaled τ) identity settings).turns operations

@[simp] theorem turns_nil (session : Session (Journaled τ)) : session.turns [] = [] := rfl

@[simp] theorem turns_cons (session : Session (Journaled τ)) (operation : Operation)
    (rest : List Operation) :
    session.turns (operation :: rest) =
      session.turn operation :: (session.after operation).turns rest := rfl

/-- A turn of a run is what an operation comes to in the session that the run has reached. -/
theorem exists_of_turns_eq_append {session : Session (Journaled τ)} {operations : List Operation}
    {earlier later : List Turn} {turn : Turn}
    (split : session.turns operations = earlier ++ turn :: later) :
    ∃ before operation after, operations = before ++ operation :: after ∧
      earlier = session.turns before ∧ turn = (session.run before).turn operation := by
  induction operations generalizing session earlier with
  | nil => cases earlier <;> cases split
  | cons operation rest ih =>
    cases earlier with
    | nil =>
      obtain ⟨rfl, -⟩ := List.cons.inj split
      exact ⟨[], operation, rest, rfl, rfl, rfl⟩
    | cons first earlier =>
      obtain ⟨rfl, behind⟩ := List.cons.inj split
      obtain ⟨before, operation', after, rfl, rfl, rfl⟩ := ih behind
      exact ⟨operation :: before, operation', after, rfl, rfl, rfl⟩

end FareTerminal.Session
