import FareTerminal.Proofs.Session.Steps
import FareTerminal.Session.Transcript

/-! Turn after turn the journal grows by what was said, and what is ensured of an operation holds of its
turn. -/

namespace FareTerminal.Session

variable {τ : Type}

/-- What is ensured of an operation holds of its answer and of the session after it. -/
theorem answerTo_after_of_ensures [Link τ] {session : Session τ} {operation : Operation}
    {post : Postcondition τ Answer} (h : Ensures (perform operation) session post) :
    post (session.answerTo operation) (session.after operation) := by
  unfold Ensures at h
  unfold after answerTo
  split at h <;> rename_i ends <;> rw [ends] <;> exact h

variable [Terminal τ]

theorem entries_after (session : Session (Journaled τ)) (operation : Operation) :
    (session.after operation).terminal.entries =
      session.terminal.entries ++ (session.turn operation).entries := by
  have steps : Course.Steps (fun _ => True) session.course (session.after operation).course :=
    steps_after session operation (by simp)
  obtain ⟨more, grown⟩ := steps.entries_eq
  have grown : (session.after operation).terminal.entries = session.terminal.entries ++ more := grown
  rw [turn, grown, List.drop_left]

theorem history_concat (terminal : τ) (identity : Card.Identity) (settings : Settings)
    (operations : List Operation) (operation : Operation) :
    history terminal identity settings (operations ++ [operation]) =
      history terminal identity settings operations ++
        ((run (new (⟨terminal, []⟩ : Journaled τ) identity settings) operations).turn
          operation).entries := by
  unfold history
  rw [run_append]
  exact entries_after _ operation

/-- What is ensured of an operation holds of its turn. -/
theorem turn_of_ensures {session : Session (Journaled τ)} {operation : Operation}
    {p : Except SessionError Answer → Session (Journaled τ) → List Entry → Prop}
    (h : Ensures (perform operation) session fun outcome after => ∃ more,
      after.terminal.entries = session.terminal.entries ++ more ∧ p outcome after more) :
    p (session.turn operation).outcome (session.after operation)
      (session.turn operation).entries := by
  obtain ⟨more, same, holds⟩ := answerTo_after_of_ensures h
  rw [entries_after session operation] at same
  rw [List.append_cancel_left same]
  exact holds

end FareTerminal.Session
