import FareTerminal.Proofs.Session.Transcript

/-! Which events a computation on a session gives rise to, whatever it comes to. If all questions and
commands of which it is made are of some kind, so is all that it says. -/

namespace FareTerminal.Session

variable {τ α β : Type} {p : Event → Prop}

/-- Since then, nothing but events of this kind has been written down. -/
def Adds (p : Event → Prop) (session after : Session (Journaled τ)) : Prop :=
  ∃ more, after.terminal.entries = session.terminal.entries ++ more ∧
    ∀ entry ∈ more, p entry.event

theorem adds_of_eq {session after : Session (Journaled τ)} (same : after.terminal = session.terminal) :
    Adds p session after :=
  ⟨[], by rw [same, List.append_nil], List.forall_mem_nil _⟩

theorem Adds.trans {first second third : Session (Journaled τ)} (h : Adds p first second)
    (h' : Adds p second third) : Adds p first third := by
  obtain ⟨more, grown, kind⟩ := h
  obtain ⟨further, grown', kind'⟩ := h'
  refine ⟨more ++ further, ?_, List.forall_mem_append.mpr ⟨kind, kind'⟩⟩
  rw [grown', grown, List.append_assoc]

theorem adds_note (session : Session (Journaled τ)) (terminal : τ) {event : Event} (h : p event) :
    Adds p session (session.note terminal [event]) := by
  refine ⟨[⟨session.state.phase, event⟩], rfl, ?_⟩
  rintro entry member
  rwa [List.mem_singleton.mp member]

/-- Whatever it comes to, the computation says nothing but events of this kind. -/
def Utters (p : Event → Prop) (work : SessionM (Journaled τ) α) : Prop :=
  ∀ session, Ensures work session fun _ after => Adds p session after

theorem utters_pure (a : α) : Utters p (pure a : SessionM (Journaled τ) α) :=
  fun _ => adds_of_eq rfl

theorem utters_throw (error : SessionError) : Utters p (throw error : SessionM (Journaled τ) α) :=
  fun _ => adds_of_eq rfl

theorem utters_ofExcept (outcome : Except SessionError α) :
    Utters p (MonadExcept.ofExcept outcome : SessionM (Journaled τ) α) := by
  intro session
  rw [ensures_ofExcept]
  exact adds_of_eq rfl

theorem utters_require (condition : Bool) (error : SessionError) :
    Utters p (require condition error : SessionM (Journaled τ) Unit) := by
  intro session
  rw [ensures_require]
  exact adds_of_eq rfl

theorem utters_modify {change : Session (Journaled τ) → Session (Journaled τ)}
    (aside : ∀ session, (change session).terminal = session.terminal) :
    Utters p (modify change) :=
  fun session => adds_of_eq (aside session)

theorem utters_modifyState (change : State → State) :
    Utters p (modifyState change : SessionM (Journaled τ) Unit) :=
  fun _ => adds_of_eq rfl

theorem utters_requirePhase (phase : Phase) (fault : StateFault) :
    Utters p (requirePhase phase fault : SessionM (Journaled τ) Unit) :=
  fun session => ensures_requirePhase phase fault session (fun _ => adds_of_eq rfl)
    fun _ => adds_of_eq rfl

theorem utters_requireStoredValue :
    Utters p (requireStoredValue : SessionM (Journaled τ) Unit) :=
  fun session => ensures_requireStoredValue session (fun _ => adds_of_eq rfl)
    fun _ _ => adds_of_eq rfl

theorem utters_requireFaultless : Utters p (requireFaultless : SessionM (Journaled τ) Unit) := by
  intro session
  rw [ensures_requireFaultless]
  exact adds_of_eq rfl

theorem utters_charge (command : FileCommand) :
    Utters p (charge command : SessionM (Journaled τ) Unit) :=
  fun session => ensures_charge command session (fun _ => adds_of_eq rfl) fun _ _ => adds_of_eq rfl

theorem utters_report (results : List CommandResult) :
    Utters p (report results : SessionM (Journaled τ) Unit) :=
  utters_modify fun _ => rfl

namespace Utters

theorem ensures {work : SessionM (Journaled τ) α} (h : Utters p work) {session : Session (Journaled τ)}
    {post : Postcondition (Journaled τ) α}
    (enough : ∀ outcome after, Adds p session after → post outcome after) :
    Ensures work session post :=
  (h session).imp enough

theorem bind {work : SessionM (Journaled τ) α} {next : α → SessionM (Journaled τ) β}
    (h : Utters p work) (hn : ∀ a, Utters p (next a)) : Utters p (work >>= next) := by
  intro session
  rw [ensures_bind]
  refine (h session).imp ?_
  rintro (error | a) between added
  · exact added
  · exact (hn a between).imp fun _ _ => added.trans

theorem get_bind {next : Session (Journaled τ) → SessionM (Journaled τ) β}
    (hn : ∀ session, Utters p (next session)) : Utters p (get >>= next) :=
  fun session => hn session session

theorem tryCatch {work : SessionM (Journaled τ) α}
    {handler : SessionError → SessionM (Journaled τ) α} (h : Utters p work)
    (hh : ∀ error, Utters p (handler error)) : Utters p (MonadExcept.tryCatch work handler) := by
  intro session
  rw [ensures_tryCatch]
  refine (h session).imp ?_
  rintro (error | a) between added
  · exact (hh error between).imp fun _ _ => added.trans
  · exact added

theorem orAbort {work : SessionM (Journaled τ) α} (h : Utters p work) : Utters p (orAbort work) :=
  h.tryCatch fun _ => (utters_modifyState _).bind fun _ => utters_throw _

theorem orAbortOpened {work : SessionM (Journaled τ) α} (h : Utters p work) :
    Utters p (orAbortOpened work) := by
  refine h.tryCatch fun error => .get_bind fun session => ?_
  split
  · exact (utters_modifyState _).bind fun _ => utters_throw _
  · exact utters_throw _

end Utters

theorem utters_requireAccepted (kind : Card.CommandKind) (response : Apdu.Response) :
    Utters p (requireAccepted kind response : SessionM (Journaled τ) Unit) := by
  unfold requireAccepted
  split
  · exact utters_pure _
  · exact (utters_modifyState _).bind fun _ => utters_throw _

section Link

variable [Terminal τ]

theorem utters_consult {call : Sam.Call} (h : ∀ answer, p (.sam call answer)) :
    Utters p (consult call : SessionM (Journaled τ) call.Answer) :=
  fun session => ensures_consult call session fun answer terminal =>
    adds_note session terminal (h answer)

theorem utters_exchange {command : Apdu.Command} (h : ∀ answer, p (.card command.toBytes answer)) :
    Utters p (exchange command : SessionM (Journaled τ) Apdu.Response) :=
  fun session => ensures_exchange command session fun answer terminal =>
    adds_note session terminal (h answer)

end Link

end FareTerminal.Session
