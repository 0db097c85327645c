import FareTerminal.Proofs.Session.Closing
import FareTerminal.Proofs.Session.Outward
import FareTerminal.Proofs.Session.Transcript

/-! Refusals of the session itself: for want of the right phase, an address, a reading or an amount.
They come before anything is said or changed, in every operation and every state. -/

namespace FareTerminal.Session

variable {τ α β : Type}

/-- Either the session refuses and is as it was, or what comes of it is no refusal. -/
inductive Decided (session : Session τ) : Except SessionError α → Session τ → Prop
  | refused {error : SessionError} (own : error.isLocal = true) :
    Decided session (.error error) session
  | admitted {outcome : Except SessionError α} {after : Session τ}
    (unrefused : Unrefused outcome after) : Decided session outcome after

theorem Outward.decided {work : SessionM τ α} (h : Outward work) {session : Session τ}
    (clean : session.state.IsClean) : Ensures work session (Decided session) :=
  (h session clean).imp fun _ _ => .admitted

/-- A check that fails is a refusal, and one that succeeds has changed nothing. -/
theorem decided_ofExcept_bind {check : Except SessionError α} {next : α → SessionM τ β}
    {session : Session τ} (own : ∀ error, check = .error error → error.isLocal = true)
    (passed : ∀ a, check = .ok a → Ensures (next a) session (Decided session)) :
    Ensures (MonadExcept.ofExcept check >>= next) session (Decided session) := by
  rw [ensures_bind, ensures_ofExcept]
  cases check with
  | error error => exact .refused (own error rfl)
  | ok a => exact passed a rfl

theorem decided_requirePhase_bind {phase : Phase} {fault : StateFault} {next : Unit → SessionM τ α}
    {session : Session τ}
    (passed : session.state.phase = phase → Ensures (next ()) session (Decided session)) :
    Ensures (requirePhase phase fault >>= next) session (Decided session) := by
  rw [ensures_bind]
  exact ensures_requirePhase phase fault session passed fun _ => .refused rfl

theorem decided_requireStoredValue_bind {next : Unit → SessionM τ α} {session : Session τ}
    (passed : Ensures (next ()) session (Decided session)) :
    Ensures (requireStoredValue >>= next) session (Decided session) := by
  rw [ensures_bind]
  exact ensures_requireStoredValue session (fun _ => .refused rfl) fun _ _ => passed

/-- The check of the addresses names the first one that is out of range. -/
theorem checkAddresses_eq_find? (commands : List FileCommand) :
    checkAddresses commands =
      match commands.find? (maxSfi < ·.sfi) with
      | some command => .error (.fileAddress command.sfi command.record)
      | none => .ok () := by
  induction commands with
  | nil => rfl
  | cons command rest ih =>
    rw [checkAddresses, FileCommand.checkAddress, List.find?_cons]
    by_cases high : maxSfi < command.sfi
    · simp [high, bind, Except.bind]
    · simpa [high, bind, Except.bind] using ih

theorem isLocal_of_checkAddresses {commands : List FileCommand} {error : SessionError}
    (refused : checkAddresses commands = .error error) : error.isLocal = true := by
  rw [checkAddresses_eq_find?] at refused
  split at refused
  · cases refused
    rfl
  · cases refused

theorem isLocal_of_checkReads {reads : List RecordAddress} {error : SessionError}
    (refused : checkReads reads = .error error) : error.isLocal = true := by
  unfold checkReads at refused
  dsimp only at refused
  split at refused
  · cases refused
    rfl
  · exact isLocal_of_checkAddresses refused

theorem isLocal_of_usableReading {policy : StoredValue.Policy}
    {reading : Option StoredValue.Reading} {change : StoredValue.Change} {error : SessionError}
    (refused : usableReading policy reading change = .error error) : error.isLocal = true := by
  unfold usableReading at refused
  split at refused
  · cases refused
    rfl
  · split at refused
    · cases refused
    · cases refused
      rfl

theorem checkAddresses_of_checkReads {reads : List RecordAddress}
    (checked : checkReads reads = .ok ()) : checkAddresses (furtherReads reads) = .ok () := by
  unfold checkReads at checked
  dsimp only at checked
  split at checked
  · cases checked
  · exact checked

/-- What an operation returns makes no difference. -/
theorem Decided.bind_pure {work : SessionM τ α} {session : Session τ}
    (h : Ensures work session (Decided session)) (f : α → β) :
    Ensures (work >>= fun a => pure (f a)) session (Decided session) := by
  rw [ensures_bind]
  refine h.imp ?_
  rintro outcome after (own | ⟨clean, outer⟩)
  · exact .refused own
  · cases outcome with
    | error error =>
      exact .admitted ⟨clean, fun _ same => outer _ (congrArg _ (Except.error.inj same))⟩
    | ok a => exact .admitted ⟨clean, nofun⟩

namespace Reporting

variable [Terminal τ] (reporting : Reporting (Journaled τ))

include reporting

theorem decided_openSession (level : AccessLevel) (reads : List RecordAddress)
    {session : Session (Journaled τ)} (clean : session.state.IsClean) :
    Ensures (openSession level reads) session (Decided session) := by
  refine decided_requirePhase_bind fun _ =>
    decided_ofExcept_bind (fun _ => isLocal_of_checkReads) fun _ checked => ?_
  refine Outward.decided ((reporting.outward_negotiate _ _).orAbort.bind fun opening => ?_) clean
  -- the session is open now, and the addresses are checked: the batch does not refuse
  intro session clean
  rw [ensures_bind, ensures_modifyState, andThen_ok]
  split
  · exact ⟨clean, nofun⟩
  · rw [ensures_bind]
    refine ensures_batch rfl (checkAddresses_of_checkReads checked) ?_
    rw [← ensures_bind]
    exact (reporting.outward_finish _).bind (fun _ => outward_pure _) _ clean

theorem decided_batch (commands : List FileCommand)
    {session : Session (Journaled τ)} (clean : session.state.IsClean) :
    Ensures (batch commands) session (Decided session) :=
  decided_requirePhase_bind fun _ =>
    decided_ofExcept_bind (fun _ => isLocal_of_checkAddresses) fun _ _ =>
    Outward.decided ((outward_modify (by intros; rfl)).bind fun _ =>
      reporting.outward_finish commands) clean

theorem decided_closeSession (ratification : Ratification)
    {session : Session (Journaled τ)} (clean : session.state.IsClean) :
    Ensures (closeSession ratification) session (Decided session) :=
  decided_requirePhase_bind fun _ =>
    Outward.decided ((reporting.outward_concludeSession ratification).orAbort.bind fun _ =>
      outward_modifyState (by intro _ clean; exact clean)) clean

theorem decided_readValue (operation : StoredValue.Operation) (bothLogs : Bool)
    {session : Session (Journaled τ)} (clean : session.state.IsClean) :
    Ensures (readValue operation bothLogs) session (Decided session) := by
  refine decided_requireStoredValue_bind (Outward.decided ?_ clean)
  have kept (reading : StoredValue.Reading) :
      Outward (modify fun session : Session (Journaled τ) =>
        { session with reading := some reading }) :=
    outward_modify (by intros; rfl)
  cases bothLogs with
  | false =>
    exact (reporting.outward_fetchReading _).bind fun _ => (kept _).bind fun _ => outward_pure _
  | true =>
    exact (reporting.outward_fetchReading _).bind fun _ =>
      (reporting.outward_fetchReading _).bind fun _ => (kept _).bind fun _ => outward_pure _

theorem decided_changeValue (change : StoredValue.Change)
    {session : Session (Journaled τ)} (clean : session.state.IsClean) :
    Ensures (changeValue change) session (Decided session) := by
  refine decided_requireStoredValue_bind ?_
  rw [ensures_bind, ensures_get, andThen_ok, ensures_bind, ensures_require]
  split
  · refine decided_ofExcept_bind (fun _ => isLocal_of_usableReading) fun reading _ =>
      Outward.decided ?_ clean
    refine (outward_modify (by intros; rfl)).bind fun _ =>
      (reporting.outward_consult _).orAbortOpened.bind fun _ =>
      (reporting.outward_exchangeValue _).bind fun _ =>
      (outward_requireAccepted _ _).bind fun _ => .get_bind fun _ => ?_
    split
    · exact outward_modify (by intros; rfl)
    · exact (reporting.outward_consult _).bind fun _ => outward_require _ rfl
  · exact .refused rfl

theorem decided_perform (operation : Operation)
    {session : Session (Journaled τ)} (clean : session.state.IsClean) :
    Ensures (perform operation) session (Decided session) := by
  cases operation with
  | openSession level reads =>
    exact Decided.bind_pure (reporting.decided_openSession level reads clean) _
  | batch commands => exact Decided.bind_pure (reporting.decided_batch commands clean) _
  | closeSession ratification =>
    exact Decided.bind_pure (reporting.decided_closeSession ratification clean) fun _ => Answer.done
  | readValue operation bothLogs =>
    exact Decided.bind_pure (reporting.decided_readValue operation bothLogs clean) _
  | changeValue change =>
    exact Decided.bind_pure (reporting.decided_changeValue change clean) fun _ => Answer.done

theorem clean_after (operation : Operation)
    {session : Session (Journaled τ)} (clean : session.state.IsClean) :
    (session.after operation).state.IsClean := by
  refine after_of_ensures (p := fun after => after.state.IsClean) ?_
  refine (reporting.decided_perform operation clean).imp ?_
  rintro outcome after (own | ⟨clean, _⟩)
  · exact clean
  · exact clean

theorem clean_run (operations : List Operation)
    {session : Session (Journaled τ)} (clean : session.state.IsClean) :
    (session.run operations).state.IsClean := by
  induction operations generalizing session with
  | nil => exact clean
  | cons operation rest ih => exact ih (reporting.clean_after operation clean)

/-- A refusal leaves the session as it was. -/
theorem after_eq_of_answerTo {operation : Operation}
    {session : Session (Journaled τ)} (clean : session.state.IsClean) {error : SessionError}
    (answered : session.answerTo operation = .error error) (own : error.isLocal = true) :
    session.after operation = session := by
  have decided := reporting.decided_perform operation clean
  unfold Ensures at decided
  unfold answerTo at answered
  unfold Session.after
  cases ends : (Session.perform operation).run session with
  | ok answer after =>
    rw [ends] at answered
    cases answered
  | error failure after =>
    rw [ends] at answered decided
    cases answered
    cases decided with
    | refused own => rfl
    | admitted unrefused =>
      rw [unrefused.2 error rfl] at own
      cases own

/-- Any number of refusals leaves the session as it was. -/
theorem run_eq_of_answerTo {refused : List Operation}
    {session : Session (Journaled τ)} (clean : session.state.IsClean)
    (all : ∀ operation ∈ refused, ∃ error,
      session.answerTo operation = .error error ∧ error.isLocal = true) :
    session.run refused = session := by
  induction refused with
  | nil => rfl
  | cons operation rest ih =>
    obtain ⟨error, answered, own⟩ := all operation List.mem_cons_self
    rw [run_cons, reporting.after_eq_of_answerTo clean answered own]
    exact ih fun other member => all other (List.mem_cons_of_mem _ member)

end Reporting

theorem answerTo_erase [Terminal τ] (session : Session (Journaled τ)) (operation : Operation) :
    session.erase.answerTo operation = session.answerTo operation := by
  unfold answerTo
  rw [(linked_isTerminalOf.perform operation).mirrors session]
  cases (perform operation).run session <;> rfl

/-- Without the journal too, any number of refusals changes nothing, and nothing is said. -/
theorem run_eq_of_refused [Terminal τ] (reporting : Reporting (Journaled τ)) (terminal : τ)
    (identity : Card.Identity) (settings : Settings) (operations : List Operation)
    {refused : List Operation}
    (all : ∀ operation ∈ refused, ∃ error,
      (run (new terminal identity settings) operations).answerTo operation = .error error ∧
        error.isLocal = true) :
    (run (new terminal identity settings) operations).run refused =
        run (new terminal identity settings) operations ∧
      history terminal identity settings (operations ++ refused) =
        history terminal identity settings operations := by
  have start : (new (⟨terminal, []⟩ : Journaled τ) identity settings).state.IsClean := nofun
  have clean := reporting.clean_run operations start
  rw [run_eq_erase] at all ⊢
  have same := reporting.run_eq_of_answerTo clean fun operation member =>
    answerTo_erase (τ := τ) _ _ ▸ all operation member
  refine ⟨by rw [← erase_run, same], ?_⟩
  unfold history
  rw [run_append, same]

theorem answerTo_batch_of_find? [Link τ] {session : Session τ} {commands : List FileCommand}
    {command : FileCommand} (opened : session.state.phase = .opened)
    (found : commands.find? (maxSfi < ·.sfi) = some command) :
    session.answerTo (.batch commands) = .error (.fileAddress command.sfi command.record) := by
  simp [answerTo, perform, batch, run_requirePhase, opened, checkAddresses_eq_find?, found]

theorem answerTo_changeValue_of_check [Link τ] {session : Session τ} {change : StoredValue.Change}
    {reading : StoredValue.Reading} {refusal : StoredValue.Refusal}
    (active : session.state.phase.isTerminated = false)
    (available : session.identity.capabilities.storedValue = true)
    (free : session.signaturePending = false) (kept : session.reading = some reading)
    (matching : change.action.operation = reading.operation)
    (refused : session.settings.valuePolicy.check change.action reading.balance change.amount =
      .error refusal) :
    session.answerTo (.changeValue change) = .error (.storedValueRefused refusal) := by
  have unusable : usableReading session.settings.valuePolicy session.reading change =
      .error (.storedValueRefused refusal) := by
    simp [usableReading, kept, matching, refused, Option.filter]
  simp [answerTo, perform, changeValue, requireStoredValue, active, available, free, unusable]

/-- Whatever a session with a security module behind a reader refuses by itself, in whatever state it
is: all of it stays as it is, and nothing is said to the card or to the security module, any number
of times. A batch is refused as a whole if one address is out of range, and a reading of the stored
value outlasts all changes whose amounts are refused. -/
theorem run_refusal {ρ κ : Type} [Reader ρ] [Reader κ] (terminal : Bench ρ (Sam.Client κ))
    (identity : Card.Identity) (settings : Settings) (operations : List Operation) :
    let session := run (new terminal identity settings) operations
    let said := history terminal identity settings
    (∀ operation error, session.answerTo operation = .error error → error.isLocal = true →
      session.after operation = session ∧ said (operations ++ [operation]) = said operations) ∧
    (∀ refused : List Operation,
      (∀ operation ∈ refused, ∃ error,
        session.answerTo operation = .error error ∧ error.isLocal = true) →
      session.run refused = session ∧ said (operations ++ refused) = said operations) ∧
    (∀ commands command, session.state.phase = .opened →
      commands.find? (maxSfi < ·.sfi) = some command →
      session.answerTo (.batch commands) = .error (.fileAddress command.sfi command.record) ∧
        session.after (.batch commands) = session ∧
        said (operations ++ [.batch commands]) = said operations) ∧
    ∀ reading (changes : List StoredValue.Change), session.reading = some reading →
      session.state.phase.isTerminated = false → identity.capabilities.storedValue = true →
      session.signaturePending = false →
      (∀ change ∈ changes, change.action.operation = reading.operation ∧ ∃ refusal,
        session.settings.valuePolicy.check change.action reading.balance change.amount =
          .error refusal) →
      (session.run (changes.map .changeValue)).reading = some reading ∧
        said (operations ++ changes.map .changeValue) = said operations := by
  intro session said
  have many (refused : List Operation)
      (all : ∀ operation ∈ refused, ∃ error,
        session.answerTo operation = .error error ∧ error.isLocal = true) :
      session.run refused = session ∧ said (operations ++ refused) = said operations :=
    run_eq_of_refused .journaled terminal identity settings operations all
  have single (operation : Operation) (error : SessionError)
      (answered : session.answerTo operation = .error error) (own : error.isLocal = true) :
      session.after operation = session ∧ said (operations ++ [operation]) = said operations :=
    many [operation] fun _ member => List.mem_singleton.mp member ▸ ⟨error, answered, own⟩
  refine ⟨single, many, ?_, ?_⟩
  · intro commands command opened found
    have answered := answerTo_batch_of_find? opened found
    exact ⟨answered, single _ _ answered rfl⟩
  · intro reading changes kept active available free refused
    have card : session.identity = identity := identity_run terminal identity settings operations
    have all : ∀ operation ∈ changes.map .changeValue, ∃ error,
        session.answerTo operation = .error error ∧ error.isLocal = true := by
      intro operation member
      obtain ⟨change, inside, rfl⟩ := List.mem_map.mp member
      obtain ⟨matching, refusal, limit⟩ := refused change inside
      exact ⟨_, answerTo_changeValue_of_check active (card ▸ available) free kept matching limit, rfl⟩
    obtain ⟨same, silent⟩ := many _ all
    exact ⟨by rw [same]; exact kept, silent⟩

/-- An open session with a reading that is kept for a debit. -/
def valueReadRun : List Operation := [.openSession .debit [], .readValue .debit false]

theorem run_refusal_valueReadRun :
    let session := run (new debitBench sampleCard {}) valueReadRun
    let said := history debitBench sampleCard {}
    (session.after (.changeValue (.debit 257 0 0)) = session ∧
      said (valueReadRun ++ [.changeValue (.debit 257 0 0)]) = said valueReadRun) ∧
    (session.answerTo (.batch [.readRecord 7 1, .updateRecord 31 1 [0]]) =
        .error (.fileAddress 31 1) ∧
      said (valueReadRun ++ [.batch [.readRecord 7 1, .updateRecord 31 1 [0]]]) = said valueReadRun) ∧
    ∃ reading, reading.balance = 256 ∧
      (session.run ([.debit 257 0 0, .debit (-1) 0 0].map .changeValue)).reading = some reading := by
  intro session said
  obtain ⟨single, -, batches, changes⟩ := run_refusal debitBench sampleCard {} valueReadRun
  obtain ⟨reading, kept, matching, balance⟩ : ∃ reading, session.reading = some reading ∧
      reading.operation = .debit ∧ reading.balance = 256 := ⟨_, rfl, rfl, by decide⟩
  have limits : ∀ change ∈ [StoredValue.Change.debit 257 0 0, .debit (-1) 0 0],
      change.action.operation = reading.operation ∧ ∃ refusal,
        session.settings.valuePolicy.check change.action reading.balance change.amount =
          .error refusal := by
    rw [matching, balance]
    intro change member
    simp only [List.mem_cons, List.not_mem_nil, or_false] at member
    obtain rfl | rfl := member
    · exact ⟨rfl, .belowFloor (-1) 0, rfl⟩
    · exact ⟨rfl, .outOfRange (-1) 0 32767, rfl⟩
  obtain ⟨same, refusal, limit⟩ := limits (.debit 257 0 0) (by simp)
  have available : sampleCard.capabilities.storedValue = true := by decide
  have card : session.identity = sampleCard := identity_run debitBench sampleCard {} valueReadRun
  have answered := answerTo_changeValue_of_check rfl (card ▸ available) rfl kept same limit
  obtain ⟨named, -, silent⟩ := batches [.readRecord 7 1, .updateRecord 31 1 [0]]
    (.updateRecord 31 1 [0]) rfl rfl
  exact ⟨single _ _ answered rfl, ⟨named, silent⟩, reading, balance,
    (changes reading _ kept rfl available rfl limits).1⟩

end FareTerminal.Session
