import FareTerminal.Proofs.Session.Raises
import FareTerminal.Proofs.Session.Spending

/-! Where a batch fails for want of budget: at the first command that it reaches and that costs more
than is left. -/

namespace FareTerminal.Session

open Card

variable {τ : Type}

theorem Ensures.of_ok {α : Type} {work : SessionM τ α} {session after : Session τ} {a : α}
    {post : Postcondition τ α} (h : Ensures work session post) (ends : work.run session = .ok a after) :
    post (.ok a) after := by
  unfold Ensures at h
  rwa [ends] at h

theorem settings_carryOut [Terminal τ] (command : FileCommand) (session : Session (Journaled τ)) :
    Ensures (orAbort (carryOut command)) session
      fun _ after => after.settings = session.settings := by
  simp only [ensures_orAbort, carryOut, ensures_bind, ensures_get, andThen_ok]
  apply ensures_exchangeDigested
  rintro events (error | response) terminal digested
  · rfl
  · rw [andThen_ok]
    split
    · rw [ensures_ofExcept]
      cases command.decode response.data <;> rfl
    · rfl

theorem settings_charge (command : FileCommand) (session : Session τ) :
    Ensures (charge command) session fun _ after => after.settings = session.settings :=
  ensures_charge command session (fun _ => rfl) fun _ _ => rfl

/-- What follows commands that do not end the batch is sent behind them. -/
theorem run_sendAll_append [Terminal τ] {session reached : Session (Journaled τ)}
    {earlier : List FileCommand} (more : List FileCommand)
    (sent : (sendAll earlier).run session = .ok () reached)
    (goesOn : ∀ result ∈ reached.lastBatch,
      stopsBatch session.settings.rejectionPolicy result = false) :
    (sendAll (earlier ++ more)).run session = (sendAll more).run reached := by
  induction earlier generalizing session with
  | nil =>
    cases sent
    rfl
  | cons command rest ih =>
    rw [List.cons_append, sendAll, EStateM.run_bind]
    rw [sendAll, EStateM.run_bind] at sent
    have kept := settings_charge command session
    cases charged : (charge command).run session with
    | error error s₁ =>
      rw [charged] at sent
      cases sent
    | ok _ s₁ =>
      have kept := kept.of_ok charged
      have kept' := settings_carryOut command s₁
      simp only [charged, EStateM.run_bind] at sent ⊢
      cases carried : (orAbort (carryOut command)).run s₁ with
      | error error s₂ =>
        rw [carried] at sent
        cases sent
      | ok result s₂ =>
        have kept' := (kept'.of_ok carried).trans kept
        simp only [carried, report, EStateM.run_modify, EStateM.run_get] at sent ⊢
        rw [kept'] at sent ⊢
        cases stops : stopsBatch session.settings.rejectionPolicy result with
        | true =>
          rw [stops, if_pos rfl] at sent
          cases sent
          have going := goesOn result (by simp)
          rw [stops] at going
          cases going
        | false =>
          rw [stops] at sent
          exact ih sent goesOn

/-- What a batch does from the first command on that it has not sent yet. -/
def finish [Link τ] (commands : List FileCommand) : SessionM τ (List CommandResult) := do
  sendAll commands
  return (← get).lastBatch

/-- A batch reaches what stands behind some commands: these were sent, and none of their results
ends the batch. -/
def Reaches [Link τ] (session : Session τ) (commands : List FileCommand) (reached : Session τ) :
    Prop :=
  ∃ results, (batch commands).run session = .ok results reached ∧
    ∀ result ∈ results, stopsBatch session.settings.rejectionPolicy result = false

theorem run_batch [Link τ] {session : Session τ} {commands : List FileCommand}
    (opened : session.state.phase = .opened) (addressed : checkAddresses commands = .ok ()) :
    (batch commands).run session = (finish commands).run { session with lastBatch := [] } := by
  simp [batch, finish, run_requirePhase, opened, addressed]

theorem ensures_batch [Link τ] {commands : List FileCommand} {session : Session τ}
    (opened : session.state.phase = .opened) (addressed : checkAddresses commands = .ok ())
    {post : Postcondition τ (List CommandResult)}
    (h : Ensures (finish commands) { session with lastBatch := [] } post) :
    Ensures (batch commands) session post := by
  unfold Ensures at h ⊢
  rwa [run_batch opened addressed]

theorem opened_of_run_batch [Link τ] {session reached : Session τ} {commands : List FileCommand}
    {results : List CommandResult} (h : (batch commands).run session = .ok results reached) :
    session.state.phase = .opened ∧ checkAddresses commands = .ok () := by
  by_cases opened : session.state.phase = .opened
  · refine ⟨opened, ?_⟩
    cases addressed : checkAddresses commands with
    | ok _ => rfl
    | error error => simp [batch, run_requirePhase, opened, addressed] at h
  · simp [batch, run_requirePhase, opened] at h

theorem run_finish_eq_ok [Link τ] {session reached : Session τ} {commands : List FileCommand}
    {results : List CommandResult} (h : (finish commands).run session = .ok results reached) :
    (sendAll commands).run session = .ok () reached ∧ results = reached.lastBatch := by
  rw [finish, EStateM.run_bind] at h
  cases sent : (sendAll commands).run session with
  | error error after => simp [sent] at h
  | ok _ after =>
    simp only [sent] at h
    cases h
    exact ⟨rfl, rfl⟩

/-- The part of a batch that is reached goes on from there. -/
theorem run_batch_append [Terminal τ] {session reached : Session (Journaled τ)}
    {earlier more : List FileCommand} (reaches : Reaches session earlier reached)
    (addressed : checkAddresses (earlier ++ more) = .ok ()) :
    (batch (earlier ++ more)).run session = (finish more).run reached := by
  obtain ⟨results, carried, goesOn⟩ := reaches
  obtain ⟨opened, first⟩ := opened_of_run_batch carried
  rw [run_batch opened first] at carried
  obtain ⟨sent, rfl⟩ := run_finish_eq_ok carried
  rw [run_batch opened addressed, finish, finish, EStateM.run_bind, EStateM.run_bind,
    run_sendAll_append more sent goesOn]

/-- A command that costs more than is left. -/
def Overflows (budget : Budget) (command : FileCommand) : Prop :=
  command.isModifying = true ∧
    budget.max.toNat - budget.used.toNat < command.price budget.unit

/-- The error that tells of it. -/
def overflowError (budget : Budget) (command : FileCommand) : SessionError :=
  .bufferOverflow ⟨UInt64.ofNat (command.price budget.unit), budget.max - budget.used⟩

theorem run_charge_of_overflows {session : Session τ} {command : FileCommand}
    (within : session.state.budget.used ≤ session.state.budget.max)
    (small : session.state.budget.max.toNat ≤ 0x100000) (short : command.Addressable)
    (overflows : Overflows session.state.budget command) :
    (charge command).run session =
      .error (overflowError session.state.budget command) session := by
  obtain ⟨modifying, costly⟩ := overflows
  have cost := session.state.budget.toNat_cost short
  rw [FileCommand.price, if_pos modifying] at costly
  have exceeds : session.state.budget.max.toNat < session.state.budget.used.toNat +
      session.state.budget.unit.price command.dataLength := by omega
  have refused := Budget.charge_ofNat short within small
  rw [if_pos exceeds] at refused
  have price : session.state.budget.cost (UInt64.ofNat command.dataLength) =
      UInt64.ofNat (command.price session.state.budget.unit) := by
    rw [FileCommand.price, if_pos modifying, ← cost, UInt64.ofNat_toNat]
  simp only [charge, modifying, if_true, EStateM.run_bind, EStateM.run_get, command.lc_toCommand,
    refused, price, run_throw, overflowError]

theorem run_charge_of_not_overflows {session : Session τ} {command : FileCommand}
    (within : session.state.budget.used ≤ session.state.budget.max)
    (small : session.state.budget.max.toNat ≤ 0x100000) (short : command.Addressable)
    (fits : ¬Overflows session.state.budget command) :
    ∃ budget, (charge command).run session =
      .ok () { session with state := { session.state with budget } } := by
  unfold charge
  cases modifying : command.isModifying with
  | false => exact ⟨session.state.budget, rfl⟩
  | true =>
    have left : session.state.budget.unit.price command.dataLength ≤
        session.state.budget.max.toNat - session.state.budget.used.toNat := by
      refine Nat.le_of_not_lt fun costly => fits ⟨modifying, ?_⟩
      rwa [FileCommand.price, if_pos modifying]
    have used : session.state.budget.used.toNat ≤ session.state.budget.max.toNat := within
    have granted := Budget.charge_ofNat short within small
    rw [if_neg (by omega)] at granted
    refine ⟨session.state.budget.record (UInt64.ofNat command.dataLength), ?_⟩
    simp only [if_true, EStateM.run_bind, EStateM.run_get, command.lc_toCommand, granted,
      run_modifyState]

/-- The failures that are not for want of budget. -/
def IsOther (error : SessionError) : Prop := ∀ overflow, error ≠ .bufferOverflow overflow

theorem IsReported.isOther {error : SessionError} (h : IsReported error) : IsOther error := by
  cases h <;> nofun

section Client

variable {ρ κ : Type} [Reader ρ] [Reader κ]

/-- The last command of a batch fails for want of budget only before it is charged. -/
theorem isOther_of_charged {command : FileCommand} {error : SessionError}
    {session between after : Session (Bench ρ (Sam.Client κ))}
    (charged : (charge command).run session = .ok () between)
    (h : (finish [command]).run session = .error error after) : IsOther error := by
  have reported (results : List CommandResult) :
      Raises IsOther (report results : SessionM (Bench ρ (Sam.Client κ)) Unit) := by
    intro session error after ends
    rw [report, EStateM.run_modify] at ends
    cases ends
  have reporting : Reporting (Bench ρ (Sam.Client κ)) := .bench
  have carried := (reporting.raises_carryOut command).imp fun _ => IsReported.isOther
  have behind := carried.bind fun result =>
    (reported [result]).bind fun _ => raises_get.bind fun session =>
      show Raises IsOther (if stopsBatch session.settings.rejectionPolicy result then
        report (([] : List FileCommand).map fun _ => .skipped) else sendAll []) by
        split
        · exact reported _
        · exact raises_pure _
  rw [finish, EStateM.run_bind, sendAll, EStateM.run_bind, charged] at h
  split at h
  · cases h
  · rename_i failed
    cases h
    exact behind _ _ _ failed

end Client

section Reaching

variable [Terminal τ]

theorem opened_of_sendAll (commands : List FileCommand) (session : Session (Journaled τ))
    (opened : session.state.phase = .opened) :
    Ensures (sendAll commands) session
      fun outcome after => outcome = .ok () → after.state.phase = .opened := by
  induction commands generalizing session with
  | nil => exact fun _ => opened
  | cons command rest ih =>
    apply ensures_sendAll_cons opened
    · exact fun _ ended => nomatch ended
    · exact fun _ _ _ ended => nomatch ended
    · exact fun _ _ _ still _ _ => still
    · exact fun _ _ _ still _ => ih _ still

theorem card_of_digested {command : Apdu.Command} {events : List Event}
    {outcome : Except SessionError Apdu.Response} (h : Digested command events outcome) :
    ∃ answer more, events = .card command.toBytes answer :: more := by
  cases h with
  | unanswered error => exact ⟨.error error, [], rfl⟩
  | undigested response error => exact ⟨.ok response, _, rfl⟩
  | digested response => exact ⟨.ok response, _, rfl⟩

theorem entries_sendAll (commands : List FileCommand) (session : Session (Journaled τ))
    (opened : session.state.phase = .opened) (addressed : checkAddresses commands = .ok ()) :
    Ensures (sendAll commands) session fun _ after =>
      ∃ more, after.terminal.entries = session.terminal.entries ++ more := by
  have steps : Ensures (sendAll commands) session fun _ after =>
      Course.Steps (fun _ => True) session.course after.course :=
    steps_sendAll commands session (by simp) (checkAddress_of_checkAddresses addressed) opened .refl
  exact steps.imp fun _ _ steps => steps.entries_eq

/-- A command that is charged is the next to be sent. -/
theorem sent_of_charged (command : FileCommand) (rest : List FileCommand)
    (session : Session (Journaled τ)) (opened : session.state.phase = .opened)
    (addressed : checkAddresses rest = .ok ()) {budget : Budget}
    (charged : (charge command).run session =
      .ok () { session with state := { session.state with budget } }) :
    Ensures (sendAll (command :: rest)) session fun _ after => ∃ answer more,
      after.terminal.entries = session.terminal.entries ++
        ⟨.opened, .card (command.toCommand session.identity.classByte).toBytes answer⟩ ::
          more := by
  rw [sendAll, ensures_bind, Ensures, charged]
  simp only [andThen_ok, ensures_bind]
  apply ensures_carryOut command { session with state := { session.state with budget } } opened
  intro events outcome terminal digested
  have said : ∃ answer more, session.terminal.entries ++ events.map (⟨session.state.phase, ·⟩) =
      session.terminal.entries ++
        ⟨.opened, .card (command.toCommand session.identity.classByte).toBytes answer⟩ ::
          more := by
    obtain ⟨answer, others, rfl⟩ := card_of_digested digested
    rw [opened]
    exact ⟨answer, _, rfl⟩
  obtain ⟨answer, more, said⟩ := said
  cases result : commandResult command outcome with
  | error error => exact ⟨answer, more, said⟩
  | ok result =>
    have still := phase_settle_of_commandResult result
      (show ({ session.state with budget } : State).phase = .opened from opened)
    simp only [andThen_ok, report, ensures_bind, ensures_modify, ensures_get]
    split
    · exact ⟨answer, more, said⟩
    · refine (entries_sendAll rest _ still addressed).imp ?_
      rintro _ after ⟨further, grown⟩
      change _ = (_ ++ events.map (⟨session.state.phase, ·⟩)) ++ further at grown
      rw [said] at grown
      exact ⟨answer, more ++ further, by simpa using grown⟩

theorem mirrors_finish (commands : List FileCommand) :
    Mirrors (τ := τ) (finish commands) (finish commands) :=
  ((linked_isTerminalOf.sendAll commands).bind fun _ =>
    .get_bind fun _ _ => parallel_pure _).mirrors

theorem Reaches.exists_journaled {session : Session (Journaled τ)} {earlier : List FileCommand}
    {reached : Session τ} (h : Reaches session.erase earlier reached) :
    ∃ noted, Reaches session earlier noted ∧ noted.erase = reached := by
  obtain ⟨results, carried, goesOn⟩ := h
  obtain ⟨noted, carried', rfl⟩ := (mirrors_batch earlier).exists_ok carried
  exact ⟨noted, ⟨results, carried', goesOn⟩, rfl⟩

theorem after_batch (session : Session (Journaled τ)) (commands : List FileCommand) :
    session.after (.batch commands) =
      match (batch commands).run session with
      | .ok _ after => after
      | .error _ after => after := by
  simp only [after, perform, EStateM.run_bind]
  cases (batch commands).run session <;> rfl

theorem Reaches.after {session reached : Session (Journaled τ)} {earlier : List FileCommand}
    (h : Reaches session earlier reached) : session.after (.batch earlier) = reached := by
  obtain ⟨results, carried, _⟩ := h
  rw [after_batch, carried]

theorem Reaches.opened {session reached : Session (Journaled τ)} {earlier : List FileCommand}
    (h : Reaches session earlier reached) : reached.state.phase = .opened := by
  obtain ⟨results, carried, _⟩ := h
  obtain ⟨opened, addressed⟩ := opened_of_run_batch carried
  rw [run_batch opened addressed] at carried
  obtain ⟨sent, _⟩ := run_finish_eq_ok carried
  exact (opened_of_sendAll earlier { session with lastBatch := [] } opened).of_ok sent rfl

/-- What is known of the budget where a command is reached. -/
theorem Reaches.accounted {identity : Card.Identity} {settings : Settings}
    {session reached : Session (Journaled τ)} {earlier : List FileCommand}
    (h : Reaches session earlier reached) (shorts : ∀ other ∈ earlier, other.Addressable)
    (steps : Course.Steps FileCommand.Addressable (Course.start identity settings)
      session.course) :
    reached.identity = identity ∧ Accounted identity reached.state.phase reached.state.budget
      reached.terminal.entries := by
  have further : Course.Steps FileCommand.Addressable (Course.start identity settings)
      reached.course := by
    rw [← h.after]
    exact steps.trans (steps_after session (.batch earlier) shorts)
  have card : reached.identity = identity := further.identity_eq
  have accounted := further.accounted (accounted_start identity settings)
  rw [Course.Accounted, show reached.course.identity = identity from card] at accounted
  exact ⟨card, accounted⟩

/-- A batch that reaches a command for which too little is left fails there, without a trace. -/
theorem Reaches.overflow {session reached : Session (Journaled τ)} {earlier rest : List FileCommand}
    {command : FileCommand} (h : Reaches session earlier reached)
    (addressed : checkAddresses (earlier ++ command :: rest) = .ok ())
    (within : reached.state.budget.used ≤ reached.state.budget.max)
    (small : reached.state.budget.max.toNat ≤ 0x100000) (short : command.Addressable)
    (overflows : Overflows reached.state.budget command) :
    (batch (earlier ++ command :: rest)).run session =
      .error (overflowError reached.state.budget command) reached := by
  rw [run_batch_append h addressed, finish, EStateM.run_bind, sendAll, EStateM.run_bind,
    run_charge_of_overflows within small short overflows]

/-- A batch that reaches a command for which enough is left sends it. -/
theorem Reaches.sent {session reached : Session (Journaled τ)} {earlier rest : List FileCommand}
    {command : FileCommand} (h : Reaches session earlier reached)
    (addressed : checkAddresses (earlier ++ command :: rest) = .ok ())
    (within : reached.state.budget.used ≤ reached.state.budget.max)
    (small : reached.state.budget.max.toNat ≤ 0x100000) (short : command.Addressable)
    (fits : ¬Overflows reached.state.budget command) :
    ∃ answer more, (session.after (.batch (earlier ++ command :: rest))).terminal.entries =
      reached.terminal.entries ++
        ⟨.opened, .card (command.toCommand reached.identity.classByte).toBytes answer⟩ ::
          more := by
  obtain ⟨budget, charged⟩ := run_charge_of_not_overflows within small short fits
  have behind : checkAddresses rest = .ok () := by
    rw [List.append_cons, checkAddresses_append] at addressed
    exact addressed.2
  have sent := sent_of_charged command rest reached h.opened behind charged
  rw [after_batch, run_batch_append h addressed, finish, EStateM.run_bind]
  unfold Ensures at sent
  cases ends : (sendAll (command :: rest)).run reached with
  | ok _ after =>
    rw [ends] at sent
    exact sent
  | error error after =>
    rw [ends] at sent
    exact sent

end Reaching

/-- A batch fails at a command that it reaches, for want of budget, exactly if too little is left. -/
theorem Reaches.fails_iff {ρ κ : Type} [Reader ρ] [Reader κ]
    {session reached : Session (Journaled (Bench ρ (Sam.Client κ)))}
    {earlier : List FileCommand} {command : FileCommand} (h : Reaches session earlier reached)
    (addressed : checkAddresses (earlier ++ [command]) = .ok ())
    (within : reached.state.budget.used ≤ reached.state.budget.max)
    (small : reached.state.budget.max.toNat ≤ 0x100000) (short : command.Addressable) :
    (∃ overflow after, (batch (earlier ++ [command])).run session.erase =
      .error (.bufferOverflow overflow) after) ↔ Overflows reached.state.budget command := by
  rw [mirrors_batch _ session]
  constructor
  · rintro ⟨overflow, after, failed⟩
    by_cases costly : Overflows reached.state.budget command
    · exact costly
    · have within : reached.erase.state.budget.used ≤ reached.erase.state.budget.max := within
      obtain ⟨_, charged⟩ := run_charge_of_not_overflows within small short costly
      rw [run_batch_append h addressed, ← mirrors_finish [command] reached] at failed
      exact absurd rfl (isOther_of_charged charged failed overflow)
  · intro costly
    rw [h.overflow addressed within small short costly]
    exact ⟨_, _, rfl⟩

/-- The budget of every session with a security module behind a reader. What is used of it is what
the modifying commands cost that were sent since the opening, and is never above the limit. A batch
that reaches a command fails there for want of budget exactly if the command costs more than is left,
and then it is as if the batch had ended before it; otherwise the command is sent. -/
theorem run_budget {ρ κ : Type} [Reader ρ] [Reader κ] (terminal : Bench ρ (Sam.Client κ))
    (identity : Card.Identity) (settings : Settings) (operations : List Operation)
    (short : ∀ operation ∈ operations, ∀ command ∈ operation.commands, command.Addressable) :
    let session := run (new terminal identity settings) operations
    session.state.budget.used.toNat =
        spent identity.budget.unit (history terminal identity settings operations) ∧
      session.state.budget.used ≤ identity.budget.max ∧
      ∀ earlier command rest reached, (∀ other ∈ earlier ++ [command], other.Addressable) →
        checkAddresses (earlier ++ command :: rest) = .ok () → Reaches session earlier reached →
        let overflows := command.isModifying = true ∧
          identity.budget.max.toNat - reached.state.budget.used.toNat <
            command.price identity.budget.unit
        ((∃ overflow after, (batch (earlier ++ [command])).run session =
            .error (.bufferOverflow overflow) after) ↔ overflows) ∧
        (overflows →
          (batch (earlier ++ command :: rest)).run session =
              .error (overflowError reached.state.budget command) reached ∧
            reached.state.phase = .opened ∧
            history terminal identity settings
                (operations ++ [.batch (earlier ++ command :: rest)]) =
              history terminal identity settings (operations ++ [.batch earlier])) ∧
        (¬overflows → ∃ answer more,
          history terminal identity settings
              (operations ++ [.batch (earlier ++ command :: rest)]) =
            history terminal identity settings (operations ++ [.batch earlier]) ++
              ⟨.opened, .card (command.toCommand identity.classByte).toBytes answer⟩ :: more) := by
  intro session
  have steps := steps_history terminal identity settings operations short
  have card : (historyCourse terminal identity settings operations).identity = identity :=
    steps.identity_eq
  have start := accounted_start identity settings
  have accounted := steps.accounted start
  rw [Course.Accounted, card] at accounted
  let noted := run (new (⟨terminal, []⟩ : Journaled _) identity settings) operations
  have erased : noted.erase = session := (run_eq_erase terminal identity settings operations).symm
  rw [← erased]
  refine ⟨accounted.used, accounted.max ▸ accounted.within, ?_⟩
  intro earlier command rest reached shorts addressed reaches overflows
  obtain ⟨r, carried, rfl⟩ := reaches.exists_journaled
  have recorded (commands : List FileCommand) :
      history terminal identity settings (operations ++ [.batch commands]) =
        (noted.after (.batch commands)).terminal.entries := by
    unfold history
    rw [run_append]
    rfl
  obtain ⟨card', budget⟩ := carried.accounted
    (fun other member => shorts other (List.mem_append_left _ member)) steps
  have small : r.state.budget.max.toNat ≤ 0x100000 := budget.max ▸ max_budget_le identity
  have here : command.Addressable := shorts command (by simp)
  have same : overflows ↔ Overflows r.state.budget command := by
    rw [Overflows, budget.max, budget.unit]
    exact Iff.rfl
  refine ⟨?_, fun costly => ⟨?_, ?_, ?_⟩, fun fits => ?_⟩
  · have alone : checkAddresses (earlier ++ [command]) = .ok () := by
      rw [List.append_cons, checkAddresses_append] at addressed
      exact addressed.1
    rw [same]
    exact carried.fails_iff alone budget.within small here
  · rw [mirrors_batch _ noted, carried.overflow addressed budget.within small here (same.mp costly)]
    rfl
  · exact carried.opened
  · rw [recorded, recorded, carried.after, after_batch,
      carried.overflow addressed budget.within small here (same.mp costly)]
  · rw [recorded, recorded, carried.after, ← card']
    exact carried.sent addressed budget.within small here fun costly => fits (same.mpr costly)

/-- A session in which the card rejects an update, which has been paid for all the same. -/
def rejectedRun : List Operation :=
  [.openSession .load [], .batch [.updateRecord 7 1 [0x2A], .readRecord 7 1]]

def rejectingBench : Bench Script (Sam.Client Script) :=
  scripted
    [[0, 0, 0, 0, 0, 0x30, 0x7E, 0, 0x90, 0x00], [0x69, 0x82], [0x2B, 0x90, 0x00],
      [0x2B, 0x90, 0x00]]
    ([[0x90, 0x00], [1, 2, 3, 4, 0x90, 0x00]] ++ List.replicate 7 [0x90, 0x00])

/-- An update for which what is left does not suffice. -/
def longUpdate : FileCommand := .updateRecord 7 1 (List.replicate 203 0)

theorem dataLength_longUpdate : longUpdate.dataLength = 203 := List.length_replicate

theorem price_longUpdate : longUpdate.price .bytes = 209 := by
  have modifying : longUpdate.isModifying = true := rfl
  rw [FileCommand.price, if_pos modifying, dataLength_longUpdate]
  rfl

theorem run_budget_rejectedRun :
    (∀ operation ∈ rejectedRun, ∀ command ∈ operation.commands, command.Addressable) ∧
      (run (new rejectingBench sampleCard {}) rejectedRun).state.budget.used.toNat =
        spent .bytes (history rejectingBench sampleCard {} rejectedRun) ∧
      spent .bytes (history rejectingBench sampleCard {} rejectedRun) = 7 ∧
      ∃ reached,
        Reaches (run (new rejectingBench sampleCard {}) rejectedRun) [.readRecord 7 1] reached ∧
          (batch [.readRecord 7 1, longUpdate]).run
              (run (new rejectingBench sampleCard {}) rejectedRun) =
            .error (.bufferOverflow ⟨209, 208⟩) reached := by
  have short : ∀ operation ∈ rejectedRun, ∀ command ∈ operation.commands, command.Addressable := by
    decide
  obtain ⟨used, -, batches⟩ := run_budget rejectingBench sampleCard {} rejectedRun short
  have reaches : Reaches (run (new rejectingBench sampleCard {}) rejectedRun)
      [.readRecord 7 1] _ := ⟨[.records [(1, [0x2B])]], rfl, by decide⟩
  have addressable : ∀ other ∈ [.readRecord 7 1] ++ [longUpdate], other.Addressable := by
    intro other member
    rcases List.mem_cons.mp member with rfl | member
    · decide
    · rw [List.mem_singleton.mp member, FileCommand.Addressable, dataLength_longUpdate]
      decide
  have ends := batches [.readRecord 7 1] longUpdate [] _ addressable rfl reaches
  have costly : sampleCard.budget.max.toNat - (7 : UInt64).toNat < longUpdate.price .bytes := by
    rw [price_longUpdate]
    decide
  have failed := (ends.2.1 ⟨rfl, costly⟩).1
  rw [overflowError, show Budget.unit _ = .bytes from rfl, price_longUpdate] at failed
  exact ⟨short, used, by decide, _, reaches, failed⟩

end FareTerminal.Session
