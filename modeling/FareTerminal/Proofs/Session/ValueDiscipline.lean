import Mathlib.Data.List.Induction
import FareTerminal.Proofs.Bytes.BigEndian
import FareTerminal.Proofs.Session.ValueTurn
import FareTerminal.Proofs.StoredValue.Limits

/-! How the stored value is changed in a run: each change is made with the last reading before it,
which no other change is made with, and within the limits. -/

namespace FareTerminal.Session

variable {τ : Type}

/-- The reading that is kept after a turn. A turn that has a change prepared uses it up. -/
def keepReading (kept : Option StoredValue.Reading) (turn : Turn) : Option StoredValue.Reading :=
  if turn.events.any Event.concernsChange then none else turn.reading?.or kept

theorem Unchanging.keepReading_eq {turn : Turn} (h : Unchanging turn.events)
    (kept : Option StoredValue.Reading) : keepReading kept turn = turn.reading?.or kept := by
  have unchanging : turn.events.any Event.concernsChange = false := by
    rw [List.any_eq_false]
    exact fun event member => Bool.not_eq_true _ ▸ h event member
  rw [keepReading, unchanging]
  rfl

/-- The terminal's part of the command for a change, byte by byte: the numbers of two or three bytes
with the highest byte first, amounts in two's complement, and the key version that the card told. -/
def partialBytes (kvc : UInt8) : StoredValue.Change → Bytes
  | .reload amount date time free =>
    [UInt8.ofNat (date.toNat / 256), UInt8.ofNat date.toNat, free.1, kvc, free.2,
      UInt8.ofInt (amount.toInt / 65536), UInt8.ofInt (amount.toInt / 256),
      UInt8.ofInt amount.toInt, UInt8.ofNat (time.toNat / 256), UInt8.ofNat time.toNat]
  | .debit amount date time | .undebit amount date time =>
    [UInt8.ofInt (amount.toInt / 256), UInt8.ofInt amount.toInt, UInt8.ofNat (date.toNat / 256),
      UInt8.ofNat date.toNat, UInt8.ofNat (time.toNat / 256), UInt8.ofNat time.toNat, kvc]

/-- The bytes of the command for a change: the header, the length of the data in its low eight bits,
the terminal's part, the security module's, and the length of what is expected back. -/
def changeBytes (cla : UInt8) (change : StoredValue.Change) (kvc : UInt8) (complement : Bytes) :
    Bytes :=
  let instruction : UInt8 := match change with
    | .reload .. => 0xB8
    | .debit .. => 0xBA
    | .undebit .. => 0xBC
  let data := partialBytes kvc change ++ complement
  [cla, instruction, 0x00, 0x00, UInt8.ofNat data.length] ++ data ++ [0x00]

theorem data_eq_partialBytes (kvc : UInt8) (change : StoredValue.Change) :
    change.data kvc = partialBytes kvc change := by
  cases change with
  | reload amount date time free =>
    simp only [StoredValue.Change.data, StoredValue.Change.reloadData, BigEndian.encodeSigned_three]
    rfl
  | debit amount date time | undebit amount date time =>
    simp only [StoredValue.Change.data, StoredValue.Change.debitData, BigEndian.encodeSigned_two]
    rfl

theorem toBytes_changeCommand (cla : UInt8) (change : StoredValue.Change) (kvc : UInt8)
    (complement : Bytes) :
    (changeCommand cla change kvc complement).toBytes = changeBytes cla change kvc complement := by
  rw [changeCommand, data_eq_partialBytes]
  cases change <;> rfl

theorem changesValue_changeBytes (cla : UInt8) (change : StoredValue.Change) (kvc : UInt8)
    (complement : Bytes) : changesValue (changeBytes cla change kvc complement) = true := by
  rw [← toBytes_changeCommand, changesValue_changeCommand]

namespace Turn

/-- The turn has returned a reading, which says what the card has told last. -/
structure HasRead (cla : UInt8) (reading : StoredValue.Reading) (turn : Turn) : Prop where
  asked : ∃ bothLogs, turn.operation = .readValue reading.operation bothLogs
  returned : turn.outcome = .ok (.reading reading)
  command : reading.command = (readingCommand cla reading.operation).toBytes
  last : (told turn.events).getLast? = some (reading.command, reading.response)
  content : ∃ plain,
    StoredValue.Reading.ofResponse? reading.operation reading.command reading.response = some plain ∧
      (reading = plain ∨ ∃ other, reading = plain.withLogsOf other)

theorem HasRead.isShort {cla : UInt8} {reading : StoredValue.Reading} {turn : Turn}
    (h : turn.HasRead cla reading) : StoredValue.IsShort reading.balance := by
  obtain ⟨plain, told, rfl | ⟨other, rfl⟩⟩ := h.content
  · exact (StoredValue.Reading.ofResponse?_eq_some told).2.2.2
  · exact (StoredValue.Reading.ofResponse?_eq_some told).2.2.2

theorem HasRead.reading?_ne_none {cla : UInt8} {reading : StoredValue.Reading} {turn : Turn}
    (h : turn.HasRead cla reading) : turn.reading? ≠ none := by
  simp [reading?, h.returned]

/-- The turn sends one command to the card, a change that the security module has completed, given
what a reading says. -/
structure Sends (cla : UInt8) (change : StoredValue.Change) (reading : StoredValue.Reading)
    (turn : Turn) : Prop where
  asked : turn.operation = .changeValue change
  sent : ∃ complement answer rest,
    turn.events =
      .sam (.prepareChange change.action reading.command reading.response
          (partialBytes reading.kvc change)) (.ok complement) ::
        .card (changeBytes cla change reading.kvc complement) answer :: rest ∧
      Consults rest

/-- The card has accepted the change that the turn sends, and the security module has accepted the
signature in its response. -/
def IsSigned (turn : Turn) : Prop :=
  ∃ earlier command, ∃ response : Apdu.Response,
    turn.events =
        earlier ++ [.card command (.ok response), .sam (.checkChange response.data) (.ok true)] ∧
      changesValue command = true ∧ response.isSuccess = true

end Turn

variable {identity : Card.Identity} {settings : Settings} {kept kept' : Option StoredValue.Reading}
  {pending : Bool} {turn : Turn}

theorem Turn.Sends.countP {cla : UInt8} {change : StoredValue.Change}
    {reading : StoredValue.Reading} (h : turn.Sends cla change reading) :
    turn.events.countP Event.sendsChange = 1 := by
  obtain ⟨complement, answer, rest, said, consulted⟩ := h.sent
  simp [said, Event.sendsChange, changesValue_changeBytes, consulted.countP_sendsChange]

theorem Turn.Sends.sendsChange {cla : UInt8} {change : StoredValue.Change}
    {reading : StoredValue.Reading} (h : turn.Sends cla change reading) :
    turn.sendsChange = true := by
  rw [Turn.sendsChange, List.any_eq_true, ← List.countP_pos_iff, h.countP]
  exact Nat.one_pos

theorem sendsChange_of_isAcceptedChange {entry : Entry}
    (h : entry.isAcceptedChange = true) : entry.event.sendsChange = true := by
  unfold Entry.isAcceptedChange at h
  split at h
  · exact (Bool.and_eq_true_iff.mp h).1
  · cases h

theorem countP_isAcceptedChange_le (turn : Turn) :
    turn.entries.countP Entry.isAcceptedChange ≤ turn.events.countP Event.sendsChange := by
  rw [Turn.events, List.countP_map]
  exact List.countP_mono_left fun _ _ => sendsChange_of_isAcceptedChange

theorem consults_of_concluding {kind : Card.CommandKind} {phase : Phase}
    {outcome : Except SessionError Apdu.Response} {more : List Event}
    {result : Except SessionError Unit} (h : Concluding kind phase outcome more result) :
    Consults more := by
  cases h with
  | failed | rejected | owed => exact List.forall_mem_nil _
  | checked success answer => simp [Consults, Event.call?]

theorem Delivered.exists_eq_cons {command : Apdu.Command} {phase : Phase} {events : List Event}
    {outcome : Except SessionError Apdu.Response} (h : Delivered command phase events outcome) :
    ∃ answer rest, events = .card command.toBytes answer :: rest ∧ Consults rest ∧
      ∀ response, outcome = .ok response → answer = .ok response := by
  cases h with
  | outside answer =>
    refine ⟨answer, [], rfl, by simp [Consults], ?_⟩
    intro response answered
    cases answer with
    | error error => cases answered
    | ok response => exact congrArg _ (Except.ok.inj answered)
  | inside digested =>
    cases digested with
    | unanswered error => exact ⟨_, _, rfl, by simp [Consults], nofun⟩
    | undigested response error => exact ⟨_, _, rfl, by simp [Consults, Event.call?], nofun⟩
    | digested response =>
      refine ⟨_, _, rfl, by simp [Consults, Event.call?], ?_⟩
      rintro _ ⟨⟩
      rfl

theorem Delivered.eq_singleton {command : Apdu.Command} {events : List Event}
    {response : Apdu.Response} (h : Delivered command .closed events (.ok response)) :
    events = [.card command.toBytes (.ok response)] := by
  generalize answered : Except.ok response = outcome at h
  cases h with
  | outside answer =>
    cases answer with
    | error error => cases answered
    | ok response =>
      cases answered
      rfl

theorem Changing.any_concernsChange {cla : UInt8} {change : StoredValue.Change}
    {reading : StoredValue.Reading} {phase : Phase} {events : List Event}
    {outcome : Except SessionError Apdu.Response}
    (h : Changing cla change reading phase events outcome) :
    events.any Event.concernsChange = true := by
  cases h with
  | unprepared error => rfl
  | prepared complement delivered => rfl

theorem ofResponse?_of_readReading {operation : StoredValue.Operation} {command : Apdu.Command}
    {response : Apdu.Response} {reading : StoredValue.Reading}
    (h : readReading operation command response = .ok reading) :
    StoredValue.Reading.ofResponse? operation command.toBytes response.data = some reading := by
  unfold readReading at h
  split at h
  · rename_i read
    rw [read, Except.ok.inj h]
  · cases h

/-- Further logs do not change what a reading says of the exchange. -/
theorem told_of_logs {reading plain : StoredValue.Reading}
    (logs : reading = plain ∨ ∃ other, reading = plain.withLogsOf other) :
    reading.operation = plain.operation ∧ reading.command = plain.command ∧
      reading.response = plain.response := by
  obtain rfl | ⟨other, rfl⟩ := logs <;> exact ⟨rfl, rfl, rfl⟩

theorem told_of_delivered {cla : UInt8} {operation : StoredValue.Operation} {phase : Phase}
    {events : List Event} {response : Apdu.Response}
    (h : Delivered (readingCommand cla operation) phase events (.ok response))
    (success : response.isSuccess = true) :
    told events = [((readingCommand cla operation).toBytes, response.data)] := by
  obtain ⟨answer, rest, rfl, consulted, same⟩ := h.exists_eq_cons
  have reads : readsValue (readingCommand cla operation).toBytes = true := rfl
  have sent : (Event.card (readingCommand cla operation).toBytes (.ok response)).told? =
      some ((readingCommand cla operation).toBytes, response.data) := by
    simp [Event.told?, reads, success]
  rw [same response rfl, told, List.filterMap_cons_some sent, ← told, consulted.told_eq_nil]

namespace ValueTurn

/-- What is kept after a turn can be read off the transcript. -/
theorem kept_eq (h : ValueTurn identity settings kept pending turn kept') :
    kept' = keepReading kept turn := by
  cases h with
  | refused phase operation error => rfl
  | unconcerned unread unchanged silent =>
    rw [silent.unchanging.keepReading_eq, unread]
    rfl
  | unread unchanging =>
    rw [Unchanging.keepReading_eq]
    · rfl
    · rwa [Turn.events_mk]
  | read unchanging delivered success reads logs =>
    rw [Unchanging.keepReading_eq]
    · rfl
    · rw [Turn.events_mk]
      exact unchanging.append (unchanging_of_delivered delivered)
  | changed active free usable changing concluding =>
    rw [keepReading, Turn.events_mk, List.any_append, changing.any_concernsChange, Bool.true_or]
    rfl

/-- A turn that sends a change has been asked for it, and there was a reading for it. -/
theorem sends (h : ValueTurn identity settings kept pending turn kept')
    (sending : turn.sendsChange = true) :
    turn.phase.isTerminated = false ∧ pending = false ∧ ∃ change reading,
      usableReading settings.valuePolicy kept change = .ok reading ∧
        turn.Sends identity.classByte change reading := by
  have refuse {events : List Event} (unchanging : Unchanging events)
      (same : turn.events = events) : False := by
    rw [Turn.sendsChange, same, unchanging.any_sendsChange] at sending
    cases sending
  cases h with
  | refused phase operation error => cases sending
  | unconcerned unread unchanged silent => exact (refuse silent.unchanging rfl).elim
  | unread unchanging => exact (refuse unchanging (Turn.events_mk _ _ _ _)).elim
  | read unchanging delivered success reads logs =>
    have both := unchanging.append (unchanging_of_delivered delivered)
    exact (refuse both (Turn.events_mk _ _ _ _)).elim
  | changed active free usable changing concluding =>
    have consulted := consults_of_concluding concluding
    cases changing with
    | unprepared error =>
      cases concluding
      cases sending
    | prepared complement delivered =>
      obtain ⟨answer, rest, rfl, first, _⟩ := delivered.exists_eq_cons
      refine ⟨active, free, _, _, usable, rfl, complement, answer, _, ?_, first.append consulted⟩
      rw [← data_eq_partialBytes, ← toBytes_changeCommand]
      exact Turn.events_mk _ _ _ _

/-- A turn sends one change at most, and none while a signature is pending. -/
theorem countP_isAcceptedChange (h : ValueTurn identity settings kept pending turn kept') :
    turn.entries.countP Entry.isAcceptedChange = 0 ∨
      turn.entries.countP Entry.isAcceptedChange ≤ 1 ∧
        turn.phase.isTerminated = false ∧ pending = false := by
  have counted := countP_isAcceptedChange_le turn
  cases sending : turn.sendsChange with
  | false =>
    have nothing : turn.events.countP Event.sendsChange = 0 := by
      rw [List.countP_eq_zero]
      exact List.any_eq_false.mp sending
    exact .inl (Nat.le_zero.mp (nothing ▸ counted))
  | true =>
    obtain ⟨active, free, change, reading, -, sends⟩ := h.sends sending
    exact .inr ⟨sends.countP ▸ counted, active, free⟩

/-- A turn that has returned a reading has got it from the card. -/
theorem hasRead (h : ValueTurn identity settings kept pending turn kept')
    {reading : StoredValue.Reading} (returned : turn.reading? = some reading) :
    turn.HasRead identity.classByte reading := by
  cases h with
  | refused phase operation error => cases returned
  | unconcerned unread unchanged silent => simp [unread] at returned
  | unread unchanging => cases returned
  | changed active free usable changing concluding =>
    rename_i result
    cases result <;> cases returned
  | read unchanging delivered success reads logs =>
    obtain rfl := Option.some.inj returned
    have reads := ofResponse?_of_readReading reads
    obtain ⟨operation, command, response, -⟩ := StoredValue.Reading.ofResponse?_eq_some reads
    have kept := told_of_logs logs
    rw [operation, command, response] at kept
    obtain ⟨rfl, command, response⟩ := kept
    exact {
      asked := ⟨_, rfl⟩
      returned := rfl
      command := command
      last := by
        rw [Turn.events_mk, told_append, List.getLast?_append, told_of_delivered delivered success,
          command, response]
        rfl
      content := ⟨_, by rwa [command, response], logs⟩ }

/-- A change outside of a session succeeds only with the card's signature. -/
theorem isSigned (h : ValueTurn identity settings kept pending turn kept')
    {change : StoredValue.Change} (asked : turn.operation = .changeValue change)
    (outside : turn.phase ≠ .opened) (succeeded : turn.outcome = .ok .done) : turn.IsSigned := by
  cases h with
  | refused phase operation error => cases succeeded
  | unconcerned unread unchanged silent => exact absurd asked (unchanged change)
  | unread unchanging => cases asked
  | read unchanging delivered success reads logs => cases asked
  | changed active free usable changing concluding =>
    cases concluding with
    | failed phase error => cases succeeded
    | rejected phase refused => cases succeeded
    | owed success => exact absurd rfl outside
    | checked success answer =>
      rcases answer with error | accepted
      · cases succeeded
      · cases accepted with
        | false => cases succeeded
        | true =>
          cases changing with
          | prepared complement delivered =>
            rw [delivered.eq_singleton, Turn.IsSigned, Turn.events_mk]
            exact ⟨[_], _, _, rfl, changesValue_changeCommand _ _ _ _, success⟩

end ValueTurn

theorem sendsChange_of_concernsChange {turn : Turn}
    (h : turn.events.any Event.concernsChange = false) : turn.sendsChange = false := by
  refine Unchanging.any_sendsChange fun event member => ?_
  exact Bool.eq_false_iff.mpr (List.any_eq_false.mp h event member)

/-- A reading that is kept has been returned, and since then no other has been, nor any change sent. -/
theorem exists_of_keepReading {turns : List Turn} {reading : StoredValue.Reading}
    (h : turns.foldl keepReading none = some reading) :
    ∃ before get between, turns = before ++ get :: between ∧ get.reading? = some reading ∧
      ∀ other ∈ between, other.reading? = none ∧ other.sendsChange = false := by
  -- by induction from the end: the last turn has returned the reading, or has left it as it was
  induction turns using List.reverseRecOn with
  | nil => cases h
  | append_singleton turns turn ih =>
    rw [List.foldl_append, List.foldl_cons, List.foldl_nil, keepReading] at h
    cases unchanging : turn.events.any Event.concernsChange with
    | true => simp [unchanging] at h
    | false =>
      rw [unchanging, if_neg Bool.false_ne_true] at h
      cases returned : turn.reading? with
      | some latest =>
        rw [returned] at h
        exact ⟨turns, turn, [], rfl, returned.trans h, List.forall_mem_nil _⟩
      | none =>
        rw [returned] at h
        obtain ⟨before, get, between, rfl, read, nothing⟩ := ih h
        refine ⟨before, get, between ++ [turn], by simp, read, ?_⟩
        refine List.forall_mem_append.mpr ⟨nothing, ?_⟩
        simpa using ⟨returned, sendsChange_of_concernsChange unchanging⟩

/-- What comes behind the last element without a property is determined. -/
theorem eq_of_append_cons_eq {α : Type} {p : α → Prop} {before before' after after' : List α}
    {a a' : α} (same : before ++ a :: after = before' ++ a' :: after') (held : ∀ x ∈ after, p x)
    (held' : ∀ x ∈ after', p x) (failed : ¬p a) (failed' : ¬p a') : after = after' := by
  rcases List.append_eq_append_iff.mp same with ⟨more, -, rest⟩ | ⟨more, -, rest⟩
  · cases more with
    | nil => exact (List.cons.inj rest).2
    | cons first more =>
      refine absurd (held a' ?_) failed'
      rw [(List.cons.inj rest).2]
      simp
  · cases more with
    | nil => exact (List.cons.inj rest).2.symm
    | cons first more =>
      refine absurd (held' a ?_) failed
      rw [(List.cons.inj rest).2]
      simp

/-- The turn `turn` sends a change that was made with the reading that the turn `get` has returned,
where only the turns `between` came in between. -/
structure MadeWith (cla : UInt8) (policy : StoredValue.Policy) (change : StoredValue.Change)
    (reading : StoredValue.Reading) (get : Turn) (between : List Turn) (turn : Turn) : Prop where
  read : get.HasRead cla reading
  last : ∀ other ∈ between, other.reading? = none
  sends : turn.Sends cla change reading
  matching : reading.operation = change.action.operation
  within : StoredValue.WithinLimits policy change reading.balance

theorem of_usableReading {policy : StoredValue.Policy} {kept : Option StoredValue.Reading}
    {change : StoredValue.Change} {reading : StoredValue.Reading}
    (h : usableReading policy kept change = .ok reading) :
    kept = some reading ∧ reading.operation = change.action.operation ∧
      policy.check change.action reading.balance change.amount = .ok () := by
  unfold usableReading at h
  split at h
  · cases h
  · rename_i found
    split at h
    · rename_i passed
      obtain rfl := Except.ok.inj h
      obtain ⟨same, matching⟩ := Option.filter_eq_some_iff.mp found
      exact ⟨same, of_decide_eq_true matching, passed⟩
    · cases h

section Runs

variable [Terminal τ]

theorem reading_run (session : Session (Journaled τ)) (operations : List Operation) :
    (session.run operations).reading = (session.turns operations).foldl keepReading session.reading := by
  induction operations generalizing session with
  | nil => rfl
  | cons operation rest ih =>
    rw [run_cons, ih, turns_cons, List.foldl_cons, ← (valueTurn_turn session operation).kept_eq]

/-- No run exchanges the card or the settings. -/
theorem fixed_run (terminal : τ) (identity : Card.Identity) (settings : Settings)
    (operations : List Operation) :
    let session := run (new (⟨terminal, []⟩ : Journaled τ) identity settings) operations
    session.identity = identity ∧ session.settings = settings := by
  have steps : Course.Steps (fun _ => True) _ _ :=
    steps_history terminal identity settings operations (by simp)
  exact ⟨steps.identity_eq, steps.settings_eq⟩

variable {terminal : τ} {operations : List Operation} {earlier later : List Turn}

theorem valueTurn_of_transcript
    (split : transcript terminal identity settings operations = earlier ++ turn :: later) :
    ∃ pending kept', ValueTurn identity settings (earlier.foldl keepReading none) pending turn
      kept' := by
  obtain ⟨before, operation, after, rfl, rfl, rfl⟩ := exists_of_turns_eq_append split
  obtain ⟨card, chosen⟩ := fixed_run terminal identity settings before
  have made := valueTurn_turn (run (new ⟨terminal, []⟩ identity settings) before) operation
  rw [card, chosen, reading_run] at made
  exact ⟨_, _, made⟩

theorem exists_madeWith
    (split : transcript terminal identity settings operations = earlier ++ turn :: later)
    (sending : turn.sendsChange = true) :
    ∃ before get between change reading, earlier = before ++ get :: between ∧
      MadeWith identity.classByte settings.valuePolicy change reading get between turn ∧
      ∀ other ∈ between, other.sendsChange = false := by
  obtain ⟨pending, _, made⟩ := valueTurn_of_transcript split
  obtain ⟨-, -, change, reading, usable, sends⟩ := made.sends sending
  obtain ⟨kept, matching, passed⟩ := of_usableReading usable
  obtain ⟨before, get, between, rfl, returned, nothing⟩ := exists_of_keepReading kept
  rw [List.append_assoc] at split
  obtain ⟨_, _, got⟩ := valueTurn_of_transcript split
  have read := got.hasRead returned
  exact ⟨before, get, between, change, reading, rfl,
    { read, sends, matching
      last := fun other member => (nothing other member).1
      within := StoredValue.withinLimits_of_check read.isShort passed },
    fun other member => (nothing other member).2⟩

/-- Within a session, the card accepts one change at most. -/
theorem countP_isAcceptedChange_history (terminal : τ) (identity : Card.Identity)
    (settings : Settings) (operations : List Operation) :
    (history terminal identity settings operations).countP Entry.isAcceptedChange ≤ 1 := by
  induction operations using List.reverseRecOn with
  | nil => exact Nat.zero_le 1
  | append_singleton operations operation ih =>
    rw [history_concat, List.countP_append]
    have made := valueTurn_turn (run (new ⟨terminal, []⟩ identity settings) operations) operation
    obtain none | ⟨one, active, free⟩ := made.countP_isAcceptedChange
    · rw [none]
      exact ih
    · -- the session would remember a change that the card has accepted before
      have steps : Course.Steps (fun _ => True) _ _ :=
        steps_history terminal identity settings operations (by simp)
      obtain ⟨-, owed⟩ := (steps.remembers fun _ => ⟨rfl, rfl⟩) active
      have none : (history terminal identity settings operations).countP
          Entry.isAcceptedChange = 0 := by
        rw [List.countP_eq_zero]
        exact List.any_eq_false.mp (owed.symm.trans free)
      rw [none, Nat.zero_add]
      exact one

/-- How the stored value is changed in every run. Each change that is sent was made with the last
reading before it, and with that reading no later change is made. Within a session the card accepts
one change at most; outside of one a change succeeds only with the card's signature. -/
theorem run_storedValue (terminal : τ) (identity : Card.Identity) (settings : Settings)
    (operations : List Operation) :
    let turns := transcript terminal identity settings operations
    (∀ earlier turn later, turns = earlier ++ turn :: later → turn.sendsChange = true →
      ∃ before get between change reading, earlier = before ++ get :: between ∧
        MadeWith identity.classByte settings.valuePolicy change reading get between turn ∧
        ∀ next other rest change' reading', later = next ++ other :: rest →
          ¬MadeWith identity.classByte settings.valuePolicy change' reading' get
            (between ++ turn :: next) other) ∧
      (history terminal identity settings operations).countP Entry.isAcceptedChange ≤ 1 ∧
      ∀ turn ∈ turns, ∀ change, turn.operation = .changeValue change → turn.phase ≠ .opened →
        turn.outcome = .ok .done → turn.IsSigned := by
  intro turns
  refine ⟨?_, countP_isAcceptedChange_history terminal identity settings operations, ?_⟩
  · intro earlier turn later split sending
    obtain ⟨before, get, between, change, reading, rfl, made, unused⟩ := exists_madeWith split sending
    refine ⟨before, get, between, change, reading, rfl, made, ?_⟩
    rintro next other rest change' reading' rfl again
    -- what the later change is made with is the last reading before it, which is the same one; so no
    -- change can have been sent in between, but `turn` sends one
    have split' : turns = before ++ get :: (between ++ turn :: next) ++ other :: rest := by
      rw [split]
      simp
    obtain ⟨_, _, between', _, _, same, made', unused'⟩ := exists_madeWith split' again.sends.sendsChange
    have same := eq_of_append_cons_eq same (p := fun turn => turn.reading? = none) again.last made'.last
      again.read.reading?_ne_none made'.read.reading?_ne_none
    have unsent := unused' turn (by simp [← same])
    rw [unsent] at sending
    cases sending
  · intro turn member change asked outside succeeded
    obtain ⟨earlier, later, split⟩ := List.append_of_mem member
    obtain ⟨_, _, made⟩ := valueTurn_of_transcript split
    exact made.isSigned asked outside succeeded

end Runs

/-- The run that debits a card sends a change, and so there is a reading that it was made with. -/
theorem run_storedValue_debitRun :
    ∃ earlier turn, transcript debitBench sampleCard {} debitRun = earlier ++ [turn] ∧
      turn.sendsChange = true ∧
      ∃ before get between change reading, earlier = before ++ get :: between ∧
        MadeWith sampleCard.classByte {} change reading get between turn := by
  obtain ⟨opening, get, turn, split, sending⟩ : ∃ opening get turn,
      transcript debitBench sampleCard {} debitRun = [opening, get] ++ [turn] ∧
        turn.sendsChange = true := ⟨_, _, _, rfl, rfl⟩
  obtain ⟨before, get', between, change, reading, same, made, -⟩ :=
    (run_storedValue debitBench sampleCard {} debitRun).1 _ turn [] split sending
  exact ⟨_, turn, split, sending, before, get', between, change, reading, same, made⟩

end FareTerminal.Session
