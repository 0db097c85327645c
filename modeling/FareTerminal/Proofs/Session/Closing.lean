import FareTerminal.Proofs.Session.CloseResponse
import FareTerminal.Proofs.Session.Lifecycle

/-! When a session is closed successfully. What the session remembers for its end is what the journal
says: whether the card rejected anything, and whether it owes a signature for a change. -/

namespace FareTerminal

/-- Whether a command, by its bytes, changes the stored value. -/
def changesValue : Bytes → Bool
  | _ :: ins :: _ => [0xB8, 0xBA, 0xBC].contains ins
  | _ => false

/-- Whether the card rejected a command of an open session. -/
def Entry.isRejection : Entry → Bool
  | ⟨.opened, .card _ (.ok response)⟩ => !response.isSuccess
  | _ => false

/-- Whether the card accepted a change of the stored value in an open session. -/
def Entry.isAcceptedChange : Entry → Bool
  | ⟨.opened, .card command (.ok response)⟩ => changesValue command && response.isSuccess
  | _ => false

namespace Session

variable {τ : Type} {asked : FileCommand → Prop}

theorem any_closed {p : Entry → Bool} (inner : ∀ event, p ⟨.closed, event⟩ = false)
    (events : List Event) : (events.map (⟨.closed, ·⟩)).any p = false := by
  simp [inner]

theorem any_isRejection_closed (events : List Event) :
    (events.map (⟨.closed, ·⟩)).any Entry.isRejection = false := any_closed (fun _ => rfl) events

theorem any_isAcceptedChange_closed (events : List Event) :
    (events.map (⟨.closed, ·⟩)).any Entry.isAcceptedChange = false :=
  any_closed (fun _ => rfl) events

theorem any_isRejection_digested {command : Apdu.Command} {events : List Event}
    {response : Apdu.Response} (h : Digested command events (.ok response)) :
    (events.map (⟨.opened, ·⟩)).any Entry.isRejection = !response.isSuccess := by
  cases h
  simp [Entry.isRejection]

theorem any_isAcceptedChange_digested {command : Apdu.Command} {events : List Event}
    {response : Apdu.Response} (h : Digested command events (.ok response)) :
    (events.map (⟨.opened, ·⟩)).any Entry.isAcceptedChange =
      (changesValue command.toBytes && response.isSuccess) := by
  cases h
  simp [Entry.isAcceptedChange]

theorem changesValue_toCommand (cla : UInt8) (command : FileCommand) :
    changesValue (command.toCommand cla).toBytes = false := by
  cases command <;> rfl

theorem changesValue_changeCommand (cla : UInt8) (change : StoredValue.Change) (kvc : UInt8)
    (complement : Bytes) : changesValue (changeCommand cla change kvc complement).toBytes = true := by
  cases change <;> rfl

/-- After an exchange that leaves the session open there is a failure if there was one before, or if
the card has rejected the command. -/
theorem State.isSome_lastError_settle {α : Type} {state : State} {kind : Card.CommandKind}
    {read : Apdu.Response → Except SessionError α} {response : Apdu.Response}
    (opened : state.phase = .opened) (still : (state.settle kind read (.ok response)).phase = .opened) :
    (state.settle kind read (.ok response)).lastError.isSome =
      (state.lastError.isSome || !response.isSuccess) := by
  unfold settle at still ⊢
  rw [if_pos opened] at still ⊢
  cases success : response.isSuccess with
  | false => simp [success, reject, opened, noteError]
  | true =>
    simp only [success, if_true] at still ⊢
    split
    · simp
    · rename_i failed
      rw [failed] at still
      simp at still

/-- The session has a failure noted exactly if the card has rejected something, and waits for a
signature exactly if the card has accepted a change. -/
def Remembers (state : State) (pending : Bool) (entries : List Entry) : Prop :=
  state.phase.isTerminated = false →
    state.lastError.isSome = entries.any Entry.isRejection ∧
      pending = entries.any Entry.isAcceptedChange

theorem Remembers.closed {state state' : State} {pending : Bool} {entries : List Entry}
    (h : Remembers state pending entries) (outside : state.phase = .closed) (events : List Event)
    (kept : state'.lastError = state.lastError) :
    Remembers state' pending (entries ++ events.map (⟨.closed, ·⟩)) := by
  intro _
  obtain ⟨noted, owed⟩ := h (by rw [outside]; rfl)
  rw [List.any_append, List.any_append, any_isRejection_closed, any_isAcceptedChange_closed,
    Bool.or_false, Bool.or_false, kept]
  exact ⟨noted, owed⟩

theorem Remembers.consulted {state : State} {pending : Bool} {entries : List Entry}
    (h : Remembers state pending entries) (phase : Phase) (call : Sam.Call)
    (answer : Except SessionError call.Answer) :
    Remembers state pending (entries ++ [⟨phase, .sam call answer⟩]) := by
  intro active
  obtain ⟨noted, owed⟩ := h active
  cases phase <;> simp [Entry.isRejection, Entry.isAcceptedChange, noted, owed]

theorem remembers_of_terminated {state : State} (ended : state.phase.isTerminated = true)
    (pending : Bool) (entries : List Entry) : Remembers state pending entries := by
  intro active
  rw [ended] at active
  cases active

/-- An exchange within the session is remembered, whatever comes of it. -/
theorem Remembers.settled {α : Type} {state : State} {pending pending' : Bool}
    {entries : List Entry} (h : Remembers state pending entries)
    (opened : state.phase = .opened) {command : Apdu.Command} {events : List Event}
    {outcome : Except SessionError Apdu.Response} {kind : Card.CommandKind}
    {read : Apdu.Response → Except SessionError α} (digested : Digested command events outcome)
    (waits : ∀ response, outcome = .ok response →
      pending' = (pending || (changesValue command.toBytes && response.isSuccess))) :
    Remembers (state.settle kind read outcome) pending'
      (entries ++ events.map (⟨.opened, ·⟩)) := by
  cases still : (state.settle kind read outcome).phase with
  | closed =>
    have closed := State.closed_of_settle still
    rw [opened] at closed
    cases closed
  | terminated result => exact remembers_of_terminated (by rw [still]; rfl) _ _
  | opened =>
    obtain ⟨_, response, rfl⟩ := State.opened_of_settle still
    intro _
    obtain ⟨failed, owed⟩ := h (by rw [opened]; rfl)
    rw [List.any_append, List.any_append, any_isRejection_digested digested,
      any_isAcceptedChange_digested digested, ← failed, ← owed]
    exact ⟨State.isSome_lastError_settle opened still, waits response rfl⟩

theorem Remembers.delivered {α : Type} {state : State} {pending pending' : Bool}
    {entries : List Entry} (h : Remembers state pending entries) (kind : Card.CommandKind)
    (read : Apdu.Response → Except SessionError α) {command : Apdu.Command} {events : List Event}
    {outcome : Except SessionError Apdu.Response}
    (delivered : Delivered command state.phase events outcome)
    (inside : state.phase = .opened → ∀ response, outcome = .ok response →
      pending' = (pending || (changesValue command.toBytes && response.isSuccess)))
    (outside : state.phase = .closed → pending' = pending) :
    Remembers (state.settle kind read outcome) pending'
      (entries ++ events.map (⟨state.phase, ·⟩)) := by
  generalize phase : state.phase = present at delivered
  cases delivered with
  | inside digested => exact h.settled phase digested (inside phase)
  | outside answer =>
    rw [State.settle_of_closed phase, outside phase]
    exact h.closed phase _ rfl

/-- If a change cannot be prepared, there is nothing to remember. -/
theorem Remembers.unprepared {α : Type} {state : State} {pending : Bool} {entries : List Entry}
    (h : Remembers state pending entries) (active : state.phase.isTerminated = false)
    (kind : Card.CommandKind) (read : Apdu.Response → Except SessionError α) (call : Sam.Call)
    (error : SessionError) (answer : Except SessionError call.Answer) :
    Remembers (state.settle kind read (.error error)) pending
      (entries ++ [⟨state.phase, .sam call answer⟩]) := by
  by_cases opened : state.phase = .opened
  · refine remembers_of_terminated ?_ _ _
    simp [State.settle, opened, Phase.isTerminated]
  · rw [State.settle_of_closed (Phase.eq_closed active opened)]
    exact h.consulted _ _ _

abbrev Course.Remembers (c : Course) : Prop :=
  Session.Remembers c.state c.signaturePending c.entries

theorem Course.Step.remembers {c c' : Course} (h : Step asked c c') (before : c.Remembers) :
    c'.Remembers := by
  cases h with
  | openingFailed closed negotiated => exact remembers_of_terminated rfl _ _
  | opened closed negotiated =>
    change Session.Remembers _ _ (_ ++ _)
    rw [closed]
    exact before.closed closed _ rfl
  | commandSent opened member addressed charged digested =>
    rename_i command budget events outcome
    have before : Session.Remembers { c.state with budget } c.signaturePending c.entries := before
    change Session.Remembers _ _ (_ ++ _)
    rw [opened]
    refine before.settled opened digested fun response _ => ?_
    rw [changesValue_toCommand, Bool.false_and, Bool.or_false]
    rfl
  | valueAsked active available delivered =>
    exact before.delivered _ _ delivered (fun _ _ _ => (Bool.or_false _).symm) fun _ => rfl
  | valueRead active available delivered success read logs =>
    rename_i operation events response reading kept
    have asked := before.delivered .storedValueGet
      (readReading operation (readingCommand c.identity.classByte operation)) delivered
      (fun _ _ _ => (Bool.or_false _).symm) fun _ => rfl
    rw [State.settle_of_read _ _ success read] at asked
    exact asked
  | valueChanged active available free usable changing unfinished =>
    rename_i change reading events outcome
    rw [Course.Remembers, free] at before
    cases changing with
    | unprepared error =>
      exact before.unprepared active (.storedValueChange change.action) Except.ok _ error _
    | prepared complement delivered =>
      change Session.Remembers _ _ (_ ++ (_ :: _))
      rw [List.append_cons]
      refine (before.consulted _ _ _).delivered (.storedValueChange change.action) Except.ok
        delivered ?_ ?_
      · rintro _ response rfl
        rw [changesValue_changeCommand]
        rfl
      · intro closed
        refine (unfinished.resolve_left ?_)
        rw [closed]
        nofun
  | valueChangedOutside closed available free usable changing success answer =>
    change Session.Remembers _ _ (_ ++ _)
    rw [closed]
    exact before.closed closed _ rfl
  | closingFailed pending opened closing failed => exact remembers_of_terminated rfl _ _
  | closed pending opened closing faultless => exact remembers_of_terminated rfl _ _

theorem Course.Steps.remembers {c c' : Course} (h : Steps asked c c') (before : c.Remembers) :
    c'.Remembers :=
  kept_of_reflTransGen h before fun _ _ step => step.remembers

/-- What a session waits for at its end is what its journal says. -/
theorem remembers_run [Terminal τ] (terminal : τ) (identity : Card.Identity) (settings : Settings)
    (operations : List Operation) :
    let session := run (new terminal identity settings) operations
    Remembers session.state session.signaturePending
      (history terminal identity settings operations) := by
  intro session
  have steps : Course.Steps (fun _ => True) _ _ :=
    steps_history terminal identity settings operations (by simp)
  have remembers := steps.remembers fun _ => ⟨rfl, rfl⟩
  rw [show session = _ from run_eq_erase terminal identity settings operations]
  exact remembers

section Bench

variable {ρ σ : Type} [Reader ρ] [SecurityModule σ]

theorem ensures_consult_bench (call : Sam.Call) (session : Session (Bench ρ σ))
    {post : Postcondition (Bench ρ σ) call.Answer}
    (answered : ∀ answer sam, SecurityModule.consult call session.terminal.sam = .ok answer sam →
      post (.ok answer) { session with terminal := { session.terminal with sam } })
    (failed : ∀ error sam, SecurityModule.consult call session.terminal.sam = .error error sam →
      post (.error error) { session with terminal := { session.terminal with sam } }) :
    Ensures (consult call) session post := by
  change Ensures (onTerminal id (Bench.onSam (SecurityModule.consult call))) session post
  unfold Ensures EStateM.run onTerminal Bench.onSam
  cases answer : SecurityModule.consult call session.terminal.sam with
  | ok answer' sam => exact answered _ _ answer
  | error error sam => exact failed _ _ answer

theorem ensures_exchange_bench (command : Apdu.Command) (session : Session (Bench ρ σ))
    {post : Postcondition (Bench ρ σ) Apdu.Response}
    (answered : ∀ response card,
      Reader.transmit command.toBytes session.terminal.card = .ok response card →
      post (.ok response) { session with terminal := { session.terminal with card } })
    (failed : ∀ error card,
      Reader.transmit command.toBytes session.terminal.card = .error error card →
      post (.error (.reader error)) { session with terminal := { session.terminal with card } }) :
    Ensures (exchange command) session post := by
  change Ensures (onTerminal _ (Bench.onCard (Reader.transmit command.toBytes))) session post
  unfold Ensures EStateM.run onTerminal Bench.onCard
  cases answer : Reader.transmit command.toBytes session.terminal.card with
  | ok response card => exact answered _ _ answer
  | error error card => exact failed _ _ answer

/-- Ratification leaves its mark on the reader only. -/
theorem ensures_ratify_bench (ratification : Ratification) (session : Session (Bench ρ σ))
    {post : Postcondition (Bench ρ σ) Unit}
    (h : ∀ card, post (.ok ()) { session with terminal := { session.terminal with card } }) :
    Ensures (ratify ratification) session post := by
  cases ratification with
  | implicit => exact h session.terminal.card
  | explicit =>
    simp only [ratify, if_pos, ensures_tryCatch, ensures_bind, ensures_get, andThen_ok]
    apply ensures_exchange_bench
    · exact fun _ card _ => h card
    · exact fun _ card _ => h card

/-- How the card answers the closing, for each signature of the terminal. -/
def closeAnswer (card : ρ) (cla : UInt8) (ratification : Ratification) (mac : Bytes) :
    Except ReaderError Apdu.Response :=
  match Reader.transmit (Apdu.Command.closeSession cla (ratification == .explicit) mac).toBytes
    card with
  | .ok response _ => .ok response
  | .error error _ => .error error

/-- What the security module says of the signature that is owed, if one is. -/
def owedVerdict (sam : σ) (pending : Bool) (postponed : List Bytes) : Except SessionError Unit :=
  match pending, postponed with
  | false, _ => .ok ()
  | true, [] => .error (.malformed .signatureMissing)
  | true, signature :: _ =>
    match SecurityModule.consult (.checkChange signature) sam with
    | .ok true _ => .ok ()
    | .ok false _ => .error .signatureRejected
    | .error error _ => .error error

/-- What a closing comes to, given how the card answers it. -/
def verdict (sam : σ) (close : Bytes → Except ReaderError Apdu.Response) (pending : Bool)
    (state : State) : Except SessionError Unit :=
  match SecurityModule.consult .finalizeDigest sam with
  | .error error _ => .error error
  | .ok mac sam =>
    match close mac with
    | .error error => .error (.reader error)
    | .ok response =>
      match readClosing response with
      | .error error => .error error
      | .ok closing =>
        match SecurityModule.consult (.verifyMac closing.signature) sam with
        | .error error _ => .error error
        | .ok false _ => .error .macNotVerified
        | .ok true sam => (owedVerdict sam pending closing.postponed).bind fun _ => state.conclusion

/-- The state in which a closing leaves a session. -/
def State.closedBy (state : State) : Except SessionError Unit → State
  | .ok _ => { state with phase := .terminated .success }
  | .error error => state.fail error

theorem ensures_checkOwed_bench (postponed : List Bytes) (session : Session (Bench ρ σ))
    {post : Postcondition (Bench ρ σ) Unit}
    (h : ∀ terminal pending,
      post (owedVerdict session.terminal.sam session.signaturePending postponed)
        { session with terminal, signaturePending := pending }) :
    Ensures (checkOwed postponed) session post := by
  simp only [checkOwed, ensures_bind, ensures_get, andThen_ok]
  cases pending : session.signaturePending with
  | false =>
    have nothing : owedVerdict session.terminal.sam session.signaturePending postponed = .ok () := by
      rw [pending]
      rfl
    have h := h session.terminal session.signaturePending
    rw [nothing] at h
    exact h
  | true =>
    rw [pending] at h
    simp only [if_true, ensures_bind, ensures_modify, andThen_ok]
    cases postponed with
    | nil => exact h _ _
    | cons signature rest =>
      simp only [checkPostponed, ensures_bind]
      apply ensures_consult_bench
      · intro accepted sam checked
        simp only [owedVerdict, checked] at h
        rw [andThen_ok, ensures_require]
        cases accepted <;> exact h _ _
      · intro error sam checked
        simp only [owedVerdict, checked] at h
        exact h _ _

/-- A closing comes to its verdict, and whatever the ratification is answered with plays no part. -/
theorem ensures_closeSession (ratification : Ratification) (session : Session (Bench ρ σ))
    (opened : session.state.phase = .opened) :
    Ensures (closeSession ratification) session fun outcome after =>
      outcome = verdict session.terminal.sam
          (closeAnswer session.terminal.card session.identity.classByte ratification)
          session.signaturePending session.state ∧
        after.state = session.state.closedBy outcome := by
  rw [closeSession, ensures_bind]
  apply ensures_requirePhase
  case failed => exact fun other => absurd opened other
  intro _
  simp only [andThen_ok, ensures_bind, ensures_orAbort, concludeSession, ensures_get]
  unfold verdict
  apply ensures_consult_bench
  case failed =>
    intro error sam finalized
    simp only [finalized]
    exact ⟨rfl, rfl⟩
  intro mac sam finalized
  simp only [finalized, andThen_ok, ensures_bind]
  apply ensures_exchange_bench
  case failed =>
    intro error card answered
    simp only [closeAnswer, answered]
    exact ⟨rfl, rfl⟩
  intro response card answered
  simp only [closeAnswer, answered, andThen_ok, ensures_bind, ensures_ofExcept]
  cases read : readClosing response with
  | error error => exact ⟨rfl, rfl⟩
  | ok closing =>
  simp only [andThen_ok, ensures_bind]
  apply ensures_ratify_bench
  intro card'
  simp only [andThen_ok, ensures_bind]
  apply ensures_consult_bench
  case failed =>
    intro error sam verified
    simp only [verified]
    exact ⟨rfl, rfl⟩
  intro accepted sam verified
  simp only [verified, andThen_ok, ensures_bind, ensures_require]
  cases accepted with
  | false => exact ⟨rfl, rfl⟩
  | true =>
    simp only [if_true, andThen_ok, ensures_bind]
    apply ensures_checkOwed_bench
    intro terminal pending
    cases owed : owedVerdict sam session.signaturePending closing.postponed with
    | error error => exact ⟨rfl, rfl⟩
    | ok _ =>
      simp only [andThen_ok, ensures_requireFaultless, Except.bind]
      cases session.state.conclusion <;> exact ⟨rfl, rfl⟩

theorem owedVerdict_eq_ok_iff {sam : σ} {pending : Bool} {postponed : List Bytes} :
    owedVerdict sam pending postponed = .ok () ↔
      (pending = true → ∃ signature rest sam', postponed = signature :: rest ∧
        SecurityModule.consult (.checkChange signature) sam = .ok true sam') := by
  unfold owedVerdict
  cases pending with
  | false => simp
  | true =>
    cases postponed with
    | nil => simp
    | cons signature rest =>
      cases checked : SecurityModule.consult (.checkChange signature) sam with
      | error error sam' => simp [checked]
      | ok accepted sam' => cases accepted <;> simp [checked]

theorem State.conclusion_eq_ok_iff {state : State} :
    state.conclusion = .ok () ↔ state.lastError.isSome = false := by
  unfold conclusion
  cases state.lastError <;> simp

/-- A closing is successful exactly if both sides vouch for the session and nothing went wrong. -/
theorem verdict_eq_ok_iff {sam : σ} {close : Bytes → Except ReaderError Apdu.Response}
    {pending : Bool} {state : State} :
    verdict sam close pending state = .ok () ↔ ∃ mac sam₁ response closing sam₂,
      SecurityModule.consult .finalizeDigest sam = .ok mac sam₁ ∧
      close mac = .ok response ∧
      readClosing response = .ok closing ∧
      SecurityModule.consult (.verifyMac closing.signature) sam₁ = .ok true sam₂ ∧
      owedVerdict sam₂ pending closing.postponed = .ok () ∧ state.conclusion = .ok () := by
  unfold verdict
  constructor
  · intro h
    split at h
    · cases h
    · rename_i mac sam₁ finalized
      split at h
      · cases h
      · rename_i response answered
        split at h
        · cases h
        · rename_i closing read
          split at h
          · cases h
          · cases h
          · rename_i sam₂ verified
            refine ⟨mac, sam₁, response, closing, sam₂, finalized, answered, read, verified, ?_⟩
            cases owed : owedVerdict sam₂ pending closing.postponed with
            | error error =>
              rw [owed] at h
              cases h
            | ok _ =>
              rw [owed] at h
              exact ⟨rfl, h⟩
  · rintro ⟨mac, sam₁, response, closing, sam₂, finalized, answered, read, verified, owed,
      faultless⟩
    simp only [finalized, answered, read, verified, owed]
    exact faultless

/-- What has to be answered for a session to end well: the security module signs the digest, the card
accepts the signature and answers with items and a signature of its own, which the security module
verifies; so it does with the first item if the card has accepted a change of the stored value; and
the card has rejected nothing. -/
def Vouched (bench : Bench ρ σ) (cla : UInt8) (ratification : Ratification)
    (entries : List Entry) : Prop :=
  ∃ mac sam₁ response card items signature sam₂,
    SecurityModule.consult .finalizeDigest bench.sam = .ok mac sam₁ ∧
    Reader.transmit (Apdu.Command.closeSession cla (ratification == .explicit) mac).toBytes
      bench.card = .ok response card ∧
    response.isSuccess = true ∧
    response.data = CloseResponse.encodeItems items ++ signature ∧
    signature.length = CloseResponse.signatureLength ∧ (∀ item ∈ items, item.length ≤ 255) ∧
    SecurityModule.consult (.verifyMac signature) sam₁ = .ok true sam₂ ∧
    (entries.any Entry.isAcceptedChange = true → ∃ first rest sam₃, items = first :: rest ∧
      SecurityModule.consult (.checkChange first) sam₂ = .ok true sam₃) ∧
    entries.any Entry.isRejection = false

theorem closeAnswer_eq_ok_iff {card : ρ} {cla : UInt8} {ratification : Ratification} {mac : Bytes}
    {response : Apdu.Response} :
    closeAnswer card cla ratification mac = .ok response ↔ ∃ card',
      Reader.transmit (Apdu.Command.closeSession cla (ratification == .explicit) mac).toBytes card =
        .ok response card' := by
  unfold closeAnswer
  cases Reader.transmit (Apdu.Command.closeSession cla (ratification == .explicit) mac).toBytes
    card <;> simp

theorem vouched_iff (bench : Bench ρ σ) (cla : UInt8) (ratification : Ratification)
    {entries : List Entry} {state : State} {pending : Bool} (opened : state.phase = .opened)
    (remembers : Remembers state pending entries) :
    Vouched bench cla ratification entries ↔
      verdict bench.sam (closeAnswer bench.card cla ratification) pending state = .ok () := by
  obtain ⟨noted, owed⟩ := remembers (by rw [opened]; rfl)
  rw [verdict_eq_ok_iff]
  constructor
  · rintro ⟨mac, sam₁, response, card, items, signature, sam₂, finalized, answered, success, laid,
      signed, short, verified, checked, faultless⟩
    refine ⟨mac, sam₁, response, ⟨items, signature⟩, sam₂, finalized, ?_, ?_, verified, ?_, ?_⟩
    · exact closeAnswer_eq_ok_iff.mpr ⟨card, answered⟩
    · exact readClosing_eq_ok_iff.mpr ⟨success, laid, signed, short⟩
    · exact owedVerdict_eq_ok_iff.mpr (owed ▸ checked)
    · exact State.conclusion_eq_ok_iff.mpr (noted.trans faultless)
  · rintro ⟨mac, sam₁, response, ⟨items, signature⟩, sam₂, finalized, answered, read, verified,
      checked, faultless⟩
    obtain ⟨card, answered⟩ := closeAnswer_eq_ok_iff.mp answered
    obtain ⟨success, laid, signed, short⟩ := readClosing_eq_ok_iff.mp read
    exact ⟨mac, sam₁, response, card, items, signature, sam₂, finalized, answered, success, laid,
      signed, short, verified, owed ▸ owedVerdict_eq_ok_iff.mp checked,
      noted.symm.trans (State.conclusion_eq_ok_iff.mp faultless)⟩

/-- What a computation returns, and the state in which it leaves the session. -/
def endOf {α : Type} :
    EStateM.Result SessionError (Session τ) α → Except SessionError α × State
  | .ok a after => (.ok a, after.state)
  | .error error after => (.error error, after.state)

theorem endOf_eq_ok {α : Type} {result : EStateM.Result SessionError (Session τ) α} {a : α}
    {state : State} (h : endOf result = (.ok a, state)) :
    ∃ after, result = .ok a after ∧ after.state = state := by
  cases result with
  | ok a after =>
    cases h
    exact ⟨after, rfl, rfl⟩
  | error error after => cases h

theorem endOf_eq_error {α : Type} {result : EStateM.Result SessionError (Session τ) α}
    {error : SessionError} {state : State} (h : endOf result = (.error error, state)) :
    ∃ after, result = .error error after ∧ after.state = state := by
  cases result with
  | ok a after => cases h
  | error error after =>
    cases h
    exact ⟨after, rfl, rfl⟩

theorem endOf_closeSession (ratification : Ratification) (session : Session (Bench ρ σ))
    {identity : Card.Identity} (card : session.identity = identity)
    (opened : session.state.phase = .opened) :
    let outcome := verdict session.terminal.sam
      (closeAnswer session.terminal.card identity.classByte ratification)
      session.signaturePending session.state
    endOf ((closeSession ratification).run session) = (outcome, session.state.closedBy outcome) := by
  subst card
  have ends := ensures_closeSession ratification session opened
  unfold Ensures at ends
  cases run : (closeSession ratification).run session with
  | ok _ after =>
    rw [run] at ends
    obtain ⟨outcome, state⟩ := ends
    rw [← outcome, endOf, state]
  | error error after =>
    rw [run] at ends
    obtain ⟨outcome, state⟩ := ends
    rw [← outcome, endOf, state]

/-- An open session, however it got there, is closed successfully exactly if it is vouched for, and
fails otherwise. The reader may be exchanged for any that answers the closing alike: what it makes of
the ratification is of no account. -/
theorem closeSession_succeeds_iff (bench : Bench ρ σ) (identity : Card.Identity)
    (settings : Settings) (operations : List Operation) (ratification : Ratification)
    (opened : (run (new bench identity settings) operations).state.phase = .opened) :
    let session := run (new bench identity settings) operations
    let vouched := Vouched session.terminal identity.classByte ratification
      (history bench identity settings operations)
    ((∃ after, (closeSession ratification).run session = .ok () after ∧
        after.state.phase = .terminated .success) ↔ vouched) ∧
      (¬vouched → ∃ error after, (closeSession ratification).run session = .error error after ∧
        after.state.phase = .terminated .failure) ∧
      ∀ (ρ' : Type) [Reader ρ'] (card : ρ'),
        closeAnswer card identity.classByte ratification =
          closeAnswer session.terminal.card identity.classByte ratification →
        endOf ((closeSession ratification).run
            { session with terminal := (⟨card, session.terminal.sam⟩ : Bench ρ' σ) }) =
          endOf ((closeSession ratification).run session) := by
  intro session vouched
  have opened : session.state.phase = .opened := opened
  have card : session.identity = identity := identity_run bench identity settings operations
  have remembers : Remembers session.state session.signaturePending _ :=
    remembers_run bench identity settings operations
  have ends := endOf_closeSession ratification session card opened
  have vouching := vouched_iff session.terminal identity.classByte ratification opened remembers
  refine ⟨⟨?_, ?_⟩, ?_, ?_⟩
  · rintro ⟨after, closed, _⟩
    rw [closed] at ends
    exact vouching.mpr (congrArg Prod.fst ends).symm
  · intro vouched
    simp only [vouching.mp vouched] at ends
    obtain ⟨after, closed, state⟩ := endOf_eq_ok ends
    exact ⟨after, closed, by rw [state]; rfl⟩
  · intro doubted
    cases outcome : verdict session.terminal.sam
        (closeAnswer session.terminal.card identity.classByte ratification)
        session.signaturePending session.state with
    | ok _ => exact absurd (vouching.mpr outcome) doubted
    | error error =>
      simp only [outcome] at ends
      obtain ⟨after, failed, state⟩ := endOf_eq_error ends
      exact ⟨error, after, failed, by rw [state]; rfl⟩
  · intro ρ' _ other alike
    have ends' := endOf_closeSession ratification
      { session with terminal := (⟨other, session.terminal.sam⟩ : Bench ρ' σ) } card opened
    rw [ends, ends', alike]

end Bench

theorem closeSession_debitRun :
    (run (new debitBench sampleCard {}) debitRun).state.phase = .opened ∧
      ∃ after, (closeSession .explicit).run (run (new debitBench sampleCard {}) debitRun) =
        .ok () after ∧ after.state.phase = .terminated .success := by
  have opened : (run (new debitBench sampleCard {}) debitRun).state.phase = .opened := rfl
  have closing := closeSession_succeeds_iff debitBench sampleCard {} debitRun .explicit opened
  refine ⟨opened, closing.1.mpr ?_⟩
  exact ⟨[5, 6, 7, 8], _, ⟨[3, 0xA, 0xB, 0xC, 1, 2, 3, 4], .success⟩, _, [[0xA, 0xB, 0xC]],
    [1, 2, 3, 4], _, rfl, rfl, rfl, rfl, rfl, by decide, rfl, fun _ => ⟨_, _, _, rfl, rfl⟩,
    by decide⟩

end Session

end FareTerminal
