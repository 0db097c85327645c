import FareTerminal.Proofs.Session.Lifecycle

/-! What the digest covers. Wherever it is finalized, it was begun with the card's response to the
opening, and it contains what has gone to the card and back since then, each exchange once. -/

namespace FareTerminal

/-- The question, if it was one. -/
def Event.call? : Event → Option Sam.Call
  | .card .. => none
  | .sam call _ => some call

/-- The command and its response, if it was a command and the card answered. -/
def Event.exchange? : Event → Option (Bytes × Apdu.Response)
  | .card command (.ok response) => some (command, response)
  | .card _ (.error _) | .sam .. => none

/-- Whether there was an answer. -/
def Event.isAnswered : Event → Bool
  | .card _ answer => answer.isOk
  | .sam _ answer => answer.isOk

/-- Whether the question prepares a change of the stored value. -/
def Sam.Call.isPreparation : Sam.Call → Bool
  | prepareChange .. => true
  | selectDiversifier _ | getChallenge | beginDigest .. | updateDigest .. | finalizeDigest
  | verifyMac _ | checkChange _ => false

/-- Whether the question begins the digest or ends it. -/
def Sam.Call.delimits : Sam.Call → Bool
  | beginDigest .. | finalizeDigest => true
  | selectDiversifier _ | getChallenge | updateDigest .. | verifyMac _ | prepareChange ..
  | checkChange _ => false

namespace Session

variable {τ : Type} {asked : FileCommand → Prop}

/-- The questions to the security module, in order. -/
def calls (entries : List Entry) : List Sam.Call := entries.filterMap (·.event.call?)

/-- The exchanges with the card, in order. -/
def exchanges (entries : List Entry) : List (Bytes × Apdu.Response) :=
  entries.filterMap (·.event.exchange?)

/-- The bytes that a response comes in, those of its status last. -/
def responseBytes (response : Apdu.Response) : Bytes :=
  response.data ++ [UInt8.ofNat (response.status.toNat / 256), UInt8.ofNat (response.status.toNat % 256)]

/-- Everything was answered, and but for the preparation of changes the security module was asked
to digest each exchange, once and in order, and nothing else. -/
def Lockstep (entries : List Entry) : Prop :=
  (∀ entry ∈ entries, entry.event.isAnswered = true) ∧
    (calls entries).filter (!·.isPreparation) =
      (exchanges entries).map fun (command, response) =>
        .updateDigest command (responseBytes response)

theorem toBytes_eq_responseBytes (response : Apdu.Response) :
    response.toBytes = responseBytes response := by
  have low : UInt8.ofNat (response.status.toNat % 256) = UInt8.ofNat response.status.toNat :=
    UInt8.toNat_inj.mp (by simp)
  rw [responseBytes, low]
  rfl

theorem Lockstep.filter_calls_eq {entries : List Entry} (h : Lockstep entries) :
    (calls entries).filter (!·.isPreparation) =
      (exchanges entries).map fun (command, response) =>
        .updateDigest command response.toBytes := by
  simp only [toBytes_eq_responseBytes]
  exact h.2

theorem lockstep_nil : Lockstep [] := by simp [Lockstep, calls, exchanges]

theorem Lockstep.append {entries more : List Entry} (h : Lockstep entries) (h' : Lockstep more) :
    Lockstep (entries ++ more) := by
  obtain ⟨answered, digested⟩ := h
  obtain ⟨answered', digested'⟩ := h'
  refine ⟨?_, ?_⟩
  · intro entry member
    rcases List.mem_append.mp member with member | member
    · exact answered entry member
    · exact answered' entry member
  · unfold calls exchanges at digested digested' ⊢
    rw [List.filterMap_append, List.filter_append, digested, digested', List.filterMap_append,
      List.map_append]

/-- The exchange and the question that open a session. -/
def openingEntries (identity : Card.Identity) (level : AccessLevel) (address : RecordAddress)
    (challenge : Bytes) (response : Apdu.Response) (kif : Option UInt8) (kvc : UInt8) : List Entry :=
  [⟨.closed, .card (openingCommand identity level address challenge).toBytes (.ok response)⟩,
    ⟨.closed, .sam (.beginDigest response.data kif kvc level) (.ok ())⟩]

/-- The digest was begun once, with the data of the response to the opening, and the security module
has been told of the card ever since. -/
def Covers (identity : Card.Identity) (entries : List Entry) : Prop :=
  ∃ earlier session level address challenge response kif kvc,
    entries = earlier ++ openingEntries identity level address challenge response kif kvc ++
        session ∧
      (∀ call ∈ calls earlier, call.delimits = false) ∧ Lockstep session

theorem Covers.append {identity : Card.Identity} {entries more : List Entry}
    (h : Covers identity entries) (lockstep : Lockstep more) : Covers identity (entries ++ more) := by
  obtain ⟨earlier, session, level, address, challenge, response, kif, kvc, rfl, outside, inside⟩ := h
  exact ⟨earlier, session ++ more, level, address, challenge, response, kif, kvc,
    by rw [List.append_assoc], outside, inside.append lockstep⟩

/-- When the security module may be asked about the digest. -/
def DigestRule (identity : Card.Identity) (before : List Entry) (entry : Entry) : Prop :=
  match entry.event.call? with
  | some (.beginDigest data _ _ level) =>
    ∃ earlier address challenge, ∃ response : Apdu.Response,
      before = earlier ++
          [⟨.closed, .card (openingCommand identity level address challenge).toBytes (.ok response)⟩] ∧
        data = response.data
  | some (.updateDigest ..) => entry.phase = .opened
  | some .finalizeDigest => Covers identity before
  | some _ | none => True

/-- Each entry keeps the rule, given what came before it. -/
def KeepsRule (identity : Card.Identity) : List Entry → List Entry → Prop
  | _, [] => True
  | before, entry :: rest =>
    DigestRule identity before entry ∧ KeepsRule identity (before ++ [entry]) rest

theorem keepsRule_append (identity : Card.Identity) (before entries more : List Entry) :
    KeepsRule identity before (entries ++ more) ↔
      KeepsRule identity before entries ∧ KeepsRule identity (before ++ entries) more := by
  induction entries generalizing before with
  | nil => simp [KeepsRule]
  | cons entry rest ih => simp [KeepsRule, ih, and_assoc]

theorem KeepsRule.at {identity : Card.Identity} {entries before after : List Entry} {entry : Entry}
    (h : KeepsRule identity [] entries) (split : entries = before ++ entry :: after) :
    DigestRule identity before entry := by
  rw [split, keepsRule_append] at h
  exact h.2.1

/-- The events neither begin nor end a digest, and continue one only in an open session. -/
def Plain (phase : Phase) (events : List Event) : Prop :=
  ∀ event ∈ events, ∀ call, event.call? = some call →
    call.delimits = false ∧
      ((∃ command response, call = .updateDigest command response) → phase = .opened)

theorem plain_of_digested {command : Apdu.Command} {events : List Event}
    {outcome : Except SessionError Apdu.Response} (h : Digested command events outcome) :
    Plain .opened events := by
  cases h <;> simp [Plain, Event.call?, Sam.Call.delimits]

theorem plain_of_delivered {command : Apdu.Command} {phase : Phase} {events : List Event}
    {outcome : Except SessionError Apdu.Response} (h : Delivered command phase events outcome) :
    Plain phase events := by
  cases h with
  | inside digested => exact plain_of_digested digested
  | outside answer => simp [Plain, Event.call?]

theorem plain_of_changing {cla : UInt8} {change : StoredValue.Change}
    {reading : StoredValue.Reading} {phase : Phase} {events : List Event}
    {outcome : Except SessionError Apdu.Response}
    (h : Changing cla change reading phase events outcome) : Plain phase events := by
  cases h with
  | unprepared error => simp [Plain, Event.call?, Sam.Call.delimits]
  | prepared complement delivered =>
    intro event member
    rcases List.mem_cons.mp member with rfl | member
    · simp [Event.call?, Sam.Call.delimits]
    · exact plain_of_delivered delivered event member

theorem lockstep_of_digested {command : Apdu.Command} {events : List Event}
    {response : Apdu.Response} (h : Digested command events (.ok response)) :
    Lockstep (events.map (⟨.opened, ·⟩)) := by
  cases h
  simp [Lockstep, calls, exchanges, Event.call?, Event.exchange?, Event.isAnswered,
    Sam.Call.isPreparation, Except.isOk, Except.toBool, toBytes_eq_responseBytes]

theorem lockstep_of_delivered {command : Apdu.Command} {events : List Event}
    {response : Apdu.Response} (h : Delivered command .opened events (.ok response)) :
    Lockstep (events.map (⟨.opened, ·⟩)) := by
  cases h with
  | inside digested => exact lockstep_of_digested digested

theorem lockstep_of_changing {cla : UInt8} {change : StoredValue.Change}
    {reading : StoredValue.Reading} {events : List Event} {response : Apdu.Response}
    (h : Changing cla change reading .opened events (.ok response)) :
    Lockstep (events.map (⟨.opened, ·⟩)) := by
  cases h with
  | prepared complement delivered =>
    have prepared : Lockstep [⟨.opened, .sam (.prepareChange change.action reading.command
        reading.response (change.data reading.kvc)) (.ok complement)⟩] := by
      simp [Lockstep, calls, exchanges, Event.call?, Event.exchange?, Event.isAnswered,
        Sam.Call.isPreparation, Except.isOk, Except.toBool]
    exact prepared.append (lockstep_of_delivered delivered)

theorem keepsRule_of_plain (identity : Card.Identity) {phase : Phase} {events : List Event}
    (before : List Entry) (h : Plain phase events) :
    KeepsRule identity before (events.map (⟨phase, ·⟩)) := by
  induction events generalizing before with
  | nil => trivial
  | cons event rest ih =>
    refine ⟨?_, ih _ fun other member => h other (by simp [member])⟩
    have plain := h event (by simp)
    unfold DigestRule
    cases asked : event.call? with
    | none => trivial
    | some call =>
      obtain ⟨inner, opened⟩ := plain call asked
      cases call with
      | beginDigest data kif kvc level => simp [Sam.Call.delimits] at inner
      | finalizeDigest => simp [Sam.Call.delimits] at inner
      | updateDigest command response => exact opened ⟨command, response, rfl⟩
      | selectDiversifier serial => trivial
      | getChallenge => trivial
      | verifyMac signature => trivial
      | prepareChange action command response data => trivial
      | checkChange signature => trivial

/-- What is known of the entries in each phase. -/
structure Digesting (identity : Card.Identity) (phase : Phase) (entries : List Entry) : Prop where
  kept : KeepsRule identity [] entries
  outside : phase = .closed → ∀ call ∈ calls entries, call.delimits = false
  inside : phase = .opened → Covers identity entries

theorem Digesting.append {identity : Card.Identity} {phase phase' : Phase} {entries : List Entry}
    {events : List Event} (h : Digesting identity phase entries) (plain : Plain phase events)
    (closed : phase' = .closed → phase = .closed)
    (opened : phase' = .opened → phase = .opened ∧ Lockstep (events.map (⟨.opened, ·⟩))) :
    Digesting identity phase' (entries ++ events.map (⟨phase, ·⟩)) := by
  refine ⟨?_, ?_, ?_⟩
  · rw [keepsRule_append]
    exact ⟨h.kept, keepsRule_of_plain identity _ plain⟩
  · intro still call member
    unfold calls at member
    rw [List.filterMap_append, List.mem_append] at member
    rcases member with member | member
    · exact h.outside (closed still) call member
    · obtain ⟨entry, member, asked⟩ := List.mem_filterMap.mp member
      obtain ⟨event, said, rfl⟩ := List.mem_map.mp member
      exact (plain event said call asked).1
  · intro still
    obtain ⟨rfl, lockstep⟩ := opened still
    exact (h.inside rfl).append lockstep

/-- What is said before the command that opens a session. -/
def preliminaries (identity : Card.Identity) (challenge : Bytes) : List Entry :=
  [⟨.closed, .sam (.selectDiversifier identity.serial) (.ok ())⟩,
    ⟨.closed, .sam .getChallenge (.ok challenge)⟩]

theorem keepsRule_of_negotiation {identity : Card.Identity} {settings : Settings}
    {level : AccessLevel} {address : RecordAddress} {events : List Event}
    {outcome : Except SessionError OpenResponse} (before : List Entry)
    (h : Negotiation identity settings level address events outcome) :
    KeepsRule identity before (events.map (⟨.closed, ·⟩)) := by
  cases h with
  | undiversified error => simp [KeepsRule, DigestRule, Event.call?]
  | unchallenged error => simp [KeepsRule, DigestRule, Event.call?]
  | unanswered challenge error => simp [KeepsRule, DigestRule, Event.call?, openingEvents]
  | refused challenge response error read =>
    simp [KeepsRule, DigestRule, Event.call?, openingEvents]
  | begun challenge response opening answer read =>
    simp only [List.map_append, keepsRule_append]
    refine ⟨by simp [KeepsRule, DigestRule, Event.call?, openingEvents], ?_, trivial⟩
    exact ⟨before ++ preliminaries identity challenge, address, challenge, response,
      by simp [openingEvents, preliminaries], rfl⟩

theorem covers_of_negotiation {identity : Card.Identity} {settings : Settings}
    {level : AccessLevel} {address : RecordAddress} {events : List Event} {opening : OpenResponse}
    {before : List Entry} (outside : ∀ call ∈ calls before, call.delimits = false)
    (h : Negotiation identity settings level address events (.ok opening)) :
    Covers identity (before ++ events.map (⟨.closed, ·⟩)) := by
  generalize agreed : (Except.ok opening : Except SessionError OpenResponse) = outcome at h
  cases h with
  | undiversified error => cases agreed
  | unchallenged error => cases agreed
  | unanswered challenge error => cases agreed
  | refused challenge response error read => cases agreed
  | begun challenge response opening answer read =>
    cases answer with
    | error error => cases agreed
    | ok _ =>
      refine ⟨before ++ preliminaries identity challenge, [], level, address, challenge, response,
        sessionKif settings level opening, opening.kvc, ?_, ?_, lockstep_nil⟩
      · simp [openingEvents, openingEntries, preliminaries]
      · intro call member
        unfold calls at member
        rw [List.filterMap_append, List.mem_append] at member
        rcases member with member | member
        · exact outside call member
        · simp only [preliminaries, Event.call?, List.filterMap_cons, List.filterMap_nil, List.mem_cons,
            List.not_mem_nil, or_false] at member
          rcases member with rfl | rfl <;> rfl

theorem Plain.append {phase : Phase} {events more : List Event} (h : Plain phase events)
    (h' : Plain phase more) : Plain phase (events ++ more) := by
  intro event member
  rcases List.mem_append.mp member with member | member
  · exact h event member
  · exact h' event member

theorem plain_of_ratifying {cla : UInt8} {ratification : Ratification} {events : List Event}
    (phase : Phase) (h : Ratifying cla ratification events) : Plain phase events := by
  cases h <;> simp [Plain, Event.call?]

theorem plain_of_verifying {closing : CloseResponse} {pending : Bool} {events : List Event}
    {outcome : Except SessionError Unit} (phase : Phase)
    (h : Verifying closing pending events outcome) : Plain phase events := by
  cases h with
  | unanswered error => simp [Plain, Event.call?, Sam.Call.delimits]
  | rejected => simp [Plain, Event.call?, Sam.Call.delimits]
  | verified checking => cases checking <;> simp [Plain, Event.call?, Sam.Call.delimits]

/-- A closing asks for the end of the digest at once, and never again. -/
theorem plain_of_closing {cla : UInt8} {ratification : Ratification} {pending : Bool}
    {events : List Event} {outcome : Except SessionError Unit} (phase : Phase)
    (h : Closing cla ratification pending events outcome) :
    ∃ answer rest, events = .sam .finalizeDigest answer :: rest ∧ Plain phase rest := by
  have card (command : Bytes) (answer) : Plain phase [.card command answer] := by
    simp [Plain, Event.call?]
  cases h with
  | unsigned error => exact ⟨.error error, [], rfl, by simp [Plain]⟩
  | unanswered mac error => exact ⟨.ok mac, _, rfl, card _ _⟩
  | refused mac response error read => exact ⟨.ok mac, _, rfl, card _ _⟩
  | answered mac response read ratified verified =>
    refine ⟨.ok mac, _ ++ _ ++ _, rfl, .append (.append (card _ _) ?_) ?_⟩
    · exact plain_of_ratifying phase ratified
    · exact plain_of_verifying phase verified

theorem Digesting.closing {identity : Card.Identity} {entries : List Entry} {cla : UInt8}
    {ratification : Ratification} {pending : Bool} {events : List Event}
    {outcome : Except SessionError Unit} (h : Digesting identity .opened entries)
    (closing : Closing cla ratification pending events outcome) (result : Outcome) :
    Digesting identity (.terminated result) (entries ++ events.map (⟨.opened, ·⟩)) := by
  obtain ⟨answer, rest, rfl, plain⟩ := plain_of_closing .opened closing
  refine ⟨?_, nofun, nofun⟩
  rw [keepsRule_append]
  exact ⟨h.kept, h.inside rfl, keepsRule_of_plain identity _ plain⟩

/-- What holds of the entries of a course. -/
abbrev Course.Digesting (c : Course) : Prop :=
  Session.Digesting c.identity c.state.phase c.entries

theorem Course.Step.digesting {c c' : Course} (h : Step asked c c') (before : c.Digesting) :
    c'.Digesting := by
  cases h with
  | openingFailed closed negotiated =>
    refine ⟨?_, nofun, nofun⟩
    change KeepsRule _ _ (_ ++ _)
    rw [closed, keepsRule_append]
    exact ⟨before.kept, keepsRule_of_negotiation _ negotiated⟩
  | opened closed negotiated =>
    change Session.Digesting _ .opened (_ ++ _)
    rw [closed]
    refine ⟨?_, nofun, fun _ => covers_of_negotiation (before.outside closed) negotiated⟩
    rw [keepsRule_append]
    exact ⟨before.kept, keepsRule_of_negotiation _ negotiated⟩
  | commandSent opened member addressed charged digested =>
    refine before.append (opened ▸ plain_of_digested digested) State.closed_of_settle ?_
    intro still
    obtain ⟨_, response, rfl⟩ := State.opened_of_settle still
    exact ⟨opened, lockstep_of_digested digested⟩
  | valueAsked active available delivered =>
    refine before.append (plain_of_delivered delivered) State.closed_of_settle ?_
    intro still
    obtain ⟨opened, response, rfl⟩ := State.opened_of_settle still
    exact ⟨opened, lockstep_of_delivered (opened ▸ delivered)⟩
  | valueRead active available delivered success read logs =>
    refine before.append (plain_of_delivered delivered) id ?_
    intro opened
    exact ⟨opened, lockstep_of_delivered (opened ▸ delivered)⟩
  | valueChanged active available free usable changing unfinished =>
    refine before.append (plain_of_changing changing) State.closed_of_settle ?_
    intro still
    obtain ⟨opened, response, rfl⟩ := State.opened_of_settle still
    exact ⟨opened, lockstep_of_changing (opened ▸ changing)⟩
  | valueChangedOutside closed available free usable changing success answer =>
    refine before.append (.append (closed ▸ plain_of_changing changing) ?_) id ?_
    · simp [Plain, Event.call?, Sam.Call.delimits]
    · intro opened
      change c.state.phase = .opened at opened
      rw [closed] at opened
      contradiction
  | closingFailed pending opened closing failed =>
    change Session.Digesting _ (.terminated .failure) (_ ++ _)
    rw [opened]
    rw [Course.Digesting, opened] at before
    exact before.closing closing .failure
  | closed pending opened closing faultless =>
    change Session.Digesting _ (.terminated .success) (_ ++ _)
    rw [opened]
    rw [Course.Digesting, opened] at before
    exact before.closing closing .success

theorem Course.Steps.digesting {c c' : Course} (h : Steps asked c c') (before : c.Digesting) :
    c'.Digesting :=
  kept_of_reflTransGen h before fun _ _ step => step.digesting

theorem digesting_start (identity : Card.Identity) (settings : Settings) :
    (Course.start identity settings).Digesting :=
  ⟨trivial, fun _ => nofun, nofun⟩

/-- In every run, a digest is begun with the data of the response to the opening and right behind
it, is continued only in an open session, and is finalized only if it covers all that went to the
card and back since it was begun. -/
theorem run_digest [Terminal τ] (terminal : τ) (identity : Card.Identity) (settings : Settings)
    (operations : List Operation) :
    let entries := history terminal identity settings operations
    (∀ entry ∈ entries, ∀ command response,
      entry.event.call? = some (.updateDigest command response) → entry.phase = .opened) ∧
    (∀ before after (entry : Entry) data kif kvc level, entries = before ++ entry :: after →
      entry.event.call? = some (.beginDigest data kif kvc level) →
      ∃ earlier address challenge, ∃ response : Apdu.Response,
        before = earlier ++
          [⟨.closed, .card (openingCommand identity level address challenge).toBytes (.ok response)⟩] ∧
        data = response.data) ∧
    ∀ before after (entry : Entry), entries = before ++ entry :: after →
      entry.event.call? = some .finalizeDigest → Covers identity before := by
  intro entries
  have steps : Course.Steps (fun _ => True) _ _ :=
    steps_history terminal identity settings operations (by simp)
  have same : (historyCourse terminal identity settings operations).identity = identity :=
    steps.identity_eq
  have kept := (steps.digesting (digesting_start identity settings)).kept
  rw [same] at kept
  refine ⟨?_, ?_, ?_⟩
  · intro entry member command response asked
    obtain ⟨before, after, split⟩ := List.append_of_mem member
    have rule := kept.at split
    rw [DigestRule, asked] at rule
    exact rule
  · intro before after entry data kif kvc level split asked
    have rule := kept.at split
    rw [DigestRule, asked] at rule
    exact rule
  · intro before after entry split asked
    have rule := kept.at split
    rw [DigestRule, asked] at rule
    exact rule

/-- A terminal on which a card is debited and then falls silent. -/
def silentBench : Bench Script (Sam.Client Script) :=
  { debitBench with card.answers := debitBench.card.answers.take 3 }

def silentRun : List Operation := debitRun ++ [.closeSession .explicit]

/-- When the session is closed, the digest covers the question for the value and the debit, but not
the preparation of the debit. -/
theorem run_digest_silentRun :
    ∃ before after entry, history silentBench sampleCard {} silentRun = before ++ entry :: after ∧
      entry.event.call? = some .finalizeDigest ∧ Covers sampleCard before ∧
      (calls before).drop 2 =
        [.beginDigest [0, 0, 0, 0, 0, 0x30, 0x7E, 0] (some 0x30) 0x7E .debit,
          .updateDigest [0, 0x7C, 0, 9, 0]
            ([0x7C, 0, 5, 1, 2, 3, 4, 5, 0, 1, 0] ++ List.replicate 19 0 ++ [0x90, 0x00]),
          .prepareChange .debit [0, 0x7C, 0, 9, 0]
            ([0x7C, 0, 5, 1, 2, 3, 4, 5, 0, 1, 0] ++ List.replicate 19 0) [0, 1, 0, 0, 0, 0, 0x7C],
          .updateDigest [0, 0xBA, 0, 0, 9, 0, 1, 0, 0, 0, 0, 0x7C, 9, 9, 0] [0x90, 0x00]] := by
  have split : history silentBench sampleCard {} silentRun =
      history silentBench sampleCard {} debitRun ++
        ⟨.opened, .sam .finalizeDigest (.ok [5, 6, 7, 8])⟩ ::
          (history silentBench sampleCard {} silentRun).drop 10 := rfl
  obtain ⟨-, -, finalized⟩ := run_digest silentBench sampleCard {} silentRun
  exact ⟨_, _, _, split, rfl, finalized _ _ _ split rfl, rfl⟩

end Session

end FareTerminal
