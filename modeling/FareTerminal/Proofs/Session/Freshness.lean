import FareTerminal.Proofs.Session.ValueDiscipline

/-! Which reading the security module is given for a change. It is the last one that was returned; a
reading that fails after the card has told its value leaves the one before it in place. -/

namespace FareTerminal

/-- The command and the response that the security module is given to prepare a change. -/
def Event.prepared? : Event → Option (Bytes × Bytes)
  | .sam (.prepareChange _ command response _) _ => some (command, response)
  | _ => none

namespace Session

variable {τ : Type} {identity : Card.Identity} {settings : Settings}
  {kept kept' : Option StoredValue.Reading} {pending : Bool} {turn : Turn}

namespace Turn

def prepared? (turn : Turn) : Option (Bytes × Bytes) := turn.events.findSome? Event.prepared?

/-- The value is to be read, and that fails. -/
def FailsToRead (turn : Turn) : Prop :=
  ∃ operation bothLogs error, turn.operation = .readValue operation bothLogs ∧
    turn.outcome = .error error

theorem Sends.prepared? {cla : UInt8} {change : StoredValue.Change}
    {reading : StoredValue.Reading} (h : turn.Sends cla change reading) :
    turn.prepared? = some (reading.command, reading.response) := by
  obtain ⟨complement, answer, rest, said, -⟩ := h.sent
  rw [Turn.prepared?, said]
  rfl

end Turn

/-- What the card has told last in some turns. -/
def lastTold (turns : List Turn) : Option (Bytes × Bytes) :=
  (turns.flatMap fun turn => told turn.events).getLast?

theorem lastTold_append (turns more : List Turn) :
    lastTold (turns ++ more) = (lastTold more).or (lastTold turns) := by
  rw [lastTold, List.flatMap_append, List.getLast?_append]
  rfl

theorem lastTold_eq_none {turns : List Turn} (h : ∀ turn ∈ turns, told turn.events = []) :
    lastTold turns = none := by
  rw [lastTold, List.flatMap_eq_nil_iff.mpr h]
  rfl

theorem told_of_changing {cla : UInt8} {change : StoredValue.Change}
    {reading : StoredValue.Reading} {phase : Phase} {events : List Event}
    {outcome : Except SessionError Apdu.Response}
    (h : Changing cla change reading phase events outcome) : told events = [] := by
  cases h with
  | unprepared error => rfl
  | prepared complement delivered =>
    obtain ⟨answer, rest, rfl, consulted, -⟩ := delivered.exists_eq_cons
    have unread : readsValue (changeCommand cla change reading.kvc complement).toBytes = false := by
      cases change <;> rfl
    have sent : (Event.card (changeCommand cla change reading.kvc complement).toBytes
        answer).told? = none := by
      cases answer <;> simp [Event.told?, unread]
    rw [told, List.filterMap_cons_none rfl, List.filterMap_cons_none sent]
    exact consulted.told_eq_nil

/-- Where the card has told its value and no reading was returned, reading it has failed. -/
theorem ValueTurn.failsToRead (h : ValueTurn identity settings kept pending turn kept')
    (unread : turn.reading? = none) (tells : told turn.events ≠ []) : turn.FailsToRead := by
  cases h with
  | refused phase operation error => exact absurd rfl tells
  | unconcerned unread unchanged silent => exact absurd silent.told_eq_nil tells
  | unread unchanging => exact ⟨_, _, _, rfl, rfl⟩
  | read unchanging delivered success reads logs => cases unread
  | changed active free usable changing concluding =>
    refine absurd ?_ tells
    rw [Turn.events_mk, told_append, told_of_changing changing,
      (consults_of_concluding concluding).told_eq_nil]
    rfl

section Runs

variable [Terminal τ]

/-- What the security module is given for a change that is sent is what the card told last until then,
up to turns that failed to read the value. -/
theorem run_freshness (terminal : τ) (identity : Card.Identity) (settings : Settings)
    (operations : List Operation) {earlier later : List Turn} {turn : Turn}
    (split : transcript terminal identity settings operations = earlier ++ turn :: later)
    (sending : turn.sendsChange = true) :
    ∃ before get between, earlier = before ++ get :: between ∧ get.reading?.isSome = true ∧
      turn.prepared? = lastTold (before ++ [get]) ∧
      (∀ other ∈ between, told other.events ≠ [] → other.FailsToRead) ∧
      ((∀ other ∈ between, ¬other.FailsToRead) → turn.prepared? = lastTold earlier) := by
  obtain ⟨before, get, between, change, reading, rfl, made, -⟩ := exists_madeWith split sending
  have prepared : turn.prepared? = lastTold (before ++ [get]) := by
    rw [made.sends.prepared?, lastTold_append, lastTold, List.flatMap_singleton, made.read.last]
    rfl
  have failed : ∀ other ∈ between, told other.events ≠ [] → other.FailsToRead := by
    intro other member tells
    obtain ⟨first, rest, rfl⟩ := List.append_of_mem member
    have split : transcript terminal identity settings operations =
        before ++ get :: first ++ other :: (rest ++ turn :: later) := by simpa using split
    obtain ⟨_, _, turned⟩ := valueTurn_of_transcript split
    exact turned.failsToRead (made.last other member) tells
  refine ⟨before, get, between, rfl, ?_, prepared, failed, ?_⟩
  · exact Option.isSome_iff_ne_none.mpr made.read.reading?_ne_none
  · intro faultless
    have nothing : lastTold between = none :=
      lastTold_eq_none fun other member =>
        Decidable.not_not.mp fun tells => faultless other member (failed other member tells)
    rw [prepared, List.append_cons before get between, lastTold_append _ between, nothing]
    rfl

end Runs

/-- A terminal on which a debit follows two readings, of which the second fails: the card has told its
value for one of the logs and then refuses the other. -/
def supersededBench : Bench Script (Sam.Client Script) :=
  scripted
    [[0x79, 0, 5, 1, 2, 3, 0xC1, 0xC2, 0, 1, 0] ++ List.replicate 19 0 ++ [0x90, 0x00],
      [0x79, 0, 5, 1, 2, 3, 0xC3, 0xC4, 0, 1, 0] ++ List.replicate 19 0 ++ [0x90, 0x00],
      [0x69, 0x85], [0xA, 0xB, 0xC, 0x90, 0x00]]
    [[9, 9, 0x90, 0x00], [0x90, 0x00]]

def supersededRun : List Operation :=
  [.readValue .debit false, .readValue .reload true, .changeValue (.debit 1 0 0)]

/-- The debit succeeds, but the security module was given a challenge that the card has replaced. -/
theorem run_freshness_superseded :
    ∃ first second turn,
      transcript supersededBench sampleCard {} supersededRun = [first, second, turn] ∧
        turn.sendsChange = true ∧ turn.outcome = .ok .done ∧
        turn.prepared? = lastTold [first] ∧ turn.prepared? ≠ lastTold [first, second] :=
  ⟨_, _, _, rfl, rfl, rfl, rfl, by decide⟩

/-- That debit is none the less made with the last reading that was returned. -/
theorem run_freshness_supersededRun :
    ∃ earlier turn, transcript supersededBench sampleCard {} supersededRun = earlier ++ [turn] ∧
      turn.sendsChange = true ∧
      ∃ before get between, earlier = before ++ get :: between ∧ get.reading?.isSome = true ∧
        turn.prepared? = lastTold (before ++ [get]) ∧
        ∀ other ∈ between, told other.events ≠ [] → other.FailsToRead := by
  obtain ⟨first, second, turn, split, sending⟩ : ∃ first second turn,
      transcript supersededBench sampleCard {} supersededRun = [first, second] ++ [turn] ∧
        turn.sendsChange = true := ⟨_, _, _, rfl, rfl⟩
  obtain ⟨before, get, between, same, returned, prepared, failed, -⟩ :=
    run_freshness supersededBench sampleCard {} supersededRun split sending
  exact ⟨_, turn, split, sending, before, get, between, same, returned, prepared, failed⟩

end Session

end FareTerminal
