import FareTerminal.Proofs.Card.Budget
import FareTerminal.Proofs.Session.Lifecycle

/-! The budget of a session and the journal. What is used of the budget is the price of the modifying
commands that were sent, whatever became of them. -/

namespace FareTerminal

open Card

/-- The price of a command by its bytes. Behind the header stand the length of the data and the data;
where a counter is changed, one more byte. -/
def sentPrice (unit : BudgetUnit) : Bytes → Nat
  | _ :: ins :: _ :: _ :: body =>
    if ins ∈ [0xDC, 0xD2, 0xE2] then unit.price (body.length - 1)
    else if ins ∈ [0x30, 0x32] then unit.price (body.length - 2)
    else 0
  | _ => 0

/-- The price of an entry: only commands within the session have one. -/
def Entry.price (unit : BudgetUnit) : Entry → Nat
  | ⟨.opened, .card command _⟩ => sentPrice unit command
  | _ => 0

namespace Session

variable {τ : Type} {asked : FileCommand → Prop}

/-- The price of all that was sent in an open session. -/
def spent (unit : BudgetUnit) : List Entry → Nat
  | [] => 0
  | entry :: rest => entry.price unit + spent unit rest

@[simp] theorem spent_nil (unit : BudgetUnit) : spent unit [] = 0 := rfl

@[simp] theorem spent_cons (unit : BudgetUnit) (entry : Entry) (rest : List Entry) :
    spent unit (entry :: rest) = entry.price unit + spent unit rest := rfl

@[simp] theorem spent_append (unit : BudgetUnit) (entries more : List Entry) :
    spent unit (entries ++ more) = spent unit entries + spent unit more := by
  induction entries with
  | nil => simp
  | cons entry rest ih => rw [List.cons_append, spent_cons, ih, spent_cons, Nat.add_assoc]

namespace FileCommand

/-- The length of the data of the command. -/
def dataLength : FileCommand → Nat
  | readRecords .. => 0
  | updateRecord _ _ data | writeRecord _ _ data | appendRecord _ data => data.length
  | increase .. | decrease .. => 3

/-- The price of the command. -/
def price (unit : BudgetUnit) (command : FileCommand) : Nat :=
  if command.isModifying then unit.price command.dataLength else 0

/-- No data is longer than a machine can address. -/
def Addressable (command : FileCommand) : Prop := command.dataLength < 0x8000000000000000

instance (command : FileCommand) : Decidable command.Addressable :=
  inferInstanceAs (Decidable (command.dataLength < 0x8000000000000000))

theorem lc_toCommand (cla : UInt8) (command : FileCommand) :
    (command.toCommand cla).lc = command.dataLength := by
  cases command <;> simp [toCommand, dataLength, Apdu.Command.lc, Apdu.Command.readRecords,
    Apdu.Command.updateRecord, Apdu.Command.writeRecord, Apdu.Command.appendRecord,
    Apdu.Command.increase, Apdu.Command.decrease]

end FileCommand

theorem length_dataField (data : Bytes) : (Apdu.Command.dataField data).length - 1 = data.length := by
  cases data <;> simp

/-- The price of a command can be told from what is sent for it. -/
theorem sentPrice_toBytes (unit : BudgetUnit) (cla : UInt8) (command : FileCommand) :
    sentPrice unit (command.toCommand cla).toBytes = command.price unit := by
  cases command with
  | readRecords sfi record multiple expected => rfl
  | updateRecord sfi record data =>
    simp [FileCommand.toCommand, Apdu.Command.updateRecord, Apdu.Command.toBytes, sentPrice,
      FileCommand.price, FileCommand.isModifying, FileCommand.dataLength, length_dataField]
  | writeRecord sfi record data =>
    simp [FileCommand.toCommand, Apdu.Command.writeRecord, Apdu.Command.toBytes, sentPrice,
      FileCommand.price, FileCommand.isModifying, FileCommand.dataLength, length_dataField]
  | appendRecord sfi data =>
    simp [FileCommand.toCommand, Apdu.Command.appendRecord, Apdu.Command.toBytes, sentPrice,
      FileCommand.price, FileCommand.isModifying, FileCommand.dataLength, length_dataField]
  | increase sfi counter amount => rfl
  | decrease sfi counter amount => rfl

@[simp] theorem State.budget_settle {α : Type} (state : State) (kind : Card.CommandKind)
    (read : Apdu.Response → Except SessionError α) (outcome : Except SessionError Apdu.Response) :
    (state.settle kind read outcome).budget = state.budget := by
  unfold settle reject
  split
  · split
    · rfl
    · split
      · split <;> rfl
      · rfl
  · rfl

/-- Nothing that is said costs anything. -/
def Free (phase : Phase) (events : List Event) : Prop :=
  ∀ unit, spent unit (events.map (⟨phase, ·⟩)) = 0

theorem Free.append {phase : Phase} {events more : List Event} (h : Free phase events)
    (h' : Free phase more) : Free phase (events ++ more) := by
  intro unit
  rw [List.map_append, spent_append, h unit, h' unit]

theorem free_sam (phase : Phase) (call : Sam.Call) (answer : Except SessionError call.Answer) :
    Free phase [.sam call answer] := by
  intro unit
  cases phase <;> rfl

theorem free_closed (events : List Event) : Free .closed events := by
  intro unit
  induction events with
  | nil => rfl
  | cons event rest ih =>
    rw [List.map_cons, spent_cons, ih]
    rfl

theorem spent_digested {command : Apdu.Command} {events : List Event}
    {outcome : Except SessionError Apdu.Response} (unit : BudgetUnit)
    (h : Digested command events outcome) :
    spent unit (events.map (⟨.opened, ·⟩)) = sentPrice unit command.toBytes := by
  cases h <;> simp [Entry.price]

theorem free_of_delivered {command : Apdu.Command} {phase : Phase} {events : List Event}
    {outcome : Except SessionError Apdu.Response}
    (free : ∀ unit, sentPrice unit command.toBytes = 0)
    (h : Delivered command phase events outcome) : Free phase events := by
  cases h with
  | inside digested =>
    intro unit
    rw [spent_digested unit digested, free]
  | outside answer => exact free_closed _

theorem sentPrice_readingCommand (unit : BudgetUnit) (cla : UInt8)
    (operation : StoredValue.Operation) :
    sentPrice unit (readingCommand cla operation).toBytes = 0 := rfl

theorem sentPrice_changeCommand (unit : BudgetUnit) (cla : UInt8) (change : StoredValue.Change)
    (kvc : UInt8) (complement : Bytes) :
    sentPrice unit (changeCommand cla change kvc complement).toBytes = 0 := by
  cases change <;> rfl

theorem free_of_changing {cla : UInt8} {change : StoredValue.Change}
    {reading : StoredValue.Reading} {phase : Phase} {events : List Event}
    {outcome : Except SessionError Apdu.Response}
    (h : Changing cla change reading phase events outcome) : Free phase events := by
  cases h with
  | unprepared error => exact free_sam _ _ _
  | prepared complement delivered =>
    exact (free_sam _ _ _).append
      (free_of_delivered (fun unit => sentPrice_changeCommand unit _ _ _ _) delivered)

theorem free_of_closing {cla : UInt8} {ratification : Ratification} {pending : Bool}
    {events : List Event} {outcome : Except SessionError Unit}
    (h : Closing cla ratification pending events outcome) : Free .opened events := by
  have sent (mac : Bytes) (answer) : Free .opened (closingEvents cla ratification mac answer) :=
    fun unit => rfl
  cases h with
  | unsigned error => exact free_sam _ _ _
  | unanswered mac error => exact sent mac _
  | refused mac response error read => exact sent mac _
  | answered mac response read ratified verified =>
    refine ((sent mac _).append ?_).append ?_
    · cases ratified <;> exact fun unit => rfl
    · cases verified with
      | unanswered error => exact free_sam _ _ _
      | rejected => exact free_sam _ _ _
      | verified checking =>
        refine (free_sam _ _ _).append ?_
        cases checking <;> exact fun unit => rfl

/-- What is known of the budget: it is the card's, and what is used of it was sent. -/
structure Accounted (identity : Card.Identity) (phase : Phase) (budget : Budget)
    (entries : List Entry) : Prop where
  unit : budget.unit = identity.budget.unit
  max : budget.max = identity.budget.max
  within : budget.used ≤ budget.max
  used : budget.used.toNat = spent identity.budget.unit entries
  unused : phase = .closed → budget.used = 0

theorem Accounted.append {identity : Card.Identity} {phase phase' : Phase} {budget : Budget}
    {entries : List Entry} {events : List Event} (h : Accounted identity phase budget entries)
    (free : Free phase events) (closed : phase' = .closed → phase = .closed) :
    Accounted identity phase' budget (entries ++ events.map (⟨phase, ·⟩)) := by
  refine ⟨h.unit, h.max, h.within, ?_, fun still => h.unused (closed still)⟩
  rw [spent_append, free, h.used, Nat.add_zero]

theorem Accounted.opened {identity : Card.Identity} {budget : Budget} {entries : List Entry}
    (h : Accounted identity .closed budget entries) (events : List Event) :
    Accounted identity .opened budget.reset (entries ++ events.map (⟨.closed, ·⟩)) := by
  have unused := h.unused rfl
  have same : budget.reset = budget := by rw [Budget.reset, ← unused]
  rw [same]
  exact h.append (free_closed events) nofun

/-- A command that is charged is paid for. -/
theorem Accounted.charged {identity : Card.Identity} {budget budget' : Budget}
    {entries : List Entry} {command : FileCommand} {events : List Event} {phase' : Phase}
    {outcome : Except SessionError Apdu.Response} (h : Accounted identity .opened budget entries)
    (short : command.Addressable) (charged : Course.Charged command identity.classByte budget budget')
    (digested : Digested (command.toCommand identity.classByte) events outcome)
    (later : phase' ≠ .closed) :
    Accounted identity phase' budget' (entries ++ events.map (⟨.opened, ·⟩)) := by
  have paid : spent identity.budget.unit (events.map (⟨.opened, ·⟩)) =
      command.price identity.budget.unit := by
    rw [spent_digested _ digested, sentPrice_toBytes]
  unfold Course.Charged at charged
  cases modifying : command.isModifying with
  | false =>
    rw [modifying] at charged
    obtain rfl : budget' = budget := charged
    refine ⟨h.unit, h.max, h.within, ?_, fun closed => absurd closed later⟩
    rw [spent_append, paid, h.used, FileCommand.price, modifying]
    rfl
  | true =>
    have small : budget.max.toNat ≤ 0x100000 := by
      rw [h.max]
      exact max_budget_le identity
    rw [modifying, if_pos rfl, command.lc_toCommand, Budget.charge_ofNat short h.within small]
      at charged
    split at charged
    · cases charged
    · rename_i fits
      cases charged
      have fits := Nat.le_of_not_lt fits
      have used := Budget.toNat_used_record short fits
      refine ⟨h.unit, h.max, ?_, ?_, fun closed => absurd closed later⟩
      · rw [UInt64.le_iff_toNat_le, used]
        exact fits
      · rw [used, spent_append, paid, h.used, FileCommand.price, modifying, if_pos rfl, h.unit]

/-- What is known of the budget of a course. -/
abbrev Course.Accounted (c : Course) : Prop :=
  Session.Accounted c.identity c.state.phase c.state.budget c.entries

theorem Course.Step.accounted {c c' : Course} (h : Step FileCommand.Addressable c c')
    (before : c.Accounted) : c'.Accounted := by
  cases h with
  | openingFailed closed negotiated =>
    refine Session.Accounted.append before ?_ nofun
    rw [closed]
    exact free_closed _
  | opened closed negotiated =>
    rw [Course.Accounted, closed] at before
    change Session.Accounted _ _ _ (_ ++ _)
    rw [closed]
    exact before.opened _
  | commandSent opened short addressed charged digested =>
    rw [Course.Accounted, opened] at before
    change Session.Accounted _ _ (State.settle _ _ _ _).budget (_ ++ _)
    rw [opened, State.budget_settle]
    refine before.charged short charged digested ?_
    intro closed
    simpa [opened] using State.closed_of_settle closed
  | valueAsked active available delivered =>
    change Session.Accounted _ _ (State.settle _ _ _ _).budget _
    rw [State.budget_settle]
    exact before.append (free_of_delivered (sentPrice_readingCommand · _ _) delivered)
      State.closed_of_settle
  | valueRead active available delivered success read logs =>
    exact before.append (free_of_delivered (sentPrice_readingCommand · _ _) delivered) id
  | valueChanged active available free usable changing unfinished =>
    change Session.Accounted _ _ (State.settle _ _ Except.ok _).budget _
    rw [State.budget_settle]
    exact before.append (free_of_changing changing) State.closed_of_settle
  | valueChangedOutside closed available free usable changing success answer =>
    refine before.append ?_ id
    rw [closed]
    exact free_closed _
  | closingFailed pending opened closing failed =>
    refine Session.Accounted.append before ?_ nofun
    rw [opened]
    exact free_of_closing closing
  | closed pending opened closing faultless =>
    refine Session.Accounted.append before ?_ nofun
    rw [opened]
    exact free_of_closing closing

theorem Course.Steps.accounted {c c' : Course} (h : Steps FileCommand.Addressable c c')
    (before : c.Accounted) : c'.Accounted :=
  kept_of_reflTransGen h before fun _ _ step => step.accounted

theorem accounted_start (identity : Card.Identity) (settings : Settings) :
    (Course.start identity settings).Accounted := by
  have unused := used_budget identity
  refine ⟨rfl, rfl, ?_, ?_, fun _ => unused⟩
  · change identity.budget.used ≤ identity.budget.max
    rw [unused]
    exact UInt64.zero_le
  · change identity.budget.used.toNat = 0
    rw [unused]
    rfl

end Session

end FareTerminal
