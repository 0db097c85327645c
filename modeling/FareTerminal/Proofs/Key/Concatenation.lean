import FareTerminal.Proofs.Key.Entries
import FareTerminal.Proofs.Text.Lines

/-! Texts of key tables one behind the other. The table of the whole has the keys of both, with
those of the later text first, and all their key versions. What is wrong is what is wrong with the
earlier text, and else with the later one, with the lines of the earlier one counted in. Lines that
say nothing make no difference, wherever they stand. -/

namespace FareTerminal

/-- The same error behind some more lines. -/
def KeyTableError.shift (count : Nat) (error : KeyTableError) : KeyTableError :=
  { error with line := error.line + count }

namespace KeyEntry

/-- A line that says nothing: all of it is white space, or it begins with a number sign. -/
def Silent (line : List Char) : Prop :=
  (∀ c ∈ line, Text.isBlank c = true) ∨ line.head? = some '#'

theorem isSilent_iff (line : List Char) : isSilent line = true ↔ Silent line := by
  rw [isSilent, Bool.or_eq_true, List.isEmpty_iff, Text.trim_eq_nil_iff, beq_iff_eq, Silent]

instance (line : List Char) : Decidable (Silent line) :=
  decidable_of_iff (isSilent line = true) (isSilent_iff line)

/-- The entry on a line that is not wrong, if it has one. -/
def onLine? (line : List Char) : Option KeyEntry :=
  match ofLine line with
  | .ok entry => entry
  | .error _ => none

theorem ofLine_of_silent {line : List Char} (silent : Silent line) : ofLine line = .ok none :=
  if_pos ((isSilent_iff line).mpr silent)

/-- A carriage return at the end of a line does not make it speak. -/
theorem Silent.dropReturn {line : List Char} (silent : Silent line) :
    Silent (Text.dropReturn line) := by
  unfold Text.dropReturn
  split
  · rename_i last
    refine silent.imp (fun blank c member => blank c (List.dropLast_subset line member)) ?_
    intro sign
    match line, sign, last with
    | _ :: _ :: _, sign, _ => exact sign
  · exact silent

theorem ofLines_cons_error {line : List Char} {fault : KeyLineFault}
    (wrong : ofLine line = .error fault) (start : Nat) (rest : List (List Char)) :
    ofLines start (line :: rest) = .error ⟨start, fault⟩ := by
  rw [ofLines, wrong]

theorem ofLines_cons_ok {line : List Char} {entry : Option KeyEntry}
    (told : ofLine line = .ok entry) (start : Nat) (rest : List (List Char)) :
    ofLines start (line :: rest) = (entry.toList ++ ·) <$> ofLines (start + 1) rest := by
  rw [ofLines, told]
  cases entry with
  | none => exact (id_map _).symm
  | some entry => rfl

theorem ofLines_append (start : Nat) (first second : List (List Char)) :
    ofLines start (first ++ second) =
      match ofLines start first with
      | .error error => .error error
      | .ok entries => (entries ++ ·) <$> ofLines (start + first.length) second := by
  induction first generalizing start with
  | nil => exact (id_map _).symm
  | cons line rest ih =>
    rw [List.cons_append]
    cases told : ofLine line with
    | error fault => rw [ofLines_cons_error told, ofLines_cons_error told]
    | ok entry =>
      have next : start + (line :: rest).length = start + 1 + rest.length := by
        rw [List.length_cons, Nat.add_assoc, Nat.add_comm 1]
      rw [ofLines_cons_ok told, ofLines_cons_ok told, ih, next]
      cases ofLines (start + 1) rest with
      | error error => rfl
      | ok entries =>
        cases ofLines (start + 1 + rest.length) second with
        | error error => rfl
        | ok more => exact congrArg Except.ok (List.append_assoc entry.toList entries more).symm

theorem ofLines_add (start count : Nat) (lines : List (List Char)) :
    ofLines (start + count) lines = (ofLines start lines).mapError (·.shift count) := by
  induction lines generalizing start with
  | nil => rfl
  | cons line rest ih =>
    cases told : ofLine line with
    | error fault =>
      rw [ofLines_cons_error told, ofLines_cons_error told]
      rfl
    | ok entry =>
      rw [ofLines_cons_ok told, ofLines_cons_ok told, Nat.add_right_comm, ih]
      cases ofLines (start + 1) rest <;> rfl

/-- Neither where the lines begin nor those that say nothing matter to what is read. -/
theorem fault_ofLines_filter (start start' : Nat) (lines : List (List Char)) :
    (ofLines start (lines.filter (¬Silent ·))).mapError (·.fault) =
      (ofLines start' lines).mapError (·.fault) := by
  induction lines generalizing start start' with
  | nil => rfl
  | cons line rest ih =>
    by_cases silent : Silent line
    · rw [List.filter_cons_of_neg (by simpa using silent), ih start (start' + 1),
        ofLines_cons_ok (ofLine_of_silent silent)]
      exact congrArg _ (id_map _).symm
    · rw [List.filter_cons_of_pos (by simpa using silent)]
      cases told : ofLine line with
      | error fault =>
        rw [ofLines_cons_error told, ofLines_cons_error told]
        rfl
      | ok entry =>
        have commutes (read : Except KeyTableError (List KeyEntry)) :
            ((entry.toList ++ ·) <$> read).mapError (·.fault) =
              (entry.toList ++ ·) <$> read.mapError (·.fault) := by
          cases read <;> rfl
        rw [ofLines_cons_ok told, ofLines_cons_ok told, commutes, commutes, ih _ (start' + 1)]

/-- Where no line is wrong, the entries are those on the lines. -/
theorem ofLines_of_fine {lines : List (List Char)}
    (fine : ∀ line ∈ lines, ∃ entry, ofLine line = .ok entry) (start : Nat) :
    ofLines start lines = .ok (lines.filterMap onLine?) := by
  induction lines generalizing start with
  | nil => rfl
  | cons line rest ih =>
    obtain ⟨⟨entry, told⟩, fine⟩ := List.forall_mem_cons.mp fine
    rw [ofLines_cons_ok told, ih fine]
    cases entry <;> simp [onLine?, told]

/-- The first line that is wrong decides the error. -/
theorem ofLines_eq_error_iff {start : Nat} {lines : List (List Char)} {error : KeyTableError} :
    ofLines start lines = .error error ↔
      ∃ before line after, lines = before ++ line :: after ∧
        (∀ earlier ∈ before, ∃ entry, ofLine earlier = .ok entry) ∧
        ofLine line = .error error.fault ∧ error.line = start + before.length := by
  constructor
  · intro read
    induction lines generalizing start with
    | nil => cases read
    | cons line rest ih =>
      cases told : ofLine line with
      | error fault =>
        rw [ofLines_cons_error told] at read
        cases read
        exact ⟨[], line, rest, rfl, nofun, told, rfl⟩
      | ok entry =>
        rw [ofLines_cons_ok told] at read
        cases more : ofLines (start + 1) rest with
        | ok entries => rw [more] at read; cases read
        | error other =>
          rw [more] at read
          cases read
          obtain ⟨before, wrong, after, rfl, fine, fault, count⟩ := ih more
          refine ⟨line :: before, wrong, after, rfl, ?_, fault, ?_⟩
          · exact List.forall_mem_cons.mpr ⟨⟨entry, told⟩, fine⟩
          · rw [count, List.length_cons, Nat.add_assoc, Nat.add_comm 1]
  · rintro ⟨before, line, after, rfl, fine, wrong, count⟩
    rw [ofLines_append, ofLines_of_fine fine, ofLines_cons_error wrong, ← count]
    rfl

/-- If lines are read, then none of them is wrong. -/
theorem fine_of_ofLines_eq_ok {start : Nat} {lines : List (List Char)} {entries : List KeyEntry}
    (read : ofLines start lines = .ok entries) :
    ∀ line ∈ lines, ∃ entry, ofLine line = .ok entry := by
  induction lines generalizing start entries with
  | nil => exact fun _ member => absurd member List.not_mem_nil
  | cons line rest ih =>
    cases told : ofLine line with
    | error fault => rw [ofLines_cons_error told] at read; cases read
    | ok entry =>
      rw [ofLines_cons_ok told] at read
      cases more : ofLines (start + 1) rest with
      | error error => rw [more] at read; cases read
      | ok others => exact List.forall_mem_cons.mpr ⟨⟨entry, told⟩, ih more⟩

theorem eq_of_ofLines_eq_ok {start : Nat} {lines : List (List Char)} {entries : List KeyEntry}
    (read : ofLines start lines = .ok entries) : entries = lines.filterMap onLine? := by
  rw [ofLines_of_fine (fine_of_ofLines_eq_ok read)] at read
  exact (Except.ok.inj read).symm

end KeyEntry

namespace KeyTable

open KeyEntry

/-- The entries on the lines of a text, as far as they are not wrong. -/
def entriesOn (text : String) : List KeyEntry := (Text.lines text.toList).filterMap onLine?

/-- The lines of a text that say something. -/
def speaking (text : String) : List (List Char) := (Text.lines text.toList).filter (¬Silent ·)

theorem parse_eq_ok_iff {text : String} {table : KeyTable} :
    parse text = .ok table ↔
      ∃ entries, ofLines 1 (Text.lines text.toList) = .ok entries ∧ ofEntries entries = table := by
  unfold parse
  cases ofLines 1 (Text.lines text.toList) with
  | error error =>
    constructor
    · intro read
      cases read
    · rintro ⟨_, read, _⟩
      cases read
  | ok entries =>
    constructor
    · intro read
      exact ⟨entries, rfl, Except.ok.inj read⟩
    · rintro ⟨_, read, rfl⟩
      cases read
      rfl

theorem parse_eq_error_iff {text : String} {error : KeyTableError} :
    parse text = .error error ↔ ofLines 1 (Text.lines text.toList) = .error error := by
  unfold parse
  cases ofLines 1 (Text.lines text.toList) with
  | error other =>
    constructor
    · intro read
      rw [Except.error.inj read]
    · intro read
      rw [Except.error.inj read]
      rfl
  | ok entries =>
    constructor
    · intro read
      cases read
    · intro read
      cases read

/-- Reading a text behind another is reading its lines behind the other's. -/
theorem ofLines_toList_append {first : String} (ends : Text.EndsLine first.toList)
    (second : String) :
    ofLines 1 (Text.lines (first ++ second).toList) =
      match ofLines 1 (Text.lines first.toList) with
      | .error error => .error error
      | .ok entries => (entries ++ ·) <$>
          (ofLines 1 (Text.lines second.toList)).mapError (·.shift (first.toList.count '\n')) := by
  rw [String.toList_append, Text.lines_append ends, ofLines_append, Text.length_lines ends,
    ofLines_add]

theorem eq_ofEntries_of_parse {text : String} {table : KeyTable} (read : parse text = .ok table) :
    table = ofEntries (entriesOn text) := by
  obtain ⟨entries, told, rfl⟩ := parse_eq_ok_iff.mp read
  rw [entriesOn, ← eq_of_ofLines_eq_ok told]

/-- Only lines that say something matter to what is read, and to what is wrong. -/
theorem fault_parse_congr {text text' : String} (same : speaking text = speaking text') :
    (parse text).mapError (·.fault) = (parse text').mapError (·.fault) := by
  have commutes (read : Except KeyTableError (List KeyEntry)) :
      (ofEntries <$> read).mapError (·.fault) = ofEntries <$> read.mapError (·.fault) := by
    cases read <;> rfl
  rw [speaking, speaking] at same
  rw [parse, parse, commutes, commutes, ← fault_ofLines_filter 1 1, same, fault_ofLines_filter 1 1]

theorem speaking_insert {first line : String} (ends : Text.EndsLine first.toList)
    (silent : Silent line.toList) (within : '\n' ∉ line.toList) (second : String) :
    speaking (first ++ line ++ "\n" ++ second) = speaking (first ++ second) := by
  have text : (first ++ line ++ "\n" ++ second).toList =
      first.toList ++ (line.toList ++ '\n' :: second.toList) := by
    simp [String.toList_append]
  rw [speaking, speaking, text, String.toList_append, Text.lines_append ends,
    Text.lines_append ends, Text.lines_append_newline within, List.filter_append,
    List.filter_append, List.filter_cons_of_neg (by simpa using silent.dropReturn)]

/-- A text that ends where a line ends, with another one behind it. If something is wrong with the
first, then the same is wrong with both; if only with the second, then the same on a line that comes
as many lines later; else the keys are those of the second where it has any, and the versions those
of both. So a silent line makes no difference, wherever it is put, and texts with the same lines
that say something are read alike; the last line for a level counts, and the first line that is
wrong. -/
theorem parse_append :
    (∀ first second : String, Text.EndsLine first.toList →
      (∀ error, parse first = .error error → parse (first ++ second) = .error error) ∧
      (∀ table error, parse first = .ok table → parse second = .error error →
        parse (first ++ second) =
          .error { error with line := error.line + first.toList.count '\n' }) ∧
      (∀ earlier later, parse first = .ok earlier → parse second = .ok later →
        ∃ table, parse (first ++ second) = .ok table ∧
          (∀ level, table.get? level = (later.get? level).or (earlier.get? level)) ∧
          table.versions = earlier.versions ++ later.versions) ∧
      ∀ line : String, Silent line.toList → '\n' ∉ line.toList →
        (parse (first ++ line ++ "\n" ++ second)).mapError (·.fault) =
          (parse (first ++ second)).mapError (·.fault)) ∧
    (∀ text text', speaking text = speaking text' →
      (parse text).mapError (·.fault) = (parse text').mapError (·.fault)) ∧
    (∀ text table, parse text = .ok table → ∀ level,
      table.get? level = ((entriesOn text).filterMap (·.keyFor? level)).getLast?) ∧
    ∀ text error, parse text = .error error ↔
      ∃ before line after, Text.lines text.toList = before ++ line :: after ∧
        (∀ earlier ∈ before, ∃ entry, ofLine earlier = .ok entry) ∧
        ofLine line = .error error.fault ∧ error.line = before.length + 1 := by
  refine ⟨fun first second ends => ⟨?_, ?_, ?_, ?_⟩, fun _ _ => fault_parse_congr, ?_, ?_⟩
  · intro error wrong
    rw [parse_eq_error_iff] at wrong ⊢
    rw [ofLines_toList_append ends, wrong]
  · intro table error read wrong
    obtain ⟨entries, told, -⟩ := parse_eq_ok_iff.mp read
    rw [parse_eq_error_iff] at wrong ⊢
    rw [ofLines_toList_append ends, told, wrong]
    rfl
  · intro earlier later read read'
    obtain ⟨entries, told, rfl⟩ := parse_eq_ok_iff.mp read
    obtain ⟨entries', told', rfl⟩ := parse_eq_ok_iff.mp read'
    refine ⟨ofEntries (entries ++ entries'), parse_eq_ok_iff.mpr ⟨_, ?_, rfl⟩, fun level => ?_, ?_⟩
    · rw [ofLines_toList_append ends, told, told']
      rfl
    · rw [get?_ofEntries, get?_ofEntries, get?_ofEntries, List.filterMap_append,
        List.getLast?_append]
    · rw [versions_ofEntries, versions_ofEntries, versions_ofEntries, List.filterMap_append]
  · intro line silent within
    exact fault_parse_congr (speaking_insert ends silent within second)
  · intro text table read level
    rw [eq_ofEntries_of_parse read, get?_ofEntries]
  · intro text error
    rw [parse_eq_error_iff, ofLines_eq_error_iff]
    simp only [Nat.add_comm 1]

/-- Two lines, and behind them a text that replaces the key, or one that is wrong on its second
line. -/
theorem parse_append_replaced :
    parse ("\nKVC\tZZ\n" ++ "LOAD\t28\t7A\nKVC\t7B") = .error ⟨2, .invalidByte "ZZ"⟩ ∧
      parse ("LOAD\t27\t79\r\nKVC\t7A\n" ++ "\nKVC\tZZ\n") = .error ⟨4, .invalidByte "ZZ"⟩ ∧
      (∃ table, parse ("LOAD\t27\t79\r\nKVC\t7A\n" ++ "LOAD\t28\t7A\nKVC\t7B") = .ok table ∧
        table.get? .load = some ⟨0x28, 0x7A⟩ ∧ table.versions = [0x7A, 0x7B]) ∧
      (parse ("LOAD\t27\t79\r\nKVC\t7A\n" ++ "# none" ++ "\n" ++ "\nKVC\tZZ\n")).mapError
          (·.fault) =
        (parse ("LOAD\t27\t79\r\nKVC\t7A\n" ++ "\nKVC\tZZ\n")).mapError (·.fault) := by
  have told : parse "LOAD\t27\t79\r\nKVC\t7A\n" =
      .ok { load := some ⟨0x27, 0x79⟩, versions := [0x7A] } := rfl
  have told' : parse "LOAD\t28\t7A\nKVC\t7B" =
      .ok { load := some ⟨0x28, 0x7A⟩, versions := [0x7B] } := rfl
  have fails : parse "\nKVC\tZZ\n" = .error ⟨2, .invalidByte "ZZ"⟩ := rfl
  obtain ⟨-, -, both, -⟩ := parse_append.1 "LOAD\t27\t79\r\nKVC\t7A\n"
    "LOAD\t28\t7A\nKVC\t7B" (.inr (by decide))
  obtain ⟨table, read, keys, versions⟩ := both _ _ told told'
  obtain ⟨-, later, -, silent⟩ := parse_append.1 "LOAD\t27\t79\r\nKVC\t7A\n" "\nKVC\tZZ\n"
    (.inr (by decide))
  exact ⟨(parse_append.1 "\nKVC\tZZ\n" _ (.inr (by decide))).1 _ fails, later _ _ told fails,
    ⟨table, read, keys .load, versions⟩, silent "# none" (.inr rfl) (by decide)⟩

end KeyTable

end FareTerminal
