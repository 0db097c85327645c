import FareTerminal.Proofs.Key.Concatenation

/-! Key tables as they can be written, and what is read from them. Every table has many texts: its
entries come in any order that keeps that of the versions, each byte in digits of either case with
spaces around it, each line with either line end, and silent lines may stand between them. From all
of them the same table is read. -/

namespace FareTerminal

namespace Text

/-- A byte in two hexadecimal digits of either case, with any spaces around it. -/
inductive SpellsByte (b : UInt8) : List Char → Prop
  | spells {before after : List Char} {high low : Char} :
      (∀ c ∈ before, c = ' ') → (∀ c ∈ after, c = ' ') →
      Hex.digit? high = some (b.toNat / 16) → Hex.digit? low = some (b.toNat % 16) →
      SpellsByte b (before ++ [high, low] ++ after)

theorem isBlank_eq_false_of_digit? {c : Char} {n : Nat} (digit : Hex.digit? c = some n) :
    isBlank c = false := by
  have none : blanks.all (fun blank => (Hex.digit? blank).isNone) = true := by decide
  refine Bool.eq_false_iff.mpr fun blank => ?_
  have no_digit := List.all_eq_true.mp none c (by simpa [isBlank] using blank)
  rw [digit] at no_digit
  cases no_digit

theorem not_mem_of_not_blank {text : List Char} (letters : text.all (!isBlank ·) = true) {c : Char}
    (blank : isBlank c = true) : c ∉ text := by
  intro member
  have letter := List.all_eq_true.mp letters c member
  rw [blank] at letter
  cases letter

theorem hexNumber?_pair {high low : Char} {h l : Nat} (high_digit : Hex.digit? high = some h)
    (low_digit : Hex.digit? low = some l) : hexNumber? [high, low] = some (16 * h + l) := by
  simp [hexNumber?, high_digit, low_digit]

theorem dropPlus_of_digit {c : Char} {n : Nat} (digit : Hex.digit? c = some n) (rest : List Char) :
    dropPlus (c :: rest) = c :: rest := by
  unfold dropPlus
  split
  · rename_i sign
    obtain ⟨rfl, -⟩ := List.cons.inj sign
    cases digit
  · rfl

namespace SpellsByte

variable {b : UInt8} {field : List Char}

theorem hexByte? (spells : SpellsByte b field) : hexByte? field = some b := by
  obtain @⟨before, after, high, low, before_blank, after_blank, high_digit, low_digit⟩ := spells
  have space : ∀ {c}, c = ' ' → isBlank c = true := by
    rintro _ rfl
    rfl
  have trimmed : trim (before ++ [high, low] ++ after) = [high, low] :=
    trim_append (fun c member => space (before_blank c member))
      (fun c member => space (after_blank c member))
      (by simpa using isBlank_eq_false_of_digit? high_digit)
      (by simpa using isBlank_eq_false_of_digit? low_digit)
  have value : 16 * (b.toNat / 16) + b.toNat % 16 = b.toNat := Nat.div_add_mod b.toNat 16
  rw [Text.hexByte?, trimmed, dropPlus_of_digit high_digit, hexNumber?_pair high_digit low_digit]
  simp only [value, if_pos b.toNat_lt, UInt8.ofNat_toNat]

/-- All that stands in a written byte is digits and spaces. -/
theorem eq_space_or_not_blank (spells : SpellsByte b field) :
    ∀ c ∈ field, c = ' ' ∨ isBlank c = false := by
  obtain ⟨before, after, high, low⟩ := spells
  intro c member
  simp only [List.mem_append, List.mem_cons, List.not_mem_nil, or_false] at member
  obtain (member | rfl | rfl) | member := member
  · exact .inl (before c member)
  · exact .inr (isBlank_eq_false_of_digit? high)
  · exact .inr (isBlank_eq_false_of_digit? low)
  · exact .inl (after c member)

/-- Nothing in a written byte ends a field or a line. -/
theorem not_mem (spells : SpellsByte b field) {c : Char} (blank : isBlank c = true)
    (space : c ≠ ' ') : c ∉ field := by
  intro member
  obtain same | other := spells.eq_space_or_not_blank c member
  · exact space same
  · rw [blank] at other
    cases other

end SpellsByte

end Text

namespace KeyEntry

open Text

/-- The fields of an entry with tabs between them. -/
inductive SpellsEntry : KeyEntry → List Char → Prop
  | key {kif kvc : UInt8} {kif_field kvc_field : List Char} (level : AccessLevel) :
      SpellsByte kif kif_field → SpellsByte kvc kvc_field →
      SpellsEntry (.key level ⟨kif, kvc⟩)
        (level.label.toList ++ '\t' :: (kif_field ++ '\t' :: kvc_field))
  | version {kvc : UInt8} {field : List Char} :
      SpellsByte kvc field → SpellsEntry (.version kvc) ("KVC".toList ++ '\t' :: field)

/-- A line with an entry, or one that says nothing. -/
inductive SpellsLine : Option KeyEntry → List Char → Prop
  | silent {line : List Char} : Silent line → '\n' ∉ line → SpellsLine none line
  | entry {entry : KeyEntry} {line : List Char} :
      SpellsEntry entry line → SpellsLine (some entry) line

/-- A text of entries line by line. The last line need not have an end. -/
inductive Written : List KeyEntry → List Char → Prop
  | nil : Written [] []
  | last {content : Option KeyEntry} {line : List Char} :
      SpellsLine content line → Written content.toList line
  | line {content : Option KeyEntry} {line ending : List Char} {entries : List KeyEntry}
      {rest : List Char} :
      SpellsLine content line → ending = ['\n'] ∨ ending = ['\r', '\n'] → Written entries rest →
      Written (content.toList ++ entries) (line ++ ending ++ rest)

/-- The entries of a table: its key for each level once, and its versions in their order. -/
def Lists (entries : List KeyEntry) (table : KeyTable) : Prop :=
  (∀ level, entries.filterMap (·.keyFor? level) = (table.get? level).toList) ∧
    entries.filterMap (·.version?) = table.versions

theorem label_ne_version (level : AccessLevel) : level.label.toList ≠ "KVC".toList := by
  cases level <;> decide

theorem label_not_blank (level : AccessLevel) :
    level.label.toList.all (!isBlank ·) = true := by
  cases level <;> decide

theorem readByte_of_spells {b : UInt8} {field : List Char} (spells : SpellsByte b field) :
    readByte field = .ok b := by
  rw [readByte, spells.hexByte?]

namespace SpellsEntry

variable {entry : KeyEntry} {line : List Char}

theorem ofFields (spells : SpellsEntry entry line) :
    ofFields (line.splitOn '\t') = .ok entry := by
  cases spells with
  | @key kif kvc kif_field kvc_field level kif_spells kvc_spells =>
    have label := not_mem_of_not_blank (label_not_blank level) (c := '\t') rfl
    have tab := kif_spells.not_mem (c := '\t') rfl (by decide)
    have tab' := kvc_spells.not_mem (c := '\t') rfl (by decide)
    rw [List.splitOn_append_cons_self_of_not_mem label,
      List.splitOn_append_cons_self_of_not_mem tab, List.splitOn_eq_singleton tab',
      KeyEntry.ofFields, if_neg (label_ne_version level)]
    simp only [String.ofList_toList, AccessLevel.ofLabel?_label, readByte_of_spells kif_spells,
      readByte_of_spells kvc_spells]
    rfl
  | @version kvc field spells =>
    have tab := spells.not_mem (c := '\t') rfl (by decide)
    rw [List.splitOn_append_cons_self_of_not_mem (by decide), List.splitOn_eq_singleton tab,
      KeyEntry.ofFields, if_pos rfl]
    simp only [readByte_of_spells spells]
    rfl

/-- Such a line begins with a letter. -/
theorem not_silent (spells : SpellsEntry entry line) : ¬Silent line := by
  have first : ∃ c ∈ line.head?, isBlank c = false ∧ c ≠ '#' := by
    cases spells with
    | key level => cases level <;> exact ⟨_, rfl, by decide, by decide⟩
    | version => exact ⟨'K', rfl, by decide, by decide⟩
  obtain ⟨c, head, letter, sign⟩ := first
  rintro (blank | head')
  · rw [blank c (List.mem_of_mem_head? head)] at letter
    cases letter
  · exact sign (Option.some.inj (head.symm.trans head'))

theorem not_mem (spells : SpellsEntry entry line) {c : Char} (blank : isBlank c = true)
    (space : c ≠ ' ') (tab : c ≠ '\t') : c ∉ line := by
  cases spells with
  | key level kif_spells kvc_spells =>
    have label := not_mem_of_not_blank (label_not_blank level) blank
    simp [label, tab, kif_spells.not_mem blank space, kvc_spells.not_mem blank space]
  | version spells =>
    have label : c ∉ "KVC".toList := not_mem_of_not_blank (by decide) blank
    simp only [List.mem_append, List.mem_cons, label, tab, spells.not_mem blank space, or_self,
      not_false_eq_true]

end SpellsEntry

namespace SpellsLine

variable {content : Option KeyEntry} {line : List Char}

theorem ofLine (spells : SpellsLine content line) : ofLine line = .ok content := by
  cases spells with
  | silent silent within => exact ofLine_of_silent silent
  | entry spells =>
    rw [KeyEntry.ofLine, if_neg (mt (isSilent_iff line).mp spells.not_silent), spells.ofFields]
    rfl

theorem newline_not_mem (spells : SpellsLine content line) : '\n' ∉ line := by
  cases spells with
  | silent silent within => exact within
  | entry spells => exact spells.not_mem rfl (by decide) (by decide)

/-- A carriage return at the end of a line is not a part of what it says. -/
theorem dropReturn (spells : SpellsLine content line) :
    SpellsLine content (Text.dropReturn line) := by
  cases spells with
  | silent silent within =>
    refine .silent silent.dropReturn fun member => within ?_
    unfold Text.dropReturn at member
    split at member
    · exact List.dropLast_subset line member
    · exact member
  | entry spells =>
    have last : line.getLast? ≠ some '\r' := fun last =>
      spells.not_mem rfl (by decide) (by decide) (List.mem_of_getLast? last)
    rw [Text.dropReturn, if_neg last]
    exact .entry spells

end SpellsLine

/-- The entries of a text are read in their order. -/
theorem Written.ofLines {entries : List KeyEntry} {text : List Char}
    (written : Written entries text) (start : Nat) : ofLines start (lines text) = .ok entries := by
  induction written generalizing start with
  | nil => rfl
  | @last content line spells =>
    cases line with
    | nil =>
      obtain rfl : none = content := Except.ok.inj spells.ofLine
      rfl
    | cons c rest =>
      rw [lines_of_not_mem spells.newline_not_mem (List.cons_ne_nil c rest),
        ofLines_cons_ok spells.ofLine, ofLines_nil]
      exact congrArg Except.ok (List.append_nil content.toList)
  | @line content line ending entries rest spells ends written ih =>
    obtain rfl | rfl := ends
    · rw [List.append_assoc, List.singleton_append, lines_append_newline spells.newline_not_mem,
        ofLines_cons_ok spells.dropReturn.ofLine, ih]
      rfl
    · have within : '\n' ∉ line ++ ['\r'] := by simp [spells.newline_not_mem]
      have whole : line ++ ['\r', '\n'] ++ rest = line ++ ['\r'] ++ '\n' :: rest := by simp
      have line' : Text.dropReturn (line ++ ['\r']) = line := by simp [Text.dropReturn]
      rw [whole, lines_append_newline within, line', ofLines_cons_ok spells.ofLine, ih]
      rfl

end KeyEntry

namespace KeyTable

open KeyEntry

/-- The entries of a table are put together to that table, in whatever order they are. -/
theorem ofEntries_of_lists {entries : List KeyEntry} {table : KeyTable}
    (lists : Lists entries table) : ofEntries entries = table := by
  refine ext_get? (fun level => ?_) ?_
  · rw [get?_ofEntries, lists.1 level]
    cases table.get? level <;> rfl
  · rw [versions_ofEntries, lists.2]

theorem authorizes_versionPolicy (table : KeyTable) (kvc : UInt8) :
    table.versionPolicy.authorizes kvc = true ↔ table.versions = [] ∨ kvc ∈ table.versions := by
  unfold versionPolicy
  cases versions : table.versions with
  | nil => simp [VersionPolicy.authorizes]
  | cons first rest => simp [VersionPolicy.authorizes]

/-- The entries of a table, its keys first. -/
def entries (table : KeyTable) : List KeyEntry :=
  [AccessLevel.personalization, .load, .debit].filterMap
    (fun level => (table.get? level).map (key level)) ++ table.versions.map version

theorem lists_entries (table : KeyTable) : Lists table.entries table := by
  obtain ⟨personalization, load, debit, versions⟩ := table
  have keys (level : AccessLevel) : (versions.map version).filterMap (·.keyFor? level) = [] := by
    simp [List.filterMap_map, keyFor?]
  have listed : (versions.map version).filterMap (·.version?) = versions := by
    rw [List.filterMap_map]
    exact List.filterMap_some
  constructor
  · intro level
    rw [entries, List.filterMap_append, keys level]
    cases level <;> cases personalization <;> cases load <;> cases debit <;> rfl
  · rw [entries, List.filterMap_append, listed]
    cases personalization <;> cases load <;> cases debit <;> rfl

/-- Whatever the entries are, they can be written. -/
theorem exists_written (entries : List KeyEntry) : ∃ text, Written entries text := by
  have byte (b : UInt8) : Text.SpellsByte b (Hex.byteDigits b) := by
    have bound := b.toNat_lt
    exact .spells (List.forall_mem_nil _) (List.forall_mem_nil _) (Hex.digit?_digit (by omega))
      (Hex.digit?_digit (by omega))
  induction entries with
  | nil => exact ⟨[], .nil⟩
  | cons entry rest ih =>
    obtain ⟨text, written⟩ := ih
    cases entry with
    | key level reference =>
      exact ⟨_, .line (.entry (.key level (byte reference.kif) (byte reference.kvc))) (.inl rfl)
        written⟩
    | version kvc => exact ⟨_, .line (.entry (.version (byte kvc))) (.inl rfl) written⟩

/-- However a table is written, it is read back: its key for each level, and the versions it accepts
in their order. They are the ones that it authorizes, or any if there are none. And there is no
table that cannot be written. -/
theorem parse_written :
    (∀ (table : KeyTable) (entries : List KeyEntry) (text : String),
      Lists entries table → Written entries text.toList →
      parse text = .ok table ∧
        ∀ kvc, table.versionPolicy.authorizes kvc = true ↔
          table.versions = [] ∨ kvc ∈ table.versions) ∧
    ∀ table : KeyTable, ∃ entries, Lists entries table ∧
      ∃ text : String, Written entries text.toList := by
  constructor
  · intro table entries text lists written
    refine ⟨?_, authorizes_versionPolicy table⟩
    exact parse_eq_ok_iff.mpr ⟨entries, written.ofLines 1, ofEntries_of_lists lists⟩
  · intro table
    obtain ⟨text, written⟩ := exists_written table.entries
    refine ⟨table.entries, table.lists_entries, String.ofList text, ?_⟩
    rwa [String.toList_ofList]

/-- Two keys and two versions among silent lines, with spaces, digits of both cases, both line ends,
and no end of the last line. -/
theorem parse_written_mixed :
    parse "# keys\r\nKVC\t 7a\n\nDEBIT\t30 \t7E\r\nLOAD\t27\t 79\n \r\nKVC\t7B" =
      .ok { load := some ⟨0x27, 0x79⟩, debit := some ⟨0x30, 0x7E⟩, versions := [0x7A, 0x7B] } := by
  have byte (b : UInt8) (before after : Nat) (high low : Char)
      (high_digit : Hex.digit? high = some (b.toNat / 16))
      (low_digit : Hex.digit? low = some (b.toNat % 16)) :
      Text.SpellsByte b (List.replicate before ' ' ++ [high, low] ++ List.replicate after ' ') :=
    .spells (fun _ => List.eq_of_mem_replicate) (fun _ => List.eq_of_mem_replicate) high_digit
      low_digit
  have last : Written [.version 0x7B] "KVC\t7B".toList :=
    .last (.entry (.version (byte 0x7B 0 0 '7' 'B' rfl rfl)))
  have load : Written [.key .load ⟨0x27, 0x79⟩, .version 0x7B]
      "LOAD\t27\t 79\n \r\nKVC\t7B".toList :=
    @Written.line (some _) "LOAD\t27\t 79".toList _ _ _
      (.entry (.key .load (byte 0x27 0 0 '2' '7' rfl rfl)
        (byte 0x79 1 0 '7' '9' rfl rfl))) (.inl rfl)
      (@Written.line none [' '] _ _ _ (.silent (by decide) (by decide)) (.inr rfl) last)
  have debit : Written [.key .debit ⟨0x30, 0x7E⟩, .key .load ⟨0x27, 0x79⟩, .version 0x7B]
      "\nDEBIT\t30 \t7E\r\nLOAD\t27\t 79\n \r\nKVC\t7B".toList :=
    @Written.line none [] _ _ _ (.silent (by decide) (by decide)) (.inl rfl)
      (@Written.line (some _) "DEBIT\t30 \t7E".toList _ _ _
        (.entry (.key .debit (byte 0x30 0 1 '3' '0' rfl rfl)
          (byte 0x7E 0 0 '7' 'E' rfl rfl))) (.inr rfl) load)
  refine (parse_written.1 _ [.version 0x7A, .key .debit ⟨0x30, 0x7E⟩, .key .load ⟨0x27, 0x79⟩,
    .version 0x7B] _ ⟨fun level => ?_, rfl⟩ ?_).1
  · cases level <;> rfl
  · exact @Written.line none "# keys".toList _ _ _ (.silent (by decide) (by decide)) (.inr rfl)
      (@Written.line (some _) "KVC\t 7a".toList _ _ _
        (.entry (.version (byte 0x7A 1 0 '7' 'a' rfl rfl))) (.inl rfl) debit)

end KeyTable

end FareTerminal
