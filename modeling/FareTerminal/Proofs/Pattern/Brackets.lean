import FareTerminal.Pattern.Brackets

/-! Sets of characters hold what they are said to hold, between brackets too. -/

namespace FareTerminal

namespace CharSet

/-- Ranges from a code point on, each with both its ends in order and behind the one before. -/
def Ascends : Nat → List (Nat × Nat) → Prop
  | _, [] => True
  | next, (low, high) :: rest => next ≤ low ∧ low ≤ high ∧ Ascends (high + 1) rest

theorem Ascends.mono {ranges : List (Nat × Nat)} {next earlier : Nat}
    (ascends : Ascends next ranges) (le : earlier ≤ next) : Ascends earlier ranges := by
  cases ranges with
  | nil => trivial
  | cons range rest => exact ⟨Nat.le_trans le ascends.1, ascends.2⟩

@[simp] theorem covers_nil (code : Nat) : covers [] code = false := rfl

@[simp] theorem covers_cons (low high code : Nat) (rest : List (Nat × Nat)) :
    covers ((low, high) :: rest) code = true ↔
      (low ≤ code ∧ code ≤ high) ∨ covers rest code = true := by
  simp [covers]

theorem covers_append (left right : List (Nat × Nat)) (code : Nat) :
    covers (left ++ right) code = (covers left code || covers right code) :=
  List.any_append

theorem covers_insertRange (low high code : Nat) (ranges : List (Nat × Nat)) :
    covers (insertRange low high ranges) code = true ↔
      (low ≤ code ∧ code ≤ high) ∨ covers ranges code = true := by
  induction ranges generalizing low high with
  | nil => simp [insertRange]
  | cons range rest ih =>
    obtain ⟨first, last⟩ := range
    unfold insertRange
    split
    · simp
    · split
      · simp only [covers_cons, ih]
        exact or_left_comm
      · simp only [covers_cons, ih]
        rw [← or_assoc]
        refine or_congr_left ?_
        omega

theorem ascends_insertRange {low high next : Nat} {ranges : List (Nat × Nat)}
    (ascends : Ascends next ranges) (le : low ≤ high) (behind : next ≤ low) :
    Ascends next (insertRange low high ranges) := by
  induction ranges generalizing low high next with
  | nil => exact ⟨behind, le, trivial⟩
  | cons range rest ih =>
    obtain ⟨first, last⟩ := range
    obtain ⟨front, both, later⟩ := ascends
    unfold insertRange
    split
    · exact ⟨behind, le, by omega, both, later⟩
    · split
      · exact ⟨front, both, ih later le (by omega)⟩
      · exact ih (later.mono (by omega)) (by omega) (by omega)

/-- Ranges with both their ends in order. -/
def InOrder (ranges : List (Nat × Nat)) : Prop := ∀ range ∈ ranges, range.1 ≤ range.2

theorem covers_ofRanges (ranges : List (Nat × Nat)) (code : Nat) :
    covers (ofRanges ranges).ranges code = covers ranges code := by
  rw [Bool.eq_iff_iff]
  induction ranges with
  | nil => exact Iff.rfl
  | cons range rest ih =>
    rw [covers_cons, ← ih]
    exact covers_insertRange range.1 range.2 code _

theorem ascends_ofRanges {ranges : List (Nat × Nat)} (inOrder : InOrder ranges) :
    Ascends 0 (ofRanges ranges).ranges := by
  induction ranges with
  | nil => trivial
  | cons range rest ih =>
    obtain ⟨le, others⟩ := List.forall_mem_cons.mp inOrder
    exact ascends_insertRange (ih others) le (Nat.zero_le _)

theorem Ascends.le_of_covers {next code : Nat} {ranges : List (Nat × Nat)}
    (ascends : Ascends next ranges) (there : covers ranges code = true) : next ≤ code := by
  induction ranges generalizing next with
  | nil => cases there
  | cons range rest ih =>
    obtain ⟨front, le, others⟩ := ascends
    obtain here | further := (covers_cons _ _ _ _).mp there
    · exact Nat.le_trans front here.1
    · have := ih others further
      omega

/-- The gaps hold what the ranges do not. -/
theorem covers_gapsFrom {next code : Nat} {ranges : List (Nat × Nat)}
    (ascends : Ascends next ranges) (isCode : code ≤ 0x10FFFF) :
    covers (gapsFrom next ranges) code = true ↔ next ≤ code ∧ ¬covers ranges code = true := by
  induction ranges generalizing next with
  | nil =>
    unfold gapsFrom
    split <;> simp <;> omega
  | cons range rest ih =>
    obtain ⟨low, high⟩ := range
    obtain ⟨front, le, others⟩ := ascends
    have behind : covers rest code = true → high + 1 ≤ code := others.le_of_covers
    unfold gapsFrom
    split
    · rw [covers_cons, covers_cons, ih others]
      by_cases further : covers rest code = true
      · have := behind further
        simp [further]
        omega
      · simp [further]
        omega
    · rw [covers_cons, ih others]
      by_cases further : covers rest code = true
      · simp [further]
      · simp [further]
        omega

theorem inOrder_gapsFrom (next : Nat) (ranges : List (Nat × Nat)) :
    InOrder (gapsFrom next ranges) := by
  induction ranges generalizing next with
  | nil =>
    unfold gapsFrom
    split
    · exact List.forall_mem_singleton.mpr ‹_›
    · exact List.forall_mem_nil _
  | cons range rest ih =>
    unfold gapsFrom
    split
    · exact List.forall_mem_cons.mpr ⟨by simp only; omega, ih _⟩
    · exact ih _

theorem inOrder_complement (set : CharSet) : InOrder set.complement.ranges :=
  inOrder_gapsFrom 0 _

theorem Ascends.inOrder {next : Nat} {ranges : List (Nat × Nat)} (ascends : Ascends next ranges) :
    InOrder ranges := by
  induction ranges generalizing next with
  | nil => exact List.forall_mem_nil _
  | cons range rest ih => exact List.forall_mem_cons.mpr ⟨ascends.2.1, ih ascends.2.2⟩

theorem inOrder_ofRanges {ranges : List (Nat × Nat)} (inOrder : InOrder ranges) :
    InOrder (ofRanges ranges).ranges :=
  (ascends_ofRanges inOrder).inOrder

theorem inOrder_union {left right : CharSet} (hl : InOrder left.ranges)
    (hr : InOrder right.ranges) : InOrder (left.union right).ranges :=
  inOrder_ofRanges (List.forall_mem_append.mpr ⟨hl, hr⟩)

section Operations

variable {left right : CharSet} {c : Char}

theorem contains_union : (left.union right).contains c = (left.contains c || right.contains c) := by
  rw [contains, union, covers_ofRanges, covers_append]
  rfl

theorem contains_complement {set : CharSet} (inOrder : InOrder set.ranges) :
    set.complement.contains c = !set.contains c := by
  have valid : c.toNat < 0xD800 ∨ (0xDFFF < c.toNat ∧ c.toNat < 0x110000) := c.valid
  have isCode : c.toNat ≤ 0x10FFFF := by omega
  have all : InOrder (surrogates :: set.ranges) :=
    List.forall_mem_cons.mpr ⟨by decide, inOrder⟩
  have other : ¬(0xD800 ≤ c.toNat ∧ c.toNat ≤ 0xDFFF) := by omega
  rw [Bool.eq_iff_iff, contains, complement, covers_gapsFrom (ascends_ofRanges all) isCode,
    covers_ofRanges, surrogates, covers_cons]
  simp [other, contains]

theorem contains_inter (hl : InOrder left.ranges) (hr : InOrder right.ranges) :
    (left.inter right).contains c = (left.contains c && right.contains c) := by
  have others := inOrder_union (inOrder_complement left) (inOrder_complement right)
  rw [inter, contains_complement others, contains_union, contains_complement hl,
    contains_complement hr, Bool.not_or, Bool.not_not, Bool.not_not]

theorem contains_diff (hl : InOrder left.ranges) (hr : InOrder right.ranges) :
    (left.diff right).contains c = (left.contains c && !right.contains c) := by
  rw [diff, contains_inter hl (inOrder_complement right), contains_complement hr]

theorem contains_symmDiff (hl : InOrder left.ranges) (hr : InOrder right.ranges) :
    (left.symmDiff right).contains c = (left.contains c ^^ right.contains c) := by
  rw [symmDiff, contains_union, contains_diff hl hr, contains_diff hr hl]
  cases left.contains c <;> cases right.contains c <;> rfl

end Operations

theorem inOrder_singleton (c : Char) : InOrder (singleton c).ranges :=
  List.forall_mem_singleton.mpr (Nat.le_refl _)

theorem inOrder_ofList (chars : List Char) : InOrder (ofList chars).ranges := by
  refine inOrder_ofRanges ?_
  simp [InOrder]

end CharSet

namespace Pattern

open CharSet

/-- What an operator between two sets makes of them. -/
theorem SetOperator.contains_apply (operator : SetOperator) {left right : CharSet}
    (hl : InOrder left.ranges) (hr : InOrder right.ranges) (c : Char) :
    (operator.apply left right).contains c =
      match operator with
      | .inter => left.contains c && right.contains c
      | .diff => left.contains c && !right.contains c
      | .symmDiff => left.contains c ^^ right.contains c := by
  cases operator with
  | inter => exact contains_inter hl hr
  | diff => exact contains_diff hl hr
  | symmDiff => exact contains_symmDiff hl hr

theorem inOrder_of_all {ranges : List (Nat × Nat)}
    (all : ranges.all (fun range => range.1 ≤ range.2) = true) : InOrder ranges := by
  simpa only [InOrder, List.all_eq_true, decide_eq_true_eq] using all

theorem inOrder_letterSet? {c : Char} {set : CharSet} (letter : letterSet? c = some set) :
    InOrder set.ranges := by
  unfold letterSet? at letter
  split at letter
  · obtain rfl := Option.some.inj letter
    exact inOrder_of_all (by decide +kernel)
  · obtain rfl := Option.some.inj letter
    exact inOrder_complement _
  · obtain rfl := Option.some.inj letter
    exact inOrder_of_all (by decide +kernel)
  · obtain rfl := Option.some.inj letter
    exact inOrder_complement _
  · obtain rfl := Option.some.inj letter
    exact inOrder_ofList _
  · obtain rfl := Option.some.inj letter
    exact inOrder_complement _
  · cases letter

theorem inOrder_symbolSet? {symbol : Symbol} {set : CharSet}
    (known : symbolSet? symbol = some set) : InOrder set.ranges := by
  unfold symbolSet? at known
  split at known
  · cases known
    exact inOrder_singleton _
  · rename_i c
    rw [Option.or_eq_some_iff] at known
    obtain letter | ⟨-, char⟩ := known
    · exact inOrder_letterSet? letter
    · obtain ⟨d, -, rfl⟩ := Option.map_eq_some_iff.mp char
      exact inOrder_singleton d

theorem inOrder_namedRanges {name : String} {ranges : List (Char × Char)}
    (found : namedRanges.lookup name = some ranges) :
    InOrder (ranges.map fun (low, high) => (low.toNat, high.toNat)) := by
  have all : namedRanges.all (fun (_, ranges) => ranges.all fun (low, high) => low ≤ high) = true :=
    by decide +kernel
  obtain ⟨before, behind, split, -⟩ := List.lookup_eq_some_iff.mp found
  have listed : (name, ranges) ∈ namedRanges := by
    rw [split]
    exact List.mem_append_right before List.mem_cons_self
  have entry := List.all_eq_true.mp (List.all_eq_true.mp all (name, ranges) listed)
  intro range member
  obtain ⟨⟨low, high⟩, there, rfl⟩ := List.mem_map.mp member
  exact of_decide_eq_true (entry (low, high) there)

theorem inOrder_namedSet? {symbols : List Symbol} {set : CharSet} {read : Nat}
    (known : namedSet? symbols = some (set, read)) : InOrder set.ranges := by
  unfold namedSet? at known
  split at known
  · simp only at known
    split at known
    · rename_i ranges _ found
      split at known
      · cases known
        exact inOrder_complement _
      · cases known
        exact inOrder_ofRanges (inOrder_namedRanges found)
    · cases known
  · cases known

theorem inOrder_readMember? {symbol : Symbol} {rest : List Symbol} {set : CharSet} {read : Nat}
    (known : readMember? symbol rest = some (set, read)) : InOrder set.ranges := by
  unfold readMember? at known
  split at known
  · split at known
    · obtain ⟨set', alone, same⟩ := Option.map_eq_some_iff.mp known
      cases same
      exact inOrder_symbolSet? alone
    · simp only [Option.bind_eq_bind, Option.bind_eq_some_iff] at known
      obtain ⟨low, -, high, -, known⟩ := known
      split at known
      · cases known
        exact List.forall_mem_singleton.mpr ‹low ≤ high›
      · cases known
  · obtain ⟨set', alone, same⟩ := Option.map_eq_some_iff.mp known
    cases same
    exact inOrder_symbolSet? alone

/-- The members that are read between brackets have both their ends in order. -/
theorem inOrder_readInBrackets? {outer : Nat} {front : Front} {rest : List Symbol}
    {symbol : Symbol} {tokens : List Token} {mode : Mode}
    (read : readInBrackets? outer front rest symbol = some (tokens, mode)) {set : CharSet}
    (member : .member set ∈ tokens) : InOrder set.ranges := by
  unfold readInBrackets? at read
  simp only at read
  split at read
  · cases read
    cases List.mem_singleton.mp member
    exact inOrder_singleton '-'
  · split at read
    · cases read
      cases List.mem_singleton.mp member
      exact inOrder_singleton ']'
    · split at read
      · cases read
        cases List.mem_singleton.mp member
      · split at read
        · split at read
          · rename_i known
            cases read
            cases List.mem_singleton.mp member
            exact inOrder_namedSet? known
          · cases read
            cases List.mem_singleton.mp member
        · split at read
          · cases read
            cases List.mem_singleton.mp member
          · obtain ⟨⟨set', count⟩, known, same⟩ := Option.map_eq_some_iff.mp read
            cases same
            cases List.mem_singleton.mp member
            exact inOrder_readMember? known

/-- Brackets hold what one of their members holds, or what none of them does. -/
theorem contains_close {brackets : OpenBrackets} (plain : brackets.left = none)
    (inOrder : ∀ member ∈ brackets.members, InOrder member.set.ranges) (c : Char) :
    (brackets.close false).set.contains c =
      (brackets.negated ^^ brackets.members.any (·.set.contains c)) := by
  have all : InOrder (brackets.members.flatMap (·.set.ranges)) := by
    intro range there
    obtain ⟨member, held, within⟩ := List.mem_flatMap.mp there
    exact inOrder member held range within
  have inside : (ofRanges (brackets.members.flatMap (·.set.ranges))).contains c =
      brackets.members.any (·.set.contains c) := by
    rw [contains, covers_ofRanges, covers, List.any_flatMap]
    rfl
  simp only [OpenBrackets.close, OpenBrackets.value, plain, OpenBrackets.union, Bool.false_eq_true,
    if_false]
  cases brackets.negated with
  | false => rw [Bool.false_xor, ← inside, if_neg Bool.false_ne_true]
  | true => rw [Bool.true_xor, ← inside, if_pos rfl, contains_complement (inOrder_ofRanges all)]

end Pattern

end FareTerminal
