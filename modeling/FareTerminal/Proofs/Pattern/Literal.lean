import FareTerminal.Pattern.Parse
import FareTerminal.Pool.Resource
import FareTerminal.Proofs.Pattern.Matches

/-! Regular expressions that spell what they match, with or without an anchor at either end. They
are read as such, and they match just the texts that hold what is spelled. -/

namespace FareTerminal

@[simp] theorem CharSet.contains_singleton {c d : Char} :
    (CharSet.singleton c).contains d = true ↔ d = c := by
  simp only [contains, singleton, covers, List.any_cons, List.any_nil, Bool.or_false,
    Bool.and_eq_true, decide_eq_true_iff]
  rw [← Nat.le_antisymm_iff, Char.toNat_inj, eq_comm]

namespace Pattern

/-- The characters that stand for something else outside of brackets, but for the anchors. -/
def specialChars : List Char := ['\\', '[', '{', '(', ')', '|', '.', '*', '+', '?']

/-- Whether a character, outside of brackets, spells itself or an anchor. -/
def isDirect (c : Char) : Bool := !specialChars.contains c

/-- What such a character stands for. -/
def ofDirect : Char → Pattern
  | '^' => assertion .textStart
  | '$' => assertion .textEnd
  | c => one (.singleton c) 0

theorem ne_of_isDirect {c : Char} (direct : isDirect c = true) :
    c ≠ '\\' ∧ c ≠ '[' ∧ c ≠ '{' ∧ c ≠ '(' ∧ c ≠ ')' ∧ c ≠ '|' ∧ c ≠ '.' ∧ c ≠ '*' ∧ c ≠ '+' ∧
      c ≠ '?' := by
  simpa [isDirect, specialChars] using direct

theorem symbols?_direct (text : List Char) (direct : text.all isDirect = true) :
    symbols? text = some (text.map .plain) := by
  induction text with
  | nil => rfl
  | cons c rest ih =>
    rw [List.all_cons, Bool.and_eq_true] at direct
    simp [symbols?, ne_of_isDirect direct.1, ih direct.2]

theorem readOutside?_direct (rest : List Symbol) {c : Char} (direct : isDirect c = true) :
    readOutside? rest (.plain c) = some ([plainToken c], .outside) := by
  simp [readOutside?, ne_of_isDirect direct, isRepetition, Mode.behind]

theorem tokens?_direct (text : List Char) (direct : text.all isDirect = true) :
    tokens? text = some (text.map plainToken) := by
  rw [tokens?, symbols?_direct text direct, Option.bind_some]
  induction text with
  | nil => rfl
  | cons c rest ih =>
    rw [List.all_cons, Bool.and_eq_true] at direct
    rw [List.map_cons, tokensIn?, read?, readOutside?_direct _ direct.1]
    simp [ih direct.2]

theorem read?_plainToken (parts : List Pattern) {c : Char} (direct : isDirect c = true) :
    Reader.read? { group := { parts } } (plainToken c) =
      some { group := { parts := ofDirect c :: parts } } := by
  unfold ofDirect
  split
  · rfl
  · rfl
  · have token : plainToken c = .one (.singleton c) := by
      simp [plainToken, ne_of_isDirect direct, *]
    rw [token]
    rfl

theorem foldlM_read? (text : List Char) (direct : text.all isDirect = true)
    (parts : List Pattern) :
    (text.map plainToken).foldlM Reader.read? { group := { parts } } =
      some { group := { parts := (text.map ofDirect).reverse ++ parts } } := by
  induction text generalizing parts with
  | nil => rfl
  | cons c rest ih =>
    rw [List.all_cons, Bool.and_eq_true] at direct
    rw [List.map_cons, List.foldlM_cons, read?_plainToken parts direct.1, Option.bind_eq_bind,
      Option.bind_some, ih direct.2, List.map_cons, List.reverse_cons, List.append_assoc]
    rfl

theorem name?_plainToken (c : Char) : (plainToken c).name? = none := by
  unfold plainToken
  split <;> rfl

theorem depth_ofDirect (c : Char) : (ofDirect c).depth = 0 := by
  unfold ofDirect
  split <;> rfl

/-- A sequence of parts without levels of their own is one level. -/
theorem depth_ofParts {parts : List Pattern} (flat : ∀ part ∈ parts, part.depth = 0) :
    (ofParts parts).depth ≤ if (ofParts parts).isSeq then 1 else 0 := by
  induction parts with
  | nil => exact Nat.le_refl 0
  | cons part parts ih =>
    rw [List.forall_mem_cons] at flat
    cases parts with
    | nil => exact Nat.le_trans (Nat.le_of_eq flat.1) (Nat.zero_le _)
    | cons next others =>
      have rest := ih flat.2
      have levels : (seq part (ofParts (next :: others))).depth =
          max (part.depth + 1) (if (ofParts (next :: others)).isSeq then
            (ofParts (next :: others)).depth else (ofParts (next :: others)).depth + 1) := rfl
      have whole : (seq part (ofParts (next :: others))).isSeq = true := rfl
      rw [ofParts, levels, whole, flat.1]
      · split at rest <;> simp_all
      · exact List.cons_ne_nil next others

/-- A pattern of characters that spell themselves or anchors is those in a sequence, if it is not
too long. -/
theorem parse?_direct (text : String) (direct : text.toList.all isDirect = true)
    (fits : (ofParts (text.toList.map ofDirect)).fits = true) :
    parse? text = some (ofParts (text.toList.map ofDirect)) := by
  have unnamed : (text.toList.map plainToken).filterMap Token.name? = [] := by
    simp [name?_plainToken]
  have shallow : (ofParts (text.toList.map ofDirect)).depth ≤ maxDepth := by
    refine Nat.le_trans (depth_ofParts (by simp [depth_ofDirect])) ?_
    split <;> decide
  have read := foldlM_read? text.toList direct []
  simp only [parse?, tokens?_direct _ direct, Option.bind_eq_bind, Option.bind_some, read,
    List.append_nil, Reader.pattern?, List.isEmpty_nil, if_true, OpenGroup.pattern, OpenGroup.bar,
    ofBranches, List.reverse_reverse, List.reverse_cons, List.reverse_nil, List.nil_append]
  simp [unnamed, shallow, fits]

theorem foldl_add (numbers : List Nat) (n : Nat) :
    numbers.foldl (· + ·) n = n + total numbers := by
  induction numbers generalizing n with
  | nil => rfl
  | cons m rest ih =>
    rw [total, List.foldl_cons, List.foldl_cons, ih, ih, Nat.zero_add, Nat.add_assoc]

theorem total_cons (n : Nat) (numbers : List Nat) : total (n :: numbers) = n + total numbers := by
  rw [total, List.foldl_cons, Nat.zero_add, foldl_add]

theorem total_append (left right : List Nat) :
    total (left ++ right) = total left + total right := by
  rw [total, List.foldl_append, foldl_add]
  rfl

theorem total_utf8Size (text : String) :
    total (text.toList.map Char.utf8Size) = text.utf8ByteSize := by
  have ofList (chars : List Char) :
      total (chars.map Char.utf8Size) = (String.ofList chars).utf8ByteSize := by
    induction chars with
    | nil => rfl
    | cons c rest ih =>
      rw [List.map_cons, total_cons, ih, ← String.utf8ByteSize_singleton, String.singleton_eq_ofList,
        ← String.utf8ByteSize_append, ← String.ofList_append, List.singleton_append]
  rw [ofList, String.ofList_toList]

/-- Words that become one take no more room together. -/
theorem size_prepend (backward : Bool) (part shape : Shape) :
    (part.prepend shape).size backward false ≤
      part.size backward false + shape.size backward false := by
  unfold Shape.prepend
  split
  · exact Nat.le_add_right _ _
  · simp [Shape.size, total_append, Nat.mul_add]
  · simp [Shape.size, total_append, Nat.mul_add, Nat.add_assoc]
  · simp [Shape.size]

theorem exists_branchShapes_ofDirect (backward : Bool) (c : Char) :
    ∃ part, (ofDirect c).branchShapes = [part] ∧ (∀ shape, part.append shape = part.prepend shape) ∧
      part.size backward false = stateSize * c.utf8Size := by
  unfold ofDirect
  split
  · exact ⟨_, rfl, fun _ => rfl, rfl⟩
  · exact ⟨_, rfl, fun _ => rfl, rfl⟩
  · refine ⟨.word [c], ?_, fun _ => rfl, ?_⟩
    · simp [branchShapes, Shape.ofSet, CharSet.only?, CharSet.singleton]
    · simp [Shape.size, total]

/-- A state for each byte, and one if there is nothing. -/
theorem size_shape_ofDirect (backward : Bool) (text : List Char) :
    (ofParts (text.map ofDirect)).shape.size backward false ≤
      stateSize * (total (text.map Char.utf8Size) + 1) := by
  induction text with
  | nil => exact Nat.le_refl stateSize
  | cons c rest ih =>
    obtain ⟨part, shapes, appends, size⟩ := exists_branchShapes_ofDirect backward c
    have whole : (ofParts ((c :: rest).map ofDirect)).shape =
        part.prepend (ofParts (rest.map ofDirect)).shape := by
      cases rest with
      | nil =>
        rw [List.map_singleton, ofParts, shape, shapes]
        rfl
      | cons d others =>
        rw [List.map_cons, ofParts, shape, branchShapes, shapes]
        · exact appends _
        · simp
    have bytes : total ((c :: rest).map Char.utf8Size) =
        c.utf8Size + total (rest.map Char.utf8Size) := total_cons _ _
    calc (ofParts ((c :: rest).map ofDirect)).shape.size backward false
        ≤ part.size backward false + (ofParts (rest.map ofDirect)).shape.size backward false :=
          whole ▸ size_prepend backward part _
      _ ≤ stateSize * c.utf8Size + stateSize * (total (rest.map Char.utf8Size) + 1) :=
          Nat.add_le_add (Nat.le_of_eq size) ih
      _ = stateSize * (total ((c :: rest).map Char.utf8Size) + 1) := by
          rw [bytes, ← Nat.mul_add, Nat.add_assoc]

theorem fits_ofDirect {text : List Char}
    (short : stateSize * total (text.map Char.utf8Size) + 240 ≤ maxSize) :
    (ofParts (text.map ofDirect)).fits = true := by
  have skip (isAnchored : Bool) : Shape.skipSize isAnchored ≤ 112 := by
    cases isAnchored <;> decide
  have forward := size_shape_ofDirect false text
  have backward := size_shape_ofDirect true text
  have := skip (ofParts (text.map ofDirect)).shape.startsAtStart
  have := skip (ofParts (text.map ofDirect)).shape.endsAtEnd
  simp only [fits, Bool.and_eq_true, decide_eq_true_eq]
  simp only [Shape.forwardSize, Shape.backwardSize, stateSize] at *
  omega

/-- A sequence matches part by part. -/
theorem matches_ofParts_cons (text : List Char) (part : Pattern) (parts : List Pattern)
    (i k : Nat) :
    (ofParts (part :: parts)).Matches text i k ↔
      ∃ j, part.Matches text i j ∧ (ofParts parts).Matches text j k := by
  cases parts with
  | cons next others => rfl
  | nil =>
    constructor
    · intro whole
      have inside := (forward_reach text part).lt i k ((leads_reach text part i k).mpr whole)
      exact ⟨k, whole, Nat.le_of_lt_succ inside, rfl⟩
    · rintro ⟨j, whole, -, rfl⟩
      exact whole

theorem cons_prefix_drop_iff {text rest : List Char} {c : Char} {i : Nat} :
    c :: rest <+: text.drop i ↔ text[i]? = some c ∧ rest <+: text.drop (i + 1) := by
  cases there : text[i]? with
  | none =>
    rw [List.drop_eq_nil_of_le (List.getElem?_eq_none_iff.mp there)]
    simp
  | some d =>
    rw [List.drop_eq_getElem?_toList_append, there, Option.toList_some, List.singleton_append,
      List.cons_prefix_cons, Option.some.injEq, eq_comm]

/-- Characters that stand for themselves are matched where they are spelled. -/
theorem matches_ofParts_literal (text literal : List Char) (parts : List Pattern) (i k : Nat) :
    (ofParts (literal.map (fun c => one (.singleton c) 0) ++ parts)).Matches text i k ↔
      literal <+: text.drop i ∧ (ofParts parts).Matches text (i + literal.length) k := by
  induction literal generalizing i with
  | nil => simp
  | cons c rest ih =>
    rw [List.map_cons, List.cons_append, matches_ofParts_cons, cons_prefix_drop_iff,
      List.length_cons, Nat.add_comm rest.length, ← Nat.add_assoc]
    simp only [Matches, ih, CharSet.contains_singleton]
    constructor
    · rintro ⟨_, ⟨⟨d, there, rfl⟩, rfl⟩, spelled, others⟩
      exact ⟨⟨there, spelled⟩, others⟩
    · rintro ⟨⟨there, spelled⟩, others⟩
      exact ⟨i + 1, ⟨⟨c, there, rfl⟩, rfl⟩, spelled, others⟩

theorem matches_textStart_iff {text : List Char} {i j : Nat} :
    (assertion .textStart).Matches text i j ↔ i = 0 ∧ i = j := by
  cases i with
  | zero => simp [Matches, Assertion.holds, Reach.before?]
  | succ i =>
    simp only [Matches, Assertion.holds, Reach.before?, Option.isNone_iff_eq_none,
      List.getElem?_eq_none_iff]
    omega

theorem matches_textEnd_iff {text : List Char} {i j : Nat} :
    (assertion .textEnd).Matches text i j ↔ i = text.length ∧ i = j := by
  simp only [Matches, Assertion.holds, Option.isNone_iff_eq_none, List.getElem?_eq_none_iff]
  omega

/-- The text of a regular expression for a literal, anchored at either end or not. -/
def anchored (front back : Bool) (literal : String) : String :=
  (if front then "^" else "") ++ literal ++ if back then "$" else ""

theorem toList_anchored (front back : Bool) (literal : String) :
    (anchored front back literal).toList = (if front then ['^'] else []) ++
      (literal.toList ++ if back then ['$'] else []) := by
  cases front <;> cases back <;> simp [anchored]

/-- The parts of such a regular expression. -/
def anchoredParts (front back : Bool) (literal : List Char) : List Pattern :=
  (if front then [assertion .textStart] else []) ++
    (literal.map (fun c => one (.singleton c) 0) ++ if back then [assertion .textEnd] else [])

theorem matches_ofParts_front (front : Bool) (text : List Char) (parts : List Pattern) (i k : Nat) :
    (ofParts ((if front then [assertion .textStart] else []) ++ parts)).Matches text i k ↔
      (front = true → i = 0) ∧ (ofParts parts).Matches text i k := by
  cases front with
  | false => simp
  | true =>
    rw [if_pos rfl, List.singleton_append, matches_ofParts_cons]
    simp only [matches_textStart_iff, forall_const]
    constructor
    · rintro ⟨j, ⟨first, rfl⟩, others⟩
      exact ⟨first, others⟩
    · rintro ⟨first, others⟩
      exact ⟨i, ⟨first, rfl⟩, others⟩

theorem matches_ofParts_back (back : Bool) (text : List Char) (i k : Nat) :
    (ofParts (if back then [assertion .textEnd] else [])).Matches text i k ↔
      i ≤ text.length ∧ (back = true → i = text.length) ∧ i = k := by
  cases back with
  | false => simp [ofParts, Matches]
  | true =>
    rw [if_pos rfl, ofParts, matches_textEnd_iff]
    constructor
    · rintro ⟨rfl, rfl⟩
      exact ⟨Nat.le_refl _, fun _ => rfl, rfl⟩
    · rintro ⟨-, last, rfl⟩
      exact ⟨last rfl, rfl⟩

theorem matches_anchoredParts (front back : Bool) (text literal : List Char) (i k : Nat) :
    (ofParts (anchoredParts front back literal)).Matches text i k ↔
      (front = true → i = 0) ∧ literal <+: text.drop i ∧ i + literal.length ≤ text.length ∧
        (back = true → i + literal.length = text.length) ∧ i + literal.length = k := by
  rw [anchoredParts, matches_ofParts_front, matches_ofParts_literal, matches_ofParts_back]

theorem exists_matches_anchoredParts_iff (front back : Bool) (text literal : List Char) :
    (∃ i k, (ofParts (anchoredParts front back literal)).Matches text i k) ↔
      ∃ before behind, text = before ++ literal ++ behind ∧
        (front = true → before = []) ∧ (back = true → behind = []) := by
  simp only [matches_anchoredParts]
  constructor
  · rintro ⟨i, k, first, ⟨behind, rest⟩, inside, last, -⟩
    refine ⟨text.take i, behind, ?_, ?_, ?_⟩
    · rw [List.append_assoc, rest, List.take_append_drop]
    · intro anchor
      rw [first anchor, List.take_zero]
    · intro anchor
      have length := congrArg List.length rest
      rw [List.length_append, List.length_drop, ← last anchor] at length
      exact List.eq_nil_of_length_eq_zero (by omega)
  · rintro ⟨before, behind, rfl, first, last⟩
    refine ⟨before.length, before.length + literal.length, ?_, ?_, ?_, ?_, rfl⟩
    · intro anchor
      rw [first anchor, List.length_nil]
    · rw [List.append_assoc, List.drop_left]
      exact List.prefix_append _ _
    · rw [List.length_append, List.length_append]
      exact Nat.le_add_right _ _
    · intro anchor
      rw [last anchor, List.append_nil, List.length_append]

/-- Whether a character, outside of brackets, spells itself. -/
def isPlain (c : Char) : Bool := isDirect c && c != '^' && c != '$'

theorem isDirect_of_isPlain {c : Char} (plain : isPlain c = true) : isDirect c = true := by
  simp only [isPlain, Bool.and_eq_true] at plain
  exact plain.1.1

theorem ofDirect_of_isPlain {c : Char} (plain : isPlain c = true) :
    ofDirect c = one (.singleton c) 0 := by
  simp only [isPlain, Bool.and_eq_true, bne_iff_ne] at plain
  simp [ofDirect, plain]

/-- A literal is found just where it stands, if it is anchored only at an end of the text. -/
theorem parse?_anchored (front back : Bool) {literal : String}
    (plain : literal.toList.all isPlain = true)
    (short : stateSize * literal.utf8ByteSize + 304 ≤ maxSize) :
    ∃ pattern, parse? (anchored front back literal) = some pattern ∧
      ∀ text, pattern.matchesIn text = true ↔
        ∃ before behind, text.toList = before ++ literal.toList ++ behind ∧
          (front = true → before = []) ∧ (back = true → behind = []) := by
  have direct : literal.toList.all isDirect = true :=
    List.all_eq_true.mpr fun c member => isDirect_of_isPlain (List.all_eq_true.mp plain c member)
  have spelled : (anchored front back literal).toList.map ofDirect =
      anchoredParts front back literal.toList := by
    have letters : literal.toList.map ofDirect =
        literal.toList.map fun c => one (.singleton c) 0 :=
      List.map_congr_left fun c member => ofDirect_of_isPlain (List.all_eq_true.mp plain c member)
    rw [toList_anchored, anchoredParts, ← letters]
    cases front <;> cases back <;> simp [ofDirect]
  refine ⟨ofParts (anchoredParts front back literal.toList), ?_, fun text => ?_⟩
  · rw [← spelled]
    refine parse?_direct _ ?_ (fits_ofDirect ?_)
    · rw [toList_anchored, List.all_append, List.all_append, direct]
      cases front <;> cases back <;> rfl
    · have start : total ((if front then ['^'] else []).map Char.utf8Size) ≤ 1 := by
        cases front <;> decide
      have finish : total ((if back then ['$'] else []).map Char.utf8Size) ≤ 1 := by
        cases back <;> decide
      rw [toList_anchored, List.map_append, List.map_append, total_append, total_append,
        total_utf8Size]
      simp only [stateSize] at short ⊢
      omega
  · rw [matchesIn_iff, exists_matches_anchoredParts_iff]

example : (parse? "^A0").map (fun pattern =>
    (pattern.matchesIn "A0010203", pattern.matchesIn "FFA0")) = some (true, false) := by
  decide +kernel

/-- A pattern for serial numbers that spells digits asks for those digits, at the beginning or the
end if it is anchored there. -/
theorem accepts_anchored (front back : Bool) {literal : String}
    (plain : literal.toList.all isPlain = true)
    (short : stateSize * literal.utf8ByteSize + 304 ≤ maxSize) :
    ∃ pattern, parse? (anchored front back literal) = some pattern ∧
      ∀ (identifier : Pool.Identifier) (sam : Pool.Descriptor),
        identifier.pattern = some pattern.matchesIn →
        (identifier.accepts sam = true ↔
          sam.group = identifier.group ∧
          (identifier.generation = .any ∨ identifier.generation = sam.generation) ∧
          ∃ before behind, (Hex.encode sam.serial).toList = before ++ literal.toList ++ behind ∧
            (front = true → before = []) ∧ (back = true → behind = [])) := by
  obtain ⟨pattern, parsed, matches_iff⟩ := parse?_anchored front back plain short
  refine ⟨pattern, parsed, fun identifier sam named => ?_⟩
  rw [← matches_iff]
  simp [Pool.Identifier.accepts, named, and_assoc]

end Pattern

end FareTerminal
