import Mathlib.Data.List.GetD
import FareTerminal.Pattern.Reach

/-! What leads where in a text. A way that never goes back and is gone as often as there are places
stays at one of them, and there it can be gone once more or once less. -/

namespace FareTerminal

/-- A way from place to place that is gone so often. -/
inductive Times (way : Nat → Nat → Prop) : Nat → Nat → Nat → Prop
  | zero (place : Nat) : Times way 0 place place
  | succ {count i j k : Nat} (before : Times way count i j) (last : way j k) :
    Times way (count + 1) i k

namespace Times

variable {way : Nat → Nat → Prop} {m n i j k : Nat}

@[simp] theorem zero_iff : Times way 0 i j ↔ i = j := by
  constructor
  · rintro ⟨⟩
    rfl
  · rintro rfl
    exact zero i

theorem succ_iff : Times way (n + 1) i k ↔ ∃ j, Times way n i j ∧ way j k := by
  constructor
  · rintro (_ | ⟨before, last⟩)
    exact ⟨_, before, last⟩
  · rintro ⟨j, before, last⟩
    exact before.succ last

theorem add_iff : Times way (m + n) i k ↔ ∃ j, Times way m i j ∧ Times way n j k := by
  induction n generalizing k with
  | zero => simp
  | succ n ih =>
    simp only [← Nat.add_assoc, succ_iff, ih]
    exact ⟨fun ⟨l, ⟨j, first, second⟩, last⟩ => ⟨j, first, l, second, last⟩,
      fun ⟨j, first, l, second, last⟩ => ⟨l, ⟨j, first, second⟩, last⟩⟩

theorem le (forward : ∀ i j, way i j → i ≤ j) (times : Times way n i k) : i ≤ k := by
  induction times with
  | zero place => exact Nat.le_refl place
  | succ _ last ih => exact Nat.le_trans ih (forward _ _ last)

/-- A way to another place goes ahead at some step, and the steps before that do not matter. -/
theorem eq_or_ahead (forward : ∀ i j, way i j → i ≤ j) (times : Times way n i k) :
    i = k ∨ ∃ j, i < j ∧ way i j ∧ ∃ m, Times way m j k := by
  induction times with
  | zero => exact .inl rfl
  | @succ _ i j k _ last ih =>
    obtain rfl | ⟨l, ahead, first, m, before⟩ := ih
    · obtain rfl | ahead := Nat.eq_or_lt_of_le (forward i k last)
      · exact .inl rfl
      · exact .inr ⟨k, ahead, last, 0, .zero k⟩
    · exact .inr ⟨l, ahead, first, m + 1, before.succ last⟩

/-- A way that does not get ahead each time can be gone once less. -/
theorem of_succ (forward : ∀ i j, way i j → i ≤ j) (times : Times way (n + 1) i k)
    (near : k ≤ i + n) : Times way n i k := by
  induction n generalizing k with
  | zero =>
    obtain ⟨j, before, last⟩ := succ_iff.mp times
    obtain rfl := zero_iff.mp before
    exact zero_iff.mpr (Nat.le_antisymm (forward i k last) near)
  | succ n ih =>
    obtain ⟨j, before, last⟩ := succ_iff.mp times
    obtain rfl | ahead := Nat.eq_or_lt_of_le (forward j k last)
    · exact before
    · exact (ih before (Nat.le_of_lt_succ (Nat.lt_of_lt_of_le ahead near))).succ last

/-- A way that does not get ahead each time can be gone once more. -/
theorem to_succ (forward : ∀ i j, way i j → i ≤ j) (times : Times way n i k)
    (near : k < i + n) : Times way (n + 1) i k := by
  induction times with
  | zero => exact absurd near (Nat.lt_irrefl _)
  | @succ n i j k before last ih =>
    obtain rfl | ahead := Nat.eq_or_lt_of_le (forward j k last)
    · exact (before.succ last).succ last
    · exact (ih (Nat.lt_of_lt_of_le ahead (Nat.le_of_lt_succ near))).succ last

/-- It does not matter how often a way is gone that has no place to get ahead to each time. -/
theorem iff_of_le (forward : ∀ i j, way i j → i ≤ j) (near : k < m) (le : m ≤ n) :
    Times way n i k ↔ Times way m i k := by
  obtain ⟨more, rfl⟩ := Nat.exists_eq_add_of_le le
  clear le
  induction more with
  | zero => exact Iff.rfl
  | succ more ih =>
    have near : k < i + (m + more) := by omega
    exact ⟨fun times => ih.mp (times.of_succ forward (Nat.le_of_lt near)),
      fun times => (ih.mpr times).to_succ forward near⟩

end Times

namespace Reach

variable {reach first second : Reach} {places i j : Nat}

/-- Whether a place leads to a place. -/
def leads (reach : Reach) (i j : Nat) : Bool := (reach.rows.getD i 0).testBit j

/-- A reach that shows a way on so many places, which never goes back. -/
structure Forward (reach : Reach) (places : Nat) : Prop where
  length : reach.rows.length = places
  le : ∀ i j, reach.leads i j = true → i ≤ j
  lt : ∀ i j, reach.leads i j = true → j < places

theorem lt_length (leads : reach.leads i j = true) : i < reach.rows.length := by
  refine Nat.lt_of_not_le fun beyond => ?_
  rw [Reach.leads, List.getD_eq_default _ _ beyond, Nat.zero_testBit] at leads
  cases leads

@[simp] theorem leadsOn_iff : reach.leadsOn = true ↔ ∃ i j, reach.leads i j = true := by
  simp only [leadsOn, List.any_eq_true, bne_iff_ne]
  constructor
  · rintro ⟨row, member, some⟩
    obtain ⟨i, inside, rfl⟩ := List.mem_iff_getElem.mp member
    obtain ⟨j, set⟩ := Nat.exists_testBit_of_ne_zero some
    exact ⟨i, j, by rwa [leads, List.getD_eq_getElem _ _ inside]⟩
  · rintro ⟨i, j, leads⟩
    have inside := lt_length leads
    rw [Reach.leads, List.getD_eq_getElem _ _ inside] at leads
    refine ⟨_, List.getElem_mem inside, fun none => ?_⟩
    rw [none, Nat.zero_testBit] at leads
    cases leads

theorem testBit_one_shiftLeft : (1 <<< i).testBit j = true ↔ i = j := by
  rw [Nat.one_shiftLeft, Nat.testBit_two_pow, decide_eq_true_iff]

theorem testBit_ite_shiftLeft {there : Bool} :
    (if there then 1 <<< i else 0).testBit j = true ↔ there = true ∧ i = j := by
  cases there with
  | true => rw [if_pos rfl, testBit_one_shiftLeft, and_iff_right rfl]
  | false => simp

@[simp] theorem length_stay (places : Nat) : (stay places).rows.length = places := by simp [stay]

@[simp] theorem leads_stay : (stay places).leads i j = true ↔ i < places ∧ i = j := by
  unfold leads stay
  rw [List.getD_eq_getElem?_getD, List.getElem?_map]
  by_cases inside : i < places
  · rw [List.getElem?_range inside, Option.map_some, Option.getD_some, testBit_one_shiftLeft]
    exact (and_iff_right inside).symm
  · rw [List.getElem?_eq_none (by simpa using inside)]
    simp [inside]

theorem forward_stay (places : Nat) : (stay places).Forward places where
  length := length_stay places
  le _ _ leads := Nat.le_of_eq (leads_stay.mp leads).2
  lt _ _ leads := (leads_stay.mp leads).2 ▸ (leads_stay.mp leads).1

theorem testBit_gather (rows : List Nat) (places j : Nat) :
    (gather places rows).testBit j = true ↔
      ∃ i, places.testBit i = true ∧ (rows.getD i 0).testBit j = true := by
  induction rows generalizing places with
  | nil => simp [gather]
  | cons row rows ih =>
    unfold gather
    split
    · rename_i none
      simp [none]
    · rw [Nat.testBit_or, Bool.or_eq_true, ih]
      -- The first bit is for the first row, and the others are for the other rows.
      constructor
      · rintro (here | ⟨i, further, leads⟩)
        · split at here
          · rename_i odd
            exact ⟨0, by simpa [Nat.testBit_zero] using odd, here⟩
          · simp at here
        · exact ⟨i + 1, by rwa [Nat.testBit_succ], leads⟩
      · rintro ⟨_ | i, set, leads⟩
        · rw [Nat.testBit_zero, decide_eq_true_iff] at set
          exact .inl (by simpa [set] using leads)
        · exact .inr ⟨i, by rwa [Nat.testBit_succ] at set, leads⟩

@[simp] theorem leads_andThen :
    (first.andThen second).leads i j = true ↔
      ∃ k, first.leads i k = true ∧ second.leads k j = true := by
  have row : (first.andThen second).rows.getD i 0 = gather (first.rows.getD i 0) second.rows := by
    have none : gather 0 second.rows = 0 := gather_zero second.rows
    rw [andThen, ← none, List.getD_map, none]
  rw [leads, row, testBit_gather]
  rfl

theorem Forward.andThen (one : first.Forward places) (two : second.Forward places) :
    (first.andThen second).Forward places where
  length := (List.length_map _).trans one.length
  le i j leads := by
    obtain ⟨k, before, behind⟩ := leads_andThen.mp leads
    exact Nat.le_trans (one.le i k before) (two.le k j behind)
  lt i j leads := by
    obtain ⟨k, -, behind⟩ := leads_andThen.mp leads
    exact two.lt k j behind

theorem leads_orElse (alike : first.rows.length = second.rows.length) :
    (first.orElse second).leads i j = true ↔
      first.leads i j = true ∨ second.leads i j = true := by
  have row : (first.orElse second).rows.getD i 0 =
      first.rows.getD i 0 ||| second.rows.getD i 0 := by
    simp only [orElse, List.getD_eq_getElem?_getD, List.getElem?_zipWith]
    by_cases inside : i < first.rows.length
    · rw [List.getElem?_eq_getElem inside, List.getElem?_eq_getElem (alike ▸ inside)]
      rfl
    · rw [List.getElem?_eq_none (Nat.le_of_not_lt inside),
        List.getElem?_eq_none (alike ▸ Nat.le_of_not_lt inside)]
      rfl
  rw [leads, row, Nat.testBit_or, Bool.or_eq_true]
  rfl

theorem Forward.orElse (one : first.Forward places) (two : second.Forward places) :
    (first.orElse second).Forward places where
  length := by rw [Reach.orElse, List.length_zipWith, one.length, two.length, Nat.min_self]
  le i j leads :=
    ((leads_orElse (one.length.trans two.length.symm)).mp leads).elim (one.le i j) (two.le i j)
  lt i j leads :=
    ((leads_orElse (one.length.trans two.length.symm)).mp leads).elim (one.lt i j) (two.lt i j)

/-- The ways that a reach shows, as a relation. -/
abbrev Way (reach : Reach) (i j : Nat) : Prop := reach.leads i j = true

theorem Forward.times_lt (forward : reach.Forward places) {count : Nat}
    (times : Times reach.Way count i j) (inside : i < places) : j < places := by
  cases times with
  | zero => exact inside
  | succ _ last => exact forward.lt _ _ last

/-- One after the other, a way is gone as often as by both together. -/
theorem Forward.leads_andThen (forward : reach.Forward places) {m n : Nat}
    (one : ∀ i j, first.leads i j = true ↔ i < places ∧ Times reach.Way m i j)
    (two : ∀ i j, second.leads i j = true ↔ i < places ∧ Times reach.Way n i j) (i j : Nat) :
    (first.andThen second).leads i j = true ↔ i < places ∧ Times reach.Way (m + n) i j := by
  rw [Reach.leads_andThen, Times.add_iff]
  constructor
  · rintro ⟨k, before, behind⟩
    obtain ⟨inside, before⟩ := (one i k).mp before
    exact ⟨inside, k, before, ((two k j).mp behind).2⟩
  · rintro ⟨inside, k, before, behind⟩
    exact ⟨k, (one i k).mpr ⟨inside, before⟩,
      (two k j).mpr ⟨forward.times_lt before inside, behind⟩⟩

theorem Forward.leads_times (forward : reach.Forward places) (count i j : Nat) :
    (reach.times count).leads i j = true ↔ i < places ∧ Times reach.Way count i j := by
  induction count using Nat.strongRecOn generalizing i j with
  | ind count ih =>
    unfold times
    split
    · rename_i none
      rw [none, forward.length, leads_stay, Times.zero_iff]
    · rename_i some
      have half := ih (count / 2) (by omega)
      have even := forward.leads_andThen half half
      simp only
      split
      · have once (i j : Nat) : reach.leads i j = true ↔ i < places ∧ Times reach.Way 1 i j := by
          rw [← Nat.zero_add 1, Times.succ_iff]
          simpa using fun leads => forward.length ▸ lt_length leads
        have odd : count / 2 + count / 2 + 1 = count := by omega
        rw [forward.leads_andThen even once, odd]
      · have same : count / 2 + count / 2 = count := by omega
        rw [even, same]

theorem length_closedFrom (place : Nat) (rows : List Nat) :
    (closedFrom place rows).length = rows.length := by
  induction rows generalizing place with
  | nil => rfl
  | cons row rows ih => exact congrArg (· + 1) (ih (place + 1))

/-- From a place on, the rows tell what is reached in any number of ways. -/
theorem Forward.testBit_closedFrom (forward : reach.Forward places) {rows : List Nat}
    {place : Nat} (same : reach.rows.drop place = rows) (inside : i < rows.length) (j : Nat) :
    ((closedFrom place rows).getD i 0).testBit j = true ↔
      ∃ count, Times reach.Way count (place + i) j := by
  -- From behind: what a place reaches is known once that is known of the places it leads on to.
  induction rows generalizing place i with
  | nil => cases inside
  | cons row rows ih =>
    have rest : reach.rows.drop (place + 1) = rows := by
      rw [← List.drop_drop, same, List.drop_one, List.tail_cons]
    have first : reach.rows.getD place 0 = row := by
      rw [List.getD_eq_getElem?_getD, ← List.head?_drop, same]
      rfl
    have ends : place + 1 + rows.length = places := by
      have length := congrArg List.length same
      rw [List.length_drop, forward.length, List.length_cons] at length
      omega
    cases i with
    | succ i =>
      rw [closedFrom, List.getD_cons_succ, ih rest (Nat.lt_of_succ_lt_succ inside)]
      simp only [Nat.add_assoc, Nat.add_comm 1 i]
    | zero =>
      rw [closedFrom, List.getD_cons_zero, Nat.testBit_or, Bool.or_eq_true, testBit_one_shiftLeft,
        testBit_gather, Nat.add_zero]
      have leads (i : Nat) :
          (row >>> (place + 1)).testBit i = reach.leads place (place + 1 + i) := by
        rw [Nat.testBit_shiftRight, Reach.leads, first]
      simp only [leads]
      constructor
      · rintro (rfl | ⟨i, on, closed⟩)
        · exact ⟨0, .zero place⟩
        · have within : i < rows.length := by
            have := forward.lt _ _ on
            omega
          obtain ⟨count, times⟩ := (ih rest within).mp closed
          exact ⟨1 + count, Times.add_iff.mpr ⟨place + 1 + i, .succ (.zero place) on, times⟩⟩
      · rintro ⟨count, times⟩
        obtain rfl | ⟨k, ahead, on, m, behind⟩ := times.eq_or_ahead forward.le
        · exact .inl rfl
        · obtain ⟨i, rfl⟩ := Nat.exists_eq_add_of_le ahead
          have within : i < rows.length := by
            have := forward.lt _ _ on
            omega
          exact .inr ⟨i, on, (ih rest within).mpr ⟨m, behind⟩⟩

theorem Forward.leads_closure (forward : reach.Forward places) (i j : Nat) :
    reach.closure.leads i j = true ↔ i < places ∧ ∃ count, Times reach.Way count i j := by
  have length : (closedFrom 0 reach.rows).length = places :=
    (length_closedFrom 0 reach.rows).trans forward.length
  by_cases inside : i < places
  · have row := forward.testBit_closedFrom (List.drop_zero) (forward.length.symm ▸ inside) j
    rw [Nat.zero_add] at row
    rw [and_iff_right inside, ← row]
    rfl
  · refine iff_of_false (fun leads => inside ?_) fun h => inside h.1
    exact length ▸ lt_length leads

/-- A way or none, so often. -/
theorem Forward.times_orElse_stay (forward : reach.Forward places) {n : Nat} (inside : i < places) :
    Times ((stay places).orElse reach).Way n i j ↔ ∃ m, m ≤ n ∧ Times reach.Way m i j := by
  have way (j k : Nat) : ((stay places).orElse reach).Way j k ↔
      (j < places ∧ j = k) ∨ reach.Way j k := by
    rw [Way, leads_orElse ((length_stay places).trans forward.length.symm), leads_stay]
  induction n generalizing j with
  | zero => simp
  | succ n ih =>
    simp only [Times.succ_iff, ih, way]
    constructor
    · rintro ⟨k, ⟨m, le, before⟩, ⟨-, rfl⟩ | last⟩
      · exact ⟨m, Nat.le_succ_of_le le, before⟩
      · exact ⟨m + 1, Nat.succ_le_succ le, before.succ last⟩
    · rintro ⟨m, le, times⟩
      cases times with
      | zero => exact ⟨i, ⟨0, Nat.zero_le n, .zero i⟩, .inl ⟨inside, rfl⟩⟩
      | succ before last => exact ⟨_, ⟨_, Nat.le_of_succ_le_succ le, before⟩, .inr last⟩

theorem Forward.leads_atMost (forward : reach.Forward places) (most : Option Nat) (i j : Nat) :
    (reach.atMost most).leads i j = true ↔
      i < places ∧ ∃ count, (∀ m, most = some m → count ≤ m) ∧ Times reach.Way count i j := by
  cases most with
  | none => simpa [atMost] using forward.leads_closure i j
  | some most =>
    simp only [atMost, forward.length, Option.some.injEq, forall_eq']
    split
    · rw [((forward_stay places).orElse forward).leads_times]
      exact and_congr_right fun inside => forward.times_orElse_stay inside
    · rename_i many
      rw [forward.leads_closure]
      refine and_congr_right fun inside => ⟨?_, fun ⟨count, _, times⟩ => ⟨count, times⟩⟩
      rintro ⟨count, times⟩
      obtain le | more := Nat.le_total count most
      · exact ⟨count, le, times⟩
      · have near : j < most :=
          Nat.lt_of_lt_of_le (forward.times_lt times inside) (Nat.le_of_not_lt many)
        exact ⟨most, Nat.le_refl most, (Times.iff_of_le forward.le near more).mp times⟩

theorem Forward.leads_again (forward : reach.Forward places) (least : Nat) (most : Option Nat)
    (i j : Nat) :
    (reach.again least most).leads i j = true ↔
      i < places ∧ ∃ extra, (∀ m, most = some m → extra ≤ m - least) ∧
        Times reach.Way (least + extra) i j := by
  have enough {k : Nat} (inside : k < places) :
      Times reach.Way (min least places) i k ↔ Times reach.Way least i k := by
    obtain le | more := Nat.le_total least places
    · rw [Nat.min_eq_left le]
    · rw [Nat.min_eq_right more, Times.iff_of_le forward.le inside more]
  have bound (extra : Nat) : (∀ m, most.map (· - least) = some m → extra ≤ m) ↔
      ∀ m, most = some m → extra ≤ m - least := by
    cases most <;> simp
  simp only [Reach.again, Reach.leads_andThen, forward.length, forward.leads_times,
    forward.leads_atMost, bound, Times.add_iff]
  constructor
  · rintro ⟨k, ⟨inside, before⟩, within, extra, few, behind⟩
    exact ⟨inside, extra, few, k, (enough within).mp before, behind⟩
  · rintro ⟨inside, extra, few, k, before, behind⟩
    have within := forward.times_lt before inside
    exact ⟨k, ⟨inside, (enough within).mpr before⟩, within, extra, few, behind⟩

theorem length_times (reach : Reach) (count : Nat) :
    (reach.times count).rows.length = reach.rows.length := by
  induction count using Nat.strongRecOn with
  | ind count ih =>
    unfold times
    split
    · exact length_stay _
    · have half := ih (count / 2) (by omega)
      simp only
      split <;> simpa [andThen] using half

theorem Forward.again (forward : reach.Forward places) (least : Nat) (most : Option Nat) :
    (reach.again least most).Forward places where
  length := by
    rw [Reach.again, Reach.andThen, List.length_map, length_times, forward.length]
  le i j leads := by
    obtain ⟨-, extra, -, times⟩ := (forward.leads_again least most i j).mp leads
    exact times.le forward.le
  lt i j leads := by
    obtain ⟨inside, extra, -, times⟩ := (forward.leads_again least most i j).mp leads
    exact forward.times_lt times inside

section Text

variable {isOfKind : Char → Bool} {isAsked : Option Char → Option Char → Bool} {text : List Char}

/-- The character before a place. -/
def before? (text : List Char) : Nat → Option Char
  | 0 => none
  | place + 1 => text[place]?

theorem length_pass (isOfKind : Char → Bool) (text : List Char) :
    (pass isOfKind text).rows.length = text.length + 1 := by
  simp [pass]

theorem leads_pass : (pass isOfKind text).leads i j = true ↔
    (∃ c, text[i]? = some c ∧ isOfKind c = true) ∧ i + 1 = j := by
  unfold leads pass
  rw [List.getD_eq_getElem?_getD, List.getElem?_append, List.length_map, List.length_zipIdx]
  split
  · rename_i inside
    rw [List.getElem?_map, List.getElem?_zipIdx, List.getElem?_eq_getElem inside, Option.map_some,
      Option.map_some, Option.getD_some, testBit_ite_shiftLeft, Nat.zero_add]
    simp only [Option.some.injEq, exists_eq_left']
  · rename_i beyond
    rw [List.getElem?_eq_none (Nat.le_of_not_lt beyond)]
    cases i - text.length <;> simp

theorem forward_pass : (pass isOfKind text).Forward (text.length + 1) where
  length := length_pass isOfKind text
  le i j leads := (leads_pass.mp leads).2 ▸ Nat.le_succ i
  lt i j leads := by
    obtain ⟨⟨c, there, -⟩, rfl⟩ := leads_pass.mp leads
    exact Nat.succ_lt_succ (List.getElem?_eq_some_iff.mp there).1

theorem length_stayWhere (isAsked : Option Char → Option Char → Bool) (text : List Char) :
    (stayWhere isAsked text).rows.length = text.length + 1 := by
  simp [stayWhere]

theorem leads_stayWhere : (stayWhere isAsked text).leads i j = true ↔
    i ≤ text.length ∧ isAsked (before? text i) text[i]? = true ∧ i = j := by
  have row : (stayWhere isAsked text).rows[i]? =
      if i ≤ text.length then
        some (if isAsked (before? text i) text[i]? then 1 <<< i else 0) else none := by
    split
    · rename_i inside
      have before : (none :: text.map some)[i]? = some (before? text i) := by
        cases i with
        | zero => rfl
        | succ i => simp [before?, List.getElem?_eq_getElem (Nat.lt_of_succ_le inside)]
      have behind : (text.map some ++ [none])[i]? = some text[i]? := by
        obtain rfl | inside := Nat.eq_or_lt_of_le inside
        · simp
        · simp [List.getElem?_append, inside]
      have both : ((none :: text.map some).zip (text.map some ++ [none]))[i]? =
          some (before? text i, text[i]?) := List.getElem?_zip_eq_some.mpr ⟨before, behind⟩
      simp only [stayWhere, List.getElem?_map, List.getElem?_zipIdx, both, Option.map_some,
        Nat.zero_add]
    · rename_i beyond
      exact List.getElem?_eq_none (length_stayWhere isAsked text ▸ Nat.lt_of_not_le beyond)
  unfold leads
  rw [List.getD_eq_getElem?_getD, row]
  by_cases inside : i ≤ text.length
  · rw [if_pos inside, Option.getD_some, testBit_ite_shiftLeft, and_iff_right inside]
  · simp [inside]

theorem forward_stayWhere : (stayWhere isAsked text).Forward (text.length + 1) where
  length := length_stayWhere isAsked text
  le i j leads := Nat.le_of_eq (leads_stayWhere.mp leads).2.2
  lt i j leads := by
    obtain ⟨inside, -, rfl⟩ := leads_stayWhere.mp leads
    exact Nat.lt_succ_of_le inside

end Text

end Reach

end FareTerminal
