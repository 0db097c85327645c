import Mathlib.Data.List.TakeWhile
import FareTerminal.Text.Lines

/-! Texts put together line by line, and what trimming leaves of them. A text that ends where a line
ends keeps its lines whatever is written behind it. Of a text of white space nothing is left, and of
others what stands between white space if it neither begins nor ends with any. -/

namespace FareTerminal.Text

theorem dropWhile_isBlank_of_head {text : List Char}
    (head : ∀ c ∈ text.head?, isBlank c = false) : text.dropWhile isBlank = text := by
  cases text with
  | nil => rfl
  | cons c rest => exact List.dropWhile_cons_of_neg (by simp [head c rfl])

theorem trim_eq_nil_iff {text : List Char} : trim text = [] ↔ ∀ c ∈ text, isBlank c = true := by
  rw [trim, List.reverse_eq_nil_iff, List.dropWhile_eq_nil_iff]
  constructor
  · intro rest c member
    rw [← List.takeWhile_append_dropWhile (p := isBlank) (l := text)] at member
    obtain member | member := List.mem_append.mp member
    · exact List.mem_takeWhile_imp member
    · exact rest c (List.mem_reverse.mpr member)
  · intro all c member
    exact all c ((List.dropWhile_sublist _).subset (List.mem_reverse.mp member))

theorem trim_append {before text after : List Char} (blank_before : ∀ c ∈ before, isBlank c = true)
    (blank_after : ∀ c ∈ after, isBlank c = true) (head : ∀ c ∈ text.head?, isBlank c = false)
    (last : ∀ c ∈ text.getLast?, isBlank c = false) : trim (before ++ text ++ after) = text := by
  cases text with
  | nil =>
    refine trim_eq_nil_iff.mpr fun c member => ?_
    rw [List.append_nil] at member
    exact (List.mem_append.mp member).elim (blank_before c) (blank_after c)
  | cons first rest =>
    have front : (before ++ first :: rest ++ after).dropWhile isBlank = first :: rest ++ after := by
      rw [List.append_assoc, List.dropWhile_append_of_pos blank_before]
      exact dropWhile_isBlank_of_head head
    have back : (first :: rest ++ after).reverse.dropWhile isBlank = (first :: rest).reverse := by
      rw [List.reverse_append, List.dropWhile_append_of_pos fun c member =>
        blank_after c (List.mem_reverse.mp member)]
      exact dropWhile_isBlank_of_head (by rwa [List.head?_reverse])
    rw [trim, front, back, List.reverse_reverse]

/-- Whether the next character written begins a new line. -/
def EndsLine (text : List Char) : Prop := text = [] ∨ text.getLast? = some '\n'

/-- A line without the carriage return that belongs to its end. -/
def dropReturn (line : List Char) : List Char :=
  if line.getLast? = some '\r' then line.dropLast else line

theorem lines_cons {c : Char} {rest : List Char} (newline : c ≠ '\n')
    (return_newline : ∀ more, c = '\r' → rest ≠ '\n' :: more) :
    lines (c :: rest) =
      match lines rest with
      | [] => [[c]]
      | line :: more => (c :: line) :: more := by
  conv => lhs; unfold lines
  split
  · rename_i same
    cases same
  · rename_i same
    exact absurd (List.cons.inj same).1 newline
  · rename_i same
    obtain ⟨carriage, rest_eq⟩ := List.cons.inj same
    exact absurd rest_eq (return_newline _ carriage)
  · rename_i same
    obtain ⟨rfl, rfl⟩ := List.cons.inj same
    rfl

theorem dropReturn_cons_cons (c d : Char) (rest : List Char) :
    dropReturn (c :: d :: rest) = c :: dropReturn (d :: rest) := by
  unfold dropReturn
  rw [List.getLast?_cons_cons]
  split <;> rfl

theorem lines_append_newline {line : List Char} (within : '\n' ∉ line) (rest : List Char) :
    lines (line ++ '\n' :: rest) = dropReturn line :: lines rest := by
  induction line with
  | nil => rfl
  | cons c more ih =>
    have newline := (List.ne_of_not_mem_cons within).symm
    cases more with
    | nil =>
      by_cases carriage : c = '\r'
      · subst carriage
        rfl
      · rw [List.singleton_append, lines_cons newline fun _ same => absurd same carriage]
        simp [dropReturn, carriage]
    | cons d more =>
      have within := List.not_mem_of_not_mem_cons within
      have next : ∀ rest', c = '\r' → d :: more ++ '\n' :: rest ≠ '\n' :: rest' :=
        fun _ _ same => List.ne_of_not_mem_cons within (List.cons.inj same).1.symm
      rw [List.cons_append, lines_cons newline next, ih within, dropReturn_cons_cons]

/-- A text without a line feed is one line. -/
theorem lines_of_not_mem {line : List Char} (within : '\n' ∉ line) (written : line ≠ []) :
    lines line = [line] := by
  induction line with
  | nil => exact absurd rfl written
  | cons c more ih =>
    have newline := (List.ne_of_not_mem_cons within).symm
    have within := List.not_mem_of_not_mem_cons within
    have next : ∀ rest, c = '\r' → more ≠ '\n' :: rest := by
      rintro rest - rfl
      exact within List.mem_cons_self
    rw [lines_cons newline next]
    cases more with
    | nil => rfl
    | cons d more => rw [ih within (List.cons_ne_nil d more)]

/-- A text that ends a line is put together from lines and their ends. -/
@[elab_as_elim]
theorem EndsLine.induction {motive : List Char → Prop} (nil : motive [])
    (line : ∀ line rest, '\n' ∉ line → motive rest → motive (line ++ '\n' :: rest))
    {text : List Char} (ends : EndsLine text) : motive text := by
  induction length : text.length using Nat.strongRecOn generalizing text with
  | _ length ih =>
    obtain rfl | last := ends
    · exact nil
    · obtain ⟨first, rest, rfl, within⟩ := List.eq_append_cons_of_mem (List.mem_of_getLast? last)
      refine line first rest within (ih _ ?_ ?_ rfl)
      · simp [← length]
        omega
      · cases rest with
        | nil => exact .inl rfl
        | cons c rest => exact .inr (by simpa using last)

theorem lines_append {first : List Char} (ends : EndsLine first) (second : List Char) :
    lines (first ++ second) = lines first ++ lines second := by
  refine EndsLine.induction rfl (fun line rest within ih => ?_) ends
  rw [List.append_assoc, List.cons_append, lines_append_newline within, lines_append_newline within,
    ih, List.cons_append]

/-- There are as many lines as line feeds. -/
theorem length_lines {text : List Char} (ends : EndsLine text) :
    (lines text).length = text.count '\n' := by
  refine EndsLine.induction rfl (fun line rest within ih => ?_) ends
  rw [lines_append_newline within, List.length_cons, ih, List.count_append,
    List.count_eq_zero_of_not_mem within, List.count_cons_self, Nat.zero_add]

end FareTerminal.Text
