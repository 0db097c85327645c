import FareTerminal.Pattern
import FareTerminal.Proofs.Pattern.Reach

/-! What a regular expression matches, and that the search for a match finds one just if there is
one. -/

namespace FareTerminal.Pattern

/-- Whether a pattern matches a text from one place to another. -/
def Matches (text : List Char) : Pattern → Nat → Nat → Prop
  | empty, i, j => i ≤ text.length ∧ i = j
  | one set _, i, j => (∃ c, text[i]? = some c ∧ set.contains c = true) ∧ i + 1 = j
  | assertion asked, i, j =>
    i ≤ text.length ∧ asked.holds (Reach.before? text i) text[i]? = true ∧ i = j
  | seq first rest, i, j => ∃ k, first.Matches text i k ∧ rest.Matches text k j
  | alt first rest, i, j => first.Matches text i j ∨ rest.Matches text i j
  | repeated body least most, i, j =>
    i ≤ text.length ∧ ∃ count, least ≤ count ∧ (∀ m, most = some m → count ≤ max least m) ∧
      Times (body.Matches text) count i j
  | group _ body, i, j => body.Matches text i j

theorem forward_reach (text : List Char) (pattern : Pattern) :
    (pattern.reach text).Forward (text.length + 1) := by
  induction pattern with
  | empty => exact Reach.forward_stay _
  | one set brackets => exact Reach.forward_pass
  | assertion asked => exact Reach.forward_stayWhere
  | seq first rest first_ih rest_ih => exact first_ih.andThen rest_ih
  | alt first rest first_ih rest_ih => exact first_ih.orElse rest_ih
  | repeated body least most ih => exact ih.again least most
  | group captures body ih => exact ih

/-- What was worked out about a pattern is what it matches. -/
theorem leads_reach (text : List Char) (pattern : Pattern) (i j : Nat) :
    (pattern.reach text).leads i j = true ↔ pattern.Matches text i j := by
  induction pattern generalizing i j with
  | empty => rw [reach, Reach.leads_stay, Nat.lt_succ_iff, Matches]
  | one set brackets => exact Reach.leads_pass
  | assertion asked => exact Reach.leads_stayWhere
  | seq first rest first_ih rest_ih =>
    simp only [reach, Reach.leads_andThen, Matches, first_ih, rest_ih]
  | alt first rest first_ih rest_ih =>
    have alike := (forward_reach text first).length.trans (forward_reach text rest).length.symm
    simp only [reach, Reach.leads_orElse alike, Matches, first_ih, rest_ih]
  | repeated body least most ih =>
    have way : (body.reach text).Way = body.Matches text := funext₂ fun i j => propext (ih i j)
    rw [reach, (forward_reach text body).leads_again, way, Nat.lt_succ_iff, Matches]
    -- How often the body is matched, beyond what it has to be and altogether.
    refine and_congr_right fun _ => ⟨?_, ?_⟩
    · rintro ⟨extra, few, times⟩
      refine ⟨least + extra, Nat.le_add_right least extra, fun m known => ?_, times⟩
      have := few m known
      omega
    · rintro ⟨count, le, few, times⟩
      refine ⟨count - least, fun m known => ?_, by rwa [Nat.add_sub_cancel' le]⟩
      have := few m known
      omega
  | group captures body ih => exact ih i j

/-- The search finds a match just if there is one. -/
theorem matchesIn_iff (pattern : Pattern) (text : String) :
    pattern.matchesIn text = true ↔ ∃ i j, pattern.Matches text.toList i j := by
  simp only [matchesIn, Reach.leadsOn_iff, leads_reach]

end FareTerminal.Pattern
