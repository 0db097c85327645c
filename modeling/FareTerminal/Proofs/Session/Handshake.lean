import FareTerminal.Proofs.Session.Refusal

/-! When a session is opened. An opening takes six steps between the card and the security module. The
first of them that fails ends it: nothing more is said, and its failure is what becomes of the session. -/

namespace FareTerminal.Session

variable {τ : Type} [Terminal τ]

/-- The card answers the opening: before that, the security module has derived the keys of the card and
has given a challenge to it. -/
def Answered (terminal : τ) (identity : Card.Identity) (level : AccessLevel)
    (address : RecordAddress) (challenge : Bytes) (response : Apdu.Response) (left : τ) : Prop :=
  ∃ t₁ t₂, (Terminal.consult (.selectDiversifier identity.serial)).run terminal = .ok () t₁ ∧
    (Terminal.consult .getChallenge).run t₁ = .ok challenge t₂ ∧
    (Terminal.transmit (openingCommand identity level address challenge).toBytes).run t₂ =
      .ok response left

section Handshake

variable {terminal : τ} {identity : Card.Identity} {settings : Settings} {level : AccessLevel}
  {address : RecordAddress}

/-- A terminal has one answer to the opening. -/
theorem Answered.unique {challenge challenge' : Bytes} {response response' : Apdu.Response}
    {left left' : τ} (h : Answered terminal identity level address challenge response left)
    (h' : Answered terminal identity level address challenge' response' left') :
    challenge' = challenge ∧ response' = response ∧ left' = left := by
  obtain ⟨t₁, t₂, diversified, challenged, answered⟩ := h
  obtain ⟨u₁, u₂, diversified', challenged', answered'⟩ := h'
  cases diversified.symm.trans diversified'
  cases challenged.symm.trans challenged'
  cases answered.symm.trans answered'
  exact ⟨rfl, rfl, rfl⟩

end Handshake

end FareTerminal.Session
