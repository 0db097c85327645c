import FareTerminal.Sam.Call

/-! What a secure session runs on: a reader with a card, and a security module. -/

namespace FareTerminal

/-- A terminal sends commands to the card and questions to the security module. -/
class Terminal (τ : Type) where
  transmit : Bytes → EStateM ReaderError τ Apdu.Response
  consult : (call : Sam.Call) → EStateM SessionError τ call.Answer

/-- A reader and a security module side by side. -/
structure Bench (ρ σ : Type) where
  card : ρ
  sam : σ

namespace Bench

variable {ρ σ : Type}

def onCard {ε α : Type} (work : EStateM ε ρ α) : EStateM ε (Bench ρ σ) α := fun bench =>
  match work bench.card with
  | .ok a card => .ok a { bench with card }
  | .error e card => .error e { bench with card }

def onSam {ε α : Type} (work : EStateM ε σ α) : EStateM ε (Bench ρ σ) α := fun bench =>
  match work bench.sam with
  | .ok a sam => .ok a { bench with sam }
  | .error e sam => .error e { bench with sam }

instance [Reader ρ] [SecurityModule σ] : Terminal (Bench ρ σ) where
  transmit command := onCard (Reader.transmit command)
  consult call := onSam (SecurityModule.consult call)

end Bench

end FareTerminal
