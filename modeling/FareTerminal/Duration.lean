/-! Spans of time, and the text that shows one: `999ns`, `1.5ms`, `10s`. -/

namespace FareTerminal

/-- A span of time in whole nanoseconds. -/
structure Duration where
  nanoseconds : Nat
  deriving Repr, DecidableEq, Ord

namespace Duration

instance : LT Duration := ⟨fun a b => a.nanoseconds < b.nanoseconds⟩
instance : LE Duration := ⟨fun a b => a.nanoseconds ≤ b.nanoseconds⟩

instance (a b : Duration) : Decidable (a < b) := inferInstanceAs (Decidable (a.nanoseconds < _))
instance (a b : Duration) : Decidable (a ≤ b) := inferInstanceAs (Decidable (a.nanoseconds ≤ _))

def ofMilliseconds (n : Nat) : Duration := ⟨1000000 * n⟩

def ofSeconds (n : Nat) : Duration := ⟨1000000000 * n⟩

/-- The longest span that can be asked for. -/
def longest : Duration := ⟨1000000000 * (UInt64.size - 1) + 999999999⟩

/-- The largest unit that the span fills at least once: how many decimals of it a nanosecond is,
and its sign. -/
def unit (span : Duration) : Nat × String :=
  if 1000000000 ≤ span.nanoseconds then (9, "s")
  else if 1000000 ≤ span.nanoseconds then (6, "ms")
  else if 1000 ≤ span.nanoseconds then (3, "\u00b5s")
  else (0, "ns")

/-- The decimals of `part / 10 ^ places`, without trailing zeros. -/
def decimals : Nat → Nat → List Char
  | 0, _ => []
  | places + 1, part =>
    if part = 0 then []
    else Nat.digitChar (part / Nat.pow 10 places) :: decimals places (part % Nat.pow 10 places)

/-- The exact number of units, with as few decimals as it takes, and the sign of the unit. -/
def text (span : Duration) : String :=
  let (places, sign) := span.unit
  let fraction := decimals places (span.nanoseconds % Nat.pow 10 places)
  toString (span.nanoseconds / Nat.pow 10 places) ++
    (if fraction.isEmpty then "" else String.ofList ('.' :: fraction)) ++ sign

end Duration

end FareTerminal
