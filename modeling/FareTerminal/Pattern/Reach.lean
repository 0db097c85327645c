/-! Which places of a text can be reached from which.

The places of a text are those before its characters and the one behind the last; they are numbered
from zero. -/

namespace FareTerminal

/-- For each place of a text, in order, the set of places that can be reached from it. A set is a
number that has a bit for each of its places. -/
structure Reach where
  rows : List Nat
  deriving Repr, DecidableEq

namespace Reach

/-- Every place reaches itself and no other. -/
def stay (places : Nat) : Reach := ⟨(List.range places).map (1 <<< ·)⟩

/-- Every place before a character of a kind reaches the place behind it. -/
def pass (isOfKind : Char → Bool) (text : List Char) : Reach :=
  ⟨text.zipIdx.map (fun (c, place) => if isOfKind c then 1 <<< (place + 1) else 0) ++ [0]⟩

/-- A place reaches itself where the characters before and behind it are as asked for. -/
def stayWhere (isAsked : Option Char → Option Char → Bool) (text : List Char) : Reach :=
  let before := none :: text.map some
  let behind := text.map some ++ [none]
  ⟨((before.zip behind).zipIdx).map fun ((left, right), place) =>
    if isAsked left right then 1 <<< place else 0⟩

/-- What is reached from one place of a set at least. The rows are those of the places from the
first bit on. -/
def gather (places : Nat) : List Nat → Nat
  | [] => 0
  | row :: rows =>
    if places = 0 then 0 else (if places % 2 = 1 then row else 0) ||| gather (places / 2) rows

@[simp] theorem gather_zero (rows : List Nat) : gather 0 rows = 0 := by
  cases rows <;> simp [gather]

def andThen (first second : Reach) : Reach := ⟨first.rows.map (gather · second.rows)⟩

def orElse (left right : Reach) : Reach := ⟨left.rows.zipWith (· ||| ·) right.rows⟩

def times (reach : Reach) (count : Nat) : Reach :=
  if count = 0 then stay reach.rows.length
  else
    let half := reach.times (count / 2)
    let even := half.andThen half
    if count % 2 = 1 then even.andThen reach else even
termination_by count

/-- The rows of a way that is gone any number of times, from a place on. The way never goes back, so
that what it reaches is known once that is known of the places behind. -/
def closedFrom (place : Nat) : List Nat → List Nat
  | [] => []
  | row :: rows =>
    let behind := closedFrom (place + 1) rows
    (1 <<< place ||| gather (row >>> (place + 1)) behind) :: behind

/-- A way that never goes back, any number of times. -/
def closure (reach : Reach) : Reach := ⟨closedFrom 0 reach.rows⟩

/-- A way that never goes back, at most so often. It leads nowhere new once it was gone as often as
there are places. -/
def atMost (reach : Reach) : Option Nat → Reach
  | some most =>
    let places := reach.rows.length
    if most < places then ((stay places).orElse reach).times most else reach.closure
  | none => reach.closure

/-- A way that never goes back, at least and at most so often. -/
def again (reach : Reach) (least : Nat) (most : Option Nat) : Reach :=
  (reach.times (min least reach.rows.length)).andThen (reach.atMost (most.map (· - least)))

/-- Whether any place reaches any. -/
def leadsOn (reach : Reach) : Bool := reach.rows.any (· != 0)

end Reach

end FareTerminal
