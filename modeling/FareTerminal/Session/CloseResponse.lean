import FareTerminal.Bytes

/-! The data with which a card answers the closing of a session: items that it had held back, each
behind its length, and its signature of the session in the last four bytes. -/

namespace FareTerminal.Session

/-- The items that the card had held back, and its signature. -/
structure CloseResponse where
  postponed : List Bytes
  signature : Bytes
  deriving Repr, DecidableEq

namespace CloseResponse

def signatureLength : Nat := 4

/-- Reads items to the end of the data. -/
def items? : Bytes → Option (List Bytes)
  | [] => some []
  | length :: rest =>
    if rest.length < length.toNat then none
    else (items? (rest.drop length.toNat)).map (rest.take length.toNat :: ·)
termination_by data => data.length
decreasing_by simp only [List.length_drop, List.length_cons]; omega

/-- Writes items; the length byte holds the low eight bits of the length. -/
def encodeItems (items : List Bytes) : Bytes :=
  items.flatMap fun item => UInt8.ofNat item.length :: item

def toData (response : CloseResponse) : Bytes :=
  encodeItems response.postponed ++ response.signature

@[simp] theorem encodeItems_nil : encodeItems [] = [] := rfl

@[simp] theorem encodeItems_cons (item : Bytes) (items : List Bytes) :
    encodeItems (item :: items) = UInt8.ofNat item.length :: (item ++ encodeItems items) := rfl

end CloseResponse

end FareTerminal.Session
