import FareTerminal.Bytes.BigEndian
import FareTerminal.StatusWord

/-! Responses: data followed by the status word. `ofBytes?` and `toBytes` are inverse to each other
(`ofBytes?_toBytes`, `toBytes_of_ofBytes?`). -/

namespace FareTerminal.Apdu

/-- What came back for a command. -/
structure Response where
  data : Bytes
  status : StatusWord
  deriving Repr, DecidableEq

namespace Response

def sw1 (response : Response) : UInt8 := UInt8.ofNat (response.status.toNat / 256)

def sw2 (response : Response) : UInt8 := UInt8.ofNat response.status.toNat

/-- Whether the command was carried out. -/
def isSuccess (response : Response) : Bool := response.status == .success

def toBytes (response : Response) : Bytes := response.data ++ BigEndian.encode16 response.status

/-- Splits received bytes; there have to be at least the two of the status word. -/
def ofBytes? (raw : Bytes) : Option Response :=
  if raw.length < 2 then none
  else some ⟨raw.take (raw.length - 2), BigEndian.word16 (raw.drop (raw.length - 2))⟩

def statusText (response : Response) : String := Hex.word16 response.status

def statusDescription (response : Response) : String :=
  response.statusText ++ " (" ++ response.status.description ++ ")"

@[simp] theorem length_toBytes (response : Response) :
    response.toBytes.length = response.data.length + 2 := by simp [toBytes]

@[simp] theorem ofBytes?_toBytes (response : Response) :
    ofBytes? response.toBytes = some response := by
  simp [ofBytes?, toBytes]

/-- Nothing is lost of received bytes. -/
theorem toBytes_of_ofBytes? {raw : Bytes} {response : Response} (h : ofBytes? raw = some response) :
    response.toBytes = raw := by
  unfold ofBytes? at h
  split at h
  · simp at h
  · obtain rfl := Option.some.inj h
    have length : (raw.drop (raw.length - 2)).length = 2 := by rw [List.length_drop]; omega
    simp [toBytes, BigEndian.encode16_word16 length]

end Response

end FareTerminal.Apdu
