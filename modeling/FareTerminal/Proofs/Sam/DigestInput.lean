import FareTerminal.Proofs.Apdu.Framing
import FareTerminal.Proofs.Sam.Requests

/-! What a security module makes a digest of: the data that it finds in the commands that begin and
continue the digest, going by their length bytes. -/

namespace FareTerminal.Sam

open Apdu.Command (delimited delimitedData)

/-- What stands before the response to the opening where the key is given by identifier and
version. -/
def keyReference (kif : Option UInt8) (kvc : UInt8) : Bytes :=
  match kif.filter (· ≠ 0xFF) with
  | some kif => [kif, kvc]
  | none => []

/-- The parts to be digested after one more command. -/
def digestStep (parts : List Bytes) (bytes : Bytes) : List Bytes :=
  match bytes with
  | _ :: ins :: _ =>
    if ins = 0x8A then [delimitedData bytes]
    else if ins = 0x8C then parts ++ [delimitedData bytes]
    else parts
  | _ => parts

/-- The parts of which a security module makes a digest, by what it was sent. -/
def digestParts (sent : List Bytes) : List Bytes := sent.foldl digestStep []

/-- The parts to be digested after one more question. -/
def Call.feed (parts : List Bytes) : Call → List Bytes
  | beginDigest response kif kvc _ => [delimited (keyReference kif kvc ++ response)]
  | updateDigest command response => parts ++ [delimited command, delimited response]
  | selectDiversifier _ | getChallenge | finalizeDigest | verifyMac _ | prepareChange ..
  | checkChange _ => parts

theorem digestStep_toBytes (parts : List Bytes) (command : Apdu.Command) :
    digestStep parts command.toBytes =
      if command.ins = 0x8A then [delimited command.data]
      else if command.ins = 0x8C then parts ++ [delimited command.data]
      else parts := by
  rw [← Apdu.Command.delimitedData_toBytes]
  rfl

theorem data_digestInit (kif : Option UInt8) (kvc keyIndex : UInt8) (response : Bytes) :
    (Apdu.Command.digestInit kif kvc keyIndex response).data =
      keyReference kif kvc ++ response := by
  unfold Apdu.Command.digestInit keyReference
  cases kif.filter (· ≠ 0xFF) <;> rfl

theorem ins_digestInit (kif : Option UInt8) (kvc keyIndex : UInt8) (response : Bytes) :
    (Apdu.Command.digestInit kif kvc keyIndex response).ins = 0x8A := by
  unfold Apdu.Command.digestInit
  split <;> rfl

/-- The commands for a question feed the digest with what they should, as far as it is delimited. -/
theorem foldl_digestStep_wire (call : Call) (parts : List Bytes) :
    (Client.wire call).foldl digestStep parts = Call.feed parts call := by
  cases call with
  | beginDigest response kif kvc level =>
    simp [Client.wire, Client.requests, digestStep_toBytes, ins_digestInit, data_digestInit,
      Call.feed]
  | updateDigest command response =>
    simp [Client.wire, Client.requests, digestStep_toBytes, Apdu.Command.digestUpdate, Call.feed]
  | prepareChange action command response data =>
    cases action <;> rfl
  | selectDiversifier serial => rfl
  | getChallenge => rfl
  | finalizeDigest => rfl
  | verifyMac signature => rfl
  | checkChange signature => rfl

theorem foldl_digestStep_flatMap_wire (calls : List Call) (parts : List Bytes) :
    (calls.flatMap Client.wire).foldl digestStep parts =
      calls.foldl Call.feed parts := by
  rw [List.foldl_flatMap]
  simp only [foldl_digestStep_wire]

/-- Each exchange feeds the digest with the command and the response. -/
theorem foldl_feed_updateDigest (exchanges : List (Bytes × Apdu.Response)) (parts : List Bytes) :
    (exchanges.map fun (command, response) => Call.updateDigest command response.toBytes).foldl
        Call.feed parts =
      parts ++ (exchanges.flatMap fun (command, response) =>
        [command, response.toBytes]).map delimited := by
  induction exchanges generalizing parts with
  | nil => simp
  | cons exchange rest ih =>
    rw [List.map_cons, List.foldl_cons, ih]
    simp [Call.feed]

end FareTerminal.Sam
