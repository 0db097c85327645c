import FareTerminal.Proofs.Sam.DigestInput
import FareTerminal.Proofs.Session.Digest
import FareTerminal.Proofs.Session.Framing
import FareTerminal.Proofs.Session.Relay

/-! What becomes of the digest's input on the way to the security module. Commands and responses are
wrapped up as data of further commands, where less fits than in what they were themselves; the
security module gets all of it unless a part is longer than 255 bytes. -/

namespace FareTerminal

open Apdu.Command (delimited delimitedData)
open Sam (Call keyReference digestStep digestParts)
open Sam.Client (requests wire)

/-- Whether what has come back, if anything, is short enough to be digested with what goes before or
behind it. -/
def Event.isDigestible : Event → Bool
  | .card _ (.ok response) => response.data.length ≤ 253
  | .sam (.prepareChange ..) (.ok complement) => complement.length ≤ 239
  | _ => true

/-- Whether the question begins the digest or continues it. -/
def Sam.Call.feeds : Sam.Call → Bool
  | beginDigest .. | updateDigest .. => true
  | selectDiversifier _ | getChallenge | finalizeDigest | verifyMac _ | prepareChange ..
  | checkChange _ => false

namespace Session

variable {ρ κ : Type}

/-- What is to be digested by the time that the entries end, in parts: the key reference with the
data of the response to the opening, and all commands and responses since then. -/
def IsDigestInput (identity : Card.Identity) (entries : List Entry) (parts : List Bytes) : Prop :=
  ∃ earlier session level address challenge response kif kvc,
    entries = earlier ++ openingEntries identity level address challenge response kif kvc ++
        session ∧
      (∀ call ∈ calls earlier, call.delimits = false) ∧ Lockstep session ∧
      parts = (keyReference kif kvc ++ response.data) ::
        (exchanges session).flatMap fun (command, response) => [command, response.toBytes]

theorem exists_isDigestInput {identity : Card.Identity} {entries : List Entry}
    (h : Covers identity entries) : ∃ parts, IsDigestInput identity entries parts := by
  obtain ⟨earlier, session, level, address, challenge, response, kif, kvc, split, outside,
    inside⟩ := h
  exact ⟨_, earlier, session, level, address, challenge, response, kif, kvc, split, outside, inside,
    rfl⟩

/-- Questions that were answered were put in full. -/
theorem Relayed.eq_flatMap {entries : List Entry} {sent : List Bytes}
    (h : Relayed (entries.map (·.event)) sent)
    (answered : ∀ entry ∈ entries, entry.event.isAnswered = true) :
    sent = (calls entries).flatMap wire := by
  induction entries generalizing sent with
  | nil => exact h
  | cons entry rest ih =>
    obtain ⟨part, later, rfl, relays, others⟩ := h
    obtain ⟨first, answered⟩ := List.forall_mem_cons.mp answered
    rw [ih others answered]
    obtain ⟨phase, event⟩ := entry
    match event, relays, first with
    | .card command answer, rfl, _ => rfl
    | .sam call (.ok answer), rfl, _ => rfl

theorem foldl_feed_filter (calls : List Call) (parts : List Bytes) :
    calls.foldl Call.feed parts = (calls.filter (!·.isPreparation)).foldl Call.feed parts := by
  induction calls generalizing parts with
  | nil => rfl
  | cons call rest ih =>
    rw [List.foldl_cons, ih]
    cases call <;> rfl

/-- A session's exchanges are what the security module is fed with in its course. -/
theorem Lockstep.foldl_digestStep {entries : List Entry} (h : Lockstep entries) {sent : List Bytes}
    (relayed : Relayed (entries.map (·.event)) sent) (parts : List Bytes) :
    sent.foldl digestStep parts = parts ++ ((exchanges entries).flatMap fun (command, response) =>
      [command, response.toBytes]).map delimited := by
  rw [relayed.eq_flatMap h.1, Sam.foldl_digestStep_flatMap_wire, foldl_feed_filter,
    h.filter_calls_eq, Sam.foldl_feed_updateDigest]

/-- The security module has been fed with what it should be, as far as that was delimited. -/
theorem IsDigestInput.digestParts_eq {identity : Card.Identity} {entries : List Entry}
    {parts sent : List Bytes} (h : IsDigestInput identity entries parts)
    (relayed : Relayed (entries.map (·.event)) sent) : digestParts sent = parts.map delimited := by
  obtain ⟨earlier, session, level, address, challenge, response, kif, kvc, rfl, _, inside, rfl⟩ := h
  rw [List.map_append, relayed_append] at relayed
  obtain ⟨_, last, rfl, relayed, closing⟩ := relayed
  rw [List.map_append, relayed_append] at relayed
  obtain ⟨first, opening, rfl, _, opened⟩ := relayed
  obtain ⟨_, _, rfl, rfl, _, _, rfl, rfl, rfl⟩ := opened
  simp only [digestParts, List.foldl_append, List.nil_append, List.append_nil]
  rw [inside.foldl_digestStep closing, Sam.foldl_digestStep_wire]
  rfl

theorem exists_event_of_mem_calls {entries : List Entry} {call : Call} (h : call ∈ calls entries) :
    ∃ answer, .sam call answer ∈ entries.map (·.event) := by
  obtain ⟨⟨phase, event⟩, member, asked⟩ := List.mem_filterMap.mp h
  cases event with
  | card command answer => cases asked
  | sam call answer =>
    cases asked
    exact ⟨answer, List.mem_map_of_mem member⟩

/-- Nothing is sent to the security module but for a question. -/
theorem Relayed.exists_call {events : List Event} {sent : List Bytes} (h : Relayed events sent)
    {bytes : Bytes} (member : bytes ∈ sent) :
    ∃ call ∈ events.filterMap Event.call?, bytes ∈ wire call := by
  induction events generalizing sent with
  | nil =>
    obtain rfl : sent = [] := h
    cases member
  | cons event rest ih =>
    obtain ⟨part, later, rfl, relays, others⟩ := h
    obtain member | member := List.mem_append.mp member
    · match event, relays with
      | .sam call (.ok answer), rfl => exact ⟨call, by simp [Event.call?], member⟩
      | .sam call (.error error), ⟨_, first⟩ =>
        exact ⟨call, by simp [Event.call?], first.subset member⟩
    · obtain ⟨call, asked, wired⟩ := ih others member
      obtain ⟨other, member, asked⟩ := List.mem_filterMap.mp asked
      exact ⟨call, List.mem_filterMap.mpr ⟨other, List.mem_cons_of_mem _ member, asked⟩, wired⟩

/-- The end of the digest is asked for by one command. -/
theorem eq_digestClose_of_relays {event : Event} {part : List Bytes} (relays : event.Relays part)
    (asked : event.call? = some .finalizeDigest) :
    part = [(Apdu.Command.digestClose Sam.Client.signatureLength).toBytes] := by
  match event, relays with
  | .sam call (.ok answer), relays =>
    cases asked
    exact relays
  | .sam call (.error error), ⟨begun, first⟩ =>
    cases asked
    obtain rfl | ⟨rest, rfl, nothing⟩ := List.prefix_cons_iff.mp first
    · contradiction
    · rw [List.prefix_nil.mp nothing]

/-- What a run asks for, and what comes back, is short enough to be digested. -/
structure Digestible (operations : List Operation) (entries : List Entry) : Prop where
  asked : ∀ command, asksFor operations command → command.dataLength ≤ 250
  told : ∀ entry ∈ entries, entry.event.isDigestible = true

theorem length_toBytes_le (command : Apdu.Command) :
    command.toBytes.length ≤ command.data.length + command.le.toList.length + 5 := by
  have field := length_dataField command.data
  simp only [Apdu.Command.toBytes, List.length_append, List.length_cons, List.length_nil]
  omega

theorem le_toCommand (cla : UInt8) (command : FileCommand) :
    command.dataLength ≤ 3 ∨ (command.toCommand cla).le = none := by
  cases command <;> simp [FileCommand.dataLength, FileCommand.toCommand, Apdu.Command.updateRecord,
    Apdu.Command.writeRecord, Apdu.Command.appendRecord]

/-- A command can itself be digested as one part. -/
theorem length_toBytes_of_ordinary {identity : Card.Identity} {asked : FileCommand → Prop}
    {events : List Event} {command : Apdu.Command}
    (short : ∀ command, asked command → command.dataLength ≤ 250)
    (told : ∀ event ∈ events, event.isDigestible = true)
    (h : Ordinary identity asked events command) : command.toBytes.length ≤ 255 := by
  refine Nat.le_trans (length_toBytes_le command) ?_
  cases h with
  | @file command member =>
    have short := short command member
    have data : _ = command.dataLength := command.lc_toCommand identity.classByte
    rw [Apdu.Command.lc] at data
    obtain small | none := le_toCommand identity.classByte command
    · have one := Option.length_toList_le (o := (command.toCommand identity.classByte).le)
      omega
    · rw [none, Option.toList_none, List.length_nil]
      omega
  | reading operation => simp [readingCommand, Apdu.Command.storedValueGet]
  | @change change reading complement said =>
    have said : complement.length ≤ 239 := of_decide_eq_true (told _ said)
    have known := length_data_le reading.kvc change
    simp only [changeCommand, Apdu.Command.storedValueChange, List.length_append,
      Option.toList_some, List.length_cons, List.length_nil]
    omega

theorem length_keyReference_le (kif : Option UInt8) (kvc : UInt8) :
    (keyReference kif kvc).length ≤ 2 := by
  unfold keyReference
  split <;> simp

/-- The commands that begin and continue the digest hold what they should. -/
theorem Digestible.fits {identity : Card.Identity} {operations : List Operation}
    {entries : List Entry} (digestible : Digestible operations entries)
    (sourced : Sourced identity (asksFor operations) (entries.map (·.event))) {call : Call}
    (member : call ∈ calls entries) (feeds : call.feeds = true) :
    ∀ command ∈ requests call, command.Fits := by
  have told : ∀ event ∈ entries.map (·.event), event.isDigestible = true := by
    exact List.forall_mem_map.mpr digestible.told
  obtain ⟨answer, said⟩ := exists_event_of_mem_calls member
  have source := sourced _ said
  cases call with
  | beginDigest data kif kvc level =>
    obtain ⟨bytes, response, answered, rfl⟩ := source
    have short : response.data.length ≤ 253 := of_decide_eq_true (told _ answered)
    have key := length_keyReference_le kif kvc
    intro command member
    obtain rfl := List.mem_singleton.mp member
    rw [Apdu.Command.Fits, Sam.data_digestInit, List.length_append]
    omega
  | updateDigest sent received =>
    obtain ⟨command, response, ordinary, rfl, answered, rfl⟩ := source
    have short : response.data.length ≤ 253 := of_decide_eq_true (told _ answered)
    intro update member
    simp only [requests, List.mem_cons, List.not_mem_nil, or_false] at member
    obtain rfl | rfl := member
    · exact length_toBytes_of_ordinary digestible.asked told ordinary
    · change response.toBytes.length ≤ 255
      rw [response.length_toBytes]
      omega
  | selectDiversifier serial => cases feeds
  | getChallenge => cases feeds
  | finalizeDigest => cases feeds
  | verifyMac signature => cases feeds
  | prepareChange action command response data => cases feeds
  | checkChange signature => cases feeds

/-- The parts to be digested are the data of the commands that begin and continue the digest. -/
theorem IsDigestInput.length_le {identity : Card.Identity} {entries : List Entry}
    {parts : List Bytes} (h : IsDigestInput identity entries parts)
    (fits : ∀ call ∈ calls entries, call.feeds = true → ∀ command ∈ requests call, command.Fits) :
    ∀ part ∈ parts, part.length ≤ 255 := by
  obtain ⟨earlier, session, level, address, challenge, response, kif, kvc, rfl, _, inside, rfl⟩ := h
  refine List.forall_mem_cons.mpr ⟨?_, ?_⟩
  · have opening := fits (.beginDigest response.data kif kvc level)
      (by simp [calls, openingEntries, Event.call?]) rfl _ (List.mem_singleton_self _)
    rwa [Apdu.Command.Fits, Sam.data_digestInit] at opening
  · intro part member
    obtain ⟨⟨command, response⟩, exchanged, member⟩ := List.mem_flatMap.mp member
    have asked : Call.updateDigest command response.toBytes ∈ calls session := by
      refine (List.mem_filter (p := (!·.isPreparation))).mp ?_ |>.1
      rw [inside.filter_calls_eq]
      exact List.mem_map.mpr ⟨(command, response), exchanged, rfl⟩
    have update := fits (.updateDigest command response.toBytes)
      (by rw [calls, List.filterMap_append]; exact List.mem_append_right _ asked) rfl
    simp only [List.mem_cons, List.not_mem_nil, or_false] at member
    obtain rfl | rfl := member
    · exact update _ List.mem_cons_self
    · exact update _ (List.mem_cons_of_mem _ List.mem_cons_self)

/-- Where the digest is finalized, it covers what came before. -/
theorem covers_of_finalizeDigest {τ : Type} [Terminal τ] (terminal : τ) (identity : Card.Identity)
    (settings : Settings) (operations : List Operation) {before after : List Entry} {entry : Entry}
    (split : history terminal identity settings operations = before ++ entry :: after)
    (asked : entry.event.call? = some .finalizeDigest) : Covers identity before := by
  have steps : Course.Steps (fun _ => True) _ _ :=
    steps_history terminal identity settings operations (by simp)
  have same : (historyCourse terminal identity settings operations).identity = identity :=
    steps.identity_eq
  have rule := (steps.digesting (digesting_start identity settings)).kept.at split
  rw [DigestRule, asked, same] at rule
  exact rule

theorem calls_subset {entries before after : List Entry} (split : entries = before ++ after) :
    calls before ⊆ calls entries := by
  rw [split, calls, calls, List.filterMap_append]
  exact List.subset_append_left _ _

/-- Whatever the security module is sent belongs to a question, and has all of its data delimited
just if it fits. Wherever the digest is finalized, the security module has been given its whole
input just if no part of it is longer than 255 bytes. That is so if what is asked for and what comes
back is short enough. -/
theorem run_digestInput [Reader ρ] [Reader κ] (card : ρ) (reader : κ) (identity : Card.Identity)
    (settings : Settings) (operations : List Operation) :
    let entries := history (recording card reader) identity settings operations
    let sent := (run (new (recording card reader) identity settings) operations).terminal.sam.sent
    (∀ bytes ∈ sent, ∃ call ∈ calls entries, ∃ command ∈ requests call,
      bytes = command.toBytes ∧ (delimitedData bytes = command.data ↔ command.Fits)) ∧
    (∀ before after (entry : Entry), entries = before ++ entry :: after →
      entry.event.call? = some .finalizeDigest → ∃ first later parts,
        sent = first ++ (Apdu.Command.digestClose Sam.Client.signatureLength).toBytes :: later ∧
          IsDigestInput identity before parts ∧ digestParts first = parts.map delimited ∧
          ((digestParts first).flatten = parts.flatten ↔ ∀ part ∈ parts, part.length ≤ 255) ∧
          (Digestible operations entries → (digestParts first).flatten = parts.flatten)) ∧
    (Digestible operations entries → ∀ call ∈ calls entries, call.feeds = true →
      ∀ command ∈ requests call, command.Fits) := by
  intro entries sent
  have relayed : Relayed (entries.map (·.event)) sent :=
    relayed_history card reader identity settings operations
  have sourced : Sourced identity (asksFor operations) (entries.map (·.event)) :=
    sourced_history (recording card reader) identity settings operations
  have fits (digestible : Digestible operations entries) : ∀ call ∈ calls entries,
      call.feeds = true → ∀ command ∈ requests call, command.Fits :=
    fun call member feeds => digestible.fits sourced member feeds
  refine ⟨?_, ?_, fits⟩
  · intro bytes member
    obtain ⟨call, asked, wired⟩ := relayed.exists_call member
    obtain ⟨command, requested, rfl⟩ := List.mem_map.mp wired
    rw [List.filterMap_map] at asked
    exact ⟨call, asked, command, requested, rfl, Apdu.Command.delimitedData_toBytes_eq_iff⟩
  · intro before after entry split asked
    have covers : Covers identity before :=
      covers_of_finalizeDigest (recording card reader) identity settings operations split asked
    obtain ⟨parts, input⟩ := exists_isDigestInput covers
    -- What was sent falls apart where the entries do: before, at and after the final question.
    rw [split, List.map_append, relayed_append] at relayed
    obtain ⟨first, _, cut, relayed, _, later, rfl, relays, _⟩ := relayed
    obtain rfl := eq_digestClose_of_relays relays asked
    have fed := input.digestParts_eq relayed
    have whole :
        (digestParts first).flatten = parts.flatten ↔ ∀ part ∈ parts, part.length ≤ 255 := by
      rw [fed]
      exact Apdu.Command.flatten_map_delimited_eq_iff
    refine ⟨first, later, parts, cut, input, fed, whole, fun digestible => whole.mpr ?_⟩
    exact input.length_le fun call member => fits digestible call (calls_subset split member)

/-- A session in which one record is read. -/
def readingRun : List Operation :=
  [.openSession .load [], .batch [.readRecord 7 1], .closeSession .implicit]

/-- A card on which the record is all zeros. -/
def readingScript (length : Nat) : Script :=
  { answers := [.ok [0, 0, 0, 0, 0, 0x30, 0x7E, 0, 0x90, 0x00],
      .ok (List.replicate length 0 ++ [0x90, 0x00]), .ok [1, 2, 3, 4, 0x90, 0x00]] }

/-- A security module that is content with everything. -/
def contentScript : Script :=
  { answers := [.ok [0x90, 0x00], .ok [1, 2, 3, 4, 0x90, 0x00], .ok [0x90, 0x00], .ok [0x90, 0x00],
      .ok [0x90, 0x00], .ok [5, 6, 7, 8, 0x90, 0x00], .ok [0x90, 0x00]] }

def readingBench (length : Nat) : Bench Script (Sam.Client (Recorded Script)) :=
  recording (readingScript length) contentScript

theorem run_digestInput_readingRun :
    let entries := history (readingBench 29) sampleCard {} readingRun
    let sent := (run (new (readingBench 29) sampleCard {}) readingRun).terminal.sam.sent
    Digestible readingRun entries ∧
      (∀ call ∈ calls entries, call.feeds = true → ∀ command ∈ requests call, command.Fits) ∧
      ∃ before after entry first later parts, entries = before ++ entry :: after ∧
        entry.event.call? = some .finalizeDigest ∧
        sent = first ++ (Apdu.Command.digestClose Sam.Client.signatureLength).toBytes :: later ∧
        IsDigestInput sampleCard before parts ∧ (digestParts first).flatten = parts.flatten := by
  intro entries sent
  have digestible : Digestible readingRun entries := by
    constructor
    · rintro command ⟨operation, member, asked⟩
      simp only [readingRun, List.mem_cons, List.not_mem_nil, or_false] at member
      obtain rfl | rfl | rfl := member
      · cases asked
      · obtain rfl := List.mem_singleton.mp asked
        decide
      · cases asked
    · exact List.all_eq_true.mp (by decide +kernel)
  obtain ⟨_, finalized, fits⟩ :=
    run_digestInput (readingScript 29) contentScript sampleCard {} readingRun
  have asked : Call.finalizeDigest ∈ calls entries := by decide +kernel
  obtain ⟨entry, member, asked⟩ := List.mem_filterMap.mp asked
  obtain ⟨before, after, split⟩ := List.append_of_mem member
  obtain ⟨first, later, parts, cut, input, _, _, whole⟩ := finalized before after entry split asked
  exact ⟨digestible, fits digestible, before, after, entry, first, later, parts, split, asked, cut,
    input, whole digestible⟩

/-- A response that the card may give, but that is too long to be digested with its status word: the
command that continues the digest bears the length zero, and the security module finds nothing. -/
theorem run_digestInput_longResponse :
    let entries := history (readingBench 254) sampleCard {} readingRun
    let sent := (run (new (readingBench 254) sampleCard {}) readingRun).terminal.sam.sent
    (readingRun.flatMap (·.commands)).all (·.dataLength ≤ 250) = true ∧
      (exchanges entries).all (fun (_, response) => response.data.length ≤ 256) = true ∧
      sent[4]? = some ([0x80, 0x8C, 0x00, 0x00, 0x00] ++ List.replicate 254 0 ++ [0x90, 0x00]) ∧
      sent[5]? = some (Apdu.Command.digestClose Sam.Client.signatureLength).toBytes ∧
      digestParts (sent.take 5) =
        [[0x30, 0x7E, 0, 0, 0, 0, 0, 0x30, 0x7E, 0], [0x00, 0xB2, 0x01, 0x3C, 0x00], []] := by
  decide +kernel

end Session

end FareTerminal
