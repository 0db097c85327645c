import Mathlib.Data.List.Forall2
import FareTerminal.Proofs.Session.Overflow
import FareTerminal.Proofs.Session.Transcript

/-! What an opening returns for the records that it is asked for. The first of them comes with the opening
itself and the others in a batch behind it, and they are not treated alike: number zero stands for no
record in the first place, but not in the others. -/

namespace FareTerminal.Session

variable {τ : Type}

/-- What can come of a command in a batch that is not broken off: the result that the card's answer makes,
or none because the command is skipped. -/
inductive HasResult (command : FileCommand) : CommandResult → Prop
  | answered {response : Apdu.Response} {result : CommandResult}
    (told : commandResult command (.ok response) = .ok result) : HasResult command result
  | skipped : HasResult command .skipped

theorem CarriedOut.hasResult [Terminal τ] {command : FileCommand} {session left : Session (Journaled τ)}
    {result : CommandResult} (h : CarriedOut command session left (.ok result)) :
    HasResult command result ∧ left.lastBatch = session.lastBatch := by
  obtain ⟨budget, events, answer, terminal, -, -, -, told, rfl⟩ := h
  cases answer with
  | error error => cases told
  | ok response => exact ⟨.answered told.symm, rfl⟩

/-- Commands that are sent to the end have their results reported in their order. -/
theorem hasResults_sendAll [Terminal τ] (commands : List FileCommand) (session : Session (Journaled τ))
    (opened : session.state.phase = .opened) :
    Ensures (sendAll commands) session fun outcome after => outcome = .ok () →
      ∃ results, after.lastBatch = session.lastBatch ++ results ∧
        List.Forall₂ HasResult commands results := by
  induction commands generalizing session with
  | nil => exact fun _ => ⟨[], (List.append_nil _).symm, .nil⟩
  | cons command rest ih =>
    apply ensures_sendAll_cons opened
    · exact fun _ ended => nomatch ended
    · exact fun _ _ _ ended => nomatch ended
    · intro result left carried _ _ _
      obtain ⟨first, same⟩ := carried.hasResult
      refine ⟨result :: rest.map fun _ => .skipped, by simp [same], .cons first ?_⟩
      exact List.forall₂_map_right_iff.mpr (List.forall₂_same.mpr fun _ _ => .skipped)
    · intro result left carried still _
      obtain ⟨first, same⟩ := carried.hasResult
      refine (ih { left with lastBatch := left.lastBatch ++ [result] } still).imp ?_
      intro outcome after behind ended
      obtain ⟨results, reported, others⟩ := behind ended
      exact ⟨result :: results, by simp [reported, same], .cons first others⟩

theorem hasResults_batch [Terminal τ] (commands : List FileCommand) (session : Session τ) :
    Ensures (batch commands) session fun outcome _ => ∀ results, outcome = .ok results →
      List.Forall₂ HasResult commands results := by
  refine (mirrors_batch commands).ensures session.journaled ?_
  apply ensures_batch_cases
  · exact fun _ _ ended => nomatch ended
  · intro opened _
    refine (hasResults_sendAll commands { session.journaled with lastBatch := [] } opened).imp ?_
    rintro (error | _) after told results ended
    · cases ended
    · obtain ⟨results, reported, told⟩ := told rfl
      cases ended
      exact reported ▸ told

/-- What can come of a read: the record, under the number that it was asked for by, the status with which
the card has rejected the command, or nothing because the read is skipped. -/
inductive AnswersRead (address : RecordAddress) : CommandResult → Prop
  | read (data : Bytes) : AnswersRead address (.records [(address.2, data)])
  | rejected (status : StatusWord) : AnswersRead address (.rejected status)
  | skipped : AnswersRead address .skipped

theorem answersRead_of_hasResult {address : RecordAddress} {result : CommandResult}
    (h : HasResult (.readRecord address.1 address.2) result) : AnswersRead address result := by
  cases h with
  | skipped => exact .skipped
  | @answered response _ told =>
    cases success : response.isSuccess with
    | true =>
      simp only [commandResult, success] at told
      cases told
      exact .read response.data
    | false =>
      simp only [commandResult, success] at told
      cases told
      exact .rejected response.status

/-- Each record that is read behind the opening has its result. -/
theorem answersReads_furtherReads {reads : List RecordAddress} {results : List CommandResult}
    (h : List.Forall₂ HasResult (furtherReads reads) results) :
    List.Forall₂ AnswersRead reads.tail results :=
  (List.forall₂_map_left_iff.mp h).imp fun _ _ => answersRead_of_hasResult

/-- An opening that succeeds returns the result of the first read and those of the others. -/
theorem results_openSession [Terminal τ] (session : Session τ) (level : AccessLevel)
    (reads : List RecordAddress) :
    Ensures (openSession level reads) session fun outcome _ => ∀ results, outcome = .ok results →
      ∃ opening others, results = firstResult (firstRead reads) opening ++ others ∧
        List.Forall₂ AnswersRead reads.tail others := by
  apply ensures_openSession
  · exact fun _ _ _ ended => nomatch ended
  intro _ _
  refine (ensures_run _ _).imp ?_
  rintro (error | opening) left _
  · exact fun _ ended => nomatch ended
  rw [onceNegotiated_ok]
  split
  · rename_i alone
    intro results ended
    cases ended
    exact ⟨opening, [], (List.append_nil _).symm, alone ▸ .nil⟩
  · refine (hasResults_batch _ _).imp ?_
    rintro (error | others) after told results ended
    · cases ended
    · cases ended
      exact ⟨opening, others, rfl, answersReads_furtherReads (told others rfl)⟩

/-- The results of an opening that succeeds, whatever the card and the security module answer: there is
one for each read, in order and under the number that was asked for. But the first read has none if it
asks for number zero; then the results are those of the others. -/
theorem openSession_answersReads [Terminal τ] (session : Session τ) (level : AccessLevel)
    (reads : List RecordAddress) {results : List CommandResult}
    (returned : session.answerTo (.openSession level reads) = .ok (.results results)) :
    ((firstRead reads).2 ≠ 0 → List.Forall₂ AnswersRead reads results) ∧
      ((firstRead reads).2 = 0 → List.Forall₂ AnswersRead reads.tail results) := by
  have told : Ensures (perform (.openSession level reads)) session fun answer _ =>
      answer = .ok (.results results) → ∃ opening others,
        results = firstResult (firstRead reads) opening ++ others ∧
          List.Forall₂ AnswersRead reads.tail others := by
    rw [perform, ensures_bind]
    refine (results_openSession session level reads).imp ?_
    rintro (error | _) after told ended
    · cases ended
    · cases ended
      exact told _ rfl
  obtain ⟨opening, others, rfl, answered⟩ := answerTo_after_of_ensures told returned
  constructor
  · intro named
    cases reads with
    | nil => exact absurd rfl named
    | cons first rest =>
      rw [firstResult, if_neg named]
      exact .cons (.read opening.record) answered
  · intro zero
    rwa [firstResult, if_pos zero]

/-- A record that is not there has its place among the results. -/
theorem openSession_answersReads_rejected :
    let session := new (agreeableBench
      [[0, 0, 0x2A, 0x5C, 0, 0x30, 0x79, 2, 0xAA, 0xBB, 0x90, 0x00], [0x6A, 0x83],
        [0x0B, 0x90, 0x00]]) sampleCard {}
    let results : List CommandResult :=
      [.records [(1, [0xAA, 0xBB])], .rejected 0x6A83, .records [(2, [0x0B])]]
    session.answerTo (.openSession .load [(7, 1), (8, 9), (8, 2)]) = .ok (.results results) ∧
      List.Forall₂ AnswersRead [(7, 1), (8, 9), (8, 2)] results := by
  intro session results
  have returned : session.answerTo (.openSession .load [(7, 1), (8, 9), (8, 2)]) =
      .ok (.results results) := by decide +kernel
  exact ⟨returned, (openSession_answersReads session .load _ returned).1 (by decide)⟩

/-- Two reads have one result, that of the second, because the first asks for record number zero. In the
second place the same address has a result. -/
theorem openSession_answersReads_zero :
    let session := new (agreeableBench
      [[0, 0, 0x2A, 0x5C, 0, 0x30, 0x79, 0, 0x90, 0x00], [0x0B, 0x0C, 0x0D, 0x90, 0x00]]) sampleCard {}
    session.state.phase = .closed ∧
      session.answerTo (.openSession .load [(7, 0), (8, 1)]) =
        .ok (.results [.records [(1, [0x0B, 0x0C, 0x0D])]]) ∧
      session.answerTo (.openSession .load [(8, 1), (7, 0)]) =
        .ok (.results [.records [(1, [])], .records [(0, [0x0B, 0x0C, 0x0D])]]) := by
  decide +kernel

end FareTerminal.Session
