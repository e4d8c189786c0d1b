import NetRemote.Streaming.DataStreamReader

namespace NetRemote.Streaming.DataStreamReader

open Foundation.Streaming Foundation.Transition

abbrev ReaderEvent := Event Unit (Status × DataStreamUploadResult)

abbrev ReaderStream := Stream DataStreamReader Unit (Status × DataStreamUploadResult)

def blocksRead (history : List ReaderEvent) : Nat :=
  history.countP (· = .Delivered (.OnReadDone true))

-- The answer counts the blocks read so far, and its status names the callback
-- that gave it.
def Accounted (past : List ReaderEvent) (answer : Status × DataStreamUploadResult) : Prop :=
  answer.2.numberOfDataBlocksReceived = UInt32.ofNat (blocksRead past) ∧
    (past.getLast? = some (.Delivered .OnCancel) →
      answer.2.status.code = DataStreamOperationStatusCodeCanceled) ∧
    (past.getLast? = some (.Delivered (.OnReadDone false)) → 0 < blocksRead past →
      answer.2.status.code = DataStreamOperationStatusCodeSucceeded)

structure UploadAccounting (stream : ReaderStream) : Prop where
  protocol : RespectsProtocol stream.history
  accounted : EveryFinish Accounted stream.history

-- Both finishing callbacks call `Finish` without asking whether it was called.
def CalledAfterFinish (stream : ReaderStream) : Callback → Prop
  | .OnReadDone _ => 0 < finishes stream.history
  | .OnCancel => 0 < finishes stream.history
  | .OnWriteDone _ => False
  | .OnDone => False

instance (stream : ReaderStream) : ∀ callback, Decidable (CalledAfterFinish stream callback)
  | .OnReadDone _ => inferInstanceAs (Decidable (_ < _))
  | .OnCancel => inferInstanceAs (Decidable (_ < _))
  | .OnWriteDone _ => inferInstanceAs (Decidable False)
  | .OnDone => inferInstanceAs (Decidable False)

inductive Phase (stream : ReaderStream) : Prop where
  | Reading (hfinishes : finishes stream.history = 0)
      (hreads : readsStarted stream.history = readsCompleted stream.history + 1)
      (hcount : stream.reactor.numberOfDataBlocksReceived =
        UInt32.ofNat (blocksRead stream.history))
      (hstatus : 0 < blocksRead stream.history →
        stream.reactor.readStatus.code = DataStreamOperationStatusCodeSucceeded)
  | Finished (hfinishes : finishes stream.history = 1)

structure Inv (stream : ReaderStream) : Prop where
  accounting : UploadAccounting stream
  phase : Phase stream

@[simp] theorem blocksRead_append (first rest : List ReaderEvent) :
    blocksRead (first ++ rest) = blocksRead first + blocksRead rest := List.countP_append

@[simp] theorem blocksRead_called (operation : Operation Unit (Status × DataStreamUploadResult))
    (rest : List ReaderEvent) : blocksRead (.Called operation :: rest) = blocksRead rest := by
  simp [blocksRead]

@[simp] theorem blocksRead_delivered (callback : Callback) (rest : List ReaderEvent) :
    blocksRead (.Delivered callback :: rest) =
      blocksRead rest + if callback = .OnReadDone true then 1 else 0 := by
  simp [blocksRead, List.countP_cons]

@[simp] theorem blocksRead_nil : blocksRead [] = 0 := rfl

theorem inv_start (movedFrom : MovedFrom) : Inv (reactor movedFrom).start where
  accounting :=
    { protocol := respectsProtocol_called respectsProtocol_nil ⟨rfl, Nat.le_refl 0⟩
      accounted := everyFinish_concat.mpr ⟨everyFinish_nil _, fun _ h => by cases h⟩ }
  phase := .Reading rfl rfl rfl fun h => absurd h (Nat.lt_irrefl 0)

-- The first `Finish` of a stream, given by a callback that accounts for it.
theorem inv_finish {stream : ReaderStream} {callback : Callback} {next : DataStreamReader}
    {answer : Status × DataStreamUploadResult} (hinv : Inv stream)
    (hfinishes : finishes stream.history = 0)
    (haccounted : Accounted (stream.history ++ [.Delivered callback]) answer) :
    Inv ⟨next, stream.history ++ [.Delivered callback, .Called (.Finish answer)]⟩ := by
  refine ⟨⟨respectsProtocol_step hinv.accounting.protocol ?_, ?_⟩, .Finished ?_⟩
  · simpa [Permitted] using hfinishes
  · have hsplit : stream.history ++ [.Delivered callback, .Called (.Finish answer)] =
        (stream.history ++ [.Delivered callback]) ++ [.Called (.Finish answer)] := by simp
    rw [hsplit]
    refine everyFinish_concat.mpr ⟨everyFinish_delivered.mpr hinv.accounting.accounted, ?_⟩
    rintro given hgiven
    cases hgiven
    exact haccounted
  · simpa using hfinishes

theorem inv_onReadDone (movedFrom : MovedFrom) (stream : ReaderStream) (isOk : Bool)
    (hinv : Inv stream) (hallowed : ¬ CalledAfterFinish stream (.OnReadDone isOk)) :
    Inv ⟨(stream.reactor.onReadDone movedFrom isOk).1,
      stream.history ++ .Delivered (.OnReadDone isOk) ::
        (stream.reactor.onReadDone movedFrom isOk).2.map Event.Called⟩ := by
  simp only [CalledAfterFinish, Nat.not_lt, Nat.le_zero] at hallowed
  cases hinv.phase with
  | Finished hfinishes => omega
  | Reading hfinishes hreads hcount hstatus =>
      cases isOk with
      | false =>
          refine inv_finish hinv hfinishes ⟨?_, ?_, ?_⟩
          · simpa using hcount
          · simp
          · simpa using hstatus
      | true =>
          refine ⟨⟨respectsProtocol_step hinv.accounting.protocol ?_, ?_⟩, .Reading ?_ ?_ ?_ ?_⟩
          · simp [Permitted, hfinishes, hreads]
          · have hsplit : stream.history ++ [.Delivered (.OnReadDone true), .Called .StartRead] =
                (stream.history ++ [.Delivered (.OnReadDone true)]) ++ [.Called .StartRead] := by
              simp
            refine hsplit ▸ everyFinish_concat.mpr
              ⟨everyFinish_delivered.mpr hinv.accounting.accounted, fun _ h => by cases h⟩
          · simpa [onReadDone] using hfinishes
          · simpa [onReadDone] using hreads
          · simp [onReadDone, hcount]
          · intro _
            rfl

theorem inv_onCancel (movedFrom : MovedFrom) (stream : ReaderStream) (hinv : Inv stream)
    (hallowed : ¬ CalledAfterFinish stream .OnCancel) :
    Inv ⟨(stream.reactor.onCancel movedFrom).1, stream.history ++ .Delivered .OnCancel ::
      (stream.reactor.onCancel movedFrom).2.map Event.Called⟩ := by
  simp only [CalledAfterFinish, Nat.not_lt, Nat.le_zero] at hallowed
  cases hinv.phase with
  | Finished hfinishes => omega
  | Reading hfinishes hreads hcount hstatus =>
      refine inv_finish hinv hfinishes ⟨?_, fun _ => rfl, ?_⟩
      · simpa using hcount
      · simp

theorem inv_ignored {stream : ReaderStream} {callback : Callback} (hinv : Inv stream)
    (hcallback : (∃ isOk, callback = .OnWriteDone isOk) ∨ callback = .OnDone) :
    Inv ⟨stream.reactor, stream.history ++ [.Delivered callback]⟩ := by
  have hreads : readsCompleted (stream.history ++ [.Delivered callback]) =
      readsCompleted stream.history := by
    rcases hcallback with ⟨isOk, rfl⟩ | rfl <;> simp
  have hblocks : blocksRead (stream.history ++ [.Delivered callback]) =
      blocksRead stream.history := by
    rcases hcallback with ⟨isOk, rfl⟩ | rfl <;> simp
  refine ⟨⟨respectsProtocol_delivered hinv.accounting.protocol,
    everyFinish_delivered.mpr hinv.accounting.accounted⟩, ?_⟩
  cases hinv.phase with
  | Finished hfinishes => exact .Finished (by simpa using hfinishes)
  | Reading hfinishes hread hcount hstatus =>
      exact .Reading (by simpa using hfinishes) (by rw [hreads]; simpa using hread)
        (by rw [hblocks]; exact hcount) (by rw [hblocks]; exact hstatus)

theorem inv_step (movedFrom : MovedFrom) (stream : ReaderStream) (callback : Callback)
    (next : ReaderStream) (hinv : Inv stream) (hallowed : ¬ CalledAfterFinish stream callback)
    (h : (reactor movedFrom).step stream callback = some next) : Inv next := by
  obtain ⟨-, rfl⟩ := step_reactor h
  cases callback with
  | OnReadDone isOk => exact inv_onReadDone movedFrom stream isOk hinv hallowed
  | OnWriteDone isOk => exact inv_ignored hinv (.inl ⟨isOk, rfl⟩)
  | OnCancel => exact inv_onCancel movedFrom stream hinv hallowed
  | OnDone => exact inv_ignored hinv (.inr rfl)

theorem onReadDone_calls (movedFrom : MovedFrom) (self : DataStreamReader) (isOk : Bool) :
    ∃ operation, (self.onReadDone movedFrom isOk).2 = [operation] := by
  cases isOk with
  | false => exact ⟨_, rfl⟩
  | true => exact ⟨_, rfl⟩

theorem broken_step (movedFrom : MovedFrom) (stream : ReaderStream) (callback : Callback)
    (next : ReaderStream) (hlate : CalledAfterFinish stream callback)
    (h : (reactor movedFrom).step stream callback = some next) : ¬ UploadAccounting next := by
  obtain ⟨-, rfl⟩ := step_reactor h
  intro haccounting
  cases callback with
  | OnReadDone isOk =>
      obtain ⟨operation, hcalls⟩ := onReadDone_calls movedFrom stream.reactor isOk
      have hprotocol := haccounting.protocol
      simp only [reactor, handle, hcalls] at hprotocol
      exact not_respectsProtocol_step hlate hprotocol
  | OnCancel => exact not_respectsProtocol_step hlate haccounting.protocol
  | OnWriteDone isOk => exact hlate
  | OnDone => exact hlate

theorem step_stays_unaccounted (movedFrom : MovedFrom) (stream : ReaderStream)
    (callback : Callback) (next : ReaderStream) (hbroken : ¬ UploadAccounting stream)
    (h : (reactor movedFrom).step stream callback = some next) : ¬ UploadAccounting next := by
  obtain ⟨-, rfl⟩ := step_reactor h
  intro hnext
  exact hbroken ⟨respectsProtocol_past (List.prefix_append _ _) hnext.protocol,
    everyFinish_past (List.prefix_append _ _) hnext.accounted⟩

-- The upload is accounted for in exactly the runs in which neither a read
-- completion nor a cancellation is delivered after `Finish`.
theorem reader_uploadAccounting_iff (movedFrom : MovedFrom) (callbacks : List Callback)
    (stream : ReaderStream)
    (hrun : run (reactor movedFrom).step (reactor movedFrom).start callbacks = some stream) :
    UploadAccounting stream ↔
      HoldsAlong (reactor movedFrom).step
        (fun stream callback => ¬ CalledAfterFinish stream callback)
        (reactor movedFrom).start callbacks :=
  safe_iff_holdsAlong (inv_step movedFrom) (fun _ hinv => hinv.accounting)
    (fun s a t _ hlate => broken_step movedFrom s a t (not_not.mp hlate))
    (step_stays_unaccounted movedFrom) (inv_start movedFrom) hrun

theorem reader_uploadAccounting_two_blocks :
    ∃ stream, run (reactor fun source _ => source).step (reactor fun source _ => source).start
      [.OnReadDone true, .OnReadDone true, .OnReadDone false, .OnDone] = some stream ∧
        UploadAccounting stream :=
  ⟨_, rfl, (reader_uploadAccounting_iff (fun source _ => source)
    [.OnReadDone true, .OnReadDone true, .OnReadDone false, .OnDone] _ rfl).mpr (by decide)⟩

-- A cancellation also ends the read that is outstanding.
theorem reader_finishes_twice :
    ¬ ∀ (movedFrom : MovedFrom) (callbacks : List Callback) (stream : ReaderStream),
      run (reactor movedFrom).step (reactor movedFrom).start callbacks = some stream →
        UploadAccounting stream := by
  intro h
  have haccounting := h (fun source _ => source) [.OnCancel, .OnReadDone false] _ rfl
  exact absurd haccounting.protocol.finishesOnce (by decide)

end NetRemote.Streaming.DataStreamReader
