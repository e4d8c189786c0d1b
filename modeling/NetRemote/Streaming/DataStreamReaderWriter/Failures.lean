import NetRemote.Streaming.DataStreamReaderWriter.Writes

namespace NetRemote.Streaming.DataStreamReaderWriter

open Foundation.Streaming Foundation.Transition

-- A failing write completion has been answered with a write: the failure is recorded.
def FailureRecorded (history : List (Event DataStreamDownloadData Status)) : Prop :=
  ∃ before operations message,
    Handled history before (.OnWriteDone false) operations ∧ .StartWrite message ∈ operations

-- The stream ends where the completion calls `Finish`, where `Finish` has been called
-- before, and where a cancellation leaves it to the outstanding read, which will fail.
def LeadsToFinish (before : List (Event DataStreamDownloadData Status)) (operations : Calls) :
    Prop :=
  .Finish .OK ∈ operations ∨ 0 < finishes before ∨
    0 < cancellations before ∧ readsCompleted before < readsStarted before

structure EndsFailure (before : List (Event DataStreamDownloadData Status))
    (callback : Callback) (operations : Calls) : Prop where
  failed : callback = .OnWriteDone false → ∀ message, .StartWrite message ∈ operations →
    operations = [.StartWrite message] ∧
      message.status.code = DataStreamOperationStatusCodeFailed
  last : FailureRecorded before → ∀ message, .StartWrite message ∉ operations
  ends : FailureRecorded before → ∀ isOk, callback = .OnWriteDone isOk →
    LeadsToFinish before operations

def FailureEnds (history : List (Event DataStreamDownloadData Status)) : Prop :=
  ∀ before callback operations,
    Handled history before callback operations → EndsFailure before callback operations

-- The failure message completes, and a read completed in between has put another
-- status in the place of the failure.
def ForgetsFailure (stream : Stream DataStreamReaderWriter DataStreamDownloadData Status)
    (callback : Callback) : Prop :=
  stream.reactor.writeData.isFailure = true ∧
    stream.reactor.status.code ≠ DataStreamOperationStatusCodeFailed ∧
    stream.reactor.isCanceled = false ∧
      (callback = .OnWriteDone true ∨
        callback = .OnWriteDone false ∧ stream.reactor.readsDone = false)

instance (stream : Stream DataStreamReaderWriter DataStreamDownloadData Status)
    (callback : Callback) : Decidable (ForgetsFailure stream callback) :=
  inferInstanceAs (Decidable (_ ∧ _ ∧ _ ∧ (_ ∨ _ ∧ _)))

theorem failureRecorded_step {history : List (Event DataStreamDownloadData Status)}
    {callback : Callback} {calls : Calls} :
    FailureRecorded (history ++ .Delivered callback :: calls.map Event.Called) ↔
      FailureRecorded history ∨
        callback = .OnWriteDone false ∧ ∃ message, .StartWrite message ∈ calls := by
  simp only [FailureRecorded, handled_step]
  constructor
  · rintro ⟨before, operations, message, hhandled | ⟨rfl, rfl, rfl⟩, hmem⟩
    · exact .inl ⟨before, operations, message, hhandled, hmem⟩
    · exact .inr ⟨rfl, message, hmem⟩
  · rintro (⟨before, operations, message, hhandled, hmem⟩ | ⟨rfl, message, hmem⟩)
    · exact ⟨before, operations, message, .inl hhandled, hmem⟩
    · exact ⟨history, calls, message, .inr ⟨rfl, rfl, rfl⟩, hmem⟩

theorem failureEnds_step {history : List (Event DataStreamDownloadData Status)}
    {callback : Callback} {calls : Calls} :
    FailureEnds (history ++ .Delivered callback :: calls.map Event.Called) ↔
      FailureEnds history ∧ EndsFailure history callback calls := by
  constructor
  · intro h
    exact ⟨fun before other operations hhandled =>
        h before other operations (handled_step.mpr (.inl hhandled)),
      h history callback calls (handled_step.mpr (.inr ⟨rfl, rfl, rfl⟩))⟩
  · rintro ⟨hpast, hlast⟩ before other operations hhandled
    rcases handled_step.mp hhandled with hhandled | ⟨rfl, rfl, rfl⟩
    · exact hpast before other operations hhandled
    · exact hlast

theorem not_failureRecorded_start (dataGenerator : DataGenerator) :
    ¬ FailureRecorded (reactor dataGenerator).start.history :=
  fun ⟨_, _, _, hhandled, _⟩ => not_handled_start hhandled

theorem failureEnds_start (dataGenerator : DataGenerator) :
    FailureEnds (reactor dataGenerator).start.history :=
  fun _ _ _ hhandled => absurd hhandled not_handled_start

-- The read chain stays open until it has called `Finish`.
structure ReadChain (readsDone : Bool) (history : List (Event DataStreamDownloadData Status)) :
    Prop where
  readsEnded : readsDone = true → 0 < finishes history
  reading : readsDone = false → readsCompleted history < readsStarted history

theorem readChain_onReadDone {self : DataStreamReaderWriter} {isOk : Bool}
    {history : List (Event DataStreamDownloadData Status)}
    (hchain : ReadChain self.readsDone history) :
    ReadChain (self.onReadDone isOk).1.readsDone
      (history ++ .Delivered (.OnReadDone isOk) :: (self.onReadDone isOk).2.map Event.Called) := by
  obtain ⟨hended, hreading⟩ := hchain
  unfold onReadDone
  split
  · refine ⟨fun h => ?_, fun h => ?_⟩
    · simpa using hended h
    · simpa using hreading h
  · split
    · rename_i hreadsDone
      refine ⟨fun h => ?_, fun h => ?_⟩
      · simpa using hended h
      · simp [hreadsDone] at h
    · exact ⟨fun _ => by simp, fun h => absurd h.symm Bool.false_ne_true⟩

theorem readChain_other {readsDone : Bool} {callback : Callback} {calls : Calls}
    {history : List (Event DataStreamDownloadData Status)}
    (hcallback : ∀ isOk, callback ≠ .OnReadDone isOk) (hchain : ReadChain readsDone history) :
    ReadChain readsDone (history ++ .Delivered callback :: calls.map Event.Called) := by
  have hnone : (Event.Delivered callback : Event DataStreamDownloadData Status).completesRead =
      false := by
    cases callback <;> simp_all
  refine ⟨fun h => ?_, fun h => ?_⟩
  · have hended := hchain.readsEnded h
    simp only [finishes_append]
    omega
  · have hreading := hchain.reading h
    simp only [readsCompleted_append, readsCompleted_cons, readsCompleted_calls, hnone,
      readsStarted_append]
    simp
    omega

theorem readChain_step {self : DataStreamReaderWriter} {callback : Callback}
    {history : List (Event DataStreamDownloadData Status)}
    (hchain : ReadChain self.readsDone history) :
    ReadChain (self.handle callback).1.readsDone
      (history ++ .Delivered callback :: (self.handle callback).2.map Event.Called) := by
  cases callback with
  | OnReadDone isOk => exact readChain_onReadDone hchain
  | OnWriteDone isOk =>
      have hkept : (self.handle (.OnWriteDone isOk)).1.readsDone = self.readsDone :=
        onWriteDone_readsDone self isOk
      rw [hkept]
      exact readChain_other (by simp) hchain
  | OnCancel => exact readChain_other (by simp) hchain
  | OnDone => exact readChain_other (by simp) hchain

structure FailureInv (stream : Stream DataStreamReaderWriter DataStreamDownloadData Status) :
    Prop where
  canceled : stream.reactor.isCanceled = true ↔ 0 < cancellations stream.history
  reads : ReadChain stream.reactor.readsDone stream.history
  recorded : stream.reactor.writeData.isFailure = true → FailureRecorded stream.history
  remembered : FailureEnds stream.history → FailureRecorded stream.history →
    stream.reactor.writeData.isFailure = true

theorem failureInv_start (dataGenerator : DataGenerator) :
    FailureInv (reactor dataGenerator).start where
  canceled := (writeInv_start dataGenerator).canceled
  reads := ⟨fun h => absurd h Bool.false_ne_true, fun _ => Nat.zero_lt_one⟩
  recorded h := absurd h Bool.false_ne_true
  remembered _ h := absurd h (not_failureRecorded_start dataGenerator)

theorem failureInv_handle (stream : Stream DataStreamReaderWriter DataStreamDownloadData Status)
    (callback : Callback) (hinv : FailureInv stream) :
    FailureInv ⟨(stream.reactor.handle callback).1, stream.history ++ .Delivered callback ::
      (stream.reactor.handle callback).2.map Event.Called⟩ := by
  refine ⟨canceled_step callback hinv.canceled, readChain_step hinv.reads, ?_, ?_⟩
  · simp only [failureRecorded_step]
    cases handle_reaction stream.reactor callback with
    | Unwritten hcalls hdata hnumber =>
        rw [hdata]
        exact fun h => .inl (hinv.recorded h)
    | Block hcallback hcanceled hblock => simp [hblock.data]
    | Failure hcallback hcanceled hfailure =>
        exact fun _ => .inr ⟨hcallback, _, hfailure.calls ▸ List.mem_cons_self⟩
  · simp only [failureRecorded_step, failureEnds_step]
    rintro ⟨hends, hlast⟩ hrecorded
    cases handle_reaction stream.reactor callback with
    | Unwritten hcalls hdata hnumber =>
        rcases hrecorded with hrecorded | ⟨-, message, hmem⟩
        · rw [hdata]
          exact hinv.remembered hends hrecorded
        · exact absurd hmem (hcalls message)
    | Block hcallback hcanceled hblock =>
        rcases hrecorded with hrecorded | ⟨hfailed, -⟩
        · exact absurd (hblock.calls ▸ List.mem_cons_self) (hlast.last hrecorded _)
        · simp [hcallback] at hfailed
    | Failure hcallback hcanceled hfailure => exact hfailure.failure

theorem failureInv_step (dataGenerator : DataGenerator)
    (stream : Stream DataStreamReaderWriter DataStreamDownloadData Status) (callback : Callback)
    (next : Stream DataStreamReaderWriter DataStreamDownloadData Status)
    (hinv : FailureInv stream)
    (h : (reactor dataGenerator).step stream callback = some next) : FailureInv next := by
  obtain ⟨-, rfl⟩ := step_reactor h
  exact failureInv_handle stream callback hinv

-- A completion that starts a write breaks the promise exactly after a failure.
theorem endsFailure_write {before : List (Event DataStreamDownloadData Status)}
    {callback : Callback} {message : DataStreamDownloadData}
    (hfailed : callback = .OnWriteDone false → message.isFailure = true) :
    EndsFailure before callback [.StartWrite message] ↔ ¬ FailureRecorded before := by
  constructor
  · exact fun h hrecorded => h.last hrecorded message List.mem_cons_self
  · intro hrecorded
    refine ⟨fun hcallback other hmem => ?_, fun h => absurd h hrecorded,
      fun h => absurd h hrecorded⟩
    obtain rfl := Operation.StartWrite.inj (List.mem_singleton.mp hmem)
    exact ⟨rfl, by simpa [DataStreamDownloadData.isFailure] using hfailed hcallback⟩

theorem endsFailure_unwritten {before : List (Event DataStreamDownloadData Status)}
    {callback : Callback} {calls : Calls} (hcalls : ∀ message, .StartWrite message ∉ calls)
    (hends : FailureRecorded before → ∀ isOk, callback = .OnWriteDone isOk →
      LeadsToFinish before calls) : EndsFailure before callback calls where
  failed _ message hmem := absurd hmem (hcalls message)
  last _ := hcalls
  ends := hends

-- Reads that have ended have called `Finish`; otherwise a read is outstanding.
theorem leadsToFinish_canceled
    {stream : Stream DataStreamReaderWriter DataStreamDownloadData Status} {calls : Calls}
    (hinv : FailureInv stream) (hcanceled : stream.reactor.isCanceled = true) :
    LeadsToFinish stream.history calls := by
  cases hreadsDone : stream.reactor.readsDone with
  | true => exact .inr (.inl (hinv.reads.readsEnded hreadsDone))
  | false => exact .inr (.inr ⟨hinv.canceled.mp hcanceled, hinv.reads.reading hreadsDone⟩)

theorem endsFailure_onWriteDone
    {stream : Stream DataStreamReaderWriter DataStreamDownloadData Status} {isOk : Bool}
    (hinv : FailureInv stream) (hends : FailureEnds stream.history) :
    EndsFailure stream.history (.OnWriteDone isOk) (stream.reactor.onWriteDone isOk).2 ↔
      ¬ ForgetsFailure stream (.OnWriteDone isOk) := by
  have hfailure : FailureRecorded stream.history ↔ stream.reactor.writeData.isFailure = true :=
    ⟨hinv.remembered hends, hinv.recorded⟩
  cases onWriteDone_inversion stream.reactor isOk with
  | Canceled hcanceled heq =>
      refine iff_of_true ?_ (by simp [ForgetsFailure, hcanceled])
      rw [heq]
      exact endsFailure_unwritten (by simp) fun _ _ _ => leadsToFinish_canceled hinv hcanceled
  | Finished hcanceled hstatus heq =>
      refine iff_of_true ?_ (by simp [ForgetsFailure, hstatus])
      rw [heq]
      exact endsFailure_unwritten (by simp) fun _ _ _ => .inl List.mem_cons_self
  | ReadsEnded hcanceled hstatus hok hreadsDone heq =>
      refine iff_of_true ?_ (by simp [ForgetsFailure, hok, hreadsDone])
      rw [heq]
      exact endsFailure_unwritten (by simp) fun _ _ _ =>
        .inr (.inl (hinv.reads.readsEnded hreadsDone))
  | Continued hcanceled hstatus hok hblock =>
      rw [hblock.calls, endsFailure_write (by simp [hok]), hfailure]
      simp [ForgetsFailure, hcanceled, hstatus, hok]
  | Failed hcanceled hstatus hok hreadsDone hwrite =>
      rw [hwrite.calls, endsFailure_write fun _ => hwrite.failure, hfailure]
      simp [ForgetsFailure, hcanceled, hstatus, hok, hreadsDone]

theorem endsFailure_iff {stream : Stream DataStreamReaderWriter DataStreamDownloadData Status}
    {callback : Callback} (hinv : FailureInv stream) (hends : FailureEnds stream.history) :
    EndsFailure stream.history callback (stream.reactor.handle callback).2 ↔
      ¬ ForgetsFailure stream callback := by
  cases callback with
  | OnWriteDone isOk => exact endsFailure_onWriteDone hinv hends
  | OnReadDone isOk =>
      refine iff_of_true (endsFailure_unwritten ?_ (by simp)) (by simp [ForgetsFailure])
      exact (onReadDone_unwritten stream.reactor isOk).1
  | OnCancel =>
      exact iff_of_true (endsFailure_unwritten (by simp [handle, onCancel]) (by simp))
        (by simp [ForgetsFailure])
  | OnDone =>
      exact iff_of_true (endsFailure_unwritten (by simp [handle]) (by simp))
        (by simp [ForgetsFailure])

theorem failureEnds_iff_of_step (dataGenerator : DataGenerator)
    (stream : Stream DataStreamReaderWriter DataStreamDownloadData Status) (callback : Callback)
    (next : Stream DataStreamReaderWriter DataStreamDownloadData Status)
    (hinv : FailureInv stream)
    (h : (reactor dataGenerator).step stream callback = some next) :
    FailureEnds next.history ↔
      FailureEnds stream.history ∧ ¬ ForgetsFailure stream callback := by
  obtain ⟨-, rfl⟩ := step_reactor h
  exact failureEnds_step.trans (and_congr_right fun hends => endsFailure_iff hinv hends)

-- The failure is remembered in the status that the read chain also writes, so the
-- stream ends after it in exactly the runs in which it is not forgotten by then.
theorem readerWriter_failureEnds_iff (dataGenerator : DataGenerator) (callbacks : List Callback)
    (stream : Stream DataStreamReaderWriter DataStreamDownloadData Status)
    (hrun : run (reactor dataGenerator).step (reactor dataGenerator).start callbacks =
      some stream) :
    FailureEnds stream.history ↔
      HoldsAlong (reactor dataGenerator).step
        (fun stream callback => ¬ ForgetsFailure stream callback)
        (reactor dataGenerator).start callbacks := by
  rw [safe_iff_of_step (failureInv_step dataGenerator) (failureEnds_iff_of_step dataGenerator)
    (failureInv_start dataGenerator) hrun]
  exact and_iff_right (failureEnds_start dataGenerator)

theorem readerWriter_failureEnds_silent :
    ∃ stream, run (reactor ⟨fun _ => 0, 0⟩).step (reactor ⟨fun _ => 0, 0⟩).start
      [.OnReadDone true, .OnWriteDone false, .OnWriteDone true] = some stream ∧
        FailureEnds stream.history :=
  ⟨_, rfl, (readerWriter_failureEnds_iff ⟨fun _ => 0, 0⟩
    [.OnReadDone true, .OnWriteDone false, .OnWriteDone true] _ rfl).mpr (by decide)⟩

-- The client's next block arrives before the failure message completes.
theorem readerWriter_resumes_after_failure :
    ¬ ∀ (dataGenerator : DataGenerator) (callbacks : List Callback)
      (stream : Stream DataStreamReaderWriter DataStreamDownloadData Status),
      run (reactor dataGenerator).step (reactor dataGenerator).start callbacks = some stream →
        FailureEnds stream.history := by
  intro h
  have hends := h ⟨fun _ => 0, 0⟩ [.OnWriteDone false, .OnReadDone true, .OnWriteDone true] _ rfl
  obtain ⟨hpast, hlast⟩ := failureEnds_step.mp hends
  exact hlast.last (failureRecorded_step.mpr
    (.inl (failureRecorded_step.mpr (.inr ⟨rfl, _, List.mem_cons_self⟩)))) _ List.mem_cons_self

end NetRemote.Streaming.DataStreamReaderWriter
