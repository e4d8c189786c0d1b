import NetRemote.Streaming.DataBlocks
import NetRemote.Streaming.DataStreamReaderWriter.Theorems

namespace NetRemote.Streaming.DataStreamReaderWriter

open Foundation.Streaming Foundation.Transition

-- What `NextWrite` starts is the next data block, unless the status is already `Failed`.
structure StartsBlock (previous : DataStreamReaderWriter)
    (result : DataStreamReaderWriter × Calls) : Prop where
  calls : result.2 = [.StartWrite result.1.writeData]
  number : result.1.numberOfDataBlocksWritten = previous.numberOfDataBlocksWritten + 1
  sequence : result.1.writeData.sequenceNumber = result.1.numberOfDataBlocksWritten
  data : result.1.writeData.isFailure = false
  canceled : result.1.isCanceled = previous.isCanceled

theorem nextWrite_startsBlock (self : DataStreamReaderWriter) (hcanceled : self.isCanceled = false)
    (hstatus : self.status.code ≠ DataStreamOperationStatusCodeFailed) :
    StartsBlock self self.nextWrite := by
  unfold nextWrite
  rw [if_neg (by simp [hcanceled])]
  exact ⟨rfl, rfl, rfl, by simpa [DataStreamDownloadData.isFailure] using hstatus, rfl⟩

structure StartsFailure (previous : DataStreamReaderWriter)
    (result : DataStreamReaderWriter × Calls) : Prop where
  calls : result.2 = [.StartWrite result.1.writeData]
  number : result.1.numberOfDataBlocksWritten = previous.numberOfDataBlocksWritten
  sequence : result.1.writeData.sequenceNumber = previous.writeData.sequenceNumber
  failure : result.1.writeData.isFailure = true
  canceled : result.1.isCanceled = previous.isCanceled

theorem handleFailure_startsFailure (self : DataStreamReaderWriter) (errorMessage : String) :
    StartsFailure self (self.handleFailure errorMessage) :=
  ⟨rfl, rfl, rfl, by simp [handleFailure, DataStreamDownloadData.isFailure], rfl⟩

-- Everything that a write completion can do, with the guards in the order of the source.
inductive WriteDone (self : DataStreamReaderWriter) (isOk : Bool) : Prop where
  | Canceled (hcanceled : self.isCanceled = true) (heq : self.onWriteDone isOk = (self, []))
  | Finished (hcanceled : self.isCanceled = false)
      (hstatus : self.status.code = DataStreamOperationStatusCodeFailed)
      (heq : self.onWriteDone isOk = (self, [.Finish .OK]))
  | Continued (hcanceled : self.isCanceled = false)
      (hstatus : self.status.code ≠ DataStreamOperationStatusCodeFailed) (hok : isOk = true)
      (hblock : StartsBlock self (self.onWriteDone isOk))
  | ReadsEnded (hcanceled : self.isCanceled = false)
      (hstatus : self.status.code ≠ DataStreamOperationStatusCodeFailed) (hok : isOk = false)
      (hreadsDone : self.readsDone = true) (heq : self.onWriteDone isOk = (self, []))
  | Failed (hcanceled : self.isCanceled = false)
      (hstatus : self.status.code ≠ DataStreamOperationStatusCodeFailed) (hok : isOk = false)
      (hreadsDone : self.readsDone = false)
      (hfailure : StartsFailure self (self.onWriteDone isOk))

theorem onWriteDone_continued (self : DataStreamReaderWriter) (hcanceled : self.isCanceled = false)
    (hstatus : self.status.code ≠ DataStreamOperationStatusCodeFailed) :
    StartsBlock self (self.onWriteDone true) := by
  have hblock := nextWrite_startsBlock { self with
    status := { code := DataStreamOperationStatusCodeSucceeded
                message := "Data write successful" } } hcanceled (by simp only; decide)
  rw [onWriteDone, if_neg (by simp [hcanceled]), if_neg hstatus, if_pos rfl]
  exact ⟨hblock.calls, hblock.number, hblock.sequence, hblock.data, hblock.canceled⟩

theorem onWriteDone_inversion (self : DataStreamReaderWriter) (isOk : Bool) :
    WriteDone self isOk := by
  by_cases hcanceled : self.isCanceled = true
  · exact .Canceled hcanceled (by rw [onWriteDone, if_pos hcanceled])
  · have huncanceled : self.isCanceled = false := by simpa using hcanceled
    by_cases hstatus : self.status.code = DataStreamOperationStatusCodeFailed
    · exact .Finished huncanceled hstatus
        (by rw [onWriteDone, if_neg hcanceled, if_pos hstatus])
    · cases isOk with
      | true =>
          exact .Continued huncanceled hstatus rfl (onWriteDone_continued self huncanceled hstatus)
      | false =>
          have htail : self.onWriteDone false =
              if self.readsDone then (self, []) else self.handleFailure "Data write failed" := by
            rw [onWriteDone, if_neg hcanceled, if_neg hstatus, if_neg Bool.false_ne_true]
          cases hreadsDone : self.readsDone with
          | true =>
              rw [if_pos hreadsDone] at htail
              exact .ReadsEnded huncanceled hstatus rfl hreadsDone htail
          | false =>
              rw [if_neg (by simp [hreadsDone])] at htail
              refine .Failed huncanceled hstatus rfl hreadsDone ?_
              rw [htail]
              exact handleFailure_startsFailure self _

-- The part of a callback body that concerns the write chain.
inductive Reaction (self : DataStreamReaderWriter) (callback : Callback) : Prop where
  | Unwritten (hcalls : ∀ message, .StartWrite message ∉ (self.handle callback).2)
      (hdata : (self.handle callback).1.writeData = self.writeData)
      (hnumber : (self.handle callback).1.numberOfDataBlocksWritten =
        self.numberOfDataBlocksWritten)
  | Block (hcallback : callback = .OnWriteDone true) (hcanceled : self.isCanceled = false)
      (hblock : StartsBlock self (self.handle callback))
  | Failure (hcallback : callback = .OnWriteDone false) (hcanceled : self.isCanceled = false)
      (hfailure : StartsFailure self (self.handle callback))

theorem onReadDone_unwritten (self : DataStreamReaderWriter) (isOk : Bool) :
    (∀ message, .StartWrite message ∉ (self.onReadDone isOk).2) ∧
      (self.onReadDone isOk).1.writeData = self.writeData ∧
      (self.onReadDone isOk).1.numberOfDataBlocksWritten = self.numberOfDataBlocksWritten ∧
      (self.onReadDone isOk).1.isCanceled = self.isCanceled := by
  unfold onReadDone
  split
  · simp
  · split <;> simp

theorem reaction_of_idle {self : DataStreamReaderWriter} {callback : Callback} {calls : Calls}
    (heq : self.handle callback = (self, calls)) (hcalls : ∀ message, .StartWrite message ∉ calls) :
    Reaction self callback :=
  .Unwritten (heq ▸ hcalls) (congrArg (·.1.writeData) heq)
    (congrArg (·.1.numberOfDataBlocksWritten) heq)

theorem handle_reaction (self : DataStreamReaderWriter) (callback : Callback) :
    Reaction self callback := by
  cases callback with
  | OnReadDone isOk =>
      obtain ⟨hcalls, hdata, hnumber, -⟩ := onReadDone_unwritten self isOk
      exact .Unwritten hcalls hdata hnumber
  | OnCancel => exact .Unwritten (by simp [handle, onCancel]) rfl rfl
  | OnDone => exact .Unwritten (by simp [handle]) rfl rfl
  | OnWriteDone isOk =>
      cases onWriteDone_inversion self isOk with
      | Canceled hcanceled heq => exact reaction_of_idle heq (by simp)
      | Finished hcanceled hstatus heq => exact reaction_of_idle heq (by simp)
      | ReadsEnded hcanceled hstatus hok hreadsDone heq => exact reaction_of_idle heq (by simp)
      | Continued hcanceled hstatus hok hblock => exact .Block (by rw [hok]) hcanceled hblock
      | Failed hcanceled hstatus hok hreadsDone hfailure =>
          exact .Failure (by rw [hok]) hcanceled hfailure

-- The flag stands for the library's cancellation; no other callback moves it.
theorem handle_isCanceled (self : DataStreamReaderWriter) (callback : Callback) :
    (self.handle callback).1.isCanceled = (self.isCanceled || decide (callback = .OnCancel)) := by
  cases callback with
  | OnReadDone isOk => simp [handle, (onReadDone_unwritten self isOk).2.2.2]
  | OnCancel => simp [handle, onCancel]
  | OnDone => simp [handle]
  | OnWriteDone isOk =>
      have hkept : (self.onWriteDone isOk).1.isCanceled = self.isCanceled := by
        cases onWriteDone_inversion self isOk with
        | Canceled hcanceled heq => rw [heq]
        | Finished hcanceled hstatus heq => rw [heq]
        | ReadsEnded hcanceled hstatus hok hreadsDone heq => rw [heq]
        | Continued hcanceled hstatus hok hblock => exact hblock.canceled
        | Failed hcanceled hstatus hok hreadsDone hfailure => exact hfailure.canceled
      simpa [handle] using hkept

-- The discipline of the write chain, read off the history alone.
structure WritesInOrder (history : List (Event DataStreamDownloadData Status)) : Prop where
  uncanceled : EveryWrite (fun past _ => cancellations past = 0) history
  followsCompletion :
    EveryWrite (fun past _ => writesStarted past = writesCompleted past) history
  numbered : dataNumbers history = numbering (dataNumbers history).length
  repeated : EveryWrite (fun past message => message.isFailure = true →
    (dataNumbers past).getLast? = some message.sequenceNumber) history

structure WriteInv (stream : Stream DataStreamReaderWriter DataStreamDownloadData Status) :
    Prop where
  inOrder : WritesInOrder stream.history
  canceled : stream.reactor.isCanceled = true ↔ 0 < cancellations stream.history
  outstanding : writesStarted stream.history ≤ writesCompleted stream.history + 1
  counted : stream.reactor.numberOfDataBlocksWritten =
    UInt32.ofNat (dataNumbers stream.history).length
  last : (dataNumbers stream.history).getLast? = some stream.reactor.writeData.sequenceNumber

theorem canceled_step {self : DataStreamReaderWriter} (callback : Callback)
    {history : List (Event DataStreamDownloadData Status)}
    (hcanceled : self.isCanceled = true ↔ 0 < cancellations history) :
    (self.handle callback).1.isCanceled = true ↔ 0 < cancellations
      (history ++ .Delivered callback :: (self.handle callback).2.map Event.Called) := by
  rw [handle_isCanceled, Bool.or_eq_true, hcanceled]
  cases callback <;> simp

theorem writesInOrder_unwritten {history : List (Event DataStreamDownloadData Status)}
    {callback : Callback} {calls : Calls} (hcalls : ∀ message, .StartWrite message ∉ calls)
    (h : WritesInOrder history) :
    WritesInOrder (history ++ .Delivered callback :: calls.map Event.Called) where
  uncanceled := (everyWrite_step_unwritten hcalls).mpr h.uncanceled
  followsCompletion := (everyWrite_step_unwritten hcalls).mpr h.followsCompletion
  numbered := by simpa [dataNumbers_unwritten hcalls] using h.numbered
  repeated := (everyWrite_step_unwritten hcalls).mpr h.repeated

-- A write completion that starts the next message, block or failure.
theorem writesInOrder_write {history : List (Event DataStreamDownloadData Status)} {isOk : Bool}
    {message : DataStreamDownloadData} (h : WritesInOrder history)
    (huncanceled : cancellations history = 0)
    (hcompleted : writesStarted history = writesCompleted history + 1)
    (hnumber : message.isFailure = false →
      message.sequenceNumber = UInt32.ofNat ((dataNumbers history).length + 1))
    (hlast : message.isFailure = true →
      (dataNumbers history).getLast? = some message.sequenceNumber) :
    WritesInOrder
      (history ++ [.Delivered (.OnWriteDone isOk), .Called (.StartWrite message)]) where
  uncanceled := (everyWrite_step _ _).mpr ⟨h.uncanceled, by simpa using huncanceled⟩
  followsCompletion := (everyWrite_step _ _).mpr ⟨h.followsCompletion, by simpa using hcompleted⟩
  numbered := dataNumbers_step h.numbered hnumber
  repeated := (everyWrite_step _ _).mpr ⟨h.repeated, by simpa using hlast⟩

private theorem everyWrite_construct
    {P : List (Event DataStreamDownloadData Status) → DataStreamDownloadData → Prop}
    {message : DataStreamDownloadData} (h : P [.Called .StartRead] message) :
    EveryWrite P [.Called .StartRead, .Called (.StartWrite message)] := by
  have hread : EveryWrite P ([] ++ [.Called .StartRead]) :=
    everyWrite_concat.mpr ⟨everyWrite_nil P, by simp⟩
  exact everyWrite_concat.mpr ⟨hread, by rintro _ hmessage; cases hmessage; exact h⟩

-- The constructor starts the first block, next to the first read.
theorem writeInv_start (dataGenerator : DataGenerator) :
    WriteInv (reactor dataGenerator).start where
  inOrder := ⟨everyWrite_construct rfl, everyWrite_construct rfl, rfl,
    everyWrite_construct fun hfailure => absurd hfailure Bool.false_ne_true⟩
  canceled := ⟨fun h => absurd h Bool.false_ne_true, fun h => absurd h (Nat.lt_irrefl 0)⟩
  outstanding := Nat.le_refl 1
  counted := rfl
  last := rfl

theorem writeInv_handle (stream : Stream DataStreamReaderWriter DataStreamDownloadData Status)
    (callback : Callback) (hinv : WriteInv stream) (hdeliver : mayDeliver stream.history callback) :
    WriteInv ⟨(stream.reactor.handle callback).1, stream.history ++ .Delivered callback ::
      (stream.reactor.handle callback).2.map Event.Called⟩ := by
  have hcanceled := canceled_step callback hinv.canceled
  have houtstanding := hinv.outstanding
  cases handle_reaction stream.reactor callback with
  | Unwritten hcalls hdata hnumber =>
      have hnumbers := dataNumbers_unwritten hcalls
      refine ⟨writesInOrder_unwritten hcalls hinv.inOrder, hcanceled, ?_, ?_, ?_⟩
      · simp [writesStarted_unwritten hcalls]
        omega
      · simpa [hnumbers, hnumber] using hinv.counted
      · simpa [hnumbers, hdata] using hinv.last
  | Block hcallback huncanceled hblock =>
      obtain rfl := hcallback
      have hpending := pendingWrite_of_mayDeliver hdeliver
      have hzero : cancellations stream.history = 0 := by
        simpa [huncanceled] using hinv.canceled
      have hnumber : (stream.reactor.handle (.OnWriteDone true)).1.numberOfDataBlocksWritten =
          UInt32.ofNat ((dataNumbers stream.history).length + 1) := by
        rw [hblock.number, hinv.counted, UInt32.ofNat_add]
        rfl
      rw [hblock.calls] at hcanceled ⊢
      refine ⟨writesInOrder_write hinv.inOrder hzero (by omega)
        (fun _ => hblock.sequence.trans hnumber) (by simp [hblock.data]), hcanceled, ?_, ?_, ?_⟩
      · simp
        omega
      · simpa [dataNumbers_data hblock.data] using hnumber
      · simp [dataNumbers_data hblock.data]
  | Failure hcallback huncanceled hfailure =>
      obtain rfl := hcallback
      have hpending := pendingWrite_of_mayDeliver hdeliver
      have hzero : cancellations stream.history = 0 := by
        simpa [huncanceled] using hinv.canceled
      have hlast := hinv.last.trans (congrArg some hfailure.sequence.symm)
      rw [hfailure.calls] at hcanceled ⊢
      refine ⟨writesInOrder_write hinv.inOrder hzero (by omega) (by simp [hfailure.failure])
        (fun _ => hlast), hcanceled, ?_, ?_, ?_⟩
      · simp
        omega
      · simpa [dataNumbers_failure hfailure.failure, hfailure.number] using hinv.counted
      · simpa [dataNumbers_failure hfailure.failure] using hlast

theorem writeInv_step (dataGenerator : DataGenerator)
    (stream : Stream DataStreamReaderWriter DataStreamDownloadData Status) (callback : Callback)
    (next : Stream DataStreamReaderWriter DataStreamDownloadData Status)
    (hinv : WriteInv stream)
    (h : (reactor dataGenerator).step stream callback = some next) : WriteInv next := by
  obtain ⟨hdeliver, rfl⟩ := step_reactor h
  exact writeInv_handle stream callback hinv hdeliver

theorem readerWriter_writesInOrder (dataGenerator : DataGenerator) (callbacks : List Callback)
    (stream : Stream DataStreamReaderWriter DataStreamDownloadData Status)
    (hrun : run (reactor dataGenerator).step (reactor dataGenerator).start callbacks =
      some stream) :
    WritesInOrder stream.history :=
  (invariant_always (writeInv_step dataGenerator) (writeInv_start dataGenerator) hrun).inOrder

-- A failed block, a read in between, a further block and a cancellation.
theorem readerWriter_writesInOrder_failure :
    ∃ stream, run (reactor ⟨fun _ => 0, 0⟩).step (reactor ⟨fun _ => 0, 0⟩).start
      [.OnWriteDone true, .OnWriteDone false, .OnReadDone true, .OnWriteDone true, .OnCancel,
        .OnWriteDone true] = some stream ∧ WritesInOrder stream.history :=
  ⟨_, rfl, readerWriter_writesInOrder ⟨fun _ => 0, 0⟩ [.OnWriteDone true, .OnWriteDone false,
    .OnReadDone true, .OnWriteDone true, .OnCancel, .OnWriteDone true] _ rfl⟩

end NetRemote.Streaming.DataStreamReaderWriter
