import NetRemote.Streaming.DataBlocks
import NetRemote.Streaming.DataStreamWriter.Theorems

namespace NetRemote.Streaming.DataStreamWriter

open Foundation.Streaming Foundation.Transition

def fixedConstant (numberOfDataBlocks : UInt32) : DataStreamProperties :=
  { type := DataStreamTypeFixed
    pattern := DataStreamPatternConstant
    properties := .Fixed numberOfDataBlocks }

-- `Finish` comes directly after the completion of the last block, or first of all.
def FinishesAfter (count : Nat) (history : List (Event DataStreamDownloadData Status)) : Prop :=
  ∃ past rest, history = past ++ .Called (.Finish .OK) :: rest ∧ writesCompleted past = count ∧
    (past = [] ∨ past.getLast? = some (.Delivered (.OnWriteDone true)))

structure Downloads (count : Nat) (history : List (Event DataStreamDownloadData Status)) :
    Prop where
  numbered : (dataNumbers history).map UInt32.toNat =
    List.range' 1 (dataNumbers history).length
  bounded : (dataNumbers history).length ≤ count
  followsCompletion :
    EveryWrite (fun past _ => writesStarted past = writesCompleted past) history
  complete : cancellations history = 0 → .Delivered (.OnWriteDone false) ∉ history →
    writesStarted history = writesCompleted history →
    (dataNumbers history).length = count ∧ finishes history = 1 ∧ FinishesAfter count history

-- The counter of the blocks still to be streamed is decremented at most, never wrapped.
def CountsDown (self next : DataStreamWriter) : Prop :=
  next.numberOfDataBlocksToStream = self.numberOfDataBlocksToStream ∨
    next.numberOfDataBlocksToStream.toNat + 1 = self.numberOfDataBlocksToStream.toNat

inductive DownloadPhase (count : Nat)
    (stream : Stream DataStreamWriter DataStreamDownloadData Status) : Prop where
  | Writing (hcanceled : stream.reactor.isCanceled = false)
      (hstatus : stream.reactor.writeStatus.code ≠ DataStreamOperationStatusCodeFailed)
      (hremaining : stream.reactor.numberOfDataBlocksToStream.toNat +
        (dataNumbers stream.history).length = count + 1)
      (hcompleted : writesCompleted stream.history + 1 = (dataNumbers stream.history).length)
      (hwrites : writesStarted stream.history = writesCompleted stream.history + 1)
      (hfinishes : finishes stream.history = 0)
  | Failing (hstatus : stream.reactor.writeStatus.code = DataStreamOperationStatusCodeFailed)
      (hwrites : writesStarted stream.history = writesCompleted stream.history + 1)
      (hfailed : .Delivered (.OnWriteDone false) ∈ stream.history)
  | Failed (hwrites : writesStarted stream.history = writesCompleted stream.history)
      (hfailed : .Delivered (.OnWriteDone false) ∈ stream.history)
  | Complete (hwrites : writesStarted stream.history = writesCompleted stream.history)
      (hcount : (dataNumbers stream.history).length = count)
      (hfinishes : finishes stream.history = 1) (hends : FinishesAfter count stream.history)
  | Canceled (hcanceled : stream.reactor.isCanceled = true)

structure DownloadInv (numberOfDataBlocks : UInt32)
    (stream : Stream DataStreamWriter DataStreamDownloadData Status) : Prop where
  properties : stream.reactor.dataStreamProperties = fixedConstant numberOfDataBlocks
  numbered : dataNumbers stream.history = numbering (dataNumbers stream.history).length
  bounded : (dataNumbers stream.history).length ≤ numberOfDataBlocks.toNat
  followsCompletion :
    EveryWrite (fun past _ => writesStarted past = writesCompleted past) stream.history
  counted : stream.reactor.numberOfDataBlocksWritten =
    UInt32.ofNat (dataNumbers stream.history).length
  canceled : stream.reactor.isCanceled = true ↔ 0 < cancellations stream.history
  phase : DownloadPhase numberOfDataBlocks.toNat stream

theorem downloads_of_inv {numberOfDataBlocks : UInt32}
    {stream : Stream DataStreamWriter DataStreamDownloadData Status}
    (hinv : DownloadInv numberOfDataBlocks stream) :
    Downloads numberOfDataBlocks.toNat stream.history where
  numbered := by
    rw [hinv.numbered, toNat_numbering (Nat.lt_of_le_of_lt hinv.bounded
      numberOfDataBlocks.toNat_lt), length_numbering]
  bounded := hinv.bounded
  followsCompletion := hinv.followsCompletion
  complete := by
    intro huncanceled hsucceeded hcompleted
    cases hinv.phase with
    | Writing hcanceled hstatus hremaining hblocks hwrites hfinishes => omega
    | Failing hstatus hwrites hfailed => exact absurd hfailed hsucceeded
    | Failed hwrites hfailed => exact absurd hfailed hsucceeded
    | Complete hwrites hcount hfinishes hends => exact ⟨hcount, hfinishes, hends⟩
    | Canceled hcanceled =>
        have hcancellations := hinv.canceled.mp hcanceled
        omega

-- What `NextWrite` does for these properties: one more block, or the end.
structure StartsBlock (previous : DataStreamWriter) (result : DataStreamWriter × Calls) :
    Prop where
  calls : result.2 = [.StartWrite result.1.data]
  number : result.1.numberOfDataBlocksWritten = previous.numberOfDataBlocksWritten + 1
  sequence : result.1.data.sequenceNumber = result.1.numberOfDataBlocksWritten
  block : result.1.data.isFailure = false
  kept : result.1.dataStreamProperties = previous.dataStreamProperties ∧
    result.1.numberOfDataBlocksToStream = previous.numberOfDataBlocksToStream ∧
    result.1.writeStatus = previous.writeStatus ∧ result.1.isCanceled = previous.isCanceled

theorem nextWrite_startsBlock (self : DataStreamWriter) {numberOfDataBlocks : UInt32}
    (hproperties : self.dataStreamProperties = fixedConstant numberOfDataBlocks)
    (hcanceled : self.isCanceled = false)
    (hstatus : self.writeStatus.code ≠ DataStreamOperationStatusCodeFailed)
    (hremaining : 0 < self.numberOfDataBlocksToStream) : StartsBlock self self.nextWrite := by
  unfold nextWrite
  rw [if_neg (by simp [hcanceled]), if_pos (.inr ⟨by rw [hproperties]; rfl, hremaining⟩)]
  simp only [if_pos (show self.dataStreamProperties.pattern = DataStreamPatternConstant by
    rw [hproperties]; rfl)]
  exact ⟨rfl, rfl, rfl, by simpa [DataStreamDownloadData.isFailure] using hstatus,
    rfl, rfl, rfl, rfl⟩

theorem nextWrite_finishes (self : DataStreamWriter) {numberOfDataBlocks : UInt32}
    (hproperties : self.dataStreamProperties = fixedConstant numberOfDataBlocks)
    (hcanceled : self.isCanceled = false) (hremaining : self.numberOfDataBlocksToStream = 0) :
    self.nextWrite = (self, [.Finish .OK]) := by
  unfold nextWrite
  rw [if_neg (by simp [hcanceled]), if_neg]
  rw [hproperties, hremaining]
  simp [fixedConstant, DataStreamTypeFixed, DataStreamTypeContinuous]

theorem finishesAfter_append {count : Nat}
    {history : List (Event DataStreamDownloadData Status)} (h : FinishesAfter count history)
    (later : List (Event DataStreamDownloadData Status)) :
    FinishesAfter count (history ++ later) := by
  obtain ⟨past, rest, rfl, hcount, hdirectly⟩ := h
  exact ⟨past, rest ++ later, by simp, hcount, hdirectly⟩

-- A callback body that starts no write leaves only the phase to be determined.
theorem downloadInv_unwritten {numberOfDataBlocks : UInt32}
    {stream : Stream DataStreamWriter DataStreamDownloadData Status} {callback : Callback}
    {next : DataStreamWriter} (calls : Calls) (hinv : DownloadInv numberOfDataBlocks stream)
    (hcalls : ∀ message, .StartWrite message ∉ calls)
    (hproperties : next.dataStreamProperties = stream.reactor.dataStreamProperties)
    (hnumber : next.numberOfDataBlocksWritten = stream.reactor.numberOfDataBlocksWritten)
    (hcanceled : next.isCanceled = (stream.reactor.isCanceled || decide (callback = .OnCancel)))
    (hphase : DownloadPhase numberOfDataBlocks.toNat
      ⟨next, stream.history ++ .Delivered callback :: calls.map Event.Called⟩) :
    DownloadInv numberOfDataBlocks
      ⟨next, stream.history ++ .Delivered callback :: calls.map Event.Called⟩ where
  properties := hproperties.trans hinv.properties
  numbered := by simpa [dataNumbers_unwritten hcalls] using hinv.numbered
  bounded := by simpa [dataNumbers_unwritten hcalls] using hinv.bounded
  followsCompletion := (everyWrite_step_unwritten hcalls).mpr hinv.followsCompletion
  counted := by simpa [dataNumbers_unwritten hcalls, hnumber] using hinv.counted
  canceled := by
    rw [hcanceled, Bool.or_eq_true, hinv.canceled]
    cases callback <;> simp
  phase := hphase

-- The state in which a successful completion calls `NextWrite`.
def blockDone (self : DataStreamWriter) : DataStreamWriter :=
  { self with
    numberOfDataBlocksToStream := self.numberOfDataBlocksToStream - 1
    writeStatus :=
      { code := DataStreamOperationStatusCodeSucceeded, message := "Data write successful" } }

theorem onWriteDone_continued (self : DataStreamWriter) {numberOfDataBlocks : UInt32}
    (hproperties : self.dataStreamProperties = fixedConstant numberOfDataBlocks)
    (hcanceled : self.isCanceled = false)
    (hstatus : self.writeStatus.code ≠ DataStreamOperationStatusCodeFailed) :
    self.onWriteDone true = (blockDone self).nextWrite := by
  unfold onWriteDone
  rw [if_neg (by simp [hcanceled]), if_neg hstatus, if_pos rfl]
  simp only [if_pos (show self.dataStreamProperties.type = DataStreamTypeFixed by
    rw [hproperties]; rfl)]
  rfl

theorem onWriteDone_failed (self : DataStreamWriter) (hcanceled : self.isCanceled = false)
    (hstatus : self.writeStatus.code ≠ DataStreamOperationStatusCodeFailed) :
    self.onWriteDone false = self.handleFailure "Data write failed" := by
  unfold onWriteDone
  rw [if_neg (by simp [hcanceled]), if_neg hstatus, if_neg Bool.false_ne_true]

-- After a failure or a cancellation a completion changes nothing but the completion flag.
theorem onWriteDone_quiet (self : DataStreamWriter) (isOk : Bool)
    (h : self.isCanceled = true ∨
      self.writeStatus.code = DataStreamOperationStatusCodeFailed) :
    ∃ isCompleted calls, self.onWriteDone isOk =
      ({ self with isCompleted := isCompleted }, calls) ∧
        ∀ message, .StartWrite message ∉ calls := by
  unfold onWriteDone
  by_cases hcanceled : self.isCanceled = true
  · rw [if_pos hcanceled]
    exact ⟨self.isCompleted, [], rfl, by simp⟩
  · rw [if_neg hcanceled, if_pos (h.resolve_left hcanceled)]
    split
    · exact ⟨self.isCompleted, [], rfl, by simp⟩
    · exact ⟨true, [.Finish .OK], rfl, by simp⟩

theorem onCancel_quiet (self : DataStreamWriter) :
    ∃ calls, self.onCancel = ({ self with isCanceled := true }, calls) ∧
      ∀ message, .StartWrite message ∉ calls := by
  unfold onCancel
  split
  · rename_i h
    exact ⟨[], by simp [← h], by simp⟩
  · split
    · exact ⟨[], rfl, by simp⟩
    · exact ⟨[.Finish .CANCELLED], rfl, by simp⟩

theorem blockDone_toStream (self : DataStreamWriter)
    (h : 0 < self.numberOfDataBlocksToStream.toNat) :
    (blockDone self).numberOfDataBlocksToStream.toNat + 1 =
      self.numberOfDataBlocksToStream.toNat := by
  have hone : (1 : UInt32) ≤ self.numberOfDataBlocksToStream := UInt32.le_iff_toNat_le.mpr h
  have hsub := UInt32.toNat_sub_of_le _ _ hone
  simp only [UInt32.toNat_one] at hsub
  simp only [blockDone]
  omega

theorem nextWrite_toStream (self : DataStreamWriter) :
    (self.nextWrite).1.numberOfDataBlocksToStream = self.numberOfDataBlocksToStream := by
  unfold nextWrite
  split
  · rfl
  · split
    · by_cases hpattern : self.dataStreamProperties.pattern = DataStreamPatternConstant
      · simp only [if_pos hpattern]
      · simp only [if_neg hpattern]
        rfl
    · rfl

section Writing

variable {numberOfDataBlocks : UInt32}
  {stream : Stream DataStreamWriter DataStreamDownloadData Status}

theorem downloadInv_finished (hinv : DownloadInv numberOfDataBlocks stream)
    (hcanceled : stream.reactor.isCanceled = false)
    (hremaining : stream.reactor.numberOfDataBlocksToStream.toNat = 1)
    (hcount : (dataNumbers stream.history).length = numberOfDataBlocks.toNat)
    (hcompleted : writesCompleted stream.history + 1 = (dataNumbers stream.history).length)
    (hwrites : writesStarted stream.history = writesCompleted stream.history + 1)
    (hfinishes : finishes stream.history = 0) :
    DownloadInv numberOfDataBlocks ⟨((blockDone stream.reactor).nextWrite).1,
      stream.history ++ .Delivered (.OnWriteDone true) ::
        ((blockDone stream.reactor).nextWrite).2.map Event.Called⟩ := by
  have hone : stream.reactor.numberOfDataBlocksToStream = 1 := UInt32.toNat_inj.mp hremaining
  have hnone : (blockDone stream.reactor).numberOfDataBlocksToStream = 0 := by
    simp [blockDone, hone]
  rw [nextWrite_finishes (blockDone stream.reactor) hinv.properties hcanceled hnone]
  refine downloadInv_unwritten [.Finish .OK] hinv (by simp) rfl rfl (by simp [blockDone])
    (.Complete ?_ ?_ ?_ ⟨stream.history ++ [.Delivered (.OnWriteDone true)], [], ?_, ?_, ?_⟩)
  · simpa using hwrites
  · simpa using hcount
  · simpa using hfinishes
  · simp
  · simp
    omega
  · exact .inr (by simp)

theorem downloadInv_block (hinv : DownloadInv numberOfDataBlocks stream)
    (hcanceled : stream.reactor.isCanceled = false)
    (hmore : 1 < stream.reactor.numberOfDataBlocksToStream.toNat)
    (hremaining : stream.reactor.numberOfDataBlocksToStream.toNat +
      (dataNumbers stream.history).length = numberOfDataBlocks.toNat + 1)
    (hcompleted : writesCompleted stream.history + 1 = (dataNumbers stream.history).length)
    (hwrites : writesStarted stream.history = writesCompleted stream.history + 1)
    (hfinishes : finishes stream.history = 0) :
    DownloadInv numberOfDataBlocks ⟨((blockDone stream.reactor).nextWrite).1,
      stream.history ++ .Delivered (.OnWriteDone true) ::
        ((blockDone stream.reactor).nextWrite).2.map Event.Called⟩ := by
  have hdecremented := blockDone_toStream stream.reactor (Nat.zero_lt_of_lt hmore)
  have hblock := nextWrite_startsBlock (blockDone stream.reactor) hinv.properties hcanceled
    (by simp only [blockDone]; decide) (UInt32.lt_iff_toNat_lt.mpr (by simp; omega))
  obtain ⟨hproperties, hleft, hstatus, hflag⟩ := hblock.kept
  have huncanceled := hflag.trans hcanceled
  have hnumber : ((blockDone stream.reactor).nextWrite).1.numberOfDataBlocksWritten =
      UInt32.ofNat ((dataNumbers stream.history).length + 1) := by
    rw [hblock.number, UInt32.ofNat_add]
    exact congrArg (· + 1) hinv.counted
  have hkeep := (everyWrite_step (.OnWriteDone true)
    ((blockDone stream.reactor).nextWrite).1.data).mpr
      ⟨hinv.followsCompletion, by simpa using hwrites⟩
  rw [hblock.calls]
  refine ⟨hproperties.trans hinv.properties,
    dataNumbers_step hinv.numbered fun _ => hblock.sequence.trans hnumber, ?_, hkeep, ?_, ?_,
    .Writing huncanceled ?_ ?_ ?_ ?_ ?_⟩
  · simp [dataNumbers_data hblock.block]
    omega
  · simpa [dataNumbers_data hblock.block] using hnumber
  · simpa [huncanceled, hcanceled] using hinv.canceled
  · rw [hstatus]
    simp only [blockDone]
    decide
  · simp [dataNumbers_data hblock.block, hleft]
    omega
  · simpa [dataNumbers_data hblock.block] using hcompleted
  · simpa using hwrites
  · simpa using hfinishes

theorem downloadInv_failed (hinv : DownloadInv numberOfDataBlocks stream)
    (hwrites : writesStarted stream.history = writesCompleted stream.history + 1) :
    DownloadInv numberOfDataBlocks ⟨(stream.reactor.handleFailure "Data write failed").1,
      stream.history ++ .Delivered (.OnWriteDone false) ::
        (stream.reactor.handleFailure "Data write failed").2.map Event.Called⟩ := by
  have hfailure :
      (stream.reactor.handleFailure "Data write failed").1.data.isFailure = true := by
    simp [handleFailure, DataStreamDownloadData.isFailure]
  have hkeep := (everyWrite_step (.OnWriteDone false)
    (stream.reactor.handleFailure "Data write failed").1.data).mpr
      ⟨hinv.followsCompletion, by simpa using hwrites⟩
  have hcalls : (stream.reactor.handleFailure "Data write failed").2 =
      [.StartWrite (stream.reactor.handleFailure "Data write failed").1.data] := rfl
  rw [hcalls]
  refine ⟨hinv.properties, dataNumbers_step hinv.numbered (by simp [hfailure]), ?_, hkeep, ?_, ?_,
    .Failing rfl ?_ (by simp)⟩
  · simpa [dataNumbers_failure hfailure] using hinv.bounded
  · change stream.reactor.numberOfDataBlocksWritten = _
    simpa [dataNumbers_failure hfailure] using hinv.counted
  · change stream.reactor.isCanceled = true ↔ _
    simpa using hinv.canceled
  · simpa using hwrites

-- A completion that finds the stream failed or canceled.
theorem downloadInv_quiet {isOk : Bool} (hinv : DownloadInv numberOfDataBlocks stream)
    (hquiet : stream.reactor.isCanceled = true ∨
      stream.reactor.writeStatus.code = DataStreamOperationStatusCodeFailed ∧
        writesStarted stream.history = writesCompleted stream.history + 1 ∧
        .Delivered (.OnWriteDone false) ∈ stream.history) :
    DownloadInv numberOfDataBlocks ⟨(stream.reactor.onWriteDone isOk).1,
      stream.history ++ .Delivered (.OnWriteDone isOk) ::
        (stream.reactor.onWriteDone isOk).2.map Event.Called⟩ := by
  obtain ⟨isCompleted, calls, heq, hcalls⟩ :=
    onWriteDone_quiet stream.reactor isOk (hquiet.imp_right And.left)
  rw [heq]
  refine downloadInv_unwritten calls hinv hcalls rfl rfl (by simp) ?_
  rcases hquiet with hcanceled | ⟨hstatus, hwrites, hfailed⟩
  · exact .Canceled hcanceled
  · refine .Failed ?_ (List.mem_append_left _ hfailed)
    simpa [writesStarted_unwritten hcalls] using hwrites

theorem downloadInv_onWriteDone {isOk : Bool} (hinv : DownloadInv numberOfDataBlocks stream)
    (hdeliver : mayDeliver stream.history (.OnWriteDone isOk)) :
    DownloadInv numberOfDataBlocks ⟨(stream.reactor.onWriteDone isOk).1,
      stream.history ++ .Delivered (.OnWriteDone isOk) ::
        (stream.reactor.onWriteDone isOk).2.map Event.Called⟩ := by
  have hpending := pendingWrite_of_mayDeliver hdeliver
  cases hinv.phase with
  | Failing hstatus hwrites hfailed =>
      exact downloadInv_quiet hinv (.inr ⟨hstatus, hwrites, hfailed⟩)
  | Canceled hcanceled => exact downloadInv_quiet hinv (.inl hcanceled)
  | Failed hwrites hfailed => omega
  | Complete hwrites hcount hfinishes hends => omega
  | Writing hcanceled hstatus hremaining hcompleted hwrites hfinishes =>
      cases isOk with
      | false =>
          rw [onWriteDone_failed stream.reactor hcanceled hstatus]
          exact downloadInv_failed hinv hwrites
      | true =>
          have hbounded := hinv.bounded
          rw [onWriteDone_continued stream.reactor hinv.properties hcanceled hstatus]
          by_cases hmore : 1 < stream.reactor.numberOfDataBlocksToStream.toNat
          · exact downloadInv_block hinv hcanceled hmore hremaining hcompleted hwrites hfinishes
          · exact downloadInv_finished hinv hcanceled (by omega) (by omega) hcompleted hwrites
              hfinishes

theorem downloadInv_onCancel (hinv : DownloadInv numberOfDataBlocks stream) :
    DownloadInv numberOfDataBlocks ⟨(stream.reactor.onCancel).1,
      stream.history ++ .Delivered .OnCancel :: (stream.reactor.onCancel).2.map Event.Called⟩ := by
  obtain ⟨calls, heq, hcalls⟩ := onCancel_quiet stream.reactor
  rw [heq]
  exact downloadInv_unwritten calls hinv hcalls rfl rfl (by simp) (.Canceled rfl)

-- The callbacks that neither complete a write nor cancel.
theorem downloadInv_ignored {callback : Callback} (hinv : DownloadInv numberOfDataBlocks stream)
    (hcallback : (∃ isOk, callback = .OnReadDone isOk) ∨ callback = .OnDone) :
    DownloadInv numberOfDataBlocks
      ⟨stream.reactor, stream.history ++ [.Delivered callback]⟩ := by
  have hcancel : callback ≠ .OnCancel := by
    rcases hcallback with ⟨isOk, rfl⟩ | rfl <;> simp
  have hcompletes : writesCompleted (stream.history ++ [.Delivered callback]) =
      writesCompleted stream.history := by
    rcases hcallback with ⟨isOk, rfl⟩ | rfl <;> simp
  refine downloadInv_unwritten [] hinv (by simp) rfl rfl (by simp [hcancel]) ?_
  cases hinv.phase with
  | Writing hcanceled hstatus hremaining hcompleted hwrites hfinishes =>
      refine .Writing hcanceled hstatus (by simpa using hremaining) ?_ ?_ (by simpa using hfinishes)
      · simpa [hcompletes] using hcompleted
      · simpa [hcompletes] using hwrites
  | Failing hstatus hwrites hfailed =>
      exact .Failing hstatus (by simpa [hcompletes] using hwrites) (List.mem_append_left _ hfailed)
  | Failed hwrites hfailed =>
      exact .Failed (by simpa [hcompletes] using hwrites) (List.mem_append_left _ hfailed)
  | Complete hwrites hcount hfinishes hends =>
      exact .Complete (by simpa [hcompletes] using hwrites) (by simpa using hcount)
        (by simpa using hfinishes) (finishesAfter_append hends _)
  | Canceled hcanceled => exact .Canceled hcanceled

end Writing

-- The state in which the constructor calls `NextWrite`.
def opened (numberOfDataBlocks : UInt32) (dataGenerator : DataGenerator) : DataStreamWriter :=
  { dataStreamProperties := fixedConstant numberOfDataBlocks
    numberOfDataBlocksToStream := numberOfDataBlocks
    writeStatus := { code := DataStreamOperationStatusCodeUnknown, message := "No data sent yet" }
    dataGenerator := dataGenerator }

theorem construct_fixedConstant (numberOfDataBlocks : UInt32) (dataGenerator : DataGenerator) :
    construct ⟨fixedConstant numberOfDataBlocks⟩ dataGenerator =
      (opened numberOfDataBlocks dataGenerator).nextWrite := rfl

theorem downloadInv_start (numberOfDataBlocks : UInt32) (dataGenerator : DataGenerator) :
    DownloadInv numberOfDataBlocks
      (reactor ⟨fixedConstant numberOfDataBlocks⟩ dataGenerator).start := by
  unfold Reactor.start reactor
  rw [construct_fixedConstant]
  by_cases hnone : numberOfDataBlocks = 0
  · rw [nextWrite_finishes (opened numberOfDataBlocks dataGenerator) rfl rfl hnone]
    have hempty : EveryWrite (fun past _ => writesStarted past = writesCompleted past)
        ([] ++ [.Called (.Finish .OK)] : List (Event DataStreamDownloadData Status)) :=
      everyWrite_concat.mpr ⟨everyWrite_nil _, by simp⟩
    refine ⟨rfl, rfl, Nat.zero_le _, hempty, rfl, by simp [opened], .Complete rfl ?_ rfl ?_⟩
    · simp [hnone]
    · exact ⟨[], [], rfl, by simp [hnone], .inl rfl⟩
  · have hpositive : 0 < numberOfDataBlocks := UInt32.pos_iff_ne_zero.mpr hnone
    have hblock := nextWrite_startsBlock (opened numberOfDataBlocks dataGenerator) rfl rfl
      (by simp only [opened]; decide) hpositive
    obtain ⟨hproperties, hleft, hstatus, hflag⟩ := hblock.kept
    have huncanceled : (opened numberOfDataBlocks dataGenerator).nextWrite.1.isCanceled = false :=
      hflag
    have hfirst : EveryWrite (fun past _ => writesStarted past = writesCompleted past)
        ([] ++ [.Called (.StartWrite (opened numberOfDataBlocks dataGenerator).nextWrite.1.data)] :
          List (Event DataStreamDownloadData Status)) :=
      everyWrite_concat.mpr ⟨everyWrite_nil _, by simp⟩
    have hnumbers : dataNumbers
        [(.Called (.StartWrite (opened numberOfDataBlocks dataGenerator).nextWrite.1.data) :
          Event DataStreamDownloadData Status)] = [1] := by
      rw [dataNumbers_data hblock.block, hblock.sequence, hblock.number]
      rfl
    rw [hblock.calls]
    refine ⟨hproperties, by rw [List.map_singleton, hnumbers]; rfl, ?_, hfirst, ?_, ?_,
      .Writing huncanceled ?_ ?_ ?_ rfl rfl⟩
    · rw [List.map_singleton, hnumbers]
      exact UInt32.lt_iff_toNat_lt.mp hpositive
    · rw [List.map_singleton, hnumbers, hblock.number]
      rfl
    · simpa using huncanceled
    · rw [hstatus]
      simp only [opened]
      decide
    · rw [List.map_singleton, hnumbers, hleft]
      rfl
    · rw [List.map_singleton, hnumbers]
      rfl

theorem downloadInv_step (numberOfDataBlocks : UInt32) (dataGenerator : DataGenerator)
    (stream : Stream DataStreamWriter DataStreamDownloadData Status) (callback : Callback)
    (next : Stream DataStreamWriter DataStreamDownloadData Status)
    (hinv : DownloadInv numberOfDataBlocks stream)
    (h : (reactor ⟨fixedConstant numberOfDataBlocks⟩ dataGenerator).step stream callback =
      some next) : DownloadInv numberOfDataBlocks next := by
  obtain ⟨hdeliver, rfl⟩ := step_reactor h
  cases callback with
  | OnWriteDone isOk => exact downloadInv_onWriteDone hinv hdeliver
  | OnCancel => exact downloadInv_onCancel hinv
  | OnReadDone isOk => exact downloadInv_ignored hinv (.inl ⟨isOk, rfl⟩)
  | OnDone => exact downloadInv_ignored hinv (.inr rfl)

theorem countsDown_onWriteDone {numberOfDataBlocks : UInt32}
    {stream : Stream DataStreamWriter DataStreamDownloadData Status} {isOk : Bool}
    (hinv : DownloadInv numberOfDataBlocks stream)
    (hdeliver : mayDeliver stream.history (.OnWriteDone isOk)) :
    CountsDown stream.reactor (stream.reactor.onWriteDone isOk).1 := by
  have hpending := pendingWrite_of_mayDeliver hdeliver
  have hquiet : stream.reactor.isCanceled = true ∨
      stream.reactor.writeStatus.code = DataStreamOperationStatusCodeFailed →
        CountsDown stream.reactor (stream.reactor.onWriteDone isOk).1 := by
    intro h
    obtain ⟨isCompleted, calls, heq, -⟩ := onWriteDone_quiet stream.reactor isOk h
    rw [heq]
    exact .inl rfl
  cases hinv.phase with
  | Failing hstatus hwrites hfailed => exact hquiet (.inr hstatus)
  | Canceled hcanceled => exact hquiet (.inl hcanceled)
  | Failed hwrites hfailed => omega
  | Complete hwrites hcount hfinishes hends => omega
  | Writing hcanceled hstatus hremaining hcompleted hwrites hfinishes =>
      have hbounded := hinv.bounded
      cases isOk with
      | false =>
          rw [onWriteDone_failed stream.reactor hcanceled hstatus]
          exact .inl rfl
      | true =>
          right
          rw [onWriteDone_continued stream.reactor hinv.properties hcanceled hstatus,
            nextWrite_toStream]
          exact blockDone_toStream stream.reactor (by omega)

theorem countsDown_step (numberOfDataBlocks : UInt32) (dataGenerator : DataGenerator)
    (stream : Stream DataStreamWriter DataStreamDownloadData Status) (callback : Callback)
    (next : Stream DataStreamWriter DataStreamDownloadData Status)
    (hinv : DownloadInv numberOfDataBlocks stream)
    (h : (reactor ⟨fixedConstant numberOfDataBlocks⟩ dataGenerator).step stream callback =
      some next) : CountsDown stream.reactor next.reactor := by
  obtain ⟨hdeliver, rfl⟩ := step_reactor h
  cases callback with
  | OnWriteDone isOk => exact countsDown_onWriteDone hinv hdeliver
  | OnReadDone isOk => exact .inl rfl
  | OnDone => exact .inl rfl
  | OnCancel =>
      obtain ⟨calls, heq, -⟩ := onCancel_quiet stream.reactor
      have hkept : ((stream.reactor.handle .OnCancel).1).numberOfDataBlocksToStream =
          stream.reactor.numberOfDataBlocksToStream := congrArg (·.1.numberOfDataBlocksToStream) heq
      exact .inl hkept

-- For every number of blocks the client asks for, and whatever fails or is canceled.
theorem writer_downloads (numberOfDataBlocks : UInt32) (dataGenerator : DataGenerator)
    (callbacks : List Callback) (stream : Stream DataStreamWriter DataStreamDownloadData Status)
    (hrun : run (reactor ⟨fixedConstant numberOfDataBlocks⟩ dataGenerator).step
      (reactor ⟨fixedConstant numberOfDataBlocks⟩ dataGenerator).start callbacks = some stream) :
    Downloads numberOfDataBlocks.toNat stream.history ∧
      HoldsAlong (reactor ⟨fixedConstant numberOfDataBlocks⟩ dataGenerator).step
        (fun stream callback => ∀ next,
          (reactor ⟨fixedConstant numberOfDataBlocks⟩ dataGenerator).step stream callback =
            some next → CountsDown stream.reactor next.reactor)
        (reactor ⟨fixedConstant numberOfDataBlocks⟩ dataGenerator).start callbacks := by
  have hstart := downloadInv_start numberOfDataBlocks dataGenerator
  have hstep := downloadInv_step numberOfDataBlocks dataGenerator
  have hcounts := countsDown_step numberOfDataBlocks dataGenerator
  refine ⟨downloads_of_inv (invariant_always hstep hstart hrun), ?_⟩
  exact holdsAlong_of_invariant hstep
    (fun stream callback hinv next => hcounts stream callback next hinv) hstart callbacks

theorem writer_downloads_two_blocks :
    ∃ stream, run (reactor ⟨fixedConstant 2⟩ ⟨fun _ => 0, 0⟩).step
      (reactor ⟨fixedConstant 2⟩ ⟨fun _ => 0, 0⟩).start
      [.OnWriteDone true, .OnWriteDone true, .OnDone] = some stream ∧
        Downloads 2 stream.history :=
  ⟨_, rfl, (writer_downloads 2 ⟨fun _ => 0, 0⟩
    [.OnWriteDone true, .OnWriteDone true, .OnDone] _ rfl).1⟩

end NetRemote.Streaming.DataStreamWriter
