import NetRemote.Streaming.DataStreamReaderWriter

namespace NetRemote.Streaming.DataStreamReaderWriter

open Foundation.Streaming Foundation.Transition

-- The two chains share no completion flag: after `Finish`, a read completion
-- always acts, and a write completion acts unless the stream is canceled or the
-- write failed after the end of the reads.
def ActsAfterFinish
    (stream : Stream DataStreamReaderWriter DataStreamDownloadData Status)
    (callback : Callback) : Prop :=
  0 < finishes stream.history ∧
    match callback with
    | .OnReadDone _ => True
    | .OnWriteDone isOk => stream.reactor.isCanceled = false ∧
        (isOk = true ∨ stream.reactor.status.code = DataStreamOperationStatusCodeFailed)
    | .OnCancel => False
    | .OnDone => False

instance (stream : Stream DataStreamReaderWriter DataStreamDownloadData Status) :
    ∀ callback, Decidable (ActsAfterFinish stream callback)
  | .OnReadDone _ => inferInstanceAs (Decidable (_ ∧ True))
  | .OnWriteDone _ => inferInstanceAs (Decidable (_ ∧ _ ∧ _))
  | .OnCancel => inferInstanceAs (Decidable (_ ∧ False))
  | .OnDone => inferInstanceAs (Decidable (_ ∧ False))

inductive Phase (stream : Stream DataStreamReaderWriter DataStreamDownloadData Status) : Prop where
  | Reading (hfinishes : finishes stream.history = 0)
      (hreads : readsStarted stream.history = readsCompleted stream.history + 1)
      (hreadsDone : stream.reactor.readsDone = false)
  | ReadsEnded (hfinishes : finishes stream.history = 1)
      (hreads : readsStarted stream.history = readsCompleted stream.history)
      (hreadsDone : stream.reactor.readsDone = true)
  | WriteFailed (hfinishes : finishes stream.history = 1)
      (hwrites : writesStarted stream.history ≤ writesCompleted stream.history)
      (hreadsDone : stream.reactor.readsDone = false)

structure Inv (stream : Stream DataStreamReaderWriter DataStreamDownloadData Status) : Prop where
  protocol : RespectsProtocol stream.history
  phase : Phase stream

theorem nextWrite_uncanceled (self : DataStreamReaderWriter) (h : self.isCanceled = false) :
    ∃ message, (self.nextWrite).2 = [.StartWrite message] := by
  unfold nextWrite
  rw [if_neg (by simp [h])]
  exact ⟨_, rfl⟩

theorem nextWrite_readsDone (self : DataStreamReaderWriter) :
    (self.nextWrite).1.readsDone = self.readsDone := by
  unfold nextWrite
  split <;> rfl

-- Whatever a write completion does, the read chain's flag is not involved.
theorem onWriteDone_readsDone (self : DataStreamReaderWriter) (isOk : Bool) :
    (self.onWriteDone isOk).1.readsDone = self.readsDone := by
  unfold onWriteDone
  split
  · rfl
  · split
    · rfl
    · split
      · exact nextWrite_readsDone _
      · split <;> rfl

theorem onWriteDone_calls (self : DataStreamReaderWriter) (isOk : Bool) :
    (self.onWriteDone isOk).2 = [] ∨ (self.onWriteDone isOk).2 = [.Finish .OK] ∨
      ∃ message, (self.onWriteDone isOk).2 = [.StartWrite message] := by
  unfold onWriteDone
  split
  · exact .inl rfl
  · rename_i hcanceled
    split
    · exact .inr (.inl rfl)
    · split
      · exact .inr (.inr (nextWrite_uncanceled _ (by simpa using hcanceled)))
      · split
        · exact .inl rfl
        · exact .inr (.inr ⟨_, rfl⟩)

theorem onWriteDone_silent (self : DataStreamReaderWriter) (isOk : Bool)
    (hreadsDone : self.readsDone = true)
    (h : ¬ (self.isCanceled = false ∧
      (isOk = true ∨ self.status.code = DataStreamOperationStatusCodeFailed))) :
    self.onWriteDone isOk = (self, []) := by
  unfold onWriteDone
  by_cases hcanceled : self.isCanceled = true
  · rw [if_pos hcanceled]
  · rw [not_and] at h
    obtain ⟨hok, hstatus⟩ := not_or.mp (h (by simpa using hcanceled))
    rw [if_neg hcanceled, if_neg hstatus, if_neg hok, if_pos hreadsDone]

theorem onWriteDone_acts (self : DataStreamReaderWriter) (isOk : Bool)
    (hcanceled : self.isCanceled = false)
    (h : isOk = true ∨ self.status.code = DataStreamOperationStatusCodeFailed) :
    (self.onWriteDone isOk).2 = [.Finish .OK] ∨
      ∃ message, (self.onWriteDone isOk).2 = [.StartWrite message] := by
  unfold onWriteDone
  rw [if_neg (by simp [hcanceled])]
  split
  · exact .inl rfl
  · rename_i hstatus
    rw [if_pos (h.resolve_right hstatus)]
    exact .inr (nextWrite_uncanceled _ hcanceled)

theorem inv_start (dataGenerator : DataGenerator) : Inv (reactor dataGenerator).start := by
  have hread : RespectsProtocol
      [Event.Called (.StartRead : Operation DataStreamDownloadData Status)] :=
    respectsProtocol_called respectsProtocol_nil ⟨rfl, Nat.le_refl 0⟩
  exact ⟨respectsProtocol_called hread ⟨rfl, Nat.le_refl 0⟩, .Reading rfl rfl rfl⟩

theorem inv_onReadDone (stream : Stream DataStreamReaderWriter DataStreamDownloadData Status)
    (isOk : Bool) (hinv : Inv stream) (hallowed : ¬ ActsAfterFinish stream (.OnReadDone isOk)) :
    Inv ⟨(stream.reactor.onReadDone isOk).1, stream.history ++ .Delivered (.OnReadDone isOk) ::
      (stream.reactor.onReadDone isOk).2.map Event.Called⟩ := by
  obtain ⟨hprotocol, hphase⟩ := hinv
  simp only [ActsAfterFinish, and_true, Nat.not_lt, Nat.le_zero] at hallowed
  cases hphase with
  | ReadsEnded hfinishes hreads hreadsDone => omega
  | WriteFailed hfinishes hwrites hreadsDone => omega
  | Reading hfinishes hreads hreadsDone =>
      unfold onReadDone
      split
      · refine ⟨respectsProtocol_step hprotocol ?_, .Reading ?_ ?_ hreadsDone⟩
        · simp [Permitted, hfinishes, hreads]
        · simpa using hfinishes
        · simpa using hreads
      · rw [if_neg (by simp [hreadsDone])]
        refine ⟨respectsProtocol_step hprotocol ?_, .ReadsEnded ?_ ?_ rfl⟩
        · simpa [Permitted] using hfinishes
        · simpa using hfinishes
        · simpa using hreads

theorem inv_onWriteDone (stream : Stream DataStreamReaderWriter DataStreamDownloadData Status)
    (isOk : Bool) (hinv : Inv stream) (hdeliver : mayDeliver stream.history (.OnWriteDone isOk))
    (hallowed : ¬ ActsAfterFinish stream (.OnWriteDone isOk)) :
    Inv ⟨(stream.reactor.onWriteDone isOk).1, stream.history ++ .Delivered (.OnWriteDone isOk) ::
      (stream.reactor.onWriteDone isOk).2.map Event.Called⟩ := by
  obtain ⟨hprotocol, hphase⟩ := hinv
  have hone := hprotocol.oneWrite _ (List.prefix_refl _)
  have hpending := pendingWrite_of_mayDeliver hdeliver
  cases hphase with
  | WriteFailed hfinishes hwrites hreadsDone => omega
  | ReadsEnded hfinishes hreads hreadsDone =>
      rw [onWriteDone_silent stream.reactor isOk hreadsDone
        fun hacts => hallowed ⟨by omega, hacts⟩]
      exact ⟨respectsProtocol_delivered hprotocol,
        .ReadsEnded (by simpa using hfinishes) (by simpa using hreads) hreadsDone⟩
  | Reading hfinishes hreads hreadsDone =>
      have hflag := (onWriteDone_readsDone stream.reactor isOk).trans hreadsDone
      rcases onWriteDone_calls stream.reactor isOk with hcalls | hcalls | ⟨message, hcalls⟩
      · rw [hcalls]
        exact ⟨respectsProtocol_delivered hprotocol,
          .Reading (by simpa using hfinishes) (by simpa using hreads) hflag⟩
      · rw [hcalls]
        refine ⟨respectsProtocol_step hprotocol ?_, .WriteFailed ?_ ?_ hflag⟩
        · simpa [Permitted] using hfinishes
        · simpa using hfinishes
        · simpa using hone
      · rw [hcalls]
        refine ⟨respectsProtocol_step hprotocol ?_, .Reading ?_ ?_ hflag⟩
        · simpa [Permitted, hfinishes] using hone
        · simpa using hfinishes
        · simpa using hreads

-- A cancellation only raises the flag, which no phase speaks of.
theorem inv_unanswered {stream : Stream DataStreamReaderWriter DataStreamDownloadData Status}
    {callback : Callback} {reactor : DataStreamReaderWriter} (hinv : Inv stream)
    (hcallback : callback = .OnCancel ∨ callback = .OnDone)
    (hflag : reactor.readsDone = stream.reactor.readsDone) :
    Inv ⟨reactor, stream.history ++ [.Delivered callback]⟩ := by
  have hreads : readsCompleted (stream.history ++ [.Delivered callback]) =
      readsCompleted stream.history := by
    rcases hcallback with rfl | rfl <;> simp
  have hwrites : writesCompleted (stream.history ++ [.Delivered callback]) =
      writesCompleted stream.history := by
    rcases hcallback with rfl | rfl <;> simp
  refine ⟨respectsProtocol_delivered hinv.protocol, ?_⟩
  cases hinv.phase with
  | Reading hfinishes hread hreadsDone =>
      exact .Reading (by simpa using hfinishes) (by rw [hreads]; simpa using hread)
        (hflag.trans hreadsDone)
  | ReadsEnded hfinishes hread hreadsDone =>
      exact .ReadsEnded (by simpa using hfinishes) (by rw [hreads]; simpa using hread)
        (hflag.trans hreadsDone)
  | WriteFailed hfinishes hwrite hreadsDone =>
      exact .WriteFailed (by simpa using hfinishes) (by rw [hwrites]; simpa using hwrite)
        (hflag.trans hreadsDone)

theorem inv_step (dataGenerator : DataGenerator)
    (stream : Stream DataStreamReaderWriter DataStreamDownloadData Status) (callback : Callback)
    (next : Stream DataStreamReaderWriter DataStreamDownloadData Status) (hinv : Inv stream)
    (hallowed : ¬ ActsAfterFinish stream callback)
    (h : (reactor dataGenerator).step stream callback = some next) : Inv next := by
  obtain ⟨hdeliver, rfl⟩ := step_reactor h
  cases callback with
  | OnReadDone isOk => exact inv_onReadDone stream isOk hinv hallowed
  | OnWriteDone isOk => exact inv_onWriteDone stream isOk hinv hdeliver hallowed
  | OnCancel => exact inv_unanswered hinv (.inl rfl) rfl
  | OnDone => exact inv_unanswered hinv (.inr rfl) rfl

theorem onReadDone_acts (self : DataStreamReaderWriter) (isOk : Bool)
    (hreadsDone : self.readsDone = false) :
    (self.onReadDone isOk).2 = [.StartRead] ∨ (self.onReadDone isOk).2 = [.Finish .OK] := by
  unfold onReadDone
  split
  · exact .inl rfl
  · rw [if_neg (by simp [hreadsDone])]
    exact .inr rfl

theorem broken_step (dataGenerator : DataGenerator)
    (stream : Stream DataStreamReaderWriter DataStreamDownloadData Status) (callback : Callback)
    (next : Stream DataStreamReaderWriter DataStreamDownloadData Status) (hinv : Inv stream)
    (hacts : ActsAfterFinish stream callback)
    (h : (reactor dataGenerator).step stream callback = some next) :
    ¬ RespectsProtocol next.history := by
  obtain ⟨hdeliver, rfl⟩ := step_reactor h
  obtain ⟨hfinished, hacts⟩ := hacts
  cases callback with
  | OnReadDone isOk =>
      have hpending := pendingRead_of_mayDeliver hdeliver
      have hreadsDone : stream.reactor.readsDone = false := by
        cases hinv.phase with
        | Reading hfinishes hreads hreadsDone => exact hreadsDone
        | ReadsEnded hfinishes hreads hreadsDone => omega
        | WriteFailed hfinishes hwrites hreadsDone => exact hreadsDone
      rcases onReadDone_acts stream.reactor isOk hreadsDone with hcalls | hcalls
      · simp only [reactor, handle, hcalls]
        exact not_respectsProtocol_step hfinished
      · simp only [reactor, handle, hcalls]
        exact not_respectsProtocol_step hfinished
  | OnWriteDone isOk =>
      rcases onWriteDone_acts stream.reactor isOk hacts.1 hacts.2 with hcalls | ⟨message, hcalls⟩
      · simp only [reactor, handle, hcalls]
        exact not_respectsProtocol_step hfinished
      · simp only [reactor, handle, hcalls]
        exact not_respectsProtocol_step hfinished
  | OnCancel => exact hacts.elim
  | OnDone => exact hacts.elim

-- The reactor keeps its side of the protocol in exactly the runs in which no
-- completion that still acts is delivered after `Finish`.
theorem readerWriter_respectsProtocol_iff (dataGenerator : DataGenerator)
    (callbacks : List Callback)
    (stream : Stream DataStreamReaderWriter DataStreamDownloadData Status)
    (hrun : run (reactor dataGenerator).step (reactor dataGenerator).start callbacks =
      some stream) :
    RespectsProtocol stream.history ↔
      HoldsAlong (reactor dataGenerator).step
        (fun stream callback => ¬ ActsAfterFinish stream callback)
        (reactor dataGenerator).start callbacks :=
  safe_iff_holdsAlong (inv_step dataGenerator) (fun _ hinv => hinv.protocol)
    (fun s a t hinv hacts => broken_step dataGenerator s a t hinv (not_not.mp hacts))
    (step_stays_broken (reactor dataGenerator)) (inv_start dataGenerator) hrun

theorem readerWriter_respectsProtocol_canceled :
    ∃ stream, run (reactor ⟨fun _ => 0, 0⟩).step (reactor ⟨fun _ => 0, 0⟩).start
      [.OnCancel, .OnReadDone false, .OnWriteDone true] = some stream ∧
        RespectsProtocol stream.history := by
  exact ⟨_, rfl, (readerWriter_respectsProtocol_iff ⟨fun _ => 0, 0⟩
    [.OnCancel, .OnReadDone false, .OnWriteDone true] _ rfl).mpr (by decide)⟩

-- The client half-closes and the write that was under way then succeeds.
theorem readerWriter_writes_after_finish :
    ¬ ∀ (dataGenerator : DataGenerator) (callbacks : List Callback)
      (stream : Stream DataStreamReaderWriter DataStreamDownloadData Status),
      run (reactor dataGenerator).step (reactor dataGenerator).start callbacks = some stream →
        RespectsProtocol stream.history := by
  intro h
  have hprotocol := h ⟨fun _ => 0, 0⟩ [.OnReadDone false, .OnWriteDone true] _ rfl
  exact not_respectsProtocol_step (by decide) hprotocol

end NetRemote.Streaming.DataStreamReaderWriter
