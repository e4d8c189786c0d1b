import NetRemote.Streaming.DataStreamWriter

namespace NetRemote.Streaming.DataStreamWriter

open Foundation.Streaming Foundation.Transition

-- `Finish` has been called and the completion flag does not say so: the fixed
-- stream has run out of blocks, and a cancellation arrives now.
def CanceledAfterNormalEnd
    (stream : Stream DataStreamWriter DataStreamDownloadData Status) (callback : Callback) : Prop :=
  callback = .OnCancel ∧ 0 < finishes stream.history ∧ stream.reactor.isCompleted = false

instance (stream : Stream DataStreamWriter DataStreamDownloadData Status) (callback : Callback) :
    Decidable (CanceledAfterNormalEnd stream callback) :=
  inferInstanceAs (Decidable (_ ∧ _ ∧ _))

inductive Phase (stream : Stream DataStreamWriter DataStreamDownloadData Status) : Prop where
  | Writing (hfinishes : finishes stream.history = 0)
      (hwrites : writesStarted stream.history = writesCompleted stream.history + 1)
      (hcanceled : stream.reactor.isCanceled = false)
      (hcompleted : stream.reactor.isCompleted = false)
  | Ended (hfinishes : finishes stream.history = 1)
      (hwrites : writesStarted stream.history = writesCompleted stream.history)
  | Canceled (hfinishes : finishes stream.history = 1)
      (hcanceled : stream.reactor.isCanceled = true)

structure Inv (stream : Stream DataStreamWriter DataStreamDownloadData Status) : Prop where
  protocol : RespectsProtocol stream.history
  canceled : stream.reactor.isCanceled = true ↔ 0 < cancellations stream.history
  phase : Phase stream

-- What the write chain does next: one more write, or the normal end. Neither
-- touches the two flags.
def Proceeds (self : DataStreamWriter) (result : DataStreamWriter × Calls) : Prop :=
  result.1.isCanceled = self.isCanceled ∧ result.1.isCompleted = self.isCompleted ∧
    ((∃ message, result.2 = [.StartWrite message]) ∨ result.2 = [.Finish .OK])

theorem handleFailure_proceeds (self : DataStreamWriter) (errorMessage : String) :
    Proceeds self (self.handleFailure errorMessage) :=
  ⟨rfl, rfl, .inl ⟨_, rfl⟩⟩

theorem nextWrite_proceeds (self : DataStreamWriter) (h : self.isCanceled = false) :
    Proceeds self self.nextWrite := by
  unfold nextWrite
  rw [if_neg (by simp [h])]
  split
  · by_cases hpattern : self.dataStreamProperties.pattern = DataStreamPatternConstant
    · simp only [if_pos hpattern]
      exact ⟨rfl, rfl, .inl ⟨_, rfl⟩⟩
    · simp only [if_neg hpattern]
      exact handleFailure_proceeds self _
  · exact ⟨rfl, rfl, .inr rfl⟩

theorem construct_proceeds (request : DataStreamDownloadRequest) (dataGenerator : DataGenerator) :
    Proceeds { dataGenerator := dataGenerator } (construct request dataGenerator) := by
  unfold construct
  simp only
  split
  · split
    · exact nextWrite_proceeds _ rfl
    · exact handleFailure_proceeds _ _
  · split
    · split
      · exact nextWrite_proceeds _ rfl
      · exact handleFailure_proceeds _ _
    · exact handleFailure_proceeds _ _

-- A completed write either goes on as above or answers the final failure message.
theorem onWriteDone_cases (self : DataStreamWriter) (isOk : Bool)
    (hcanceled : self.isCanceled = false) (hcompleted : self.isCompleted = false) :
    Proceeds self (self.onWriteDone isOk) ∨
      self.onWriteDone isOk = ({ self with isCompleted := true }, [.Finish .OK]) := by
  unfold onWriteDone
  rw [if_neg (by simp [hcanceled])]
  split
  · right
    rw [if_neg (by simp [hcompleted])]
  · left
    split
    · exact nextWrite_proceeds _ hcanceled
    · exact handleFailure_proceeds self _

theorem onCancel_cases (self : DataStreamWriter) (hcanceled : self.isCanceled = false) :
    self.onCancel = ({ self with isCanceled := true },
      if self.isCompleted then [] else [.Finish .CANCELLED]) := by
  unfold onCancel
  rw [if_neg (by simp [hcanceled])]
  split <;> simp_all

theorem inv_start (request : DataStreamDownloadRequest) (dataGenerator : DataGenerator) :
    Inv (reactor request dataGenerator).start := by
  obtain ⟨hcanceled, hcompleted, hcalls⟩ := construct_proceeds request dataGenerator
  unfold Reactor.start reactor
  rcases hcalls with ⟨message, hcalls⟩ | hcalls
  · refine ⟨?_, by simp [hcalls, hcanceled], .Writing ?_ ?_ hcanceled hcompleted⟩
    · rw [hcalls]
      exact respectsProtocol_called respectsProtocol_nil ⟨rfl, Nat.le_refl 0⟩
    · simp [hcalls]
    · simp [hcalls]
  · refine ⟨?_, by simp [hcalls, hcanceled], .Ended ?_ ?_⟩
    · have hpermitted :
          Permitted ([] : List (Event DataStreamDownloadData Status)) (.Finish .OK) := rfl
      rw [hcalls]
      exact respectsProtocol_called respectsProtocol_nil hpermitted
    · simp [hcalls]
    · simp [hcalls]

theorem inv_onWriteDone (stream : Stream DataStreamWriter DataStreamDownloadData Status)
    (isOk : Bool) (hinv : Inv stream)
    (hdeliver : mayDeliver stream.history (.OnWriteDone isOk)) :
    Inv ⟨(stream.reactor.onWriteDone isOk).1, stream.history ++ .Delivered (.OnWriteDone isOk) ::
      (stream.reactor.onWriteDone isOk).2.map Event.Called⟩ := by
  obtain ⟨hprotocol, hmark, hphase⟩ := hinv
  have hpending := pendingWrite_of_mayDeliver hdeliver
  cases hphase with
  | Ended hfinishes hwrites => omega
  | Canceled hfinishes hcanceled =>
      have hsilent : stream.reactor.onWriteDone isOk = (stream.reactor, []) := by
        unfold onWriteDone
        rw [if_pos hcanceled]
      rw [hsilent]
      exact ⟨respectsProtocol_delivered hprotocol, by simpa using hmark,
        .Canceled (by simpa using hfinishes) hcanceled⟩
  | Writing hfinishes hwrites hcanceled hcompleted =>
      rcases onWriteDone_cases stream.reactor isOk hcanceled hcompleted with
        ⟨hcanceled', hcompleted', ⟨message, hcalls⟩ | hcalls⟩ | heq
      · rw [hcalls]
        refine ⟨respectsProtocol_step hprotocol ?_, by simpa [hcanceled'] using hmark,
          .Writing ?_ ?_ (hcanceled'.trans hcanceled) (hcompleted'.trans hcompleted)⟩
        · simp [Permitted]; omega
        · simpa using hfinishes
        · simp; omega
      · rw [hcalls]
        refine ⟨respectsProtocol_step hprotocol ?_, by simpa [hcanceled'] using hmark,
          .Ended ?_ ?_⟩
        · simpa [Permitted] using hfinishes
        · simpa using hfinishes
        · simpa using hwrites
      · rw [heq]
        refine ⟨respectsProtocol_step hprotocol ?_, by simpa using hmark, .Ended ?_ ?_⟩
        · simpa [Permitted] using hfinishes
        · simpa using hfinishes
        · simpa using hwrites

theorem uncanceled_of_onCancel
    {stream : Stream DataStreamWriter DataStreamDownloadData Status} (hinv : Inv stream)
    (hdeliver : mayDeliver stream.history .OnCancel) : stream.reactor.isCanceled = false := by
  have hmark := hinv.canceled
  rw [uncanceled_of_mayDeliver hdeliver] at hmark
  simpa using hmark

theorem inv_onCancel (stream : Stream DataStreamWriter DataStreamDownloadData Status)
    (hinv : Inv stream) (hdeliver : mayDeliver stream.history .OnCancel)
    (hallowed : ¬ CanceledAfterNormalEnd stream .OnCancel) :
    Inv ⟨(stream.reactor.onCancel).1, stream.history ++ .Delivered .OnCancel ::
      (stream.reactor.onCancel).2.map Event.Called⟩ := by
  have huncanceled := uncanceled_of_onCancel hinv hdeliver
  obtain ⟨hprotocol, -, hphase⟩ := hinv
  rw [onCancel_cases stream.reactor huncanceled]
  cases hphase with
  | Writing hfinishes hwrites hcanceled hcompleted =>
      simp only [hcompleted, Bool.false_eq_true, if_false]
      refine ⟨respectsProtocol_step hprotocol ?_, by simp, .Canceled ?_ rfl⟩
      · simpa [Permitted] using hfinishes
      · simpa using hfinishes
  | Ended hfinishes hwrites =>
      have hcompleted : stream.reactor.isCompleted = true := by
        by_contra hno
        exact hallowed ⟨rfl, by omega, by simpa using hno⟩
      simp only [hcompleted, if_true]
      exact ⟨respectsProtocol_delivered hprotocol, by simp,
        .Canceled (by simpa using hfinishes) rfl⟩
  | Canceled hfinishes hcanceled => simp [huncanceled] at hcanceled

-- The callbacks that neither complete a write nor cancel leave the reactor alone.
theorem inv_ignored {stream : Stream DataStreamWriter DataStreamDownloadData Status}
    {callback : Callback} (hinv : Inv stream)
    (hignored : (∃ isOk, callback = .OnReadDone isOk) ∨ callback = .OnDone) :
    Inv ⟨stream.reactor, stream.history ++ [.Delivered callback]⟩ := by
  have hcancels : cancellations (stream.history ++ [.Delivered callback]) =
      cancellations stream.history := by
    rcases hignored with ⟨isOk, rfl⟩ | rfl <;> simp
  have hdone : writesCompleted (stream.history ++ [.Delivered callback]) =
      writesCompleted stream.history := by
    rcases hignored with ⟨isOk, rfl⟩ | rfl <;> simp
  have hstarted : writesStarted (stream.history ++ [.Delivered callback]) =
      writesStarted stream.history := by simp
  have hfinishes' : finishes (stream.history ++ [.Delivered callback]) =
      finishes stream.history := by simp
  refine ⟨respectsProtocol_delivered hinv.protocol, hcancels ▸ hinv.canceled, ?_⟩
  cases hinv.phase with
  | Writing hfinishes hwrites hcanceled hcompleted =>
      exact .Writing (hfinishes'.trans hfinishes) (by dsimp only; omega) hcanceled hcompleted
  | Ended hfinishes hwrites =>
      exact .Ended (hfinishes'.trans hfinishes) (by dsimp only; omega)
  | Canceled hfinishes hcanceled => exact .Canceled (hfinishes'.trans hfinishes) hcanceled

theorem inv_step (request : DataStreamDownloadRequest) (dataGenerator : DataGenerator)
    (stream : Stream DataStreamWriter DataStreamDownloadData Status) (callback : Callback)
    (next : Stream DataStreamWriter DataStreamDownloadData Status) (hinv : Inv stream)
    (hallowed : ¬ CanceledAfterNormalEnd stream callback)
    (h : (reactor request dataGenerator).step stream callback = some next) : Inv next := by
  obtain ⟨hdeliver, rfl⟩ := step_reactor h
  cases callback with
  | OnWriteDone isOk => exact inv_onWriteDone stream isOk hinv hdeliver
  | OnCancel => exact inv_onCancel stream hinv hdeliver hallowed
  | OnReadDone isOk => exact inv_ignored hinv (.inl ⟨isOk, rfl⟩)
  | OnDone => exact inv_ignored hinv (.inr rfl)

-- The cancellation callback consults only the completion flag, so here it
-- calls `Finish` once more.
theorem broken_step (request : DataStreamDownloadRequest) (dataGenerator : DataGenerator)
    (stream : Stream DataStreamWriter DataStreamDownloadData Status) (callback : Callback)
    (next : Stream DataStreamWriter DataStreamDownloadData Status) (hinv : Inv stream)
    (hlate : CanceledAfterNormalEnd stream callback)
    (h : (reactor request dataGenerator).step stream callback = some next) :
    ¬ RespectsProtocol next.history := by
  obtain ⟨hdeliver, rfl⟩ := step_reactor h
  obtain ⟨rfl, hfinished, hcompleted⟩ := hlate
  have hcalls := onCancel_cases stream.reactor (uncanceled_of_onCancel hinv hdeliver)
  simp only [hcompleted, Bool.false_eq_true, if_false] at hcalls
  simp only [reactor, handle, hcalls]
  exact not_respectsProtocol_step hfinished

-- The reactor keeps its side of the protocol in exactly the runs in which no
-- cancellation reaches it after it finished without setting the completion flag.
theorem writer_respectsProtocol_iff (request : DataStreamDownloadRequest)
    (dataGenerator : DataGenerator) (callbacks : List Callback)
    (stream : Stream DataStreamWriter DataStreamDownloadData Status)
    (hrun : run (reactor request dataGenerator).step (reactor request dataGenerator).start
      callbacks = some stream) :
    RespectsProtocol stream.history ↔
      HoldsAlong (reactor request dataGenerator).step
        (fun stream callback => ¬ CanceledAfterNormalEnd stream callback)
        (reactor request dataGenerator).start callbacks :=
  safe_iff_holdsAlong (inv_step request dataGenerator) (fun _ hinv => hinv.protocol)
    (fun s a t hinv hlate => broken_step request dataGenerator s a t hinv (not_not.mp hlate))
    (step_stays_broken (reactor request dataGenerator)) (inv_start request dataGenerator) hrun

def oneBlock : DataStreamDownloadRequest :=
  ⟨{ type := DataStreamTypeFixed, pattern := DataStreamPatternConstant, properties := .Fixed 1 }⟩

theorem writer_respectsProtocol_one_block :
    ∃ stream, run (reactor oneBlock ⟨fun _ => 0, 0⟩).step (reactor oneBlock ⟨fun _ => 0, 0⟩).start
      [.OnWriteDone true, .OnDone] = some stream ∧ RespectsProtocol stream.history := by
  exact ⟨_, rfl, (writer_respectsProtocol_iff oneBlock ⟨fun _ => 0, 0⟩
    [.OnWriteDone true, .OnDone] _ rfl).mpr (by decide)⟩

-- The client's cancellation crosses the status that follows the last block.
theorem writer_finishes_twice :
    ¬ ∀ (request : DataStreamDownloadRequest) (dataGenerator : DataGenerator)
      (callbacks : List Callback) (stream : Stream DataStreamWriter DataStreamDownloadData Status),
      run (reactor request dataGenerator).step (reactor request dataGenerator).start callbacks =
        some stream → RespectsProtocol stream.history := by
  intro h
  have hprotocol := h oneBlock ⟨fun _ => 0, 0⟩ [.OnWriteDone true, .OnCancel] _ rfl
  exact absurd hprotocol.finishesOnce (by decide)

end NetRemote.Streaming.DataStreamWriter
