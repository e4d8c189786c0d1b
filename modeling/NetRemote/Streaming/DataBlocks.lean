import NetRemote.Streaming.DataStream

namespace NetRemote.Streaming

open Foundation.Streaming

variable {Answer : Type}

-- The final message of a failed stream carries the status `Failed`; a data block never does.
def DataStreamDownloadData.isFailure (message : DataStreamDownloadData) : Bool :=
  message.status.code = DataStreamOperationStatusCodeFailed

def dataNumber : Event DataStreamDownloadData Answer → Option UInt32
  | .Called (.StartWrite message) =>
      if message.isFailure then none else some message.sequenceNumber
  | _ => none

-- The sequence numbers of the data blocks, in the order in which they were started.
def dataNumbers (history : List (Event DataStreamDownloadData Answer)) : List UInt32 :=
  history.filterMap dataNumber

-- 1, 2, 3, ... in the arithmetic of the 32-bit counter.
def numbering (count : Nat) : List UInt32 :=
  (List.range count).map fun index => UInt32.ofNat (index + 1)

@[simp] theorem dataNumbers_nil :
    dataNumbers ([] : List (Event DataStreamDownloadData Answer)) = [] := rfl

@[simp] theorem dataNumbers_append (first rest : List (Event DataStreamDownloadData Answer)) :
    dataNumbers (first ++ rest) = dataNumbers first ++ dataNumbers rest :=
  List.filterMap_append

@[simp] theorem dataNumbers_delivered (callback : Callback)
    (rest : List (Event DataStreamDownloadData Answer)) :
    dataNumbers (.Delivered callback :: rest) = dataNumbers rest := rfl

@[simp] theorem dataNumbers_startRead (rest : List (Event DataStreamDownloadData Answer)) :
    dataNumbers (.Called .StartRead :: rest) = dataNumbers rest := rfl

@[simp] theorem dataNumbers_finish (answer : Answer)
    (rest : List (Event DataStreamDownloadData Answer)) :
    dataNumbers (.Called (.Finish answer) :: rest) = dataNumbers rest := rfl

theorem dataNumbers_data {message : DataStreamDownloadData} (h : message.isFailure = false)
    (rest : List (Event DataStreamDownloadData Answer)) :
    dataNumbers (.Called (.StartWrite message) :: rest) =
      message.sequenceNumber :: dataNumbers rest := by
  unfold dataNumbers
  rw [List.filterMap_cons]
  simp [dataNumber, h]

theorem dataNumbers_failure {message : DataStreamDownloadData} (h : message.isFailure = true)
    (rest : List (Event DataStreamDownloadData Answer)) :
    dataNumbers (.Called (.StartWrite message) :: rest) = dataNumbers rest := by
  unfold dataNumbers
  rw [List.filterMap_cons]
  simp [dataNumber, h]

theorem dataNumbers_unwritten {operations : List (Operation DataStreamDownloadData Answer)}
    (h : ∀ message, .StartWrite message ∉ operations) :
    dataNumbers (operations.map Event.Called) = [] := by
  induction operations with
  | nil => rfl
  | cons operation rest ih =>
      have hrest := ih fun message hmem => h message (List.mem_cons_of_mem _ hmem)
      cases operation with
      | StartRead => exact hrest
      | Finish answer => exact hrest
      | StartWrite message => exact absurd (List.mem_cons_self) (h message)

@[simp] theorem length_numbering (count : Nat) : (numbering count).length = count := by
  simp [numbering]

theorem numbering_succ (count : Nat) :
    numbering (count + 1) = numbering count ++ [UInt32.ofNat (count + 1)] := by
  simp [numbering, List.range_succ]

-- A completion that starts one more message keeps the numbering.
theorem dataNumbers_step {history : List (Event DataStreamDownloadData Answer)} {isOk : Bool}
    {message : DataStreamDownloadData}
    (hnumbered : dataNumbers history = numbering (dataNumbers history).length)
    (hnumber : message.isFailure = false →
      message.sequenceNumber = UInt32.ofNat ((dataNumbers history).length + 1)) :
    dataNumbers (history ++ [.Delivered (.OnWriteDone isOk), .Called (.StartWrite message)]) =
      numbering (dataNumbers
        (history ++ [.Delivered (.OnWriteDone isOk), .Called (.StartWrite message)])).length := by
  cases hfailure : message.isFailure with
  | true => simpa [dataNumbers_failure hfailure] using hnumbered
  | false =>
      simp only [dataNumbers_append, dataNumbers_delivered, dataNumbers_data hfailure,
        dataNumbers_nil, List.length_append, List.length_singleton, numbering_succ,
        ← hnumbered, hnumber hfailure]

-- Below 2^32 the numbers are the natural ones.
theorem toNat_numbering {count : Nat} (h : count < UInt32.size) :
    (numbering count).map UInt32.toNat = List.range' 1 count := by
  induction count with
  | zero => rfl
  | succ count ih =>
      have hlast : (UInt32.ofNat (count + 1)).toNat = count + 1 := by
        rw [UInt32.toNat_ofNat']
        exact Nat.mod_eq_of_lt h
      rw [numbering_succ, List.map_append, ih (Nat.lt_of_succ_lt h), List.map_singleton, hlast,
        List.range'_concat, Nat.one_mul, Nat.add_comm 1]

end NetRemote.Streaming
