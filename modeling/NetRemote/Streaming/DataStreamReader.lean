import NetRemote.Streaming.DataStream

namespace NetRemote.Streaming

open Foundation.Streaming

-- The response message belongs to the library and is sent as it stands when
-- `Finish` is called, so an answer is the status together with that message.
structure DataStreamReader where
  result : DataStreamUploadResult := {}
  numberOfDataBlocksReceived : UInt32 := 0
  readStatus : DataStreamOperationStatus := {}

namespace DataStreamReader

abbrev Calls := List (Operation Unit (Status × DataStreamUploadResult))

-- What a move leaves in its source: a function of the source and of the old
-- value of the target, which protobuf leaves unspecified.
abbrev MovedFrom :=
  DataStreamOperationStatus → DataStreamOperationStatus → DataStreamOperationStatus

def construct : DataStreamReader × Calls :=
  ({}, [.StartRead])

def onReadDone (movedFrom : MovedFrom) (self : DataStreamReader) (isOk : Bool) :
    DataStreamReader × Calls :=
  if isOk then
    ({ self with
        numberOfDataBlocksReceived := self.numberOfDataBlocksReceived + 1
        readStatus := { code := DataStreamOperationStatusCodeSucceeded
                        message := "Data read successful" } }, [.StartRead])
  else
    let result : DataStreamUploadResult :=
      { numberOfDataBlocksReceived := self.numberOfDataBlocksReceived
        status := self.readStatus }
    ({ self with
        result := result
        readStatus := movedFrom self.readStatus self.result.status }, [.Finish (.OK, result)])

def onCancel (movedFrom : MovedFrom) (self : DataStreamReader) : DataStreamReader × Calls :=
  let readStatus : DataStreamOperationStatus :=
    { code := DataStreamOperationStatusCodeCanceled, message := "RPC canceled" }
  let result : DataStreamUploadResult :=
    { numberOfDataBlocksReceived := self.numberOfDataBlocksReceived
      status := readStatus }
  ({ self with
      result := result
      readStatus := movedFrom readStatus self.result.status }, [.Finish (.CANCELLED, result)])

-- A server read reactor never writes; `OnDone` deletes the object.
def handle (movedFrom : MovedFrom) (self : DataStreamReader) :
    Callback → DataStreamReader × Calls
  | .OnReadDone isOk => self.onReadDone movedFrom isOk
  | .OnWriteDone _ => (self, [])
  | .OnCancel => self.onCancel movedFrom
  | .OnDone => (self, [])

def reactor (movedFrom : MovedFrom) :
    Reactor DataStreamReader Unit (Status × DataStreamUploadResult) where
  construct := construct
  handle := handle movedFrom

end DataStreamReader

end NetRemote.Streaming
