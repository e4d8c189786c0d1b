import NetRemote.Streaming.DataStream

namespace NetRemote.Streaming

open Foundation.Streaming

structure DataStreamWriter where
  data : DataStreamDownloadData := {}
  dataStreamProperties : DataStreamProperties := {}
  numberOfDataBlocksToStream : UInt32 := 0
  numberOfDataBlocksWritten : UInt32 := 0
  writeStatus : DataStreamOperationStatus := {}
  isCanceled : Bool := false
  isCompleted : Bool := false
  dataGenerator : DataGenerator

namespace DataStreamWriter

abbrev Calls := List (Operation DataStreamDownloadData Status)

def handleFailure (self : DataStreamWriter) (errorMessage : String) : DataStreamWriter × Calls :=
  let writeStatus : DataStreamOperationStatus :=
    { code := DataStreamOperationStatusCodeFailed, message := errorMessage }
  let data := { self.data with status := writeStatus }
  ({ self with writeStatus := writeStatus, data := data }, [.StartWrite data])

def nextWrite (self : DataStreamWriter) : DataStreamWriter × Calls :=
  if self.isCanceled then
    (self, [])
  else if self.dataStreamProperties.type = DataStreamTypeContinuous ∨
      self.dataStreamProperties.type = DataStreamTypeFixed ∧
        self.numberOfDataBlocksToStream > 0 then
    let pattern := self.dataStreamProperties.pattern
    if pattern = DataStreamPatternConstant then
      let (bytes, dataGenerator) :=
        self.dataGenerator.generateRandomData DataGenerator.DefaultDataLength
      let numberOfDataBlocksWritten := self.numberOfDataBlocksWritten + 1
      let data : DataStreamDownloadData :=
        { data := bytes, sequenceNumber := numberOfDataBlocksWritten, status := self.writeStatus }
      ({ self with
          data := data
          numberOfDataBlocksWritten := numberOfDataBlocksWritten
          dataGenerator := dataGenerator }, [.StartWrite data])
    else
      self.handleFailure ("Unexpected data stream pattern " ++ pattern.enumName)
  else
    (self, [.Finish .OK])

-- The tail shared by the constructor's two accepting branches.
def beginStreaming (self : DataStreamWriter) : DataStreamWriter × Calls :=
  nextWrite { self with
    writeStatus := { code := DataStreamOperationStatusCodeUnknown, message := "No data sent yet" } }

def construct (request : DataStreamDownloadRequest) (dataGenerator : DataGenerator) :
    DataStreamWriter × Calls :=
  let self : DataStreamWriter :=
    { dataStreamProperties := request.properties, dataGenerator := dataGenerator }
  let type := self.dataStreamProperties.type
  if type = DataStreamTypeFixed then
    match self.dataStreamProperties.properties with
    | .Fixed numberOfDataBlocksToStream =>
        beginStreaming { self with numberOfDataBlocksToStream := numberOfDataBlocksToStream }
    | _ =>
        self.handleFailure
          "Invalid properties for this streaming type. Expected Fixed for DataStreamTypeFixed"
  else if type = DataStreamTypeContinuous then
    match self.dataStreamProperties.properties with
    | .Continuous => beginStreaming { self with numberOfDataBlocksToStream := 0 }
    | _ =>
        self.handleFailure <|
          "Invalid properties for this streaming type. " ++
            "Expected Continuous for DataStreamTypeContinuous"
  else
    self.handleFailure ("Invalid streaming type: " ++ type.enumName)

def onWriteDone (self : DataStreamWriter) (isOk : Bool) : DataStreamWriter × Calls :=
  if self.isCanceled then
    (self, [])
  else if self.writeStatus.code = DataStreamOperationStatusCodeFailed then
    if self.isCompleted then
      (self, [])
    else
      ({ self with isCompleted := true }, [.Finish .OK])
  else if isOk then
    nextWrite { self with
      numberOfDataBlocksToStream :=
        if self.dataStreamProperties.type = DataStreamTypeFixed then
          self.numberOfDataBlocksToStream - 1
        else
          self.numberOfDataBlocksToStream
      writeStatus :=
        { code := DataStreamOperationStatusCodeSucceeded, message := "Data write successful" } }
  else
    self.handleFailure "Data write failed"

def onCancel (self : DataStreamWriter) : DataStreamWriter × Calls :=
  if self.isCanceled then
    (self, [])
  else if self.isCompleted then
    ({ self with isCanceled := true }, [])
  else
    ({ self with isCanceled := true }, [.Finish .CANCELLED])

-- A server write reactor never reads; `OnDone` deletes the object.
def handle (self : DataStreamWriter) : Callback → DataStreamWriter × Calls
  | .OnReadDone _ => (self, [])
  | .OnWriteDone isOk => self.onWriteDone isOk
  | .OnCancel => self.onCancel
  | .OnDone => (self, [])

def reactor (request : DataStreamDownloadRequest) (dataGenerator : DataGenerator) :
    Reactor DataStreamWriter DataStreamDownloadData Status where
  construct := construct request dataGenerator
  handle := handle

end DataStreamWriter

end NetRemote.Streaming
