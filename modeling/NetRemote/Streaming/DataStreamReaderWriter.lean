import NetRemote.Streaming.DataStream

namespace NetRemote.Streaming

open Foundation.Streaming

structure DataStreamReaderWriter where
  writeData : DataStreamDownloadData := {}
  numberOfDataBlocksReceived : UInt32 := 0
  numberOfDataBlocksWritten : UInt32 := 0
  status : DataStreamOperationStatus := {}
  isCanceled : Bool := false
  readsDone : Bool := false
  dataGenerator : DataGenerator

namespace DataStreamReaderWriter

abbrev Calls := List (Operation DataStreamDownloadData Status)

def handleFailure (self : DataStreamReaderWriter) (errorMessage : String) :
    DataStreamReaderWriter × Calls :=
  let status : DataStreamOperationStatus :=
    { code := DataStreamOperationStatusCodeFailed, message := errorMessage }
  let writeData := { self.writeData with status := status }
  ({ self with status := status, writeData := writeData }, [.StartWrite writeData])

def nextWrite (self : DataStreamReaderWriter) : DataStreamReaderWriter × Calls :=
  if self.isCanceled then
    (self, [])
  else
    let (bytes, dataGenerator) :=
      self.dataGenerator.generateRandomData DataGenerator.DefaultDataLength
    let numberOfDataBlocksWritten := self.numberOfDataBlocksWritten + 1
    let writeData : DataStreamDownloadData :=
      { data := bytes, sequenceNumber := numberOfDataBlocksWritten, status := self.status }
    ({ self with
        writeData := writeData
        numberOfDataBlocksWritten := numberOfDataBlocksWritten
        dataGenerator := dataGenerator }, [.StartWrite writeData])

def construct (dataGenerator : DataGenerator) : DataStreamReaderWriter × Calls :=
  let self : DataStreamReaderWriter :=
    { dataGenerator := dataGenerator
      status := { code := DataStreamOperationStatusCodeUnknown, message := "No data sent yet" } }
  let (self, calls) := self.nextWrite
  (self, .StartRead :: calls)

def onReadDone (self : DataStreamReaderWriter) (isOk : Bool) : DataStreamReaderWriter × Calls :=
  if isOk then
    ({ self with
        numberOfDataBlocksReceived := self.numberOfDataBlocksReceived + 1
        status := { code := DataStreamOperationStatusCodeSucceeded
                    message := "Data read successful" } }, [.StartRead])
  else if self.readsDone then
    (self, [])
  else
    ({ self with readsDone := true }, [.Finish .OK])

def onWriteDone (self : DataStreamReaderWriter) (isOk : Bool) : DataStreamReaderWriter × Calls :=
  if self.isCanceled then
    (self, [])
  else if self.status.code = DataStreamOperationStatusCodeFailed then
    (self, [.Finish .OK])
  else if isOk then
    nextWrite { self with
      status := { code := DataStreamOperationStatusCodeSucceeded
                  message := "Data write successful" } }
  else if self.readsDone then
    (self, [])
  else
    self.handleFailure "Data write failed"

def onCancel (self : DataStreamReaderWriter) : DataStreamReaderWriter × Calls :=
  ({ self with isCanceled := true }, [])

-- `OnDone` deletes the object.
def handle (self : DataStreamReaderWriter) : Callback → DataStreamReaderWriter × Calls
  | .OnReadDone isOk => self.onReadDone isOk
  | .OnWriteDone isOk => self.onWriteDone isOk
  | .OnCancel => self.onCancel
  | .OnDone => (self, [])

def reactor (dataGenerator : DataGenerator) :
    Reactor DataStreamReaderWriter DataStreamDownloadData Status where
  construct := construct dataGenerator
  handle := handle

end DataStreamReaderWriter

end NetRemote.Streaming
