import NetRemote.Foundation.Streaming

namespace NetRemote.Streaming

-- Protobuf enumerations are open: a message can carry any 32-bit value.
structure DataStreamOperationStatusCode where
  value : Int32
  deriving DecidableEq, Repr

def DataStreamOperationStatusCodeUnknown : DataStreamOperationStatusCode := ⟨0⟩
def DataStreamOperationStatusCodeSucceeded : DataStreamOperationStatusCode := ⟨1⟩
def DataStreamOperationStatusCodeFailed : DataStreamOperationStatusCode := ⟨2⟩
def DataStreamOperationStatusCodeCanceled : DataStreamOperationStatusCode := ⟨3⟩

structure DataStreamType where
  value : Int32
  deriving DecidableEq, Repr

def DataStreamTypeUnknown : DataStreamType := ⟨0⟩
def DataStreamTypeFixed : DataStreamType := ⟨1⟩
def DataStreamTypeContinuous : DataStreamType := ⟨2⟩

structure DataStreamPattern where
  value : Int32
  deriving DecidableEq, Repr

def DataStreamPatternUnknown : DataStreamPattern := ⟨0⟩
def DataStreamPatternConstant : DataStreamPattern := ⟨1⟩

-- The names known to magic_enum; a value without an enumerator has the empty name.
def DataStreamType.enumName (type : DataStreamType) : String :=
  if type = DataStreamTypeUnknown then "DataStreamTypeUnknown"
  else if type = DataStreamTypeFixed then "DataStreamTypeFixed"
  else if type = DataStreamTypeContinuous then "DataStreamTypeContinuous"
  else ""

def DataStreamPattern.enumName (pattern : DataStreamPattern) : String :=
  if pattern = DataStreamPatternUnknown then "DataStreamPatternUnknown"
  else if pattern = DataStreamPatternConstant then "DataStreamPatternConstant"
  else ""

structure DataStreamOperationStatus where
  code : DataStreamOperationStatusCode := DataStreamOperationStatusCodeUnknown
  message : String := ""
  deriving DecidableEq, Repr

structure DataStreamDownloadData where
  status : DataStreamOperationStatus := {}
  data : List UInt8 := []
  sequenceNumber : UInt32 := 0
  deriving DecidableEq, Repr

structure DataStreamUploadResult where
  status : DataStreamOperationStatus := {}
  numberOfDataBlocksReceived : UInt32 := 0
  deriving DecidableEq, Repr

-- The `Properties` oneof of a download request.
inductive StreamProperties where
  | NotSet
  | Fixed (numberOfDataBlocksToStream : UInt32)
  | Continuous
  deriving DecidableEq, Repr

structure DataStreamProperties where
  type : DataStreamType := DataStreamTypeUnknown
  pattern : DataStreamPattern := DataStreamPatternUnknown
  properties : StreamProperties := .NotSet
  deriving DecidableEq, Repr

structure DataStreamDownloadRequest where
  properties : DataStreamProperties
  deriving DecidableEq, Repr

-- The gRPC statuses that the reactors finish with.
inductive Status where
  | OK
  | CANCELLED
  deriving DecidableEq, Repr

-- The generator is seeded from a random device, so nothing is known about the
-- bytes it draws; `bytes` is the whole sequence, `drawn` the bytes used so far.
structure DataGenerator where
  bytes : Nat → UInt8
  drawn : Nat := 0

namespace DataGenerator

def DefaultDataLength : Nat := 8

def getRandomByte (generator : DataGenerator) : UInt8 × DataGenerator :=
  (generator.bytes generator.drawn, { generator with drawn := generator.drawn + 1 })

def generateRandomData (generator : DataGenerator) : Nat → List UInt8 × DataGenerator
  | 0 => ([], generator)
  | length + 1 =>
      let (byte, drawn) := generator.getRandomByte
      let (rest, final) := drawn.generateRandomData length
      (byte :: rest, final)

end DataGenerator

end NetRemote.Streaming
