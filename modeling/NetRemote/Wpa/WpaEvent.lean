import NetRemote.Foundation.Search
import NetRemote.Wpa.ProtocolHostapd

namespace NetRemote.Wpa

open Foundation Foundation.Bytes

inductive WpaLogLevel where
  | Unknown
  | Excessive
  | MessageDump
  | Debug
  | Info
  | Warning
  | Error
  deriving DecidableEq, Repr

def WpaLogLevel.value : WpaLogLevel → Int
  | .Unknown => -1
  | .Excessive => 0
  | .MessageDump => 1
  | .Debug => 2
  | .Info => 3
  | .Warning => 4
  | .Error => 5

def WpaLogLevel.enumCast (value : Int) : Option WpaLogLevel :=
  [Unknown, .Excessive, .MessageDump, .Debug, .Info, .Warning, .Error].find? (·.value = value)

inductive WpaType where
  | Unknown
  | Hostapd
  | WpaSupplicant
  deriving DecidableEq, Repr

structure WpaEvent where
  source : WpaType := .Unknown
  logLevel : WpaLogLevel := .Unknown
  payload : ByteString := []
  interface : Option ByteString := none
  deriving DecidableEq, Repr

namespace ProtocolWpa

def EventInterfaceNamePrefix : ByteString := str "IFNAME="

def EventLogLevelDelimeterStart : ByteString := str "<"

def EventLogLevelDelimeterEnd : ByteString := str ">"

end ProtocolWpa

open ProtocolWpa

-- What follows the number in the brackets is not looked at, and the interface is
-- searched for in the whole payload.
def WpaEvent.parse (eventPayload : ByteString) : Option WpaEvent := do
  let logLevelStart ← find eventPayload EventLogLevelDelimeterStart 0
  let logLevelEnd ← find eventPayload EventLogLevelDelimeterEnd logLevelStart
  let logLevel := substr eventPayload (logLevelStart + 1) (logLevelEnd - logLevelStart - 1)
  let logLevelValue ← fromCharsValue logLevel
  let interface : Option (Nat × Nat) := do
    let interfaceStart ← find eventPayload EventInterfaceNamePrefix 0
    let interfaceEnd ← find eventPayload (str " ") interfaceStart
    some (interfaceStart, interfaceEnd)
  let payloadStart := interface.elim (logLevelEnd + 1) fun bounds => bounds.2 + 1
  some {
    logLevel := (WpaLogLevel.enumCast logLevelValue).getD .Unknown
    interface := interface.map fun bounds =>
      substr eventPayload bounds.1 (bounds.2 - bounds.1)
    payload := eventPayload.drop payloadStart }

end NetRemote.Wpa
