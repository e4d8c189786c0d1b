import NetRemote.Foundation.Program
import NetRemote.Netlink.Nl80211
import NetRemote.Wpa.ProtocolHostapd

namespace NetRemote.Wpa

open Foundation Foundation.Bytes

inductive WpaCommand where
  | Ping
  | Enable
  | Disable
  | Status
  | Terminate
  | Get (propertyName : ByteString)
  | GetConfig
  | Set (propertyName propertyValue : ByteString)
  | Reload
  deriving DecidableEq, Repr

def WpaCommand.payload : WpaCommand → ByteString
  | .Ping => str "PING"
  | .Enable => str "ENABLE"
  | .Disable => str "DISABLE"
  | .Status => str "STATUS"
  | .Terminate => str "TERMINATE"
  | .Get propertyName => str "GET" ++ str " " ++ propertyName
  | .GetConfig => str "GET_CONFIG"
  | .Set propertyName propertyValue =>
      str "SET" ++ str " " ++ propertyName ++ str " " ++ propertyValue
  | .Reload => str "RELOAD"

-- A random text of printable characters.
abbrev AsciiString (length : Nat) :=
  { text : ByteString // text.length = length ∧ ∀ byte ∈ text, 32 ≤ byte ∧ byte ≤ 126 }

-- What the process asks of the world around it. A command without an answer is
-- one that could not be sent or that was not answered, and the lookup of a wiphy
-- may throw.
inductive SystemRequest where
  | SendCommand (command : WpaCommand)
  | IsValid
  | GenerateRandomAsciiString (length : Nat)
  | WiphyFromInterfaceName (interfaceName : ByteString)
  deriving DecidableEq, Repr

def SystemRequest.Reply : SystemRequest → Type
  | .SendCommand _ => Option ByteString
  | .IsValid => Bool
  | .GenerateRandomAsciiString length => AsciiString length
  | .WiphyFromInterfaceName _ => Except Netlink.NetlinkFault (Option Netlink.Nl80211Wiphy)

abbrev System : Environment := ⟨SystemRequest, SystemRequest.Reply⟩

abbrev Action := Program System Fault

def throwHostapd {α : Type} (message : ByteString) : Action α := .Throw (.Hostapd message)

-- A `catch` clause for `HostapdException`, which lets every other fault pass.
def catching {α : Type} (handler : ByteString → Action α) : Fault → Action α
  | .Hostapd message => handler (what message)
  | fault => .Throw fault

-- The answer is parsed by the caller, where the command has a parser.
def sendCommand (command : WpaCommand) : Action (Option ByteString) :=
  Program.ask (E := System) (.SendCommand command)

end NetRemote.Wpa
