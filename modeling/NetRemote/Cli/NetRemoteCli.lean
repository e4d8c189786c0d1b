import NetRemote.Net.NetworkIpAddress
import NetRemote.Service.Adapters
import NetRemote.Wifi.Ieee80211AccessPointConfiguration

namespace NetRemote.Cli

open Foundation.Bytes Net Wifi Service

-- A password, its identifier and the address of the peer that it is for.
abbrev SaePasswordArgument := ByteString × Option ByteString × Option ByteString

structure NetRemoteCliData where
  wifiAccessPointId : ByteString := []
  wifiAccessPointSsid : ByteString := []
  wifiAccessPointPskPassphrase : ByteString := []
  wifiAccessPointPskHex : ByteString := []
  wifiAccessPointSaePasswords : List SaePasswordArgument := []
  wifiAccessPointFrequencyBands : List Ieee80211FrequencyBand := []
  wifiAccessPointAuthenticationAlgorithms : List Ieee80211AuthenticationAlgorithm := []
  wifiAccessPointAkmSuites : List Ieee80211AkmSuite := []
  wifiAccessPointPhyType : Ieee80211PhyType := .Unknown

-- What the parser can store: `--passphrase` excludes `--psk`.
structure ParsedCliData extends NetRemoteCliData where
  excludes : wifiAccessPointPskPassphrase = [] ∨ wifiAccessPointPskHex = []

-- The delimiters are dropped wherever they stand.
def ieee80211MacAddressFromString (macAddress : ByteString) : Option Ieee80211MacAddress :=
  parseHexString (macAddress.filter fun c => !(c = 58 || c = 45)) MacAddressNumOctets

def parseSaePasswordCliArgument (saePasswordArgument : SaePasswordArgument) :
    Ieee80211RsnaPassword where
  credential := saePasswordArgument.1
  passwordId := saePasswordArgument.2.1
  peerMacAddress := saePasswordArgument.2.2.bind ieee80211MacAddressFromString

-- How the command ends: in a call of its handler, or with a message.
inductive CommandOutcome where
  | OnWifiAccessPointEnable (accessPointId : ByteString)
      (configuration : Ieee80211AccessPointConfiguration)
  | Failure (message : ByteString)

-- The key, of which the hexadecimal form is parsed and replaces a passphrase.
def pskOf (cliData : NetRemoteCliData) : Except ByteString (Option Ieee80211RsnaPsk) :=
  if cliData.wifiAccessPointPskHex ≠ [] then
    match parseHexString cliData.wifiAccessPointPskHex Ieee80211RsnaPskLength with
    | some pskValue => .ok (some (.Value pskValue))
    | none => .error (str "Failed to parse PSK value (must be 64 hex characters)")
  else if cliData.wifiAccessPointPskPassphrase ≠ [] then
    .ok (some (.Passphrase cliData.wifiAccessPointPskPassphrase))
  else .ok none

def wifiAccessPointEnableCallback (cliData : NetRemoteCliData) : CommandOutcome :=
  match pskOf cliData with
  | .error message => .Failure message
  | .ok psk =>
      let sae :=
        if cliData.wifiAccessPointSaePasswords ≠ [] then
          some (cliData.wifiAccessPointSaePasswords.map parseSaePasswordCliArgument)
        else none
      .OnWifiAccessPointEnable cliData.wifiAccessPointId {
        ssid :=
          if cliData.wifiAccessPointSsid ≠ [] then some cliData.wifiAccessPointSsid else none
        frequencyBands := cliData.wifiAccessPointFrequencyBands
        phyType :=
          if cliData.wifiAccessPointPhyType ≠ .Unknown then some cliData.wifiAccessPointPhyType
          else none
        authenticationData := ⟨psk, sae⟩ }

namespace RadiusServerEndpoint

-- The variables of the parser. The type goes into the configuration as it is
-- read, and the variable for it is never assigned.
structure Locals where
  configuration : Ieee8021xRadiusServerEndpointConfiguration
  port : UInt16 := 0
  address : ByteString := []
  sharedSecret : ByteString := []
  endpointType : Ieee8021xRadiusServerEndpointType := .Authentication
  deriving DecidableEq, Repr

-- A parser that gives up leaves the configuration as it is by then.
abbrev Parsed := Except Ieee8021xRadiusServerEndpointConfiguration Locals

def parseSharedSecret (locals : Locals) (token : ByteString) : Parsed :=
  .ok { locals with sharedSecret := token }

-- What is no address is taken for the shared secret.
def parseAddress (locals : Locals) (token : ByteString) : Parsed :=
  if getIpAddressCategory token ≠ .Unknown then
    match findLastOf token 58 with
    | none => .ok { locals with address := token }
    | some portSeparatorIndex =>
        match stoul (token.drop (portSeparatorIndex + 1)) with
        | .error _ => .error locals.configuration
        | .ok portParsed =>
            if 65535 < portParsed then .error locals.configuration
            else
              .ok { locals with
                port := UInt16.ofNat portParsed
                address := token.take portSeparatorIndex }
  else parseSharedSecret locals token

def parseEndpointType (locals : Locals) (token : ByteString) : Parsed :=
  if token = str "acct" ∨ token = str "accounting" then
    .ok { locals with configuration := { locals.configuration with type := .Accounting } }
  else if token = str "auth" ∨ token = str "authentication" then
    .ok { locals with configuration := { locals.configuration with type := .Authentication } }
  else parseAddress locals token

-- Extra arguments are ignored.
def parseToken (locals : Locals) (numArgument : Nat) (token : ByteString) : Parsed :=
  match numArgument with
  | 0 => parseEndpointType locals token
  | 1 => parseAddress locals token
  | 2 => parseSharedSecret locals token
  | _ => .ok locals

def parseTokens (locals : Locals) (numArgument : Nat) : List ByteString → Parsed
  | [] => .ok locals
  | token :: tokens => do
      let locals ← parseToken locals numArgument token
      parseTokens locals (numArgument + 1) tokens

end RadiusServerEndpoint

open RadiusServerEndpoint in
def parseIeee8021xRadiusServerEndpointConfiguration (tokens : List ByteString)
    (configuration : Ieee8021xRadiusServerEndpointConfiguration) :
    Bool × Ieee8021xRadiusServerEndpointConfiguration :=
  match parseTokens { configuration } 0 tokens with
  | .error configuration => (false, configuration)
  | .ok locals =>
      if locals.address = [] then (false, locals.configuration)
      else if locals.sharedSecret = [] then (false, locals.configuration)
      else
        (true, {
          type := locals.endpointType
          address := locals.address
          sharedSecret := locals.sharedSecret
          port :=
            if locals.port ≠ 0 then some locals.port else locals.configuration.port })

-- `operator>>`: the stream is good afterwards if this returns `true`.
def readIeee8021xRadiusServerEndpointConfiguration (inputStream : ByteString)
    (configuration : Ieee8021xRadiusServerEndpointConfiguration) :
    Bool × Ieee8021xRadiusServerEndpointConfiguration :=
  parseIeee8021xRadiusServerEndpointConfiguration (getlines 44 inputStream) configuration

end NetRemote.Cli
