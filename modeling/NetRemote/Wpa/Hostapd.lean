import NetRemote.Wpa.WpaController
import NetRemote.Wpa.WpaResponseParser

namespace NetRemote.Wpa

open Foundation Foundation.Bytes ProtocolWpa

inductive EnforceConfigurationChange where
  | Now
  | Defer
  deriving DecidableEq, Repr

-- The choices that the language leaves open, and the memory there is.
structure Platform where
  bssCapacity : BssCapacity
  properties : Table.Traversal ByteString PropertyValue
  wpaCipherSuites : Table.Traversal WpaSecurityProtocol (List WpaCipher)
  uninitialized : Int

namespace Hostapd

variable (platform : Platform)

def ping : Action Unit := do
  match ← sendCommand .Ping with
  | none => throwHostapd (str "Failed to ping hostapd")
  | some response =>
      if ResponsePayloadPing.isPrefixOf response then .Return ()
      else throwHostapd (str "Invalid response received when pinging hostapd")

def reload : Action Unit := do
  match ← sendCommand .Reload with
  | none => throwHostapd (str "Failed to send hostapd 'reload' command")
  | some response =>
      if isResponseOk response then .Return ()
      else throwHostapd (str "Invalid response received when reloading hostapd configuration")

-- Only a missing answer is noticed here: an answer of `FAIL` is parsed like any
-- other.
def getStatus : Action HostapdStatus := do
  match ← sendCommand .Status with
  | none => throwHostapd (str "Failed to send hostapd 'status' command")
  | some payload =>
      match ← Program.ofExcept
          (WpaStatusResponseParser.parse platform.bssCapacity platform.properties payload) with
      | none => throwHostapd (str "Failed to send hostapd 'status' command")
      | some status => .Return status

def getProperty (propertyName : ByteString) : Action ByteString := do
  match ← sendCommand (.Get propertyName) with
  | none => throwHostapd (str "Failed to send hostapd 'get' command")
  | some response =>
      if isResponseFail response then
        throwHostapd (str "Failed to get hostapd property '" ++ propertyName ++
          str "' (invalid response)")
      else .Return response

def getConfiguration : Action HostapdBssConfiguration := do
  match ← sendCommand .GetConfig with
  | none => throwHostapd (str "Failed to send hostapd 'get_config' command")
  | some payload =>
      match ← Program.ofExcept
          (WpaGetConfigResponseParser.parse platform.properties platform.uninitialized payload) with
      | none => throwHostapd (str "Failed to send hostapd 'get_config' command")
      | some configuration => .Return configuration

def setProperty (propertyName propertyValue : ByteString)
    (enforceConfigurationChange : EnforceConfigurationChange) : Action Unit := do
  match ← sendCommand (.Set propertyName propertyValue) with
  | none => throwHostapd (str "Failed to send hostapd 'set' command")
  | some response =>
      if !isResponseOk response then
        throwHostapd (str "Failed to set hostapd property '" ++ propertyName ++ str "' to '" ++
          propertyValue ++ str "' (invalid response)")
      else
        match enforceConfigurationChange with
        | .Defer => .Return ()
        | .Now => reload.attempt .Return <| catching fun what =>
            throwHostapd (str "Failed to reload hostapd configuration after '" ++ propertyName ++
              str "' property change: " ++ what)

def isActive : Action Bool := Program.ask (E := System) .IsValid

-- An interface that is enabled already answers with a failure, so that its
-- state decides.
def enable : Action Unit := do
  match ← sendCommand .Enable with
  | none => throwHostapd (str "Failed to send hostapd 'enable' command")
  | some response =>
      if isResponseOk response then .Return ()
      else do
        let status ← getStatus platform
        if isHostapdStateOperational status.state then .Return ()
        else throwHostapd (str "Failed to enable hostapd interface (invalid state " ++
          status.state.enumName ++ str ")")

def disable : Action Unit := do
  match ← sendCommand .Disable with
  | none => throwHostapd (str "Failed to send hostapd 'disable' command")
  | some response =>
      if isResponseOk response then .Return ()
      else do
        let status ← getStatus platform
        if isHostapdStateOperational status.state then
          throwHostapd (str "Failed to disable hostapd interface (invalid state " ++
            status.state.enumName ++ str ")")
        else .Return ()

def terminate : Action Unit := do
  match ← sendCommand .Terminate with
  | none => throwHostapd (str "Failed to send hostapd 'terminate' command")
  | some response =>
      if isResponseOk response then .Return ()
      else throwHostapd (str "Failed to terminate hostapd process (invalid response)")

-- Most setters send one property and wrap the message of what goes wrong.
def setPropertyWith (propertyName propertyValue : ByteString)
    (enforceConfigurationChange : EnforceConfigurationChange)
    (message : ByteString → ByteString) : Action Unit :=
  (setProperty propertyName propertyValue enforceConfigurationChange).attempt .Return <|
    catching fun what => throwHostapd (message what)

def setSsid (ssid : ByteString) (enforceConfigurationChange : EnforceConfigurationChange) :
    Action Unit :=
  setPropertyWith ProtocolHostapd.PropertyNameSsid ssid enforceConfigurationChange fun what =>
    str "Failed to set hostapd ssid to '" ++ ssid ++ str "' (" ++ what ++ str ")"

def setAuthenticationAlgorithms (algorithms : List WpaAuthenticationAlgorithm)
    (enforceConfigurationChange : EnforceConfigurationChange) : Action Unit :=
  if algorithms = [] then throwHostapd (str "No WPA authentication algorithms were provided")
  else
    match algorithms.find? fun algorithm =>
        algorithm.value &&& ~~~ WpaAuthenticationAlgorithmMask ≠ 0 with
    | some algorithm =>
        throwHostapd (str "Invalid WPA authentication algorithm value '" ++
          decimal algorithm.value.toNat ++ str "'")
    | none =>
        let algorithmsValue := algorithms.foldl (fun value algorithm => value ||| algorithm.value) 0
        let algorithmsPropertyValue :=
          decimal (algorithmsValue &&& WpaAuthenticationAlgorithmMask).toNat
        setPropertyWith ProtocolHostapd.PropertyNameAuthenticationAlgorithms
          algorithmsPropertyValue enforceConfigurationChange fun what =>
            str "Failed to set authentication algorithms to '" ++ algorithmsPropertyValue ++
              str "' (" ++ what ++ str ")"

def setWpaSecurityProtocols (protocols : List WpaSecurityProtocol)
    (enforceConfigurationChange : EnforceConfigurationChange) : Action Unit :=
  if protocols = [] then throwHostapd (str "No WPA protocols were provided")
  else
    match protocols.find? fun protocol => protocol.value &&& ~~~ WpaSecurityProtocolMask ≠ 0 with
    | some protocol =>
        throwHostapd (str "Invalid WPA protocol value '" ++ decimal protocol.value.toNat ++ str "'")
    | none =>
        let protocolsToSet := protocols.foldl (fun value protocol => value ||| protocol.value) 0
        let protocolsValue := decimal (protocolsToSet &&& WpaSecurityProtocolMask).toNat
        setPropertyWith PropertyNameWpaSecurityProtocol protocolsValue
          enforceConfigurationChange fun what =>
            str "Failed to set hostapd 'wpa' property to '" ++ protocolsValue ++ str "' (" ++
              what ++ str ")"

-- The generated identifier is as long as an R0 key holder identifier can be.
def generateNetworkAccessServerId (lengthRequested : Nat) : Action (AsciiString lengthRequested) :=
  Program.ask (E := System) (.GenerateRandomAsciiString lengthRequested)

def Ieee80211FtR0KeyHolderIdLengthOctetsMaximum : Nat := 48

def setNetworkAccessServerId (networkAccessServiceId : ByteString) : Action Unit :=
  setPropertyWith ProtocolHostapd.PropertyNameNasIdentifier networkAccessServiceId .Now fun what =>
    str "Failed to set network access identifier (" ++ what ++ str ")"

def setRandomNetworkAccessServerId : Action Unit := do
  let networkAccessServiceId ←
    generateNetworkAccessServerId Ieee80211FtR0KeyHolderIdLengthOctetsMaximum
  setNetworkAccessServerId networkAccessServiceId

def setKeyManagement (keyManagements : List WpaKeyManagement)
    (enforceConfigurationChange : EnforceConfigurationChange) : Action Unit :=
  if keyManagements = [] then throwHostapd (str "No WPA key management values were provided")
  else
    match keyManagements.find? fun keyManagement =>
        wpaKeyManagementPropertyValue keyManagement = WpaKeyManagementInvalidValue with
    | some keyManagement =>
        throwHostapd (str "Invalid WPA key management value '" ++ keyManagement.enumName ++ str "'")
    | none => do
        let keyManagementPropertyValue := (keyManagements.flatMap fun keyManagement =>
          wpaKeyManagementPropertyValue keyManagement ++ str " ").dropLast
        Program.onlyIf (keyManagements.any isKeyManagementFastTransition)
          setRandomNetworkAccessServerId
        Program.onlyIf (keyManagements.any isKeyManagementIeee8021x) <|
          setPropertyWith ProtocolHostapd.PropertyNameIeee8021X ProtocolHostapd.PropertyEnabled
            .Defer fun what =>
              str "Failed to enable hostapd for IEEE 802.1X (" ++ what ++ str ")"
        setPropertyWith ProtocolHostapd.PropertyNameWpaKeyManagement keyManagementPropertyValue
          enforceConfigurationChange fun what =>
            str "Failed to set hostapd 'wpa_key_mgmt' property to '" ++
              keyManagementPropertyValue ++ str "' (" ++ what ++ str ")"

-- The value keeps the space that follows its last cipher.
def setPairwiseCipherSuitesOf (enforceConfigurationChange : EnforceConfigurationChange)
    (protocol : WpaSecurityProtocol) (ciphers : List WpaCipher) : Action Unit :=
  if ciphers = [] then
    throwHostapd (str "No WPA cipher suites were provided for protocol '" ++ protocol.enumName ++
      str "'")
  else
    match ciphers.find? fun cipher => wpaCipherPropertyValue cipher = WpaCipherInvalidValue with
    | some cipher =>
        throwHostapd (str "Invalid WPA cipher suite value '" ++ cipher.enumName ++
          str "' for protocol '" ++ protocol.enumName)
    | none =>
        let cipherPropertyValue := ciphers.flatMap fun cipher =>
          wpaCipherPropertyValue cipher ++ str " "
        let cipherPropertyName := wpaCipherPropertyName protocol
        if cipherPropertyName = ProtocolHostapd.PropertyNameInvalid then
          throwHostapd (str "Invalid WPA protocol value '" ++ protocol.enumName ++ str "'")
        else
          setPropertyWith cipherPropertyName cipherPropertyValue enforceConfigurationChange
            fun what =>
              str "Failed to set hostapd 'wpa_cipher' property to '" ++ cipherPropertyValue ++
                str "' for protocol '" ++ protocol.enumName ++ str "' (" ++ what ++ str ")"

def setPairwiseCipherSuites (protocolPairwiseCipherMap : Table WpaSecurityProtocol (List WpaCipher))
    (enforceConfigurationChange : EnforceConfigurationChange) : Action Unit :=
  if protocolPairwiseCipherMap = ∅ then throwHostapd (str "No WPA cipher suites were provided")
  else
    (platform.wpaCipherSuites.visit protocolPairwiseCipherMap).forM fun entry =>
      setPairwiseCipherSuitesOf enforceConfigurationChange entry.1 entry.2

-- The overload for a single protocol.
def setPairwiseCipherSuitesFor (protocol : WpaSecurityProtocol) (pairwiseCiphers : List WpaCipher)
    (enforceConfigurationChange : EnforceConfigurationChange) : Action Unit :=
  setPairwiseCipherSuites platform (AList.insert protocol pairwiseCiphers ∅)
    enforceConfigurationChange

def setPreSharedKey (preSharedKey : WpaPreSharedKey)
    (enforceConfigurationChange : EnforceConfigurationChange) : Action Unit :=
  let psk := wpaPreSharedKeyPropertyKeyAndValue preSharedKey
  setPropertyWith psk.1 psk.2 enforceConfigurationChange fun what =>
    str "Failed to set pre-shared key (" ++ what ++ str ")"

def saePasswordValue (saePassword : SaePassword) : ByteString :=
  let field (key : ByteString) (value : Option ByteString) : ByteString :=
    value.elim [] fun value =>
      ProtocolHostapd.PropertyValueSaeKeyValueSeparator ++ key ++ [KeyValueDelimiter] ++ value
  saePassword.credential ++
    field ProtocolHostapd.PropertyValueSaePasswordKeyPasswordId saePassword.passwordId ++
    field ProtocolHostapd.PropertyValueSaePasswordKeyPeerMac saePassword.peerMacAddress ++
    field ProtocolHostapd.PropertyValueSaePasswordKeyVlanId
      (saePassword.vlanId.map fun vlanId => signedDecimal vlanId.toInt)

def addSaePassword (saePassword : SaePassword)
    (enforceConfigurationChange : EnforceConfigurationChange) : Action Unit :=
  setPropertyWith ProtocolHostapd.PropertyNameSaePassword (saePasswordValue saePassword)
    enforceConfigurationChange fun what => str "Failed to add sae password (" ++ what ++ str ")"

-- The list is cleared before the passwords are added to it.
def setSaePasswords (saePasswords : List SaePassword)
    (enforceConfigurationChange : EnforceConfigurationChange) : Action Unit :=
  let block : Action Unit := do
    setProperty ProtocolHostapd.PropertyNameSaePassword
      ProtocolHostapd.PropertyValueSaePasswordClearAll .Defer
    saePasswords.forM fun saePassword => addSaePassword saePassword .Defer
    Program.onlyIf (enforceConfigurationChange = .Now) reload
  block.attempt .Return <| catching fun what =>
    throwHostapd (str "Failed to set sae passwords (" ++ what ++ str ")")

def setBridgeInterface (bridgeInterface : ByteString)
    (enforceConfigurationChange : EnforceConfigurationChange) : Action Unit :=
  setPropertyWith ProtocolHostapd.PropertyNameBridgeInterface bridgeInterface
    enforceConfigurationChange fun what =>
      str "Failed to set bridge interface to '" ++ bridgeInterface ++ str "' (" ++ what ++ str ")"

def addRadiusEndpoint (endpointConfiguration : RadiusEndpointConfiguration) : Action Unit :=
  if endpointConfiguration.type = .Unknown then throwHostapd (str "Invalid RADIUS endpoint type")
  else if endpointConfiguration.address = [] then
    throwHostapd (str "RADIUS endpoint address is empty")
  else if endpointConfiguration.sharedSecret = [] then
    throwHostapd (str "RADIUS endpoint shared secret is empty")
  else do
    let names := getRadiusEndpointPropertyNames endpointConfiguration.type
    setProperty names.1 endpointConfiguration.address .Defer
    setProperty names.2.2 endpointConfiguration.sharedSecret .Defer
    match endpointConfiguration.port with
    | none => .Return ()
    | some port => setProperty names.2.1 (decimal port.toNat) .Defer

def addRadiusEndpoints (endpointConfigurations : List RadiusEndpointConfiguration)
    (enforceConfigurationChange : EnforceConfigurationChange) : Action Unit :=
  let block : Action Unit := do
    endpointConfigurations.forM addRadiusEndpoint
    Program.onlyIf (enforceConfigurationChange = .Now) reload
  block.attempt .Return <| catching fun what =>
    throwHostapd (str "Failed to add RADIUS endpoints (" ++ what ++ str ")")

def getIpAddress : ByteString := str "127.0.0.1"

end Hostapd

end NetRemote.Wpa
