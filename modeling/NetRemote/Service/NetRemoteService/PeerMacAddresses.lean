import NetRemote.Service.NetRemoteService.Items
import NetRemote.Service.NetRemoteService.Theorems
import NetRemote.Wifi.AccessPointControllerLinux.Calls

namespace NetRemote.Service.NetRemoteService.PeerMacAddresses

open Foundation Foundation.Bytes Api Wifi Wpa Wpa.Hostapd AccessPointControllerLinux

section Passwords

def passwordsOf (dot11AuthenticationData : Dot11AuthenticationData) : List Dot11RsnaPassword :=
  dot11AuthenticationData.sae.elim [] Dot11AuthenticationDataSae.passwords

def SixOctets (dot11RsnaPassword : Dot11RsnaPassword) : Prop :=
  ∀ dot11MacAddress ∈ dot11RsnaPassword.peerMacAddress,
    dot11MacAddress.value.length = MacAddressNumOctets

-- The text form of an address, byte by byte.
def addressText (value : List UInt8) : ByteString := (str ":").intercalate (value.map hexByte)

-- An entry with the fields that were asked for.
def entryValue (dot11RsnaPassword : Dot11RsnaPassword) : ByteString :=
  dot11RsnaPassword.credential ++
    (if dot11RsnaPassword.passwordId = [] then []
    else str "|id=" ++ dot11RsnaPassword.passwordId) ++
    dot11RsnaPassword.peerMacAddress.elim [] fun dot11MacAddress =>
      str "|mac=" ++ addressText dot11MacAddress.value

def saeValues (trace : List System.Exchange) : List ByteString :=
  (settings saeProperty trace).map Prod.snd

-- No address is replaced: what succeeds is sent as it was asked for, and what is no
-- address is refused.
structure KeepsAddresses (dot11AuthenticationData : Dot11AuthenticationData)
    (trace : List System.Exchange) (outcome : Except Fault WifiAccessPointOperationStatus) :
    Prop where
  sent : ∀ status, outcome = .ok status → Succeeds status →
    (∀ password ∈ passwordsOf dot11AuthenticationData, SixOctets password) ∧
      saeValues trace = dot11AuthenticationData.sae.elim [] fun dataSae =>
        ProtocolHostapd.PropertyValueSaePasswordClearAll :: dataSae.passwords.map entryValue
  refused : (∃ password ∈ passwordsOf dot11AuthenticationData, ¬ SixOctets password) →
    trace = [] ∧ ∃ message, outcome = .ok (failed .InvalidParameter message)

theorem fromDot11MacAddress_toList {dot11MacAddress : Dot11MacAddress}
    (h : dot11MacAddress.value.length = MacAddressNumOctets) :
    (fromDot11MacAddress dot11MacAddress).toList = dot11MacAddress.value := by
  have haddress : fromDot11MacAddress dot11MacAddress =
      ⟨dot11MacAddress.value.take MacAddressNumOctets, by simp [h]⟩ := dif_pos h.ge
  rw [haddress]
  exact List.take_of_length_le h.le

theorem saePasswordValue_fromDot11RsnaPassword {dot11RsnaPassword : Dot11RsnaPassword}
    (h : SixOctets dot11RsnaPassword) :
    saePasswordValue
        (ieee80211RsnaPasswordToWpaSaePassword (fromDot11RsnaPassword dot11RsnaPassword)) =
      entryValue dot11RsnaPassword := by
  obtain ⟨credential, passwordId, peerMacAddress⟩ := dot11RsnaPassword
  have hid : str "|id=" = ProtocolHostapd.PropertyValueSaeKeyValueSeparator ++
      ProtocolHostapd.PropertyValueSaePasswordKeyPasswordId ++
        [ProtocolWpa.KeyValueDelimiter] := rfl
  have hmac : str "|mac=" = ProtocolHostapd.PropertyValueSaeKeyValueSeparator ++
      ProtocolHostapd.PropertyValueSaePasswordKeyPeerMac ++
        [ProtocolWpa.KeyValueDelimiter] := rfl
  unfold saePasswordValue entryValue ieee80211RsnaPasswordToWpaSaePassword fromDot11RsnaPassword
  rw [hid, hmac]
  cases peerMacAddress with
  | none => by_cases hempty : passwordId = [] <;> simp [hempty]
  | some dot11MacAddress =>
      have haddress := fromDot11MacAddress_toList (h dot11MacAddress rfl)
      by_cases hempty : passwordId = [] <;>
        simp [hempty, ieee80211MacAddressToString, haddress, addressText]

end Passwords

section Runs

variable {platform : Platform} {accessPointManager : IAccessPointManager System}
  {accessPointId interfaceName : ByteString}
  {accessPointController : Option (IAccessPointController System)}
  {dot11AuthenticationData : Dot11AuthenticationData} {trace : List System.Exchange}
  {outcome : Except Fault WifiAccessPointOperationStatus}

-- What is not refused is handed to the controller, which asks hostapd at once.
theorem asks_setAuthenticationDataImpl (platform : Platform)
    (accessPointManager : IAccessPointManager System) (accessPointId interfaceName : ByteString)
    (hvalid : validateAuthenticationData dot11AuthenticationData = none) :
    ∃ request resume, wifiAccessPointSetAuthenticationDataImpl accessPointManager accessPointId
      (some (accessPointControllerLinux platform.toWifi interfaceName)) dot11AuthenticationData =
        .Ask request resume := by
  unfold wifiAccessPointSetAuthenticationDataImpl
  rw [hvalid]
  obtain ⟨psk, sae⟩ := dot11AuthenticationData
  cases psk with
  | some psk => exact ⟨_, _, rfl⟩
  | none =>
      cases sae with
      | some sae => exact ⟨_, _, rfl⟩
      | none => cases hvalid

theorem runs_setAuthenticationDataImpl
    (h : Finds accessPointManager accessPointId accessPointController
      (accessPointControllerLinux platform.toWifi interfaceName))
    (hruns : (wifiAccessPointSetAuthenticationDataImpl accessPointManager accessPointId
      accessPointController dot11AuthenticationData).Runs trace outcome) :
    (wifiAccessPointSetAuthenticationDataImpl accessPointManager accessPointId
      (some (accessPointControllerLinux platform.toWifi interfaceName))
      dot11AuthenticationData).Runs trace outcome ∨
      validateAuthenticationData dot11AuthenticationData = none ∧ trace = [] ∧
        ∀ status, outcome = .ok status →
          status.code = .AccessPointInvalid ∨ status.code = .InternalError := by
  unfold wifiAccessPointSetAuthenticationDataImpl at hruns ⊢
  cases hvalid : validateAuthenticationData dot11AuthenticationData with
  | some message =>
      rw [hvalid] at hruns
      exact .inl hruns
  | none =>
      rw [hvalid] at hruns
      rcases runs_withAccessPointController h hruns with ⟨-, hset⟩ | hnone
      · exact .inl hset
      · exact .inr ⟨rfl, hnone⟩

theorem saeValues_setAuthenticationDataImpl
    (hsix : ∀ password ∈ passwordsOf dot11AuthenticationData, SixOctets password)
    {status : WifiAccessPointOperationStatus} (hsucceeds : Succeeds status)
    (hruns : (wifiAccessPointSetAuthenticationDataImpl accessPointManager accessPointId
      (some (accessPointControllerLinux platform.toWifi interfaceName))
      dot11AuthenticationData).Runs trace (.ok status)) :
    saeValues trace = dot11AuthenticationData.sae.elim [] fun dataSae =>
      ProtocolHostapd.PropertyValueSaePasswordClearAll :: dataSae.passwords.map entryValue := by
  have hperforms : Performs platform.toPlatform saeProperty _ Succeeds _ _ :=
    performs_setAuthenticationDataImpl platform accessPointManager accessPointId interfaceName
      dot11AuthenticationData
  have hends := (Program.ends_of_wp [] (hperforms []) hruns).1 hsucceeds
  rw [List.nil_append, filter_authenticationSettings] at hends
  have hsettings := hends.trans (List.nil_append _)
  rw [saeValues, hsettings, fromDot11AuthenticationData]
  cases hsae : dot11AuthenticationData.sae with
  | none => rfl
  | some dataSae =>
      rw [passwordsOf, hsae] at hsix
      have hentries : dataSae.passwords.map (fun password => saePasswordValue
          (ieee80211RsnaPasswordToWpaSaePassword (fromDot11RsnaPassword password))) =
            dataSae.passwords.map entryValue :=
        List.map_congr_left fun password hmem =>
          saePasswordValue_fromDot11RsnaPassword (hsix password hmem)
      simp [saePasswordSettings, saePasswordSetting, fromDot11AuthenticationDataSae,
        Function.comp_def, hentries]

theorem setAuthenticationDataImpl_keepsAddresses_iff (platform : Platform)
    (h : Finds accessPointManager accessPointId accessPointController
      (accessPointControllerLinux platform.toWifi interfaceName))
    (hruns : (wifiAccessPointSetAuthenticationDataImpl accessPointManager accessPointId
      accessPointController dot11AuthenticationData).Runs trace outcome) :
    KeepsAddresses dot11AuthenticationData trace outcome ↔
      validateAuthenticationData dot11AuthenticationData ≠ none ∨
        ∀ password ∈ passwordsOf dot11AuthenticationData, SixOctets password := by
  cases hvalid : validateAuthenticationData dot11AuthenticationData with
  | some message =>
      unfold wifiAccessPointSetAuthenticationDataImpl at hruns
      rw [hvalid] at hruns
      cases hruns
      refine ⟨fun _ => .inl nofun, fun _ => ⟨?_, fun _ => ⟨rfl, message, rfl⟩⟩⟩
      rintro status hstatus hsucceeds
      obtain rfl := Except.ok.inj hstatus
      cases hsucceeds
  | none =>
      have hcases := runs_setAuthenticationDataImpl h hruns
      constructor
      · intro hkeeps
        refine .inr fun password hmem => ?_
        by_contra hsix
        obtain ⟨rfl, message, rfl⟩ := hkeeps.refused ⟨password, hmem, hsix⟩
        rcases hcases with hset | ⟨_, _, hcode⟩
        · obtain ⟨request, resume, hask⟩ := asks_setAuthenticationDataImpl platform
            accessPointManager accessPointId interfaceName hvalid
          rw [hask] at hset
          cases hset
        · rcases hcode _ rfl with hcode | hcode <;> cases hcode
      · rintro (hrefused | hsix)
        · exact absurd rfl hrefused
        · refine ⟨fun status hstatus hsucceeds => ⟨hsix, ?_⟩, ?_⟩
          · subst hstatus
            rcases hcases with hset | ⟨_, _, hcode⟩
            · exact saeValues_setAuthenticationDataImpl hsix hsucceeds hset
            · have hsucceeded : status.code = .Succeeded := hsucceeds
              rcases hcode _ rfl with hcode | hcode <;> rw [hcode] at hsucceeded <;>
                cases hsucceeded
          · rintro ⟨password, hmem, hbad⟩
            exact absurd (hsix password hmem) hbad

end Runs

def guestPassword (value : List UInt8) : Dot11RsnaPassword where
  credential := str "secret"
  peerMacAddress := some ⟨value⟩

def guestData (value : List UInt8) : Dot11AuthenticationData where
  sae := some ⟨[guestPassword value]⟩

-- A request whose controller is handed in, which hostapd acknowledges throughout.
def setGuest (value : List UInt8) : Wpa.Action WifiAccessPointOperationStatus :=
  wifiAccessPointSetAuthenticationDataImpl ⟨fun _ => none⟩ (str "wlan0")
    (some (accessPointControllerLinux default (str "wlan0"))) (guestData value)

theorem setAuthenticationDataImpl_keepsAddresses_guest :
    KeepsAddresses (guestData [2, 0, 0, 0, 0, 1])
      ((setGuest [2, 0, 0, 0, 0, 1]).run (acknowledging none) []).1
      ((setGuest [2, 0, 0, 0, 0, 1]).run (acknowledging none) []).2 := by
  have hgiven : Finds ⟨fun _ => none⟩ (str "wlan0")
      (some (accessPointControllerLinux default (str "wlan0")))
      (accessPointControllerLinux default (str "wlan0")) := rfl
  have hsix : ∀ password ∈ passwordsOf (guestData [2, 0, 0, 0, 0, 1]), SixOctets password := by
    simp [passwordsOf, guestData, guestPassword, SixOctets, MacAddressNumOctets]
  exact (setAuthenticationDataImpl_keepsAddresses_iff ⟨default, default⟩ hgiven
    (Program.runs_run (acknowledging none) (setGuest [2, 0, 0, 0, 0, 1]))).mpr (.inr hsix)

-- An address of five bytes is sent as the address of zeros.
theorem setAuthenticationDataImpl_replaces_address :
    ∃ trace outcome, (setGuest [2, 0, 0, 0, 1]).Runs trace outcome ∧
      outcome.toOption = some { code := .Succeeded } ∧
      saeValues trace = [str "", str "secret|mac=00:00:00:00:00:00"] ∧
      ¬ KeepsAddresses (guestData [2, 0, 0, 0, 1]) trace outcome := by
  have hruns := Program.runs_run (acknowledging none) (setGuest [2, 0, 0, 0, 1])
  have hsent : saeValues ((setGuest [2, 0, 0, 0, 1]).run (acknowledging none) []).1 =
      [str "", str "secret|mac=00:00:00:00:00:00"] := by decide +kernel
  refine ⟨_, _, hruns, by decide +kernel, hsent, fun hkeeps => ?_⟩
  obtain ⟨hnone, -⟩ := hkeeps.refused
    ⟨guestPassword [2, 0, 0, 0, 1], List.mem_cons_self, fun hsix => absurd (hsix _ rfl) (by decide)⟩
  rw [hnone] at hsent
  cases hsent

end NetRemote.Service.NetRemoteService.PeerMacAddresses
