import NetRemote.Service.NetRemoteService.Items
import NetRemote.Service.NetRemoteService.Theorems
import NetRemote.Wifi.AccessPointControllerLinux.Theorems

namespace NetRemote.Service.NetRemoteService.Ssid

open Foundation Foundation.Bytes Api Wifi Wifi.AccessPointControllerLinux Wpa Wpa.Hostapd

def ssidProperty (propertyName : ByteString) : Bool :=
  propertyName = ProtocolHostapd.PropertyNameSsid

-- The SSIDs that hostapd is told to use.
def ssids (trace : List System.Exchange) : List ByteString :=
  (settings ssidProperty trace).map Prod.snd

-- The length that the standard allows, in the encoding of a text field.
def IsSsid (ssid : ByteString) : Prop :=
  1 ≤ ssid.length ∧ ssid.length ≤ 32 ∧
    ∃ characters : List Char, ssid = characters.flatMap String.utf8EncodeChar

theorem ne_nil_of_isSsid {ssid : ByteString} (h : IsSsid ssid) : ssid ≠ [] :=
  List.ne_nil_of_length_pos h.1

-- The bytes that a value stands for.
def meaning : Dot11SsidValue → Option ByteString
  | .Name name => some name
  | .Hex hex => decodeHex hex
  | .Data data => some data

def SetsMeaning (value : Dot11SsidValue) (trace : List System.Exchange) : Prop :=
  match meaning value with
  | some ssid => IsSsid ssid → ssids trace = [ssid]
  | none => ssids trace = []

theorem hexDigitValue_hexDigitUpper (digit : UInt8) (h : digit < 16) :
    hexDigitValue (hexDigitUpper digit) = some digit.toNat := by
  have hall : ∀ n < 16, hexDigitValue (hexDigitUpper (UInt8.ofNat n)) = some n := by decide
  have hdigit := hall digit.toNat h
  rwa [UInt8.ofNat_toNat] at hdigit

theorem setsMeaning_some {value : Dot11SsidValue} {ssid : ByteString}
    (h : meaning value = some ssid) (trace : List System.Exchange) :
    SetsMeaning value trace ↔ (IsSsid ssid → ssids trace = [ssid]) := by
  rw [SetsMeaning, h]

theorem setsMeaning_none {value : Dot11SsidValue} (h : meaning value = none)
    (trace : List System.Exchange) : SetsMeaning value trace ↔ ssids trace = [] := by
  rw [SetsMeaning, h]

-- Every SSID has a hexadecimal form.
theorem decodeHex_hexByte (bytes : List UInt8) :
    decodeHex (bytes.flatMap hexByte) = some bytes := by
  induction bytes with
  | nil => rfl
  | cons byte bytes ih =>
      have hhigh : byte / 16 < 16 := by
        have hsmall := byte.toNat_lt
        rw [UInt8.lt_iff_toNat_lt, UInt8.toNat_div]
        exact Nat.div_lt_of_lt_mul hsmall
      have hlow : byte % 16 < 16 := by
        rw [UInt8.lt_iff_toNat_lt, UInt8.toNat_mod]
        exact Nat.mod_lt _ (by decide)
      have hbyte : 16 * (byte / 16).toNat + (byte % 16).toNat = byte.toNat := by
        rw [UInt8.toNat_div, UInt8.toNat_mod]
        exact Nat.div_add_mod _ _
      rw [List.flatMap_cons, hexByte, List.cons_append, List.singleton_append, decodeHex,
        hexDigitValue_hexDigitUpper _ hhigh, hexDigitValue_hexDigitUpper _ hlow, ih]
      simp only [Option.bind_eq_bind, Option.bind_some, hbyte, UInt8.ofNat_toNat]

-- The digits are twice as many as the bytes.
theorem length_decodeHex {hex : ByteString} {bytes : List UInt8} (h : decodeHex hex = some bytes) :
    hex.length = 2 * bytes.length := by
  induction hex using decodeHex.induct generalizing bytes with
  | case1 =>
      cases h
      rfl
  | case2 => cases h
  | case3 high low rest ih =>
      simp only [decodeHex, Option.bind_eq_bind, Option.bind_eq_some_iff, Option.some.injEq] at h
      obtain ⟨_, _, _, _, decoded, hrest, rfl⟩ := h
      rw [List.length_cons, List.length_cons, List.length_cons, ih hrest]
      omega

section Runs

variable {platform : Wifi.Platform} {interfaceName : ByteString}

theorem transmits_setSsid {ssid : ByteString} (h : ssid ≠ []) :
    Transmits ssidProperty [(ProtocolHostapd.PropertyNameSsid, ssid)]
      (AccessPointControllerLinux.setSsid platform interfaceName ssid) := by
  unfold AccessPointControllerLinux.setSsid
  rw [if_neg h]
  apply transmits_attempt (transmits_setProperty (by decide) ssid .Now)
  · intro _
    exact Program.within_bind (within_getConfiguration _) fun _ => trivial
  · exact within_catching fun _ => trivial

theorem transmits_accessPointControllerLinux {ssid : ByteString} (h : ssid ≠ []) :
    Transmits ssidProperty [(ProtocolHostapd.PropertyNameSsid, ssid)]
      (accessPointControllerLinux platform interfaceName (.SetSsid ssid)) := by
  have hset : Transmits ssidProperty [(ProtocolHostapd.PropertyNameSsid, ssid)]
      (AccessPointControllerLinux.perform platform interfaceName (.SetSsid ssid)) :=
    transmits_attempt (transmits_setSsid h) (fun _ => trivial) fun _ => trivial
  exact transmits_attempt hset (fun _ => trivial) fun _ => trivial

variable {accessPointManager : IAccessPointManager System} {accessPointId : ByteString}
  {accessPointController : Option (IAccessPointController System)}

theorem ssids_wifiAccessPointSetSsidImpl
    (h : Reaches accessPointManager accessPointId accessPointController
      (accessPointControllerLinux platform interfaceName))
    {value : Dot11SsidValue} (hvalue : ssidText value ≠ []) {trace : List System.Exchange}
    {outcome : Except Fault WifiAccessPointOperationStatus}
    (hruns : (wifiAccessPointSetSsidImpl accessPointManager accessPointId accessPointController
      ⟨some value⟩).Runs trace outcome) :
    ssids trace = [ssidText value] := by
  have heq : wifiAccessPointSetSsidImpl accessPointManager accessPointId accessPointController
      ⟨some value⟩ =
        (accessPointControllerLinux platform interfaceName (.SetSsid (ssidText value))).attempt
          (fun result => .Return (settle accessPointId (str "Failed to set SSID") result.1))
          .Throw := by
    unfold wifiAccessPointSetSsidImpl
    dsimp only
    rw [withAccessPointController_reaches h]
    cases value <;> rfl
  have hsends : Transmits ssidProperty [(ProtocolHostapd.PropertyNameSsid, ssidText value)]
      (wifiAccessPointSetSsidImpl accessPointManager accessPointId accessPointController
        ⟨some value⟩) := by
    rw [heq]
    exact transmits_attempt (transmits_accessPointControllerLinux hvalue) (fun _ => trivial)
      fun _ => trivial
  have hends := Program.ends_of_wp [] (hsends []) hruns
  have hsettings : settings ssidProperty trace =
      [(ProtocolHostapd.PropertyNameSsid, ssidText value)] := by
    cases outcome with
    | ok status => simpa [Program.Ends, settings] using hends
    | error fault => simpa [Program.Ends, settings] using hends
  rw [ssids, hsettings]
  rfl

theorem wifiAccessPointSetSsidImpl_setsMeaning_iff
    (h : Reaches accessPointManager accessPointId accessPointController
      (accessPointControllerLinux platform interfaceName))
    (value : Dot11SsidValue) (trace : List System.Exchange)
    (outcome : Except Fault WifiAccessPointOperationStatus)
    (hruns : (wifiAccessPointSetSsidImpl accessPointManager accessPointId accessPointController
      ⟨some value⟩).Runs trace outcome) :
    SetsMeaning value trace ↔
      ∀ hex, value = .Hex hex → ∃ bytes, decodeHex hex = some bytes ∧ ¬ IsSsid bytes := by
  have hset (hvalue : ssidText value ≠ []) := ssids_wifiAccessPointSetSsidImpl h hvalue hruns
  cases value with
  | Name name => exact ⟨fun _ => nofun, fun _ hssid => hset (ne_nil_of_isSsid hssid)⟩
  | Data data => exact ⟨fun _ => nofun, fun _ hssid => hset (ne_nil_of_isSsid hssid)⟩
  | Hex hex =>
      have hdecode : meaning (.Hex hex) = decodeHex hex := rfl
      constructor
      · rintro hmeaning _ ⟨⟩
        cases hdecoded : decodeHex hex with
        | none =>
            have hhex : hex ≠ [] := by
              rintro rfl
              cases hdecoded
            rw [setsMeaning_none (hdecode.trans hdecoded), hset hhex] at hmeaning
            cases hmeaning
        | some bytes =>
            refine ⟨bytes, rfl, fun hssid => ?_⟩
            have hlength := length_decodeHex hdecoded
            have hone := hssid.1
            have hhex : hex ≠ [] := List.ne_nil_of_length_pos (by omega)
            -- What is set has twice the length of what is meant.
            have hsame := (setsMeaning_some (hdecode.trans hdecoded) trace).mp hmeaning hssid
            obtain rfl : hex = bytes := List.head_eq_of_cons_eq ((hset hhex).symm.trans hsame)
            omega
      · intro hother
        obtain ⟨bytes, hdecoded, hbytes⟩ := hother hex rfl
        exact (setsMeaning_some (hdecode.trans hdecoded) trace).mpr fun hssid => absurd hssid hbytes

end Runs

-- The same SSID by its name and by the hexadecimal form of its bytes.
def guestName : Dot11SsidValue := .Name (str "guest")

def guestHex : Dot11SsidValue := .Hex ((str "guest").flatMap hexByte)

theorem isSsid_guest : IsSsid (str "guest") :=
  ⟨by decide, by decide, "guest".toList, by decide⟩

-- A request whose controller is handed in.
def setSsidOf (value : Dot11SsidValue) : Wpa.Action WifiAccessPointOperationStatus :=
  wifiAccessPointSetSsidImpl ⟨fun _ => none⟩ (str "wlan0")
    (some (accessPointControllerLinux default (str "wlan0"))) ⟨some value⟩

theorem wifiAccessPointSetSsidImpl_setsMeaning_guest :
    SetsMeaning guestName
      ((setSsidOf guestName).run (acknowledging (some (str "ssid=guest"))) []).1 :=
  (wifiAccessPointSetSsidImpl_setsMeaning_iff (.inl rfl) guestName _ _
    (Program.runs_run (acknowledging (some (str "ssid=guest"))) (setSsidOf guestName))).mpr nofun

-- The digits themselves become the SSID.
theorem wifiAccessPointSetSsidImpl_misreads_guest :
    meaning guestHex = some (str "guest") ∧ IsSsid (str "guest") ∧
      ∃ trace outcome, (setSsidOf guestHex).Runs trace outcome ∧
        outcome.toOption = some { code := .Succeeded } ∧
        ssids trace = [str "6775657374"] ∧ ¬ SetsMeaning guestHex trace := by
  have hmeaning : meaning guestHex = some (str "guest") := decodeHex_hexByte (str "guest")
  have hset : ssids ((setSsidOf guestHex).run (acknowledging (some (str "ssid=guest"))) []).1 =
      [str "6775657374"] := by decide +kernel
  refine ⟨hmeaning, isSsid_guest, _, _,
    Program.runs_run (acknowledging (some (str "ssid=guest"))) (setSsidOf guestHex),
    by decide +kernel, hset, ?_⟩
  rw [setsMeaning_some hmeaning, hset]
  exact fun h => absurd (h isSsid_guest) (by decide)

end NetRemote.Service.NetRemoteService.Ssid
