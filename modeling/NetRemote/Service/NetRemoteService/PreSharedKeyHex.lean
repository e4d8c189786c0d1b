import NetRemote.Service.NetRemoteService.Validation

namespace NetRemote.Service.NetRemoteService.PreSharedKeyHex

open Foundation Foundation.Bytes Api Wifi Wpa Validation

def IsHexKey (hex : ByteString) : Prop :=
  hex.length = 64 ∧ ∀ byte ∈ hex, (hexDigitValue byte).isSome

instance (hex : ByteString) : Decidable (IsHexKey hex) := inferInstanceAs (Decidable (_ ∧ _))

def hexData (hex : ByteString) (sae : Option Dot11AuthenticationDataSae) :
    Dot11AuthenticationData :=
  { psk := some ⟨some ⟨some (.Value ⟨some (.Hex hex)⟩)⟩⟩, sae }

-- A key that is passed on is the decoding of the digits, and a text that is no key is
-- refused.
structure HexValidated (hex : ByteString) (trace : List Controller.Exchange)
    (outcome : Except Fault WifiAccessPointOperationStatus) : Prop where
  called : ∀ authenticationData reply,
    (⟨.SetAuthenticationData authenticationData, reply⟩ : Controller.Exchange) ∈ trace →
      IsHexKey hex ∧ ∃ key, authenticationData.psk = some (.Value key) ∧
        decodeHex hex = some key.toList
  rejected : ¬ IsHexKey hex → ReturnsCode outcome .InvalidParameter ∧ effects trace = []

section Digits

theorem parseHexString_cons (high low : UInt8) (rest : ByteString) (count : Nat)
    (hlength : rest.length = 2 * count) :
    parseHexString (high :: low :: rest) (count + 1) =
      (fromCharsHex [high, low]).bind fun byte =>
        (parseHexString rest count).map fun bytes => byte ::ᵥ bytes := by
  have hlong : ¬ (high :: low :: rest).length / 2 < count + 1 := by
    rw [List.length_cons, List.length_cons]
    omega
  have hrest : ¬ rest.length / 2 < count := by omega
  have hpairs : (List.Vector.ofFn fun i : Fin (count + 1) =>
      fromCharsHex (substr (high :: low :: rest) (i * 2) 2)) =
        fromCharsHex [high, low] ::ᵥ
          List.Vector.ofFn fun i : Fin count => fromCharsHex (substr rest (i * 2) 2) := by
    refine congrArg (fromCharsHex [high, low] ::ᵥ ·) ?_
    congr 1
    funext i
    have hposition : (i.succ : Nat) * 2 = i * 2 + 1 + 1 := by
      rw [Fin.val_succ]
      omega
    simp only [hposition]
    rfl
  unfold parseHexString
  rw [if_neg hlong, if_neg hrest, hpairs, List.Vector.mmap_cons]
  simp only [id_eq, Option.bind_eq_bind, Option.pure_def, Option.map_eq_bind, Function.comp_def]

-- Where all are digits each pair is read as a whole.
theorem parseHexString_digits {hex : ByteString} {count : Nat} (hlength : hex.length = 2 * count)
    (hdigits : ∀ byte ∈ hex, (hexDigitValue byte).isSome) :
    ∃ bytes, parseHexString hex count = some bytes ∧ decodeHex hex = some bytes.toList := by
  induction count generalizing hex with
  | zero =>
      obtain rfl : hex = [] := List.length_eq_zero_iff.mp hlength
      exact ⟨.nil, rfl, rfl⟩
  | succ count ih =>
      match hex, hlength, hdigits with
      | high :: low :: rest, hlength, hdigits =>
          simp only [List.forall_mem_cons, Option.isSome_iff_exists] at hdigits
          obtain ⟨⟨highDigit, hhigh⟩, ⟨lowDigit, hlow⟩, hrest⟩ := hdigits
          have hcount : rest.length = 2 * count := by
            rw [List.length_cons, List.length_cons] at hlength
            omega
          obtain ⟨bytes, hparsed, hdecoded⟩ := ih hcount (by simpa [Option.isSome_iff_exists])
          refine ⟨UInt8.ofNat (16 * highDigit + lowDigit) ::ᵥ bytes, ?_, ?_⟩
          · rw [parseHexString_cons high low rest count hcount, fromCharsHex_pair hhigh hlow,
              hparsed]
            rfl
          · simp [decodeHex, hhigh, hlow, hdecoded]

end Digits

section Runs

variable {accessPointManager : IAccessPointManager Controller} {accessPointId : ByteString}
  {accessPointController : Option (IAccessPointController Controller)} {hex : ByteString}
  {sae : Option Dot11AuthenticationDataSae} {trace : List Controller.Exchange}
  {outcome : Except Fault WifiAccessPointOperationStatus}

-- The request is refused, it finds no controller, or its data are passed on.
theorem runs_setAuthenticationData {dot11AuthenticationData : Dot11AuthenticationData}
    (hfinds : Finds accessPointManager accessPointId accessPointController requested)
    (hruns : (wifiAccessPointSetAuthenticationDataImpl accessPointManager accessPointId
      accessPointController dot11AuthenticationData).Runs trace outcome) :
    (validateAuthenticationData dot11AuthenticationData ≠ none ∧ trace = [] ∧
      ReturnsCode outcome .InvalidParameter) ∨
    (validateAuthenticationData dot11AuthenticationData = none ∧
      ((trace = [] ∧ ¬ ReturnsCode outcome .InvalidParameter) ∨
        ∃ reply, trace = [⟨.SetAuthenticationData
          (fromDot11AuthenticationData dot11AuthenticationData), reply⟩])) := by
  unfold wifiAccessPointSetAuthenticationDataImpl at hruns
  cases hvalid : validateAuthenticationData dot11AuthenticationData with
  | some message =>
      rw [hvalid] at hruns
      cases hruns
      exact .inl ⟨nofun, rfl, _, rfl, rfl⟩
  | none =>
      rw [hvalid] at hruns
      refine .inr ⟨rfl, ?_⟩
      rcases runs_withAccessPointController hfinds hruns with ⟨-, hnext⟩ | ⟨rfl, hcodes⟩
      · cases hnext with
        | Ask reply hrest =>
            cases hrest
            exact .inr ⟨reply, rfl⟩
      · refine .inl ⟨rfl, ?_⟩
        rintro ⟨status, hreturned, hcode⟩
        rcases hcodes status hreturned with hother | hother <;> rw [hother] at hcode <;>
          cases hcode

theorem validate_hexData_iff (hex : ByteString) (sae : Option Dot11AuthenticationDataSae) :
    validateAuthenticationData (hexData hex sae) = none ↔
      hex.length = 64 ∧ ∀ dataSae ∈ sae, dataSae.passwords ≠ [] := by
  rw [validateAuthenticationData_iff]
  simp [Request.InvalidAtOnce, hexData, InvalidPsk, Ieee80211RsnaPskLength]

theorem psk_of_isHexKey (hkey : IsHexKey hex) (sae : Option Dot11AuthenticationDataSae) :
    ∃ key, (fromDot11AuthenticationData (hexData hex sae)).psk = some (.Value key) ∧
      decodeHex hex = some key.toList := by
  have hlength : hex.length = 2 * Ieee80211RsnaPskLength := hkey.1
  obtain ⟨key, hparsed, hdecoded⟩ := parseHexString_digits hlength hkey.2
  refine ⟨key, ?_, hdecoded⟩
  have hpsk : (fromDot11AuthenticationData (hexData hex sae)).psk =
      some ((parseHexString hex Ieee80211RsnaPskLength).elim ieee80211RsnaPskEmpty .Value) := by
    simp only [fromDot11AuthenticationData, hexData, Option.map_some,
      fromDot11AuthenticationDataPsk, Option.elim_some, fromDot11RsnaPsk]
    cases parseHexString hex Ieee80211RsnaPskLength <;> rfl
  rw [hpsk, show parseHexString hex Ieee80211RsnaPskLength = some key from hparsed]
  rfl

theorem setAuthenticationData_validatesHex_iff
    (accessPointManager : IAccessPointManager Controller) (accessPointId : ByteString)
    (accessPointController : Option (IAccessPointController Controller))
    (hfinds : Finds accessPointManager accessPointId accessPointController requested)
    (hex : ByteString) (sae : Option Dot11AuthenticationDataSae) (trace : List Controller.Exchange)
    (outcome : Except Fault WifiAccessPointOperationStatus)
    (hruns : (wifiAccessPointSetAuthenticationDataImpl accessPointManager accessPointId
      accessPointController (hexData hex sae)).Runs trace outcome) :
    HexValidated hex trace outcome ↔
      hex.length ≠ 64 ∨ IsHexKey hex ∨ ∃ dataSae ∈ sae, dataSae.passwords = [] := by
  have hvalidated := validate_hexData_iff hex sae
  rcases runs_setAuthenticationData hfinds hruns with ⟨hinvalid, rfl, hcode⟩ | ⟨hvalid, hrun⟩
  · refine ⟨fun _ => ?_, fun _ => ⟨nofun, fun _ => ⟨hcode, rfl⟩⟩⟩
    by_contra hnot
    simp only [not_or, not_exists, not_and] at hnot
    exact hinvalid (hvalidated.mpr ⟨not_not.mp hnot.1, hnot.2.2⟩)
  · obtain ⟨hlength, hsae⟩ := hvalidated.mp hvalid
    have hnone : ¬ ∃ dataSae ∈ sae, dataSae.passwords = [] := by
      rintro ⟨dataSae, hmem, hempty⟩
      exact hsae dataSae hmem hempty
    have hcondition : (hex.length ≠ 64 ∨ IsHexKey hex ∨
        ∃ dataSae ∈ sae, dataSae.passwords = []) ↔ IsHexKey hex := by
      simp only [hlength, ne_eq, not_true, false_or, hnone, or_false]
    rw [hcondition]
    rcases hrun with ⟨rfl, hcode⟩ | ⟨reply, rfl⟩
    · refine ⟨fun hvalidates => ?_, fun hkey => ⟨nofun, fun hnot => absurd hkey hnot⟩⟩
      by_contra hnot
      exact hcode (hvalidates.rejected hnot).1
    · refine ⟨fun hvalidates => (hvalidates.called _ reply List.mem_cons_self).1, fun hkey => ?_⟩
      refine ⟨fun authenticationData other hmem => ⟨hkey, ?_⟩, fun hnot => absurd hkey hnot⟩
      have hpassed : authenticationData = fromDot11AuthenticationData (hexData hex sae) := by
        cases List.mem_singleton.mp hmem
        rfl
      exact hpassed ▸ psk_of_isHexKey hkey sae

def setHexKey (hex : ByteString) : Program Controller Fault WifiAccessPointOperationStatus :=
  wifiAccessPointSetAuthenticationDataImpl ⟨fun _ => none⟩ (str "wlan0") (some requested)
    (hexData hex none)

theorem setAuthenticationData_validatesHex_sevens :
    HexValidated (List.replicate 64 55)
      ((setHexKey (List.replicate 64 55)).run (granting {}) []).1
      ((setHexKey (List.replicate 64 55)).run (granting {}) []).2 :=
  (setAuthenticationData_validatesHex_iff ⟨fun _ => none⟩ (str "wlan0") (some requested) rfl
    (List.replicate 64 55) none _ _ (Program.runs_run _ _)).mpr (.inr (.inl (by decide +kernel)))

-- Sixty-four characters that are no digits, and the same with digits in the first
-- position of each pair.
def lettersOnly : ByteString := List.replicate 64 103

def lettersSecond : ByteString := (List.replicate 32 [55, 103]).flatten

-- The one becomes an empty passphrase, the other a key of sevens.
theorem setAuthenticationData_acceptsLetters :
    (setHexKey lettersOnly).run (granting {}) [] =
        ([⟨.SetAuthenticationData { psk := some (.Passphrase []) }, (granted, ())⟩],
          .ok { code := .Succeeded }) ∧
      ¬ HexValidated lettersOnly ((setHexKey lettersOnly).run (granting {}) []).1
        ((setHexKey lettersOnly).run (granting {}) []).2 ∧
      (setHexKey lettersSecond).run (granting {}) [] =
        ([⟨.SetAuthenticationData { psk := some (.Value (List.Vector.replicate _ 7)) },
          (granted, ())⟩], .ok { code := .Succeeded }) ∧
      ¬ HexValidated lettersSecond ((setHexKey lettersSecond).run (granting {}) []).1
        ((setHexKey lettersSecond).run (granting {}) []).2 := by
  have hletters : (setHexKey lettersOnly).run (granting {}) [] =
      ([⟨.SetAuthenticationData { psk := some (.Passphrase []) }, (granted, ())⟩],
        .ok { code := .Succeeded }) := by rfl
  have hsecond : (setHexKey lettersSecond).run (granting {}) [] =
      ([⟨.SetAuthenticationData { psk := some (.Value (List.Vector.replicate _ 7)) },
        (granted, ())⟩], .ok { code := .Succeeded }) := by rfl
  refine ⟨hletters, ?_, hsecond, ?_⟩
  · rw [hletters]
    exact fun hvalidates => absurd (hvalidates.called _ _ List.mem_cons_self).1 (by decide +kernel)
  · rw [hsecond]
    exact fun hvalidates => absurd (hvalidates.called _ _ List.mem_cons_self).1 (by decide +kernel)

end Runs

end NetRemote.Service.NetRemoteService.PreSharedKeyHex
