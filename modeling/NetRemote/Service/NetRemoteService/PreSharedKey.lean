import NetRemote.Service.NetRemoteService.Theorems

namespace NetRemote.Service.NetRemoteService.PreSharedKey

open Foundation Foundation.Bytes Api Wifi Wpa Wpa.Hostapd

-- What becomes of a key on its way to hostapd.
def sentFor (psk : Dot11RsnaPsk) : Setting :=
  wpaPreSharedKeyPropertyKeyAndValue (ieee80211RsnaPskToWpaSharedKey (fromDot11RsnaPsk psk))

-- The 32 bytes that a secret stands for.
def secretOf (value : Dot11RsnaPskDataValue) : Option (List UInt8) :=
  match value.data with
  | some (.Raw raw) => some raw
  | some (.Hex hex) => decodeHex hex
  | none => none

-- A passphrase is sent as it is, and a secret as the hexadecimal digits of its bytes.
def Unchanged (psk : Dot11RsnaPsk) (setting : Setting) : Prop :=
  match psk.data with
  | some (.Passphrase passphrase) =>
      setting = (ProtocolHostapd.PropertyNameWpaPassphrase, passphrase)
  | some (.Value value) =>
      setting.1 = ProtocolHostapd.PropertyNameWpaPsk ∧
        setting.2.length = WpaPskValueLength ∧
        ∃ secret, secretOf value = some secret ∧ decodeHex setting.2 = some secret
  | none => False

def IsPassphrase (psk : Dot11RsnaPsk) : Prop :=
  ∃ passphrase, psk.data = some (.Passphrase passphrase)

-- A secret is kept as 32 bytes, or it is given up for an empty passphrase.
theorem fromDot11RsnaPsk_value {psk : Dot11RsnaPsk} {value : Dot11RsnaPskDataValue}
    (h : psk.data = some (.Value value)) :
    fromDot11RsnaPsk psk = ieee80211RsnaPskEmpty ∨
      ∃ key, fromDot11RsnaPsk psk = .Value key := by
  unfold fromDot11RsnaPsk
  rw [h]
  dsimp only
  cases value.data with
  | none => exact .inl rfl
  | some data =>
      cases data with
      | Hex pskHex =>
          dsimp only
          cases parseHexString pskHex Ieee80211RsnaPskLength with
          | none => exact .inl rfl
          | some key => exact .inr ⟨key, rfl⟩
      | Raw pskRaw =>
          dsimp only
          by_cases hlength : Ieee80211RsnaPskLength ≤ pskRaw.length
          · rw [dif_pos hlength]
            exact .inr ⟨_, rfl⟩
          · rw [dif_neg hlength]
            exact .inl rfl

-- What is sent for a secret has no digit in it.
theorem decodeHex_zero : decodeHex wpaPskValueZero.toList = none := by decide

theorem preSharedKey_unchanged_iff (psk : Dot11RsnaPsk) :
    Unchanged psk (sentFor psk) ↔ IsPassphrase psk := by
  unfold Unchanged IsPassphrase
  cases hdata : psk.data with
  | none => simp
  | some data =>
      cases data with
      | Passphrase passphrase =>
          have hsent : sentFor psk = (ProtocolHostapd.PropertyNameWpaPassphrase, passphrase) := by
            rw [sentFor, fromDot11RsnaPsk, hdata]
            rfl
          exact ⟨fun _ => ⟨passphrase, rfl⟩, fun _ => hsent⟩
      | Value value =>
          constructor
          · rintro ⟨hname, _, secret, _, hsecret⟩
            rcases fromDot11RsnaPsk_value hdata with hpsk | ⟨key, hpsk⟩
            · rw [sentFor, hpsk] at hname
              exact absurd hname (by decide)
            · have hsent : (sentFor psk).2 = wpaPskValueZero.toList := by
                rw [sentFor, hpsk]
                rfl
              rw [hsent, decodeHex_zero] at hsecret
              cases hsecret
          · rintro ⟨passphrase, hpassphrase⟩
            cases hpassphrase

def rawSecret : Dot11RsnaPsk := ⟨some (.Value ⟨some (.Raw (List.range 32 |>.map UInt8.ofNat))⟩)⟩

-- Every raw secret is accepted and becomes 64 zeros.
theorem preSharedKey_changes_rawSecret :
    validatePsk rawSecret = none ∧
      sentFor rawSecret = (str "wpa_psk", List.replicate 64 0) ∧
      ¬ Unchanged rawSecret (sentFor rawSecret) := by
  have hsent : sentFor rawSecret = (str "wpa_psk", List.replicate 64 0) := by decide
  refine ⟨by decide, hsent, ?_⟩
  rintro ⟨_, _, secret, _, hsecret⟩
  rw [hsent] at hsecret
  revert hsecret
  have hdigits : decodeHex (List.replicate 64 0) = none := by decide
  rw [hdigits]
  exact nofun

end NetRemote.Service.NetRemoteService.PreSharedKey
