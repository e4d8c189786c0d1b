import NetRemote.Service.Adapters

namespace NetRemote.Service

open Foundation Foundation.Bytes Api Wifi

def toDot11SecurityProtocol : Ieee80211SecurityProtocol → Dot11SecurityProtocol
  | .Wpa => Dot11SecurityProtocolWpa1
  | .Wpa2 => Dot11SecurityProtocolWpa2
  | .Wpa3 => Dot11SecurityProtocolWpa3
  | .Unknown => Dot11SecurityProtocolUnknown

def toDot11PhyType : Ieee80211PhyType → Dot11PhyType
  | .Unknown => Dot11PhyTypeUnknown
  | .B => Dot11PhyTypeB
  | .G => Dot11PhyTypeG
  | .N => Dot11PhyTypeN
  | .A => Dot11PhyTypeA
  | .AC => Dot11PhyTypeAC
  | .AD => Dot11PhyTypeAD
  | .AX => Dot11PhyTypeAX
  | .BE => Dot11PhyTypeBE

-- The bands go out under other names for the same numbers.
def Dot11FrequencyBandTwoPoint4GHz : Dot11FrequencyBand := ⟨1⟩
def Dot11FrequencyBandFiveGHz : Dot11FrequencyBand := ⟨2⟩
def Dot11FrequencyBandSixGHz : Dot11FrequencyBand := ⟨3⟩

def toDot11FrequencyBand : Ieee80211FrequencyBand → Dot11FrequencyBand
  | .TwoPointFourGHz => Dot11FrequencyBandTwoPoint4GHz
  | .FiveGHz => Dot11FrequencyBandFiveGHz
  | .SixGHz => Dot11FrequencyBandSixGHz
  | .Unknown => Dot11FrequencyBandUnknown

def toDot11AuthenticationAlgorithm :
    Ieee80211AuthenticationAlgorithm → Dot11AuthenticationAlgorithm
  | .OpenSystem => Dot11AuthenticationAlgorithmOpenSystem
  | .SharedKey => Dot11AuthenticationAlgorithmSharedKey
  | .FastBssTransition => Dot11AuthenticationAlgorithmFastBssTransition
  | .Sae => Dot11AuthenticationAlgorithmSae
  | .Fils => Dot11AuthenticationAlgorithmFils
  | .FilsPfs => Dot11AuthenticationAlgorithmFilsPfs
  | .FilsPublicKey => Dot11AuthenticationAlgorithmFilsPublicKey
  | .VendorSpecific => Dot11AuthenticationAlgorithmVendorSpecific
  | .Unknown => Dot11AuthenticationAlgorithmUnknown

def toDot11AkmSuite : Ieee80211AkmSuite → Dot11AkmSuite
  | .Reserved0 => Dot11AkmSuiteReserved0
  | .Ieee8021x => Dot11AkmSuite8021x
  | .Psk => Dot11AkmSuitePsk
  | .Ft8021x => Dot11AkmSuiteFt8021x
  | .FtPsk => Dot11AkmSuiteFtPsk
  | .Ieee8021xSha256 => Dot11AkmSuite8021xSha256
  | .PskSha256 => Dot11AkmSuitePskSha256
  | .Tdls => Dot11AkmSuiteTdls
  | .Sae => Dot11AkmSuiteSae
  | .FtSae => Dot11AkmSuiteFtSae
  | .ApPeerKey => Dot11AkmSuiteApPeerKey
  | .Ieee8021xSuiteB => Dot11AkmSuite8021xSuiteB
  | .Ieee8011xSuiteB192 => Dot11AkmSuite8021xSuiteB192
  | .Ft8021xSha384 => Dot11AkmSuiteFt8021xSha384
  | .FilsSha256 => Dot11AkmSuiteFilsSha256
  | .FilsSha384 => Dot11AkmSuiteFilsSha384
  | .FtFilsSha256 => Dot11AkmSuiteFtFilsSha256
  | .FtFilsSha384 => Dot11AkmSuiteFtFilsSha384
  | .Owe => Dot11AkmSuiteOwe
  | .FtPskSha384 => Dot11AkmSuiteFtPskSha384
  | .PskSha384 => Dot11AkmSuitePskSha384
  | .Pasn => Dot11AkmSuitePasn
  | .Unknown => Dot11AkmSuiteUnknown
  | .Other _ => Dot11AkmSuiteUnknown

def Dot11CipherSuiteUnknown : Dot11CipherSuite := ⟨0⟩

def toDot11CipherSuite : Ieee80211CipherSuite → Dot11CipherSuite
  | .BipCmac128 => Dot11CipherSuiteBipCmac128
  | .BipCmac256 => Dot11CipherSuiteBipCmac256
  | .BipGmac128 => Dot11CipherSuiteBipGmac128
  | .BipGmac256 => Dot11CipherSuiteBipGmac256
  | .Ccmp128 => Dot11CipherSuiteCcmp128
  | .Ccmp256 => Dot11CipherSuiteCcmp256
  | .Gcmp128 => Dot11CipherSuiteGcmp128
  | .Gcmp256 => Dot11CipherSuiteGcmp256
  | .GroupAddressesTrafficNotAllowed => Dot11CipherSuiteGroupAddressesTrafficNotAllowed
  | .Tkip => Dot11CipherSuiteTkip
  | .UseGroup => Dot11CipherSuiteUseGroup
  | .Wep104 => Dot11CipherSuiteWep104
  | .Wep40 => Dot11CipherSuiteWep40
  | .Unknown => Dot11CipherSuiteUnknown
  | .Other _ => Dot11CipherSuiteUnknown

-- One entry for each protocol, in the order of the container.
def ieee80211ToDot11CipherSuiteConfigurations
    (traversal : Table.Traversal Ieee80211SecurityProtocol (List Ieee80211CipherSuite))
    (ieee80211CipherSuiteConfigurations : CipherSuites) : List Dot11CipherSuiteConfiguration :=
  (traversal.visit ieee80211CipherSuiteConfigurations).map fun entry =>
    { securityProtocol := toDot11SecurityProtocol entry.1
      cipherSuites := entry.2.map toDot11CipherSuite }

def toDot11MacAddress (ieee80211MacAddress : Ieee80211MacAddress) : Dot11MacAddress :=
  ⟨ieee80211MacAddress.toList⟩

def toDot11RsnaPsk : Ieee80211RsnaPsk → Dot11RsnaPsk
  | .Passphrase pskPassphrase => ⟨some (.Passphrase pskPassphrase)⟩
  | .Value pskValue => ⟨some (.Value ⟨some (.Raw pskValue.toList)⟩)⟩

def toDot11RsnaPassword (ieee80211RsnaPassword : Ieee80211RsnaPassword) : Dot11RsnaPassword where
  credential := ieee80211RsnaPassword.credential
  peerMacAddress := ieee80211RsnaPassword.peerMacAddress.map toDot11MacAddress
  passwordId := ieee80211RsnaPassword.passwordId.getD []

def toDot11AuthenticationDataPsk (ieee80211AuthenticationDataPsk : Ieee80211RsnaPsk) :
    Dot11AuthenticationDataPsk :=
  ⟨some (toDot11RsnaPsk ieee80211AuthenticationDataPsk)⟩

def toDot11AuthenticationDataSae (ieee80211AuthenticationDataSae : List Ieee80211RsnaPassword) :
    Dot11AuthenticationDataSae :=
  ⟨ieee80211AuthenticationDataSae.map toDot11RsnaPassword⟩

def toDot11AuthenticationData (ieee80211AuthenticationData : Ieee80211AuthenticationData) :
    Dot11AuthenticationData where
  psk := ieee80211AuthenticationData.psk.map toDot11AuthenticationDataPsk
  sae := ieee80211AuthenticationData.sae.map toDot11AuthenticationDataSae

section RoundTrip

theorem fromDot11SecurityProtocol_toDot11SecurityProtocol
    (ieee80211SecurityProtocol : Ieee80211SecurityProtocol) :
    fromDot11SecurityProtocol (toDot11SecurityProtocol ieee80211SecurityProtocol) =
      ieee80211SecurityProtocol := by
  cases ieee80211SecurityProtocol <;> decide

theorem fromDot11PhyType_toDot11PhyType (ieee80211PhyType : Ieee80211PhyType) :
    fromDot11PhyType (toDot11PhyType ieee80211PhyType) = ieee80211PhyType := by
  cases ieee80211PhyType <;> decide

theorem toDot11PhyType_ne_unknown {ieee80211PhyType : Ieee80211PhyType}
    (h : ieee80211PhyType ≠ .Unknown) : toDot11PhyType ieee80211PhyType ≠ Dot11PhyTypeUnknown := by
  cases ieee80211PhyType <;> first | exact absurd rfl h | decide

theorem fromDot11FrequencyBand_toDot11FrequencyBand
    (ieee80211FrequencyBand : Ieee80211FrequencyBand) :
    fromDot11FrequencyBand (toDot11FrequencyBand ieee80211FrequencyBand) =
      ieee80211FrequencyBand := by
  cases ieee80211FrequencyBand <;> decide

theorem fromDot11AuthenticationAlgorithm_toDot11AuthenticationAlgorithm
    (ieee80211AuthenticationAlgorithm : Ieee80211AuthenticationAlgorithm) :
    fromDot11AuthenticationAlgorithm
        (toDot11AuthenticationAlgorithm ieee80211AuthenticationAlgorithm) =
      ieee80211AuthenticationAlgorithm := by
  cases ieee80211AuthenticationAlgorithm <;> decide

-- A suite without an enumerator of its own does not come back.
theorem fromDot11AkmSuite_toDot11AkmSuite {ieee80211AkmSuite : Ieee80211AkmSuite}
    (h : ∀ value, ieee80211AkmSuite ≠ .Other value) :
    fromDot11AkmSuite (toDot11AkmSuite ieee80211AkmSuite) = ieee80211AkmSuite := by
  cases ieee80211AkmSuite with
  | Other value => exact absurd rfl (h value)
  | _ => decide

theorem fromDot11CipherSuite_toDot11CipherSuite {ieee80211CipherSuite : Ieee80211CipherSuite}
    (h : ∀ value, ieee80211CipherSuite ≠ .Other value) :
    fromDot11CipherSuite (toDot11CipherSuite ieee80211CipherSuite) = ieee80211CipherSuite := by
  cases ieee80211CipherSuite with
  | Other value => exact absurd rfl (h value)
  | _ => decide

theorem fromDot11MacAddress_toDot11MacAddress (ieee80211MacAddress : Ieee80211MacAddress) :
    fromDot11MacAddress (toDot11MacAddress ieee80211MacAddress) = ieee80211MacAddress := by
  have hlength : MacAddressNumOctets ≤ (toDot11MacAddress ieee80211MacAddress).value.length :=
    ieee80211MacAddress.toList_length.ge
  refine (dif_pos hlength).trans (List.Vector.eq _ _ ?_)
  exact List.take_of_length_le ieee80211MacAddress.toList_length.le

theorem fromDot11RsnaPsk_toDot11RsnaPsk (ieee80211RsnaPsk : Ieee80211RsnaPsk) :
    fromDot11RsnaPsk (toDot11RsnaPsk ieee80211RsnaPsk) = ieee80211RsnaPsk := by
  cases ieee80211RsnaPsk with
  | Passphrase pskPassphrase => rfl
  | Value pskValue =>
      have hlength : Ieee80211RsnaPskLength ≤ pskValue.toList.length :=
        pskValue.toList_length.ge
      simp only [toDot11RsnaPsk, fromDot11RsnaPsk, dif_pos hlength]
      congr 1
      apply List.Vector.eq
      exact List.take_of_length_le pskValue.toList_length.le

-- An empty identifier goes out as none would.
theorem fromDot11RsnaPassword_toDot11RsnaPassword {ieee80211RsnaPassword : Ieee80211RsnaPassword}
    (h : ieee80211RsnaPassword.passwordId ≠ some []) :
    fromDot11RsnaPassword (toDot11RsnaPassword ieee80211RsnaPassword) = ieee80211RsnaPassword := by
  obtain ⟨credential, passwordId, peerMacAddress⟩ := ieee80211RsnaPassword
  have haddress : (peerMacAddress.map toDot11MacAddress).map fromDot11MacAddress =
      peerMacAddress := by
    cases peerMacAddress with
    | none => rfl
    | some address => exact congrArg some (fromDot11MacAddress_toDot11MacAddress address)
  have hid : (if passwordId.getD [] = [] then none else some (passwordId.getD [])) =
      passwordId := by
    cases passwordId with
    | none => rfl
    | some identifier =>
        have hne : identifier ≠ [] := fun hnil => h (congrArg some hnil)
        exact if_neg hne
  simp only [fromDot11RsnaPassword, toDot11RsnaPassword, haddress]
  exact congrArg (Ieee80211RsnaPassword.mk credential · peerMacAddress) hid

theorem fromDot11AuthenticationDataPsk_toDot11AuthenticationDataPsk
    (ieee80211AuthenticationDataPsk : Ieee80211RsnaPsk) :
    fromDot11AuthenticationDataPsk (toDot11AuthenticationDataPsk ieee80211AuthenticationDataPsk) =
      ieee80211AuthenticationDataPsk :=
  fromDot11RsnaPsk_toDot11RsnaPsk ieee80211AuthenticationDataPsk

theorem fromDot11AuthenticationDataSae_toDot11AuthenticationDataSae
    {ieee80211AuthenticationDataSae : List Ieee80211RsnaPassword}
    (h : ∀ password ∈ ieee80211AuthenticationDataSae, password.passwordId ≠ some []) :
    fromDot11AuthenticationDataSae (toDot11AuthenticationDataSae ieee80211AuthenticationDataSae) =
      ieee80211AuthenticationDataSae := by
  unfold fromDot11AuthenticationDataSae toDot11AuthenticationDataSae
  rw [List.map_map]
  have hback : ∀ password ∈ ieee80211AuthenticationDataSae,
      (fromDot11RsnaPassword ∘ toDot11RsnaPassword) password = id password :=
    fun password hmem => fromDot11RsnaPassword_toDot11RsnaPassword (h password hmem)
  rw [List.map_congr_left hback, List.map_id]

-- A part that is there goes out with the message that says so, and an empty list of
-- passwords with a message that has none.
theorem fromDot11AuthenticationData_toDot11AuthenticationData
    {ieee80211AuthenticationData : Ieee80211AuthenticationData}
    (h : ∀ passwords ∈ ieee80211AuthenticationData.sae, ∀ password ∈ passwords,
      password.passwordId ≠ some []) :
    fromDot11AuthenticationData (toDot11AuthenticationData ieee80211AuthenticationData) =
      ieee80211AuthenticationData := by
  obtain ⟨psk, sae⟩ := ieee80211AuthenticationData
  have hpsk : (psk.map toDot11AuthenticationDataPsk).map fromDot11AuthenticationDataPsk = psk := by
    cases psk with
    | none => rfl
    | some dataPsk =>
        exact congrArg some (fromDot11AuthenticationDataPsk_toDot11AuthenticationDataPsk dataPsk)
  have hsae : (sae.map toDot11AuthenticationDataSae).map fromDot11AuthenticationDataSae = sae := by
    cases sae with
    | none => rfl
    | some dataSae =>
        have hpasswords := h dataSae rfl
        exact congrArg some (fromDot11AuthenticationDataSae_toDot11AuthenticationDataSae hpasswords)
  rw [fromDot11AuthenticationData, toDot11AuthenticationData, hpsk, hsae]

-- A key of bytes, and passwords with and without what is optional.
theorem fromDot11AuthenticationData_toDot11AuthenticationData_valueAndPasswords :
    fromDot11AuthenticationData (toDot11AuthenticationData {
        psk := some (.Value (List.Vector.replicate 32 7))
        sae := some [{ credential := str "first", passwordId := some (str "id") },
          { credential := str "second", peerMacAddress := some (List.Vector.replicate 6 2) }] }) =
      { psk := some (.Value (List.Vector.replicate 32 7))
        sae := some [{ credential := str "first", passwordId := some (str "id") },
          { credential := str "second", peerMacAddress := some (List.Vector.replicate 6 2) }] } :=
  fromDot11AuthenticationData_toDot11AuthenticationData (by decide)

end RoundTrip

end NetRemote.Service
