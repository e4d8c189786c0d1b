import NetRemote.Service.NetRemoteService.AuthenticationDot1x
import NetRemote.Service.NetRemoteService.ItemRuns

namespace NetRemote.Service.NetRemoteService.Validation

open Foundation Foundation.Bytes Api Wifi Wpa

-- The requests that change one part of the configuration.
inductive Request where
  | SetPhyType (dot11PhyType : Dot11PhyType)
  | SetFrequencyBands (dot11FrequencyBands : List Dot11FrequencyBand)
  | SetNetworkBridge (networkBridgeId : ByteString)
  | SetAuthenticationAlgorithms (dot11AuthenticationAlgorithms : List Dot11AuthenticationAlgorithm)
  | SetAuthenticationData (dot11AuthenticationData : Dot11AuthenticationData)
  | SetAkmSuites (dot11AkmSuites : List Dot11AkmSuite)
  | SetPairwiseCipherSuites
      (dot11PairwiseCipherSuites : Table Dot11SecurityProtocol (List Dot11CipherSuite))
  | SetSsid (dot11Ssid : Dot11Ssid)
  | SetAuthenticationDot1x (dot11AuthenticationDot1x : Dot11AuthenticationDot1x)

section Requests

variable (platform : Platform) (accessPointId : ByteString)

def Request.call {E : Environment} (accessPointManager : IAccessPointManager E)
    (accessPointController : Option (IAccessPointController E)) :
    Request → Program E Fault WifiAccessPointOperationStatus
  | .SetPhyType dot11PhyType =>
      wifiAccessPointSetPhyTypeImpl accessPointManager accessPointId accessPointController
        dot11PhyType
  | .SetFrequencyBands dot11FrequencyBands =>
      wifiAccessPointSetFrequencyBandsImpl accessPointManager accessPointId accessPointController
        dot11FrequencyBands
  | .SetNetworkBridge networkBridgeId =>
      wifiAccessPointSetNetworkBridgeImpl accessPointManager accessPointId accessPointController
        networkBridgeId
  | .SetAuthenticationAlgorithms dot11AuthenticationAlgorithms =>
      wifiAccessPointSetAuthenticationAlgorithmsImpl accessPointManager accessPointId
        accessPointController dot11AuthenticationAlgorithms
  | .SetAuthenticationData dot11AuthenticationData =>
      wifiAccessPointSetAuthenticationDataImpl accessPointManager accessPointId
        accessPointController dot11AuthenticationData
  | .SetAkmSuites dot11AkmSuites =>
      wifiAccessPointSetAkmSuitesImpl accessPointManager accessPointId accessPointController
        dot11AkmSuites
  | .SetPairwiseCipherSuites dot11PairwiseCipherSuites =>
      wifiAccessPointSetPairwiseCipherSuitesImpl platform accessPointManager accessPointId
        accessPointController dot11PairwiseCipherSuites
  | .SetSsid dot11Ssid =>
      wifiAccessPointSetSsidImpl accessPointManager accessPointId accessPointController dot11Ssid
  | .SetAuthenticationDot1x dot11AuthenticationDot1x =>
      wifiAccessPointSetAuthenticationDot1xImpl accessPointManager accessPointId
        accessPointController dot11AuthenticationDot1x

-- The operation of the controller that belongs to the request.
def Request.setter : Request → ControllerRequest
  | .SetPhyType dot11PhyType => .SetPhyType (fromDot11PhyType dot11PhyType)
  | .SetFrequencyBands dot11FrequencyBands =>
      .SetFrequencyBands (dot11FrequencyBands.map fromDot11FrequencyBand)
  | .SetNetworkBridge networkBridgeId => .SetNetworkBridge networkBridgeId
  | .SetAuthenticationAlgorithms dot11AuthenticationAlgorithms =>
      .SetAuthenticationAlgorithms
        (dot11AuthenticationAlgorithms.map fromDot11AuthenticationAlgorithm)
  | .SetAuthenticationData dot11AuthenticationData =>
      .SetAuthenticationData (fromDot11AuthenticationData dot11AuthenticationData)
  | .SetAkmSuites dot11AkmSuites => .SetAkmSuites (dot11AkmSuites.map fromDot11AkmSuite)
  | .SetPairwiseCipherSuites dot11PairwiseCipherSuites =>
      .SetPairwiseCipherSuites (fromDot11CipherSuiteConfigurations platform.dot11CipherSuites
        dot11PairwiseCipherSuites)
  | .SetSsid dot11Ssid => .SetSsid (dot11Ssid.value.elim [] ssidText)
  | .SetAuthenticationDot1x dot11AuthenticationDot1x =>
      .SetRadiusConfiguration
        (fromServiceDot1xRadiusConfiguration (dot11AuthenticationDot1x.radius.getD {}))

-- A key that is missing, or of a size that is not allowed.
def InvalidPsk (psk : Dot11RsnaPsk) : Prop :=
  match psk.data with
  | none => True
  | some (.Passphrase pskPassphrase) =>
      pskPassphrase.length < Ieee80211RsnaPskPassphraseLengthMinimum ∨
        Ieee80211RsnaPskPassphraseLengthMaximum < pskPassphrase.length
  | some (.Value pskValue) =>
      match pskValue.data with
      | none => True
      | some (.Hex pskHex) => pskHex.length ≠ Ieee80211RsnaPskLength * 2
      | some (.Raw pskRaw) => pskRaw.length ≠ Ieee80211RsnaPskLength

-- The checks that come before a controller is looked for.
def Request.InvalidAtOnce : Request → Prop
  | .SetPhyType dot11PhyType => dot11PhyType = Dot11PhyTypeUnknown
  | .SetFrequencyBands dot11FrequencyBands =>
      dot11FrequencyBands = [] ∨ Dot11FrequencyBandUnknown ∈ dot11FrequencyBands
  | .SetNetworkBridge _ => False
  | .SetAuthenticationAlgorithms dot11AuthenticationAlgorithms =>
      dot11AuthenticationAlgorithms = [] ∨
        Dot11AuthenticationAlgorithmUnknown ∈ dot11AuthenticationAlgorithms
  | .SetAuthenticationData dot11AuthenticationData =>
      (dot11AuthenticationData.psk = none ∧ dot11AuthenticationData.sae = none) ∨
        (∃ dataPsk ∈ dot11AuthenticationData.psk, ∀ psk ∈ dataPsk.psk, InvalidPsk psk) ∨
        ∃ dataSae ∈ dot11AuthenticationData.sae, dataSae.passwords = []
  | .SetAkmSuites dot11AkmSuites => dot11AkmSuites = [] ∨ Dot11AkmSuiteUnknown ∈ dot11AkmSuites
  | .SetPairwiseCipherSuites dot11PairwiseCipherSuites =>
      dot11PairwiseCipherSuites = ∅ ∨ Dot11SecurityProtocolUnknown ∈ dot11PairwiseCipherSuites
  | .SetSsid dot11Ssid => dot11Ssid.value = none
  | .SetAuthenticationDot1x dot11AuthenticationDot1x => dot11AuthenticationDot1x.radius = none

-- The checks of the parameters that wait until there is a controller.
def Request.InvalidWithController : Request → Prop
  | .SetAuthenticationAlgorithms dot11AuthenticationAlgorithms =>
      ∃ algorithm ∈ dot11AuthenticationAlgorithms,
        fromDot11AuthenticationAlgorithm algorithm = .Unknown
  | .SetAkmSuites dot11AkmSuites => ∃ suite ∈ dot11AkmSuites, fromDot11AkmSuite suite = .Unknown
  | .SetPairwiseCipherSuites dot11PairwiseCipherSuites =>
      Ieee80211SecurityProtocol.Unknown ∈ fromDot11CipherSuiteConfigurations
        platform.dot11CipherSuites dot11PairwiseCipherSuites
  | .SetAuthenticationDot1x dot11AuthenticationDot1x =>
      ∃ radius ∈ dot11AuthenticationDot1x.radius, radius.authenticationServer = none ∨
        ∃ server ∈ AuthenticationDot1x.servers radius,
          server.address = [] ∨ server.sharedSecret = []
  | _ => False

def Request.Invalid (request : Request) : Prop :=
  request.InvalidAtOnce ∨ request.InvalidWithController platform

-- The checks against the capabilities, which two of the requests make.
def Request.ConsultsCapabilities : Request → Prop
  | .SetPhyType _ => True
  | .SetFrequencyBands _ => True
  | _ => False

def Request.Unsupported (accessPointCapabilities : Ieee80211AccessPointCapabilities) :
    Request → Prop
  | .SetPhyType dot11PhyType =>
      fromDot11PhyType dot11PhyType ∉ accessPointCapabilities.phyTypes
  | .SetFrequencyBands dot11FrequencyBands =>
      ∃ band ∈ dot11FrequencyBands,
        fromDot11FrequencyBand band ∉ accessPointCapabilities.frequencyBands
  | _ => False

def networkBridgeItem (networkBridgeId : ByteString) : Item where
  request := .SetNetworkBridge networkBridgeId
  what := str "Failed to set network bridge"

def Request.item : Request → Item
  | .SetPhyType dot11PhyType => phyTypeItem accessPointId dot11PhyType
  | .SetFrequencyBands dot11FrequencyBands => frequencyBandsItem accessPointId dot11FrequencyBands
  | .SetNetworkBridge networkBridgeId => networkBridgeItem networkBridgeId
  | .SetAuthenticationAlgorithms dot11AuthenticationAlgorithms =>
      authenticationAlgorithmsItem dot11AuthenticationAlgorithms
  | .SetAuthenticationData dot11AuthenticationData => authenticationDataItem dot11AuthenticationData
  | .SetAkmSuites dot11AkmSuites => akmSuitesItem dot11AkmSuites
  | .SetPairwiseCipherSuites dot11PairwiseCipherSuites =>
      pairwiseCipherSuitesItem platform dot11PairwiseCipherSuites
  | .SetSsid dot11Ssid => ssidItem dot11Ssid
  | .SetAuthenticationDot1x dot11AuthenticationDot1x =>
      authenticationDot1xItem dot11AuthenticationDot1x

theorem Request.call_eq {accessPointManager : IAccessPointManager Controller}
    {accessPointController : Option (IAccessPointController Controller)}
    (h : Reaches accessPointManager accessPointId accessPointController requested)
    (request : Request) :
    request.call platform accessPointId accessPointManager accessPointController =
      (request.item platform accessPointId).program accessPointId := by
  cases request with
  | SetPhyType dot11PhyType => exact wifiAccessPointSetPhyTypeImpl_eq h dot11PhyType
  | SetFrequencyBands dot11FrequencyBands =>
      exact wifiAccessPointSetFrequencyBandsImpl_eq h dot11FrequencyBands
  | SetNetworkBridge networkBridgeId => exact withAccessPointController_reaches h _ _
  | SetAuthenticationAlgorithms dot11AuthenticationAlgorithms =>
      exact wifiAccessPointSetAuthenticationAlgorithmsImpl_eq h dot11AuthenticationAlgorithms
  | SetAuthenticationData dot11AuthenticationData =>
      exact wifiAccessPointSetAuthenticationDataImpl_eq h dot11AuthenticationData
  | SetAkmSuites dot11AkmSuites => exact wifiAccessPointSetAkmSuitesImpl_eq h dot11AkmSuites
  | SetPairwiseCipherSuites dot11PairwiseCipherSuites =>
      exact wifiAccessPointSetPairwiseCipherSuitesImpl_eq h dot11PairwiseCipherSuites
  | SetSsid dot11Ssid => exact wifiAccessPointSetSsidImpl_eq h dot11Ssid
  | SetAuthenticationDot1x dot11AuthenticationDot1x =>
      exact wifiAccessPointSetAuthenticationDot1xImpl_eq h dot11AuthenticationDot1x

theorem Request.request_item (request : Request) :
    (request.item platform accessPointId).request = request.setter platform := by
  cases request <;> rfl

theorem validatePsk_iff (psk : Dot11RsnaPsk) : validatePsk psk = none ↔ ¬ InvalidPsk psk := by
  unfold validatePsk InvalidPsk
  cases psk.data with
  | none => simp
  | some data =>
      cases data with
      | Passphrase pskPassphrase =>
          by_cases hempty : pskPassphrase = []
          · simp [hempty, Ieee80211RsnaPskPassphraseLengthMinimum]
          · simp [hempty]
      | Value pskValue =>
          obtain ⟨data⟩ := pskValue
          cases data with
          | none => simp
          | some data => cases data <;> simp

theorem validateAuthenticationData_iff (dot11AuthenticationData : Dot11AuthenticationData) :
    validateAuthenticationData dot11AuthenticationData = none ↔
      ¬ (Request.SetAuthenticationData dot11AuthenticationData).InvalidAtOnce := by
  obtain ⟨psk, sae⟩ := dot11AuthenticationData
  unfold validateAuthenticationData Request.InvalidAtOnce
  cases psk with
  | none => cases sae <;> simp
  | some dataPsk =>
      obtain ⟨psk⟩ := dataPsk
      cases psk with
      | none => simp
      | some psk => cases sae <;> simp [validatePsk_iff]

private theorem twoChecks_iff {first second : Prop} [Decidable first] [Decidable second]
    {message other : ByteString} :
    (if first then some message else if second then some other else none) = none ↔
      ¬ (first ∨ second) := by
  split_ifs <;> simp_all

theorem Request.refused_iff (request : Request) :
    (request.item platform accessPointId).refused = none ↔ ¬ request.Invalid platform := by
  cases request with
  | SetPhyType dot11PhyType =>
      simp [item, phyTypeItem, Invalid, InvalidAtOnce, InvalidWithController]
  | SetFrequencyBands dot11FrequencyBands =>
      refine twoChecks_iff.trans (not_congr ?_)
      simp [Invalid, InvalidAtOnce, InvalidWithController]
  | SetNetworkBridge networkBridgeId =>
      simp [item, networkBridgeItem, Invalid, InvalidAtOnce, InvalidWithController]
  | SetAuthenticationAlgorithms dot11AuthenticationAlgorithms =>
      refine twoChecks_iff.trans (not_congr ?_)
      simp [Invalid, InvalidAtOnce, InvalidWithController, or_assoc]
  | SetAuthenticationData dot11AuthenticationData =>
      refine (validateAuthenticationData_iff dot11AuthenticationData).trans (not_congr ?_)
      simp [Invalid, InvalidWithController]
  | SetAkmSuites dot11AkmSuites =>
      refine twoChecks_iff.trans (not_congr ?_)
      simp [Invalid, InvalidAtOnce, InvalidWithController, or_assoc]
  | SetPairwiseCipherSuites dot11PairwiseCipherSuites =>
      refine twoChecks_iff.trans (not_congr ?_)
      simp [Invalid, InvalidAtOnce, InvalidWithController, or_assoc]
  | SetSsid dot11Ssid =>
      simp [item, ssidItem, Invalid, InvalidAtOnce, InvalidWithController]
  | SetAuthenticationDot1x dot11AuthenticationDot1x =>
      obtain ⟨radius⟩ := dot11AuthenticationDot1x
      cases radius with
      | none => simp [item, authenticationDot1xItem, Invalid, InvalidAtOnce]
      | some radius =>
          refine AuthenticationDot1x.validateDot1xRadiusConfiguration_iff.trans ?_
          simp [Invalid, InvalidAtOnce, InvalidWithController, Option.isSome_iff_ne_none]

theorem Request.unsupported_iff {request : Request}
    {unsupported : Ieee80211AccessPointCapabilities → Option ByteString}
    (h : (request.item platform accessPointId).unsupported = some unsupported) :
    request.ConsultsCapabilities ∧ ∀ accessPointCapabilities,
      unsupported accessPointCapabilities = none ↔
        ¬ request.Unsupported accessPointCapabilities := by
  cases request with
  | SetPhyType dot11PhyType =>
      obtain rfl := Option.some.inj h
      exact ⟨trivial, fun accessPointCapabilities => by simp [Unsupported]⟩
  | SetFrequencyBands dot11FrequencyBands =>
      obtain rfl := Option.some.inj h
      exact ⟨trivial, fun accessPointCapabilities => by simp [Unsupported]⟩
  | _ => cases h

theorem Request.unsupported_none {request : Request}
    (h : (request.item platform accessPointId).unsupported = none) :
    ¬ request.ConsultsCapabilities ∧ ∀ accessPointCapabilities,
      ¬ request.Unsupported accessPointCapabilities := by
  cases request with
  | SetPhyType dot11PhyType => cases h
  | SetFrequencyBands dot11FrequencyBands => cases h
  | _ => exact ⟨not_false, fun _ => not_false⟩

-- A call is refused at once, or it goes on to look for a controller.
def Guarded {E : Environment} (accessPointManager : IAccessPointManager E)
    (accessPointController : Option (IAccessPointController E)) (invalid : Prop)
    (call : Program E Fault WifiAccessPointOperationStatus) : Prop :=
  (invalid ∧ ∃ message, call = .Return (failed .InvalidParameter message)) ∨
    (¬ invalid ∧ ∃ message next, call =
      withAccessPointController accessPointManager accessPointId accessPointController message next)

section Guards

variable {E : Environment} {accessPointManager : IAccessPointManager E}
  {accessPointController : Option (IAccessPointController E)} {accessPointId : ByteString}
  {message other : ByteString} {reason : AccessPointOperationStatus → ByteString}
  {next : IAccessPointController E → Program E Fault WifiAccessPointOperationStatus}

theorem guarded_check {check invalid : Prop} [Decidable check] (h : invalid ↔ check) :
    Guarded accessPointId accessPointManager accessPointController invalid
      (if check then .Return (failed .InvalidParameter message)
      else withAccessPointController accessPointManager accessPointId accessPointController
        reason next) := by
  unfold Guarded
  rw [h]
  by_cases hcheck : check
  · exact .inl ⟨hcheck, message, if_pos hcheck⟩
  · exact .inr ⟨hcheck, reason, next, if_neg hcheck⟩

theorem guarded_twoChecks {first second invalid : Prop} [Decidable first] [Decidable second]
    (h : invalid ↔ first ∨ second) :
    Guarded accessPointId accessPointManager accessPointController invalid
      (if first then .Return (failed .InvalidParameter message)
      else if second then .Return (failed .InvalidParameter other)
      else withAccessPointController accessPointManager accessPointId accessPointController
        reason next) := by
  unfold Guarded
  rw [h]
  by_cases hfirst : first
  · exact .inl ⟨.inl hfirst, message, if_pos hfirst⟩
  · rw [if_neg hfirst]
    by_cases hsecond : second
    · exact .inl ⟨.inr hsecond, other, if_pos hsecond⟩
    · exact .inr ⟨not_or.mpr ⟨hfirst, hsecond⟩, reason, next, if_neg hsecond⟩

end Guards

theorem Request.call_guarded {E : Environment} (accessPointManager : IAccessPointManager E)
    (accessPointController : Option (IAccessPointController E)) (request : Request) :
    Guarded accessPointId accessPointManager accessPointController request.InvalidAtOnce
      (request.call platform accessPointId accessPointManager accessPointController) := by
  cases request with
  | SetPhyType dot11PhyType => exact guarded_check Iff.rfl
  | SetFrequencyBands dot11FrequencyBands =>
      exact guarded_twoChecks (by simp [InvalidAtOnce])
  | SetNetworkBridge networkBridgeId => exact .inr ⟨not_false, _, _, rfl⟩
  | SetAuthenticationAlgorithms dot11AuthenticationAlgorithms =>
      exact guarded_twoChecks (by simp [InvalidAtOnce])
  | SetAuthenticationData dot11AuthenticationData =>
      have hvalid := validateAuthenticationData_iff dot11AuthenticationData
      simp only [call, wifiAccessPointSetAuthenticationDataImpl]
      cases hvalidated : validateAuthenticationData dot11AuthenticationData with
      | none => exact .inr ⟨hvalid.mp hvalidated, _, _, rfl⟩
      | some message =>
          refine .inl ⟨?_, message, rfl⟩
          by_contra hinvalid
          simp [hvalid.mpr hinvalid] at hvalidated
  | SetAkmSuites dot11AkmSuites => exact guarded_twoChecks (by simp [InvalidAtOnce])
  | SetPairwiseCipherSuites dot11PairwiseCipherSuites => exact guarded_twoChecks Iff.rfl
  | SetSsid dot11Ssid =>
      obtain ⟨value⟩ := dot11Ssid
      cases value with
      | none => exact .inl ⟨rfl, _, rfl⟩
      | some value => exact .inr ⟨nofun, _, _, rfl⟩
  | SetAuthenticationDot1x dot11AuthenticationDot1x =>
      obtain ⟨radius⟩ := dot11AuthenticationDot1x
      cases radius with
      | none => exact .inl ⟨rfl, _, rfl⟩
      | some radius => exact .inr ⟨nofun, _, _, rfl⟩

end Requests

-- The capabilities that the controller has reported.
def Obtained (trace : List Controller.Exchange)
    (accessPointCapabilities : Ieee80211AccessPointCapabilities) : Prop :=
  ∃ (operationStatus : AccessPointOperationStatus)
    (answered : Option Ieee80211AccessPointCapabilities),
    (⟨.GetCapabilities, (operationStatus, answered)⟩ : Controller.Exchange) ∈ trace ∧
      operationStatus.succeeded = true ∧ answered.getD {} = accessPointCapabilities

-- The exchanges that are not questions.
def effects (trace : List Controller.Exchange) : List Controller.Exchange :=
  trace.filter fun exchange => !exchange.1.isQuery

def ReturnsCode (outcome : Except Fault WifiAccessPointOperationStatus)
    (code : WifiAccessPointOperationStatusCode) : Prop :=
  ∃ status, outcome = .ok status ∧ status.code = code

structure ValidatesFirst (platform : Platform) (reached : Prop) (request : Request)
    (trace : List Controller.Exchange) (outcome : Except Fault WifiAccessPointOperationStatus) :
    Prop where
  atOnce : request.InvalidAtOnce → trace = [] ∧ ReturnsCode outcome .InvalidParameter
  unreached : ¬ reached → trace = []
  invalid : reached → request.Invalid platform →
    trace = [] ∧ ReturnsCode outcome .InvalidParameter
  unsupported : reached → ¬ request.Invalid platform → ∀ accessPointCapabilities,
    Obtained trace accessPointCapabilities → request.Unsupported accessPointCapabilities →
      effects trace = [] ∧ ReturnsCode outcome .OperationNotSupported
  unanswered : request.ConsultsCapabilities →
    (∀ accessPointCapabilities, ¬ Obtained trace accessPointCapabilities) → effects trace = []
  set : reached → ¬ request.Invalid platform →
    (request.ConsultsCapabilities → ∃ accessPointCapabilities,
      Obtained trace accessPointCapabilities ∧ ¬ request.Unsupported accessPointCapabilities) →
    ∃ exchange status, effects trace = [exchange] ∧ exchange.1 = request.setter platform ∧
      outcome = .ok status ∧ (Succeeds status ↔ exchange.2.1.succeeded = true)

section Runs

variable {platform : Platform} {accessPointId : ByteString} {request : Request}
  {trace : List Controller.Exchange} {status : WifiAccessPointOperationStatus}
  {accessPointCapabilities : Ieee80211AccessPointCapabilities}

-- What comes after the question does not answer it.
theorem obtained_cons {operationStatus : AccessPointOperationStatus}
    {answered : Option Ieee80211AccessPointCapabilities} {rest : List Controller.Exchange}
    (hrest : ∀ exchange ∈ rest, exchange.1 ≠ .GetCapabilities) :
    Obtained (⟨.GetCapabilities, (operationStatus, answered)⟩ :: rest) accessPointCapabilities ↔
      operationStatus.succeeded = true ∧ answered.getD {} = accessPointCapabilities := by
  constructor
  · rintro ⟨_, _, hmem, hsucceeded, hanswered⟩
    rcases List.mem_cons.mp hmem with heq | hmem
    · cases heq
      exact ⟨hsucceeded, hanswered⟩
    · exact absurd rfl (hrest _ hmem)
  · rintro ⟨hsucceeded, hanswered⟩
    exact ⟨operationStatus, answered, List.mem_cons_self, hsucceeded, hanswered⟩

theorem obtained_singleton {operationStatus : AccessPointOperationStatus}
    {answered : Option Ieee80211AccessPointCapabilities} :
    Obtained [⟨.GetCapabilities, (operationStatus, answered)⟩] accessPointCapabilities ↔
      operationStatus.succeeded = true ∧ answered.getD {} = accessPointCapabilities :=
  obtained_cons (List.forall_mem_nil _)

theorem item_request_isQuery (request : Request) :
    (request.item platform accessPointId).request.isQuery = false := by
  cases request <;> rfl

theorem validatesFirst_of_unreached
    {outcome : Except Fault WifiAccessPointOperationStatus}
    (hatOnce : request.InvalidAtOnce → ReturnsCode outcome .InvalidParameter) :
    ValidatesFirst platform False request [] outcome where
  atOnce h := ⟨rfl, hatOnce h⟩
  unreached _ := rfl
  invalid h := h.elim
  unsupported h := h.elim
  unanswered _ _ := rfl
  set h := h.elim

-- What remains to be shown once the parameters are in order.
theorem validatesFirst_of_valid (hvalid : ¬ request.Invalid platform)
    (hunsupported : ∀ accessPointCapabilities, Obtained trace accessPointCapabilities →
      request.Unsupported accessPointCapabilities →
        effects trace = [] ∧ status.code = .OperationNotSupported)
    (hunanswered : request.ConsultsCapabilities →
      (∀ accessPointCapabilities, ¬ Obtained trace accessPointCapabilities) → effects trace = [])
    (hset : (request.ConsultsCapabilities → ∃ accessPointCapabilities,
      Obtained trace accessPointCapabilities ∧ ¬ request.Unsupported accessPointCapabilities) →
      ∃ exchange, effects trace = [exchange] ∧ exchange.1 = request.setter platform ∧
        (Succeeds status ↔ exchange.2.1.succeeded = true)) :
    ValidatesFirst platform True request trace (.ok status) where
  atOnce h := absurd (.inl h) hvalid
  unreached h := absurd trivial h
  invalid _ h := absurd h hvalid
  unsupported _ _ accessPointCapabilities hobtained h :=
    have ⟨heffects, hcode⟩ := hunsupported accessPointCapabilities hobtained h
    ⟨heffects, status, rfl, hcode⟩
  unanswered := hunanswered
  set _ _ h :=
    have ⟨exchange, heffects, hsetter, hsucceeds⟩ := hset h
    ⟨exchange, status, heffects, hsetter, rfl, hsucceeds⟩

theorem validatesFirst_of_itemRun
    (hrun : ItemRun accessPointId (request.item platform accessPointId) trace status) :
    ValidatesFirst platform True request trace (.ok status) := by
  have hvalid := request.refused_iff platform accessPointId
  have hquery : (request.item platform accessPointId).request.isQuery = false :=
    item_request_isQuery request
  cases hrun with
  | Refused hrefused =>
      have hinvalid : request.Invalid platform := by
        by_contra h
        simp [hvalid.mpr h] at hrefused
      exact ⟨fun _ => ⟨rfl, _, rfl, rfl⟩, fun h => absurd trivial h, fun _ _ => ⟨rfl, _, rfl, rfl⟩,
        fun _ h => absurd hinvalid h, fun _ _ => rfl, fun _ h => absurd hinvalid h⟩
  | Unanswered hrefused hunsupported hfailed =>
      obtain ⟨hconsults, -⟩ := request.unsupported_iff platform accessPointId hunsupported
      refine validatesFirst_of_valid (hvalid.mp hrefused)
        (fun _ h => ?_) (fun _ _ => rfl) fun h => ?_
      · have hsucceeded := (obtained_singleton.mp h).1
        simp [hfailed] at hsucceeded
      · obtain ⟨_, hobtained, -⟩ := h hconsults
        have hsucceeded := (obtained_singleton.mp hobtained).1
        simp [hfailed] at hsucceeded
  | Unsupported hrefused hunsupported hanswered hmessage =>
      obtain ⟨hconsults, hchecked⟩ := request.unsupported_iff platform accessPointId hunsupported
      refine validatesFirst_of_valid (hvalid.mp hrefused)
        (fun _ _ _ => ⟨rfl, rfl⟩) (fun _ _ => rfl) fun h => ?_
      obtain ⟨_, hobtained, hsupported⟩ := h hconsults
      obtain ⟨-, rfl⟩ := obtained_singleton.mp hobtained
      rw [(hchecked _).mpr hsupported] at hmessage
      cases hmessage
  | Unchecked reply hrefused hunsupported =>
      obtain ⟨hconsults, hnone⟩ := request.unsupported_none platform accessPointId hunsupported
      refine validatesFirst_of_valid (hvalid.mp hrefused)
        (fun _ _ h => absurd h (hnone _)) (fun h => absurd h hconsults) fun _ => ?_
      exact ⟨⟨_, reply⟩, by simp [effects, hquery], request.request_item platform accessPointId,
        by simp [Succeeds, settle_code, AccessPointOperationStatus.succeeded]⟩
  | Checked reply hrefused hunsupported hanswered hsupported =>
      obtain ⟨hconsults, hchecked⟩ := request.unsupported_iff platform accessPointId hunsupported
      have hafter : ∀ exchange ∈
          [(⟨_, reply⟩ : Controller.Exchange)], exchange.1 ≠ .GetCapabilities := by
        refine List.forall_mem_singleton.mpr fun hquestion => ?_
        rw [show (request.item platform accessPointId).request = .GetCapabilities from hquestion]
          at hquery
        cases hquery
      have hquestion : ControllerRequest.GetCapabilities.isQuery = true := rfl
      refine validatesFirst_of_valid (hvalid.mp hrefused)
        (fun _ h hnot => ?_) (fun _ h => ?_) fun _ => ?_
      · obtain ⟨-, rfl⟩ := (obtained_cons hafter).mp h
        exact absurd hnot ((hchecked _).mp hsupported)
      · exact absurd ((obtained_cons hafter).mpr ⟨hanswered, rfl⟩) (h _)
      · exact ⟨⟨_, reply⟩, by simp [effects, hquery, hquestion],
          request.request_item platform accessPointId,
          by simp [Succeeds, settle_code, AccessPointOperationStatus.succeeded]⟩

end Runs

-- The controller answers in any way, and the requests come with it or without.
theorem call_validatesFirst (platform : Platform)
    (accessPointManager : IAccessPointManager Controller) (accessPointId : ByteString)
    (accessPointController : Option (IAccessPointController Controller))
    (hfinds : Finds accessPointManager accessPointId accessPointController requested)
    (request : Request) (trace : List Controller.Exchange)
    (outcome : Except Fault WifiAccessPointOperationStatus)
    (hruns : (request.call platform accessPointId accessPointManager accessPointController).Runs
      trace outcome) :
    ValidatesFirst platform
      (Reaches accessPointManager accessPointId accessPointController requested) request trace
      outcome := by
  by_cases hreaches :
      Reaches accessPointManager accessPointId accessPointController requested
  · rw [request.call_eq platform accessPointId hreaches] at hruns
    obtain ⟨status, rfl, hitem⟩ := itemRun_of_runs hruns
    rw [eq_true hreaches]
    exact validatesFirst_of_itemRun hitem
  · rw [eq_false hreaches]
    rcases request.call_guarded platform accessPointId accessPointManager accessPointController with
      ⟨-, message, hcall⟩ | ⟨hvalid, message, next, hcall⟩
    · rw [hcall] at hruns
      cases hruns
      exact validatesFirst_of_unreached fun _ => ⟨_, rfl, rfl⟩
    · rw [hcall] at hruns
      rcases runs_withAccessPointController hfinds hruns with ⟨hreached, -⟩ | ⟨rfl, -⟩
      · exact absurd hreached hreaches
      · exact validatesFirst_of_unreached fun h => absurd h hvalid

-- The second band is not among those that the controller reports.
def setTwoBands : Request :=
  .SetFrequencyBands [Dot11FrequencyBand5_0GHz, Dot11FrequencyBand6_0GHz]

def callTwoBands : Program Controller Fault WifiAccessPointOperationStatus :=
  setTwoBands.call ⟨default, default⟩ (str "wlan0") ⟨fun _ => none⟩ (some requested)

theorem call_validatesFirst_two_bands :
    ValidatesFirst ⟨default, default⟩
        (Reaches ⟨fun _ => none⟩ (str "wlan0") (some requested) requested) setTwoBands
        (callTwoBands.run (granting { frequencyBands := [.FiveGHz] }) []).1
        (callTwoBands.run (granting { frequencyBands := [.FiveGHz] }) []).2 ∧
      ReturnsCode (callTwoBands.run (granting { frequencyBands := [.FiveGHz] }) []).2
        .OperationNotSupported :=
  ⟨call_validatesFirst ⟨default, default⟩ ⟨fun _ => none⟩ (str "wlan0") (some requested) rfl
    setTwoBands _ _
    (Program.runs_run (granting { frequencyBands := [.FiveGHz] }) callTwoBands), _, rfl, rfl⟩

end NetRemote.Service.NetRemoteService.Validation
