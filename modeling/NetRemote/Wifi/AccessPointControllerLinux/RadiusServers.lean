import NetRemote.Wifi.AccessPointControllerLinux.Calls
import Mathlib.Data.List.ModifyLast

namespace NetRemote.Wifi.AccessPointControllerLinux

open Foundation Foundation.Bytes Wpa Wpa.Hostapd

-- A server as hostapd keeps it. The default of a port depends on the role alone.
structure RadiusServer where
  address : ByteString
  port : Option ByteString := none
  sharedSecret : ByteString := []
  deriving DecidableEq, Repr

structure RadiusServers where
  authentication : List RadiusServer := []
  accounting : List RadiusServer := []
  deriving DecidableEq, Repr

-- An address adds a server, and what is set after it is about that server.
def amend (names : ByteString × ByteString × ByteString) (servers : List RadiusServer)
    (setting : Setting) : List RadiusServer :=
  if setting.1 = names.1 then servers ++ [{ address := setting.2 }]
  else if setting.1 = names.2.1 then
    servers.modifyLast fun server => { server with port := some setting.2 }
  else if setting.1 = names.2.2 then
    servers.modifyLast fun server => { server with sharedSecret := setting.2 }
  else servers

def RadiusServers.set (servers : RadiusServers) (setting : Setting) : RadiusServers where
  authentication :=
    amend (getRadiusEndpointPropertyNames .Authentication) servers.authentication setting
  accounting := amend (getRadiusEndpointPropertyNames .Accounting) servers.accounting setting

def radiusServerOf (endpoint : RadiusEndpointConfiguration) : RadiusServer where
  address := endpoint.address
  port := endpoint.port.map fun port => decimal port.toNat
  sharedSecret := endpoint.sharedSecret

def serversOf (role : RadiusEndpointType) (endpoints : List RadiusEndpointConfiguration) :
    List RadiusServer :=
  (endpoints.filter fun endpoint => endpoint.type = role).map radiusServerOf

-- The servers of one configuration, each in the role that it names.
def requestedServers (radiusConfiguration : Ieee8021xRadiusConfiguration) : RadiusServers where
  authentication := serversOf .Authentication (radiusEndpointConfigurations radiusConfiguration)
  accounting := serversOf .Accounting (radiusEndpointConfigurations radiusConfiguration)

section Set

-- The names of the properties of a server are different.
structure Distinct (names : ByteString × ByteString × ByteString) : Prop where
  port : names.2.1 ≠ names.1
  sharedSecret : names.2.2 ≠ names.1
  portSecret : names.2.2 ≠ names.2.1

theorem foldl_amend {names : ByteString × ByteString × ByteString} (hnames : Distinct names)
    (servers : List RadiusServer) (address sharedSecret : ByteString) (port : Option ByteString) :
    ([(names.1, address), (names.2.2, sharedSecret)] ++
        port.toList.map fun port => (names.2.1, port)).foldl (amend names) servers =
      servers ++ [⟨address, port, sharedSecret⟩] := by
  cases port with
  | none =>
      simp [amend, hnames.sharedSecret, hnames.portSecret, List.modifyLast_concat]
  | some port =>
      simp [amend, hnames.sharedSecret, hnames.portSecret, hnames.port, List.modifyLast_concat]

theorem foldl_amend_other {names : ByteString × ByteString × ByteString}
    {settings : List Setting}
    (h : ∀ setting ∈ settings, setting.1 ≠ names.1 ∧ setting.1 ≠ names.2.1 ∧ setting.1 ≠ names.2.2)
    (servers : List RadiusServer) : settings.foldl (amend names) servers = servers := by
  apply foldl_unwritten (amend names) id
  intro servers setting hsetting
  obtain ⟨haddress, hport, hsecret⟩ := h setting hsetting
  simp [amend, haddress, hport, hsecret]

theorem foldl_set (settings : List Setting) (servers : RadiusServers) :
    settings.foldl RadiusServers.set servers =
      { authentication :=
          settings.foldl (amend (getRadiusEndpointPropertyNames .Authentication))
            servers.authentication
        accounting :=
          settings.foldl (amend (getRadiusEndpointPropertyNames .Accounting))
            servers.accounting } := by
  induction settings generalizing servers with
  | nil => rfl
  | cons setting settings ih => exact ih (servers.set setting)

theorem distinct_names {role : RadiusEndpointType} (h : role ≠ .Unknown) :
    Distinct (getRadiusEndpointPropertyNames role) := by
  cases role with
  | Unknown => exact absurd rfl h
  | Authentication => constructor <;> decide
  | Accounting => constructor <;> decide

theorem foldl_radiusSettings_role {role : RadiusEndpointType} (hrole : role ≠ .Unknown)
    {endpoint : RadiusEndpointConfiguration} (htype : endpoint.type = role)
    (servers : List RadiusServer) :
    (radiusSettings endpoint).foldl (amend (getRadiusEndpointPropertyNames role)) servers =
      servers ++ [radiusServerOf endpoint] := by
  have hsettings : radiusSettings endpoint =
      [((getRadiusEndpointPropertyNames role).1, endpoint.address),
        ((getRadiusEndpointPropertyNames role).2.2, endpoint.sharedSecret)] ++
        (endpoint.port.map fun port => decimal port.toNat).toList.map fun port =>
          ((getRadiusEndpointPropertyNames role).2.1, port) := by
    rw [radiusSettings, htype]
    cases endpoint.port <;> rfl
  rw [hsettings]
  exact foldl_amend (distinct_names hrole) servers _ _ _

theorem foldl_radiusSettings_other {role : RadiusEndpointType} (hrole : role ≠ .Unknown)
    {endpoint : RadiusEndpointConfiguration} (htype : endpoint.type ≠ role)
    (servers : List RadiusServer) :
    (radiusSettings endpoint).foldl (amend (getRadiusEndpointPropertyNames role)) servers =
      servers := by
  apply foldl_amend_other
  intro setting hsetting
  rcases fst_of_mem_radiusSettings hsetting with hname | hname | hname <;> rw [hname] <;>
    revert hrole htype <;> cases endpoint.type <;> cases role <;> decide

-- The endpoints of a role are added in order.
theorem foldl_endpoints {role : RadiusEndpointType} (hrole : role ≠ .Unknown)
    (endpoints : List RadiusEndpointConfiguration) (servers : List RadiusServer) :
    (endpoints.flatMap radiusSettings).foldl (amend (getRadiusEndpointPropertyNames role))
      servers = servers ++ serversOf role endpoints := by
  induction endpoints generalizing servers with
  | nil => simp [serversOf]
  | cons endpoint endpoints ih =>
      rw [List.flatMap_cons, List.foldl_append, ih]
      by_cases htype : endpoint.type = role
      · rw [foldl_radiusSettings_role hrole htype]
        simp [serversOf, htype]
      · rw [foldl_radiusSettings_other hrole htype]
        simp [serversOf, htype]

end Set

section Calls

variable {interfaceName : ByteString}

abbrev RadiusCall (interfaceName : ByteString) := Call (setRadiusConfiguration interfaceName)

-- A call that returns has not met an endpoint that it refuses.
theorem returns_addRadiusEndpoint (endpoint : RadiusEndpointConfiguration) :
    (addRadiusEndpoint endpoint).Returns fun _ => ValidRadiusEndpoint endpoint := by
  unfold addRadiusEndpoint
  split_ifs with htype haddress hsecret
  · trivial
  · trivial
  · trivial
  · exact Program.returns_of_forall fun _ => ⟨htype, haddress, hsecret⟩

theorem returns_addRadiusEndpoints (endpoints : List RadiusEndpointConfiguration) :
    (addRadiusEndpoints endpoints .Defer).Returns fun _ =>
      ∀ endpoint ∈ endpoints, ValidRadiusEndpoint endpoint := by
  have hendpoints := Program.returns_forM fun endpoint (_ : endpoint ∈ endpoints) =>
    returns_addRadiusEndpoint endpoint
  refine Program.returns_attempt (Program.returns_bind hendpoints ?_) (fun _ hvalid => hvalid) ?_
  · exact fun _ hvalid => hvalid
  · intro fault
    cases fault <;> trivial

theorem returns_setRadiusConfiguration (radiusConfiguration : Ieee8021xRadiusConfiguration) :
    (setRadiusConfiguration interfaceName radiusConfiguration).Returns fun status =>
      status.code = .Succeeded →
        ∀ endpoint ∈ radiusEndpointConfigurations radiusConfiguration,
          ValidRadiusEndpoint endpoint := by
  apply Program.returns_attempt (returns_addRadiusEndpoints _)
  · exact fun _ hvalid => Program.returns_of_forall fun _ _ => hvalid
  · intro fault
    cases fault with
    | Hostapd message => exact fun hsucceeded => by simp at hsucceeded
    | _ => trivial

theorem RadiusCall.valid (call : RadiusCall interfaceName) :
    ∀ endpoint ∈ radiusEndpointConfigurations call.argument, ValidRadiusEndpoint endpoint :=
  Program.of_returns (returns_setRadiusConfiguration call.argument) call.runs call.succeeded

def radiusConfigurationSettings (radiusConfiguration : Ieee8021xRadiusConfiguration) :
    List Setting :=
  (radiusEndpointConfigurations radiusConfiguration).flatMap radiusSettings ++
    [(ProtocolHostapd.PropertyNameEapServer, ProtocolHostapd.PropertyDisabled),
      (ProtocolHostapd.PropertyNameOwnIpAddr, getIpAddress)]

theorem RadiusCall.applied (call : RadiusCall interfaceName) :
    applied call.trace = radiusConfigurationSettings call.argument := by
  have hquiet : ∀ exchange, isQuery exchange = false → True := fun _ _ => trivial
  exact call.applied_trace
    (performs_setRadiusConfiguration default interfaceName call.argument)
    (settles_setRadiusConfiguration interfaceName hquiet call.argument)

-- The servers that hostapd has after some calls.
def afterwards (before : RadiusServers) (calls : List (RadiusCall interfaceName)) :
    RadiusServers :=
  (appliedBy calls).foldl RadiusServers.set before

theorem foldl_radiusConfigurationSettings {role : RadiusEndpointType} (hrole : role ≠ .Unknown)
    (radiusConfiguration : Ieee8021xRadiusConfiguration) (servers : List RadiusServer) :
    (radiusConfigurationSettings radiusConfiguration).foldl
        (amend (getRadiusEndpointPropertyNames role)) servers =
      servers ++ serversOf role (radiusEndpointConfigurations radiusConfiguration) := by
  rw [radiusConfigurationSettings, List.foldl_append, foldl_endpoints hrole]
  apply foldl_amend_other
  revert hrole
  cases role <;> decide

-- Every call adds its servers to those of the calls before.
theorem afterwards_eq (before : RadiusServers) (calls : List (RadiusCall interfaceName)) :
    afterwards before calls =
      { authentication := before.authentication ++
          calls.flatMap fun call => (requestedServers call.argument).authentication
        accounting := before.accounting ++
          calls.flatMap fun call => (requestedServers call.argument).accounting } := by
  have hrole {role : RadiusEndpointType} (hrole : role ≠ .Unknown) (servers : List RadiusServer) :
      (calls.flatMap fun call => radiusConfigurationSettings call.argument).foldl
          (amend (getRadiusEndpointPropertyNames role)) servers =
        servers ++ calls.flatMap fun call =>
          serversOf role (radiusEndpointConfigurations call.argument) := by
    induction calls generalizing servers with
    | nil => simp
    | cons call calls ih =>
        rw [List.flatMap_cons, List.foldl_append, foldl_radiusConfigurationSettings hrole, ih,
          List.flatMap_cons, List.append_assoc]
  rw [afterwards, appliedBy_eq RadiusCall.applied, foldl_set, hrole (by decide),
    hrole (by decide)]
  rfl

def RadiusServers.size (servers : RadiusServers) : Nat :=
  servers.authentication.length + servers.accounting.length

theorem RadiusServers.size_eq_zero {servers : RadiusServers} : servers.size = 0 ↔ servers = {} := by
  obtain ⟨authentication, accounting⟩ := servers
  simp [size]

-- There is always the authentication server, in one role or the other.
theorem RadiusCall.size_pos (call : RadiusCall interfaceName) :
    0 < (requestedServers call.argument).size := by
  obtain ⟨server, servers, hendpoints⟩ : ∃ server servers,
      radiusEndpointConfigurations call.argument = server :: servers := ⟨_, _, rfl⟩
  have hvalid := call.valid server (by rw [hendpoints]; exact List.mem_cons_self)
  have htype := hvalid.1
  unfold requestedServers RadiusServers.size serversOf
  rw [hendpoints]
  cases hrole : server.type with
  | Unknown => exact absurd hrole htype
  | Authentication =>
      simp only [List.filter_cons, hrole, decide_true, if_true, List.map_cons, List.length_cons]
      omega
  | Accounting =>
      simp only [List.filter_cons, hrole, decide_true, if_true, List.map_cons, List.length_cons]
      omega

-- The servers are those of the last call, and its authentication server is the
-- primary one.
def LastWins (before : RadiusServers) (earlier : List (RadiusCall interfaceName))
    (last : RadiusCall interfaceName) : Prop :=
  afterwards before (earlier ++ [last]) = requestedServers last.argument ∧
    (afterwards before (earlier ++ [last])).authentication.head? =
      some (radiusServerOf
        (ieee8021xRadiusServerEndpointConfigurationToWpaRadiusEndpointConfiguration
          last.argument.authenticationServer))

theorem size_afterwards (before : RadiusServers) (earlier : List (RadiusCall interfaceName))
    (last : RadiusCall interfaceName) :
    (afterwards before (earlier ++ [last])).size =
      (afterwards before earlier).size + (requestedServers last.argument).size := by
  rw [afterwards_eq, afterwards_eq]
  simp only [RadiusServers.size, List.flatMap_append, List.flatMap_singleton, List.length_append]
  omega

theorem setRadiusConfiguration_lastWins_iff (before : RadiusServers)
    (earlier : List (RadiusCall interfaceName)) (last : RadiusCall interfaceName) :
    LastWins before earlier last ↔
      earlier = [] ∧ before = {} ∧
        (requestedServers last.argument).authentication.head? =
          some (radiusServerOf
            (ieee8021xRadiusServerEndpointConfigurationToWpaRadiusEndpointConfiguration
              last.argument.authenticationServer)) := by
  constructor
  · rintro ⟨hservers, hfirst⟩
    have hsize := size_afterwards before earlier last
    rw [hservers] at hsize hfirst
    have hnone : (afterwards before earlier).size = 0 := by omega
    rcases List.eq_nil_or_concat earlier with rfl | ⟨calls, call, rfl⟩
    · exact ⟨rfl, RadiusServers.size_eq_zero.mp hnone, hfirst⟩
    · have hcall := call.size_pos
      rw [List.concat_eq_append, size_afterwards] at hnone
      omega
  · rintro ⟨rfl, rfl, hfirst⟩
    have hservers : afterwards {} [last] = requestedServers last.argument := by
      simp [afterwards_eq]
    exact ⟨hservers, by rwa [List.nil_append, hservers]⟩

end Calls

section Reconfigured

def radiusAt (address : ByteString) : Ieee8021xRadiusConfiguration where
  authenticationServer := { type := .Authentication, address, sharedSecret := str "secret" }

def radiusSucceeded : AccessPointOperationStatus :=
  ⟨str "wlan0", str "SetRadiusConfiguration", [], .Succeeded⟩

def firstCall : RadiusCall (str "wlan0") :=
  acknowledgedCall (radiusAt (str "10.0.0.1")) radiusSucceeded (by decide +kernel) rfl

def secondCall : RadiusCall (str "wlan0") :=
  acknowledgedCall (radiusAt (str "10.0.0.2")) radiusSucceeded (by decide +kernel) rfl

-- The server of the first call stays the primary one.
theorem setRadiusConfiguration_keeps_first :
    afterwards {} [firstCall, secondCall] =
        { authentication := [⟨str "10.0.0.1", none, str "secret"⟩,
            ⟨str "10.0.0.2", none, str "secret"⟩] } ∧
      ¬ LastWins {} [firstCall] secondCall := by
  have hservers : afterwards {} [firstCall, secondCall] =
      { authentication := [⟨str "10.0.0.1", none, str "secret"⟩,
          ⟨str "10.0.0.2", none, str "secret"⟩] } := by decide +kernel
  refine ⟨hservers, fun hlast => ?_⟩
  have hsame : afterwards {} [firstCall, secondCall] = requestedServers secondCall.argument :=
    hlast.1
  rw [hservers] at hsame
  exact absurd hsame (by decide +kernel)

end Reconfigured

end NetRemote.Wifi.AccessPointControllerLinux
