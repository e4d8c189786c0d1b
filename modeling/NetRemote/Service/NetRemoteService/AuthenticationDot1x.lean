import NetRemote.Service.NetRemoteService.Theorems
import NetRemote.Wifi.AccessPointControllerLinux.Theorems

namespace NetRemote.Service.NetRemoteService.AuthenticationDot1x

open Foundation Foundation.Bytes Api Wifi Wpa Wpa.Hostapd

abbrev Server := Dot1xRadiusServerEndpointConfiguration

def servers (config : Dot1xRadiusConfiguration) : List Server :=
  config.authenticationServer.toList ++ config.accountingServer.toList ++ config.fallbackServers

-- The roles of the servers before the first fallback.
def primaryRoles (config : Dot1xRadiusConfiguration) : List RadiusEndpointType :=
  config.authenticationServer.toList.map (fun _ => .Authentication) ++
    config.accountingServer.toList.map fun _ => .Accounting

-- What a server should become in a role: no line for a port that is 0.
def requestedSettings (role : RadiusEndpointType) (server : Server) : List Setting :=
  let names := getRadiusEndpointPropertyNames role
  [(names.1, server.address), (names.2.2, server.sharedSecret)] ++
    if server.port = 0 then [] else [(names.2.1, decimal server.port.toNat)]

def radiusProperty (propertyName : ByteString) : Bool :=
  let authentication := getRadiusEndpointPropertyNames .Authentication
  let accounting := getRadiusEndpointPropertyNames .Accounting
  [authentication.1, authentication.2.1, authentication.2.2, accounting.1, accounting.2.1,
    accounting.2.2].contains propertyName

-- Each server is sent once and in order, a fallback server in either role.
def SentInOrder (config : Dot1xRadiusConfiguration) (trace : List System.Exchange) : Prop :=
  ∃ roles : List RadiusEndpointType, roles.length = config.fallbackServers.length ∧
    (∀ role ∈ roles, role ≠ .Unknown) ∧
    settings radiusProperty trace =
      ((primaryRoles config ++ roles).zip (servers config)).flatMap fun entry =>
        requestedSettings entry.1 entry.2

def Delivered (config : Dot1xRadiusConfiguration) (trace : List System.Exchange)
    (outcome : Except Fault WifiAccessPointOperationStatus) : Prop :=
  (∃ status, outcome = .ok status ∧ status.code = .Succeeded) ∧ SentInOrder config trace

-- The endpoint fields name the roles that the servers have anyway, and the ports
-- are ports.
structure WellDirected (config : Dot1xRadiusConfiguration) : Prop where
  authentication : ∀ server ∈ config.authenticationServer,
    server.endpoint = Dot1xRadiusServerEndpointAuthentication
  accounting : ∀ server ∈ config.accountingServer,
    server.endpoint = Dot1xRadiusServerEndpointAccounting
  fallback : ∀ server ∈ config.fallbackServers,
    server.endpoint = Dot1xRadiusServerEndpointAuthentication ∨
      server.endpoint = Dot1xRadiusServerEndpointAccounting
  ports : ∀ server ∈ servers config, server.port.toNat < 2 ^ 16

section Servers

def hostapdEndpoint (server : Server) : RadiusEndpointConfiguration :=
  ieee8021xRadiusServerEndpointConfigurationToWpaRadiusEndpointConfiguration
    (fromServiceDot1xRadiusServerEndpointConfiguration server)

def roleOf (server : Server) : RadiusEndpointType := (hostapdEndpoint server).type

theorem roleOf_authentication (server : Server) :
    roleOf server = .Authentication ↔
      server.endpoint = Dot1xRadiusServerEndpointAuthentication := by
  simp only [roleOf, hostapdEndpoint, fromServiceDot1xRadiusServerEndpointConfiguration,
    ieee8021xRadiusServerEndpointConfigurationToWpaRadiusEndpointConfiguration,
    fromServiceDot1xRadiusServerEndpoint]
  split_ifs with hauthentication haccounting
  · simp [ieee8021xRadiusEndpointTypeToWpaRadiusEndpointType, hauthentication]
  · simp [ieee8021xRadiusEndpointTypeToWpaRadiusEndpointType, hauthentication]
  · simp [ieee8021xRadiusEndpointTypeToWpaRadiusEndpointType, hauthentication]

theorem roleOf_accounting (server : Server) :
    roleOf server = .Accounting ↔ server.endpoint = Dot1xRadiusServerEndpointAccounting := by
  simp only [roleOf, hostapdEndpoint, fromServiceDot1xRadiusServerEndpointConfiguration,
    ieee8021xRadiusServerEndpointConfigurationToWpaRadiusEndpointConfiguration,
    fromServiceDot1xRadiusServerEndpoint]
  split_ifs with hauthentication haccounting
  · rw [hauthentication]
    decide
  · simp [ieee8021xRadiusEndpointTypeToWpaRadiusEndpointType, haccounting]
  · simp [ieee8021xRadiusEndpointTypeToWpaRadiusEndpointType, haccounting]

theorem roleOf_known (server : Server) :
    roleOf server ≠ .Unknown ↔
      server.endpoint = Dot1xRadiusServerEndpointAuthentication ∨
        server.endpoint = Dot1xRadiusServerEndpointAccounting := by
  rw [← roleOf_authentication, ← roleOf_accounting]
  cases roleOf server <;> decide

-- A port above 16 bits is cut off.
theorem radiusSettings_hostapdEndpoint (server : Server) :
    radiusSettings (hostapdEndpoint server) =
      [((getRadiusEndpointPropertyNames (roleOf server)).1, server.address),
        ((getRadiusEndpointPropertyNames (roleOf server)).2.2, server.sharedSecret)] ++
        if server.port = 0 then []
        else [((getRadiusEndpointPropertyNames (roleOf server)).2.1,
          decimal (server.port.toNat % 2 ^ 16))] := by
  have hport : (hostapdEndpoint server).port =
      if server.port ≠ 0 then some server.port.toUInt16 else none := rfl
  by_cases hzero : server.port = 0
  · rw [if_neg (by simp [hzero])] at hport
    rw [radiusSettings, hport, if_pos hzero]
    rfl
  · rw [if_pos hzero] at hport
    rw [radiusSettings, hport, if_neg hzero, ← UInt32.toNat_toUInt16 server.port]
    rfl

theorem length_requestedSettings (role : RadiusEndpointType) (server : Server) :
    (requestedSettings role server).length = (radiusSettings (hostapdEndpoint server)).length := by
  rw [radiusSettings_hostapdEndpoint, requestedSettings]
  split_ifs <;> rfl

theorem decimal_injective {m n : Nat} (h : decimal m = decimal n) : m = n := by
  rw [← ofDigits_decimal m, h, ofDigits_decimal]

theorem names_injective {role other : RadiusEndpointType}
    (h : (getRadiusEndpointPropertyNames role).1 = (getRadiusEndpointPropertyNames other).1) :
    role = other := by
  cases role <;> cases other <;> first | rfl | exact absurd h (by decide)

theorem radiusSettings_eq_iff (role : RadiusEndpointType) (server : Server) :
    radiusSettings (hostapdEndpoint server) = requestedSettings role server ↔
      roleOf server = role ∧ server.port.toNat < 2 ^ 16 := by
  rw [radiusSettings_hostapdEndpoint, requestedSettings]
  constructor
  · intro h
    obtain ⟨hfirst, hrest⟩ := List.cons.inj h
    refine ⟨names_injective (Prod.mk.inj hfirst).1, ?_⟩
    by_cases hzero : server.port = 0
    · simp [hzero]
    · rw [if_neg hzero, if_neg hzero] at hrest
      have hport := (List.cons.inj (List.cons.inj hrest).2).1
      have hdecimal := decimal_injective (congrArg Prod.snd hport)
      omega
  · rintro ⟨rfl, hsmall⟩
    rw [Nat.mod_eq_of_lt hsmall]

end Servers

section Alignment

-- Both sides give a server as many lines, so that the lines of one server cannot
-- be taken for those of the next.
theorem flatMap_eq_zip_iff {roles : List RadiusEndpointType} {list : List Server}
    (hlength : roles.length = list.length) :
    list.flatMap (fun server => radiusSettings (hostapdEndpoint server)) =
        (roles.zip list).flatMap (fun entry => requestedSettings entry.1 entry.2) ↔
      ∀ entry ∈ roles.zip list, roleOf entry.2 = entry.1 ∧ entry.2.port.toNat < 2 ^ 16 := by
  induction roles generalizing list with
  | nil =>
      obtain rfl := List.length_eq_zero_iff.mp hlength.symm
      simp
  | cons role roles ih =>
      cases list with
      | nil => cases hlength
      | cons server list =>
          rw [List.zip_cons_cons, List.flatMap_cons, List.flatMap_cons, List.forall_mem_cons,
            ← ih (Nat.succ.inj hlength), ← radiusSettings_eq_iff]
          constructor
          · intro h
            exact List.append_inj h (length_requestedSettings role server).symm
          · rintro ⟨hserver, hlist⟩
            rw [hserver, hlist]

theorem length_flatMap_zip {roles : List RadiusEndpointType} {list : List Server}
    (hlength : roles.length = list.length) :
    ((roles.zip list).flatMap fun entry => requestedSettings entry.1 entry.2).length =
      (list.flatMap fun server => radiusSettings (hostapdEndpoint server)).length := by
  induction roles generalizing list with
  | nil =>
      obtain rfl := List.length_eq_zero_iff.mp hlength.symm
      rfl
  | cons role roles ih =>
      cases list with
      | nil => cases hlength
      | cons server list =>
          rw [List.zip_cons_cons, List.flatMap_cons, List.flatMap_cons, List.length_append,
            List.length_append, ih (Nat.succ.inj hlength), length_requestedSettings]

variable {config : Dot1xRadiusConfiguration}

theorem length_primaryRoles {roles : List RadiusEndpointType}
    (hroles : roles.length = config.fallbackServers.length) :
    (primaryRoles config ++ roles).length = (servers config).length := by
  simp [primaryRoles, servers, hroles]

theorem zip_servers (roles : List RadiusEndpointType) :
    (primaryRoles config ++ roles).zip (servers config) =
      config.authenticationServer.toList.map (fun server => (.Authentication, server)) ++
        config.accountingServer.toList.map (fun server => (.Accounting, server)) ++
          roles.zip config.fallbackServers := by
  unfold primaryRoles servers
  rw [List.zip_append (by simp), List.zip_append (by simp)]
  congr 1
  cases config.authenticationServer <;> cases config.accountingServer <;> rfl

theorem aligned_iff_wellDirected :
    (∃ roles : List RadiusEndpointType, roles.length = config.fallbackServers.length ∧
      (∀ role ∈ roles, role ≠ .Unknown) ∧
      ∀ entry ∈ (primaryRoles config ++ roles).zip (servers config),
        roleOf entry.2 = entry.1 ∧ entry.2.port.toNat < 2 ^ 16) ↔ WellDirected config := by
  constructor
  · rintro ⟨roles, hlength, hknown, haligned⟩
    have hzip := haligned
    simp only [zip_servers, List.forall_mem_append, List.forall_mem_map] at hzip
    obtain ⟨⟨hauthentication, haccounting⟩, hfallback⟩ := hzip
    have hservers : ((primaryRoles config ++ roles).zip (servers config)).map Prod.snd =
        servers config := List.map_snd_zip (length_primaryRoles hlength).ge
    have hservers' : (roles.zip config.fallbackServers).map Prod.snd = config.fallbackServers :=
      List.map_snd_zip hlength.ge
    refine ⟨fun server hserver => ?_, fun server hserver => ?_, fun server hserver => ?_,
      fun server hserver => ?_⟩
    · exact (roleOf_authentication server).mp
        (hauthentication server (Option.mem_toList.mpr hserver)).1
    · exact (roleOf_accounting server).mp (haccounting server (Option.mem_toList.mpr hserver)).1
    · rw [← hservers'] at hserver
      obtain ⟨entry, hentry, rfl⟩ := List.mem_map.mp hserver
      rw [← roleOf_known, (hfallback entry hentry).1]
      exact hknown entry.1 (List.of_mem_zip hentry).1
    · rw [← hservers] at hserver
      obtain ⟨entry, hentry, rfl⟩ := List.mem_map.mp hserver
      exact (haligned entry hentry).2
  · intro hdirected
    have hports := hdirected.ports
    simp only [servers, List.forall_mem_append] at hports
    refine ⟨config.fallbackServers.map roleOf, List.length_map _, ?_, ?_⟩
    · intro role hrole
      obtain ⟨server, hserver, rfl⟩ := List.mem_map.mp hrole
      exact (roleOf_known server).mpr (hdirected.fallback server hserver)
    · rw [zip_servers]
      simp only [List.forall_mem_append, List.forall_mem_map]
      refine ⟨⟨fun server hserver => ⟨?_, hports.1.1 server hserver⟩,
        fun server hserver => ⟨?_, hports.1.2 server hserver⟩⟩, fun entry hentry => ?_⟩
      · exact (roleOf_authentication server).mpr
          (hdirected.authentication server (Option.mem_toList.mp hserver))
      · exact (roleOf_accounting server).mpr
          (hdirected.accounting server (Option.mem_toList.mp hserver))
      · rw [← List.map_id config.fallbackServers, List.map_map, List.zip_map'] at hentry
        obtain ⟨server, hserver, rfl⟩ := List.mem_map.mp hentry
        exact ⟨rfl, hports.2 server hserver⟩

end Alignment

section Run

variable {config : Dot1xRadiusConfiguration}

theorem validateDot1xRadiusConfiguration_iff :
    validateDot1xRadiusConfiguration config = none ↔ config.authenticationServer.isSome ∧
      ∀ server ∈ servers config, server.address ≠ [] ∧ server.sharedSecret ≠ [] := by
  have hserver (server : Server) : validateDot1xRadiusServerEndpointConfiguration server = none ↔
      server.address ≠ [] ∧ server.sharedSecret ≠ [] := by
    unfold validateDot1xRadiusServerEndpointConfiguration
    split_ifs <;> simp_all
  unfold validateDot1xRadiusConfiguration
  cases hauthentication : config.authenticationServer with
  | none => simp
  | some server =>
      simp only [Option.or_eq_none_iff, Option.map_eq_none_iff, Option.bind_eq_none_iff,
        List.findSome?_eq_none_iff, hserver, servers, hauthentication, List.forall_mem_append,
        Option.toList_some, List.forall_mem_singleton, Option.mem_toList, Option.isSome_some,
        true_and]

theorem radiusEndpointConfigurations_servers (h : config.authenticationServer.isSome) :
    AccessPointControllerLinux.radiusEndpointConfigurations
      (fromServiceDot1xRadiusConfiguration config) = (servers config).map hostapdEndpoint := by
  obtain ⟨server, hserver⟩ := Option.isSome_iff_exists.mp h
  simp only [AccessPointControllerLinux.radiusEndpointConfigurations,
    fromServiceDot1xRadiusConfiguration, servers, hserver, Option.elim_some, Option.toList_some,
    List.map_append, List.map_map]
  cases config.accountingServer <;> rfl

variable {platform : Wifi.Platform} {accessPointManager : IAccessPointManager System}
  {accessPointId interfaceName : ByteString} {accessPoint : IAccessPoint System}

theorem performs_wifiAccessPointSetAuthenticationDot1x (watched : ByteString → Bool)
    (hfound : accessPointManager.getAccessPoint accessPointId = some (some accessPoint))
    (hcreated : accessPoint.createController =
      .ok (some (accessPointControllerLinux platform interfaceName)))
    (hvalid : validateDot1xRadiusConfiguration config = none) :
    Performs platform.toPlatform watched (∀ server ∈ servers config, roleOf server ≠ .Unknown)
      (fun status => status.code = .Succeeded)
      ((servers config).flatMap (fun server => radiusSettings (hostapdEndpoint server)) ++
        [(ProtocolHostapd.PropertyNameEapServer, ProtocolHostapd.PropertyDisabled),
          (ProtocolHostapd.PropertyNameOwnIpAddr, getIpAddress)])
      (wifiAccessPointSetAuthenticationDot1x accessPointManager accessPointId
        ⟨some config⟩) := by
  obtain ⟨hsome, hservers⟩ := validateDot1xRadiusConfiguration_iff.mp hvalid
  have hset : Performs platform.toPlatform watched _ _ _ _ :=
    AccessPointControllerLinux.performs_setRadiusConfiguration platform interfaceName
      (fromServiceDot1xRadiusConfiguration config)
  rw [radiusEndpointConfigurations_servers hsome, List.flatMap_map] at hset
  have hendpoints (hroles : ∀ server ∈ servers config, roleOf server ≠ .Unknown) :
      ∀ endpoint ∈ (servers config).map hostapdEndpoint, ValidRadiusEndpoint endpoint := by
    intro endpoint hendpoint
    obtain ⟨server, hserver, rfl⟩ := List.mem_map.mp hendpoint
    exact ⟨hroles server hserver, hservers server hserver⟩
  unfold wifiAccessPointSetAuthenticationDot1x wifiAccessPointSetAuthenticationDot1xImpl
  simp only [withAccessPointController_found hfound hcreated, hvalid]
  exact performs_map _ (fun _ => settle_code _ _ _)
    (performs_accessPointControllerLinux platform interfaceName
      (performs_map (·, ()) (fun _ => Iff.rfl) (performs_of_valid hendpoints hset)))

theorem radiusProperty_names {role : RadiusEndpointType} (h : role ≠ .Unknown) :
    radiusProperty (getRadiusEndpointPropertyNames role).1 = true ∧
      radiusProperty (getRadiusEndpointPropertyNames role).2.1 = true ∧
      radiusProperty (getRadiusEndpointPropertyNames role).2.2 = true := by
  cases role with
  | Unknown => exact absurd rfl h
  | Authentication => decide
  | Accounting => decide

theorem radiusProperty_radiusSettings {endpoint : RadiusEndpointConfiguration}
    (h : endpoint.type ≠ .Unknown) :
    ∀ setting ∈ radiusSettings endpoint, radiusProperty setting.1 = true := by
  intro setting hsetting
  obtain ⟨haddress, hport, hsecret⟩ := radiusProperty_names h
  rcases fst_of_mem_radiusSettings hsetting with hname | hname | hname
  · rw [hname]
    exact haddress
  · rw [hname]
    exact hport
  · rw [hname]
    exact hsecret

theorem roleOf_servers (h : WellDirected config) :
    ∀ server ∈ servers config, roleOf server ≠ .Unknown := by
  simp only [servers, List.forall_mem_append, Option.mem_toList]
  refine ⟨⟨fun server hserver => ?_, fun server hserver => ?_⟩, fun server hserver => ?_⟩
  · exact (roleOf_known server).mpr (.inl (h.authentication server hserver))
  · exact (roleOf_known server).mpr (.inr (h.accounting server hserver))
  · exact (roleOf_known server).mpr (h.fallback server hserver)

theorem setAuthenticationDot1x_delivered_iff
    (hfound : accessPointManager.getAccessPoint accessPointId = some (some accessPoint))
    (hcreated : accessPoint.createController =
      .ok (some (accessPointControllerLinux platform interfaceName)))
    (hvalid : validateDot1xRadiusConfiguration config = none) {trace : List System.Exchange}
    {outcome : Except Fault WifiAccessPointOperationStatus}
    (hruns : (wifiAccessPointSetAuthenticationDot1x accessPointManager accessPointId
      ⟨some config⟩).Runs trace outcome)
    (haccepting : Accepting platform.toPlatform trace) :
    Delivered config trace outcome ↔ WellDirected config := by
  have hinternal : [(ProtocolHostapd.PropertyNameEapServer, ProtocolHostapd.PropertyDisabled),
      (ProtocolHostapd.PropertyNameOwnIpAddr, getIpAddress)].filter
        (fun setting => radiusProperty setting.1) = [] := by decide
  have hnothing : settings radiusProperty [] = [] := rfl
  have hends := Program.ends_of_wp [] (performs_wifiAccessPointSetAuthenticationDot1x
    radiusProperty hfound hcreated hvalid []) hruns
  rw [List.nil_append, List.filter_append, hinternal, List.append_nil, hnothing,
    List.nil_append] at hends
  constructor
  · rintro ⟨⟨status, rfl, hsucceeded⟩, roles, hlength, hknown, hsent⟩
    have hlengths := length_primaryRoles hlength
    rw [hends.1 hsucceeded] at hsent
    have hkept := congrArg List.length hsent
    rw [length_flatMap_zip hlengths, List.length_filter_eq_length_iff, ← List.filter_eq_self]
      at hkept
    rw [hkept, flatMap_eq_zip_iff hlengths] at hsent
    exact aligned_iff_wellDirected.mp ⟨roles, hlength, hknown, hsent⟩
  · intro hdirected
    have hroles := roleOf_servers hdirected
    obtain ⟨roles, hlength, hknown, haligned⟩ := aligned_iff_wellDirected.mpr hdirected
    cases outcome with
    | error fault => exact absurd haccepting (hends hroles)
    | ok status =>
        have hsucceeded := hends.2 hroles haccepting
        have hkept : ∀ setting ∈ (servers config).flatMap
            fun server => radiusSettings (hostapdEndpoint server),
            radiusProperty setting.1 = true := by
          rw [List.forall_mem_flatMap]
          exact fun server hserver => radiusProperty_radiusSettings (hroles server hserver)
        refine ⟨⟨status, rfl, hsucceeded⟩, roles, hlength, hknown, ?_⟩
        rw [hends.1 hsucceeded, List.filter_eq_self.mpr hkept,
          (flatMap_eq_zip_iff (length_primaryRoles hlength)).mpr haligned]

end Run

-- One access point, whose hostapd acknowledges what it is told.
def wlan0 : IAccessPoint System :=
  ⟨str "wlan0", .ok (some (accessPointControllerLinux default (str "wlan0")))⟩

def onlyWlan0 : IAccessPointManager System := ⟨fun _ => some (some wlan0)⟩

def runDot1x (config : Dot1xRadiusConfiguration) :
    List System.Exchange × Except Fault WifiAccessPointOperationStatus :=
  (wifiAccessPointSetAuthenticationDot1x onlyWlan0 (str "wlan0") ⟨some config⟩).run
    (AccessPointControllerLinux.acknowledging none) []

def radiusServer (endpoint : Dot1xRadiusServerEndpoint) (port : UInt32) : Server :=
  ⟨endpoint, str "10.0.0.1", port, str "secret"⟩

def withFallback : Dot1xRadiusConfiguration where
  authenticationServer := radiusServer Dot1xRadiusServerEndpointAuthentication 1812
  accountingServer := radiusServer Dot1xRadiusServerEndpointAccounting 0
  fallbackServers := [radiusServer Dot1xRadiusServerEndpointAuthentication 1645]

theorem setAuthenticationDot1x_delivers_fallback :
    Delivered withFallback (runDot1x withFallback).1 (runDot1x withFallback).2 := by
  have haccepting : ∀ exchange ∈ (runDot1x withFallback).1,
      accepted (default : Wifi.Platform).toPlatform exchange = true := by decide +kernel
  have hdirected : WellDirected withFallback := by
    constructor <;> decide
  have hfound : onlyWlan0.getAccessPoint (str "wlan0") = some (some wlan0) := rfl
  exact (setAuthenticationDot1x_delivered_iff hfound rfl (by decide) (Program.runs_run _ _)
    haccepting).mpr hdirected

def widePort : Dot1xRadiusConfiguration where
  authenticationServer := radiusServer Dot1xRadiusServerEndpointAuthentication 67348

-- 67348 is 1812 above 16 bits.
theorem setAuthenticationDot1x_truncates_port :
    validateDot1xRadiusConfiguration widePort = none ∧
      ∃ trace outcome,
        (wifiAccessPointSetAuthenticationDot1x onlyWlan0 (str "wlan0") ⟨some widePort⟩).Runs trace
          outcome ∧
        Accepting (default : Wifi.Platform).toPlatform trace ∧
        outcome = .ok { code := .Succeeded } ∧
        settings radiusProperty trace =
          [(str "auth_server_addr", str "10.0.0.1"),
            (str "auth_server_shared_secret", str "secret"),
            (str "auth_server_port", str "1812")] ∧
        ¬ Delivered widePort trace outcome := by
  have haccepting : ∀ exchange ∈ (runDot1x widePort).1,
      accepted (default : Wifi.Platform).toPlatform exchange = true := by decide +kernel
  refine ⟨by decide, _, _, Program.runs_run _ _, haccepting, by decide +kernel,
    by decide +kernel, ?_⟩
  rintro ⟨_, roles, hlength, _, hsent⟩
  obtain rfl := List.length_eq_zero_iff.mp hlength
  exact absurd hsent (by decide +kernel)

end NetRemote.Service.NetRemoteService.AuthenticationDot1x
