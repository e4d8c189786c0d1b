import NetRemote.Service.Adapters

namespace NetRemote.Service

open Foundation Foundation.Bytes Api Wifi

def toServiceDot1xRadiusServerEndpoint :
    Ieee8021xRadiusServerEndpointType → Dot1xRadiusServerEndpoint
  | .Authentication => Dot1xRadiusServerEndpointAuthentication
  | .Accounting => Dot1xRadiusServerEndpointAccounting
  | .Unknown => Dot1xRadiusServerEndpointUnknown

-- The port is widened to 32 bits, and no port is the default of the message.
def toServiceDot1xRadiusServerEndpointConfiguration
    (ieee8021xRadiusServerEndpointConfiguration : Ieee8021xRadiusServerEndpointConfiguration) :
    Dot1xRadiusServerEndpointConfiguration where
  endpoint := toServiceDot1xRadiusServerEndpoint ieee8021xRadiusServerEndpointConfiguration.type
  address := ieee8021xRadiusServerEndpointConfiguration.address
  port := ieee8021xRadiusServerEndpointConfiguration.port.elim 0 UInt16.toUInt32
  sharedSecret := ieee8021xRadiusServerEndpointConfiguration.sharedSecret

def toServiceDot1xRadiusConfiguration
    (ieee8021xRadiusConfiguration : Ieee8021xRadiusConfiguration) : Dot1xRadiusConfiguration where
  authenticationServer := some <| toServiceDot1xRadiusServerEndpointConfiguration
    ieee8021xRadiusConfiguration.authenticationServer
  accountingServer := ieee8021xRadiusConfiguration.accountingServer.map
    toServiceDot1xRadiusServerEndpointConfiguration
  fallbackServers := ieee8021xRadiusConfiguration.fallbackServers.map
    toServiceDot1xRadiusServerEndpointConfiguration

section Dot1xRoundTrip

-- The servers of a configuration, whatever they are for.
def radiusServers (configuration : Ieee8021xRadiusConfiguration) :
    List Ieee8021xRadiusServerEndpointConfiguration :=
  configuration.authenticationServer :: configuration.accountingServer.toList ++
    configuration.fallbackServers

theorem fromServiceDot1xRadiusServerEndpoint_toServiceDot1xRadiusServerEndpoint
    (endpointType : Ieee8021xRadiusServerEndpointType) :
    fromServiceDot1xRadiusServerEndpoint (toServiceDot1xRadiusServerEndpoint endpointType) =
      endpointType := by
  cases endpointType <;> decide

theorem toUInt32_ne_zero_iff (port : UInt16) : port.toUInt32 ≠ 0 ↔ port ≠ 0 := by
  rw [not_iff_not, ← UInt32.toNat_inj, ← UInt16.toNat_inj]
  rfl

-- A port of zero goes out as no port would, and any other comes back.
theorem fromServiceDot1x_toServiceDot1x_iff
    (configuration : Ieee8021xRadiusServerEndpointConfiguration) :
    fromServiceDot1xRadiusServerEndpointConfiguration
        (toServiceDot1xRadiusServerEndpointConfiguration configuration) = configuration ↔
      configuration.port ≠ some 0 := by
  obtain ⟨endpointType, address, port, sharedSecret⟩ := configuration
  simp only [fromServiceDot1xRadiusServerEndpointConfiguration,
    toServiceDot1xRadiusServerEndpointConfiguration,
    fromServiceDot1xRadiusServerEndpoint_toServiceDot1xRadiusServerEndpoint,
    Ieee8021xRadiusServerEndpointConfiguration.mk.injEq, true_and, and_true]
  cases port with
  | none => simp
  | some port =>
      simp only [Option.elim_some, toUInt32_ne_zero_iff, UInt16.toUInt16_toUInt32]
      by_cases hzero : port = 0
      · simp [hzero]
      · simp [hzero]

theorem map_fromServiceDot1x_toServiceDot1x
    {configurations : List Ieee8021xRadiusServerEndpointConfiguration}
    (h : ∀ configuration ∈ configurations, configuration.port ≠ some 0) :
    (configurations.map toServiceDot1xRadiusServerEndpointConfiguration).map
      fromServiceDot1xRadiusServerEndpointConfiguration = configurations := by
  induction configurations with
  | nil => rfl
  | cons configuration configurations ih =>
      rw [List.forall_mem_cons] at h
      rw [List.map_cons, List.map_cons, ih h.2,
        (fromServiceDot1x_toServiceDot1x_iff configuration).mpr h.1]

theorem fromServiceDot1xRadiusConfiguration_toServiceDot1xRadiusConfiguration
    (ieee8021xRadiusConfiguration : Ieee8021xRadiusConfiguration)
    (hports : ∀ server ∈ radiusServers ieee8021xRadiusConfiguration, server.port ≠ some 0) :
    fromServiceDot1xRadiusConfiguration
        (toServiceDot1xRadiusConfiguration ieee8021xRadiusConfiguration) =
      ieee8021xRadiusConfiguration := by
  obtain ⟨authenticationServer, accountingServer, fallbackServers⟩ := ieee8021xRadiusConfiguration
  simp only [radiusServers, List.cons_append, List.forall_mem_cons,
    List.forall_mem_append, Option.mem_toList] at hports
  obtain ⟨hauthentication, haccounting, hfallback⟩ := hports
  have haccountingBack :
      (accountingServer.map toServiceDot1xRadiusServerEndpointConfiguration).map
        fromServiceDot1xRadiusServerEndpointConfiguration = accountingServer := by
    cases accountingServer with
    | none => rfl
    | some server =>
        have hserver := haccounting server rfl
        exact congrArg some ((fromServiceDot1x_toServiceDot1x_iff server).mpr hserver)
  have hauthenticationBack :=
    (fromServiceDot1x_toServiceDot1x_iff authenticationServer).mpr hauthentication
  simp only [fromServiceDot1xRadiusConfiguration, toServiceDot1xRadiusConfiguration,
    Option.elim_some, hauthenticationBack, haccountingBack,
    map_fromServiceDot1x_toServiceDot1x hfallback]

-- A secret of all byte values, no accounting server, and two servers to fall back on.
def fallbackConfiguration : Ieee8021xRadiusConfiguration where
  authenticationServer :=
    { type := .Authentication, address := str "10.0.0.1", port := some 65535
      sharedSecret := (List.range 256).map UInt8.ofNat }
  fallbackServers :=
    [{ type := .Accounting, address := str "10.0.0.2", sharedSecret := [0] },
      { address := str "10.0.0.3", port := some 1813 }]

theorem fromServiceDot1xRadiusConfiguration_toServiceDot1xRadiusConfiguration_fallback :
    fromServiceDot1xRadiusConfiguration
        (toServiceDot1xRadiusConfiguration fallbackConfiguration) = fallbackConfiguration :=
  fromServiceDot1xRadiusConfiguration_toServiceDot1xRadiusConfiguration fallbackConfiguration
    (by decide +kernel)

end Dot1xRoundTrip

end NetRemote.Service
