import NetRemote.Wpa.Hostapd.Scripts

namespace NetRemote.Wpa.Hostapd

open Foundation Foundation.Bytes ProtocolWpa

-- The address of an endpoint, its shared secret and the port that it may have, for one
-- endpoint after the other.
def radiusScript (endpoints : List RadiusEndpointConfiguration)
    (enforceConfigurationChange : EnforceConfigurationChange) : List SystemRequest :=
  (endpoints.flatMap fun endpoint => (radiusSettings endpoint).map setRequest) ++
    reloadScript enforceConfigurationChange

theorem plays_addRadiusEndpoint {endpoint : RadiusEndpointConfiguration}
    (hvalid : ValidRadiusEndpoint endpoint) :
    Plays ((radiusSettings endpoint).map setRequest) (addRadiusEndpoint endpoint) := by
  obtain ⟨htype, haddress, hsecret⟩ := hvalid
  unfold addRadiusEndpoint radiusSettings
  rw [if_neg htype, if_neg haddress, if_neg hsecret, List.map_append, List.map_append]
  apply Program.plays_bind (plays_setProperty _ _ .Defer)
  intro _
  apply Program.plays_bind (plays_setProperty _ _ .Defer)
  intro _
  cases endpoint.port with
  | none => exact Program.plays_return ()
  | some port => exact plays_setProperty _ _ .Defer

theorem plays_addRadiusEndpoints {endpoints : List RadiusEndpointConfiguration}
    (hvalid : ∀ endpoint ∈ endpoints, ValidRadiusEndpoint endpoint)
    (enforceConfigurationChange : EnforceConfigurationChange) :
    Plays (radiusScript endpoints enforceConfigurationChange)
      (addRadiusEndpoints endpoints enforceConfigurationChange) := by
  apply plays_rethrow
  apply Program.plays_bind
  · apply Program.plays_forM
    exact fun endpoint hmem => plays_addRadiusEndpoint (hvalid endpoint hmem)
  · intro _
    exact plays_reloadIfNow enforceConfigurationChange

theorem addRadiusEndpoints_inOrder (endpoints : List RadiusEndpointConfiguration)
    (enforceConfigurationChange : EnforceConfigurationChange)
    (hvalid : ∀ endpoint ∈ endpoints, ValidRadiusEndpoint endpoint)
    (trace : List System.Exchange) (outcome : Except Fault Unit)
    (hruns : (addRadiusEndpoints endpoints enforceConfigurationChange).Runs trace outcome) :
    SentUntilRefused (radiusScript endpoints enforceConfigurationChange) trace outcome :=
  have hplays := plays_addRadiusEndpoints hvalid enforceConfigurationChange
  sentUntilRefused_of_scripted (hplays _ _ hruns)

-- An authentication server with a port and an accounting server without one.
def mixedEndpoints : List RadiusEndpointConfiguration :=
  [{ type := .Authentication, address := str "10.0.0.1", port := some 1812,
      sharedSecret := str "secret" },
    { type := .Accounting, address := str "10.0.0.2", sharedSecret := str "other" }]

-- All is acknowledged but the secret of the second endpoint.
def refusingSecret (past : List System.Exchange) : (request : SystemRequest) → request.Reply
  | .SendCommand _ =>
      some (if past.length = 4 then str "FAIL" else ResponsePayloadOk)
  | request => obliging past request

theorem addRadiusEndpoints_inOrder_mixed :
    SentUntilRefused (radiusScript mixedEndpoints .Now)
        ((addRadiusEndpoints mixedEndpoints .Now).run refusingSecret []).1
        ((addRadiusEndpoints mixedEndpoints .Now).run refusingSecret []).2 ∧
      ((addRadiusEndpoints mixedEndpoints .Now).run refusingSecret []).1.length = 5 :=
  ⟨addRadiusEndpoints_inOrder mixedEndpoints .Now (by decide) _ _ (Program.runs_run _ _), rfl⟩

end NetRemote.Wpa.Hostapd
