import Mathlib.Data.Finset.Option
import NetRemote.Server.NetRemoteServer.Announcement

namespace NetRemote.Server.NetRemoteServer

open Foundation Foundation.Bytes Net

-- What is true of the host: which object paths are registered, which it has refused to
-- unregister at some time, and which servers listen.
structure World where
  registered : Finset ByteString
  refused : Finset ByteString
  listening : Finset Nat

namespace World

def initial : World := ⟨∅, ∅, ∅⟩

def register (world : World) : Except ByteString ObjectPath → World
  | .ok dnssdObjectPath =>
      { world with registered := insert dnssdObjectPath.path world.registered }
  | .error _ => world

def unregister (world : World) (path : ByteString) : Except ByteString Unit → World
  | .ok _ => { world with registered := world.registered.erase path }
  | .error _ => { world with refused := insert path world.refused }

def after (world : World) : Host.Exchange → World
  | ⟨.RegisterService _, result⟩ => world.register result
  | ⟨.UnregisterService path, result⟩ => world.unregister path result
  | ⟨.BuildAndStart _, server⟩ =>
      { world with listening := world.listening ∪ Option.toFinset server }
  | ⟨.Shutdown server, _⟩ => { world with listening := world.listening.erase server }
  | ⟨.NetlinkIpAddresses, _⟩ => world

def of (trace : List Host.Exchange) : World := trace.foldl after initial

@[simp] theorem of_concat (past : List Host.Exchange) (exchange : Host.Exchange) :
    of (past ++ [exchange]) = (of past).after exchange := by
  simp [of]

end World

-- Only what listens is shut down, and nothing else is started beside it. Only what is
-- registered is unregistered, and what is registered when the next registration is asked
-- for is what could not be unregistered.
def Permitted (world : World) : HostRequest → Prop
  | .UnregisterService path => path ∈ world.registered
  | .RegisterService _ => world.registered ⊆ world.refused
  | .BuildAndStart _ => world.listening = ∅
  | .Shutdown server => world.listening = {server}
  | .NetlinkIpAddresses => True

def Orderly (trace : List Host.Exchange) : Prop :=
  ∀ past exchange, past ++ [exchange] <+: trace → Permitted (World.of past) exchange.1

-- The host does what it is asked to do.
def Met : Host.Exchange → Prop
  | ⟨.RegisterService _, result⟩ => (Except.toOption result).isSome
  | ⟨.UnregisterService _, result⟩ => (Except.toOption result).isSome
  | ⟨.BuildAndStart _, server⟩ => Option.isSome server
  | _ => True

def AllMet (trace : List Host.Exchange) : Prop := ∀ exchange ∈ trace, Met exchange

theorem met_last {past : List Host.Exchange} {exchange : Host.Exchange}
    (h : AllMet (past ++ [exchange])) : Met exchange :=
  h _ (List.mem_append_right _ (List.mem_singleton_self _))

theorem orderly_nil : Orderly [] := by
  intro past exchange h
  simp at h

theorem orderly_concat {past : List Host.Exchange} {exchange : Host.Exchange} (h : Orderly past)
    (hpermitted : Permitted (World.of past) exchange.1) : Orderly (past ++ [exchange]) := by
  intro earlier other hprefix
  rcases List.prefix_concat_iff.mp hprefix with heq | hearlier
  · obtain ⟨rfl, hother⟩ := List.append_inj' heq rfl
    rw [List.singleton_inj.mp hother]
    exact hpermitted
  · exact h earlier other hearlier

def announcement (service : NetRemoteDiscoveryServiceLinuxDnssd) : DnssdService where
  serviceName := service.configuration.name
  protocol := service.configuration.protocol
  port := service.configuration.port
  priority := 0
  weight := 0
  txtDataRecord := [service.txtDataRecord]

-- How the server and the path that are held stand to the host.
structure Kept (announced : Option DnssdService) (server : Option Nat) (path : ByteString)
    (past : List Host.Exchange) : Prop where
  orderly : Orderly past
  listening : (World.of past).listening = server.toFinset
  current : path ≠ [] → path ∈ (World.of past).registered
  others : ∀ other ∈ (World.of past).registered,
    other ≠ [] ∧ (other = path ∨ other ∈ (World.of past).refused)
  announces : ∀ exchange ∈ past, ∀ service, exchange.1 = .RegisterService service →
    announced = some service

section Exchanges

variable {announced : Option DnssdService} {server : Option Nat} {path : ByteString}
  {past : List Host.Exchange}

theorem Kept.announces_concat (h : Kept announced server path past) {exchange : Host.Exchange}
    (hexchange : ∀ service, exchange.1 = .RegisterService service → announced = some service) :
    ∀ other ∈ past ++ [exchange], ∀ service, other.1 = .RegisterService service →
      announced = some service := by
  rw [List.forall_mem_append, List.forall_mem_singleton]
  exact ⟨h.announces, hexchange⟩

theorem Kept.asked (h : Kept announced server path past)
    (reply : HostRequest.Reply .NetlinkIpAddresses) :
    Kept announced server path (past ++ [⟨.NetlinkIpAddresses, reply⟩]) where
  orderly := orderly_concat h.orderly trivial
  listening := by rw [World.of_concat]; exact h.listening
  current := by rw [World.of_concat]; exact h.current
  others := by rw [World.of_concat]; exact h.others
  announces := h.announces_concat fun _ => nofun

theorem Kept.unregistered (h : Kept announced server path past) (hpath : path ≠ []) :
    Kept announced server [] (past ++ [⟨.UnregisterService path, .ok ()⟩]) where
  orderly := orderly_concat h.orderly (h.current hpath)
  listening := by rw [World.of_concat]; exact h.listening
  current := fun hne => absurd rfl hne
  others := by
    intro other hother
    rw [World.of_concat] at hother ⊢
    obtain ⟨hne, hmem⟩ := Finset.mem_erase.mp hother
    obtain ⟨hnonempty, hkept⟩ := h.others other hmem
    exact ⟨hnonempty, .inr (hkept.resolve_left hne)⟩
  announces := h.announces_concat fun _ => nofun

theorem Kept.refused (h : Kept announced server path past) (hpath : path ≠ [])
    (error : ByteString) :
    Kept announced server path (past ++ [⟨.UnregisterService path, .error error⟩]) where
  orderly := orderly_concat h.orderly (h.current hpath)
  listening := by rw [World.of_concat]; exact h.listening
  current := by rw [World.of_concat]; exact h.current
  others := by
    intro other hother
    rw [World.of_concat] at hother ⊢
    exact (h.others other hother).imp_right fun hkept => hkept.imp_right Finset.mem_insert_of_mem
  announces := h.announces_concat fun _ => nofun

-- What is registered when a path is asked for is what was refused.
theorem Kept.permits_registration (h : Kept announced server path past)
    (hpath : path = [] ∨ path ∈ (World.of past).refused) :
    (World.of past).registered ⊆ (World.of past).refused := by
  intro other hother
  obtain ⟨hnonempty, rfl | hrefused⟩ := h.others other hother
  · exact hpath.resolve_left hnonempty
  · exact hrefused

theorem Kept.registered {service : DnssdService} (h : Kept announced server path past)
    (hannounced : announced = some service)
    (hpath : path = [] ∨ path ∈ (World.of past).refused) (dnssdObjectPath : ObjectPath) :
    Kept announced server dnssdObjectPath.path
      (past ++ [⟨.RegisterService service, .ok dnssdObjectPath⟩]) where
  orderly := orderly_concat h.orderly (h.permits_registration hpath)
  listening := by rw [World.of_concat]; exact h.listening
  current := by
    intro _
    rw [World.of_concat]
    exact Finset.mem_insert_self _ _
  others := by
    intro other hother
    rw [World.of_concat] at hother ⊢
    rcases Finset.mem_insert.mp hother with rfl | hmem
    · exact ⟨dnssdObjectPath.nonempty, .inl rfl⟩
    · exact ⟨(h.others other hmem).1, .inr (h.permits_registration hpath hmem)⟩
  announces := h.announces_concat fun other heq => by
    cases heq
    exact hannounced

theorem Kept.unannounced {service : DnssdService} (h : Kept announced server path past)
    (hannounced : announced = some service)
    (hpath : path = [] ∨ path ∈ (World.of past).refused) (error : ByteString) :
    Kept announced server path (past ++ [⟨.RegisterService service, .error error⟩]) where
  orderly := orderly_concat h.orderly (h.permits_registration hpath)
  listening := by rw [World.of_concat]; exact h.listening
  current := by rw [World.of_concat]; exact h.current
  others := by rw [World.of_concat]; exact h.others
  announces := h.announces_concat fun other heq => by
    cases heq
    exact hannounced

theorem Kept.built (h : Kept announced none path past) (serverAddress : ByteString)
    (server : Option Nat) :
    Kept announced server path (past ++ [⟨.BuildAndStart serverAddress, server⟩]) where
  orderly := orderly_concat h.orderly h.listening
  listening := by
    rw [World.of_concat]
    change (World.of past).listening ∪ server.toFinset = server.toFinset
    rw [h.listening, Option.toFinset_none, Finset.empty_union]
  current := by rw [World.of_concat]; exact h.current
  others := by rw [World.of_concat]; exact h.others
  announces := h.announces_concat fun _ => nofun

theorem Kept.shutdown {listener : Nat} (h : Kept announced (some listener) path past) :
    Kept announced none path (past ++ [⟨.Shutdown listener, ()⟩]) where
  orderly := orderly_concat h.orderly h.listening
  listening := by
    rw [World.of_concat]
    change (World.of past).listening.erase listener = ∅
    rw [h.listening, Option.toFinset_some, Finset.erase_singleton]
  current := by rw [World.of_concat]; exact h.current
  others := by rw [World.of_concat]; exact h.others
  announces := h.announces_concat fun _ => nofun

theorem Kept.registered_eq_empty_iff (h : Kept announced server path past)
    (hrefused : (World.of past).refused = ∅) : (World.of past).registered = ∅ ↔ path = [] := by
  constructor
  · intro hempty
    by_contra hne
    have hmem := h.current hne
    rw [hempty] at hmem
    cases hmem
  · rintro rfl
    apply Finset.eq_empty_of_forall_notMem
    intro other hother
    obtain ⟨hnonempty, rfl | hmem⟩ := h.others other hother
    · exact hnonempty rfl
    · rw [hrefused] at hmem
      cases hmem

end Exchanges

section Service

variable {server : Option Nat} {service : NetRemoteDiscoveryServiceLinuxDnssd}
  {past : List Host.Exchange} {announced : DnssdService}

structure KeptService (announced : DnssdService) (server : Option Nat)
    (service : NetRemoteDiscoveryServiceLinuxDnssd) (past : List Host.Exchange) : Prop where
  kept : Kept (some announced) server service.dbusServiceObjectPath past
  same : announcement service = announced

-- Afterwards the path is gone, or it was refused.
theorem keptService_stop (h : KeptService announced server service past) :
    service.stop.wp past
      (fun now stopped => KeptService announced server stopped now ∧
        (stopped.dbusServiceObjectPath = [] ∨
          stopped.dbusServiceObjectPath ∈ (World.of now).refused) ∧
        (AllMet now → stopped.dbusServiceObjectPath = []))
      (fun _ _ => False) := by
  unfold NetRemoteDiscoveryServiceLinuxDnssd.stop
  by_cases hnone : service.dbusServiceObjectPath = []
  · rw [if_pos hnone]
    exact ⟨h, .inl hnone, fun _ => hnone⟩
  · rw [if_neg hnone]
    intro result
    cases result with
    | ok _ => exact ⟨⟨h.kept.unregistered hnone, h.same⟩, .inl rfl, fun _ => rfl⟩
    | error error =>
        have hkept := h.kept.refused hnone error
        refine ⟨⟨hkept, h.same⟩, .inr ?_, fun hmet => ?_⟩
        · rw [World.of_concat]
          exact Finset.mem_insert_self _ _
        · cases met_last hmet

theorem keptService_start (h : KeptService announced server service past) :
    service.start.wp past
      (fun now started => KeptService announced server started now ∧
        (AllMet now → started.dbusServiceObjectPath ≠ []))
      (fun _ _ => False) := by
  have hstopped : (if service.dbusServiceObjectPath ≠ [] then service.stop
      else Program.Return service).wp past
      (fun now stopped => KeptService announced server stopped now ∧
        (stopped.dbusServiceObjectPath = [] ∨
          stopped.dbusServiceObjectPath ∈ (World.of now).refused))
      (fun _ _ => False) := by
    by_cases hnone : service.dbusServiceObjectPath = []
    · rw [if_neg (not_not_intro hnone)]
      exact ⟨h, .inl hnone⟩
    · rw [if_pos hnone]
      exact Program.wp_mono (keptService_stop h)
        (fun _ _ hstopped => ⟨hstopped.1, hstopped.2.1⟩) fun _ _ => id
  unfold NetRemoteDiscoveryServiceLinuxDnssd.start
  rw [Program.wp_bind]
  refine Program.wp_mono hstopped ?_ fun _ _ => id
  rintro now stopped ⟨hkept, hpath⟩ result
  have hsame := congrArg some hkept.same.symm
  cases result with
  | ok dnssdObjectPath =>
      have hkept' := hkept.kept.registered hsame hpath dnssdObjectPath
      have hreturned : (if dnssdObjectPath.path = [] then stopped
          else { stopped with dbusServiceObjectPath := dnssdObjectPath.path }) =
          { stopped with dbusServiceObjectPath := dnssdObjectPath.path } :=
        if_neg dnssdObjectPath.nonempty
      change KeptService announced server (if dnssdObjectPath.path = [] then stopped
          else { stopped with dbusServiceObjectPath := dnssdObjectPath.path }) _ ∧ _
      rw [hreturned]
      exact ⟨⟨hkept', hkept.same⟩, fun _ => dnssdObjectPath.nonempty⟩
  | error error =>
      refine ⟨⟨hkept.kept.unannounced hsame hpath error, hkept.same⟩, fun hmet => ?_⟩
      cases met_last hmet

end Service

def objectPath (netRemoteServer : NetRemoteServer) : ByteString :=
  netRemoteServer.discoveryService.elim [] (·.dbusServiceObjectPath)

def announced (netRemoteServer : NetRemoteServer) : Option DnssdService :=
  netRemoteServer.discoveryService.map announcement

structure Sound (announced : Option DnssdService) (netRemoteServer : NetRemoteServer)
    (past : List Host.Exchange) : Prop where
  kept : Kept announced netRemoteServer.server netRemoteServer.objectPath past
  same : netRemoteServer.announced = announced
  discoverable : announced.isSome → AllMet past →
    (netRemoteServer.server.isSome ↔ netRemoteServer.objectPath ≠ [])

section Server

variable {announced : Option DnssdService} {netRemoteServer : NetRemoteServer}
  {past : List Host.Exchange}

theorem sound_run (h : Sound announced netRemoteServer past) :
    netRemoteServer.run.wp past (fun now running => Sound announced running now)
      (fun _ _ => False) := by
  unfold run
  cases hserver : netRemoteServer.server with
  | some listener =>
      exact h
  | none =>
      have hkept := h.kept
      rw [hserver] at hkept
      intro server
      have hbuilt := hkept.built netRemoteServer.serverAddress server
      cases hservice : netRemoteServer.discoveryService with
      | none =>
          have hnone : announced = none := by
            rw [← h.same, NetRemoteServer.announced, hservice, Option.map_none]
          refine ⟨?_, ?_, fun hsome => ?_⟩
          · simpa [objectPath, hservice] using hbuilt
          · simpa [NetRemoteServer.announced, hservice] using hnone.symm
          · rw [hnone] at hsome
            cases hsome
      | some discoveryService =>
          have hsame : announced = some (announcement discoveryService) := by
            rw [← h.same, NetRemoteServer.announced, hservice, Option.map_some]
          have hpath : netRemoteServer.objectPath = discoveryService.dbusServiceObjectPath := by
            rw [objectPath, hservice, Option.elim_some]
          rw [hpath, hsame] at hbuilt
          have hstart := Program.wp_and (keptService_start ⟨hbuilt, rfl⟩)
            (Program.wp_extends discoveryService.start _)
          change (discoveryService.start >>= fun started => (Program.Return
            { netRemoteServer with server, discoveryService := some started } :
              HostAction NetRemoteServer)).wp _ _ _
          rw [Program.wp_bind]
          refine Program.wp_mono hstart ?_ fun _ _ hthrown => hthrown.1
          rintro now started ⟨⟨hstarted, hregistered⟩, hextends⟩
          refine ⟨?_, ?_, fun _ hmet => ?_⟩
          · rw [hsame]
            exact hstarted.kept
          · rw [hsame, ← hstarted.same]
            rfl
          · have hbuild := hmet _
              (hextends.subset (List.mem_append_right _ (List.mem_singleton_self _)))
            exact iff_of_true hbuild (hregistered hmet)

theorem sound_stopDiscovery (h : Sound announced netRemoteServer past) :
    netRemoteServer.stopDiscovery.wp past
      (fun now stopped => Kept announced stopped.server stopped.objectPath now ∧
        stopped.announced = announced ∧ (AllMet now → stopped.objectPath = []))
      (fun _ _ => False) := by
  have hkept := h.kept
  unfold stopDiscovery
  cases hservice : netRemoteServer.discoveryService with
  | none =>
      have hpath : netRemoteServer.objectPath = [] := by
        rw [objectPath, hservice, Option.elim_none]
      exact ⟨hkept, h.same, fun _ => hpath⟩
  | some discoveryService =>
      have hsame : announced = some (announcement discoveryService) := by
        rw [← h.same, NetRemoteServer.announced, hservice, Option.map_some]
      have hpath : netRemoteServer.objectPath = discoveryService.dbusServiceObjectPath := by
        rw [objectPath, hservice, Option.elim_some]
      rw [hpath, hsame] at hkept
      change (discoveryService.stop >>= fun stopped => (Program.Return
        { netRemoteServer with discoveryService := some stopped } :
          HostAction NetRemoteServer)).wp _ _ _
      rw [Program.wp_bind]
      refine Program.wp_mono (keptService_stop ⟨hkept, rfl⟩) ?_ fun _ _ => id
      rintro now stopped ⟨hstopped, -, hgone⟩
      refine ⟨?_, ?_, hgone⟩
      · rw [hsame]
        exact hstopped.kept
      · rw [hsame, ← hstopped.same]
        rfl

theorem sound_stop (h : Sound announced netRemoteServer past) :
    netRemoteServer.stop.wp past
      (fun now stopped => Sound announced stopped now ∧ stopped.server = none)
      (fun _ _ => False) := by
  unfold stop
  rw [Program.wp_bind]
  refine Program.wp_mono (sound_stopDiscovery h) ?_ fun _ _ => id
  rintro now stopped ⟨hkept, hsame, hgone⟩
  cases hserver : stopped.server with
  | none =>
      have hnone : ¬ stopped.server.isSome := by
        rw [hserver]
        nofun
      refine ⟨⟨hkept, hsame, fun _ hmet => ?_⟩, hserver⟩
      exact iff_of_false hnone (not_not_intro (hgone hmet))
  | some listener =>
      rw [hserver] at hkept
      intro reply
      refine ⟨⟨hkept.shutdown, hsame, fun _ hmet => ?_⟩, rfl⟩
      have hpath := hgone fun exchange hmem => hmet exchange (List.mem_append_left _ hmem)
      exact iff_of_false nofun (not_not_intro hpath)

theorem sound_perform (operation : Operation) (h : Sound announced netRemoteServer past) :
    (netRemoteServer.perform operation).wp past
      (fun now performed => Sound announced performed now ∧
        (operation = .Stop → performed.server = none))
      (fun _ _ => False) := by
  cases operation with
  | Run => exact Program.wp_mono (sound_run h) (fun _ _ hran => ⟨hran, nofun⟩) fun _ _ => id
  | Stop =>
      exact Program.wp_mono (sound_stop h) (fun _ _ hstopped => ⟨hstopped.1, fun _ => hstopped.2⟩)
        fun _ _ => id

theorem sound_performAll (operations : List Operation) (h : Sound announced netRemoteServer past) :
    (netRemoteServer.performAll operations).wp past
      (fun now last => Sound announced last now ∧
        (operations.getLast? = some .Stop → last.server = none))
      (fun _ _ => False) := by
  induction operations generalizing netRemoteServer past with
  | nil => exact ⟨h, nofun⟩
  | cons operation rest ih =>
      rw [performAll, Program.wp_bind]
      refine Program.wp_mono (sound_perform operation h) ?_ fun _ _ => id
      rintro now performed ⟨hperformed, hstopped⟩
      cases rest with
      | nil => exact ⟨hperformed, fun hlast => hstopped (Option.some.inj hlast)⟩
      | cons next rest => exact ih hperformed

end Server

-- A server that is found is told of once the addresses of the host are known.
theorem sound_construct (traversal : Table.Traversal ByteString IpAddressInformation)
    (configuration : NetRemoteServerConfiguration) :
    (construct traversal configuration).wp []
      (fun now netRemoteServer => Sound netRemoteServer.announced netRemoteServer now ∧
        (netRemoteServer.announced.isSome ↔ configuration.discoveryServiceFactory) ∧
        ∀ service ∈ netRemoteServer.announced, ∃ reply : HostRequest.Reply .NetlinkIpAddresses,
          ⟨.NetlinkIpAddresses, reply⟩ ∈ now ∧
            service = advertisement traversal configuration.serverAddress reply.1 reply.2)
      (fun _ _ => False) := by
  have hinitial : ∀ announced, Kept announced none [] [] := fun announced =>
    ⟨orderly_nil, rfl, fun hne => absurd rfl hne, nofun, nofun⟩
  unfold construct initializeDiscoveryService
  rw [if_neg nofun]
  cases hfactory : configuration.discoveryServiceFactory with
  | false =>
      refine ⟨⟨hinitial none, rfl, nofun⟩, ?_, nofun⟩
      exact iff_of_false nofun nofun
  | true =>
      intro reply
      refine ⟨⟨(hinitial _).asked reply, rfl, fun _ _ => iff_of_false nofun (not_not_intro rfl)⟩,
        iff_of_true rfl rfl, ?_⟩
      rintro service ⟨⟩
      exact ⟨reply, List.mem_singleton_self _, rfl⟩

theorem sound_live (traversal : Table.Traversal ByteString IpAddressInformation)
    (configuration : NetRemoteServerConfiguration) (operations : List Operation) :
    (live traversal configuration operations).wp []
      (fun now netRemoteServer => Sound netRemoteServer.announced netRemoteServer now ∧
        (operations.getLast? = some .Stop → netRemoteServer.server = none) ∧
        (netRemoteServer.announced.isSome ↔ configuration.discoveryServiceFactory) ∧
        ∀ service ∈ netRemoteServer.announced, ∃ reply : HostRequest.Reply .NetlinkIpAddresses,
          ⟨.NetlinkIpAddresses, reply⟩ ∈ now ∧
            service = advertisement traversal configuration.serverAddress reply.1 reply.2)
      (fun _ _ => False) := by
  rw [live, Program.wp_bind]
  refine Program.wp_mono (sound_construct traversal configuration) ?_ fun _ _ => id
  rintro past constructed ⟨hsound, hfactory, hadvertised⟩
  have hperformed := Program.wp_and (sound_performAll operations hsound)
    (Program.wp_extends (constructed.performAll operations) past)
  refine Program.wp_mono hperformed ?_ fun _ _ hthrown => hthrown.1
  rintro now last ⟨⟨hlast, hstopped⟩, hextends⟩
  rw [hlast.same]
  refine ⟨hlast, hstopped, hfactory, fun service hservice => ?_⟩
  obtain ⟨reply, hasked, heq⟩ := hadvertised service hservice
  exact ⟨reply, hextends.subset hasked, heq⟩

theorem refused_of_allMet {trace : List Host.Exchange} (h : AllMet trace) :
    (World.of trace).refused = ∅ := by
  induction trace using List.reverseRecOn with
  | nil => rfl
  | append_singleton past exchange ih =>
      have hpast := ih fun other hother => h other (List.mem_append_left _ hother)
      have hmet := met_last h
      rw [World.of_concat]
      match exchange, hmet with
      | ⟨.RegisterService _, .ok _⟩, _ => exact hpast
      | ⟨.UnregisterService _, .ok _⟩, _ => exact hpast
      | ⟨.BuildAndStart _, _⟩, _ => exact hpast
      | ⟨.Shutdown _, _⟩, _ => exact hpast
      | ⟨.NetlinkIpAddresses, _⟩, _ => exact hpast

-- Nothing is registered or listens that the server does not know of, but for what the
-- host refused to unregister; what is announced is the host's own addresses as they
-- were at the construction.
structure Managed (configuration : NetRemoteServerConfiguration) (trace : List Host.Exchange)
    (netRemoteServer : NetRemoteServer) : Prop where
  orderly : Orderly trace
  listening : (World.of trace).listening = netRemoteServer.server.toFinset
  registered : ∀ path ∈ (World.of trace).registered,
    path = netRemoteServer.objectPath ∨ path ∈ (World.of trace).refused
  announces : ∀ exchange ∈ trace, ∀ service, exchange.1 = .RegisterService service →
    service.serviceName = DnssdServiceName ∧ service.protocol = DnssdServiceProtocol ∧
      service.port = PortDefault ∧ ∃ record, service.txtDataRecord = [record] ∧
        ∃ reply : HostRequest.Reply .NetlinkIpAddresses, ⟨.NetlinkIpAddresses, reply⟩ ∈ trace ∧
          Describes configuration.serverAddress reply.1 reply.2 record
  together : configuration.discoveryServiceFactory → AllMet trace →
    ((World.of trace).registered = ∅ ↔ (World.of trace).listening = ∅)

-- It refuses to unregister what was registered first.
def refusing (past : List Host.Exchange) : (request : HostRequest) → HostRequest.Reply request
  | .NetlinkIpAddresses =>
      ([⟨1, AF_INET, 24, str "192.168.1.1/24"⟩], fun _ => some ⟨str "br0", str "bridge"⟩)
  | .RegisterService _ =>
      .ok (if (World.of past).registered = ∅ then ⟨str "/first", by decide⟩
        else ⟨str "/second", by decide⟩)
  | .UnregisterService path => if path = str "/first" then .error (str "timeout") else .ok ()
  | .BuildAndStart _ => some past.length
  | .Shutdown _ => ()

def anyAddress : NetRemoteServerConfiguration := { discoveryServiceFactory := true }

def restartedRun : List Host.Exchange × Except Empty NetRemoteServer :=
  (live default anyAddress [.Run, .Stop, .Run, .Stop]).run refusing []

end NetRemote.Server.NetRemoteServer
