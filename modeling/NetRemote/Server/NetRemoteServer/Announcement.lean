import NetRemote.Server.NetRemoteServer

namespace NetRemote.Server.NetRemoteServer

open Foundation Foundation.Bytes Net

-- What is announced for a server: the port is the default one whatever the address of
-- the server says.
def advertisement (traversal : Table.Traversal ByteString IpAddressInformation)
    (serverAddress : ByteString) (netlinkIpAddresses : List NetlinkIpAddress)
    (fromInterfaceIndex : Int → Option NetlinkLink) : DnssdService where
  serviceName := DnssdServiceName
  protocol := DnssdServiceProtocol
  port := PortDefault
  priority := 0
  weight := 0
  txtDataRecord := [ResolvedDnssd.buildTxtDataRecord traversal
    (getLocalIpAddressInformation fromInterfaceIndex netlinkIpAddresses serverAddress)]

-- The addresses that are announced for a server address.
def Matches (serverAddress : ByteString) (netlinkIpAddress : NetlinkIpAddress) : Prop :=
  isAnyAddress serverAddress ∨ netlinkIpAddress.address <+: serverAddress

-- A record names only addresses of the host that match, without the length of the
-- prefix and each with the type of an interface that has it; for the any-address it
-- names all of them.
structure Describes (serverAddress : ByteString) (netlinkIpAddresses : List NetlinkIpAddress)
    (fromInterfaceIndex : Int → Option NetlinkLink) (record : Table ByteString ByteString) :
    Prop where
  known : ∀ key value, record.lookup key = some value →
    ∃ netlinkIpAddress ∈ netlinkIpAddresses, Matches serverAddress netlinkIpAddress ∧
      ResolvedDnssd.withoutPrefixLength netlinkIpAddress.address = key ∧
      ∃ netlinkLink, fromInterfaceIndex netlinkIpAddress.interfaceIndex = some netlinkLink ∧
        ResolvedDnssd.getInterfaceTypeName (getNetworkInterfaceType netlinkLink) = value
  complete : isAnyAddress serverAddress → ∀ netlinkIpAddress ∈ netlinkIpAddresses,
    (fromInterfaceIndex netlinkIpAddress.interfaceIndex).isSome →
      ∃ value, record.lookup (ResolvedDnssd.withoutPrefixLength netlinkIpAddress.address) =
        some value

section Local

variable {fromInterfaceIndex : Int → Option NetlinkLink}
  {netlinkIpAddresses : List NetlinkIpAddress} {serverAddress : ByteString}

-- What the kernel tells of one address, where its link is found.
def described (fromInterfaceIndex : Int → Option NetlinkLink)
    (netlinkIpAddress : NetlinkIpAddress) : Option (ByteString × IpAddressInformation) :=
  (fromInterfaceIndex netlinkIpAddress.interfaceIndex).map
    (netlinkToIpAddressInformation netlinkIpAddress)

theorem emplaceInformation_eq (results : Table ByteString IpAddressInformation)
    (netlinkIpAddress : NetlinkIpAddress) :
    emplaceInformation fromInterfaceIndex results netlinkIpAddress =
      (described fromInterfaceIndex netlinkIpAddress).elim results fun information =>
        results.emplace information.1 information.2 := by
  unfold emplaceInformation described
  cases fromInterfaceIndex netlinkIpAddress.interfaceIndex <;> rfl

theorem foldl_emplaceInformation (results : Table ByteString IpAddressInformation) :
    netlinkIpAddresses.foldl (emplaceInformation fromInterfaceIndex) results =
      (netlinkIpAddresses.filterMap (described fromInterfaceIndex)).foldl
        (fun (results : Table ByteString IpAddressInformation) information =>
          results.emplace information.1 information.2) results := by
  rw [List.foldl_filterMap]
  congr 1
  funext results netlinkIpAddress
  rw [emplaceInformation_eq]
  cases described fromInterfaceIndex netlinkIpAddress <;> rfl

theorem lookup_foldl_emplaceInformation (key : ByteString) :
    (netlinkIpAddresses.foldl (emplaceInformation fromInterfaceIndex) ∅).lookup key =
      ((netlinkIpAddresses.filterMap (described fromInterfaceIndex)).find?
        fun information => information.1 = key).map Prod.snd := by
  rw [foldl_emplaceInformation, Table.lookup_foldl_emplace, AList.lookup_empty, Option.none_or]

theorem described_of_lookup {key : ByteString} {ipAddressInformation : IpAddressInformation}
    (h : (netlinkIpAddresses.foldl (emplaceInformation fromInterfaceIndex) ∅).lookup key =
      some ipAddressInformation) :
    ∃ netlinkIpAddress ∈ netlinkIpAddresses,
      described fromInterfaceIndex netlinkIpAddress = some (key, ipAddressInformation) := by
  rw [lookup_foldl_emplaceInformation, Option.map_eq_some_iff] at h
  obtain ⟨⟨found, _⟩, hfound, rfl⟩ := h
  obtain rfl : found = key := by simpa using List.find?_some hfound
  exact List.mem_filterMap.mp (List.mem_of_find?_eq_some hfound)

theorem lookup_of_described {netlinkIpAddress : NetlinkIpAddress}
    (hmem : netlinkIpAddress ∈ netlinkIpAddresses) {information : ByteString × IpAddressInformation}
    (h : described fromInterfaceIndex netlinkIpAddress = some information) :
    ∃ ipAddressInformation,
      (netlinkIpAddresses.foldl (emplaceInformation fromInterfaceIndex) ∅).lookup information.1 =
        some ipAddressInformation := by
  rw [lookup_foldl_emplaceInformation]
  have hsome : ((netlinkIpAddresses.filterMap (described fromInterfaceIndex)).find?
      fun other => other.1 = information.1).isSome :=
    List.find?_isSome.mpr
      ⟨information, List.mem_filterMap.mpr ⟨netlinkIpAddress, hmem, h⟩, by simp⟩
  obtain ⟨found, hfound⟩ := Option.isSome_iff_exists.mp hsome
  exact ⟨found.2, by rw [hfound]; rfl⟩

-- For another address than the any-address, it is as if the kernel knew only the first
-- that the server address starts with.
theorem getLocalIpAddressInformation_cases (fromInterfaceIndex : Int → Option NetlinkLink)
    (netlinkIpAddresses : List NetlinkIpAddress) (serverAddress : ByteString) :
    ∃ considered : List NetlinkIpAddress, considered ⊆ netlinkIpAddresses ∧
      (∀ netlinkIpAddress ∈ considered, Matches serverAddress netlinkIpAddress) ∧
      (isAnyAddress serverAddress → considered = netlinkIpAddresses) ∧
      getLocalIpAddressInformation fromInterfaceIndex netlinkIpAddresses serverAddress =
        considered.foldl (emplaceInformation fromInterfaceIndex) ∅ := by
  unfold getLocalIpAddressInformation
  by_cases hany : isAnyAddress serverAddress
  · rw [if_pos hany]
    exact ⟨netlinkIpAddresses, List.Subset.refl _, fun _ _ => .inl hany, fun _ => rfl, rfl⟩
  · rw [if_neg hany]
    cases hfound : netlinkIpAddresses.find? fun netlinkIpAddress =>
        netlinkIpAddress.address.isPrefixOf serverAddress with
    | none => exact ⟨[], List.nil_subset _, nofun, fun h => absurd h hany, rfl⟩
    | some netlinkIpAddress =>
        have hmem := List.mem_of_find?_eq_some hfound
        have hleads := List.find?_some hfound
        have hprefix := List.isPrefixOf_iff_prefix.mp hleads
        refine ⟨[netlinkIpAddress], ?_, ?_, fun h => absurd h hany, rfl⟩
        · intro other hother
          rwa [List.mem_singleton.mp hother]
        · intro other hother
          rw [List.mem_singleton.mp hother]
          exact .inr hprefix

end Local

theorem buildTxtDataRecord_eq (traversal : Table.Traversal ByteString IpAddressInformation)
    (ipAddresses : Table ByteString IpAddressInformation) :
    ResolvedDnssd.buildTxtDataRecord traversal ipAddresses =
      traversal.rekey ResolvedDnssd.withoutPrefixLength
        (fun ipAddressInformation =>
          ResolvedDnssd.getInterfaceTypeName ipAddressInformation.interfaceType) ipAddresses :=
  rfl

theorem describes_advertisement (traversal : Table.Traversal ByteString IpAddressInformation)
    (serverAddress : ByteString) (netlinkIpAddresses : List NetlinkIpAddress)
    (fromInterfaceIndex : Int → Option NetlinkLink) :
    ∃ record, (advertisement traversal serverAddress netlinkIpAddresses
        fromInterfaceIndex).txtDataRecord = [record] ∧
      Describes serverAddress netlinkIpAddresses fromInterfaceIndex record := by
  refine ⟨_, rfl, ?_⟩
  obtain ⟨considered, hsubset, hmatches, hall, heq⟩ :=
    getLocalIpAddressInformation_cases fromInterfaceIndex netlinkIpAddresses serverAddress
  rw [buildTxtDataRecord_eq, heq]
  constructor
  · intro key value hlookup
    obtain ⟨source, information, hsource, hkey, hvalue⟩ := Table.Traversal.of_lookup_rekey hlookup
    obtain ⟨netlinkIpAddress, hmem, hdescribed⟩ := described_of_lookup hsource
    obtain ⟨netlinkLink, hlink, hinformation⟩ := Option.map_eq_some_iff.mp hdescribed
    cases hinformation
    exact ⟨netlinkIpAddress, hsubset hmem, hmatches _ hmem, hkey, netlinkLink, hlink, hvalue⟩
  · intro hany netlinkIpAddress hmem hlink
    rw [hall hany]
    obtain ⟨netlinkLink, hlink⟩ := Option.isSome_iff_exists.mp hlink
    have hdescribed : described fromInterfaceIndex netlinkIpAddress =
        some (netlinkToIpAddressInformation netlinkIpAddress netlinkLink) :=
      Option.map_eq_some_iff.mpr ⟨netlinkLink, hlink, rfl⟩
    obtain ⟨_, hlookup⟩ := lookup_of_described hmem hdescribed
    exact Table.Traversal.exists_lookup_rekey hlookup

end NetRemote.Server.NetRemoteServer
