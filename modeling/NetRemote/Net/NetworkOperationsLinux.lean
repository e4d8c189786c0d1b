import Mathlib.Data.Finset.Basic
import NetRemote.Foundation.Table
import NetRemote.Net.NetworkIpAddress.Grammar

namespace NetRemote.Net

open Foundation Foundation.Bytes

inductive NetworkIpFamily where
  | Unknown
  | Ipv4
  | Ipv6
  deriving DecidableEq, Repr

inductive NetworkInterfaceType where
  | Unknown
  | Other
  | Ethernet
  | Wifi
  | Bridge
  deriving DecidableEq, Repr

structure IpAddressInformation where
  family : NetworkIpFamily := .Unknown
  interfaceType : NetworkInterfaceType := .Unknown
  interfaceName : ByteString := []
  deriving DecidableEq, Repr

structure NetlinkIpAddress where
  interfaceIndex : Int
  family : Int
  prefixLength : Int
  address : ByteString
  deriving DecidableEq, Repr

structure NetlinkLink where
  name : ByteString
  type : ByteString
  deriving DecidableEq, Repr

def AF_INET : Int := 2
def AF_INET6 : Int := 10

def getNetworkInterfaceType (netlinkLink : NetlinkLink) : NetworkInterfaceType :=
  if netlinkLink.type = str "wireless" then .Wifi
  else if netlinkLink.type = str "bridge" then .Bridge
  else if netlinkLink.type = str "ethernet" ∨ netlinkLink.type = str "loopback" then .Other
  else .Unknown

def getNetworkIpFamily (netlinkIpAddress : NetlinkIpAddress) : NetworkIpFamily :=
  if netlinkIpAddress.family = AF_INET then .Ipv4
  else if netlinkIpAddress.family = AF_INET6 then .Ipv6
  else .Unknown

def netlinkToIpAddressInformation (netlinkIpAddress : NetlinkIpAddress)
    (netlinkLink : NetlinkLink) : ByteString × IpAddressInformation :=
  (netlinkIpAddress.address, {
    family := getNetworkIpFamily netlinkIpAddress
    interfaceType := getNetworkInterfaceType netlinkLink
    interfaceName := netlinkLink.name })

section Operations

-- The kernel's answer for the index of an interface.
variable (fromInterfaceIndex : Int → Option NetlinkLink)

-- One address goes into the results where its link is found.
def emplaceInformation (results : Table ByteString IpAddressInformation)
    (netlinkIpAddress : NetlinkIpAddress) : Table ByteString IpAddressInformation :=
  match fromInterfaceIndex netlinkIpAddress.interfaceIndex with
  | some netlinkLink =>
      let information := netlinkToIpAddressInformation netlinkIpAddress netlinkLink
      results.emplace information.1 information.2
  | none => results

-- The addresses are those of the system in the order of their container.
def getLocalIpAddressInformation (netlinkIpAddresses : List NetlinkIpAddress)
    (ipAddress : ByteString) : Table ByteString IpAddressInformation :=
  if isAnyAddress ipAddress then
    netlinkIpAddresses.foldl (emplaceInformation fromInterfaceIndex) ∅
  else
    match netlinkIpAddresses.find? fun netlinkIpAddress =>
      netlinkIpAddress.address.isPrefixOf ipAddress with
    | some netlinkIpAddress => emplaceInformation fromInterfaceIndex ∅ netlinkIpAddress
    | none => ∅

end Operations

namespace LocalIpAddress

open Grammar

-- An address in dotted notation, with a port or without, that is not the any-address.
structure ServerAddress where
  ip : ByteString
  port : ByteString
  octets : ∃ first second third fourth,
    Octet first ∧ Octet second ∧ Octet third ∧ Octet fourth ∧ ip = dotted first second third fourth
  decimalPort : DecimalPort port
  fixed : ip ≠ str "0.0.0.0"

def ServerAddress.text (serverAddress : ServerAddress) : ByteString :=
  serverAddress.ip ++ serverAddress.port

-- The address without the length of its prefix.
def ipOf (netlinkIpAddress : NetlinkIpAddress) : ByteString :=
  netlinkIpAddress.address.takeWhile (· ≠ 47)

-- The set in one of the orders that it can be iterated in.
def IsOrder (netlinkIpAddresses : Finset NetlinkIpAddress) (order : List NetlinkIpAddress) : Prop :=
  (order : Multiset NetlinkIpAddress) = netlinkIpAddresses.val

def IsLocal (netlinkIpAddresses : Finset NetlinkIpAddress) (ip : ByteString) : Prop :=
  ∃ netlinkIpAddress ∈ netlinkIpAddresses, ipOf netlinkIpAddress = ip

-- One entry for the address with what is known of an interface that owns it, and none
-- for an address that is not local.
structure Announces (fromInterfaceIndex : Int → Option NetlinkLink)
    (netlinkIpAddresses : Finset NetlinkIpAddress) (ip : ByteString)
    (results : Table ByteString IpAddressInformation) : Prop where
  owned : IsLocal netlinkIpAddresses ip →
    ∃ netlinkIpAddress ∈ netlinkIpAddresses, ipOf netlinkIpAddress = ip ∧
      ∃ netlinkLink, fromInterfaceIndex netlinkIpAddress.interfaceIndex = some netlinkLink ∧
        results.pairs =
          [(ip, (netlinkToIpAddressInformation netlinkIpAddress netlinkLink).2)]
  foreign : ¬ IsLocal netlinkIpAddresses ip → results.pairs = []

section Text

variable (serverAddress : ServerAddress)

theorem isAnyAddress_text : isAnyAddress serverAddress.text = false := by
  obtain ⟨first, second, third, fourth, hfirst, hsecond, hthird, hfourth, hip⟩ :=
    serverAddress.octets
  have hne := serverAddress.fixed
  rw [hip] at hne
  rw [ServerAddress.text, hip]
  exact isAnyAddress_dotted hfirst hsecond hthird hfourth serverAddress.decimalPort hne

theorem slash_not_mem_text : (47 : UInt8) ∉ serverAddress.text := by
  obtain ⟨first, second, third, fourth, hfirst, hsecond, hthird, hfourth, hip⟩ :=
    serverAddress.octets
  have hnone : ∀ {octet : ByteString}, Octet octet → (47 : UInt8) ∉ octet :=
    fun hoctet => not_mem_of_digits (by decide) hoctet.2.2.1
  have hdot : (47 : UInt8) ∉ str "." := by decide
  have hport : (47 : UInt8) ∉ serverAddress.port := by
    rcases serverAddress.decimalPort with hport | ⟨number, -, hdigits, hport⟩
    · rw [hport]
      exact List.not_mem_nil
    · rw [hport, List.mem_append, not_or]
      exact ⟨by decide, not_mem_of_digits (by decide) hdigits⟩
  rw [ServerAddress.text, hip]
  simp only [dotted, List.mem_append, hnone hfirst, hnone hsecond, hnone hthird, hnone hfourth,
    hdot, hport, or_self, not_false_eq_true]

-- What has no slash is no address with the length of its prefix.
theorem ipOf_of_not_mem {netlinkIpAddress : NetlinkIpAddress}
    (h : (47 : UInt8) ∉ netlinkIpAddress.address) :
    ipOf netlinkIpAddress = netlinkIpAddress.address := by
  apply List.takeWhile_eq_self_iff.mpr
  intro byte hbyte
  rw [decide_eq_true_eq]
  rintro rfl
  exact h hbyte

theorem ipOf_of_leading {netlinkIpAddress : NetlinkIpAddress}
    (h : netlinkIpAddress.address <+: serverAddress.text) :
    ipOf netlinkIpAddress = netlinkIpAddress.address :=
  ipOf_of_not_mem fun hmem => slash_not_mem_text serverAddress (h.subset hmem)

end Text

section Orders

variable {netlinkIpAddresses : Finset NetlinkIpAddress} {order : List NetlinkIpAddress}

theorem IsOrder.mem_iff (h : IsOrder netlinkIpAddresses order)
    (netlinkIpAddress : NetlinkIpAddress) :
    netlinkIpAddress ∈ order ↔ netlinkIpAddress ∈ netlinkIpAddresses := by
  rw [← Multiset.mem_coe, h, Finset.mem_val]

-- Any address can be the one that comes first.
theorem exists_order_cons {netlinkIpAddress : NetlinkIpAddress}
    (h : netlinkIpAddress ∈ netlinkIpAddresses) :
    ∃ rest, IsOrder netlinkIpAddresses (netlinkIpAddress :: rest) := by
  refine ⟨(netlinkIpAddresses.erase netlinkIpAddress).toList, ?_⟩
  have hperm := (netlinkIpAddresses.erase netlinkIpAddress).coe_toList
  rw [IsOrder, ← Multiset.cons_coe, hperm, Finset.erase_val, Multiset.cons_erase h]

end Orders

section Results

variable {fromInterfaceIndex : Int → Option NetlinkLink}
  {netlinkIpAddresses : Finset NetlinkIpAddress} (serverAddress : ServerAddress)

theorem pairs_emplaceInformation {netlinkIpAddress : NetlinkIpAddress} {netlinkLink : NetlinkLink}
    (h : fromInterfaceIndex netlinkIpAddress.interfaceIndex = some netlinkLink) :
    (emplaceInformation fromInterfaceIndex ∅ netlinkIpAddress).pairs =
      [(netlinkIpAddress.address,
        (netlinkToIpAddressInformation netlinkIpAddress netlinkLink).2)] := by
  rw [emplaceInformation, h]
  rfl

theorem getLocalIpAddressInformation_eq (order : List NetlinkIpAddress) :
    getLocalIpAddressInformation fromInterfaceIndex order serverAddress.text =
      (order.find? fun netlinkIpAddress =>
        netlinkIpAddress.address.isPrefixOf serverAddress.text).elim ∅
          (emplaceInformation fromInterfaceIndex ∅) := by
  rw [getLocalIpAddressInformation, if_neg (by rw [isAnyAddress_text]; nofun)]
  cases order.find? fun netlinkIpAddress =>
    netlinkIpAddress.address.isPrefixOf serverAddress.text <;> rfl

theorem prefix_of_find? {order : List NetlinkIpAddress} {netlinkIpAddress : NetlinkIpAddress}
    (h : (order.find? fun netlinkIpAddress =>
      netlinkIpAddress.address.isPrefixOf serverAddress.text) = some netlinkIpAddress) :
    netlinkIpAddress.address <+: serverAddress.text := by
  have hfound := List.find?_some h
  exact List.isPrefixOf_iff_prefix.mp hfound

-- Where only the address itself can be the start of the text, it is what is found.
theorem announces_of_found
    (hlinks : ∀ netlinkIpAddress ∈ netlinkIpAddresses,
      ∃ netlinkLink, fromInterfaceIndex netlinkIpAddress.interfaceIndex = some netlinkLink)
    (hstarts : ∀ netlinkIpAddress ∈ netlinkIpAddresses,
      netlinkIpAddress.address <+: serverAddress.text → ipOf netlinkIpAddress = serverAddress.ip)
    (hwritten : IsLocal netlinkIpAddresses serverAddress.ip →
      ∃ netlinkIpAddress ∈ netlinkIpAddresses, netlinkIpAddress.address = serverAddress.ip)
    {order : List NetlinkIpAddress} (horder : IsOrder netlinkIpAddresses order) :
    Announces fromInterfaceIndex netlinkIpAddresses serverAddress.ip
      (getLocalIpAddressInformation fromInterfaceIndex order serverAddress.text) := by
  rw [getLocalIpAddressInformation_eq]
  cases hfound : order.find? fun netlinkIpAddress =>
      netlinkIpAddress.address.isPrefixOf serverAddress.text with
  | none =>
      have hnone : ¬ IsLocal netlinkIpAddresses serverAddress.ip := by
        intro hlocal
        obtain ⟨netlinkIpAddress, hmem, haddress⟩ := hwritten hlocal
        have hnot := List.find?_eq_none.mp hfound _ ((horder.mem_iff _).mpr hmem)
        rw [haddress, List.isPrefixOf_iff_prefix] at hnot
        exact hnot (List.prefix_append _ _)
      exact ⟨fun hlocal => absurd hlocal hnone, fun _ => rfl⟩
  | some netlinkIpAddress =>
      have hmem := (horder.mem_iff _).mp (List.mem_of_find?_eq_some hfound)
      have hprefixed := prefix_of_find? serverAddress hfound
      have hip := hstarts _ hmem hprefixed
      have haddress : netlinkIpAddress.address = serverAddress.ip :=
        (ipOf_of_leading serverAddress hprefixed).symm.trans hip
      obtain ⟨netlinkLink, hlink⟩ := hlinks _ hmem
      refine ⟨fun _ => ⟨netlinkIpAddress, hmem, hip, netlinkLink, hlink, ?_⟩, fun hnot => ?_⟩
      · rw [Option.elim_some, pairs_emplaceInformation hlink, haddress]
      · exact absurd ⟨netlinkIpAddress, hmem, hip⟩ hnot

-- The first address that the text starts with is taken, whatever follows it there, and
-- an address that is rendered with a prefix is never found.
theorem localIpAddress_announced_iff
    (hlinks : ∀ netlinkIpAddress ∈ netlinkIpAddresses,
      ∃ netlinkLink, fromInterfaceIndex netlinkIpAddress.interfaceIndex = some netlinkLink) :
    (∀ order, IsOrder netlinkIpAddresses order →
      Announces fromInterfaceIndex netlinkIpAddresses serverAddress.ip
        (getLocalIpAddressInformation fromInterfaceIndex order serverAddress.text)) ↔
      (∀ netlinkIpAddress ∈ netlinkIpAddresses,
        netlinkIpAddress.address <+: serverAddress.text →
          ipOf netlinkIpAddress = serverAddress.ip) ∧
      (IsLocal netlinkIpAddresses serverAddress.ip →
        ∃ netlinkIpAddress ∈ netlinkIpAddresses, netlinkIpAddress.address = serverAddress.ip) := by
  constructor
  · intro hannounces
    have hstarts : ∀ netlinkIpAddress ∈ netlinkIpAddresses,
        netlinkIpAddress.address <+: serverAddress.text →
          ipOf netlinkIpAddress = serverAddress.ip := by
      intro netlinkIpAddress hmem hprefixed
      obtain ⟨rest, horder⟩ := exists_order_cons hmem
      obtain ⟨netlinkLink, hlink⟩ := hlinks _ hmem
      have hresult := hannounces _ horder
      have hfirst : (netlinkIpAddress :: rest).find? (fun netlinkIpAddress =>
          netlinkIpAddress.address.isPrefixOf serverAddress.text) = some netlinkIpAddress :=
        List.find?_cons_of_pos (List.isPrefixOf_iff_prefix.mpr hprefixed)
      rw [getLocalIpAddressInformation_eq, hfirst, Option.elim_some] at hresult
      have hpairs := pairs_emplaceInformation hlink
      by_cases hlocal : IsLocal netlinkIpAddresses serverAddress.ip
      · obtain ⟨owner, -, -, ownerLink, -, hone⟩ := hresult.owned hlocal
        rw [hpairs] at hone
        have hkey := congrArg Prod.fst (List.head_eq_of_cons_eq hone)
        exact (ipOf_of_leading serverAddress hprefixed).trans hkey
      · have hnone := hresult.foreign hlocal
        rw [hpairs] at hnone
        cases hnone
    refine ⟨hstarts, fun hlocal => ?_⟩
    have ⟨owner, howner, _⟩ := hlocal
    obtain ⟨rest, horder⟩ := exists_order_cons howner
    obtain ⟨_, _, _, _, _, hone⟩ := (hannounces _ horder).owned hlocal
    rw [getLocalIpAddressInformation_eq] at hone
    cases hfound : (owner :: rest).find? fun netlinkIpAddress =>
        netlinkIpAddress.address.isPrefixOf serverAddress.text with
    | none =>
        rw [hfound] at hone
        cases hone
    | some netlinkIpAddress =>
        have hmem := (horder.mem_iff _).mp (List.mem_of_find?_eq_some hfound)
        have hprefixed := prefix_of_find? serverAddress hfound
        refine ⟨netlinkIpAddress, hmem, ?_⟩
        exact (ipOf_of_leading serverAddress hprefixed).symm.trans (hstarts _ hmem hprefixed)
  · rintro ⟨hstarts, hwritten⟩ order horder
    exact announces_of_found serverAddress hlinks hstarts hwritten horder

end Results

def ethernet (interfaceIndex : Int) : Option NetlinkLink :=
  some ⟨if interfaceIndex = 1 then str "eth0" else str "eth1", str "ethernet"⟩

def hostAddress : NetlinkIpAddress := ⟨1, AF_INET, 32, str "10.0.0.1"⟩

def longerAddress : NetlinkIpAddress := ⟨2, AF_INET, 32, str "10.0.0.10"⟩

def subnetAddress : NetlinkIpAddress := ⟨1, AF_INET, 24, str "10.0.0.1/24"⟩

-- `10.0.0.1:80`
def hostServer : ServerAddress where
  ip := str "10.0.0.1"
  port := str ":80"
  octets := ⟨str "10", str "0", str "0", str "1", by decide, by decide, by decide, by decide, rfl⟩
  decimalPort := .inr ⟨str "80", by decide, List.all_eq_true.mp (by decide), rfl⟩
  fixed := by decide

-- `10.0.0.10`
def longerServer : ServerAddress where
  ip := str "10.0.0.10"
  port := []
  octets := ⟨str "10", str "0", str "0", str "10", by decide, by decide, by decide, by decide, rfl⟩
  decimalPort := .inl rfl
  fixed := by decide

theorem localIpAddress_announced_host :
    IsOrder {hostAddress} [hostAddress] ∧
      Announces ethernet {hostAddress} hostServer.ip
        (getLocalIpAddressInformation ethernet [hostAddress] hostServer.text) := by
  have horder : IsOrder {hostAddress} [hostAddress] := rfl
  refine ⟨horder, ?_⟩
  refine (localIpAddress_announced_iff hostServer fun _ _ => ⟨_, rfl⟩).mpr ⟨?_, ?_⟩ _ horder
  · intro netlinkIpAddress hmem _
    rw [Finset.mem_singleton.mp hmem]
    decide
  · intro _
    exact ⟨hostAddress, Finset.mem_singleton_self _, rfl⟩

-- The address of another interface that is a shorter text, and an address whose prefix
-- is rendered with it.
theorem localIpAddress_misannounced :
    (getLocalIpAddressInformation ethernet [hostAddress, longerAddress] longerServer.text).pairs =
        [(str "10.0.0.1", ⟨.Ipv4, .Other, str "eth0"⟩)] ∧
      IsOrder {hostAddress, longerAddress} [hostAddress, longerAddress] ∧
      ¬ Announces ethernet {hostAddress, longerAddress} longerServer.ip
        (getLocalIpAddressInformation ethernet [hostAddress, longerAddress] longerServer.text) ∧
      (getLocalIpAddressInformation ethernet [subnetAddress] hostServer.text).pairs = [] ∧
      IsOrder {subnetAddress} [subnetAddress] ∧
      ¬ Announces ethernet {subnetAddress} hostServer.ip
        (getLocalIpAddressInformation ethernet [subnetAddress] hostServer.text) := by
  have hshorter :
      (getLocalIpAddressInformation ethernet [hostAddress, longerAddress] longerServer.text).pairs =
        [(str "10.0.0.1", ⟨.Ipv4, .Other, str "eth0"⟩)] := by
    rw [getLocalIpAddressInformation_eq]
    decide
  have hsubnet :
      (getLocalIpAddressInformation ethernet [subnetAddress] hostServer.text).pairs = [] := by
    rw [getLocalIpAddressInformation_eq]
    decide
  have hdifferent : str "10.0.0.1" ≠ longerServer.ip := by decide
  refine ⟨hshorter, rfl, fun hannounces => ?_, hsubnet, rfl, fun hannounces => ?_⟩
  · have hlocal : IsLocal {hostAddress, longerAddress} longerServer.ip :=
      ⟨longerAddress, by decide, by decide⟩
    obtain ⟨_, _, _, _, _, hone⟩ := hannounces.owned hlocal
    rw [hshorter] at hone
    exact hdifferent (congrArg Prod.fst (List.head_eq_of_cons_eq hone))
  · have hlocal : IsLocal {subnetAddress} hostServer.ip := ⟨subnetAddress, by decide, by decide⟩
    obtain ⟨_, _, _, _, _, hone⟩ := hannounces.owned hlocal
    rw [hsubnet] at hone
    cases hone

end LocalIpAddress

end NetRemote.Net
