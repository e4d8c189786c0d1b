import NetRemote.Foundation.Reliance
import NetRemote.Netlink.NetlinkOperations
import NetRemote.Wpa.ProtocolHostapd

namespace NetRemote.Net

open Foundation Foundation.Bytes Netlink Wpa

structure NetworkInterfaceId where
  name : ByteString
  type : NetworkInterfaceType := .Unknown
  deriving DecidableEq, Repr

structure NetworkIpAddress where
  family : NetworkIpFamily := .Unknown
  address : ByteString
  prefixLength : UInt32
  deriving DecidableEq, Repr

-- The order in which a set hands out its elements is its own choice.
structure SetOrder (α : Type) where
  visit : Finset α → List α
  visit_eq : ∀ elements, (visit elements : Multiset α) = elements.val

theorem SetOrder.mem_visit {α : Type} (order : SetOrder α) {elements : Finset α} {a : α} :
    a ∈ order.visit elements ↔ a ∈ elements := by
  rw [← Multiset.mem_coe, order.visit_eq, Finset.mem_val]

theorem SetOrder.nodup_visit {α : Type} (order : SetOrder α) (elements : Finset α) :
    (order.visit elements).Nodup := by
  rw [← Multiset.coe_nodup, order.visit_eq]
  exact elements.nodup

namespace NetworkOperationsLinux

def netlinkIpAddressToNetworkIpAddress (netlinkIpAddress : NetlinkIpAddress) :
    NetworkIpAddress where
  family := getNetworkIpFamily netlinkIpAddress
  address := netlinkIpAddress.address
  prefixLength := UInt32.ofInt netlinkIpAddress.prefixLength

def netlinkLinkToNetworkInterfaceId (netlinkLink : NetlinkLink) : NetworkInterfaceId where
  name := netlinkLink.name
  type := getNetworkInterfaceType netlinkLink

def enumerateNetworkInterfaces : Program Library Fault (Finset NetworkInterfaceId) :=
  Program.noexcept .Terminate do
    let netlinkLinks ← netlinkEnumerateLinks
    return netlinkLinks.image fun netlinkLink =>
      netlinkLinkToNetworkInterfaceId netlinkLink.toNetlinkLink

def getNetworkInterfaceAddresses (networkInterfaceName : ByteString) :
    Program Library Fault (Finset NetworkIpAddress) :=
  Program.noexcept .Terminate do
    let networkInterfaceIndex : UInt32 ← call (.IfNametoindex networkInterfaceName)
    if networkInterfaceIndex = 0 then return ∅
    else do
      let netlinkIpAddresses ← netlinkEnumerateIpAddresses
      let matching := netlinkIpAddresses.filter fun netlinkIpAddress =>
        netlinkIpAddress.interfaceIndex = networkInterfaceIndex.toInt32.toInt
      return matching.image netlinkIpAddressToNetworkIpAddress

end NetworkOperationsLinux

namespace NetworkManager

open NetworkOperationsLinux

-- The addresses are asked for again for each of the interfaces.
def getInformationOf (networkInterfaceInfo : Table NetworkInterfaceId (Finset NetworkIpAddress)) :
    List NetworkInterfaceId →
      Program Library Fault (Table NetworkInterfaceId (Finset NetworkIpAddress))
  | [] => return networkInterfaceInfo
  | networkInterfaceId :: rest => do
      let networkIpAddresses ← getNetworkInterfaceAddresses networkInterfaceId.name
      getInformationOf (networkInterfaceInfo.insert networkInterfaceId networkIpAddresses) rest

def getNetworkInterfaceInformation (order : SetOrder NetworkInterfaceId) :
    Program Library Fault (Table NetworkInterfaceId (Finset NetworkIpAddress)) :=
  Program.noexcept Fault.Terminate do
    let networkInterfaces ← enumerateNetworkInterfaces
    getInformationOf ∅ (order.visit networkInterfaces)

end NetworkManager

-- The links and the addresses that the kernel has, with links of different names.
structure Kernel where
  links : Finset RtnlLink
  addresses : Finset RtnlAddr
  names : Set.InjOn RtnlLink.name links

namespace Kernel

def idOf (link : RtnlLink) : NetworkInterfaceId :=
  NetworkOperationsLinux.netlinkLinkToNetworkInterfaceId
    (NetlinkLinkDetails.fromRtnlLink link).toNetlinkLink

def addressesOf (kernel : Kernel) (link : RtnlLink) : Finset NetworkIpAddress :=
  (kernel.addresses.filter fun address => address.index = link.index).image fun address =>
    NetworkOperationsLinux.netlinkIpAddressToNetworkIpAddress (fromRtnlAddr address)

def IsIndexOf (kernel : Kernel) (name : ByteString) (index : UInt32) : Prop :=
  ∀ link ∈ kernel.links, link.name = name → index ≠ 0 ∧ index.toInt32.toInt = link.index

-- A reply tells of the kernel as it is.
def Tells (kernel : Kernel) : Library.Exchange → Prop
  | ⟨.RtnlLinks _, links⟩ => (links : List RtnlLink).toFinset = kernel.links
  | ⟨.RtnlAddrs _, addresses⟩ => (addresses : List RtnlAddr).toFinset = kernel.addresses
  | ⟨.IfNametoindex name, index⟩ => kernel.IsIndexOf name index
  | _ => True

def Negative (ret : Int) : Prop := ret < 0

-- Nothing can be had from the kernel.
def Refuses : Library.Exchange → Prop
  | ⟨.NlSocketAlloc, socket⟩ => (socket : Pointer) = none
  | ⟨.NlConnect _ _, ret⟩ => Negative ret
  | ⟨.RtnlLinkAllocCache _ _, result⟩ | ⟨.RtnlAddrAllocCache _, result⟩ =>
      Except.toOption result = (none : Option Nat)
  | _ => False

def reliance (kernel : Kernel) : Reliance Library := ⟨kernel.Tells, Refuses⟩

section Delivers

open Reliance

variable (kernel : Kernel)

theorem delivers_destroySocket (netlinkSocket : NetlinkSocket) :
    kernel.reliance.Delivers (fun _ => True) netlinkSocket.destroy := by
  obtain ⟨socket⟩ := netlinkSocket
  cases socket with
  | none => exact delivers_return trivial
  | some address =>
      exact delivers_checked (fun _ hfailed => hfailed.elim) fun _ _ _ => delivers_return trivial

theorem delivers_createNlRouteSocket :
    kernel.reliance.Delivers (fun _ => True) createNlRouteSocket := by
  have hallocate : kernel.reliance.Delivers (fun _ => True) NetlinkSocket.allocate := by
    apply delivers_checked
    · rintro _ rfl
      exact ⟨_, rfl⟩
    · intro socket _ hnot
      cases socket with
      | none => exact absurd rfl hnot
      | some address => exact delivers_return trivial
  apply delivers_bind hallocate
  intro netlinkSocket _
  apply delivers_guarded
  apply delivers_checked
  · intro (ret : Int) (hfailed : ret < 0)
    exact ⟨failedToConnect ret, by rw [Program.onlyIf, if_pos (decide_eq_true hfailed)]; rfl⟩
  · intro (ret : Int) _ (hnot : ¬ ret < 0)
    rw [Program.onlyIf, if_neg (mt of_decide_eq_true hnot)]
    exact delivers_return trivial

-- A block with a connected socket.
theorem delivers_withSocket {α : Type} {described : α → Prop}
    {block : NetlinkSocket → NetlinkAction α}
    (hblock : ∀ nlRouteSocket, kernel.reliance.Delivers described (block nlRouteSocket)) :
    kernel.reliance.Delivers described (createNlRouteSocket >>= fun nlRouteSocket =>
      Program.enclosed nlRouteSocket.destroy (block nlRouteSocket)) :=
  delivers_bind (kernel.delivers_createNlRouteSocket) fun nlRouteSocket _ =>
    delivers_enclosed (kernel.delivers_destroySocket nlRouteSocket) (hblock nlRouteSocket)

theorem delivers_freeCache (cache : Nat) :
    kernel.reliance.Delivers (fun _ => True) (freeCache cache) :=
  delivers_checked (fun _ => False.elim) fun _ _ _ => delivers_return trivial

theorem throws_cacheOrThrow {kind : ByteString} {result : Except Int Nat}
    (h : result.toOption = none) : ∃ error, cacheOrThrow kind result = .Throw error := by
  cases result with
  | ok cache => cases h
  | error ret => exact ⟨_, rfl⟩

theorem delivers_cacheOrThrow {kind : ByteString} {result : Except Int Nat}
    (h : ¬ result.toOption = none) :
    kernel.reliance.Delivers (fun _ => True) (cacheOrThrow kind result) := by
  cases result with
  | ok cache => exact delivers_return trivial
  | error ret => exact absurd rfl h

-- A block with a socket and with a cache that is read through it.
theorem delivers_withCache {α : Type} {described : α → Prop}
    {allocate : NetlinkSocket → NetlinkAction Nat} {read : Nat → NetlinkAction α}
    (hallocate : ∀ nlRouteSocket,
      kernel.reliance.Delivers (fun _ => True) (allocate nlRouteSocket))
    (hread : ∀ cache, kernel.reliance.Delivers described (read cache)) :
    kernel.reliance.Delivers described (createNlRouteSocket >>= fun nlRouteSocket =>
      Program.enclosed nlRouteSocket.destroy (allocate nlRouteSocket >>= fun cache =>
        Program.enclosed (freeCache cache) (read cache))) := by
  apply delivers_withSocket
  intro nlRouteSocket
  apply delivers_bind (hallocate nlRouteSocket)
  intro cache _
  exact delivers_enclosed (kernel.delivers_freeCache cache) (hread cache)

theorem delivers_netlinkEnumerateLinks :
    kernel.reliance.Delivers (· = kernel.links.image NetlinkLinkDetails.fromRtnlLink)
      netlinkEnumerateLinks := by
  apply delivers_withCache
  · exact fun nlRouteSocket => delivers_checked (fun _ => throws_cacheOrThrow)
      fun _ _ => kernel.delivers_cacheOrThrow
  · intro linkCache
    apply delivers_checked (fun _ => False.elim)
    intro (links : List RtnlLink) (hlinks : links.toFinset = kernel.links) _
    apply delivers_return
    rw [← hlinks]
    ext link
    simp

theorem delivers_netlinkEnumerateIpAddresses :
    kernel.reliance.Delivers (· = kernel.addresses.image fromRtnlAddr)
      netlinkEnumerateIpAddresses := by
  apply delivers_withCache
  · exact fun nlRouteSocket => delivers_checked (fun _ => throws_cacheOrThrow)
      fun _ _ => kernel.delivers_cacheOrThrow
  · intro ipAddressCache
    apply delivers_checked (fun _ => False.elim)
    intro (addresses : List RtnlAddr) (haddresses : addresses.toFinset = kernel.addresses) _
    apply delivers_return
    rw [← haddresses]
    ext address
    simp

open NetworkOperationsLinux NetworkManager

theorem delivers_enumerateNetworkInterfaces :
    kernel.reliance.Delivers (· = kernel.links.image idOf) enumerateNetworkInterfaces := by
  apply delivers_noexcept
  apply delivers_bind kernel.delivers_netlinkEnumerateLinks
  rintro _ rfl
  apply delivers_return
  rw [Finset.image_image]
  rfl

theorem delivers_getNetworkInterfaceAddresses {link : RtnlLink} (hlink : link ∈ kernel.links) :
    kernel.reliance.Delivers (· = kernel.addressesOf link)
      (getNetworkInterfaceAddresses link.name) := by
  apply delivers_noexcept
  apply delivers_checked (fun _ => False.elim)
  intro (networkInterfaceIndex : UInt32) hindex _
  obtain ⟨hnonzero, heq⟩ :=
    (hindex : kernel.IsIndexOf link.name networkInterfaceIndex) link hlink rfl
  rw [if_neg hnonzero]
  apply delivers_bind kernel.delivers_netlinkEnumerateIpAddresses
  rintro _ rfl
  apply delivers_return
  rw [addressesOf, heq]
  ext networkIpAddress
  simp [fromRtnlAddr]

-- What is stored for a link are its own addresses.
def Correct (networkInterfaceInfo : Table NetworkInterfaceId (Finset NetworkIpAddress)) : Prop :=
  ∀ link ∈ kernel.links, ∀ networkIpAddresses,
    networkInterfaceInfo.lookup (idOf link) = some networkIpAddresses →
      networkIpAddresses = kernel.addressesOf link

theorem eq_of_idOf {link other : RtnlLink} (hlink : link ∈ kernel.links)
    (hother : other ∈ kernel.links) (h : idOf link = idOf other) : link = other :=
  kernel.names hlink hother (congrArg NetworkInterfaceId.name h)

theorem correct_insert {networkInterfaceInfo : Table NetworkInterfaceId (Finset NetworkIpAddress)}
    (h : kernel.Correct networkInterfaceInfo) {link : RtnlLink} (hlink : link ∈ kernel.links) :
    kernel.Correct (networkInterfaceInfo.insert (idOf link) (kernel.addressesOf link)) := by
  intro other hother networkIpAddresses hlookup
  by_cases heq : idOf other = idOf link
  · obtain rfl := kernel.eq_of_idOf hother hlink heq
    rw [AList.lookup_insert] at hlookup
    exact (Option.some.inj hlookup).symm
  · rw [AList.lookup_insert_ne heq] at hlookup
    exact h other hother networkIpAddresses hlookup

theorem delivers_getInformationOf (networkInterfaceIds : List NetworkInterfaceId)
    {networkInterfaceInfo : Table NetworkInterfaceId (Finset NetworkIpAddress)}
    (hids : ∀ id ∈ networkInterfaceIds, ∃ link ∈ kernel.links, idOf link = id)
    (h : kernel.Correct networkInterfaceInfo) :
    kernel.reliance.Delivers (fun result => kernel.Correct result ∧
        ∀ id, id ∈ result ↔ id ∈ networkInterfaceInfo ∨ id ∈ networkInterfaceIds)
      (getInformationOf networkInterfaceInfo networkInterfaceIds) := by
  induction networkInterfaceIds generalizing networkInterfaceInfo with
  | nil => exact delivers_return ⟨h, fun id => by simp⟩
  | cons networkInterfaceId rest ih =>
      obtain ⟨link, hlink, rfl⟩ := hids networkInterfaceId List.mem_cons_self
      apply delivers_bind (kernel.delivers_getNetworkInterfaceAddresses hlink)
      rintro _ rfl
      have hrest := ih (fun id hid => hids id (List.mem_cons_of_mem _ hid))
        (kernel.correct_insert h hlink)
      apply delivers_mono hrest
      rintro result ⟨hcorrect, hkeys⟩
      refine ⟨hcorrect, fun id => ?_⟩
      rw [hkeys, AList.mem_insert, List.mem_cons]
      tauto

theorem delivers_getNetworkInterfaceInformation (order : SetOrder NetworkInterfaceId) :
    kernel.reliance.Delivers (fun result => kernel.Correct result ∧
        ∀ id, id ∈ result ↔ ∃ link ∈ kernel.links, idOf link = id)
      (getNetworkInterfaceInformation order) := by
  apply delivers_noexcept
  apply delivers_bind kernel.delivers_enumerateNetworkInterfaces
  rintro _ rfl
  have hids : ∀ id, id ∈ order.visit (kernel.links.image idOf) ↔
      ∃ link ∈ kernel.links, idOf link = id := by
    intro id
    rw [order.mem_visit, Finset.mem_image]
  apply delivers_mono (kernel.delivers_getInformationOf _ (fun id => (hids id).mp) ?_)
  · rintro result ⟨hcorrect, hkeys⟩
    refine ⟨hcorrect, fun id => ?_⟩
    rw [hkeys, hids]
    simp
  · intro link _ networkIpAddresses hlookup
    cases hlookup

end Delivers

end Kernel

end NetRemote.Net
