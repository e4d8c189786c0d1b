import Mathlib.Data.List.Forall2
import NetRemote.Net.NetworkManager

namespace NetRemote.Service.NetworkInterfaces

open Foundation Foundation.Bytes Net Netlink Wpa

inductive NetworkAddressFamily where
  | Unknown
  | Ipv4
  | Ipv6
  deriving DecidableEq, Repr

inductive NetworkInterfaceKind where
  | Unknown
  | Other
  | Ethernet
  | Wifi
  | Bridge
  deriving DecidableEq, Repr

inductive NetworkOperationStatusCode where
  | Unknown
  | Success
  | InvalidParameter
  deriving DecidableEq, Repr

structure NetworkAddress where
  family : NetworkAddressFamily
  address : ByteString
  prefixLength : UInt32
  deriving DecidableEq, Repr

structure NetworkInterface where
  id : ByteString
  kind : NetworkInterfaceKind
  addresses : List NetworkAddress
  deriving DecidableEq, Repr

structure NetworkEnumerateInterfacesResult where
  status : NetworkOperationStatusCode
  networkInterfaces : List NetworkInterface
  deriving DecidableEq, Repr

def toServiceNetworkInterfaceKind : NetworkInterfaceType → NetworkInterfaceKind
  | .Ethernet => .Ethernet
  | .Wifi => .Wifi
  | .Bridge => .Bridge
  | .Other => .Other
  | .Unknown => .Unknown

def toServiceNetworkAddressFamily : NetworkIpFamily → NetworkAddressFamily
  | .Ipv4 => .Ipv4
  | .Ipv6 => .Ipv6
  | .Unknown => .Unknown

def toServiceNetworkAddress (networkIpAddress : NetworkIpAddress) : NetworkAddress where
  family := toServiceNetworkAddressFamily networkIpAddress.family
  address :=
    match findLastOf networkIpAddress.address 47 with
    | none => networkIpAddress.address
    | some ipAddressPrefixSeparatorIndex =>
        networkIpAddress.address.take ipAddressPrefixSeparatorIndex
  prefixLength := networkIpAddress.prefixLength

-- The containers that are visited, each in an order of its own.
structure Orders where
  networkInterfaces : SetOrder NetworkInterfaceId
  networkInterfaceInformation : Table.Traversal NetworkInterfaceId (Finset NetworkIpAddress)
  networkIpAddresses : SetOrder NetworkIpAddress

def toServiceNetworkInterface (orders : Orders) (networkInterfaceId : NetworkInterfaceId)
    (networkIpAddresses : Finset NetworkIpAddress) : NetworkInterface where
  id := networkInterfaceId.name
  kind := toServiceNetworkInterfaceKind networkInterfaceId.type
  addresses := (orders.networkIpAddresses.visit networkIpAddresses).map toServiceNetworkAddress

def toServiceNetworkInterfaces (orders : Orders)
    (networkInterfaceInformation : Table NetworkInterfaceId (Finset NetworkIpAddress)) :
    List NetworkInterface :=
  (orders.networkInterfaceInformation.visit networkInterfaceInformation).map fun entry =>
    toServiceNetworkInterface orders entry.1 entry.2

def networkInterfacesEnumerate (orders : Orders) :
    Program Library Fault NetworkEnumerateInterfacesResult := do
  let networkInterfaceInformation ←
    NetworkManager.getNetworkInterfaceInformation orders.networkInterfaces
  let networkInterfaces := toServiceNetworkInterfaces orders networkInterfaceInformation
  return { status := .Success, networkInterfaces }

-- What an interface is told of: its own addresses, each once.
structure Reports (kernel : Kernel) (link : RtnlLink) (networkInterface : NetworkInterface) :
    Prop where
  id : networkInterface.id = link.name
  kind : networkInterface.kind =
    toServiceNetworkInterfaceKind (getNetworkInterfaceType ⟨link.name, link.type.getD (str "none")⟩)
  addresses : ∃ networkIpAddresses : List NetworkIpAddress, networkIpAddresses.Nodup ∧
    (∀ networkIpAddress, networkIpAddress ∈ networkIpAddresses ↔
      networkIpAddress ∈ kernel.addressesOf link) ∧
    networkInterface.addresses = networkIpAddresses.map toServiceNetworkAddress

section Lists

variable {α β : Type} {R : α → β → Prop}

theorem exists_forall₂ {bs : List β} (h : ∀ b ∈ bs, ∃ a, R a b) : ∃ as, List.Forall₂ R as bs := by
  induction bs with
  | nil => exact ⟨[], .nil⟩
  | cons b bs ih =>
      obtain ⟨a, hab⟩ := h b List.mem_cons_self
      obtain ⟨as, has⟩ := ih fun other hother => h other (List.mem_cons_of_mem _ hother)
      exact ⟨a :: as, .cons hab has⟩

end Lists

theorem reports_toServiceNetworkInterface (orders : Orders) (kernel : Kernel) (link : RtnlLink) :
    Reports kernel link
      (toServiceNetworkInterface orders (Kernel.idOf link) (kernel.addressesOf link)) where
  id := rfl
  kind := rfl
  addresses := ⟨_, orders.networkIpAddresses.nodup_visit _,
    fun _ => orders.networkIpAddresses.mem_visit, rfl⟩

section Information

variable {kernel : Kernel}
  {networkInterfaceInfo : Table NetworkInterfaceId (Finset NetworkIpAddress)}

-- The entries of correct information are the links of the kernel, each once.
theorem links_of_visit
    (traversal : Table.Traversal NetworkInterfaceId (Finset NetworkIpAddress))
    (hcorrect : kernel.Correct networkInterfaceInfo)
    (hkeys : ∀ id, id ∈ networkInterfaceInfo ↔ ∃ link ∈ kernel.links, Kernel.idOf link = id) :
    ∃ links : List RtnlLink, links.Nodup ∧ (∀ link, link ∈ links ↔ link ∈ kernel.links) ∧
      List.Forall₂ (fun link entry => entry = (Kernel.idOf link, kernel.addressesOf link)) links
        (traversal.visit networkInterfaceInfo) := by
  have hentries : ∀ entry ∈ traversal.visit networkInterfaceInfo, ∃ link,
      link ∈ kernel.links ∧ entry = (Kernel.idOf link, kernel.addressesOf link) := by
    rintro ⟨id, networkIpAddresses⟩ hentry
    have hlookup := traversal.mem_visit.mp hentry
    obtain ⟨link, hlink, rfl⟩ := (hkeys id).mp (AList.lookup_isSome.mp (by rw [hlookup]; rfl))
    exact ⟨link, hlink, by rw [hcorrect link hlink networkIpAddresses hlookup]⟩
  obtain ⟨links, hlinks⟩ := exists_forall₂ hentries
  obtain ⟨hmem, hsame⟩ := (List.forall₂_and_left links _).mp hlinks
  have hids : links.map Kernel.idOf = (traversal.visit networkInterfaceInfo).map Prod.fst := by
    rw [← List.forall₂_eq_eq_eq, List.forall₂_map_left_iff, List.forall₂_map_right_iff]
    exact hsame.imp fun link entry hentry => by rw [hentry]
  refine ⟨links, ?_, fun link => ⟨hmem link, fun hlink => ?_⟩, hsame⟩
  · have hnodup := traversal.nodup networkInterfaceInfo
    rw [← hids] at hnodup
    exact hnodup.of_map _
  · obtain ⟨networkIpAddresses, hlookup⟩ := Option.isSome_iff_exists.mp
      (AList.lookup_isSome.mpr ((hkeys _).mpr ⟨link, hlink, rfl⟩))
    have hid : Kernel.idOf link ∈ links.map Kernel.idOf := by
      rw [hids]
      exact List.mem_map_of_mem (traversal.mem_visit.mpr hlookup)
    obtain ⟨other, hother, heq⟩ := List.mem_map.mp hid
    rwa [← kernel.eq_of_idOf (hmem other hother) hlink heq]

theorem reports_toServiceNetworkInterfaces (orders : Orders)
    (hcorrect : kernel.Correct networkInterfaceInfo)
    (hkeys : ∀ id, id ∈ networkInterfaceInfo ↔ ∃ link ∈ kernel.links, Kernel.idOf link = id) :
    ∃ links : List RtnlLink, links.Nodup ∧ (∀ link, link ∈ links ↔ link ∈ kernel.links) ∧
      List.Forall₂ (Reports kernel) links
        (toServiceNetworkInterfaces orders networkInterfaceInfo) := by
  obtain ⟨links, hnodup, hmem, hlinks⟩ :=
    links_of_visit orders.networkInterfaceInformation hcorrect hkeys
  refine ⟨links, hnodup, hmem, ?_⟩
  rw [toServiceNetworkInterfaces, List.forall₂_map_right_iff]
  refine hlinks.imp ?_
  rintro link _ rfl
  exact reports_toServiceNetworkInterface orders kernel link

end Information

-- Where nothing is refused, the result has one interface for each link of the kernel;
-- where anything is, the process is ended.
theorem networkInterfacesEnumerate_reports (orders : Orders) (kernel : Kernel)
    {trace : List Library.Exchange} {outcome : Except Fault NetworkEnumerateInterfacesResult}
    (hruns : Program.Runs (networkInterfacesEnumerate orders) trace outcome)
    (htells : ∀ exchange ∈ trace, kernel.Tells exchange) :
    ((∃ exchange ∈ trace, Kernel.Refuses exchange) ∧ outcome = .error .Terminate) ∨
      (¬ ∃ exchange ∈ trace, Kernel.Refuses exchange) ∧
        ∃ result, outcome = .ok result ∧ result.status = .Success ∧
          ∃ links : List RtnlLink, links.Nodup ∧ (∀ link, link ∈ links ↔ link ∈ kernel.links) ∧
            List.Forall₂ (Reports kernel) links result.networkInterfaces := by
  have hinformation :=
    kernel.delivers_getNetworkInterfaceInformation orders.networkInterfaces
  rcases Program.runs_bind hruns with ⟨past, now, information, rfl, hpast, hnow⟩ |
    ⟨error, rfl, herror⟩
  · cases hnow
    rw [List.append_nil] at htells ⊢
    obtain ⟨⟨hcorrect, hkeys⟩, hunfailed⟩ := hinformation _ _ hpast htells
    refine .inr ⟨?_, _, rfl, rfl, reports_toServiceNetworkInterfaces orders hcorrect hkeys⟩
    rintro ⟨exchange, hmem, hrefuses⟩
    exact hunfailed exchange hmem hrefuses
  · have hfailed := hinformation _ _ herror htells
    refine .inl ⟨?_, ?_⟩
    · by_contra hnone
      exact hfailed fun exchange hmem hrefuses => hnone ⟨exchange, hmem, hrefuses⟩
    · rcases Program.runs_noexcept herror with ⟨_, habsurd, -⟩ | ⟨_, heq, -⟩
      · cases habsurd
      · rw [Except.error.inj heq]

def wirelessLink : RtnlLink := ⟨3, str "wlan0", some (str "wireless"), str "02:00:00:00:00:01"⟩

def wiredLink : RtnlLink := ⟨2, str "eth0", none, str "02:00:00:00:00:02"⟩

def wiredAddress : RtnlAddr := ⟨2, AF_INET, 24, str "10.0.0.1/24"⟩

def twoLinks : Kernel where
  links := {wirelessLink, wiredLink}
  addresses := {wiredAddress}
  names := by decide

def indexOf (name : ByteString) : UInt32 := if name = str "wlan0" then 3 else 2

def twoLinksAnswer (past : List Library.Exchange) : (request : LibraryRequest) → request.Reply
  | .RtnlLinks _ => [wirelessLink, wiredLink]
  | .RtnlAddrs _ => [wiredAddress]
  | .IfNametoindex name => indexOf name
  | request => answering 1 past request

noncomputable def anyOrders : Orders :=
  ⟨⟨Finset.toList, Finset.coe_toList⟩, default, ⟨Finset.toList, Finset.coe_toList⟩⟩

theorem isIndexOf_indexOf (name : ByteString) : twoLinks.IsIndexOf name (indexOf name) := by
  intro link hlink hname
  obtain rfl | rfl : link = wirelessLink ∨ link = wiredLink := by simpa [twoLinks] using hlink
  all_goals
    subst hname
    decide

theorem tells_twoLinks (past : List Library.Exchange) (request : LibraryRequest) :
    twoLinks.Tells ⟨request, twoLinksAnswer past request⟩ := by
  cases request with
  | IfNametoindex name => exact isIndexOf_indexOf name
  | RtnlLinks cache => exact (by decide : [wirelessLink, wiredLink].toFinset = twoLinks.links)
  | RtnlAddrs cache => exact (by decide : [wiredAddress].toFinset = twoLinks.addresses)
  | _ => trivial

noncomputable def twoLinksRun :
    List Library.Exchange × Except Fault NetworkEnumerateInterfacesResult :=
  (networkInterfacesEnumerate anyOrders).run twoLinksAnswer []

theorem networkInterfacesEnumerate_reports_twoLinks :
    ((∃ exchange ∈ twoLinksRun.1, Kernel.Refuses exchange) ∧
        twoLinksRun.2 = .error .Terminate) ∨
      (¬ ∃ exchange ∈ twoLinksRun.1, Kernel.Refuses exchange) ∧
        ∃ result, twoLinksRun.2 = .ok result ∧ result.status = .Success ∧
          ∃ links : List RtnlLink, links.Nodup ∧ (∀ link, link ∈ links ↔ link ∈ twoLinks.links) ∧
            List.Forall₂ (Reports twoLinks) links result.networkInterfaces :=
  networkInterfacesEnumerate_reports anyOrders twoLinks (Program.runs_run _ _)
    (Program.mem_run tells_twoLinks _ [] nofun)

end NetRemote.Service.NetworkInterfaces
