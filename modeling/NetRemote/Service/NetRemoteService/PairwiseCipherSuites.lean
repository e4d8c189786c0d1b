import NetRemote.Service.NetRemoteService.Theorems
import NetRemote.Wifi.AccessPointControllerLinux.Theorems

namespace NetRemote.Service.NetRemoteService.PairwiseCipherSuites

open Foundation Foundation.Bytes Api Wifi Wpa Wpa.Hostapd AccessPointControllerLinux

abbrev Listing := Dot11CipherSuiteConfiguration

def pairwisePropertyOf (protocol : Dot11SecurityProtocol) : ByteString :=
  if protocol = Dot11SecurityProtocolWpa1 then ProtocolHostapd.PropertyNameWpaPairwise
  else ProtocolHostapd.PropertyNameRsnPairwise

def wpaCipherOf (cipher : Dot11CipherSuite) : WpaCipher :=
  ieee80211CipherSuiteToWpaCipher (fromDot11CipherSuite cipher)

def cipherName (cipher : Dot11CipherSuite) : ByteString :=
  wpaCipherPropertyValue (wpaCipherOf cipher)

def knownProtocols : List Dot11SecurityProtocol :=
  [Dot11SecurityProtocolWpa1, Dot11SecurityProtocolWpa2, Dot11SecurityProtocolWpa3]

structure Known (listings : List Listing) : Prop where
  protocols : ∀ listing ∈ listings, listing.securityProtocol ∈ knownProtocols
  ciphers : ∀ listing ∈ listings, ∀ cipher ∈ listing.cipherSuites,
    cipherName cipher ≠ WpaCipherInvalidValue

-- How hostapd reads the value of a pairwise property.
def words (value : ByteString) : List ByteString :=
  (value.splitOn 32).filter fun word => !word.isEmpty

-- Each property is sent once at most, with every cipher that is listed for it and
-- no other.
structure Delivered (listings : List Listing) (trace : List System.Exchange) : Prop where
  once : ((settings pairwiseProperty trace).map Prod.fst).Nodup
  present : ∀ listing ∈ listings, ∀ cipher ∈ listing.cipherSuites, ∃ value,
    (pairwisePropertyOf listing.securityProtocol, value) ∈ settings pairwiseProperty trace ∧
      cipherName cipher ∈ words value
  requested : ∀ setting ∈ settings pairwiseProperty trace, ∀ word ∈ words setting.2,
    ∃ listing ∈ listings, pairwisePropertyOf listing.securityProtocol = setting.1 ∧
      ∃ cipher ∈ listing.cipherSuites, cipherName cipher = word

def AlwaysDelivered (listings : List Listing) : Prop :=
  ∀ (platform : Platform) (accessPointManager : IAccessPointManager System)
    (accessPoint : IAccessPoint System) (accessPointId interfaceName : ByteString)
    (configuration : Dot11AccessPointConfiguration) (trace : List System.Exchange)
    (status : WifiAccessPointOperationStatus),
    accessPointManager.getAccessPoint accessPointId = some (some accessPoint) →
    accessPoint.createController =
      .ok (some (accessPointControllerLinux platform.toWifi interfaceName)) →
    configuration.pairwiseCipherSuites = listings →
    (wifiAccessPointEnable platform accessPointManager accessPointId (some configuration)).Runs
      trace (.ok status) →
    status.code = .Succeeded → Delivered listings trace

def firstListing (listings : List Listing) (protocol : Dot11SecurityProtocol) :
    List Dot11CipherSuite :=
  ((listings.find? fun listing => listing.securityProtocol = protocol).map
    Dot11CipherSuiteConfiguration.cipherSuites).getD []

-- WPA2 and WPA3 share their property, and one of them is chosen by the order of a
-- container.
def survivor (chosen protocol : Dot11SecurityProtocol) : Dot11SecurityProtocol :=
  if protocol = Dot11SecurityProtocolWpa1 then Dot11SecurityProtocolWpa1 else chosen

-- Whichever is chosen, the listings that survive have every cipher; a listing that
-- survives and is empty makes the request fail.
def Lossless (listings : List Listing) : Prop :=
  ∀ chosen ∈ [Dot11SecurityProtocolWpa2, Dot11SecurityProtocolWpa3],
    (∀ listing ∈ listings,
      firstListing listings (survivor chosen listing.securityProtocol) ≠ []) →
    ∀ listing ∈ listings,
      listing.cipherSuites ⊆ firstListing listings (survivor chosen listing.securityProtocol)

section Names

theorem space_not_mem_name (cipher : WpaCipher) : 32 ∉ wpaCipherPropertyValue cipher := by
  cases cipher <;> decide

theorem name_ne_nil (cipher : WpaCipher) : wpaCipherPropertyValue cipher ≠ [] := by
  cases cipher <;> decide

theorem words_ciphers (ciphers : List WpaCipher) :
    words (ciphers.flatMap fun cipher => wpaCipherPropertyValue cipher ++ str " ") =
      ciphers.map wpaCipherPropertyValue := by
  have hspace : str " " = [32] := rfl
  rw [hspace]
  induction ciphers with
  | nil => decide
  | cons cipher ciphers ih =>
      have hname : !(wpaCipherPropertyValue cipher).isEmpty := by simpa using name_ne_nil cipher
      have hsplit := List.splitOn_append_cons_self_of_not_mem (space_not_mem_name cipher)
        (ciphers.flatMap fun cipher => wpaCipherPropertyValue cipher ++ [32])
      unfold words at ih ⊢
      rw [List.flatMap_cons, List.append_assoc, List.singleton_append, hsplit,
        List.filter_cons, if_pos hname, ih, List.map_cons]

def knownCiphers : List Dot11CipherSuite :=
  [Dot11CipherSuiteBipCmac128, Dot11CipherSuiteBipCmac256, Dot11CipherSuiteBipGmac128,
    Dot11CipherSuiteBipGmac256, Dot11CipherSuiteCcmp128, Dot11CipherSuiteCcmp256,
    Dot11CipherSuiteGcmp128, Dot11CipherSuiteGcmp256,
    Dot11CipherSuiteGroupAddressesTrafficNotAllowed, Dot11CipherSuiteTkip,
    Dot11CipherSuiteUseGroup, Dot11CipherSuiteWep104, Dot11CipherSuiteWep40]

theorem mem_knownCiphers {cipher : Dot11CipherSuite}
    (h : cipherName cipher ≠ WpaCipherInvalidValue) : cipher ∈ knownCiphers := by
  by_contra hunknown
  simp only [knownCiphers, List.mem_cons, List.not_mem_nil, or_false, not_or] at hunknown
  apply h
  simp only [cipherName, wpaCipherOf, fromDot11CipherSuite, hunknown, if_false]
  rfl

theorem cipherName_injective : ∀ cipher ∈ knownCiphers, ∀ other ∈ knownCiphers,
    cipherName cipher = cipherName other → cipher = other := by
  decide +kernel

end Names

section Tables

variable {listings : List Listing} {platform : Platform}

-- The three maps that the listings go through.
def dot11Suites (listings : List Listing) : Table Dot11SecurityProtocol (List Dot11CipherSuite) :=
  toDot11CipherSuiteConfigurations listings

def ieee80211Suites (platform : Platform) (listings : List Listing) : CipherSuites :=
  fromDot11CipherSuiteConfigurations platform.dot11CipherSuites (dot11Suites listings)

def wpaSuites (platform : Platform) (listings : List Listing) :
    Table WpaSecurityProtocol (List WpaCipher) :=
  ieee80211CipherSuitesToWpaCipherSuites platform.cipherSuites (ieee80211Suites platform listings)

def wpaProtocolOf (protocol : Dot11SecurityProtocol) : WpaSecurityProtocol :=
  ieee80211SecurityProtocolToWpaSecurityProtocol (fromDot11SecurityProtocol protocol)

theorem fromDot11SecurityProtocol_injective : ∀ protocol ∈ knownProtocols,
    ∀ other ∈ knownProtocols,
      fromDot11SecurityProtocol other = fromDot11SecurityProtocol protocol → other = protocol := by
  decide

theorem wpaCipherPropertyName_wpaProtocolOf : ∀ protocol ∈ knownProtocols,
    wpaCipherPropertyName (wpaProtocolOf protocol) = pairwisePropertyOf protocol := by
  decide

theorem wpaProtocolOf_eq_iff : ∀ protocol ∈ knownProtocols, ∀ other ∈ knownProtocols,
    wpaProtocolOf protocol = wpaProtocolOf other ↔
      pairwisePropertyOf protocol = pairwisePropertyOf other := by
  decide

theorem lookup_dot11Suites (protocol : Dot11SecurityProtocol) :
    (dot11Suites listings).lookup protocol =
      (listings.find? fun listing => listing.securityProtocol = protocol).map
        Dot11CipherSuiteConfiguration.cipherSuites := by
  have hfold : dot11Suites listings =
      (listings.map fun listing => (listing.securityProtocol, listing.cipherSuites)).foldl
        (fun (suites : Table Dot11SecurityProtocol (List Dot11CipherSuite)) entry =>
          suites.emplace entry.1 entry.2) ∅ := by
    rw [List.foldl_map]
    rfl
  rw [hfold, Table.lookup_foldl_emplace, List.find?_map, Option.map_map]
  rfl

theorem lookup_dot11Suites_of_mem {listing : Listing} (h : listing ∈ listings) :
    (dot11Suites listings).lookup listing.securityProtocol =
      some (firstListing listings listing.securityProtocol) := by
  have hsome : (listings.find? fun other =>
      other.securityProtocol = listing.securityProtocol).isSome :=
    List.find?_isSome.mpr ⟨listing, h, by simp⟩
  obtain ⟨first, hfirst⟩ := Option.isSome_iff_exists.mp hsome
  rw [lookup_dot11Suites, firstListing, hfirst]
  rfl

theorem exists_mem_of_lookup {protocol : Dot11SecurityProtocol} {ciphers : List Dot11CipherSuite}
    (h : (dot11Suites listings).lookup protocol = some ciphers) :
    ∃ listing ∈ listings, listing.securityProtocol = protocol ∧ listing.cipherSuites = ciphers ∧
      firstListing listings protocol = ciphers := by
  rw [lookup_dot11Suites, Option.map_eq_some_iff] at h
  obtain ⟨listing, hfound, rfl⟩ := h
  have hprotocol : listing.securityProtocol = protocol := by simpa using List.find?_some hfound
  refine ⟨listing, List.mem_of_find?_eq_some hfound, hprotocol, rfl, ?_⟩
  rw [firstListing, hfound]
  rfl

theorem lookup_ieee80211Suites (hknown : Known listings) {listing : Listing}
    (h : listing ∈ listings) :
    (ieee80211Suites platform listings).lookup
        (fromDot11SecurityProtocol listing.securityProtocol) =
      some ((firstListing listings listing.securityProtocol).map fromDot11CipherSuite) := by
  apply Table.Traversal.lookup_rekey_of_unique (lookup_dot11Suites_of_mem h)
  intro other hother
  obtain ⟨ciphers, hciphers⟩ := Option.isSome_iff_exists.mp (AList.lookup_isSome.mpr hother)
  obtain ⟨source, hsource, rfl, _⟩ := exists_mem_of_lookup hciphers
  exact fromDot11SecurityProtocol_injective _ (hknown.protocols listing h) _
    (hknown.protocols source hsource)

-- Every entry comes from the first listing of some protocol.
theorem exists_mem_of_lookup_wpaSuites {protocol : WpaSecurityProtocol} {ciphers : List WpaCipher}
    (h : (wpaSuites platform listings).lookup protocol = some ciphers) :
    ∃ listing ∈ listings, wpaProtocolOf listing.securityProtocol = protocol ∧
      listing.cipherSuites = firstListing listings listing.securityProtocol ∧
      listing.cipherSuites.map wpaCipherOf = ciphers := by
  obtain ⟨neutral, suites, hneutral, rfl, rfl⟩ := Table.Traversal.of_lookup_rekey h
  obtain ⟨source, content, hsource, rfl, rfl⟩ := Table.Traversal.of_lookup_rekey hneutral
  obtain ⟨listing, hlisting, rfl, rfl, hfirst⟩ := exists_mem_of_lookup hsource
  exact ⟨listing, hlisting, rfl, hfirst.symm, (List.map_map).symm⟩

theorem exists_lookup_wpaSuites (hknown : Known listings) {listing : Listing}
    (h : listing ∈ listings) :
    ∃ ciphers, (wpaSuites platform listings).lookup (wpaProtocolOf listing.securityProtocol) =
      some ciphers :=
  Table.Traversal.exists_lookup_rekey (lookup_ieee80211Suites hknown h)

-- What is in the last map for a listing.
def Survives (platform : Platform) (listings : List Listing) (chosen : Dot11SecurityProtocol) :
    Prop :=
  ∀ listing ∈ listings,
    (wpaSuites platform listings).lookup (wpaProtocolOf listing.securityProtocol) =
      some ((firstListing listings (survivor chosen listing.securityProtocol)).map wpaCipherOf)

theorem survivor_of_eq : ∀ protocol ∈ knownProtocols, ∀ other ∈ knownProtocols,
    wpaProtocolOf other = wpaProtocolOf protocol → survivor other protocol = other := by
  decide

theorem survivor_rsn : ∀ protocol ∈ knownProtocols, ∀ other ∈ knownProtocols,
    protocol ≠ Dot11SecurityProtocolWpa1 → wpaProtocolOf other = wpaProtocolOf protocol →
      other ∈ [Dot11SecurityProtocolWpa2, Dot11SecurityProtocolWpa3] := by
  decide

theorem wpaProtocolOf_rsn : ∀ protocol ∈ knownProtocols, ∀ other ∈ knownProtocols,
    protocol ≠ Dot11SecurityProtocolWpa1 → other ≠ Dot11SecurityProtocolWpa1 →
      wpaProtocolOf protocol = wpaProtocolOf other ∧
        ∀ chosen ∈ knownProtocols, survivor chosen protocol = survivor chosen other := by
  decide

theorem exists_survivor (hknown : Known listings) {listing : Listing} (h : listing ∈ listings) :
    ∃ other ∈ knownProtocols,
      wpaProtocolOf other = wpaProtocolOf listing.securityProtocol ∧
      (wpaSuites platform listings).lookup (wpaProtocolOf listing.securityProtocol) =
        some ((firstListing listings other).map wpaCipherOf) := by
  have hlookup : ∃ ciphers, (wpaSuites platform listings).lookup
      (wpaProtocolOf listing.securityProtocol) = some ciphers := exists_lookup_wpaSuites hknown h
  obtain ⟨ciphers, hciphers⟩ := hlookup
  obtain ⟨source, hsource, hprotocol, hfirst, hmap⟩ := exists_mem_of_lookup_wpaSuites hciphers
  refine ⟨source.securityProtocol, hknown.protocols source hsource, hprotocol, ?_⟩
  rw [hciphers, ← hmap, hfirst]

-- WPA has its property to itself.
theorem survives_wpa1 (hknown : Known listings) (chosen : Dot11SecurityProtocol)
    {listing : Listing} (h : listing ∈ listings)
    (hprotocol : listing.securityProtocol = Dot11SecurityProtocolWpa1) :
    (wpaSuites platform listings).lookup (wpaProtocolOf listing.securityProtocol) =
      some ((firstListing listings (survivor chosen listing.securityProtocol)).map
        wpaCipherOf) := by
  obtain ⟨other, hother, hsame, hlookup⟩ := exists_survivor hknown h
  have hsurvivor := survivor_of_eq _ (hknown.protocols listing h) other hother hsame
  rw [hlookup, hprotocol, survivor, if_pos rfl]
  rw [hprotocol, survivor, if_pos rfl] at hsurvivor
  rw [hsurvivor]

theorem exists_survives (hknown : Known listings) :
    ∃ chosen ∈ [Dot11SecurityProtocolWpa2, Dot11SecurityProtocolWpa3],
      Survives platform listings chosen := by
  by_cases hrsn : ∃ listing ∈ listings, listing.securityProtocol ≠ Dot11SecurityProtocolWpa1
  · obtain ⟨listing, hlisting, hprotocol⟩ := hrsn
    have hlistingKnown := hknown.protocols listing hlisting
    obtain ⟨other, hother, hsame, hlookup⟩ := exists_survivor hknown hlisting
    refine ⟨other, survivor_rsn _ hlistingKnown other hother hprotocol hsame, ?_⟩
    intro another hanother
    by_cases hwpa1 : another.securityProtocol = Dot11SecurityProtocolWpa1
    · exact survives_wpa1 hknown other hanother hwpa1
    · obtain ⟨heq, hsurvivor⟩ := wpaProtocolOf_rsn _ (hknown.protocols another hanother) _
        hlistingKnown hwpa1 hprotocol
      rw [heq, hsurvivor other hother, survivor_of_eq _ hlistingKnown other hother hsame]
      exact hlookup
  · push Not at hrsn
    refine ⟨Dot11SecurityProtocolWpa2, List.mem_cons_self, ?_⟩
    intro listing hlisting
    exact survives_wpa1 hknown _ hlisting (hrsn listing hlisting)

instance : Inhabited Platform := ⟨{ toWifi := default, dot11CipherSuites := default }⟩

-- A platform whose container hands out the chosen protocol first.
def preferring (chosen : Dot11SecurityProtocol) : Platform where
  toWifi := { (default : Wifi.Platform) with
    cipherSuites := Table.Traversal.preferring (fromDot11SecurityProtocol chosen) }
  dot11CipherSuites := default

theorem survives_preferring (hknown : Known listings) {chosen : Dot11SecurityProtocol}
    (hchosen : chosen ∈ [Dot11SecurityProtocolWpa2, Dot11SecurityProtocolWpa3])
    (hsurvivors : ∀ listing ∈ listings,
      firstListing listings (survivor chosen listing.securityProtocol) ≠ []) :
    Survives (preferring chosen) listings chosen := by
  intro listing hlisting
  by_cases hwpa1 : listing.securityProtocol = Dot11SecurityProtocolWpa1
  · exact survives_wpa1 hknown chosen hlisting hwpa1
  · have hfirst := hsurvivors listing hlisting
    rw [survivor, if_neg hwpa1] at hfirst ⊢
    have hknownChosen : chosen ∈ knownProtocols := List.mem_cons_of_mem _ hchosen
    have hrsn : chosen ≠ Dot11SecurityProtocolWpa1 := by
      rintro rfl
      revert hchosen
      decide
    obtain ⟨source, hsource⟩ : ∃ source ∈ listings, source.securityProtocol = chosen := by
      by_contra hnone
      push Not at hnone
      have hnotFound : listings.find? (fun listing => listing.securityProtocol = chosen) = none :=
        List.find?_eq_none.mpr fun source hsource => by simpa using hnone source hsource
      rw [firstListing, hnotFound] at hfirst
      exact hfirst rfl
    obtain ⟨hmem, rfl⟩ := hsource
    obtain ⟨heq, _⟩ := wpaProtocolOf_rsn _ (hknown.protocols listing hlisting) _ hknownChosen hwpa1
      hrsn
    have hlookup : (ieee80211Suites (preferring source.securityProtocol) listings).lookup _ = _ :=
      lookup_ieee80211Suites hknown hmem
    have hpreferred := Table.Traversal.lookup_rekey_preferring
      (f := ieee80211SecurityProtocolToWpaSecurityProtocol)
      (g := List.map ieee80211CipherSuiteToWpaCipher) hlookup
    rw [List.map_map] at hpreferred
    rw [heq]
    exact hpreferred

end Tables

section Delivery

variable {listings : List Listing} {platform : Platform} {chosen : Dot11SecurityProtocol}

theorem mem_firstListing {protocol : Dot11SecurityProtocol} {cipher : Dot11CipherSuite}
    (h : cipher ∈ firstListing listings protocol) :
    ∃ listing ∈ listings, cipher ∈ listing.cipherSuites := by
  unfold firstListing at h
  cases hfound : listings.find? fun listing => listing.securityProtocol = protocol with
  | none =>
      rw [hfound] at h
      cases h
  | some listing =>
      rw [hfound] at h
      exact ⟨listing, List.mem_of_find?_eq_some hfound, h⟩

-- What is sent when the platform hands out the entries of the last map.
def rendered (platform : Platform) (listings : List Listing) : List Setting :=
  (platform.wpaCipherSuites.visit (wpaSuites platform listings)).map cipherSetting

theorem words_cipherSetting (protocol : WpaSecurityProtocol) (ciphers : List Dot11CipherSuite) :
    words (cipherSetting (protocol, ciphers.map wpaCipherOf)).2 = ciphers.map cipherName := by
  have hwords := words_ciphers (ciphers.map wpaCipherOf)
  rw [List.map_map] at hwords
  exact hwords

-- Every setting belongs to the protocol of a listing.
theorem exists_listing_of_rendered (hknown : Known listings) {setting : Setting}
    (h : setting ∈ rendered platform listings) :
    ∃ listing ∈ listings, pairwisePropertyOf listing.securityProtocol = setting.1 ∧
      words setting.2 = listing.cipherSuites.map cipherName ∧
      (wpaSuites platform listings).lookup (wpaProtocolOf listing.securityProtocol) =
        some (listing.cipherSuites.map wpaCipherOf) := by
  obtain ⟨⟨protocol, ciphers⟩, hentry, rfl⟩ := List.mem_map.mp h
  have hlookup := platform.wpaCipherSuites.mem_visit.mp hentry
  obtain ⟨listing, hlisting, rfl, _, rfl⟩ := exists_mem_of_lookup_wpaSuites hlookup
  have hprotocol := hknown.protocols listing hlisting
  exact ⟨listing, hlisting, (wpaCipherPropertyName_wpaProtocolOf _ hprotocol).symm,
    words_cipherSetting _ _, hlookup⟩

theorem rendered_pairwise (hknown : Known listings) :
    (rendered platform listings).filter (fun setting => pairwiseProperty setting.1) =
      rendered platform listings := by
  have hpairwise : ∀ protocol ∈ knownProtocols,
      pairwiseProperty (pairwisePropertyOf protocol) = true := by decide
  rw [List.filter_eq_self]
  intro setting hsetting
  obtain ⟨listing, hlisting, hname, _⟩ := exists_listing_of_rendered hknown hsetting
  rw [← hname]
  exact hpairwise _ (hknown.protocols listing hlisting)

theorem rendered_once (hknown : Known listings) :
    ((rendered platform listings).map Prod.fst).Nodup := by
  have hnodup := platform.wpaCipherSuites.nodup (wpaSuites platform listings)
  have hmap : (rendered platform listings).map Prod.fst =
      ((platform.wpaCipherSuites.visit (wpaSuites platform listings)).map Prod.fst).map
        wpaCipherPropertyName := by
    rw [rendered, List.map_map, List.map_map]
    rfl
  have hkey (protocol : WpaSecurityProtocol) (h : protocol ∈
      (platform.wpaCipherSuites.visit (wpaSuites platform listings)).map Prod.fst) :
      ∃ known ∈ knownProtocols, wpaProtocolOf known = protocol := by
    obtain ⟨⟨_, ciphers⟩, hentry, rfl⟩ := List.mem_map.mp h
    obtain ⟨listing, hlisting, hprotocol, _⟩ :=
      exists_mem_of_lookup_wpaSuites (platform.wpaCipherSuites.mem_visit.mp hentry)
    exact ⟨listing.securityProtocol, hknown.protocols listing hlisting, hprotocol⟩
  rw [hmap]
  apply List.Nodup.map_on _ hnodup
  intro protocol hprotocol other hother hname
  obtain ⟨source, hsource, rfl⟩ := hkey protocol hprotocol
  obtain ⟨source', hsource', rfl⟩ := hkey other hother
  rw [wpaCipherPropertyName_wpaProtocolOf _ hsource,
    wpaCipherPropertyName_wpaProtocolOf _ hsource'] at hname
  exact (wpaProtocolOf_eq_iff _ hsource _ hsource').mpr hname

theorem words_of_rendered (hknown : Known listings) (hsurvives : Survives platform listings chosen)
    {listing : Listing} (hlisting : listing ∈ listings) {value : ByteString}
    (h : (pairwisePropertyOf listing.securityProtocol, value) ∈ rendered platform listings) :
    words value =
      (firstListing listings (survivor chosen listing.securityProtocol)).map cipherName := by
  obtain ⟨⟨protocol, ciphers⟩, hentry, hsetting⟩ := List.mem_map.mp h
  obtain ⟨hname, rfl⟩ := Prod.mk.inj hsetting
  have hlookup := platform.wpaCipherSuites.mem_visit.mp hentry
  obtain ⟨source, hsource, rfl, _⟩ := exists_mem_of_lookup_wpaSuites hlookup
  have hknownSource := hknown.protocols source hsource
  have hknownListing := hknown.protocols listing hlisting
  have hname' : wpaCipherPropertyName (wpaProtocolOf source.securityProtocol) =
      pairwisePropertyOf listing.securityProtocol := hname
  rw [wpaCipherPropertyName_wpaProtocolOf _ hknownSource] at hname'
  rw [(wpaProtocolOf_eq_iff _ hknownSource _ hknownListing).mpr hname',
    hsurvives listing hlisting] at hlookup
  rw [← Option.some.inj hlookup]
  exact words_cipherSetting _ _

theorem exists_rendered (hknown : Known listings) (hsurvives : Survives platform listings chosen)
    {listing : Listing} (hlisting : listing ∈ listings) :
    ∃ value, (pairwisePropertyOf listing.securityProtocol, value) ∈ rendered platform listings := by
  have hentry := platform.wpaCipherSuites.mem_visit.mpr (hsurvives listing hlisting)
  have hsetting := List.mem_map_of_mem (f := cipherSetting) hentry
  rw [← wpaCipherPropertyName_wpaProtocolOf _ (hknown.protocols listing hlisting)]
  exact ⟨_, hsetting⟩

theorem cipherName_mem (hknown : Known listings) {listing : Listing} (hlisting : listing ∈ listings)
    {cipher : Dot11CipherSuite} (hcipher : cipher ∈ listing.cipherSuites)
    (protocol : Dot11SecurityProtocol) :
    cipherName cipher ∈ (firstListing listings protocol).map cipherName ↔
      cipher ∈ firstListing listings protocol := by
  constructor
  · intro h
    obtain ⟨other, hother, hname⟩ := List.mem_map.mp h
    obtain ⟨source, hsource, hmem⟩ := mem_firstListing hother
    have hotherKnown := mem_knownCiphers (hknown.ciphers source hsource other hmem)
    have hcipherKnown := mem_knownCiphers (hknown.ciphers listing hlisting cipher hcipher)
    obtain rfl := cipherName_injective other hotherKnown cipher hcipherKnown hname
    exact hother
  · exact List.mem_map_of_mem

theorem delivered_iff (hknown : Known listings) (hsurvives : Survives platform listings chosen)
    {trace : List System.Exchange}
    (hsent : settings pairwiseProperty trace = rendered platform listings) :
    Delivered listings trace ↔ ∀ listing ∈ listings,
      listing.cipherSuites ⊆ firstListing listings (survivor chosen listing.securityProtocol) := by
  constructor
  · intro hdelivered listing hlisting cipher hcipher
    obtain ⟨value, hvalue, hword⟩ := hdelivered.present listing hlisting cipher hcipher
    rw [hsent] at hvalue
    rw [words_of_rendered hknown hsurvives hlisting hvalue] at hword
    exact (cipherName_mem hknown hlisting hcipher _).mp hword
  · intro hkept
    refine ⟨?_, ?_, ?_⟩
    · rw [hsent]
      exact rendered_once hknown
    · intro listing hlisting cipher hcipher
      obtain ⟨value, hvalue⟩ := exists_rendered hknown hsurvives hlisting
      refine ⟨value, by rw [hsent]; exact hvalue, ?_⟩
      rw [words_of_rendered hknown hsurvives hlisting hvalue]
      exact List.mem_map_of_mem (hkept listing hlisting hcipher)
    · rw [hsent]
      intro setting hsetting word hword
      obtain ⟨listing, hlisting, hname, hwords, _⟩ := exists_listing_of_rendered hknown hsetting
      rw [hwords] at hword
      obtain ⟨cipher, hcipher, rfl⟩ := List.mem_map.mp hword
      exact ⟨listing, hlisting, hname, cipher, hcipher, rfl⟩

end Delivery

section Run

variable {platform : Platform} {accessPointManager : IAccessPointManager System}
  {accessPointId interfaceName : ByteString} {accessPoint : IAccessPoint System}
  {configuration : Dot11AccessPointConfiguration}

abbrev linuxController (platform : Platform) (interfaceName : ByteString) :
    IAccessPointController System :=
  accessPointControllerLinux platform.toWifi interfaceName

theorem rendered_nil : rendered platform [] = [] := by
  have hdot11 : dot11Suites [] = ∅ := rfl
  have hneutral : ieee80211Suites platform [] = ∅ := by
    unfold ieee80211Suites fromDot11CipherSuiteConfigurations
    rw [hdot11, Table.Traversal.visit_empty]
    rfl
  have hsuites : wpaSuites platform [] = ∅ := by
    unfold wpaSuites ieee80211CipherSuitesToWpaCipherSuites
    rw [hneutral, Table.Traversal.visit_empty]
    rfl
  rw [rendered, hsuites, Table.Traversal.visit_empty]
  rfl

-- Whatever else is configured, a request that succeeds has sent what is rendered.
theorem performs_enable
    (hfound : accessPointManager.getAccessPoint accessPointId = some (some accessPoint))
    (hcreated : accessPoint.createController =
      .ok (some (linuxController platform interfaceName))) :
    Performs platform.toPlatform pairwiseProperty False Succeeds
      (rendered platform configuration.pairwiseCipherSuites)
      (wifiAccessPointEnable platform accessPointManager accessPointId (some configuration)) := by
  have hspared (request : ControllerRequest)
      (h : ∀ pairwiseCipherSuites, request ≠ .SetPairwiseCipherSuites pairwiseCipherSuites) :
      Spared pairwiseProperty request := spared_pairwiseProperty request h
  have hdata : Performs platform.toPlatform pairwiseProperty False Succeeds [] _ :=
    performs_of_within (within_setAuthenticationDataImpl platform accessPointManager accessPointId
      interfaceName (fun data => hspared (.SetAuthenticationData data) nofun)
      (configuration.authenticationData.getD {}))
  have hset : Performs platform.toPlatform pairwiseProperty _ Succeeds _ _ :=
    performs_setPairwiseCipherSuitesImpl platform accessPointManager accessPointId interfaceName
      (dot11Suites configuration.pairwiseCipherSuites)
  have hlast : Performs platform.toPlatform pairwiseProperty False Succeeds [] _ :=
    performs_changeOperationalState platform accessPointId interfaceName .Enabled (str "enabled")
  have hitems := performs_configurationItems platform accessPointManager accessPointId
    interfaceName (fun request _ h => hspared request h) hdata (performs_of_valid False.elim hset)
    hlast
  rw [ite_self, List.nil_append, List.append_nil] at hitems
  rw [enable_eq hfound hcreated]
  by_cases hempty : configuration.pairwiseCipherSuites = []
  · rw [if_neg (by simp [hempty])] at hitems
    rw [hempty, rendered_nil]
    exact hitems
  · rw [if_pos hempty] at hitems
    exact hitems

-- No entry of the last map is empty when a request succeeds.
theorem rendered_of_succeeded
    (hfound : accessPointManager.getAccessPoint accessPointId = some (some accessPoint))
    (hcreated : accessPoint.createController =
      .ok (some (linuxController platform interfaceName)))
    (hciphers : configuration.pairwiseCipherSuites ≠ []) {trace : List System.Exchange}
    {status : WifiAccessPointOperationStatus}
    (hruns : (wifiAccessPointEnable platform accessPointManager accessPointId
      (some configuration)).Runs trace (.ok status)) (hsucceeded : status.code = .Succeeded) :
    ∀ entry ∈ platform.wpaCipherSuites.visit
      (wpaSuites platform configuration.pairwiseCipherSuites), ValidCipherSuites entry := by
  have hitem : wifiAccessPointSetPairwiseCipherSuitesImpl platform accessPointManager accessPointId
      (some (linuxController platform interfaceName))
      (dot11Suites configuration.pairwiseCipherSuites) ∈
        configurationItems platform accessPointManager accessPointId
          (linuxController platform interfaceName) configuration := by
    simp [configurationItems, hciphers, dot11Suites]
  rw [enable_eq hfound hcreated] at hruns
  exact Program.of_returns (returns_setConfigurationItems hitem
    (returns_setPairwiseCipherSuitesImpl platform accessPointManager accessPointId interfaceName
      _)) hruns hsucceeded

variable {listings : List Listing} {chosen : Dot11SecurityProtocol}

theorem validCipherSuites (hknown : Known listings) (hsurvives : Survives platform listings chosen)
    (hsurvivors : ∀ listing ∈ listings,
      firstListing listings (survivor chosen listing.securityProtocol) ≠ []) :
    ∀ entry ∈ platform.wpaCipherSuites.visit (wpaSuites platform listings),
      ValidCipherSuites entry := by
  have hname : ∀ protocol ∈ knownProtocols,
      wpaCipherPropertyName (wpaProtocolOf protocol) ≠ ProtocolHostapd.PropertyNameInvalid := by
    decide
  rintro ⟨protocol, ciphers⟩ hentry
  have hlookup := platform.wpaCipherSuites.mem_visit.mp hentry
  obtain ⟨listing, hlisting, rfl, _, rfl⟩ := exists_mem_of_lookup_wpaSuites hlookup
  refine ⟨?_, ?_, hname _ (hknown.protocols listing hlisting)⟩
  · have hsurvivor := hsurvives listing hlisting
    rw [hlookup] at hsurvivor
    rw [Option.some.inj hsurvivor]
    exact fun hnil => hsurvivors listing hlisting (List.map_eq_nil_iff.mp hnil)
  · intro cipher hcipher
    obtain ⟨source, hsource, rfl⟩ := List.mem_map.mp hcipher
    exact hknown.ciphers listing hlisting source hsource

theorem survivors_of_valid (hsurvives : Survives platform listings chosen)
    (hvalid : ∀ entry ∈ platform.wpaCipherSuites.visit (wpaSuites platform listings),
      ValidCipherSuites entry) :
    ∀ listing ∈ listings,
      firstListing listings (survivor chosen listing.securityProtocol) ≠ [] := by
  intro listing hlisting hempty
  have hentry := platform.wpaCipherSuites.mem_visit.mpr (hsurvives listing hlisting)
  exact (hvalid _ hentry).1 (by rw [hempty]; rfl)

-- Nothing but the ciphers is configured.
theorem performs_enable_ciphers (hknown : Known listings)
    (hsurvives : Survives platform listings chosen) (hlistings : listings ≠ [])
    (hsurvivors : ∀ listing ∈ listings,
      firstListing listings (survivor chosen listing.securityProtocol) ≠ [])
    (hfound : accessPointManager.getAccessPoint accessPointId = some (some accessPoint))
    (hcreated : accessPoint.createController =
      .ok (some (linuxController platform interfaceName))) :
    Performs platform.toPlatform pairwiseProperty True Succeeds (rendered platform listings)
      (wifiAccessPointEnable platform accessPointManager accessPointId
        (some { pairwiseCipherSuites := listings })) := by
  have hunknown : ∀ protocol ∈ knownProtocols, protocol ≠ Dot11SecurityProtocolUnknown ∧
      fromDot11SecurityProtocol protocol ≠ .Unknown := by decide
  obtain ⟨listing, hlisting⟩ := List.exists_mem_of_ne_nil listings hlistings
  have hne {κ ν : Type} [DecidableEq κ] {table : Table κ ν} {key : κ} {value : ν}
      (h : table.lookup key = some value) : table ≠ ∅ := by
    rintro rfl
    cases h
  have hvalid := validCipherSuites hknown hsurvives hsurvivors
  have hset : Performs platform.toPlatform pairwiseProperty _ Succeeds _ _ :=
    performs_setPairwiseCipherSuitesImpl platform accessPointManager accessPointId interfaceName
      (dot11Suites listings)
  rw [enable_eq hfound hcreated, ← List.append_nil (rendered _ _)]
  have hitems : configurationItems platform accessPointManager accessPointId
      (linuxController platform interfaceName) { pairwiseCipherSuites := listings } =
        [wifiAccessPointSetPairwiseCipherSuitesImpl platform accessPointManager accessPointId
          (some (linuxController platform interfaceName)) (dot11Suites listings)] := by
    simp [configurationItems, hlistings, dot11Suites]
  rw [hitems]
  apply performs_setConfigurationItems
  · refine performs_of_valid (fun _ => ⟨⟨?_, ?_, ?_⟩, ?_, ?_, hvalid⟩) hset
    · exact hne (lookup_dot11Suites_of_mem hlisting)
    · intro hmem
      obtain ⟨ciphers, hciphers⟩ := Option.isSome_iff_exists.mp (AList.lookup_isSome.mpr hmem)
      obtain ⟨source, hsource, hprotocol, _⟩ := exists_mem_of_lookup hciphers
      exact (hunknown _ (hknown.protocols source hsource)).1 hprotocol
    · intro hmem
      obtain ⟨ciphers, hciphers⟩ := Option.isSome_iff_exists.mp (AList.lookup_isSome.mpr hmem)
      obtain ⟨key, content, hcontent, hprotocol, _⟩ := Table.Traversal.of_lookup_rekey hciphers
      obtain ⟨source, hsource, rfl, _⟩ := exists_mem_of_lookup hcontent
      exact (hunknown _ (hknown.protocols source hsource)).2 hprotocol
    · exact hne (lookup_ieee80211Suites hknown hlisting)
    · exact hne (hsurvives listing hlisting)
  · exact performs_changeOperationalState platform accessPointId interfaceName .Enabled _

-- A hostapd that accepts whatever it is told and is enabled already.
def willing (past : List System.Exchange) : (request : SystemRequest) → request.Reply
  | .SendCommand .Status => some (str "state=ENABLED")
  | request => AccessPointControllerLinux.acknowledging (some (str "ssid=guest")) past request

theorem accepted_willing (chosen : Dot11SecurityProtocol) (past : List System.Exchange)
    (request : SystemRequest) :
    accepted (preferring chosen).toPlatform ⟨request, willing past request⟩ = true := by
  have hplatform : (preferring chosen).toPlatform = (default : Wifi.Platform).toPlatform := rfl
  rw [hplatform]
  cases request with
  | SendCommand command =>
      cases command with
      | Status =>
          have hstatus : accepted (default : Wifi.Platform).toPlatform
              ⟨.SendCommand .Status, some (str "state=ENABLED")⟩ = true := by decide +kernel
          exact hstatus
      | GetConfig =>
          have hconfiguration : accepted (default : Wifi.Platform).toPlatform
              ⟨.SendCommand .GetConfig, some (str "ssid=guest")⟩ = true := by decide +kernel
          exact hconfiguration
      | _ => rfl
  | _ => rfl

def wlan0 (platform : Platform) : IAccessPoint System :=
  ⟨str "wlan0", .ok (some (linuxController platform (str "wlan0")))⟩

def onlyWlan0 (platform : Platform) : IAccessPointManager System :=
  ⟨fun _ => some (some (wlan0 platform))⟩

def enableCiphers (platform : Platform) (listings : List Listing) :
    Wpa.Action WifiAccessPointOperationStatus :=
  wifiAccessPointEnable platform (onlyWlan0 platform) (str "wlan0")
    (some { pairwiseCipherSuites := listings })

theorem exists_run_enableCiphers (hknown : Known listings) (hlistings : listings ≠ [])
    (hsurvives : Survives (preferring chosen) listings chosen)
    (hsurvivors : ∀ listing ∈ listings,
      firstListing listings (survivor chosen listing.securityProtocol) ≠ []) :
    ∃ trace status, (enableCiphers (preferring chosen) listings).Runs trace (.ok status) ∧
      status.code = .Succeeded ∧
      settings pairwiseProperty trace = rendered (preferring chosen) listings := by
  have hperforms : Performs (preferring chosen).toPlatform pairwiseProperty True Succeeds
      (rendered (preferring chosen) listings) (enableCiphers (preferring chosen) listings) :=
    performs_enable_ciphers hknown hsurvives hlistings hsurvivors rfl rfl
  have hruns := Program.runs_run willing (enableCiphers (preferring chosen) listings)
  have haccepting : Accepting (preferring chosen).toPlatform
      ((enableCiphers (preferring chosen) listings).run willing []).1 :=
    Program.mem_run (accepted_willing chosen) _ [] (List.forall_mem_nil _)
  have hends := Program.ends_of_wp [] (hperforms []) hruns
  rw [List.nil_append] at hends
  cases houtcome : ((enableCiphers (preferring chosen) listings).run willing []).2 with
  | error fault =>
      rw [houtcome] at hends
      exact absurd haccepting (hends trivial)
  | ok status =>
      rw [houtcome] at hruns hends
      have hsucceeded := hends.2 trivial haccepting
      have hsent := hends.1 hsucceeded
      rw [rendered_pairwise hknown] at hsent
      exact ⟨_, status, hruns, hsucceeded, hsent⟩

theorem enable_deliversCiphers_iff (hknown : Known listings) :
    AlwaysDelivered listings ↔ Lossless listings := by
  constructor
  · intro halways chosen hchosen hsurvivors
    by_cases hempty : listings = []
    · rw [hempty]
      exact nofun
    · have hsurvives := survives_preferring hknown hchosen hsurvivors
      obtain ⟨trace, status, hruns, hsucceeded, hsent⟩ :=
        exists_run_enableCiphers hknown hempty hsurvives hsurvivors
      have hdelivered := halways (preferring chosen) _ _ _ _ _ trace status rfl rfl rfl hruns
        hsucceeded
      exact (delivered_iff hknown hsurvives hsent).mp hdelivered
  · intro hlossless platform accessPointManager accessPoint accessPointId interfaceName
      configuration trace status hfound hcreated hlistings hruns hsucceeded
    subst hlistings
    obtain ⟨chosen, hchosen, hsurvives⟩ : ∃ chosen ∈ _,
        Survives platform configuration.pairwiseCipherSuites chosen := exists_survives hknown
    have hends := Program.ends_of_wp [] (performs_enable hfound hcreated []) hruns
    have hsent := hends.1 hsucceeded
    rw [rendered_pairwise hknown] at hsent
    refine (delivered_iff hknown hsurvives hsent).mpr ?_
    by_cases hempty : configuration.pairwiseCipherSuites = []
    · rw [hempty]
      exact nofun
    · exact hlossless chosen hchosen (survivors_of_valid hsurvives
        (rendered_of_succeeded hfound hcreated hempty hruns hsucceeded))

end Run

def mixed : List Listing :=
  [⟨Dot11SecurityProtocolWpa1, [Dot11CipherSuiteTkip]⟩,
    ⟨Dot11SecurityProtocolWpa2, [Dot11CipherSuiteCcmp128]⟩]

theorem enable_deliversCiphers_mixed : AlwaysDelivered mixed := by
  have hknown : Known mixed := by
    constructor <;> decide
  have hlossless : Lossless mixed := by
    unfold Lossless
    decide
  exact (enable_deliversCiphers_iff hknown).mpr hlossless

def listedTwice : List Listing :=
  [⟨Dot11SecurityProtocolWpa2, [Dot11CipherSuiteCcmp128]⟩,
    ⟨Dot11SecurityProtocolWpa2, [Dot11CipherSuiteGcmp256]⟩]

-- The second listing is dropped, and the request succeeds.
theorem enable_losesCiphers_listedTwice :
    Known listedTwice ∧
      ∃ trace status,
        (enableCiphers (preferring Dot11SecurityProtocolWpa2) listedTwice).Runs trace
          (.ok status) ∧
        status.code = .Succeeded ∧
        settings pairwiseProperty trace = [(str "rsn_pairwise", str "CCMP ")] ∧
        ¬ Delivered listedTwice trace := by
  have hknown : Known listedTwice := by
    constructor <;> decide
  have hsurvivors : ∀ listing ∈ listedTwice, firstListing listedTwice
      (survivor Dot11SecurityProtocolWpa2 listing.securityProtocol) ≠ [] := by decide
  have hrendered : rendered (preferring Dot11SecurityProtocolWpa2) listedTwice =
      [(str "rsn_pairwise", str "CCMP ")] := by decide +kernel
  obtain ⟨trace, status, hruns, hsucceeded, hsent⟩ := exists_run_enableCiphers hknown
    (List.cons_ne_nil _ _) (survives_preferring hknown List.mem_cons_self hsurvivors) hsurvivors
  rw [hrendered] at hsent
  refine ⟨hknown, trace, status, hruns, hsucceeded, hsent, ?_⟩
  intro hdelivered
  obtain ⟨value, hvalue, hword⟩ := hdelivered.present
    ⟨Dot11SecurityProtocolWpa2, [Dot11CipherSuiteGcmp256]⟩ (by simp [listedTwice])
    Dot11CipherSuiteGcmp256 (by simp)
  rw [hsent, List.mem_singleton] at hvalue
  rw [(Prod.mk.inj hvalue).2] at hword
  revert hword
  decide

end NetRemote.Service.NetRemoteService.PairwiseCipherSuites
