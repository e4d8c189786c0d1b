import NetRemote.Cli.NetRemoteCli
import NetRemote.Service.ToServiceDot1xAdapters

namespace NetRemote.Cli.RadiusServerEndpoint

open Foundation.Bytes Net Wifi Service

inductive TypeKeyword where
  | Auth
  | Acct
  deriving DecidableEq, Repr

def TypeKeyword.text : TypeKeyword → ByteString
  | .Auth => str "auth"
  | .Acct => str "acct"

def TypeKeyword.endpointType : TypeKeyword → Ieee8021xRadiusServerEndpointType
  | .Auth => .Authentication
  | .Acct => .Accounting

-- What is written as `[type,]address[:port],secret`.
structure EndpointArgument where
  keyword : Option TypeKeyword
  address : Ipv4Address
  port : Option UInt16
  sharedSecret : ByteString
  port_ne_zero : port ≠ some 0
  sharedSecret_ne_nil : sharedSecret ≠ []
  no_comma : (44 : UInt8) ∉ sharedSecret

namespace EndpointArgument

variable (argument : EndpointArgument)

def addressToken : ByteString := argument.address.text ++ portText argument.port

def tokens : List ByteString :=
  (argument.keyword.map TypeKeyword.text).toList ++ [argument.addressToken, argument.sharedSecret]

def text : ByteString := (str ",").intercalate argument.tokens

-- What the text says.
def configuration : Ieee8021xRadiusServerEndpointConfiguration where
  type := argument.keyword.elim .Authentication TypeKeyword.endpointType
  address := argument.address.text
  port := argument.port
  sharedSecret := argument.sharedSecret

end EndpointArgument

section Text

theorem not_mem_decimal {byte : UInt8} (h : isDigit byte = false) (n : Nat) : byte ∉ decimal n := by
  intro hmem
  rw [isDigit_decimal hmem] at h
  cases h

theorem not_mem_address {byte : UInt8} (h : isDigit byte = false) (hdot : byte ≠ 46)
    (address : Ipv4Address) : byte ∉ address.text := by
  have hstr : byte ∉ str "." := by
    change byte ∉ [46]
    simpa using hdot
  simp only [Ipv4Address.text, List.mem_append, not_mem_decimal h, hstr, or_self, not_false_iff]

theorem not_mem_portText {byte : UInt8} (h : isDigit byte = false) (hcolon : byte ≠ 58)
    (port : Option UInt16) : byte ∉ portText port := by
  have hstr : byte ∉ str ":" := by
    change byte ∉ [58]
    simpa using hcolon
  cases port with
  | none => exact List.not_mem_nil
  | some port =>
      change byte ∉ str ":" ++ decimal port.toNat
      simp only [List.mem_append, not_mem_decimal h, hstr, or_self, not_false_iff]

theorem dot_mem_address (address : Ipv4Address) : (46 : UInt8) ∈ address.text := by
  have hstr : (46 : UInt8) ∈ str "." := by decide
  simp [Ipv4Address.text, hstr]

variable (argument : EndpointArgument)

theorem getlines_text : getlines 44 argument.text = argument.tokens := by
  have haddress : (44 : UInt8) ∉ argument.addressToken := by
    rw [EndpointArgument.addressToken, List.mem_append, not_or]
    exact ⟨not_mem_address (by decide) (by decide) _, not_mem_portText (by decide) (by decide) _⟩
  have hkeyword : ∀ keyword : TypeKeyword, (44 : UInt8) ∉ keyword.text := by
    intro keyword
    cases keyword <;> decide
  have hlast : argument.tokens.getLast? ≠ some [] := by
    rw [EndpointArgument.tokens, List.getLast?_append_of_ne_nil _ (by simp)]
    simpa using argument.sharedSecret_ne_nil
  refine getlines_intercalate (by simp [EndpointArgument.tokens]) ?_ hlast
  intro token htoken
  rcases List.mem_append.mp htoken with hmem | hmem
  · obtain ⟨keyword, -, rfl⟩ := by simpa using hmem
    exact hkeyword keyword
  · rcases List.mem_cons.mp hmem with rfl | hmem
    · exact haddress
    · obtain rfl := List.mem_singleton.mp hmem
      exact argument.no_comma

end Text

section Tokens

variable (argument : EndpointArgument) (locals : Locals)

-- The port of the address that was read last stays where none is written.
theorem parseAddress_addressToken :
    parseAddress locals argument.addressToken =
      .ok { locals with
        address := argument.address.text
        port := argument.port.getD locals.port } := by
  have hcategory := getIpAddressCategory_text argument.address argument.port
  have hcolon := not_mem_address (by decide : isDigit 58 = false) (by decide) argument.address
  unfold parseAddress EndpointArgument.addressToken
  rw [if_pos hcategory]
  cases argument.port with
  | none =>
      rw [portText, Option.map_none, Option.getD_none, List.append_nil,
        findLastOf_of_not_mem hcolon]
      rfl
  | some port =>
      have hsplit : argument.address.text ++ portText (some port) =
          argument.address.text ++ 58 :: decimal port.toNat := rfl
      have hport : (58 : UInt8) ∉ decimal port.toNat := not_mem_decimal (by decide) _
      have hlt := port.toNat_lt
      rw [hsplit, findLastOf_append hport]
      dsimp only
      rw [← List.drop_drop, List.drop_left, List.drop_one, List.tail_cons, List.take_left,
        stoul_decimal _ (by omega)]
      dsimp only
      rw [if_neg (by omega), UInt16.ofNat_toNat]
      rfl

theorem parseEndpointType_addressToken :
    parseEndpointType locals argument.addressToken =
      parseAddress locals argument.addressToken := by
  have hdot : (46 : UInt8) ∈ argument.addressToken :=
    List.mem_append_left _ (dot_mem_address argument.address)
  have hne : ∀ keyword : ByteString, (46 : UInt8) ∉ keyword → argument.addressToken ≠ keyword :=
    fun keyword hkeyword heq => hkeyword (heq ▸ hdot)
  unfold parseEndpointType
  rw [if_neg (not_or.mpr ⟨hne _ (by decide), hne _ (by decide)⟩),
    if_neg (not_or.mpr ⟨hne _ (by decide), hne _ (by decide)⟩)]

theorem parseEndpointType_text (keyword : TypeKeyword) :
    parseEndpointType locals keyword.text =
      .ok { locals with
        configuration := { locals.configuration with type := keyword.endpointType } } := by
  cases keyword <;> rfl

-- A secret that looks like an address is never stored as the secret.
theorem sharedSecret_of_parseAddress {token : ByteString} {locals' : Locals}
    (hcategory : getIpAddressCategory token ≠ .Unknown)
    (h : parseAddress locals token = .ok locals') :
    locals'.sharedSecret = locals.sharedSecret := by
  unfold parseAddress at h
  rw [if_pos hcategory] at h
  cases hfound : findLastOf token 58 with
  | none =>
      rw [hfound] at h
      cases h
      rfl
  | some portSeparatorIndex =>
      rw [hfound] at h
      dsimp only at h
      cases hport : stoul (token.drop (portSeparatorIndex + 1)) with
      | error exception =>
          rw [hport] at h
          cases h
      | ok portParsed =>
          rw [hport] at h
          dsimp only at h
          by_cases hlarge : 65535 < portParsed
          · rw [if_pos hlarge] at h
            cases h
          · rw [if_neg hlarge] at h
            cases h
            rfl

end Tokens

section Endpoint

variable (argument : EndpointArgument) (configuration : Ieee8021xRadiusServerEndpointConfiguration)

-- What the parser makes of an address and a secret.
def parsedEndpoint : Ieee8021xRadiusServerEndpointConfiguration where
  type := .Authentication
  address := argument.address.text
  port := argument.port.or configuration.port
  sharedSecret := argument.sharedSecret

theorem parse_of_parseTokens (locals : Locals) {tokens : List ByteString}
    (h : parseTokens { configuration } 0 tokens = .ok locals)
    (haddress : locals.address = argument.address.text)
    (hsharedSecret : locals.sharedSecret = argument.sharedSecret)
    (htype : locals.endpointType = .Authentication)
    (hport : locals.port = argument.port.getD 0)
    (hconfiguration : locals.configuration.port = configuration.port) :
    parseIeee8021xRadiusServerEndpointConfiguration tokens configuration =
      (true, parsedEndpoint argument configuration) := by
  have haddress_ne : argument.address.text ≠ [] := List.ne_nil_of_mem (dot_mem_address _)
  have hport' : (if locals.port ≠ 0 then some locals.port else locals.configuration.port) =
      argument.port.or configuration.port := by
    rw [hport, hconfiguration]
    cases hargument : argument.port with
    | none => rfl
    | some port =>
        have hne : port ≠ 0 := fun heq => argument.port_ne_zero (by rw [hargument, heq])
        exact if_pos hne
  unfold parseIeee8021xRadiusServerEndpointConfiguration
  rw [h]
  dsimp only
  rw [haddress, hsharedSecret, htype, hport', if_neg haddress_ne,
    if_neg argument.sharedSecret_ne_nil]
  rfl

-- With the type written, the secret is whatever comes third.
theorem parse_tokens_of_keyword {keyword : TypeKeyword} (h : argument.keyword = some keyword) :
    parseIeee8021xRadiusServerEndpointConfiguration argument.tokens configuration =
      (true, parsedEndpoint argument configuration) := by
  refine parse_of_parseTokens argument configuration
    { configuration := { configuration with type := keyword.endpointType }
      port := argument.port.getD 0
      address := argument.address.text
      sharedSecret := argument.sharedSecret } ?_ rfl rfl rfl rfl rfl
  rw [EndpointArgument.tokens, h]
  simp only [Option.map_some, Option.toList_some, List.cons_append, List.nil_append, parseTokens,
    parseToken, parseEndpointType_text, parseAddress_addressToken, parseSharedSecret]
  rfl

-- What has been read when only the second token is left.
def afterAddress : Locals where
  configuration := configuration
  port := argument.port.getD 0
  address := argument.address.text

theorem parseTokens_of_no_keyword (h : argument.keyword = none) :
    parseTokens { configuration } 0 argument.tokens =
      (parseAddress (afterAddress argument configuration) argument.sharedSecret).bind .ok := by
  have htokens : argument.tokens = [argument.addressToken, argument.sharedSecret] := by
    rw [EndpointArgument.tokens, h]
    rfl
  rw [htokens]
  simp only [parseTokens, parseToken, parseEndpointType_addressToken, parseAddress_addressToken]
  rfl

theorem parse_tokens_of_secret (h : argument.keyword = none)
    (hcategory : getIpAddressCategory argument.sharedSecret = .Unknown) :
    parseIeee8021xRadiusServerEndpointConfiguration argument.tokens configuration =
      (true, parsedEndpoint argument configuration) := by
  refine parse_of_parseTokens argument configuration
    { afterAddress argument configuration with sharedSecret := argument.sharedSecret } ?_
    rfl rfl rfl rfl rfl
  rw [parseTokens_of_no_keyword argument configuration h, parseAddress,
    if_neg (not_not.mpr hcategory)]
  rfl

-- Without a type, a secret that looks like an address is taken for one.
theorem parse_tokens_of_address_like (h : argument.keyword = none)
    (hcategory : getIpAddressCategory argument.sharedSecret ≠ .Unknown) :
    (parseIeee8021xRadiusServerEndpointConfiguration argument.tokens configuration).1 = false := by
  unfold parseIeee8021xRadiusServerEndpointConfiguration
  rw [parseTokens_of_no_keyword argument configuration h]
  cases hsecret : parseAddress (afterAddress argument configuration) argument.sharedSecret with
  | error left => rfl
  | ok locals =>
      have hnil : locals.sharedSecret = [] := sharedSecret_of_parseAddress _ hcategory hsecret
      dsimp only [Except.bind]
      by_cases haddress : locals.address = []
      · rw [if_pos haddress]
      · rw [if_neg haddress, if_pos hnil]

-- The endpoint comes out as it was written but for its type, and for a port that
-- the configuration had before.
theorem parsedEndpoint_eq_iff :
    parsedEndpoint argument configuration = argument.configuration ↔
      argument.keyword ≠ some .Acct ∧ (argument.port = none → configuration.port = none) := by
  have htype : Ieee8021xRadiusServerEndpointType.Authentication =
      argument.keyword.elim .Authentication TypeKeyword.endpointType ↔
        argument.keyword ≠ some .Acct := by
    cases argument.keyword with
    | none => simp
    | some keyword => cases keyword <;> simp [TypeKeyword.endpointType]
  have hport : argument.port.or configuration.port = argument.port ↔
      (argument.port = none → configuration.port = none) := by
    cases argument.port <;> simp
  unfold parsedEndpoint EndpointArgument.configuration
  rw [Ieee8021xRadiusServerEndpointConfiguration.mk.injEq, htype, hport]
  simp

theorem radiusEndpoint_read_iff :
    readIeee8021xRadiusServerEndpointConfiguration argument.text configuration =
        (true, argument.configuration) ↔
      argument.keyword ≠ some .Acct ∧
        (argument.keyword = none → getIpAddressCategory argument.sharedSecret = .Unknown) ∧
        (argument.port = none → configuration.port = none) := by
  have heq := parsedEndpoint_eq_iff argument configuration
  unfold readIeee8021xRadiusServerEndpointConfiguration
  rw [getlines_text]
  cases hkeyword : argument.keyword with
  | some keyword =>
      rw [hkeyword] at heq
      rw [parse_tokens_of_keyword argument configuration hkeyword, Prod.mk.injEq, heq]
      simp
  | none =>
      rw [hkeyword] at heq
      by_cases hcategory : getIpAddressCategory argument.sharedSecret = .Unknown
      · rw [parse_tokens_of_secret argument configuration hkeyword hcategory, Prod.mk.injEq, heq]
        simp [hcategory]
      · have hfails := parse_tokens_of_address_like argument configuration hkeyword hcategory
        constructor
        · intro hread
          rw [hread] at hfails
          cases hfails
        · rintro ⟨-, hsecret, -⟩
          exact absurd (hsecret rfl) hcategory

end Endpoint

section Port

-- Whether it goes on or gives up, the port of the configuration stays as it is.
def KeepsPort (port : Option UInt16) : Parsed → Prop
  | .ok locals => locals.configuration.port = port
  | .error configuration => configuration.port = port

theorem keepsPort_parseAddress (locals : Locals) (token : ByteString) :
    KeepsPort locals.configuration.port (parseAddress locals token) := by
  unfold parseAddress
  split_ifs with hcategory
  · split
    · rfl
    · split
      · rfl
      · split_ifs <;> rfl
  · rfl

theorem keepsPort_parseEndpointType (locals : Locals) (token : ByteString) :
    KeepsPort locals.configuration.port (parseEndpointType locals token) := by
  unfold parseEndpointType
  split_ifs with haccounting hauthentication
  · rfl
  · rfl
  · exact keepsPort_parseAddress locals token

theorem keepsPort_parseToken (locals : Locals) (numArgument : Nat) (token : ByteString) :
    KeepsPort locals.configuration.port (parseToken locals numArgument token) := by
  unfold parseToken
  split
  · exact keepsPort_parseEndpointType locals token
  · exact keepsPort_parseAddress locals token
  · rfl
  · rfl

theorem keepsPort_parseTokens (tokens : List ByteString) (locals : Locals) (numArgument : Nat) :
    KeepsPort locals.configuration.port (parseTokens locals numArgument tokens) := by
  induction tokens generalizing locals numArgument with
  | nil => rfl
  | cons token tokens ih =>
      have htoken := keepsPort_parseToken locals numArgument token
      rw [parseTokens]
      cases hparsed : parseToken locals numArgument token with
      | error configuration => rwa [hparsed] at htoken
      | ok next =>
          rw [hparsed] at htoken
          have hkept : next.configuration.port = locals.configuration.port := htoken
          exact hkept ▸ ih next (numArgument + 1)

-- A port of zero is never stored.
theorem port_of_read (inputStream : ByteString)
    (configuration : Ieee8021xRadiusServerEndpointConfiguration)
    (h : configuration.port ≠ some 0) :
    (readIeee8021xRadiusServerEndpointConfiguration inputStream configuration).2.port ≠
      some 0 := by
  have hkept := keepsPort_parseTokens (getlines 44 inputStream) { configuration } 0
  unfold readIeee8021xRadiusServerEndpointConfiguration
    parseIeee8021xRadiusServerEndpointConfiguration
  cases hparsed : parseTokens { configuration } 0 (getlines 44 inputStream) with
  | error given =>
      rw [hparsed] at hkept
      exact fun hzero => h (hkept.symm.trans hzero)
  | ok locals =>
      rw [hparsed] at hkept
      have hport : locals.configuration.port ≠ some 0 := fun hzero => h (hkept.symm.trans hzero)
      dsimp only
      split_ifs with haddress hsharedSecret hzero
      · exact hport
      · exact hport
      · exact fun hsome => hzero (Option.some.inj hsome)
      · exact hport

-- What the command line reads goes to the service and comes back.
theorem read_roundTrip (inputStream : ByteString) :
    fromServiceDot1xRadiusServerEndpointConfiguration
        (toServiceDot1xRadiusServerEndpointConfiguration
          (readIeee8021xRadiusServerEndpointConfiguration inputStream {}).2) =
      (readIeee8021xRadiusServerEndpointConfiguration inputStream {}).2 :=
  (fromServiceDot1x_toServiceDot1x_iff _).mpr (port_of_read inputStream {} nofun)

end Port

-- `acct,192.168.0.1:1813,secret`
def accountingArgument : EndpointArgument where
  keyword := some .Acct
  address := ⟨192, 168, 0, 1⟩
  port := some 1813
  sharedSecret := str "secret"
  port_ne_zero := by decide
  sharedSecret_ne_nil := by decide
  no_comma := by decide

-- `192.168.0.1,10.0.0.1`
def dottedSecretArgument : EndpointArgument where
  keyword := none
  address := ⟨192, 168, 0, 1⟩
  port := none
  sharedSecret := str "10.0.0.1"
  port_ne_zero := by decide
  sharedSecret_ne_nil := by decide
  no_comma := by decide

-- An accounting server becomes an authentication server, and a secret in dotted
-- decimal notation is refused.
theorem radiusEndpoint_misread :
    readIeee8021xRadiusServerEndpointConfiguration (str "acct,192.168.0.1:1813,secret") {} =
        (true, ⟨.Authentication, str "192.168.0.1", some 1813, str "secret"⟩) ∧
      readIeee8021xRadiusServerEndpointConfiguration accountingArgument.text {} ≠
        (true, accountingArgument.configuration) ∧
      (readIeee8021xRadiusServerEndpointConfiguration dottedSecretArgument.text {}).1 = false := by
  have htext : str "acct,192.168.0.1:1813,secret" = accountingArgument.text := by decide
  have hread : readIeee8021xRadiusServerEndpointConfiguration accountingArgument.text {} =
      (true, ⟨.Authentication, str "192.168.0.1", some 1813, str "secret"⟩) := by
    unfold readIeee8021xRadiusServerEndpointConfiguration
    rw [getlines_text, parse_tokens_of_keyword accountingArgument {} rfl]
    decide
  have hcategory : getIpAddressCategory dottedSecretArgument.sharedSecret ≠ .Unknown :=
    getIpAddressCategory_text ⟨10, 0, 0, 1⟩ none
  refine ⟨htext ▸ hread, ?_, ?_⟩
  · rw [hread]
    decide
  · unfold readIeee8021xRadiusServerEndpointConfiguration
    rw [getlines_text]
    exact parse_tokens_of_address_like dottedSecretArgument {} rfl hcategory

end NetRemote.Cli.RadiusServerEndpoint
