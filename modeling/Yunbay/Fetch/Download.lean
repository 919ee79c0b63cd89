import Yunbay.Fetch.Address

/-!
# Downloads behind the SSRF protection

`DoDownloadRequest` checks the URL with `ValidateURLWithFetchSetting` and then lets the HTTP client
fetch it; `checkRedirect` checks every redirect the same way. The check looks the host up, and the
client looks it up again when it connects.

Name resolution is an arbitrary function of host and time. A download is a chain of hops, each with
the time of its check, the later time of its connection and the address that the dialer picks.
-/

namespace Yunbay

open Except

/-! ## URLs -/

/-- The text before and after the last occurrence of a character. -/
def splitLast (c : Char) : List Char → Option (List Char × List Char)
  | [] => none
  | head :: rest =>
    match splitLast c rest with
    | some (before, after) => some (head :: before, after)
    | none => if head = c then some ([], rest) else none

lemma splitLast_eq {c : Char} {text before after : List Char}
    (h : splitLast c text = some (before, after)) : text = before ++ c :: after := by
  induction text generalizing before with
  | nil => cases h
  | cons head rest ih =>
    rw [splitLast] at h
    cases hrest : splitLast c rest with
    | some pair =>
      rw [hrest] at h
      obtain ⟨rfl, rfl⟩ := Prod.mk.inj (Option.some.inj h)
      rw [ih hrest]
      rfl
    | none =>
      simp only [hrest] at h
      split_ifs at h with hc
      obtain ⟨rfl, rfl⟩ := Prod.mk.inj (Option.some.inj h)
      rw [hc]
      rfl

def splitHostPort (text : List Char) : Option (List Char × List Char) :=
  match splitLast ':' text with
  | none => none
  | some (before, port) =>
    if '[' ∈ port ∨ ']' ∈ port then none
    else if text.head? = some '[' then
      -- the first closing bracket has to stand before the last colon
      if before.length < 2 ∨ before.getLast? ≠ some ']' ∨ ']' ∈ before.tail.dropLast ∨
          '[' ∈ before.tail.dropLast then none
      else some (before.tail.dropLast, port)
    else if ':' ∈ before ∨ '[' ∈ before ∨ ']' ∈ before then none
    else some (before, port)

/-- The text of a host without its brackets. -/
def stripBrackets (host : List Char) : List Char :=
  if host.head? = some '[' ∧ host.getLast? = some ']' then host.tail.dropLast else host

/-- `URL.Hostname`. -/
def hostnameOf (host : List Char) : List Char :=
  match splitLast ':' host with
  | some (before, port) =>
    if port.all Char.isDigit then stripBrackets before else stripBrackets host
  | none => stripBrackets host

/-- The scheme and host of a parsed URL. -/
structure URL where
  scheme : String
  host : List Char
  /-- The parser takes digits only for a port. -/
  port_digits : ∀ name port, splitHostPort host = some (name, port) → port.all Char.isDigit = true

def URL.hostname (u : URL) : List Char := hostnameOf u.host

/-- The host that the check looks at is the one that the client connects to. -/
lemma URL.hostname_eq {u : URL} {name port : List Char}
    (h : splitHostPort u.host = some (name, port)) : u.hostname = name := by
  have hdigits := u.port_digits name port h
  unfold splitHostPort at h
  unfold hostname hostnameOf
  split at h
  · cases h
  · next before after hsplit =>
    rw [hsplit]
    split_ifs at h with hbracket hhead hclosed hplain
    · -- an address in brackets
      obtain ⟨rfl, rfl⟩ := Prod.mk.inj (Option.some.inj h)
      have hopen : before.head? = some '[' := by
        cases before with
        | nil => simp at hclosed
        | cons c before =>
          have htext := hhead
          rw [splitLast_eq hsplit] at htext
          exact htext
      have hclose : before.getLast? = some ']' := by
        by_contra hnot
        exact hclosed (.inr (.inl hnot))
      simp only [hdigits, if_true, stripBrackets, hopen, hclose, and_self]
    · obtain ⟨rfl, rfl⟩ := Prod.mk.inj (Option.some.inj h)
      have hnot : before.head? ≠ some '[' := by
        intro hopen
        exact hplain (.inr (.inl (List.mem_of_mem_head? hopen)))
      simp only [hdigits, if_true, stripBrackets, hnot, false_and, if_false]

/-! ## Settings -/

/-- The settings of downloads. -/
structure FetchSetting where
  enableSSRFProtection : Bool
  allowPrivateIp : Bool
  domainFilterMode : Bool
  ipFilterMode : Bool
  domainList : List String
  ipList : List String
  allowedPorts : List String
  applyIPFilterForDomain : Bool

def defaultFetchSetting : FetchSetting where
  enableSSRFProtection := true
  allowPrivateIp := false
  domainFilterMode := false
  ipFilterMode := false
  domainList := []
  ipList := []
  allowedPorts := ["80", "443", "8080", "8443"]
  applyIPFilterForDomain := true

/-- The filters of a request. -/
structure SSRFProtection where
  allowPrivateIp : Bool
  domainFilterMode : Bool
  domainList : List String
  ipFilterMode : Bool
  ipList : List String
  allowedPorts : List Int
  applyIPFilterForDomain : Bool

/-- The errors of the check. -/
inductive FetchError where
  | portRangeFormat (config : String)
  | portRangeStart (config : String)
  | portRangeEnd (config : String)
  | portRangeOrder (config : String)
  | portRangeNumbers (config : String)
  | portNumber (config : String)
  | portOutOfRange (port : Int)
  | invalidURL
  | unsupportedProtocol (scheme : String)
  | invalidPort (port : String)
  | portNotAllowed (port : Int)
  | privateIP (ip : IP)
  | ipNotInWhitelist (ip : IP)
  | ipInBlacklist (ip : IP)
  | domainNotInWhitelist (host : String)
  | domainInBlacklist (host : String)
  | resolutionFailed (host : String)
  | privateIPOfHost (host : String) (ip : IP)
  | ipOfHostNotInWhitelist (host : String) (ip : IP)
  | ipOfHostInBlacklist (host : String) (ip : IP)
  deriving DecidableEq

def atoi (text : List Char) : Option Int :=
  let (negative, digits) :=
    match text with
    | '-' :: digits => (true, digits)
    | '+' :: digits => (false, digits)
    | digits => (false, digits)
  let value : Int := if negative then -decimal digits else decimal digits
  if digits = [] ∨ ¬digits.all Char.isDigit ∨ value < -maxInt64 - 1 ∨ maxInt64 < value then none
  else some value

/-- A port number. -/
def isPortNumber (port : Int) : Bool := 1 ≤ port ∧ port ≤ 65535

/-- One entry of the port configuration: a port, or a range of ports. -/
def parsePortRange (config : String) : Except FetchError (List Int) :=
  let text := config.toList
  if '-' ∈ text then
    match text.splitOn '-' with
    | [first, last] =>
      match atoi (trimSpace (String.ofList first)).toList,
          atoi (trimSpace (String.ofList last)).toList with
      | none, _ => .error (.portRangeStart config)
      | some _, none => .error (.portRangeEnd config)
      | some startPort, some endPort =>
        if endPort < startPort then .error (.portRangeOrder config)
        else if ¬isPortNumber startPort ∨ ¬isPortNumber endPort then
          .error (.portRangeNumbers config)
        else .ok ((List.range (endPort - startPort + 1).toNat).map fun i => startPort + i)
    | _ => .error (.portRangeFormat config)
  else
    match atoi text with
    | none => .error (.portNumber config)
    | some port => if isPortNumber port then .ok [port] else .error (.portOutOfRange port)

def parsePortRanges : List String → Except FetchError (List Int)
  | [] => pure []
  | config :: configs =>
    if trimSpace config = "" then parsePortRanges configs
    else do
      let ports ← parsePortRange (trimSpace config)
      let rest ← parsePortRanges configs
      pure (ports ++ rest)

/-- What the check and the client need of the network and of Go's libraries. -/
structure FetchEnv where
  /-- `url.Parse`. -/
  parseURL : String → Option URL
  /-- `strings.ToLower`. -/
  toLower : String → String
  /-- The name that the HTTP client gives to the dialer, in ASCII. -/
  toASCII : List Char → List Char
  /-- Addresses are ASCII already. -/
  toASCII_address : ∀ host, (parseIP host).isSome = true → toASCII host = host
  /-- The addresses of a name at a time; none if the lookup fails. -/
  resolve : List Char → Nat → Option (List IP)

/-- `net.LookupIP`: an address stands for itself, and no name is empty. -/
def lookupIP (env : FetchEnv) (host : List Char) (t : Nat) : Option (List IP) :=
  if host = [] then none
  else
    match parseAddr host with
    | some literal => some [literal.ip]
    | none => env.resolve host t

namespace SSRFProtection

variable (p : SSRFProtection)

def isAllowedPort (port : Int) : Bool := p.allowedPorts = [] ∨ port ∈ p.allowedPorts

/-- One entry of a domain list, which may be a wildcard. -/
def domainMatches (env : FetchEnv) (domain item : String) : Bool :=
  let item := env.toLower (trimSpace item)
  item ≠ "" ∧ (domain = item ∨
    ('*' :: '.' :: []).isPrefixOf item.toList ∧
      (('.' :: item.toList.drop 2).isSuffixOf domain.toList ∨ domain.toList = item.toList.drop 2))

def isDomainListed (env : FetchEnv) (domain : String) (list : List String) : Bool :=
  list.any (domainMatches env (env.toLower domain))

def isDomainAllowed (env : FetchEnv) (domain : String) : Bool :=
  if p.domainFilterMode then isDomainListed env domain p.domainList
  else !isDomainListed env domain p.domainList

def isIPAccessAllowed (ip : IP) : Bool :=
  if isPrivateIP ip ∧ ¬p.allowPrivateIp then false
  else if p.ipFilterMode then isIpInCIDRList ip p.ipList
  else !isIpInCIDRList ip p.ipList

/-- The error for a host that is an address. -/
def addressError (ip : IP) : FetchError :=
  if isPrivateIP ip then .privateIP ip
  else if p.ipFilterMode then .ipNotInWhitelist ip
  else .ipInBlacklist ip

/-- The error for an address of a host. -/
def resolvedError (host : String) (ip : IP) : FetchError :=
  if isPrivateIP ip ∧ ¬p.allowPrivateIp then .privateIPOfHost host ip
  else if p.ipFilterMode then .ipOfHostNotInWhitelist host ip
  else .ipOfHostInBlacklist host ip

/-- The loop over the addresses of a host. -/
def checkResolved (host : String) (ips : List IP) : Except FetchError Unit :=
  ips.forM fun ip => check (p.isIPAccessAllowed ip) (p.resolvedError host ip)

/-- The host and the port text of a URL. -/
def hostAndPort (u : URL) : List Char × List Char :=
  match splitHostPort u.host with
  | some pair => pair
  | none => (u.hostname, if u.scheme = "https" then "443".toList else "80".toList)

/-- The part of `ValidateURL` about the host. -/
def validateHost (env : FetchEnv) (host : List Char) (t : Nat) : Except FetchError Unit :=
  match parseIP host with
  | some ip => check (p.isIPAccessAllowed ip) (p.addressError ip)
  | none => do
    let name := String.ofList host
    check (p.isDomainAllowed env name)
      (if p.domainFilterMode then .domainNotInWhitelist name else .domainInBlacklist name)
    if p.applyIPFilterForDomain then
      match lookupIP env host t with
      | none => .error (.resolutionFailed name)
      | some ips => p.checkResolved name ips
    else pure ()

/-- `ValidateURL` at a time. -/
def validateURL (env : FetchEnv) (text : String) (t : Nat) : Except FetchError Unit :=
  match env.parseURL text with
  | none => .error .invalidURL
  | some u => do
    check (u.scheme = "http" ∨ u.scheme = "https") (.unsupportedProtocol u.scheme)
    let (host, portText) := hostAndPort u
    match atoi portText with
    | none => .error (.invalidPort (String.ofList portText))
    | some port => do
      check (p.isAllowedPort port) (.portNotAllowed port)
      p.validateHost env host t

end SSRFProtection

/-- The protection of a setting. -/
def FetchSetting.protection (setting : FetchSetting) (ports : List Int) : SSRFProtection where
  allowPrivateIp := setting.allowPrivateIp
  domainFilterMode := setting.domainFilterMode
  domainList := setting.domainList
  ipFilterMode := setting.ipFilterMode
  ipList := setting.ipList
  allowedPorts := ports
  applyIPFilterForDomain := setting.applyIPFilterForDomain

/-- `ValidateURLWithFetchSetting` at a time. -/
def validateURLWithFetchSetting (env : FetchEnv) (setting : FetchSetting) (text : String)
    (t : Nat) : Except FetchError Unit :=
  if ¬setting.enableSSRFProtection then pure ()
  else do
    let ports ← parsePortRanges setting.allowedPorts
    (setting.protection ports).validateURL env text t

/-! ## Downloads -/

/-- The addresses that the dialer tries for a URL; without a name it is the machine itself. -/
def dialAddresses (env : FetchEnv) (u : URL) (t : Nat) : List IP :=
  if env.toASCII u.hostname = [] then [.v4 (ipv4 127 0 0 1), IP.ofV6 1]
  else (lookupIP env (env.toASCII u.hostname) t).getD []

/-- A request of a download: its URL, the time of the check, the later time of the connection, and
which of the addresses the connection is opened to. -/
structure Hop where
  url : String
  checkedAt : Nat
  connectedAt : Nat
  checked_first : checkedAt ≤ connectedAt
  pick : Nat

/-- The address that the client connects to, if it does. -/
def Hop.connection (env : FetchEnv) (hop : Hop) : Option IP :=
  (env.parseURL hop.url).bind fun u => (dialAddresses env u hop.connectedAt)[hop.pick]?

/-- `checkRedirect`, after `via` requests. -/
def checkRedirect (env : FetchEnv) (setting : FetchSetting) (hop : Hop) (via : Nat) : Bool :=
  match validateURLWithFetchSetting env setting hop.url hop.checkedAt with
  | .error _ => false
  | .ok () => via < 10

/-- The connections of the redirects that the client follows. -/
def followRedirects (env : FetchEnv) (setting : FetchSetting) : Nat → List Hop → List IP
  | _, [] => []
  | via, hop :: hops =>
    if checkRedirect env setting hop via then
      match hop.connection env with
      | none => []
      | some ip => ip :: followRedirects env setting (via + 1) hops
    else []

/-- `DoDownloadRequest` without a worker and without a proxy: the connections that it opens. -/
def doDownloadRequest (env : FetchEnv) (setting : FetchSetting) (hop : Hop) (redirects : List Hop) :
    List IP :=
  match validateURLWithFetchSetting env setting hop.url hop.checkedAt with
  | .error _ => []
  | .ok () =>
    match hop.connection env with
    | none => []
    | some ip => ip :: followRedirects env setting 1 redirects

/-! ## What the check lets through -/

section Check

variable {env : FetchEnv} {p : SSRFProtection} {u : URL} {t : Nat}

/-- The scheme and the port of the URL are allowed. -/
def SSRFProtection.AdmitsPort (p : SSRFProtection) (u : URL) : Prop :=
  (u.scheme = "http" ∨ u.scheme = "https") ∧
    ∃ port, atoi (SSRFProtection.hostAndPort u).2 = some port ∧ p.isAllowedPort port = true

/-- The host of the URL is an address that is allowed. -/
def SSRFProtection.AdmitsAddress (p : SSRFProtection) (u : URL) : Prop :=
  ∃ ip, parseIP u.hostname = some ip ∧ p.isIPAccessAllowed ip = true

/-- The host of the URL is a name that is allowed, and so are all its addresses at that time. -/
def SSRFProtection.AdmitsName (p : SSRFProtection) (env : FetchEnv) (u : URL) (t : Nat) : Prop :=
  parseIP u.hostname = none ∧ p.isDomainAllowed env (String.ofList u.hostname) = true ∧
    ∃ ips, lookupIP env u.hostname t = some ips ∧ ∀ ip ∈ ips, p.isIPAccessAllowed ip = true

lemma hostAndPort_fst (u : URL) : (SSRFProtection.hostAndPort u).1 = u.hostname := by
  unfold SSRFProtection.hostAndPort
  split
  · next pair hsplit => exact (URL.hostname_eq hsplit).symm
  · rfl

lemma checkResolved_eq_ok {host : String} {ips : List IP} :
    p.checkResolved host ips = .ok () ↔ ∀ ip ∈ ips, p.isIPAccessAllowed ip = true := by
  rw [SSRFProtection.checkResolved, forM_eq_ok]
  simp only [check_eq_ok]

lemma validateHost_eq_ok (hfilter : p.applyIPFilterForDomain = true) :
    p.validateHost env u.hostname t = .ok () ↔ p.AdmitsAddress u ∨ p.AdmitsName env u t := by
  unfold SSRFProtection.validateHost SSRFProtection.AdmitsAddress SSRFProtection.AdmitsName
  cases hip : parseIP u.hostname with
  | some ip => simp [check_eq_ok]
  | none =>
    simp only [hfilter, if_true, bind_eq_ok, check_eq_ok, exists_const]
    cases hlookup : lookupIP env u.hostname t with
    | none => simp
    | some ips => simp [checkResolved_eq_ok]

theorem validateURL_eq_ok (hfilter : p.applyIPFilterForDomain = true) {text : String} :
    p.validateURL env text t = .ok () ↔
      ∃ u, env.parseURL text = some u ∧ p.AdmitsPort u ∧
        (p.AdmitsAddress u ∨ p.AdmitsName env u t) := by
  unfold SSRFProtection.validateURL
  cases hparse : env.parseURL text with
  | none => simp
  | some u =>
    simp only [bind_eq_ok, check_eq_ok, exists_const, Option.some.injEq,
      exists_eq_left', SSRFProtection.AdmitsPort, hostAndPort_fst]
    cases hport : atoi (SSRFProtection.hostAndPort u).2 with
    | none => simp
    | some port =>
      simp [bind_eq_ok, validateHost_eq_ok hfilter, and_assoc]

lemma not_private_of_isIPAccessAllowed (hprivate : p.allowPrivateIp = false) {ip : IP}
    (h : p.isIPAccessAllowed ip = true) : isPrivateIP ip = false := by
  by_contra hnot
  simp [SSRFProtection.isIPAccessAllowed, hprivate, hnot] at h

/-- A host that is an address is connected to as it has been checked. -/
theorem literal_not_private (hprivate : p.allowPrivateIp = false) (h : p.AdmitsAddress u) {ip : IP}
    (hip : ip ∈ dialAddresses env u t) : isPrivateIP ip = false := by
  obtain ⟨address, haddress, hallowed⟩ := h
  have hascii : env.toASCII u.hostname = u.hostname :=
    env.toASCII_address _ (by rw [haddress]; rfl)
  have hne : u.hostname ≠ [] := by
    intro hempty
    rw [hempty] at haddress
    cases haddress
  obtain ⟨literal, hliteral, rfl⟩ := parseAddr_of_parseIP haddress
  simp only [dialAddresses, hascii, hne, if_false, lookupIP, hliteral, Option.getD_some,
    List.mem_singleton] at hip
  rw [hip]
  exact not_private_of_isIPAccessAllowed hprivate hallowed

end Check

/-! ## No private connection -/

/-- A name that has passed the check at one time has no private address at a later one. -/
def NeverRebinds (env : FetchEnv) (setting : FetchSetting) : Prop :=
  ∀ ports, parsePortRanges setting.allowedPorts = .ok ports →
    ∀ text u t t', env.parseURL text = some u → t ≤ t' →
      (setting.protection ports).AdmitsPort u → (setting.protection ports).AdmitsName env u t →
      ∀ ip ∈ dialAddresses env u t', isPrivateIP ip = false

section Downloads

variable {env : FetchEnv} {setting : FetchSetting}

section

variable (hon : setting.enableSSRFProtection = true)

include hon

lemma validateURLWithFetchSetting_eq_ok {text : String} {t : Nat} :
    validateURLWithFetchSetting env setting text t = .ok () ↔
      ∃ ports, parsePortRanges setting.allowedPorts = .ok ports ∧
        (setting.protection ports).validateURL env text t = .ok () := by
  simp [validateURLWithFetchSetting, hon, bind_eq_ok]

section

variable (hprivate : setting.allowPrivateIp = false)
  (hfilter : setting.applyIPFilterForDomain = true) (hstable : NeverRebinds env setting)

include hprivate hfilter hstable

/-- A request that has passed the check does not connect to a private address, if no name
rebinds. -/
lemma connection_not_private {hop : Hop} {ip : IP}
    (hcheck : validateURLWithFetchSetting env setting hop.url hop.checkedAt = .ok ())
    (hip : hop.connection env = some ip) : isPrivateIP ip = false := by
  obtain ⟨ports, hports, hvalid⟩ := (validateURLWithFetchSetting_eq_ok hon).mp hcheck
  obtain ⟨u, hparse, hport, hhost⟩ := (validateURL_eq_ok hfilter).mp hvalid
  rw [Hop.connection, hparse, Option.bind_some] at hip
  have hmem := List.mem_of_getElem? hip
  rcases hhost with haddress | hname
  · exact literal_not_private hprivate haddress hmem
  · exact hstable ports hports hop.url u _ _ hparse hop.checked_first hport hname ip hmem

lemma followRedirects_not_private (via : Nat) (hops : List Hop) :
    ∀ ip ∈ followRedirects env setting via hops, isPrivateIP ip = false := by
  induction hops generalizing via with
  | nil => simp [followRedirects]
  | cons hop hops ih =>
    intro ip hip
    rw [followRedirects] at hip
    split_ifs at hip with hredirect
    · cases hconnection : hop.connection env with
      | none => simp [hconnection] at hip
      | some first =>
        simp only [hconnection, List.mem_cons] at hip
        rcases hip with rfl | hip
        · have hcheck : validateURLWithFetchSetting env setting hop.url hop.checkedAt =
              .ok () := by
            unfold checkRedirect at hredirect
            split at hredirect
            · cases hredirect
            · assumption
          exact connection_not_private hon hprivate hfilter hstable hcheck hconnection
        · exact ih (via + 1) ip hip
    · simp at hip

end

end

/-- With the protection on, no download opens a connection to a private address, exactly if no name
that has passed the check has a private address when it is looked up again. -/
theorem download_never_private_iff (hon : setting.enableSSRFProtection = true)
    (hprivate : setting.allowPrivateIp = false)
    (hfilter : setting.applyIPFilterForDomain = true) :
    (∀ hop redirects, ∀ ip ∈ doDownloadRequest env setting hop redirects,
      isPrivateIP ip = false) ↔ NeverRebinds env setting := by
  constructor
  · intro hsafe ports hports text u t t' hparse hle hport hname ip hip
    -- a download without redirects whose dialer picks the address
    obtain ⟨pick, hpick⟩ := List.mem_iff_getElem?.mp hip
    have hvalid : validateURLWithFetchSetting env setting text t = .ok () :=
      (validateURLWithFetchSetting_eq_ok hon).mpr ⟨ports, hports,
        (validateURL_eq_ok hfilter).mpr ⟨u, hparse, hport, .inr hname⟩⟩
    apply hsafe ⟨text, t, t', hle, pick⟩ []
    simp [doDownloadRequest, hvalid, Hop.connection, hparse, hpick]
  · intro hstable hop redirects ip hip
    unfold doDownloadRequest at hip
    split at hip
    · simp at hip
    · next hcheck =>
      cases hconnection : hop.connection env with
      | none => simp [hconnection] at hip
      | some first =>
        simp only [hconnection, List.mem_cons] at hip
        rcases hip with rfl | hip
        · exact connection_not_private hon hprivate hfilter hstable hcheck hconnection
        · exact followRedirects_not_private hon hprivate hfilter hstable 1 redirects ip hip

/-- A resolver whose answers do not change, for names that are ASCII already, never rebinds. -/
lemma neverRebinds_of_stable (hprivate : setting.allowPrivateIp = false)
    (hascii : ∀ text u, env.parseURL text = some u →
      env.toASCII u.hostname = u.hostname ∧ u.hostname ≠ [])
    (hsame : ∀ host t t', env.resolve host t = env.resolve host t') :
    NeverRebinds env setting := by
  intro ports _ text u t t' hparse _ _ hname ip hip
  obtain ⟨-, -, ips, hlookup, hallowed⟩ := hname
  obtain ⟨hname, hne⟩ := hascii text u hparse
  have hlater : lookupIP env u.hostname t' = lookupIP env u.hostname t := by
    unfold lookupIP
    rw [hsame u.hostname t' t]
  rw [dialAddresses, hname, if_neg hne, hlater, hlookup, Option.getD_some] at hip
  exact not_private_of_isIPAccessAllowed hprivate (hallowed ip hip)

/-- A network with one site. -/
def sampleFetchEnv (resolve : List Char → Nat → Option (List IP)) : FetchEnv where
  parseURL := fun text =>
    if text = "http://img.test/a.png" then some ⟨"http", "img.test".toList, by
      intro name port h
      cases h⟩
    else none
  toLower := String.toLower
  toASCII := id
  toASCII_address := fun _ _ => rfl
  resolve := resolve

/-- The site keeps its address: no download reaches a private one. -/
theorem download_never_private_sample :
    defaultFetchSetting.enableSSRFProtection = true ∧
      defaultFetchSetting.allowPrivateIp = false ∧
      defaultFetchSetting.applyIPFilterForDomain = true ∧
      ∀ hop redirects, ∀ ip ∈ doDownloadRequest
        (sampleFetchEnv fun _ _ => some [.v4 (ipv4 93 184 216 34)]) defaultFetchSetting hop
        redirects, isPrivateIP ip = false := by
  refine ⟨rfl, rfl, rfl, ?_⟩
  refine (download_never_private_iff rfl rfl rfl).mpr (neverRebinds_of_stable rfl ?_ ?_)
  · intro text u hparse
    simp only [sampleFetchEnv] at hparse
    split_ifs at hparse
    obtain rfl := Option.some.inj hparse
    exact ⟨rfl, by decide⟩
  · intro _ _ _
    rfl

/-- The site has a public address when it is checked, and the address of the machine itself when
the client connects. -/
theorem download_rebinds :
    (doDownloadRequest (sampleFetchEnv fun _ t =>
        some [.v4 (if t = 0 then ipv4 93 184 216 34 else ipv4 127 0 0 1)])
      defaultFetchSetting ⟨"http://img.test/a.png", 0, 1, by decide, 0⟩ []).map
        (fun ip => (ip, isPrivateIP ip)) = [(.v4 (ipv4 127 0 0 1), true)] := by
  decide +kernel

end Downloads

end Yunbay
