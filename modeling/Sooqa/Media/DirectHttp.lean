import Sooqa.Foundation.Programs
import Sooqa.Foundation.Outcome
import Sooqa.Media.BlockedAddresses

/-!
Direct downloads. Each hop of a chain of redirects is checked and resolved for
itself, and the connection is pinned to what was resolved.
-/
namespace Sooqa.Media
open Foundation

section Urls

inductive Host where
  | domain (name : String)
  | ipv4 (address : Ipv4Addr)
  | ipv6 (address : Ipv6Addr)
  deriving DecidableEq, Repr

/-- The address that a host spells itself. -/
def Host.literal : Host → Option IpAddr
  | .domain _ => none
  | .ipv4 address => some (.v4 address)
  | .ipv6 address => some (.v6 address)

/-- A parsed URL. -/
structure Url where
  scheme : String
  username : String
  password : Option String
  host : Option Host
  port : Option UInt16
  path : String
  text : String
  deriving DecidableEq, Repr

def Url.portOrKnownDefault (url : Url) : Option UInt16 :=
  url.port.or (match url.scheme with
    | "http" | "ws" => some 80
    | "https" | "wss" => some 443
    | "ftp" => some 21
    | _ => none)

/-- Parsing and joining as the URL standard has it. -/
structure UrlParser where
  parse : String → Option Url
  join : Url → String → Option Url

end Urls

section Network

inductive DownloadError where
  | retryable (class_ message : String)
  | terminal (class_ message : String)
  | notImplemented
  deriving DecidableEq, Repr

structure DownloadLimits where
  maxBytes : UInt64
  maxRedirects : UInt32
  /-- In nanoseconds. -/
  timeout : Nat
  deriving DecidableEq, Repr

structure ResolvedAddress where
  ip : IpAddr
  connectIp : IpAddr
  deriving DecidableEq, Repr

def ResolvedAddress.same (ip : IpAddr) : ResolvedAddress := ⟨ip, ip⟩

structure SocketAddr where
  ip : IpAddr
  port : UInt16
  deriving DecidableEq, Repr

/-- The options that a client is built with. -/
structure ClientOptions where
  followsRedirects : Bool
  usesProxy : Bool
  resolve : Option (String × SocketAddr)
  timeout : Nat
  deriving DecidableEq, Repr

structure Request where
  url : Url
  range : Option String
  userAgent : Option String
  deriving DecidableEq, Repr

structure RequestError where
  isTimeout : Bool
  isConnect : Bool
  message : String
  deriving DecidableEq, Repr

/-- A response; its `location` is `some none` where the header is no text. -/
structure Response where
  status : Nat
  location : Option (Option String)
  deriving DecidableEq, Repr

/-- What has happened on the network. -/
inductive NetworkEvent where
  | resolved (host : String) (port : UInt16) (addresses : List ResolvedAddress)
  | sent (url : Url) (address : SocketAddr)
  deriving DecidableEq, Repr

abbrev NetworkHistory := List NetworkEvent

/-- The network and the HTTP client. What they do may depend on all that has
    happened before. -/
structure Network where
  resolve : NetworkHistory → String → UInt16 → Except DownloadError (List ResolvedAddress)
  build : ClientOptions → Except String Unit
  /-- The requests that sending one comes to, with where they connect to. -/
  requests : NetworkHistory → ClientOptions → Url → List (Url × SocketAddr)
  response : NetworkHistory → ClientOptions → Request → Except RequestError Response
  ipText : IpAddr → String

abbrev NetworkProgram (α : Type) := Program NetworkHistory DownloadError α

end Network

section Hops
variable (network : Network)

structure ResolvedTarget where
  url : Url
  host : String
  isDomain : Bool
  port : UInt16
  connectIp : IpAddr
  deriving DecidableEq, Repr

def validateUrl (url : Url) : Except DownloadError Unit := do
  require (url.scheme = "http" ∨ url.scheme = "https")
    (.terminal "unsupported_scheme" "source URL must use http or https")
  require (url.username = "" ∧ url.password = none)
    (.terminal "source_credentials_forbidden" "source URL must not contain embedded credentials")
  require (url.host ≠ none) (.terminal "missing_source_host" "source URL has no host")

/-- One answer of the resolver. -/
def resolveHost (host : String) (port : UInt16) : NetworkProgram (List ResolvedAddress) :=
  .of fun history => match network.resolve history host port with
    | .ok addresses => (.ok addresses, history ++ [.resolved host port addresses])
    | .error error => (.error (.failed error), history)

def hostAddresses (host : Option Host) (port : UInt16) :
    NetworkProgram (String × Bool × List ResolvedAddress) :=
  match host with
  | some (.domain domain) => do
    let addresses ← resolveHost network domain port
    return (domain, true, addresses)
  | some (.ipv4 address) =>
    return (network.ipText (.v4 address), false, [.same (.v4 address)])
  | some (.ipv6 address) =>
    return (network.ipText (.v6 address), false, [.same (.v6 address)])
  | none => .lift (.error (.terminal "missing_source_host" "source URL has no host"))

/-- The first address is connected to, provided that none is blocked. -/
def pinnedAddress : List ResolvedAddress → Except DownloadError IpAddr
  | [] => .error (.retryable "dns_resolution" "host resolved to no addresses")
  | first :: rest => match (first :: rest).find? (fun address => isBlockedIp address.ip) with
    | some blocked => .error (.terminal "ssrf_blocked"
        ("source resolved to a forbidden address: " ++ network.ipText blocked.ip))
    | none => .ok first.connectIp

def resolveTarget (url : Url) : NetworkProgram ResolvedTarget := do
  .lift (validateUrl url)
  let port ← .lift (expect url.portOrKnownDefault
    (.terminal "missing_source_port" "source URL has no usable port"))
  let (host, isDomain, addresses) ← hostAddresses network url.host port
  let connectIp ← .lift (pinnedAddress network addresses)
  return { url, host, isDomain, port, connectIp }

def clientFor (target : ResolvedTarget) (timeout : Nat) : Except DownloadError ClientOptions :=
  let options : ClientOptions :=
    { followsRedirects := false
      usesProxy := false
      resolve := if target.isDomain then some (target.host, ⟨target.connectIp, target.port⟩)
        else none
      timeout }
  match network.build options with
  | .ok () => .ok options
  | .error error => .error (.terminal "http_client" ("could not build HTTP client: " ++ error))

def send (client : ClientOptions) (request : Request) :
    NetworkProgram (Except RequestError Response) := .of fun history =>
  (.ok (network.response history client request),
    history ++ (network.requests history client request.url).map fun made => .sent made.1 made.2)

end Hops

section Fetch
variable (urls : UrlParser) (network : Network)

structure FetchResult where
  response : Response
  resolvedUrl : Url
  deriving DecidableEq, Repr

def validateLimits (limits : DownloadLimits) : Except DownloadError Unit :=
  require (limits.maxBytes ≠ 0 ∧ limits.timeout ≠ 0) (.terminal "invalid_download_limits"
    "download byte limit and timeout must be greater than zero")

def mapRequestError (error : RequestError) : DownloadError :=
  if error.isTimeout || error.isConnect then .retryable "http_request" error.message
  else .terminal "http_request" error.message

def Response.isRedirection (response : Response) : Bool :=
  300 ≤ response.status && response.status < 400

def classifyResponse (response : Response) (resolvedUrl : Url) :
    Except DownloadError FetchResult :=
  if 200 ≤ response.status ∧ response.status < 300 then .ok ⟨response, resolvedUrl⟩
  else
    let message := "source returned HTTP status " ++ toString response.status
    if response.status = 408 ∨ response.status = 429 ∨
        (500 ≤ response.status ∧ response.status < 600) then
      .error (.retryable "upstream_http_status" message)
    else .error (.terminal "upstream_http_status" message)

def redirectUrl (currentUrl : Url) (response : Response) : Except DownloadError Url := do
  let location ← expect response.location
    (.terminal "invalid_redirect" "redirect response did not include a Location header")
  let location ← expect location
    (.terminal "invalid_redirect" "redirect Location header was not valid UTF-8")
  expect (urls.join currentUrl location)
    (.terminal "invalid_redirect" "redirect Location header was not a valid URL")

def redirectLimit : DownloadError :=
  .terminal "redirect_limit" "source exceeded the configured redirect limit"

/-- The loop over the redirects, with how many of its rounds are left. -/
def fetchFrom (limits : DownloadLimits) (inspectPrefix : Bool) :
    Nat → Nat → Url → NetworkProgram FetchResult
  | 0, _, _ => .lift (.error redirectLimit)
  | left + 1, redirectNumber, currentUrl => do
    let target ← resolveTarget network currentUrl
    let client ← .lift (clientFor network target limits.timeout)
    let outcome ← send network client
      ⟨target.url, if inspectPrefix then some "bytes=0-511" else none, none⟩
    let response ← .lift (outcome.mapError mapRequestError)
    if response.isRedirection then
      if redirectNumber ≥ limits.maxRedirects.toNat then .lift (.error redirectLimit)
      else do
        let nextUrl ← .lift (redirectUrl urls currentUrl response)
        fetchFrom limits inspectPrefix left (redirectNumber + 1) nextUrl
    else .lift (classifyResponse response currentUrl)

def fetch (startUrl : Url) (limits : DownloadLimits) (inspectPrefix : Bool) :
    NetworkProgram FetchResult := do
  .lift (validateLimits limits)
  fetchFrom urls network limits inspectPrefix (limits.maxRedirects.toNat + 1) 0 startUrl

end Fetch

section Safety
variable {network : Network} {history : NetworkHistory} {url : Url}
variable {addresses : List ResolvedAddress}
  {address : SocketAddr} {budget : Nat}

/-- What the host of a URL was last resolved to; a literal stands for itself. -/
inductive ResolvedTo (url : Url) : NetworkHistory → List ResolvedAddress → Prop where
  | domain {earlier : NetworkHistory} {name : String} {port : UInt16}
      {addresses : List ResolvedAddress} (located : url.host = some (.domain name))
      (known : url.portOrKnownDefault = some port) :
      ResolvedTo url (earlier ++ [.resolved name port addresses]) addresses
  | literal {history : NetworkHistory} {host : Host} {ip : IpAddr}
      (located : url.host = some host)
      (spelled : host.literal = some ip) : ResolvedTo url history [.same ip]

/-- A request after this history that cannot reach an internal network. -/
structure SafeRequest (history : NetworkHistory) (url : Url) (address : SocketAddr) : Prop where
  web : url.scheme = "http" ∨ url.scheme = "https"
  anonymous : url.username = "" ∧ url.password = none
  pinned : ∃ addresses, ResolvedTo url history addresses ∧
    (∀ resolved ∈ addresses, isBlockedIp resolved.ip = false) ∧
    ∃ resolved ∈ addresses, address.ip = resolved.ip

/-- Every request is safe at its time. -/
def SafeHistory (history : NetworkHistory) : Prop :=
  ∀ earlier url address later, history = earlier ++ .sent url address :: later →
    SafeRequest earlier url address

def NetworkEvent.isSent : NetworkEvent → Bool
  | .sent _ _ => true
  | .resolved _ _ _ => false

def sentRequests (history : NetworkHistory) : Nat := history.countP NetworkEvent.isSent

/-- Safe so far, with no more requests than allowed. -/
structure Bounded (budget : Nat) (history : NetworkHistory) : Prop where
  safe : SafeHistory history
  few : sentRequests history ≤ budget

theorem safeHistory_snoc {event : NetworkEvent} (safe : SafeHistory history)
    (last : ∀ url address, event = .sent url address → SafeRequest history url address) :
    SafeHistory (history ++ [event]) := by
  intro earlier url address later split
  rcases List.eq_nil_or_concat later with rfl | ⟨middle, final, rfl⟩
  · obtain ⟨same, single⟩ := List.append_inj' split rfl
    cases single
    rw [← same]
    exact last url address rfl
  · rw [List.concat_eq_append, ← List.cons_append, ← List.append_assoc] at split
    exact safe earlier url address middle (List.append_inj' split rfl).1

theorem Bounded.resolved {host : String} {port : UInt16} (bounded : Bounded budget history) :
    Bounded budget (history ++ [.resolved host port addresses]) := by
  constructor
  · exact safeHistory_snoc bounded.safe nofun
  · simpa [sentRequests, NetworkEvent.isSent] using bounded.few

theorem Bounded.sent (bounded : Bounded budget history) (safe : SafeRequest history url address) :
    Bounded (budget + 1) (history ++ [.sent url address]) := by
  constructor
  · apply safeHistory_snoc bounded.safe
    rintro other place same
    cases same
    exact safe
  · simpa [sentRequests, NetworkEvent.isSent] using bounded.few

theorem Bounded.raise {larger : Nat} (bounded : Bounded budget history) (le : budget ≤ larger) :
    Bounded larger history :=
  ⟨bounded.safe, Nat.le_trans bounded.few le⟩

/-- The client keeps to its options: it makes the one request, to the address
    that its host is pinned to or that its URL spells. -/
structure Network.Honours (network : Network) : Prop where
  pinned : ∀ history client url name address, client.followsRedirects = false →
    client.usesProxy = false → client.resolve = some (name, address) →
    url.host = some (.domain name) →
    network.requests history client url = [] ∨
      network.requests history client url = [(url, address)]
  literal : ∀ history client url host ip, client.followsRedirects = false →
    client.usesProxy = false → url.host = some host → host.literal = some ip →
    network.requests history client url = [] ∨
      ∃ port, network.requests history client url = [(url, ⟨ip, port⟩)]

/-- The resolver connects to what it answers. -/
def Network.Direct (network : Network) : Prop :=
  ∀ history host port addresses, network.resolve history host port = .ok addresses →
    ∀ resolved ∈ addresses, resolved.connectIp = resolved.ip

/-- A target that this history allows to be connected to. -/
structure Target (url : Url) (target : ResolvedTarget) (history : NetworkHistory) : Prop where
  same : target.url = url
  safe : ∀ port, SafeRequest history url ⟨target.connectIp, port⟩
  host : (target.isDomain = true ∧ url.host = some (.domain target.host)) ∨
    ∃ host, url.host = some host ∧ host.literal = some target.connectIp

theorem pinnedAddress_ok {ip : IpAddr} (pinned : pinnedAddress network addresses = .ok ip) :
    (∀ resolved ∈ addresses, isBlockedIp resolved.ip = false) ∧
      ∃ resolved ∈ addresses, ip = resolved.connectIp := by
  cases addresses with
  | nil => cases pinned
  | cons first rest =>
    rw [pinnedAddress] at pinned
    split at pinned
    · cases pinned
    · rename_i clear
      cases pinned
      refine ⟨?_, first, List.mem_cons_self, rfl⟩
      intro resolved member
      simpa using List.find?_eq_none.mp clear resolved member

/-- What is known of the addresses of a host. -/
structure Looked (url : Url) (found : String × Bool × List ResolvedAddress)
    (history : NetworkHistory) : Prop where
  resolved : ResolvedTo url history found.2.2
  direct : ∀ resolved ∈ found.2.2, resolved.connectIp = resolved.ip
  host : (found.2.1 = true ∧ url.host = some (.domain found.1)) ∨
    ∃ host ip, url.host = some host ∧ host.literal = some ip ∧ found.2.2 = [.same ip]

theorem hostAddresses_ensures (direct : network.Direct) {port : UInt16}
    (known : url.portOrKnownDefault = some port) :
    Ensures (Bounded budget) (Bounded budget) (hostAddresses network url.host port)
      fun found history => Bounded budget history ∧ Looked url found history := by
  intro history bounded
  cases host : url.host with
  | none => exact ⟨bounded, nofun⟩
  | some spelled =>
    cases spelled with
    | domain name =>
      rw [hostAddresses, exec_bind, resolveHost, exec_of]
      cases answer : network.resolve history name port with
      | error error => exact ⟨bounded, nofun⟩
      | ok addresses =>
        refine ⟨bounded.resolved, ?_⟩
        rintro found ended
        cases ended
        exact ⟨bounded.resolved, .domain host known, direct _ _ _ _ answer, .inl ⟨rfl, host⟩⟩
    | ipv4 ip =>
      refine ⟨bounded, ?_⟩
      rintro found ended
      cases ended
      exact ⟨bounded, .literal host rfl, by simp [ResolvedAddress.same],
        .inr ⟨_, _, host, rfl, rfl⟩⟩
    | ipv6 ip =>
      refine ⟨bounded, ?_⟩
      rintro found ended
      cases ended
      exact ⟨bounded, .literal host rfl, by simp [ResolvedAddress.same],
        .inr ⟨_, _, host, rfl, rfl⟩⟩

theorem validateUrl_ok (valid : validateUrl url = .ok ()) :
    (url.scheme = "http" ∨ url.scheme = "https") ∧ url.username = "" ∧ url.password = none := by
  rw [validateUrl] at valid
  obtain ⟨_, web, valid⟩ := bind_ok.mp valid
  obtain ⟨_, anonymous, _⟩ := bind_ok.mp valid
  exact ⟨require_ok.mp web, require_ok.mp anonymous⟩

/-- A target is what one resolution of the URL's own host allows. -/
theorem resolveTarget_ensures (direct : network.Direct) :
    Ensures (Bounded budget) (Bounded budget) (resolveTarget network url)
      fun target history => Bounded budget history ∧ Target url target history := by
  apply Ensures.lifted fun history bounded => bounded
  intro _ validated
  obtain ⟨web, anonymous⟩ := validateUrl_ok validated
  apply Ensures.lifted fun history bounded => bounded
  intro port known
  apply (hostAddresses_ensures direct (expect_ok.mp known)).bind
  rintro ⟨host, isDomain, addresses⟩
  apply Ensures.lifted fun history looked => looked.1
  intro connectIp pinned
  obtain ⟨clear, chosen, member, rfl⟩ := pinnedAddress_ok pinned
  apply Ensures.returned fun history looked => looked.1
  rintro history ⟨bounded, looked⟩
  refine ⟨bounded, rfl, ?_, ?_⟩
  · exact fun port => ⟨web, anonymous, addresses, looked.resolved, clear, chosen, member,
      looked.direct chosen member⟩
  · rcases looked.host with domain | ⟨host, ip, located, spelled, only⟩
    · exact .inl domain
    · cases only
      cases List.mem_singleton.mp member
      exact .inr ⟨host, located, spelled⟩

theorem clientFor_ok {target : ResolvedTarget} {timeout : Nat} {client : ClientOptions}
    (built : clientFor network target timeout = .ok client) :
    client.followsRedirects = false ∧ client.usesProxy = false ∧
      (target.isDomain = true →
        client.resolve = some (target.host, ⟨target.connectIp, target.port⟩)) := by
  rw [clientFor] at built
  split at built
  · cases built
    refine ⟨rfl, rfl, ?_⟩
    intro domain
    rw [if_pos domain]
  · cases built

/-- A request with a pinned client is safe, and it is one at most. -/
theorem send_ensures (honours : network.Honours) {target : ResolvedTarget} {timeout : Nat}
    {client : ClientOptions} {request : Request}
    (built : clientFor network target timeout = .ok client) (same : request.url = target.url) :
    Ensures (Bounded (budget + 1))
      (fun history => Bounded budget history ∧ Target url target history)
      (send network client request) fun _ => Bounded (budget + 1) := by
  rintro history ⟨bounded, allowed⟩
  have located : request.url = url := same.trans allowed.same
  subst located
  obtain ⟨follows, proxy, pins⟩ := clientFor_ok built
  have made : network.requests history client request.url = [] ∨
      ∃ port, network.requests history client request.url =
        [(request.url, ⟨target.connectIp, port⟩)] := by
    rcases allowed.host with ⟨domain, host⟩ | ⟨host, spelled, literal⟩
    · rcases honours.pinned history client request.url _ _ follows proxy (pins domain) host with
        none_made | one
      · exact .inl none_made
      · exact .inr ⟨target.port, one⟩
    · exact honours.literal history client request.url host _ follows proxy spelled literal
  have after : Bounded (budget + 1) ((send network client request).exec history).2 := by
    rw [send, exec_of]
    rcases made with none_made | ⟨port, one⟩
    · rw [none_made, List.map_nil, List.append_nil]
      exact bounded.raise (Nat.le_succ budget)
    · rw [one, List.map_singleton]
      exact bounded.sent (allowed.safe port)
  exact ⟨after, fun _ _ => after⟩

/-- Each round of the loop makes one safe request at most. -/
theorem fetchFrom_ensures (urls : UrlParser) (direct : network.Direct)
    (honours : network.Honours) {limits : DownloadLimits} {inspectPrefix : Bool}
    {left redirectNumber : Nat} :
    Ensures (Bounded (budget + left)) (Bounded budget)
      (fetchFrom urls network limits inspectPrefix left redirectNumber url)
      fun _ => Bounded (budget + left) := by
  induction left generalizing budget redirectNumber url with
  | zero => exact Ensures.fail fun _ bounded => bounded
  | succ left ih =>
    have first : ∀ history, Bounded budget history → Bounded (budget + (left + 1)) history :=
      fun history bounded => bounded.raise (by omega)
    have second : ∀ history, Bounded (budget + 1) history →
        Bounded (budget + (left + 1)) history :=
      fun history bounded => bounded.raise (by omega)
    apply ((resolveTarget_ensures direct).weaken (fun _ holds => holds) first
      fun _ _ holds => holds).bind
    intro target
    apply Ensures.lifted fun history holds => first history holds.1
    intro client built
    apply ((send_ensures honours built rfl).weaken (fun _ holds => holds) second
      fun _ _ holds => holds).bind
    intro outcome
    apply Ensures.lifted second
    intro response answered
    split
    · split
      · exact Ensures.fail second
      · apply Ensures.lifted second
        intro nextUrl joined
        rw [Nat.add_comm left 1, ← Nat.add_assoc]
        exact ih
    · exact Ensures.last second fun _ history _ bounded => second history bounded

theorem bounded_nil : Bounded 0 [] :=
  ⟨fun earlier _ _ later split => by simp at split, Nat.le_refl 0⟩

/-- Every request of a fetch is safe, and there are no more than the limit and
    one. -/
theorem fetch_ensures (urls : UrlParser) (direct : network.Direct) (honours : network.Honours)
    {limits : DownloadLimits} {inspectPrefix : Bool} :
    Ensures (Bounded (limits.maxRedirects.toNat + 1)) (fun history => history = [])
      (fetch urls network url limits inspectPrefix)
      fun _ => Bounded (limits.maxRedirects.toNat + 1) := by
  have start : ∀ history : NetworkHistory, history = [] → Bounded 0 history := by
    rintro history rfl
    exact bounded_nil
  apply Ensures.lifted fun history empty => (start history empty).raise (Nat.zero_le _)
  intro _ validated
  have loop := @fetchFrom_ensures network url 0 urls direct honours limits inspectPrefix
    (limits.maxRedirects.toNat + 1) 0
  rw [Nat.zero_add] at loop
  exact loop.weaken start (fun _ bounded => bounded) fun _ _ bounded => bounded

end Safety

end Sooqa.Media
