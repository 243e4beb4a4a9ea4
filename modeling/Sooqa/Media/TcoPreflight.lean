import Sooqa.Foundation.Tokens
import Sooqa.Media.DirectHttp

/-!
The preflight of a shortened link. It follows the redirects itself, and ends at
a page that the video provider serves.
-/
namespace Sooqa.Media
open Foundation

section Providers

inductive YtDlpProviderFamily where
  | youtube | tiktok | instagram | x
  deriving DecidableEq, Repr

def tiktokSubmittedHosts : List String :=
  ["tiktok.com", "www.tiktok.com", "vm.tiktok.com", "vt.tiktok.com", "m.tiktok.com"]
def instagramSubmittedHosts : List String := ["instagram.com", "www.instagram.com"]
def xSubmittedHosts : List String := ["x.com", "www.x.com", "twitter.com", "www.twitter.com"]
def tiktokCanonicalHosts : List String :=
  ["tiktok.com", "www.tiktok.com", "vm.tiktok.com", "vt.tiktok.com", "m.tiktok.com"]
def instagramCanonicalHosts : List String := ["instagram.com", "www.instagram.com"]
def xCanonicalHosts : List String := ["x.com", "www.x.com", "twitter.com", "www.twitter.com"]

def isDomainOrSubdomain (host domain : String) : Bool :=
  host == domain || ('.' :: domain.toList).isSuffixOf host.toList

def trimEndDots (host : String) : String :=
  .ofList (host.toList.reverse.dropWhile (· == '.')).reverse

def providerFamilyForHost (host : String) (canonical : Bool) : Option YtDlpProviderFamily :=
  let host := lowercaseAscii (trimEndDots host)
  if isDomainOrSubdomain host "youtube.com" || isDomainOrSubdomain host "youtu.be" then
    some .youtube
  else if (if canonical then tiktokCanonicalHosts else tiktokSubmittedHosts).contains host then
    some .tiktok
  else if (if canonical then instagramCanonicalHosts else instagramSubmittedHosts).contains host then
    some .instagram
  else if (if canonical then xCanonicalHosts else xSubmittedHosts).contains host then some .x
  else none

/-- The parts of a path that are not empty. -/
def pathSegments (path : String) : List (List Char) :=
  (path.toList.splitOn '/').filter (· ≠ [])

def supportsPath (family : YtDlpProviderFamily) (segments : List (List Char)) : Bool :=
  match family, segments with
  | .youtube, _ => true
  | .tiktok, [user, word, _] =>
    user.head? == some '@' && equalsIgnoringCase (.ofList word) "video"
  | .instagram, [word, _] => lowercaseAscii (.ofList word) ∈ ["reel", "p"]
  | .x, [_, word, _] => equalsIgnoringCase (.ofList word) "status"
  | _, _ => false

end Providers

section Preflight
variable (urls : UrlParser) (network : Network)

def Url.hostStr (url : Url) : Option String :=
  url.host.map fun
    | .domain name => name
    | .ipv4 address => network.ipText (.v4 address)
    | .ipv6 address => "[" ++ network.ipText (.v6 address) ++ "]"

def validatePublicVideoPath (family : YtDlpProviderFamily) (canonicalUrl : String) :
    Except DownloadError Unit := do
  let url ← expect (urls.parse canonicalUrl)
    (.terminal "invalid_source_url" "yt-dlp canonical URL could not be parsed")
  require (supportsPath family (pathSegments url.path))
    (.terminal "ytdlp_unsupported_surface"
      "only a single public video post/reel URL is supported for this provider")

def Host.isDomain : Host → Bool
  | .domain _ => true
  | .ipv4 _ | .ipv6 _ => false

def validateSourceUrl (value : String) : Except DownloadError String := do
  let url ← expect (urls.parse value)
    (.terminal "invalid_source_url" "source URL could not be parsed")
  require (url.scheme = "http" ∨ url.scheme = "https")
    (.terminal "unsupported_scheme" "yt-dlp source URL must use http or https")
  require (url.username = "" ∧ url.password = none)
    (.terminal "source_credentials_forbidden" "source URL must not contain embedded credentials")
  let defaultPort : UInt16 := if url.scheme = "http" then 80 else 443
  require (url.port.all (· == defaultPort))
    (.terminal "source_port_not_allowed" "yt-dlp page URLs must use the default HTTP or HTTPS port")
  let host ← expect url.host (.terminal "missing_source_host" "source URL has no host")
  require host.isDomain
    (.terminal "source_host_not_allowed" "yt-dlp page URL host must be a configured DNS hostname")
  return url.text

def notAllowed (message : String) : DownloadError :=
  .terminal "source_redirect_not_allowed" message

def isTcoUrl (value : String) : NetworkProgram Bool := do
  let normalized ← .lift (validateSourceUrl urls value)
  let url ← .expected (urls.parse normalized)
  return (url.hostStr network).any (equalsIgnoringCase · "t.co")

def maxTcoLocationBytes : Nat := 2 * 1024

/-- The control characters of Unicode. -/
def isControl (c : Char) : Bool := c.toNat < 0x20 || (0x7f ≤ c.toNat && c.toNat < 0xa0)

def isXHost (url : Url) : Bool :=
  (url.hostStr network).any fun host => providerFamilyForHost host false == some .x

def validateTcoRedirectTarget (currentUrl : Url) (location : String) : NetworkProgram Url := do
  .lift (require (¬ (location.utf8ByteSize > maxTcoLocationBytes ∨ location.toList.any isControl))
    (notAllowed "the t.co redirect Location header exceeded its safety limit"))
  let target ← .lift (expect (urls.join currentUrl location)
    (notAllowed "the t.co redirect Location header was not a valid URL"))
  let normalized ← .lift ((validateSourceUrl urls target.text).mapError fun _ =>
    notAllowed "the t.co redirect target failed URL validation")
  let target ← .expected (urls.parse normalized)
  .lift (require (isXHost network target)
    (notAllowed "the t.co redirect target is not an X/Twitter host"))
  return target

def mapTcoError (error : RequestError) : DownloadError :=
  if error.isTimeout || error.isConnect then
    .retryable "tco_resolution" "the t.co redirect preflight could not reach its target"
  else .terminal "tco_resolution" "the t.co redirect preflight request failed"

def tcoRedirectLimit : DownloadError :=
  .terminal "redirect_limit" "the t.co redirect chain exceeded the configured limit"

def tcoLocation (response : Response) : Except DownloadError String := do
  let location ← expect response.location
    (notAllowed "the t.co redirect response did not include a Location header")
  expect location (notAllowed "the t.co redirect Location header was not valid UTF-8")

def tcoPreflightUserAgent : String := "sooqa-tco-preflight/1"

/-- The end of a chain: a page of the provider that shows one video. -/
def tcoPage (currentUrl : Url) : NetworkProgram String := do
  let host ← .expected (currentUrl.hostStr network)
  if providerFamilyForHost host false = some .x then do
    .lift (validatePublicVideoPath urls .x currentUrl.text)
    return currentUrl.text
  else .lift (.error (notAllowed "the t.co URL did not resolve to an X/Twitter page"))

def resolveTcoFrom (timeout : Nat) (maxRedirects : UInt32) :
    Nat → Nat → Url → NetworkProgram String
  | 0, _, _ => .lift (.error tcoRedirectLimit)
  | left + 1, redirectNumber, currentUrl => do
    let target ← resolveTarget network currentUrl
    let client ← .lift (clientFor network target timeout)
    let outcome ← send network client
      ⟨target.url, some "bytes=0-0", some tcoPreflightUserAgent⟩
    let response ← .lift (outcome.mapError mapTcoError)
    if response.isRedirection then
      if redirectNumber ≥ maxRedirects.toNat then .lift (.error tcoRedirectLimit)
      else do
        let location ← .lift (tcoLocation response)
        let nextUrl ← validateTcoRedirectTarget urls network currentUrl location
        resolveTcoFrom timeout maxRedirects left (redirectNumber + 1) nextUrl
    else tcoPage urls network currentUrl

def resolveTcoTarget (sourceUrl : String) (timeout : Nat) (maxRedirects : UInt32) :
    NetworkProgram String := do
  let sourceUrl ← .lift (validateSourceUrl urls sourceUrl)
  let currentUrl ← .expected (urls.parse sourceUrl)
  let isTco ← isTcoUrl urls network sourceUrl
  .lift (require isTco (notAllowed "the t.co preflight requires a t.co source URL"))
  resolveTcoFrom urls network timeout maxRedirects (maxRedirects.toNat + 1) 0 currentUrl

end Preflight

section Safety
variable {urls : UrlParser} {network : Network} {url : Url} {budget : Nat}

/-- The text of a page that shows one video of the provider. -/
structure PublicVideo (urls : UrlParser) (network : Network) (text : String) : Prop where
  page : ∃ (url : Url) (host : String), url.text = text ∧ url.hostStr network = some host ∧
    providerFamilyForHost host false = some .x
  path : validatePublicVideoPath urls .x text = .ok ()

theorem isTcoUrl_ensures {value : String} :
    Ensures (Bounded budget) (Bounded budget) (isTcoUrl urls network value)
      fun _ => Bounded budget := by
  apply Ensures.lifted fun _ bounded => bounded
  intro normalized valid
  apply Ensures.found fun _ bounded => bounded
  intro url parsed
  exact Ensures.returned (fun _ bounded => bounded) fun _ bounded => bounded

theorem validateTcoRedirectTarget_ensures {location : String} :
    Ensures (Bounded budget) (Bounded budget)
      (validateTcoRedirectTarget urls network url location) fun _ => Bounded budget := by
  apply Ensures.lifted fun _ bounded => bounded
  intro _ short
  apply Ensures.lifted fun _ bounded => bounded
  intro joined joins
  apply Ensures.lifted fun _ bounded => bounded
  intro normalized valid
  apply Ensures.found fun _ bounded => bounded
  intro target parsed
  apply Ensures.lifted fun _ bounded => bounded
  intro _ hosted
  exact Ensures.returned (fun _ bounded => bounded) fun _ bounded => bounded

theorem tcoPage_ensures :
    Ensures (Bounded budget) (Bounded budget) (tcoPage urls network url)
      fun text history => Bounded budget history ∧ PublicVideo urls network text := by
  apply Ensures.found fun _ bounded => bounded
  intro host located
  split
  · rename_i family
    apply Ensures.lifted fun _ bounded => bounded
    intro _ path
    apply Ensures.returned fun _ bounded => bounded
    exact fun history bounded => ⟨bounded, ⟨url, host, rfl, located, family⟩, path⟩
  · exact Ensures.fail fun _ bounded => bounded

/-- Each round of the preflight makes one safe request at most. -/
theorem resolveTcoFrom_ensures (direct : network.Direct) (honours : network.Honours)
    {timeout : Nat} {maxRedirects : UInt32} {left redirectNumber : Nat} :
    Ensures (Bounded (budget + left)) (Bounded budget)
      (resolveTcoFrom urls network timeout maxRedirects left redirectNumber url)
      fun text history => Bounded (budget + left) history ∧ PublicVideo urls network text := by
  induction left generalizing budget redirectNumber url with
  | zero => exact Ensures.fail fun _ bounded => bounded
  | succ left ih =>
    have first : ∀ history, Bounded budget history → Bounded (budget + (left + 1)) history :=
      fun history bounded => bounded.raise (by omega)
    have second : ∀ history, Bounded (budget + 1) history →
        Bounded (budget + (left + 1)) history :=
      fun history bounded => bounded.raise (by omega)
    apply ((resolveTarget_ensures direct).weaken (fun _ holds => holds) first
      fun _ _ holds => holds).bind
    intro target
    apply Ensures.lifted fun history holds => first history holds.1
    intro client built
    apply ((send_ensures honours built rfl).weaken (fun _ holds => holds) second
      fun _ _ holds => holds).bind
    intro outcome
    apply Ensures.lifted second
    intro response answered
    split
    · split
      · exact Ensures.fail second
      · apply Ensures.lifted second
        intro location header
        apply (validateTcoRedirectTarget_ensures.weaken (fun _ holds => holds) second
          fun _ _ holds => holds).bind
        intro nextUrl
        rw [Nat.add_comm left 1, ← Nat.add_assoc]
        exact ih
    · exact tcoPage_ensures.weaken (fun _ holds => holds) second
        fun _ history holds => ⟨second history holds.1, holds.2⟩

theorem resolveTcoTarget_ensures (direct : network.Direct) (honours : network.Honours)
    {sourceUrl : String} {timeout : Nat} {maxRedirects : UInt32} :
    Ensures (Bounded (maxRedirects.toNat + 1)) (fun history => history = [])
      (resolveTcoTarget urls network sourceUrl timeout maxRedirects)
      fun text history => Bounded (maxRedirects.toNat + 1) history ∧
        PublicVideo urls network text := by
  have start : ∀ history : NetworkHistory, history = [] → Bounded 0 history := by
    rintro history rfl
    exact bounded_nil
  have early : ∀ history, Bounded 0 history → Bounded (maxRedirects.toNat + 1) history :=
    fun history bounded => bounded.raise (Nat.zero_le _)
  apply Ensures.lifted fun history empty => early history (start history empty)
  intro normalized valid
  apply Ensures.found fun history empty => early history (start history empty)
  intro currentUrl parsed
  apply (isTcoUrl_ensures.weaken start early fun _ _ bounded => bounded).bind
  intro isTco
  apply Ensures.lifted early
  intro _ shortened
  have loop := @resolveTcoFrom_ensures urls network currentUrl 0 direct honours timeout
    maxRedirects (maxRedirects.toNat + 1) 0
  rw [Nat.zero_add] at loop
  exact loop

end Safety

section Claim

/-- A page of a host that needs no port or credentials. -/
def webPage (host path : String) : Url where
  scheme := "https"
  username := ""
  password := none
  host := some (.domain host)
  port := none
  path := path
  text := "https://" ++ host ++ path

def twoPages : UrlParser where
  parse text := [webPage "t.co" "/a", webPage "x.com" "/u/status/1"].find? (·.text == text)
  join _ location := [webPage "t.co" "/a", webPage "x.com" "/u/status/1"].find? (·.text == location)

/-- A network where every name is public and the short link leads to the page. -/
def publicNetwork : Network where
  resolve _ _ _ := .ok [.same (.v4 (.new 93 184 216 34))]
  build _ := .ok ()
  requests _ client url := match url.host, client.resolve with
    | some (.domain name), some (pinned, address) => if name = pinned then [(url, address)] else []
    | some host, none => host.literal.toList.map fun ip => (url, ⟨ip, url.port.getD 443⟩)
    | _, _ => []
  response _ _ request := .ok (if request.url.text = "https://t.co/a" then
    ⟨301, some (some "https://x.com/u/status/1")⟩ else ⟨200, none⟩)
  ipText _ := "address"

theorem publicNetwork_honours : publicNetwork.Honours := by
  constructor
  · intro history client url name address follows proxy pinned located
    right
    simp [publicNetwork, pinned, located]
  · intro history client url host ip follows proxy located spelled
    cases resolve : client.resolve with
    | none =>
      right
      refine ⟨url.port.getD 443, ?_⟩
      cases host with
      | domain name => cases spelled
      | ipv4 address => simp [publicNetwork, resolve, located, spelled]
      | ipv6 address => simp [publicNetwork, resolve, located, spelled]
    | some pinned =>
      left
      cases host with
      | domain name => cases spelled
      | ipv4 address => simp [publicNetwork, resolve, located]
      | ipv6 address => simp [publicNetwork, resolve, located]

theorem publicNetwork_direct : publicNetwork.Direct := by
  intro history host port addresses answer resolved member
  cases answer
  cases List.mem_singleton.mp member
  rfl

/-- What the preflight of the short link does on the network. -/
def shortLinkHistory : NetworkHistory :=
  let address := Ipv4Addr.new 93 184 216 34
  [.resolved "t.co" 443 [.same (.v4 address)], .sent (webPage "t.co" "/a") ⟨.v4 address, 443⟩,
    .resolved "x.com" 443 [.same (.v4 address)],
    .sent (webPage "x.com" "/u/status/1") ⟨.v4 address, 443⟩]

end Claim

end Sooqa.Media
