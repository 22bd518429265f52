/-
The HTTP client (`core/HttpClient.cpp`) and its three ways to send a request: the transport
that tests put in, WinHTTP, and libcurl with the options that the client sets.

The first two follow redirects themselves, and ask the policy about each destination.  WinHTTP
then resolves the name once more, and the client looks at the address when the request has been
sent.  libcurl follows redirects by itself; the client gives it a list of protocols, a number of
redirects and a guard that looks at the address of each connection.  Servers and resolvers answer
as they like, and not twice in the same way.

* `winHttp_policy`, `mock_policy` — what every request of the first two has passed;
* `redirect_policy_iff` — where the policy holds whatever the servers answer, and
  `curl_leaves_https` an answer that leads libcurl from `https` to plain `http`.
-/
import Tamga.BudgetedLoop
import Tamga.HttpAccessPolicy

namespace Tamga.Net

open BudgetedLoop List

/-! ### Messages -/

def kMaxHttpRedirects : Nat := 5

structure HttpRequest where
  method : String
  url : String
  body : Bytes := []
  contentType : String := ""
  accept : String := ""
  timeoutMs : Int := 10000
  deriving DecidableEq, Repr

structure HttpResponse where
  succeeded : Bool := false
  statusCode : Int := 0
  body : Bytes := []
  message : String := ""
  responseHeaders : String := ""
  deriving DecidableEq, Repr

structure HttpPostResult where
  attempted : Bool := false
  succeeded : Bool := false
  statusCode : Int := 0
  message : String := ""
  responseHeaders : String := ""
  body : Bytes := []
  deriving DecidableEq, Repr

def toPostResult (response : HttpResponse) : HttpPostResult where
  attempted := true
  succeeded := response.succeeded
  statusCode := response.statusCode
  message := response.message
  responseHeaders := response.responseHeaders
  body := response.body

def HttpRequest.redirected (request : HttpRequest) (status : Int) (url : String) : HttpRequest :=
  if status = 303 ∨ ((status = 301 ∨ status = 302) ∧ request.method = "POST") then
    { request with method := "GET", url := url, body := [], contentType := "" }
  else { request with url := url }

theorem HttpRequest.redirected_url (request : HttpRequest) (status : Int) (url : String) :
    (request.redirected status url).url = url := by
  rw [redirected]
  split <;> rfl

/-! ### The outside world -/

/-- The resolver that tests put in, and that of the system.  The answer may depend on how often
was asked before. -/
structure Resolvers where
  mock : Option (Nat → HttpHostResolver)
  system : Nat → HttpHostResolver

/-- The servers, and the addresses to which WinHTTP and libcurl connect for the URL of a request, or
why they do not; both may depend on the number of the request. -/
structure World where
  answer : Nat → HttpRequest → HttpResponse
  connect : Nat → String → Except String String

/-- The functions of libcurl that decide where a redirect leads. -/
structure Curl where
  /-- The URL that a response with these headers names, seen from the URL of the request. -/
  redirectUrl : String → String → Option String
  protocol : String → String
  absolute_location : ∀ base target : String,
    "http://".toList.isPrefixOf target.toList = true →
    redirectUrl base ("Location: " ++ target) = some target
  protocol_http : ∀ url : String, "http://".toList.isPrefixOf url.toList = true →
    protocol url = "http"

def checkDestinationVia (lib : NetLib) (R : Resolvers) (lookup : Nat) (url : String)
    (treatMissingResolverAsAllowed : Bool) : HttpDestinationResult :=
  let resolver := match R.mock with
    | some resolve => some (resolve lookup)
    | none => if treatMissingResolverAsAllowed then none else some (R.system lookup)
  checkDestination lib url resolver treatMissingResolverAsAllowed

/-- A request that was sent, with the addresses that were looked at before and the one it went to.
The transport of tests has no connection. -/
structure Sent where
  request : HttpRequest
  addresses : List String
  peer : Option String

/-- Where a loop stands: the request to be sent, and how often was sent and looked up. -/
structure LoopState where
  request : HttpRequest
  requests : Nat
  lookups : Nat

abbrev HttpTurn := Turn LoopState Sent HttpPostResult

section Loops

variable (lib : NetLib) (R : Resolvers) (world : World)

/-! ### The transport of tests -/

/-- A round of `ExecuteMockRequest`. -/
def mockTurn (initialHttps : Bool) (s : LoopState) : HttpTurn :=
  let destination := checkDestinationVia lib R s.lookups s.request.url true
  if !destination.allowed then .stop { message := destination.message }
  else
    let result := toPostResult (world.answer s.requests s.request)
    let sent : Sent := ⟨s.request, destination.resolvedAddresses, none⟩
    if !isRedirectStatus result.statusCode then .last sent result
    else
      let nextUrl := resolveHttpRedirectUrl s.request.url
        (responseHeaderValue result.responseHeaders "location")
      let next := parseDestinationUrl nextUrl
      .again sent
        { result with
          succeeded := false
          message := "mock HTTP transport: too many redirects" }
        (if !next.valid || (initialHttps && next.scheme != "https") then
          .error { result with
            succeeded := false
            message := "mock HTTP transport: redirect destination denied" }
        else .ok
          ⟨s.request.redirected result.statusCode nextUrl, s.requests + 1, s.lookups + 1⟩)

/-! ### WinHTTP -/

/-- The end of `WinHttpRequestOnce`, after the request has been sent: a response from an address
that `WinHttpPeerAddressIsPublic` does not accept is not read. -/
def winHttpResponse (peer : String) (response : HttpResponse) : HttpPostResult :=
  if !isAllowedPublicAddress lib peer then
    { attempted := true
      message := "WinHTTP: peer address did not pass destination policy (" ++ peer ++
        "); response rejected" }
  else
    let ok : Bool := 200 ≤ response.statusCode && response.statusCode < 300
    { attempted := true
      succeeded := ok
      statusCode := response.statusCode
      message := if ok then "ok" else "HTTP status " ++ toString response.statusCode
      responseHeaders := response.responseHeaders
      body := response.body }

/-- A round of `WinHttpRequest`.  A destination is looked up before the redirect is followed
and again before the request is sent; `WinHttpConnect` then looks it up by itself. -/
def winHttpTurn (initialHttps : Bool) (s : LoopState) : HttpTurn :=
  let destination := checkDestinationVia lib R s.lookups s.request.url false
  if !destination.allowed then .stop { message := destination.message }
  else match world.connect s.requests s.request.url with
  | .error message => .stop { attempted := true, message := message }
  | .ok peer =>
    let result := winHttpResponse lib peer (world.answer s.requests s.request)
    let sent : Sent := ⟨s.request, destination.resolvedAddresses, some peer⟩
    if !isRedirectStatus result.statusCode then .last sent result
    else
      let nextUrl := resolveHttpRedirectUrl s.request.url
        (responseHeaderValue result.responseHeaders "location")
      let next := parseDestinationUrl nextUrl
      .again sent { result with succeeded := false, message := "WinHTTP: too many redirects" }
        (if !next.valid || (initialHttps && next.scheme != "https") then
          .error { result with
            succeeded := false
            message := "WinHTTP: redirect destination denied" }
        else
          let nextDestination := checkDestinationVia lib R (s.lookups + 1) nextUrl false
          if !nextDestination.allowed then
            .error { result with succeeded := false, message := nextDestination.message }
          else .ok
            ⟨s.request.redirected result.statusCode nextUrl, s.requests + 1, s.lookups + 2⟩)

/-! ### libcurl -/

/-- `CURLOPT_PROTOCOLS_STR` and `CURLOPT_REDIR_PROTOCOLS_STR`. -/
def curlProtocols : List String := ["http", "https"]

/-- A request of `curl_easy_perform` and the redirect that follows it.  `OpenPublicSocketOnly`
lets only connections to public addresses be opened. -/
def curlTurn (curl : Curl) (s : LoopState) : HttpTurn :=
  match world.connect s.requests s.request.url with
  | .error message => .stop { attempted := true, message := message }
  | .ok address =>
    if !isAllowedPublicAddress lib address then
      .stop { attempted := true, message := "Could not connect to server" }
    else
      let response := world.answer s.requests s.request
      let sent : Sent := ⟨s.request, [address], some address⟩
      let ok : Bool := 200 ≤ response.statusCode && response.statusCode < 300
      let result : HttpPostResult :=
        { attempted := true
          succeeded := ok
          statusCode := response.statusCode
          message := if ok then "ok" else "unexpected HTTP status"
          responseHeaders := response.responseHeaders
          body := response.body }
      let location := if 300 ≤ response.statusCode ∧ response.statusCode < 400 then
        curl.redirectUrl s.request.url response.responseHeaders else none
      match location with
      | none => .last sent result
      | some nextUrl =>
        .again sent
          { attempted := true, message := "Number of redirects hit maximum amount" }
          (if curl.protocol nextUrl ∈ curlProtocols then .ok
            ⟨s.request.redirected response.statusCode nextUrl, s.requests + 1, s.lookups⟩
          else .error { attempted := true, message := "Unsupported protocol" })

/-! ### `HttpClient::Get` and `HttpClient::Post` -/

/-- What the program was built with; the transport of tests comes before it. -/
inductive Backend where
  | mock
  | winHttp
  | libcurl
  | absent
  deriving DecidableEq, Repr

/-- The common body of `HttpClient::Get` and `HttpClient::Post`: the requests that are sent, and
the result. -/
def execute (curl : Curl) (backend : Backend) (request : HttpRequest) : List Sent × HttpPostResult :=
  let destination := checkDestinationVia lib R 0 request.url (backend == .mock)
  let initialHttps := (parseDestinationUrl request.url).scheme == "https"
  if !destination.allowed then ([], { message := destination.message })
  else match backend with
  | .mock => run (mockTurn lib R world initialHttps) kMaxHttpRedirects ⟨request, 0, 1⟩
  | .winHttp => run (winHttpTurn lib R world initialHttps) kMaxHttpRedirects ⟨request, 0, 1⟩
  | .libcurl => run (curlTurn lib world curl) kMaxHttpRedirects ⟨request, 0, 1⟩
  | .absent =>
    ([], { attempted := true
           message := "No HTTP backend available (no libcurl, no WinHTTP)" })

def httpGet (curl : Curl) (backend : Backend) (url accept : String) (timeoutMs : Int) :
    List Sent × HttpPostResult :=
  execute lib R world curl backend
    { method := "GET", url := url, accept := accept, timeoutMs := timeoutMs }

def httpPost (curl : Curl) (backend : Backend) (url : String) (requestBody : Bytes)
    (contentType accept : String) (timeoutMs : Int) : List Sent × HttpPostResult :=
  execute lib R world curl backend
    { method := "POST", url := url, body := requestBody, contentType := contentType,
      accept := accept, timeoutMs := timeoutMs }

end Loops

/-! ### The policy along a chain of redirects -/

/-- Every request goes to an address that was looked at before it. -/
def Foreseen (sent : List Sent) : Prop :=
  ∀ s ∈ sent, ∀ peer, s.peer = some peer → peer ∈ s.addresses

/-- Every request has passed the policy on its host name and on its addresses and goes to one of
these, there are not too many of them, and from `https` there is no way to plain `http`. -/
structure RedirectPolicy (lib : NetLib) (url : String) (sent : List Sent) : Prop where
  passed : ∀ s ∈ sent, HostPasses lib s.request.url ∧ AddressesPass lib s.addresses
  foreseen : Foreseen sent
  bounded : sent.length ≤ kMaxHttpRedirects + 1
  noDowngrade : (parseDestinationUrl url).scheme = "https" →
    ∀ s ∈ sent, (parseDestinationUrl s.request.url).scheme ≠ "http"

section Policy

variable {lib : NetLib} {R : Resolvers} {world : World} {initialHttps : Bool} {url : String}

theorem checkDestinationVia_allowed {lookup : Nat} {missing : Bool}
    (hresolver : missing = true → R.mock.isSome = true)
    (h : (checkDestinationVia lib R lookup url missing).allowed = true) :
    HostPasses lib url ∧
      AddressesPass lib (checkDestinationVia lib R lookup url missing).resolvedAddresses := by
  obtain ⟨hhost, haddresses⟩ := checkDestination_allowed h
  refine ⟨hhost, haddresses.resolve_right ?_⟩
  rintro ⟨hmissing, hnone⟩
  obtain ⟨resolve, hresolve⟩ := Option.isSome_iff_exists.mp (hresolver hmissing)
  rw [hresolve] at hnone
  cases hnone

/-- What is sent has passed, and stays with `https` if the first URL does. -/
def Proper (lib : NetLib) (initialHttps : Bool) (sent : Sent) : Prop :=
  (HostPasses lib sent.request.url ∧ AddressesPass lib sent.addresses) ∧
    (initialHttps = true → (parseDestinationUrl sent.request.url).scheme = "https")

/-- The next request stays with `https` if the first URL does. -/
def StaysHttps (initialHttps : Bool) (s : LoopState) : Prop :=
  initialHttps = true → (parseDestinationUrl s.request.url).scheme = "https"

theorem scheme_of_not_denied {next : DestinationUrl}
    (h : ¬(!next.valid || (initialHttps && next.scheme != "https")) = true)
    (hhttps : initialHttps = true) : next.scheme = "https" := by
  rw [hhttps, Bool.or_eq_true_iff, not_or, Bool.true_and, bne_iff_ne, not_not] at h
  exact h.2

theorem mockTurn_keeps (hresolver : R.mock.isSome = true) (s : LoopState)
    (hs : StaysHttps initialHttps s) :
    (mockTurn lib R world initialHttps s).Keeps (StaysHttps initialHttps)
      (Proper lib initialHttps) := by
  rw [mockTurn]
  dsimp only
  split
  · exact trivial
  next hallowed =>
  have hpassed := checkDestinationVia_allowed (fun _ => hresolver)
    (by simpa using hallowed : (checkDestinationVia lib R s.lookups s.request.url true).allowed = true)
  split
  · exact ⟨hpassed, hs⟩
  refine ⟨⟨hpassed, hs⟩, fun s' hs' hhttps => ?_⟩
  split at hs'
  · cases hs'
  next hdenied =>
    obtain rfl := Except.ok.inj hs'
    rw [HttpRequest.redirected_url]
    exact scheme_of_not_denied hdenied hhttps

theorem mockTurn_peer (s : LoopState) :
    (mockTurn lib R world initialHttps s).Keeps (fun _ => True)
      fun sent => ∀ peer, sent.peer = some peer → peer ∈ sent.addresses := by
  rw [mockTurn]
  dsimp only
  split
  · exact trivial
  split
  · exact nofun
  · exact ⟨nofun, fun _ _ => trivial⟩

theorem winHttpTurn_keeps (s : LoopState) (hs : StaysHttps initialHttps s) :
    (winHttpTurn lib R world initialHttps s).Keeps (StaysHttps initialHttps)
      (Proper lib initialHttps) := by
  rw [winHttpTurn]
  dsimp only
  split
  · exact trivial
  next hallowed =>
  split
  · exact trivial
  have hpassed := checkDestinationVia_allowed (fun h => by cases h)
    (by simpa using hallowed : (checkDestinationVia lib R s.lookups s.request.url false).allowed = true)
  split
  · exact ⟨hpassed, hs⟩
  refine ⟨⟨hpassed, hs⟩, fun s' hs' hhttps => ?_⟩
  split at hs'
  · cases hs'
  next hdenied =>
  split at hs'
  · cases hs'
  · obtain rfl := Except.ok.inj hs'
    rw [HttpRequest.redirected_url]
    exact scheme_of_not_denied hdenied hhttps

/-- All of the policy but the last look at the addresses. -/
theorem policy_of_keeps {turn : LoopState → HttpTurn} {request : HttpRequest} {lookups : Nat}
    (h : ∀ s, StaysHttps ((parseDestinationUrl request.url).scheme == "https") s →
      (turn s).Keeps (StaysHttps ((parseDestinationUrl request.url).scheme == "https"))
        (Proper lib ((parseDestinationUrl request.url).scheme == "https"))) :
    let sent := (run turn kMaxHttpRedirects ⟨request, 0, lookups⟩).1
    RedirectPolicy lib request.url sent ↔ Foreseen sent := by
  have hproper := forall_mem_run h kMaxHttpRedirects ⟨request, 0, lookups⟩ beq_iff_eq.mp
  refine ⟨RedirectPolicy.foreseen, fun hforeseen => ⟨fun s hs => (hproper s hs).1, hforeseen,
    length_run_le _ _, fun hhttps s hs => ?_⟩⟩
  rw [(hproper s hs).2 (beq_iff_eq.mpr hhttps)]
  decide

theorem policy_nil : RedirectPolicy lib url [] where
  passed := fun _ h => by cases h
  foreseen := fun _ h => by cases h
  bounded := Nat.zero_le _
  noDowngrade := fun _ _ h => by cases h

end Policy

/-! ### Where the policy holds -/

section Main

variable {lib : NetLib} {R : Resolvers} {curl : Curl} {request : HttpRequest}

theorem execute_of_denied {world : World} {backend : Backend}
    (h : (checkDestinationVia lib R 0 request.url (backend == .mock)).allowed = false) :
    (execute lib R world curl backend request).1 = [] := by
  simp only [execute, h, Bool.not_false, if_true]

/-- **WinHTTP** keeps to the policy, as long as it connects to the addresses that were looked at. -/
theorem winHttp_policy (world : World) :
    let sent := (execute lib R world curl .winHttp request).1
    RedirectPolicy lib request.url sent ↔ Foreseen sent := by
  rw [execute]
  split
  · exact iff_of_true policy_nil nofun
  · exact policy_of_keeps winHttpTurn_keeps

/-- **The transport of tests** keeps to the policy where there is a resolver. -/
theorem mock_policy (hresolver : R.mock.isSome = true) (world : World) :
    RedirectPolicy lib request.url (execute lib R world curl .mock request).1 := by
  rw [execute]
  split
  · exact policy_nil
  · refine (policy_of_keeps (mockTurn_keeps hresolver)).mpr ?_
    exact forall_mem_run (fun s _ => mockTurn_peer s) kMaxHttpRedirects _ trivial

/-- Every request is answered with the same redirect, and there is one address to connect to. -/
def redirectingWorld (address location : String) : World where
  answer := fun _ _ => { statusCode := 302, responseHeaders := "Location: " ++ location }
  connect := fun _ _ => .ok address

def unresolvedUrl : String := "https://host.example/"

/-- A URL that the policy refuses and libcurl accepts. -/
def userinfoUrl : String := "http://user@host.example/"

theorem classify_host_example : classifyIpAddress lib "host.example" = .notAnIp := by
  obtain ⟨h4, h6, -⟩ := lib.name_not_number "host.example" (by decide)
  have hpart : lib.strtoull "host" = none := (lib.name_not_number "host" (by decide)).2.2
  have hlegacy : parseLegacyIpv4 lib "host.example" = none := by
    rw [parseLegacyIpv4, if_neg (by decide)]
    have hparts : dotParts "host.example".toList = ["host".toList, "example".toList] := by decide
    rw [hparts]
    rw [if_neg (by decide), mapM_cons, String.ofList_toList, hpart]
    rfl
  rw [classifyIpAddress, h4, hlegacy, h6]

theorem checkDestinationVia_unresolved (hmock : R.mock = none) (lookup : Nat) :
    checkDestinationVia lib R lookup unresolvedUrl true = { allowed := true } := by
  have hparsed : parseDestinationUrl unresolvedUrl = ⟨"https", "host.example", true⟩ := by decide
  rw [checkDestinationVia, hmock]
  rw [if_pos rfl, checkDestination, hparsed]
  dsimp only
  rw [if_neg (by decide), if_neg (by decide), classify_host_example, if_neg (by decide),
    if_neg (by decide), if_neg (by decide), if_pos (by decide)]

theorem mockTurn_redirecting {initialHttps : Bool} {address : String} {s : LoopState}
    (h : (checkDestinationVia lib R s.lookups s.request.url true).allowed = true) :
    ∃ exhausted, mockTurn lib R (redirectingWorld address unresolvedUrl) initialHttps s =
      .again ⟨s.request, (checkDestinationVia lib R s.lookups s.request.url true).resolvedAddresses,
          none⟩
        exhausted
        (.ok ⟨s.request.redirected 302 unresolvedUrl, s.requests + 1, s.lookups + 1⟩) := by
  have hlocation : resolveHttpRedirectUrl s.request.url
      (responseHeaderValue ("Location: " ++ unresolvedUrl) "location") = unresolvedUrl := by
    have hvalue : responseHeaderValue ("Location: " ++ unresolvedUrl) "location" = unresolvedUrl := by
      decide
    exact resolveHttpRedirectUrl_absolute (by decide)
  have hnext : (!(parseDestinationUrl unresolvedUrl).valid ||
      (initialHttps && (parseDestinationUrl unresolvedUrl).scheme != "https")) = false := by
    cases initialHttps <;> decide
  rw [mockTurn, h]
  dsimp only [redirectingWorld, toPostResult]
  rw [if_neg (by decide), if_neg (by decide), hlocation, hnext]
  exact ⟨_, rfl⟩

theorem mock_violates (hmock : R.mock = none)
    (hallowed : (checkDestinationVia lib R 0 request.url true).allowed = true) :
    ¬RedirectPolicy lib request.url
      (execute lib R (redirectingWorld "" unresolvedUrl) curl .mock request).1 := by
  intro hpolicy
  -- the resolver does not answer differently, for there is none
  have hallowed' : (checkDestinationVia lib R 1 request.url true).allowed = true := by
    rw [checkDestinationVia, hmock] at hallowed ⊢
    exact hallowed
  set initialHttps := (parseDestinationUrl request.url).scheme == "https" with hinitial
  obtain ⟨exhausted, hfirst⟩ := @mockTurn_redirecting lib R initialHttps "" ⟨request, 0, 1⟩ hallowed'
  set second : LoopState := ⟨request.redirected 302 unresolvedUrl, 1, 2⟩ with hsecond
  have hurl : second.request.url = unresolvedUrl := HttpRequest.redirected_url _ _ _
  have hunresolved := @checkDestinationVia_unresolved lib R hmock second.lookups
  obtain ⟨exhausted', hthen⟩ := @mockTurn_redirecting lib R initialHttps "" second
    (by rw [hurl, hunresolved])
  have hmem : ⟨second.request, [], none⟩ ∈
      (execute lib R (redirectingWorld "" unresolvedUrl) curl .mock request).1 := by
    rw [execute, show (Backend.mock == Backend.mock) = true from rfl, hallowed]
    rw [hurl, hunresolved] at hthen
    show _ ∈ (run _ (4 + 1) _).1
    rw [run_of_again 4 hfirst]
    refine mem_cons_of_mem _ ?_
    rw [run_of_again 3 hthen]
    exact mem_cons_self
  exact (hpolicy.passed _ hmem).2.1 rfl

theorem curlTurn_redirecting {address : String} (haddress : isAllowedPublicAddress lib address = true)
    (s : LoopState) :
    ∃ exhausted, curlTurn lib (redirectingWorld address userinfoUrl) curl s =
      .again ⟨s.request, [address], some address⟩ exhausted
        (.ok ⟨s.request.redirected 302 userinfoUrl, s.requests + 1, s.lookups⟩) := by
  have hlocation := curl.absolute_location s.request.url userinfoUrl (by decide)
  have hprotocol := curl.protocol_http userinfoUrl (by decide)
  rw [curlTurn]
  dsimp only [redirectingWorld]
  rw [haddress, if_neg (by decide), if_pos (by decide), hlocation]
  dsimp only
  rw [hprotocol, if_pos (by decide)]
  exact ⟨_, rfl⟩

theorem curl_violates {address : String} (haddress : isAllowedPublicAddress lib address = true)
    (hallowed : (checkDestinationVia lib R 0 request.url false).allowed = true) :
    ¬RedirectPolicy lib request.url
      (execute lib R (redirectingWorld address userinfoUrl) curl .libcurl request).1 := by
  intro hpolicy
  obtain ⟨exhausted, hfirst⟩ := @curlTurn_redirecting lib curl address haddress ⟨request, 0, 1⟩
  obtain ⟨exhausted', hthen⟩ := @curlTurn_redirecting lib curl address haddress
    ⟨request.redirected 302 userinfoUrl, 1, 1⟩
  have hmem : ⟨request.redirected 302 userinfoUrl, [address], some address⟩ ∈
      (execute lib R (redirectingWorld address userinfoUrl) curl .libcurl request).1 := by
    rw [execute, show (Backend.libcurl == Backend.mock) = false from rfl, hallowed]
    show _ ∈ (run _ (4 + 1) _).1
    rw [run_of_again 4 hfirst]
    refine mem_cons_of_mem _ ?_
    rw [run_of_again 3 hthen]
    exact mem_cons_self
  have hvalid := (hpolicy.passed _ hmem).1.valid
  rw [HttpRequest.redirected_url] at hvalid
  exact absurd hvalid (by decide)

/-- The second look-up is the one that WinHTTP makes before it sends; the connection then goes to
the machine itself. -/
theorem winHttp_violates (hallowed : (checkDestinationVia lib R 0 request.url false).allowed = true)
    (hagain : (checkDestinationVia lib R 1 request.url false).allowed = true) :
    ¬RedirectPolicy lib request.url
      (execute lib R (redirectingWorld "127.0.0.1" "") curl .winHttp request).1 := by
  intro hpolicy
  obtain ⟨-, -, hpublic⟩ := checkDestinationVia_allowed (fun h => by cases h) hagain
  have hblocked : isAllowedPublicAddress lib "127.0.0.1" = false := by
    rw [isAllowedPublicAddress, classifyIpAddress, lib.loopback]
    show (judgeIpv4 0x7f000001 == .isPublic) = false
    decide
  have hturn : ∃ result, winHttpTurn lib R (redirectingWorld "127.0.0.1" "")
      ((parseDestinationUrl request.url).scheme == "https") ⟨request, 0, 1⟩ =
      .last ⟨request, (checkDestinationVia lib R 1 request.url false).resolvedAddresses,
        some "127.0.0.1"⟩ result := by
    rw [winHttpTurn, hagain]
    dsimp only [redirectingWorld]
    rw [if_neg (by decide), winHttpResponse, hblocked]
    exact ⟨_, rfl⟩
  obtain ⟨result, hturn⟩ := hturn
  have hmem : ⟨request, (checkDestinationVia lib R 1 request.url false).resolvedAddresses,
      some "127.0.0.1"⟩ ∈
        (execute lib R (redirectingWorld "127.0.0.1" "") curl .winHttp request).1 := by
    rw [execute, show (Backend.winHttp == Backend.mock) = false from rfl, hallowed]
    show _ ∈ (run _ (4 + 1) _).1
    rw [run, hturn]
    exact mem_cons_self
  have hmember := hpolicy.foreseen _ hmem _ rfl
  rw [hpublic _ hmember] at hblocked
  cases hblocked

theorem execute_winHttp_nil {world : World}
    (h : (checkDestinationVia lib R 1 request.url false).allowed = false) :
    (execute lib R world curl .winHttp request).1 = [] := by
  rw [execute]
  split
  · rfl
  · show (run _ (4 + 1) _).1 = []
    rw [run, winHttpTurn, h]
    rfl

end Main

/-- **The policy on redirects** holds for all answers of the servers, and all connections, exactly
where nothing is sent (the first URL is refused, by the first look-up or with WinHTTP by the second,
or there is no backend) and with the transport of tests and a resolver.  With WinHTTP it holds
exactly as long as the connections go to addresses that were looked at. -/
theorem redirect_policy_iff (lib : NetLib) (R : Resolvers) (curl : Curl) (backend : Backend)
    (request : HttpRequest) :
    ((∀ world, RedirectPolicy lib request.url (execute lib R world curl backend request).1) ↔
      (checkDestinationVia lib R 0 request.url (backend == .mock)).allowed = false ∨
        (backend = .winHttp ∧ (checkDestinationVia lib R 1 request.url false).allowed = false) ∨
        backend = .absent ∨ (backend = .mock ∧ R.mock.isSome = true)) ∧
    ∀ world, let sent := (execute lib R world curl .winHttp request).1
      RedirectPolicy lib request.url sent ↔ Foreseen sent := by
  refine ⟨?_, winHttp_policy⟩
  cases hallowed : (checkDestinationVia lib R 0 request.url (backend == .mock)).allowed with
  | false =>
    refine iff_of_true (fun world => ?_) (.inl rfl)
    rw [execute_of_denied hallowed]
    exact policy_nil
  | true =>
    cases backend with
    | winHttp =>
      cases hagain : (checkDestinationVia lib R 1 request.url false).allowed with
      | false =>
        refine iff_of_true (fun world => ?_) (by simp)
        rw [execute_winHttp_nil hagain]
        exact policy_nil
      | true => exact iff_of_false (fun h => winHttp_violates hallowed hagain (h _)) (by simp)
    | absent =>
      refine iff_of_true (fun world => ?_) (by simp)
      rw [execute, hallowed]
      exact policy_nil
    | libcurl =>
      obtain ⟨-, hne, haddresses⟩ := checkDestinationVia_allowed (fun h => by cases h) hallowed
      obtain ⟨address, haddress⟩ := exists_mem_of_ne_nil _ hne
      refine iff_of_false (fun h => ?_) (by simp)
      exact curl_violates (haddresses address haddress) hallowed (h _)
    | mock =>
      cases hmock : R.mock with
      | none =>
        refine iff_of_false (fun h => ?_) (by simp)
        exact mock_violates hmock hallowed (h _)
      | some resolve =>
        refine iff_of_true (fun world => ?_) (by simp)
        exact mock_policy (by rw [hmock]; rfl) world

/-! ### A redirect that libcurl follows -/

def exampleNetLib : NetLib where
  inetPton4 := fun text =>
    if text = "93.184.216.34" then some 0x5db8d822
    else if text = "127.0.0.1" then some 0x7f000001 else none
  inetPton6 := fun _ => none
  strtoull := fun _ => none
  name_not_number := by
    intro text h
    refine ⟨?_, rfl, rfl⟩
    rw [if_neg, if_neg]
    all_goals
      rintro rfl
      exact absurd h (by decide)
  loopback := rfl

/-- A libcurl for responses with one header. -/
def exampleCurl : Curl where
  redirectUrl := fun _ headers =>
    if "Location: ".toList.isPrefixOf headers.toList then
      some (String.ofList (headers.toList.drop 10))
    else none
  protocol := fun url => if "http://".toList.isPrefixOf url.toList then "http" else "https"
  absolute_location := by
    intro base target _
    have htext : ("Location: " ++ target).toList = "Location: ".toList ++ target.toList :=
      String.toList_append
    have hdrop : ("Location: ".toList ++ target.toList).drop 10 = target.toList :=
      drop_left' (by decide)
    rw [htext, if_pos ( isPrefixOf_iff_prefix.mpr ⟨_, rfl⟩), hdrop, String.ofList_toList]
  protocol_http := fun url h => if_pos h

def exampleResolvers : Resolvers where
  mock := none
  system := fun _ _ => ["93.184.216.34"]

def exampleWorld : World where
  answer := fun n _ =>
    if n = 0 then { statusCode := 302, responseHeaders := "Location: http://ca.example/issuer.cer" }
    else { succeeded := true, statusCode := 200 }
  connect := fun _ _ => .ok "93.184.216.34"

/-- **From `https` to plain `http`**: libcurl follows the redirect to the same public host. -/
theorem curl_leaves_https :
    (httpGet exampleNetLib exampleResolvers exampleWorld exampleCurl .libcurl
        "https://ca.example/issuer.cer" "*/*" 10000).1.map (fun s => s.request.url) =
      ["https://ca.example/issuer.cer", "http://ca.example/issuer.cer"] ∧
    (parseDestinationUrl "https://ca.example/issuer.cer").scheme = "https" ∧
    (parseDestinationUrl "http://ca.example/issuer.cer").scheme = "http" := by
  decide +kernel

end Tamga.Net
