import PersonTracking.Gateway.ForwardedPath

/-!
# Which downstream endpoints the gateway reaches

The routers of the four services behind the gateway, as they are mounted below
`/api/v1`, against the route of the proxy and its table of services.  The proxy
reads the first segment as the key of a service, so an endpoint is reached under
its own path only where the mount point of its router is such a key and
something follows it.

`forwarded_iff` is the outcome for every endpoint, every path of it and every
request: two endpoints of four mount points are not reached, nor is a path whose URL
the HTTP client does not take, or that changes its meaning on the way (`ArrivesAs`).
-/

namespace PersonTracking.Gateway

open Library Python Shared

/-- The services behind the gateway. -/
inductive Service
  | auth
  | camera
  | search
  | analytics
deriving DecidableEq, Repr

/-- A path operation of a router: the text of its path, and the parameter that
text ends in, if it does. -/
structure PathOperation where
  method : String
  text : String
  parameter : Option String
deriving DecidableEq, Repr

/-- A router with its mount point below `/api/v1/`. -/
structure Router where
  service : Service
  mountedAt : String
  operations : List PathOperation

/-- The router of the auth service, mounted at `/api/v1/auth`. -/
def authRouter : Router where
  service := .auth
  mountedAt := "auth"
  operations := [⟨"POST", "/login", none⟩, ⟨"POST", "/refresh", none⟩,
    ⟨"POST", "/register", none⟩, ⟨"POST", "/verify", none⟩]

/-- The router of the camera service, with the prefix `/cameras`. -/
def camerasRouter : Router where
  service := .camera
  mountedAt := "cameras"
  operations := [⟨"POST", "", none⟩, ⟨"GET", "", none⟩, ⟨"GET", "/status-summary", none⟩,
    ⟨"POST", "/test-url", none⟩, ⟨"POST", "/test-video", none⟩,
    ⟨"GET", "/", some "camera_id"⟩, ⟨"PUT", "/", some "camera_id"⟩,
    ⟨"DELETE", "/", some "camera_id"⟩]

/-- The router of the search service, with the prefix `/search`. -/
def searchRouter : Router where
  service := .search
  mountedAt := "search"
  operations := [⟨"POST", "/by-image", none⟩]

/-- The router of the analytics service, with the prefix `/tracking`. -/
def trackingRouter : Router where
  service := .analytics
  mountedAt := "tracking"
  operations := [⟨"GET", "/events", none⟩, ⟨"GET", "/trail/", some "person_id"⟩]

/-- All routers below `/api/v1`. -/
def routers : List Router := [authRouter, camerasRouter, searchRouter, trackingRouter]

/-- The path template of a mounted operation. -/
def Router.template (router : Router) (operation : PathOperation) : List Piece :=
  .text ("/api/v1/" ++ router.mountedAt ++ operation.text) ::
    (operation.parameter.toList.map Piece.segment)

/-- Where the gateway sends what is for a service. -/
def Settings.urlOf (settings : Settings) : Service → String
  | .auth => settings.authServiceUrl
  | .camera => settings.cameraServiceUrl
  | .search => settings.searchServiceUrl
  | .analytics => settings.analyticsServiceUrl

/-- A request for a decoded path that the gateway has no reason of its own to
refuse: it carries a valid access token and headers that can be sent, and the
limiters let its client in. -/
structure Welcome (settings : Settings) (admission : Admission) (requestId : String)
    (request : Request) (method path : String) : Prop where
  method : request.method = method
  path : request.path = path
  admitted : admission.checkRateLimit (getClientIp settings request) = true
  unlocked : admission.lockedOut (getClientIp settings request) = false
  ready : admission.clientReady = true
  plainHeaders : ∃ wire, sentHeaders (clientHeaders requestId request).entries = .ok wire
  identified : ∃ payload,
    verifyToken settings (request.headers.get? "Authorization") = .ok payload ∧
    ∃ wire, sentHeaders
      (identityHeaders settings payload (clientHeaders requestId request)).entries = .ok wire

/-- **The endpoint is reached**: the proxy's route takes the request without a
redirect, the proxy sends it to the service of the endpoint, and what that
service serves is the path it was asked for. -/
def Forwarded (settings : Settings) (downstream : Unquote) (isProd : Bool)
    (admission : Admission) (requestId : String) (request : Request) (service : Service)
    (method path : String) : Prop :=
  ∃ key rest forwarded url,
    dispatch isProd method path = some (.proxyRequest, [("service", key), ("path", rest)]) ∧
    proxyRequest settings admission requestId request key rest = .ok forwarded ∧
    settings.serviceMapping.lookup key = some (settings.urlOf service) ∧
    request.splitUrl settings = some url ∧
    forwarded.url = targetUrl (settings.urlOf service) url ∧
    servedPath downstream url.path = path.toList

/-- A line break stands at most at the end of the path. -/
def OneLine (path : String) : Prop := '\n' ∉ path.toList.dropLast

/-- The HTTP client takes the URL that the request is sent on to. -/
def Sendable (settings : Settings) (request : Request) (service : Service) : Prop :=
  ∃ url, request.splitUrl settings = some url ∧
    isSendableUrl (targetUrl (settings.urlOf service) url) = true

/-! ## What the proxy does with a welcome request -/

section Proxy

variable {settings : Settings} {admission : Admission} {requestId : String} {request : Request}
  {method path key rest targetBaseUrl : String} {url : SplitResult}

/-- A welcome request for a known service is sent to it, if its URL can be sent. -/
theorem exists_proxyRequest_eq_ok
    (welcome : Welcome settings admission requestId request method path)
    (known : settings.serviceMapping.lookup key = some targetBaseUrl)
    (split : request.splitUrl settings = some url)
    (sendable : isSendableUrl (targetUrl targetBaseUrl url) = true) :
    ∃ forwarded, proxyRequest settings admission requestId request key rest = .ok forwarded ∧
      forwarded.url = targetUrl targetBaseUrl url := by
  obtain ⟨headers, wire, prepared, written⟩ : ∃ headers wire,
      proxiedHeaders settings requestId request key rest = .ok headers ∧
        sentHeaders headers.entries = .ok wire := by
    cases openRoute : isPublic key rest with
    | true =>
        obtain ⟨wire, written⟩ := welcome.plainHeaders
        exact ⟨_, wire, by rw [proxiedHeaders, openRoute, if_pos rfl], written⟩
    | false =>
        obtain ⟨payload, verified, wire, written⟩ := welcome.identified
        refine ⟨_, wire, ?_, written⟩
        rw [proxiedHeaders, openRoute, if_neg Bool.false_ne_true, verified]
        rfl
  exact ⟨_, proxyRequest_eq_ok_iff.mpr ⟨targetBaseUrl, headers, url, wire, known,
    welcome.admitted, fun locked => Bool.false_ne_true (welcome.unlocked.symm.trans locked.2.2),
    prepared, split, welcome.ready, sendable, written, rfl⟩, rfl⟩

/-- What the proxy sends has a URL that can be sent. -/
theorem sentTo_of_proxyRequest {forwarded : ForwardedRequest}
    (sent : proxyRequest settings admission requestId request key rest = .ok forwarded) :
    ∃ url, SentTo settings request key url := by
  obtain ⟨base, -, url, -, known, -, -, -, split, -, sendable, -, -⟩ :=
    proxyRequest_eq_ok_iff.mp sent
  exact ⟨url, split, base, known, sendable⟩

/-- What the proxy handles, its template has matched. -/
theorem matched_of_dispatch {isProd : Bool} {found : List (String × String)}
    (dispatched : dispatch isProd method path = some (.proxyRequest, found)) :
    matchPieces proxyTemplate path.toList = some found := by
  obtain ⟨route, registered, taken⟩ := List.exists_of_findSome?_eq_some dispatched
  rw [Route.full] at taken
  split at taken
  · obtain ⟨params, matched, same⟩ := Option.map_eq_some_iff.mp taken
    obtain ⟨handler, rfl⟩ := Prod.mk.inj same
    rw [routes, List.mem_append, List.mem_map] at registered
    rcases registered with ⟨page, -, rfl⟩ | registered
    · cases handler
    · simp only [List.mem_cons, List.not_mem_nil, or_false] at registered
      rcases registered with rfl | rfl | rfl
      · exact matched
      · cases handler
      · cases handler
  · cases taken

end Proxy

/-! ## The endpoints -/

section Endpoints

variable {router : Router} {operation : PathOperation}

/-- What the mount points and the path texts have in common. -/
theorem mounted_facts (mounted : router ∈ routers) (declared : operation ∈ router.operations) :
    router.mountedAt.toList ≠ [] ∧ '/' ∉ router.mountedAt.toList ∧
      operation.method ∈ proxyRoute.methods ∧
      (operation.text = "" → operation.parameter = none) ∧
      (operation.text ≠ "" → operation.text.toList.head? = some '/') := by
  have facts : ∀ router ∈ routers, ∀ operation ∈ router.operations,
      router.mountedAt.toList ≠ [] ∧ '/' ∉ router.mountedAt.toList ∧
        operation.method ∈ proxyRoute.methods ∧
        (operation.text = "" → operation.parameter = none) ∧
        (operation.text ≠ "" → operation.text.toList.head? = some '/') := by
    decide +kernel
  exact facts router mounted operation declared

theorem oneLine_mountedAt (mounted : router ∈ routers) : '\n' ∉ router.mountedAt.toList := by
  have facts : ∀ router ∈ routers, '\n' ∉ router.mountedAt.toList := by decide +kernel
  exact facts router mounted

/-- The table of services knows every mount point but that of the analytics service. -/
theorem lookup_mountedAt (settings : Settings) (mounted : router ∈ routers) :
    settings.serviceMapping.lookup router.mountedAt =
      if router.service = .analytics then none else some (settings.urlOf router.service) := by
  simp only [routers, List.mem_cons, List.not_mem_nil, or_false] at mounted
  rcases mounted with rfl | rfl | rfl | rfl
  all_goals rfl

/-- A path of an operation: the mount point, the text of the operation, and what
its parameter matches. -/
theorem exists_of_matchTemplate {path : String} {params : List (String × String)}
    (matched : matchPieces (router.template operation) path.toList = some params) :
    ∃ remaining, path.toList =
        apiPrefix ++ (router.mountedAt.toList ++ (operation.text.toList ++ remaining)) ∧
      (operation.parameter = none → remaining = [] ∨ remaining = ['\n']) := by
  obtain ⟨remaining, spelled, later⟩ := exists_of_matchText matched
  refine ⟨remaining, ?_, fun whole => ?_⟩
  · rw [spelled, String.toList_append, String.toList_append, apiText, List.append_assoc,
      List.append_assoc]
  · rw [whole, Option.toList_none, List.map_nil, matchPieces] at later
    split at later
    · assumption
    · cases later

section Reached

variable {settings : Settings} {downstream : Unquote} {isProd : Bool} {admission : Admission}
  {requestId : String} {request : Request} {path : String} {remaining : List Char}

/-- The proxy reads the mount point as the key, and it knows it. -/
theorem of_forwarded (mounted : router ∈ routers) (declared : operation ∈ router.operations)
    (spelled : path.toList =
      apiPrefix ++ (router.mountedAt.toList ++ (operation.text.toList ++ remaining)))
    (whole : operation.parameter = none → remaining = [] ∨ remaining = ['\n'])
    (welcome : Welcome settings admission requestId request operation.method path)
    (reached : Forwarded settings downstream isProd admission requestId request router.service
      operation.method path) :
    router.service ≠ .analytics ∧ operation.text ≠ "" ∧ OneLine path ∧
      Sendable settings request router.service ∧
        ArrivesAs settings downstream request path.toList := by
  obtain ⟨key, rest, forwarded, url, dispatched, sent, known, split, -, served⟩ := reached
  obtain ⟨-, oneSegment, -, noParameter, absolute⟩ := mounted_facts mounted declared
  obtain ⟨keySegment, restLine, tail, ended, named⟩ :=
    exists_of_matched (matched_of_dispatch dispatched)
  have below := named
  rw [namedPath, List.append_assoc, List.append_assoc, List.cons_append, spelled] at below
  have below := List.append_cancel_left below
  have texted : operation.text ≠ "" := by
    intro empty
    have slash : '/' ∈ router.mountedAt.toList ++ (operation.text.toList ++ remaining) := by
      rw [below]
      simp
    rw [empty] at slash
    rcases whole (noParameter empty) with nothing | newline
    · simp [nothing, oneSegment] at slash
    · simp [newline, oneSegment] at slash
  obtain ⟨text, slash⟩ := List.head?_eq_some_iff.mp (absolute texted)
  rw [slash, List.cons_append] at below
  obtain rfl : router.mountedAt = key :=
    String.toList_injective (firstSegment_inj oneSegment keySegment below)
  rw [lookup_mountedAt settings mounted] at known
  refine ⟨fun analytics => ?_, texted, ?_, ?_, ?_⟩
  · rw [if_pos analytics] at known
    cases known
  · have mountLine := oneLine_mountedAt mounted
    have namedLine : '\n' ∉ namedPath router.mountedAt rest := by
      simp [namedPath, apiPrefix, mountLine, restLine]
    rw [OneLine, named]
    rcases ended with rfl | rfl
    · rw [List.append_nil]
      exact fun member => namedLine (List.dropLast_subset _ member)
    · rwa [List.dropLast_concat]
  · obtain ⟨sentUrl, sameUrl, base, knownBase, sendable⟩ := sentTo_of_proxyRequest sent
    rw [lookup_mountedAt settings mounted, known, Option.some.injEq] at knownBase
    exact ⟨sentUrl, sameUrl, knownBase ▸ sendable⟩
  · have slash : path.toList = '/' :: path.toList.tail := by rw [spelled]; rfl
    have asked : request.path.toList = '/' :: path.toList.tail ++ [] := by
      rw [List.append_nil, ← slash, welcome.path]
    rw [slash] at served ⊢
    exact (arrivesAs_iff (by simp) asked split).mp served

/-- Behind a prefix of the path there is a text without line breaks and one break at most. -/
theorem exists_of_oneLine {front back : List Char} {service : List Char}
    (spelled : path.toList = front ++ (service ++ '/' :: back)) (oneLine : OneLine path) :
    ∃ body tail, '\n' ∉ body ∧ Ended tail ∧ back = body ++ tail := by
  rcases List.eq_nil_or_concat back with rfl | ⟨body, last, rfl⟩
  · exact ⟨[], [], List.not_mem_nil, Or.inl rfl, rfl⟩
  · have bodyLine : '\n' ∉ body := by
      intro member
      refine oneLine ?_
      rw [spelled, List.concat_eq_append, ← List.cons_append, ← List.append_assoc,
        ← List.append_assoc, List.dropLast_concat]
      simp [member]
    rw [List.concat_eq_append]
    by_cases line : last = '\n'
    · exact ⟨body, ['\n'], bodyLine, Or.inr rfl, by rw [line]⟩
    · refine ⟨body ++ [last], [], ?_, Or.inl rfl, (List.append_nil _).symm⟩
      rw [List.mem_append, List.mem_singleton, not_or]
      exact ⟨bodyLine, Ne.symm line⟩

/-- The way to a path below a mount point the proxy knows. -/
theorem forwarded_of_arrives (mounted : router ∈ routers) (declared : operation ∈ router.operations)
    (spelled : path.toList =
      apiPrefix ++ (router.mountedAt.toList ++ (operation.text.toList ++ remaining)))
    (oneLine : OneLine path)
    (welcome : Welcome settings admission requestId request operation.method path)
    (notAnalytics : router.service ≠ .analytics) (texted : operation.text ≠ "")
    (sendable : Sendable settings request router.service)
    (arrives : ArrivesAs settings downstream request path.toList) :
    Forwarded settings downstream isProd admission requestId request router.service
      operation.method path := by
  obtain ⟨named, oneSegment, proxied, -, absolute⟩ := mounted_facts mounted declared
  obtain ⟨text, slash⟩ := List.head?_eq_some_iff.mp (absolute texted)
  rw [slash, List.cons_append] at spelled
  have known := lookup_mountedAt settings mounted
  rw [if_neg notAnalytics] at known
  obtain ⟨body, tail, bodyLine, ended, joined⟩ := exists_of_oneLine spelled oneLine
  have taken := dispatch_proxied isProd proxied named oneSegment bodyLine ended
    (by rw [spelled, joined, apiText] : path.toList = "/api/v1/".toList ++ _)
  rw [String.ofList_toList] at taken
  obtain ⟨url, split, sendable⟩ := sendable
  obtain ⟨forwarded, sent, target⟩ :=
    @exists_proxyRequest_eq_ok _ _ _ _ _ _ _ (String.ofList body) _ _ welcome known
      split sendable
  refine ⟨router.mountedAt, _, forwarded, url, taken, sent, known, split, target, ?_⟩
  have slash : path.toList = '/' :: path.toList.tail := by rw [spelled]; rfl
  have asked : request.path.toList = '/' :: path.toList.tail ++ [] := by
    rw [List.append_nil, ← slash, welcome.path]
  rw [slash] at arrives ⊢
  exact (arrivesAs_iff (by simp) asked split).mpr arrives

end Reached

end Endpoints

/-- **Which endpoints are reached.**  For every operation of the four services and
every concrete path of it: a welcome request is forwarded to the service exactly
when the operation is not one of the analytics service, its path is not the mount
point itself and has a line break at most at its end, the HTTP client takes the URL, and
the path arrives as it is. -/
theorem forwarded_iff (settings : Settings) (downstream : Unquote) (isProd : Bool)
    (admission : Admission) (requestId : String) (request : Request) (router : Router)
    (operation : PathOperation) (path : String) (params : List (String × String))
    (mounted : router ∈ routers) (declared : operation ∈ router.operations)
    (matched : matchPieces (router.template operation) path.toList = some params)
    (welcome : Welcome settings admission requestId request operation.method path) :
    Forwarded settings downstream isProd admission requestId request router.service
        operation.method path ↔
      router.service ≠ .analytics ∧ operation.text ≠ "" ∧ OneLine path ∧
        Sendable settings request router.service ∧
          ArrivesAs settings downstream request path.toList := by
  obtain ⟨remaining, spelled, whole⟩ := exists_of_matchTemplate matched
  constructor
  · exact of_forwarded mounted declared spelled whole welcome
  · rintro ⟨notAnalytics, texted, oneLine, sendable, arrives⟩
    exact forwarded_of_arrives mounted declared spelled oneLine welcome notAnalytics texted
      sendable arrives

/-! ## Alice asks for an endpoint -/

/-- Alice's request for a path. -/
def aliceAsks (method path : String) : Request where
  method := method
  path := path
  query := ""
  headers := Headers.receive [("Host", "mcpt.example"), ("Authorization", "Bearer alice")]
  body := []
  client := some "10.0.0.1"

/-- The headers it comes with. -/
def aliceHeaders : List (String × Json) :=
  [("authorization", .str "Bearer alice"), ("x-request-id", .str "1")]

/-- The headers the gateway adds to them. -/
def aliceIdentity : List (String × Json) :=
  [("X-User-Id", .str "alice-id"), ("X-User-Role", .str "2"),
    ("X-Internal-Service-Key", .str "shared-internal-key")]

theorem entries_clientHeaders (method path : String) :
    (clientHeaders "1" (aliceAsks method path)).entries = aliceHeaders := rfl

theorem entries_aliceAsks (method path : String) :
    (identityHeaders exampleSettings
      [("sub", .str "alice-id"), ("role_id", .int 2), ("type", .str "access")]
      (clientHeaders "1" (aliceAsks method path))).entries = aliceHeaders ++ aliceIdentity := rfl

theorem welcome_aliceAsks (method path : String) :
    Welcome exampleSettings openAdmission "1" (aliceAsks method path) method path where
  method := rfl
  path := rfl
  admitted := rfl
  unlocked := rfl
  ready := rfl
  plainHeaders := by
    rw [entries_clientHeaders]
    exact ⟨_, rfl⟩
  identified := by
    refine ⟨[("sub", .str "alice-id"), ("role_id", .int 2), ("type", .str "access")], rfl, ?_⟩
    rw [entries_aliceAsks]
    exact ⟨_, rfl⟩

theorem forwarded_statusSummary :
    Forwarded exampleSettings Unquote.latin true openAdmission "1"
      (aliceAsks "GET" "/api/v1/cameras/status-summary") .camera "GET"
      "/api/v1/cameras/status-summary" := by
  have split := @splitUrl_of_plain exampleSettings
    (aliceAsks "GET" "/api/v1/cameras/status-summary") _ _ rfl rfl rfl rfl (by decide +kernel)
    (by decide +kernel) (by decide +kernel)
  refine (forwarded_iff exampleSettings Unquote.latin true openAdmission "1"
    (aliceAsks "GET" "/api/v1/cameras/status-summary") camerasRouter
    ⟨"GET", "/status-summary", none⟩ "/api/v1/cameras/status-summary" []
    (by simp [routers]) (by decide +kernel) (by decide +kernel) (welcome_aliceAsks _ _)).mpr
    ⟨by decide, by decide, by unfold OneLine; decide +kernel, ⟨_, split, by decide +kernel⟩,
      Or.inl ⟨by decide +kernel, ?_, by decide +kernel, by decide +kernel⟩⟩
  have clear : "/api/v1/cameras/status-summary".toList.all (fun c => !delimits c) = true := by
    decide +kernel
  intro c member
  have free := List.all_eq_true.mp clear c member
  rwa [Bool.not_eq_true'] at free

/-- **Two endpoints out of reach**: the key `tracking` is not in the table of
services, so what lists the events is answered with 404, and no route takes the
collection of the cameras, which is redirected. -/
theorem endpoints_unreached :
    (∃ params, matchPieces (trackingRouter.template ⟨"GET", "/events", none⟩)
        "/api/v1/tracking/events".toList = some params) ∧
      Welcome exampleSettings openAdmission "1" (aliceAsks "GET" "/api/v1/tracking/events")
        "GET" "/api/v1/tracking/events" ∧
      ¬ Forwarded exampleSettings Unquote.latin true openAdmission "1"
        (aliceAsks "GET" "/api/v1/tracking/events") .analytics "GET" "/api/v1/tracking/events" ∧
      (∃ params, matchPieces (camerasRouter.template ⟨"GET", "", none⟩)
        "/api/v1/cameras".toList = some params) ∧
      Welcome exampleSettings openAdmission "1" (aliceAsks "GET" "/api/v1/cameras")
        "GET" "/api/v1/cameras" ∧
      ¬ Forwarded exampleSettings Unquote.latin true openAdmission "1"
        (aliceAsks "GET" "/api/v1/cameras") .camera "GET" "/api/v1/cameras" := by
  refine ⟨⟨[], by decide +kernel⟩, welcome_aliceAsks _ _, ?_, ⟨[], by decide +kernel⟩,
    welcome_aliceAsks _ _, ?_⟩
  · rintro ⟨key, rest, forwarded, url, dispatched, -, known, -⟩
    have taken : dispatch true "GET" "/api/v1/tracking/events" =
        some (.proxyRequest, [("service", "tracking"), ("path", "events")]) := by decide +kernel
    rw [taken] at dispatched
    cases dispatched
    cases known
  · rintro ⟨key, rest, forwarded, url, dispatched, -⟩
    have untaken : dispatch true "GET" "/api/v1/cameras" = none := by decide +kernel
    rw [untaken] at dispatched
    cases dispatched

end PersonTracking.Gateway
