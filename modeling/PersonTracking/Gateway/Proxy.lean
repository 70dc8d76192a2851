import PersonTracking.Python.Netloc
import PersonTracking.Shared.Security

/-!
# The gateway's reverse proxy

`proxyRequest` is the handler behind `/api/v1/{service}/{path:path}` up to the
call of the downstream service: it recognises the service, admits or refuses
the client, verifies the bearer token on non-public routes and assembles the
request that is sent on.  Its URL is that of the received request, which is put
together from the `Host` header and the decoded path and split again
(`Request.splitUrl`).

The decisions of the rate limiter and of the login lockout are arguments
(`Admission`), and so is the JWT library (`Settings.jwtDecode`).
-/

namespace PersonTracking.Gateway

open Library Python Shared

/-- Longest accepted Authorization header. -/
def maxAuthorizationHeaderLength : ℕ := 8192

/-- Longest accepted token. -/
def maxJwtTokenLength : ℕ := 4096

/-- What `jwt.decode` raises. -/
inductive JwtError
  | expiredSignature
  | invalidToken
deriving DecidableEq, Repr

/-- The gateway's configuration.  `serverAddress` is the address it listens on, and
`urlLib` what is left open of `urlsplit`.  `jwtDecode` is `jwt.decode` with the secret
key and algorithm of the settings; it returns the fields of the payload. -/
structure Settings where
  serverAddress : String
  urlLib : UrlLib
  authServiceUrl : String
  cameraServiceUrl : String
  searchServiceUrl : String
  analyticsServiceUrl : String
  internalServiceKey : String
  trustedProxyIps : List String
  jwtDecode : String → Except JwtError (List (String × Json))

/-- `SERVICE_MAPPING`. -/
def Settings.serviceMapping (settings : Settings) : List (String × String) :=
  [("auth", settings.authServiceUrl), ("cameras", settings.cameraServiceUrl),
    ("search", settings.searchServiceUrl), ("analytics", settings.analyticsServiceUrl)]

/-- A request as the gateway receives it, its path decoded. -/
structure Request where
  method : String
  path : String
  query : String
  headers : Headers
  body : List UInt8
  client : Option String

/-- A request as the gateway sends it on. -/
structure ForwardedRequest where
  method : String
  url : String
  headers : List (String × String)
  body : List UInt8

/-- The text that stands for the host in the URL of a request. -/
def Request.hostText (settings : Settings) (request : Request) : List Char :=
  ((request.headers.get? "Host").getD settings.serverAddress).toList

/-- `str(request.url)`. -/
def Request.url (settings : Settings) (request : Request) : List Char :=
  "http://".toList ++ (request.hostText settings ++ (request.path.toList ++
    if request.query = "" then [] else '?' :: request.query.toList))

/-- `request.url`, split into its components; `none` is the `ValueError`. -/
def Request.splitUrl (settings : Settings) (request : Request) : Option SplitResult :=
  urlsplit settings.urlLib (request.url settings)

/-- The URL a request is sent on to, behind the base of a service. -/
def targetUrl (targetBaseUrl : String) (url : SplitResult) : String :=
  let target := targetBaseUrl ++ String.ofList url.path
  if url.query ≠ [] then target ++ "?" ++ String.ofList url.query else target

/-- Longest URL the HTTP client takes. -/
def maxUrlLength : ℕ := 65536

/-- The URLs the HTTP client takes: not too long, and without ASCII control characters. -/
def isSendableUrl (url : String) : Bool :=
  url.toList.length ≤ maxUrlLength &&
    url.toList.all fun c => !(c.toNat < 32 || c.toNat = 127)

/-- What the limiters decide about a client, and whether the HTTP client is up. -/
structure Admission where
  checkRateLimit : String → Bool
  lockedOut : String → Bool
  clientReady : Bool

/-- The text before the first comma. -/
def firstHop (forwardedFor : String) : String :=
  String.ofList (strip (forwardedFor.toList.takeWhile fun c => c ≠ ','))

/-- `get_client_ip`. -/
def getClientIp (settings : Settings) (request : Request) : String :=
  let directIp := request.client.getD "unknown"
  if directIp ∈ settings.trustedProxyIps then
    let hop := firstHop (request.headers.param "X-Forwarded-For")
    if hop ≠ "" then hop else directIp
  else directIp

/-- An HTTP error raised by a handler. -/
def raise {α : Type} (statusCode : ℕ) (detail : String)
    (headers : List (String × String) := []) : Except Failure α :=
  .error (.http { statusCode, detail, headers })

/-- The checks `verify_token` makes on the payload of a token. -/
def checkPayload (payload : List (String × Json)) : Except Failure (List (String × Json)) :=
  let claim (name : String) : Json := ((Json.obj payload).get? name).getD .null
  match claim "type" with
  | .str "access" =>
      if (claim "sub").truthy then
        match readRole (claim "role_id") with
        | .ok _ => .ok payload
        | .error .typeError | .error .valueError =>
            raise 403 "Authorization token contains an invalid role"
        | .error error => .error (.unhandled error)
      else raise 401 "Authorization token is missing a subject"
  | _ => raise 401 "Invalid token type: Access token expected"

/-- `verify_token`. -/
def verifyToken (settings : Settings) (authorizationHeader : Option String) :
    Except Failure (List (String × Json)) :=
  match authorizationHeader with
  | none | some "" => raise 401 "Missing authorization credentials"
  | some header =>
      if maxAuthorizationHeaderLength < header.toList.length then
        raise 431 "Authorization header is too large"
      else
        match split header with
        | [scheme, token] =>
            if lower scheme ≠ "bearer" then
              raise 401 "Invalid authorization schema. Use 'Bearer <token>'"
            else if maxJwtTokenLength < token.toList.length then
              raise 401 "Authorization token is too large"
            else
              match settings.jwtDecode token with
              | .ok payload => checkPayload payload
              | .error .expiredSignature => raise 401 "Authorization credentials have expired"
              | .error .invalidToken => raise 401 "Invalid authorization token"
        | _ => raise 401 "Invalid authorization schema. Use 'Bearer <token>'"

/-- The routes that need no token. -/
def isPublic (service path : String) : Bool :=
  service = "auth" && ["login", "register", "verify", "refresh"].contains path

/-- The client's headers without `host`, with a correlation id. -/
def clientHeaders (requestId : String) (request : Request) : OrderedDict String Json :=
  let headers := request.headers.toDict.pop "host"
  if "x-request-id" ∈ headers.keys then headers else headers.set "x-request-id" (.str requestId)

/-- The identity headers the gateway adds to them. -/
def identityHeaders (settings : Settings) (payload : List (String × Json))
    (headers : OrderedDict String Json) : OrderedDict String Json :=
  let sub := ((Json.obj payload).get? "sub").getD (.str "")
  let role := ((Json.obj payload).get? "role_id").getD (.str "")
  -- a verified payload has a scalar role, whose text `str` is
  ((headers.set "X-User-Id" sub).set "X-User-Role" (.str (role.scalarText.getD ""))).set
    "X-Internal-Service-Key" (.str settings.internalServiceKey)

/-- The headers a request is sent on with: on a public route the client's own, elsewhere
with the identity of a token that is verified. -/
def proxiedHeaders (settings : Settings) (requestId : String) (request : Request)
    (service path : String) : Except Failure (OrderedDict String Json) :=
  if isPublic service path then .ok (clientHeaders requestId request)
  else do
    let payload ← verifyToken settings (request.headers.get? "Authorization")
    .ok (identityHeaders settings payload (clientHeaders requestId request))

/-- `proxy_request`, up to the request it sends to the downstream service. -/
def proxyRequest (settings : Settings) (admission : Admission) (requestId : String)
    (request : Request) (service path : String) : Except Failure ForwardedRequest := do
  match settings.serviceMapping.lookup service with
  | none =>
      raise 404 s!"Downstream service '{service}' not registered in Gateway configurations."
  | some targetBaseUrl =>
      let clientIp := getClientIp settings request
      if !admission.checkRateLimit clientIp then
        raise 429 "Rate limit threshold exceeded. Too many requests. Please try again later."
          [("Retry-After", "60")]
      if service = "auth" ∧ path = "login" ∧ admission.lockedOut clientIp then
        raise 423 ("Too many failed login attempts. Your IP has been temporarily locked. " ++
          "Try again in 15 minutes.") [("Retry-After", "900")]
      let headers ← proxiedHeaders settings requestId request service path
      match request.splitUrl settings with
      | none => .error (.unhandled .valueError)
      | some parts =>
          let url := targetUrl targetBaseUrl parts
          if !admission.clientReady then
            raise 503 "Gateway HTTP client is not initialized."
          if !isSendableUrl url then
            .error (.unhandled .invalidUrl)
          match sentHeaders headers.entries with
          | .ok wire =>
              .ok { method := request.method, url, headers := wire, body := request.body }
          | .error error => .error (.unhandled error)

/-- **What is sent on**, and when: the service is known, the limiters let the client in, a
token is verified where one is needed, and the URL and the headers can be sent. -/
theorem proxyRequest_eq_ok_iff {settings : Settings} {admission : Admission} {requestId : String}
    {request : Request} {service path : String} {forwarded : ForwardedRequest} :
    proxyRequest settings admission requestId request service path = .ok forwarded ↔
      ∃ base headers url wire,
        settings.serviceMapping.lookup service = some base ∧
        admission.checkRateLimit (getClientIp settings request) = true ∧
        ¬ (service = "auth" ∧ path = "login" ∧
          admission.lockedOut (getClientIp settings request) = true) ∧
        proxiedHeaders settings requestId request service path = .ok headers ∧
        request.splitUrl settings = some url ∧
        admission.clientReady = true ∧
        isSendableUrl (targetUrl base url) = true ∧
        sentHeaders headers.entries = .ok wire ∧
        forwarded = { method := request.method, url := targetUrl base url, headers := wire,
                      body := request.body } := by
  unfold proxyRequest
  constructor
  · intro sent
    split at sent
    · cases sent
    rename_i base known
    simp only [bind, Except.bind, raise] at sent
    -- the checks in their order; each one that fails raises
    split at sent
    · cases sent
    rename_i admitted
    split at sent
    · cases sent
    rename_i unlocked
    split at sent
    · cases sent
    rename_i headers prepared
    split at sent
    · cases sent
    rename_i url split
    split at sent
    · cases sent
    rename_i ready
    split at sent
    · cases sent
    rename_i sendable
    split at sent
    · rename_i wire written
      cases sent
      exact ⟨base, headers, url, wire, known, by simpa using admitted, unlocked, prepared, split,
        by simpa using ready, by simpa using sendable, written, rfl⟩
    · cases sent
  · rintro ⟨base, headers, url, wire, known, admitted, unlocked, prepared, split, ready, sendable,
      written, rfl⟩
    rw [known]
    simp only [admitted, unlocked, prepared, split, ready, sendable, written, bind, Except.bind,
      Bool.not_true, Bool.false_eq_true, if_false]

/-- A request for a service is sent on with the path and the query of this URL. -/
def SentTo (settings : Settings) (request : Request) (service : String) (url : SplitResult) :
    Prop :=
  request.splitUrl settings = some url ∧
    ∃ base, settings.serviceMapping.lookup service = some base ∧
      isSendableUrl (targetUrl base url) = true

/-! ## A deployment for examples -/

/-- A gateway whose one valid token is Alice's, an operator. -/
def exampleSettings : Settings where
  serverAddress := "127.0.0.1:8000"
  urlLib := .ascii
  authServiceUrl := "http://localhost:8004"
  cameraServiceUrl := "http://localhost:8002"
  searchServiceUrl := "http://localhost:8003"
  analyticsServiceUrl := "http://localhost:8001"
  internalServiceKey := "shared-internal-key"
  trustedProxyIps := []
  jwtDecode token :=
    if token = "alice" then
      .ok [("sub", .str "alice-id"), ("role_id", .int 2), ("type", .str "access")]
    else .error .invalidToken

/-- Limiters that let everybody in. -/
def openAdmission : Admission where
  checkRateLimit _ := true
  lockedOut _ := false
  clientReady := true

end PersonTracking.Gateway
