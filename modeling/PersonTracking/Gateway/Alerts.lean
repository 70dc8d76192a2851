import Mathlib.Data.List.Infix
import PersonTracking.Gateway.Routing
import PersonTracking.Python.Digits

/-!
# Alerts at the gateway

`publishAlert` checks the internal key and broadcasts `{event_type, data}` to
the open WebSocket connections; `handle` is the whole application around it:
the payload limit in front, the route table, the proxy.  The middlewares that
only decorate a response (CORS, security headers, request id) change neither
the status nor the dispatch and are left out.
-/

namespace PersonTracking.Gateway

open Library Python Shared

/-! ## Payload limit -/

/-- The largest declared body of a route: 250 MiB for video uploads, 2 MiB elsewhere. -/
def maxPayload (path : List Char) : Int :=
  if "upload-video".toList <:+: path ∨ "test-video".toList <:+: path then
    250 * 1024 * 1024
  else 2 * 1024 * 1024

/-- `limit_request_payload_size`.  The exception is raised outside the routes,
where no handler turns it into its own status. -/
def limitRequestPayloadSize (settings : Settings) (request : Request) : Except Failure Unit :=
  match request.headers.get? "Content-Length" with
  | none | some "" => .ok ()
  | some declared =>
      match parseInt 10 declared.toList, request.splitUrl settings with
      | some length, some url =>
          if maxPayload url.path < length then .error (.unhandled .httpError) else .ok ()
      | _, _ => .ok ()

/-! ## WebSocket connections -/

/-- `ConnectionManager`: the open connections, in order of their arrival. -/
structure ConnectionManager where
  activeConnections : List ℕ

/-- `disconnect`: forget a connection once. -/
def ConnectionManager.disconnect (manager : ConnectionManager) (connection : ℕ) :
    ConnectionManager where
  activeConnections := manager.activeConnections.erase connection

/-- `broadcast` without other tasks in between: send to every open connection,
then drop the ones whose send raised.  The messages delivered come with it. -/
def ConnectionManager.broadcast (manager : ConnectionManager) (sendSucceeds : ℕ → Bool)
    (message : Json) : ConnectionManager × List (ℕ × Json) :=
  let stale := manager.activeConnections.filter fun connection => !sendSucceeds connection
  (stale.foldl ConnectionManager.disconnect manager,
    (manager.activeConnections.filter sendSucceeds).map fun connection => (connection, message))

/-! ## Publishing -/

/-- `AlertPublishRequest`: a string and an object. -/
structure AlertPublishRequest where
  alertType : String
  message : List (String × Json)

/-- Validate a JSON body as an `AlertPublishRequest`. -/
def AlertPublishRequest.ofJson (body : Json) : Option AlertPublishRequest :=
  match body.get? "alert_type", body.get? "message" with
  | some (.str alertType), some (.obj message) => some { alertType, message }
  | _, _ => none

/-- The content types whose body is read as JSON. -/
def isJsonContentType (contentType : Option String) : Bool :=
  match contentType with
  | none => true
  | some value =>
      let mediaType := strip ((lower value).toList.takeWhile fun c => c ≠ ';')
      mediaType = "application/json".toList ||
        ("application/".toList.isPrefixOf mediaType && "+json".toList.isSuffixOf mediaType)

/-- The message every dashboard gets for an alert. -/
def eventMessage (payload : AlertPublishRequest) : Json :=
  .obj [("event_type", .str payload.alertType), ("data", .obj payload.message)]

/-- `publish_alert`, after the body has been validated. -/
def publishAlert (settings : Settings) (sendSucceeds : ℕ → Bool) (manager : ConnectionManager)
    (request : Request) (payload : AlertPublishRequest) :
    Except Failure (ConnectionManager × List (ℕ × Json)) :=
  if request.headers.get? "X-Internal-Service-Key" = some settings.internalServiceKey then
    .ok (manager.broadcast sendSucceeds (eventMessage payload))
  else
    raise 403
      "Internal service authentication failed. Invalid or missing X-Internal-Service-Key."

/-! ## The application -/

/-- A running gateway with everything it reads: its configuration, the
limiters, how JSON bodies are read, which sends succeed and what the downstream
services answer (`none` for a request error). -/
structure Deployment where
  settings : Settings
  isProd : Bool
  admission : Admission
  loads : List UInt8 → Option Json
  sendSucceeds : ℕ → Bool
  upstream : ForwardedRequest → Option ℕ

/-- What became of a request: the handler it was dispatched to, the status of
the response, the connections left open and the messages delivered to them. -/
structure Outcome where
  endpoint : Option Endpoint
  status : ℕ
  manager : ConnectionManager
  deliveries : List (ℕ × Json)

/-- An outcome that touches no connection. -/
def Outcome.plain (endpoint : Option Endpoint) (status : ℕ) (manager : ConnectionManager) :
    Outcome :=
  { endpoint, status, manager, deliveries := [] }

/-- `POST /api/v1/alerts/publish` once it is dispatched. -/
def Deployment.handlePublish (gateway : Deployment) (manager : ConnectionManager)
    (request : Request) : Outcome :=
  let body :=
    if isJsonContentType (request.headers.get? "Content-Type") then gateway.loads request.body
    else none
  match body.bind AlertPublishRequest.ofJson with
  | none => Outcome.plain (some .publishAlert) 422 manager
  | some payload =>
      match publishAlert gateway.settings gateway.sendSucceeds manager request payload with
      | .error failure => Outcome.plain (some .publishAlert) failure.statusCode manager
      | .ok (left, deliveries) =>
          { endpoint := some .publishAlert, status := 200, manager := left, deliveries }

/-- A request for the reverse proxy. -/
def Deployment.handleProxied (gateway : Deployment) (manager : ConnectionManager)
    (requestId : String) (request : Request) (service path : String) : Outcome :=
  match proxyRequest gateway.settings gateway.admission requestId request service path with
  | .error failure => Outcome.plain (some .proxyRequest) failure.statusCode manager
  | .ok forwarded =>
      Outcome.plain (some .proxyRequest) ((gateway.upstream forwarded).getD 502) manager

/-- The gateway application. -/
def Deployment.handle (gateway : Deployment) (manager : ConnectionManager) (requestId : String)
    (request : Request) : Outcome :=
  match limitRequestPayloadSize gateway.settings request with
  | .error failure => Outcome.plain none failure.statusCode manager
  | .ok () =>
      match dispatch gateway.isProd request.method request.path with
      | none => Outcome.plain none (unroutedStatus gateway.isProd request.path) manager
      | some (.proxyRequest, parameters) =>
          gateway.handleProxied manager requestId request
            ((parameters.lookup "service").getD "") ((parameters.lookup "path").getD "")
      | some (.publishAlert, _) => gateway.handlePublish manager request
      | some (endpoint, _) => Outcome.plain (some endpoint) 200 manager

/-! ## Where a published alert ends up -/

/-- **A published alert is proxied, and no service takes it.**  A POST to
`/api/v1/alerts/publish` reaches the proxy, which knows no service `alerts`:
404, or 500 when its declared length is over the limit. -/
theorem handle_publish (gateway : Deployment) (manager : ConnectionManager) (requestId : String)
    {request : Request} (posted : request.method = "POST")
    (publish : request.path = "/api/v1/alerts/publish") :
    gateway.handle manager requestId request = Outcome.plain none 500 manager ∨
      gateway.handle manager requestId request =
        Outcome.plain (some .proxyRequest) 404 manager := by
  have proxied := @dispatch_proxied gateway.isProd request.method request.path
    "alerts".toList "publish".toList [] (by rw [posted]; decide) (by decide) (by decide)
    (by decide) (Or.inl rfl) (by rw [publish]; rfl)
  have unknown : gateway.settings.serviceMapping.lookup "alerts" = none := rfl
  cases limited : limitRequestPayloadSize gateway.settings request with
  | error failure =>
      have status : failure.statusCode = 500 := by
        unfold limitRequestPayloadSize at limited
        split at limited
        · cases limited
        · cases limited
        split at limited
        · split at limited
          · cases limited
            rfl
          · cases limited
        · cases limited
      refine Or.inl ?_
      rw [Deployment.handle, limited]
      exact congrArg (fun code => Outcome.plain none code manager) status
  | ok _ =>
      refine Or.inr ?_
      simp only [Deployment.handle, limited, proxied]
      show gateway.handleProxied manager requestId request "alerts" "publish" = _
      rw [Deployment.handleProxied, proxyRequest, unknown]
      rfl

end PersonTracking.Gateway
