import Mathlib.Data.List.TakeWhile
import PersonTracking.Gateway.Proxy

/-!
# The client behind a proxy

nginx passes a request on with the address it sees appended to `X-Forwarded-For`, and
`get_client_ip` takes the first entry of that header when the request comes from a
trusted proxy.  The first entry is the one the client wrote, if it wrote any.

`clientIp_eq_iff` says when two requests of one client count as one client's, and
`getClientIp_withForwardedFor` that a client can count as anybody.
-/

namespace PersonTracking.Gateway

open Python Shared

/-- No commas and no blanks. -/
def Plain (text : String) : Prop := ∀ c ∈ text.toList, c ≠ ',' ∧ isSpace c = false

instance (text : String) : Decidable (Plain text) :=
  List.decidableBAll (fun c => c ≠ ',' ∧ isSpace c = false) text.toList

/-- The text of a network address. -/
structure Address where
  text : String
  nonempty : text ≠ ""
  plain : Plain text

/-- A request as nginx receives it. -/
structure ClientRequest where
  remoteAddr : Address
  method : String
  path : String
  query : String
  headers : List (String × String)
  body : List UInt8

namespace ClientRequest

variable (request : ClientRequest)

/-- The values the client sends for `X-Forwarded-For`. -/
def forwardedFor : List String :=
  (request.headers.filter fun header => lower header.1 = "x-forwarded-for").map Prod.snd

/-- `$proxy_add_x_forwarded_for`: what the client sends, and its address. -/
def proxyAddXForwardedFor : String :=
  String.ofList ((request.forwardedFor.flatMap fun value => value.toList ++ [',', ' ']) ++
    request.remoteAddr.text.toList)

/-- `proxy_set_header`; the server listens for plain HTTP only. -/
def proxySetHeaders (host : String) : List (String × String) :=
  [("Host", host), ("X-Real-IP", request.remoteAddr.text),
    ("X-Forwarded-For", request.proxyAddXForwardedFor), ("X-Forwarded-Proto", "http")]

/-- The names of the headers above. -/
def replacedHeaders : List String := ["host", "x-real-ip", "x-forwarded-for", "x-forwarded-proto"]

/-- `location /api/v1/`: the request the gateway gets from nginx. -/
def proxyPass (proxy host : String) : Request where
  method := request.method
  path := request.path
  query := request.query
  headers := .receive (request.proxySetHeaders host ++
    request.headers.filter fun header => lower header.1 ∉ replacedHeaders)
  body := request.body
  client := some proxy

/-- The first entry of what the client sends, its own address if it sends none. -/
def firstEntry : String :=
  match request.forwardedFor with
  | [] => request.remoteAddr.text
  | value :: _ => firstHop value

/-- Two requests of one client that differ in what it sends for `X-Forwarded-For`. -/
structure SameButForwardedFor (request other : ClientRequest) : Prop where
  remoteAddr : request.remoteAddr = other.remoteAddr
  method : request.method = other.method
  path : request.path = other.path
  query : request.query = other.query
  headers : (request.headers.filter fun header => lower header.1 ≠ "x-forwarded-for") =
    other.headers.filter fun header => lower header.1 ≠ "x-forwarded-for"
  body : request.body = other.body

/-- The request with another header `X-Forwarded-For`. -/
def withForwardedFor (value : String) : ClientRequest :=
  { request with
    headers := ("X-Forwarded-For", value) ::
      request.headers.filter fun header => lower header.1 ≠ "x-forwarded-for" }

end ClientRequest

/-! ## What the gateway reads -/

section

variable {request : ClientRequest} {settings : Settings} {proxy : String}

theorem lower_forwardedFor : lower "X-Forwarded-For" = "x-forwarded-for" := by decide +kernel

theorem takeWhile_append_comma (front rest : List Char) :
    (front ++ ',' :: rest).takeWhile (fun c => c ≠ ',') = front.takeWhile fun c => c ≠ ',' := by
  induction front with
  | nil => rfl
  | cons c front ih =>
      rw [List.cons_append, List.takeWhile_cons, List.takeWhile_cons, ih]

/-- Text without commas and blanks is its own first entry. -/
theorem firstHop_of_plain {text : String} (plain : Plain text) : firstHop text = text := by
  have whole : text.toList.takeWhile (fun c => c ≠ ',') = text.toList :=
    List.takeWhile_eq_self_iff.mpr fun c member => decide_eq_true (plain c member).1
  have visible : ∀ c ∈ text.toList, isSpace c = false := fun c member => (plain c member).2
  rw [firstHop, whole, strip, stripBy_of_kept visible, String.ofList_toList]

/-- **The first entry is the client's.** -/
theorem firstHop_proxyAdd (request : ClientRequest) :
    firstHop request.proxyAddXForwardedFor = request.firstEntry := by
  unfold ClientRequest.proxyAddXForwardedFor ClientRequest.firstEntry
  cases request.forwardedFor with
  | nil =>
      rw [List.flatMap_nil, List.nil_append, String.ofList_toList]
      exact firstHop_of_plain request.remoteAddr.plain
  | cons value rest =>
      rw [List.flatMap_cons, firstHop, String.toList_ofList, List.append_assoc, List.append_assoc]
      show String.ofList (strip ((value.toList ++ ',' :: _).takeWhile _)) = _
      rw [takeWhile_append_comma]
      rfl

theorem param_proxyPass (request : ClientRequest) (proxy host : String) :
    (request.proxyPass proxy host).headers.param "X-Forwarded-For" =
      request.proxyAddXForwardedFor := by
  have host : lower "Host" ≠ "x-forwarded-for" := by decide +kernel
  have realIp : lower "X-Real-IP" ≠ "x-forwarded-for" := by decide +kernel
  simp [ClientRequest.proxyPass, ClientRequest.proxySetHeaders, Headers.receive, Headers.param,
    Headers.get?, lower_forwardedFor, host, realIp]

/-- **The client of a request from a trusted proxy** is the first entry the client
wrote, or the proxy where that is blank. -/
theorem getClientIp_proxyPass (trusted : proxy ∈ settings.trustedProxyIps)
    (request : ClientRequest) (host : String) :
    getClientIp settings (request.proxyPass proxy host) =
      if request.firstEntry ≠ "" then request.firstEntry else proxy := by
  have direct : (request.proxyPass proxy host).client.getD "unknown" = proxy := rfl
  simp only [getClientIp, direct, param_proxyPass, firstHop_proxyAdd, if_pos trusted]

/-! ## Two requests of one client -/

namespace ClientRequest

theorem forwardedFor_withForwardedFor (request : ClientRequest) (value : String) :
    (request.withForwardedFor value).forwardedFor = [value] := by
  have others : (request.headers.filter fun header => lower header.1 ≠ "x-forwarded-for").filter
      (fun header => lower header.1 = "x-forwarded-for") = [] := by
    rw [List.filter_filter, List.filter_eq_nil_iff]
    intro header _
    simp
  rw [forwardedFor, withForwardedFor, List.filter_cons, if_pos (decide_eq_true lower_forwardedFor),
    others]
  rfl

theorem sameButForwardedFor_with (request : ClientRequest) (value : String) :
    SameButForwardedFor request (request.withForwardedFor value) where
  remoteAddr := rfl
  method := rfl
  path := rfl
  query := rfl
  headers := by simp [withForwardedFor, lower_forwardedFor, List.filter_filter]
  body := rfl

/-- The first entries are the same, where a blank one is as good as the proxy's address. -/
def SameFirstEntry (proxy : String) (request other : ClientRequest) : Prop :=
  request.firstEntry = other.firstEntry ∨
    (request.firstEntry = "" ∧ other.firstEntry = proxy) ∨
      (request.firstEntry = proxy ∧ other.firstEntry = "")

end ClientRequest

open ClientRequest

/-- **A client can count as anybody**: it is taken for whom it names. -/
theorem getClientIp_withForwardedFor (trusted : proxy ∈ settings.trustedProxyIps)
    (request : ClientRequest) (host : String) (name : Address) :
    getClientIp settings ((request.withForwardedFor name.text).proxyPass proxy host) =
      name.text := by
  have entry : (request.withForwardedFor name.text).firstEntry = name.text := by
    rw [firstEntry, forwardedFor_withForwardedFor]
    exact firstHop_of_plain name.plain
  rw [getClientIp_proxyPass trusted, entry, if_pos name.nonempty]

end

/-! ## A client that says who it is -/

open ClientRequest

theorem loopback_isAddress : "127.0.0.1" ≠ "" ∧ Plain "127.0.0.1" := by decide +kernel

theorem otherLoopback_isAddress : "127.0.0.2" ≠ "" ∧ Plain "127.0.0.2" := by decide +kernel

theorem remoteAddr_isAddress : "203.0.113.7" ≠ "" ∧ Plain "203.0.113.7" := by decide +kernel

/-- The address `127.0.0.1`. -/
def Address.loopback : Address := ⟨"127.0.0.1", loopback_isAddress.1, loopback_isAddress.2⟩

/-- The address `127.0.0.2`. -/
def Address.otherLoopback : Address :=
  ⟨"127.0.0.2", otherLoopback_isAddress.1, otherLoopback_isAddress.2⟩

/-- **What the client writes decides**: two requests of one client that differ only in the
`X-Forwarded-For` it sends count as one client's if and only if the first entries are the
same; and for every request there is another one that counts as another client's. -/
theorem clientIp_eq_iff (settings : Settings) (proxy host : String)
    (trusted : proxy ∈ settings.trustedProxyIps) (request : ClientRequest) :
    (∀ other, SameButForwardedFor request other →
      (getClientIp settings (request.proxyPass proxy host) =
          getClientIp settings (other.proxyPass proxy host) ↔
        SameFirstEntry proxy request other)) ∧
      ∃ other, SameButForwardedFor request other ∧
        getClientIp settings (request.proxyPass proxy host) ≠
          getClientIp settings (other.proxyPass proxy host) := by
  constructor
  · intro other _
    rw [getClientIp_proxyPass trusted, getClientIp_proxyPass trusted, SameFirstEntry]
    by_cases blank : request.firstEntry = ""
    · by_cases blank' : other.firstEntry = ""
      · simp [blank, blank']
      · simp [blank, blank', Ne.symm blank', eq_comm]
    · by_cases blank' : other.firstEntry = ""
      · simp [blank, blank']
      · simp [blank, blank']
  · by_cases first : getClientIp settings (request.proxyPass proxy host) = Address.loopback.text
    · refine ⟨_, sameButForwardedFor_with request Address.otherLoopback.text, ?_⟩
      rw [getClientIp_withForwardedFor trusted, first]
      decide +kernel
    · refine ⟨_, sameButForwardedFor_with request Address.loopback.text, ?_⟩
      rw [getClientIp_withForwardedFor trusted]
      exact first

/-- A gateway that trusts nginx. -/
def behindNginx : Settings := { exampleSettings with trustedProxyIps := ["172.18.0.5"] }

/-- A login from `203.0.113.7` that sends no `X-Forwarded-For`. -/
def plainLogin : ClientRequest where
  remoteAddr := ⟨"203.0.113.7", remoteAddr_isAddress.1, remoteAddr_isAddress.2⟩
  method := "POST"
  path := "/api/v1/auth/login"
  query := ""
  headers := []
  body := []

theorem clientIp_eq_iff_plainLogin :
    (∀ other, SameButForwardedFor plainLogin other →
      (getClientIp behindNginx (plainLogin.proxyPass "172.18.0.5" "localhost") =
          getClientIp behindNginx (other.proxyPass "172.18.0.5" "localhost") ↔
        SameFirstEntry "172.18.0.5" plainLogin other)) ∧
      ∃ other, SameButForwardedFor plainLogin other ∧
        getClientIp behindNginx (plainLogin.proxyPass "172.18.0.5" "localhost") ≠
          getClientIp behindNginx (other.proxyPass "172.18.0.5" "localhost") :=
  clientIp_eq_iff behindNginx "172.18.0.5" "localhost" List.mem_cons_self plainLogin

/-- **Two clients in one**: the same client, once with `X-Forwarded-For: 127.0.0.1`. -/
theorem counted_as_two :
    "172.18.0.5" ∈ behindNginx.trustedProxyIps ∧
    SameButForwardedFor plainLogin (plainLogin.withForwardedFor "127.0.0.1") ∧
      getClientIp behindNginx (plainLogin.proxyPass "172.18.0.5" "localhost") = "203.0.113.7" ∧
      getClientIp behindNginx
        ((plainLogin.withForwardedFor "127.0.0.1").proxyPass "172.18.0.5" "localhost") =
          "127.0.0.1" := by
  have trusted : "172.18.0.5" ∈ behindNginx.trustedProxyIps := List.mem_cons_self
  refine ⟨trusted, sameButForwardedFor_with plainLogin "127.0.0.1", ?_, ?_⟩
  · rw [getClientIp_proxyPass trusted]
    exact if_pos plainLogin.remoteAddr.nonempty
  · exact getClientIp_withForwardedFor trusted plainLogin "localhost" Address.loopback

end PersonTracking.Gateway
