import Mathlib.Data.List.TakeWhile
import PersonTracking.Gateway.Proxy

/-!
# The gateway's route table

Routes are tried in the order they were registered, and the first one whose
path pattern and method both match takes the request.  Patterns are the
compiled templates of the framework: literal text, a path segment
(`{service}`, one or more characters other than `/`) and a rest
(`{path:path}`, any characters within a line), anchored at both ends and
matched by backtracking, longest first.

`dispatch_proxied` says what the order of registration means here: the proxy's
template is registered first, so it takes every path of two or more segments
below `/api/v1`, whatever is registered behind it.
-/

namespace PersonTracking.Gateway

open Library Python Shared

/-- A piece of a path template. -/
inductive Piece
  | text (literal : String)
  | segment (name : String)
  | rest (name : String)
deriving DecidableEq, Repr

/-- Try `next` on what is left after each prefix of the first `longest`
characters, the longest first; prefixes shorter than `shortest` do not count. -/
def matchRun (shortest longest : ℕ) (name : String) (chars : List Char)
    (next : List Char → Option (List (String × String))) : Option (List (String × String)) :=
  (List.range (longest + 1)).reverse.findSome? fun n =>
    if shortest ≤ n then
      (next (chars.drop n)).map fun found => (name, String.ofList (chars.take n)) :: found
    else none

/-- Match a template against a path; the result are the path parameters.  As
in the regular expression, the end anchor admits one trailing newline. -/
def matchPieces : List Piece → List Char → Option (List (String × String))
  | [], chars => if chars = [] ∨ chars = ['\n'] then some [] else none
  | .text literal :: pieces, chars =>
      if literal.toList.isPrefixOf chars then matchPieces pieces (chars.drop literal.toList.length)
      else none
  | .segment name :: pieces, chars =>
      matchRun 1 (chars.takeWhile fun c => c ≠ '/').length name chars (matchPieces pieces)
  | .rest name :: pieces, chars =>
      matchRun 0 (chars.takeWhile fun c => c ≠ '\n').length name chars (matchPieces pieces)

/-- The handlers of the gateway. -/
inductive Endpoint
  | docs
  | proxyRequest
  | publishAlert
  | healthCheck
deriving DecidableEq, Repr

/-- A registered route. -/
structure Route where
  methods : List String
  template : List Piece
  endpoint : Endpoint

/-- `/api/v1/{service}/{path:path}`. -/
def proxyTemplate : List Piece :=
  [.text "/api/v1/", .segment "service", .text "/", .rest "path"]

/-- The route of the reverse proxy. -/
def proxyRoute : Route where
  methods := ["GET", "POST", "PUT", "DELETE", "PATCH"]
  template := proxyTemplate
  endpoint := .proxyRequest

/-- The routes of the application in order of registration.  The documentation
pages come with the application object; in production only the schema does. -/
def routes (isProd : Bool) : List Route :=
  let pages := if isProd then [] else ["/docs", "/docs/oauth2-redirect", "/redoc"]
  (("/openapi.json" :: pages).map fun page =>
      { methods := ["GET", "HEAD"], template := [.text page], endpoint := .docs }) ++
    [proxyRoute,
     { methods := ["POST"], template := [.text "/api/v1/alerts/publish"],
       endpoint := .publishAlert },
     { methods := ["GET"], template := [.text "/health"], endpoint := .healthCheck }]

/-- A route's answer to a request: its endpoint with the path parameters. -/
def Route.full (route : Route) (method path : String) :
    Option (Endpoint × List (String × String)) :=
  if method ∈ route.methods then
    (matchPieces route.template path.toList).map fun found => (route.endpoint, found)
  else none

/-- The first route whose template and method both match. -/
def dispatch (isProd : Bool) (method path : String) :
    Option (Endpoint × List (String × String)) :=
  (routes isProd).findSome? fun route => route.full method path

/-- The status of a request no route takes: 405 where some template matches, 404 elsewhere. -/
def unroutedStatus (isProd : Bool) (path : String) : ℕ :=
  if (routes isProd).any fun route => (matchPieces route.template path.toList).isSome then 405
  else 404

/-! ## What the proxy's template takes -/

/-- The longest prefix is the one taken when it leads to a match. -/
theorem matchRun_longest {shortest longest : ℕ} {name : String} {chars : List Char}
    {next : List Char → Option (List (String × String))} {found : List (String × String)}
    (enough : shortest ≤ longest) (matched : next (chars.drop longest) = some found) :
    matchRun shortest longest name chars next =
      some ((name, String.ofList (chars.take longest)) :: found) := by
  rw [matchRun, List.range_succ, List.reverse_append, List.reverse_singleton,
    List.singleton_append, List.findSome?_cons, if_pos enough, matched, Option.map_some]

/-- What the template leaves over is nothing or one newline (`$`). -/
def Ended (tail : List Char) : Prop := tail = [] ∨ tail = ['\n']

/-- The proxy's template reads `/api/v1/⟨service⟩/⟨rest⟩`, up to a newline at the end. -/
theorem matchPieces_proxyTemplate {service rest tail : List Char} (named : service ≠ [])
    (oneSegment : '/' ∉ service) (oneLine : '\n' ∉ rest) (ended : Ended tail) :
    matchPieces proxyTemplate ("/api/v1/".toList ++ (service ++ '/' :: (rest ++ tail))) =
      some [("service", String.ofList service), ("path", String.ofList rest)] := by
  have segmentEnds : ((service ++ '/' :: (rest ++ tail)).takeWhile fun c => c ≠ '/') = service := by
    rw [List.takeWhile_append_of_pos
      fun c member => decide_eq_true (ne_of_mem_of_not_mem member oneSegment)]
    simp
  have restEnds : ((rest ++ tail).takeWhile fun c => c ≠ '\n') = rest := by
    rw [List.takeWhile_append_of_pos
      fun c member => decide_eq_true (ne_of_mem_of_not_mem member oneLine)]
    rcases ended with rfl | rfl
    · simp
    · simp
  have matchedRest : matchPieces [.text "/", .rest "path"] ('/' :: (rest ++ tail)) =
      some [("path", String.ofList rest)] := by
    show matchRun 0 ((rest ++ tail).takeWhile fun c => c ≠ '\n').length "path" (rest ++ tail)
      (matchPieces []) = _
    have finished : matchPieces [] ((rest ++ tail).drop rest.length) = some [] := by
      rw [List.drop_left, matchPieces]
      exact if_pos ended
    rw [restEnds, matchRun_longest (Nat.zero_le _) finished, List.take_left]
  show matchRun 1 ((service ++ '/' :: (rest ++ tail)).takeWhile fun c => c ≠ '/').length "service"
    (service ++ '/' :: (rest ++ tail)) (matchPieces [.text "/", .rest "path"]) = _
  rw [segmentEnds, matchRun_longest (List.length_pos_of_ne_nil named)
    (by rw [List.drop_left]; exact matchedRest), List.take_left]

/-- **The proxy shadows what is registered behind it.**  A request with one of
its methods for a path of two or more segments below `/api/v1` goes to the
proxy. -/
theorem dispatch_proxied (isProd : Bool) {method path : String} {service rest tail : List Char}
    (proxied : method ∈ proxyRoute.methods) (named : service ≠ [])
    (oneSegment : '/' ∉ service) (oneLine : '\n' ∉ rest) (ended : Ended tail)
    (spelled : path.toList = "/api/v1/".toList ++ (service ++ '/' :: (rest ++ tail))) :
    dispatch isProd method path =
      some (.proxyRequest, [("service", String.ofList service), ("path", String.ofList rest)]) := by
  have noPage : ∀ page ∈ ["/openapi.json", "/docs", "/docs/oauth2-redirect", "/redoc"],
      matchPieces [.text page] path.toList = none := by
    rw [spelled]
    intro page member
    rcases (by simpa using member : page = "/openapi.json" ∨ page = "/docs" ∨
      page = "/docs/oauth2-redirect" ∨ page = "/redoc") with rfl | rfl | rfl | rfl
    all_goals rfl
  have taken := matchPieces_proxyTemplate named oneSegment oneLine ended
  rw [← spelled] at taken
  have proxies : proxyRoute.full method path =
      some (.proxyRequest, [("service", String.ofList service), ("path", String.ofList rest)]) := by
    rw [Route.full, if_pos proxied, proxyRoute, taken, Option.map_some]
  have skipped : ∀ page ∈ ["/openapi.json", "/docs", "/docs/oauth2-redirect", "/redoc"],
      ({ methods := ["GET", "HEAD"], template := [.text page], endpoint := .docs } : Route).full
        method path = none := by
    intro page member
    simp only [Route.full, noPage page member, Option.map_none, ite_self]
  cases isProd with
  | true => simp [dispatch, routes, skipped, proxies]
  | false => simp [dispatch, routes, skipped, proxies]

end PersonTracking.Gateway
