import PersonTracking.Gateway.Lockout
import PersonTracking.Gateway.Routing
import PersonTracking.Python.Url

/-!
# Which endpoint a proxied request reaches

The router matches the decoded path and hands `(service, path)` to
`proxy_request`, whose decisions look at that pair.  The request is sent to the
path of the URL that is assembled from the `Host` header and the decoded path and
read again (`Request.splitUrl`); the HTTP client removes its dot segments and the
downstream router undoes what escapes are left.

`accessFits_iff` says for which requests the decisions are about the endpoint that
is reached, `login_unaudited` shows a path and a host for which they are not.
-/

namespace PersonTracking.Gateway

open Library Python Shared

/-- The path the downstream router serves for the path of a URL. -/
def servedPath (downstream : Unquote) (path : List Char) : List Char :=
  downstream.decode (removeDotSegments path)

/-- `/api/v1/`. -/
def apiPrefix : List Char := ['/', 'a', 'p', 'i', '/', 'v', '1', '/']

/-- The path a pair of service and path stands for. -/
def namedPath (service path : String) : List Char :=
  apiPrefix ++ (service.toList ++ '/' :: path.toList)

/-- A path that means the same to everybody: no delimiters, no dot segments, no escapes. -/
structure PlainPath (chars : List Char) : Prop where
  delimited : ∀ c ∈ chars, delimits c = false
  dotless : Dotless (segments chars)
  decoded : ¬ HasEscape chars

/-- Nothing in the text of the host ends the network location of the URL. -/
def HostOnly (settings : Settings) (request : Request) : Prop :=
  ∀ c ∈ request.hostText settings, endsNetloc c = false

instance (settings : Settings) (request : Request) : Decidable (HostOnly settings request) :=
  List.decidableBAll (fun c => endsNetloc c = false) (request.hostText settings)

/-- A path arrives as it is named: the host is no more than that and the path is plain, or
the path that the text of the host makes of the URL happens to be served under that name. -/
def ArrivesAs (settings : Settings) (downstream : Unquote) (request : Request)
    (named : List Char) : Prop :=
  (HostOnly settings request ∧ PlainPath named) ∨
    (¬ HostOnly settings request ∧ ∃ url, request.splitUrl settings = some url ∧
      servedPath downstream url.path = named)

/-- What the proxy's template has matched. -/
theorem exists_of_matchRun {shortest longest : ℕ} {name : String} {chars : List Char}
    {next : List Char → Option (List (String × String))} {found : List (String × String)}
    (matched : matchRun shortest longest name chars next = some found) :
    ∃ n later, n ≤ longest ∧ next (chars.drop n) = some later ∧
      found = (name, String.ofList (chars.take n)) :: later := by
  unfold matchRun at matched
  obtain ⟨n, member, hit⟩ := List.exists_of_findSome?_eq_some matched
  rw [List.mem_reverse, List.mem_range] at member
  split at hit
  · obtain ⟨later, here, rfl⟩ := Option.map_eq_some_iff.mp hit
    exact ⟨n, later, by omega, here, rfl⟩
  · cases hit

theorem slashText : "/".toList = ['/'] := by decide +kernel

theorem apiText : "/api/v1/".toList = apiPrefix := by decide +kernel

/-- Literal text in front of a template. -/
theorem exists_of_matchText {literal : String} {pieces : List Piece} {chars : List Char}
    {found : List (String × String)}
    (matched : matchPieces (.text literal :: pieces) chars = some found) :
    ∃ rest, chars = literal.toList ++ rest ∧ matchPieces pieces rest = some found := by
  rw [matchPieces] at matched
  split at matched
  · rename_i starts
    obtain ⟨rest, rfl⟩ := List.isPrefixOf_iff_prefix.mp starts
    rw [List.drop_left] at matched
    exact ⟨rest, rfl, matched⟩
  · cases matched

/-- What stands before the end of a run has no character in it that ends the run. -/
theorem notMem_take_of_le {c : Char} {chars : List Char} {n : ℕ}
    (short : n ≤ (chars.takeWhile fun d => d ≠ c).length) : c ∉ chars.take n := by
  intro member
  obtain ⟨tail, joined⟩ := List.takeWhile_prefix (l := chars) fun d => (d ≠ c : Bool)
  rw [← joined, List.take_append_of_le_length short] at member
  simpa using List.mem_takeWhile_imp (List.mem_of_mem_take member)

/-- A path the proxy takes is the one its pair names, up to a newline at the end. -/
theorem exists_of_matched {decoded service path : String}
    (matched : matchPieces proxyTemplate decoded.toList =
      some [("service", service), ("path", path)]) :
    '/' ∉ service.toList ∧ '\n' ∉ path.toList ∧
      ∃ tail, Ended tail ∧ decoded.toList = namedPath service path ++ tail := by
  obtain ⟨afterPrefix, spelled, matched⟩ := exists_of_matchText matched
  rw [matchPieces] at matched
  obtain ⟨n, later, short, matched, same⟩ := exists_of_matchRun matched
  obtain ⟨afterSlash, slash, matched⟩ := exists_of_matchText matched
  rw [matchPieces] at matched
  obtain ⟨m, last, within, ended, same'⟩ := exists_of_matchRun matched
  rw [same', List.cons.injEq, List.cons.injEq, Prod.mk.injEq, Prod.mk.injEq] at same
  obtain ⟨⟨-, rfl⟩, ⟨-, rfl⟩, -⟩ := same
  rw [String.toList_ofList, String.toList_ofList]
  refine ⟨notMem_take_of_le short, notMem_take_of_le within, afterSlash.drop m, ?_, ?_⟩
  · rw [matchPieces] at ended
    split at ended
    · assumption
    · cases ended
  · rw [slashText] at slash
    have rejoined : afterPrefix.take n ++ '/' :: (afterSlash.take m ++ afterSlash.drop m) =
        afterPrefix := by
      rw [List.take_append_drop, ← List.singleton_append, ← slash, List.take_append_drop]
    rw [namedPath, String.toList_ofList, String.toList_ofList, spelled, apiText,
      List.append_assoc, List.append_assoc, List.cons_append, rejoined]

/-- What the template leaves over, a URL drops. -/
theorem Ended.isStripped {tail : List Char} (ended : Ended tail) :
    ∀ c ∈ tail, isStripped c = true := by
  intro c member
  rcases ended with rfl | rfl
  · cases member
  · rw [List.mem_singleton.mp member]
    rfl

section Served

variable {settings : Settings} {downstream : Unquote} {request : Request} {service path : String}
  {url : SplitResult}

/-- A plain path behind a plain host, without a query. -/
theorem splitUrl_of_plain {host path : List Char} (hosted : request.hostText settings = host)
    (located : request.path.toList = path) (unasked : request.query = "")
    (accepted : settings.urlLib.checkNetloc host = true) (plainHost : host.all isPlainHost = true)
    (absolute : path.head? = some '/') (plain : path.all (fun c => !delimits c) = true) :
    request.splitUrl settings = some ⟨['h', 't', 't', 'p'], host, path, [], []⟩ := by
  subst hosted located
  have bare : (request.path.toList ++
      if request.query = "" then [] else '?' :: request.query.toList) = request.path.toList := by
    rw [if_pos unasked, List.append_nil]
  have url : request.url settings =
      "http://".toList ++ (request.hostText settings ++ request.path.toList) :=
    congrArg (fun text => "http://".toList ++ (request.hostText settings ++ text)) bare
  exact (congrArg (urlsplit settings.urlLib) url).trans
    (urlsplit_http plainHost accepted absolute plain)

/-- **Behind a mere host** the path of the URL is that of the request, as far as it goes. -/
theorem path_of_hostOnly {rest : List Char} (hosted : HostOnly settings request)
    (absolute : request.path.toList = '/' :: rest)
    (split : request.splitUrl settings = some url) : url.path = urlPath request.path.toList := by
  have inHost : ∀ c ∈ (request.hostText settings).filter fun c => !isStripped c,
      (!endsNetloc c) = true := by
    intro c member
    rw [hosted c (List.mem_filter.mp member).1]
    rfl
  rw [path_of_urlsplit_http split, List.filter_append, List.dropWhile_append_of_pos inHost]
  have starts : ∀ query : List Char,
      ((request.path.toList ++ query).filter fun c => !isStripped c).dropWhile
        (fun c => !endsNetloc c) =
          (request.path.toList ++ query).filter fun c => !isStripped c := by
    intro query
    rw [absolute]
    rfl
  have again : ∀ chars : List Char,
      urlPath (chars.filter fun c => !isStripped c) = urlPath chars := by
    intro chars
    rw [urlPath, urlPath, List.filter_filter]
    simp
  rw [starts, again]
  split
  · rw [List.append_nil]
  · exact urlPath_query _ _

/-- A plain path is served as it is named. -/
theorem servedPath_of_plain {tail named : List Char} (plain : PlainPath ('/' :: named))
    (stripped : ∀ c ∈ tail, isStripped c = true)
    (spelled : request.path.toList = '/' :: named ++ tail) :
    servedPath downstream (urlPath request.path.toList) = '/' :: named := by
  rw [servedPath, spelled, urlPath_append plain.delimited stripped,
    removeDotSegments_of_dotless plain.dotless]
  exact downstream.plain _ plain.decoded

/-- What a path is served as is plain where it is not shorter than the path. -/
theorem plain_of_length_le {target rest : List Char} (absolute : request.path.toList = '/' :: rest)
    (notShorter : (request.path.toList.filter fun c => !isStripped c).length ≤ target.length)
    (served : servedPath downstream (urlPath request.path.toList) = target) :
    PlainPath target := by
  obtain ⟨sent, slash⟩ : ∃ sent, urlPath request.path.toList = '/' :: sent := by
    rw [absolute]
    exact ⟨_, urlPath_slash _⟩
  -- nothing on the way makes the path longer, so nothing may make it shorter
  have read : (urlPath request.path.toList).length ≤ target.length :=
    le_trans (length_urlPath_le _) notShorter
  have normalised : (removeDotSegments (urlPath request.path.toList)).length ≤ target.length := by
    refine le_trans ?_ read
    rw [slash]
    exact length_removeDotSegments_le sent
  have plain : ¬ HasEscape (removeDotSegments (urlPath request.path.toList)) := by
    intro escape
    have shorter := downstream.shorter _ escape
    have same := congrArg List.length served
    rw [servedPath] at same
    omega
  have same : removeDotSegments (urlPath request.path.toList) = target := by
    rw [← downstream.plain _ plain]
    exact served
  refine ⟨fun c member => ?_, ?_, same ▸ plain⟩
  · rw [← same] at member
    rcases of_mem_removeDotSegments member with rfl | sentOn
    · decide
    · exact (mem_urlPath sentOn).2
  · rw [← same]
    exact dotless_removeDotSegments _

/-- **What arrives as it is named.**  Where the path of a request is a named one, up to
what a URL drops behind it, the URL is served under that name just in case it arrives so. -/
theorem arrivesAs_iff {named tail : List Char} (stripped : ∀ c ∈ tail, isStripped c = true)
    (spelled : request.path.toList = '/' :: named ++ tail)
    (split : request.splitUrl settings = some url) :
    servedPath downstream url.path = '/' :: named ↔
      ArrivesAs settings downstream request ('/' :: named) := by
  have absolute : request.path.toList = '/' :: (named ++ tail) := spelled
  by_cases hosted : HostOnly settings request
  · rw [path_of_hostOnly hosted absolute split]
    constructor
    · intro served
      refine Or.inl ⟨hosted, plain_of_length_le absolute ?_ served⟩
      rw [spelled, List.filter_append, (List.filter_eq_nil_iff (l := tail)).mpr, List.append_nil]
      · exact List.length_filter_le _ _
      · intro c member
        simp [stripped c member]
    · rintro (⟨-, plain⟩ | ⟨other, -⟩)
      · exact servedPath_of_plain plain stripped spelled
      · exact absurd hosted other
  · constructor
    · intro served
      exact Or.inr ⟨hosted, url, split, served⟩
    · rintro (⟨only, -⟩ | ⟨-, other, same, served⟩)
      · exact absurd only hosted
      · rw [split, Option.some.injEq] at same
        rwa [same]

/-- The first segment of a path is determined by it. -/
theorem firstSegment_inj {first second rest others : List Char} (oneSegment : '/' ∉ first)
    (oneSegment' : '/' ∉ second) (same : first ++ '/' :: rest = second ++ '/' :: others) :
    first = second := by
  have parts := congrArg (List.splitOn '/') same
  rw [List.splitOn_append_cons_self_of_not_mem oneSegment,
    List.splitOn_append_cons_self_of_not_mem oneSegment', List.cons.injEq] at parts
  exact parts.1

end Served

/-- A request without a token, from an address of its own. -/
def exampleRequest (host path query : String) : Request where
  method := "POST"
  path := path
  query := query
  headers := Headers.receive [("Host", host), ("Authorization", "Bearer alice")]
  body := []
  client := some "10.0.0.1"

end PersonTracking.Gateway
