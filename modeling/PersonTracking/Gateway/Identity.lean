import Mathlib.Data.List.Find
import PersonTracking.Gateway.Proxy

/-!
# Who the downstream service believes the caller is

The gateway adds `X-User-Id`, `X-User-Role` and `X-Internal-Service-Key` to the
dict of the client's headers.  That dict is keyed by the lower-case names of
the received request, so the additions are new entries *behind* whatever the
client sent under the same names; the HTTP client sends both, and the
downstream service reads the first.  `param_forwarded` says so for any header:
the client's value wins, the gateway's is read only when the client sent none.
-/

namespace PersonTracking.Gateway

open Library Python Shared

/-- A service behind the gateway: the key it expects and the roles a route lets in. -/
structure Downstream where
  internalServiceKey : String
  allowedRoles : List Role

/-- What makes the downstream service accept a request: the configured key, a
user id and a role the route lets in. -/
def Downstream.Admits (service : Downstream) (key userId role : String) : Prop :=
  service.internalServiceKey ≠ "" ∧ key = service.internalServiceKey ∧ userId ≠ "" ∧
    ∃ r ∈ service.allowedRoles, readRole (.str role) = .ok r

/-- The identity a downstream route acts for, from the header list on the wire. -/
def Downstream.currentUser (service : Downstream) (wire : List (String × String)) :
    Except HTTPException AuthenticatedUser :=
  requireRoles service.internalServiceKey service.allowedRoles (Headers.receive wire)

/-! ## Reading a header that was added to the client's -/

theorem lower_of_mem_keys_clientHeaders {requestId : String} {request : Request} {name : String}
    (member : name ∈ (clientHeaders requestId request).keys) : lower name = name := by
  have own : ∀ {n : String}, n ∈ (request.headers.toDict.pop "host").keys → lower n = n :=
    fun inPopped =>
      Headers.lower_of_mem_keys_toDict (OrderedDict.mem_keys_of_mem_keys_pop inPopped)
  simp only [clientHeaders] at member
  split at member
  · exact own member
  · rcases OrderedDict.mem_keys_set.mp member with rfl | inPopped
    · decide
    · exact own inPopped

/-- A header the gateway itself does not treat is passed on as it came. -/
theorem get?_clientHeaders {requestId : String} {request : Request} {name : String}
    (lowerCase : lower name = name) (notHost : name ≠ "host") (notId : name ≠ "x-request-id") :
    (clientHeaders requestId request).get? name = (request.headers.get? name).map Json.str := by
  have popped : (request.headers.toDict.pop "host").get? name =
      (request.headers.get? name).map Json.str := by
    rw [OrderedDict.get?_pop_of_ne _ notHost, Headers.get?_toDict _ lowerCase]
  simp only [clientHeaders]
  split
  · exact popped
  · rw [OrderedDict.get?_set, if_neg (Ne.symm notId), popped]

/-- Reading a sent header list by name, in terms of the entries it was made from. -/
theorem get?_receive_sent {entries : List (String × Json)} {wire : List (String × String)}
    (sent : sentHeaders entries = .ok wire) (name : String) :
    ((Headers.receive wire).get? name).map Json.str =
      (entries.find? fun entry => lower entry.1 = lower name).map Prod.snd := by
  rw [← map_str_of_sentHeaders sent]
  simp [Headers.get?, Headers.receive, List.find?_map, Function.comp_def]

/-- **First match wins.**  When headers are appended to a dict with lower-case
names, a read by name finds the dict's own entry first. -/
theorem get?_receive_append {base : OrderedDict String Json} {added : List (String × Json)}
    {wire : List (String × String)} (lowerKeys : ∀ k ∈ base.keys, lower k = k)
    (sent : sentHeaders (base.entries ++ added) = .ok wire) (name : String) :
    ((Headers.receive wire).get? name).map Json.str =
      (base.get? (lower name)).or
        ((added.find? fun entry => lower entry.1 = lower name).map Prod.snd) := by
  have ownNames : base.entries.find? (fun entry => lower entry.1 = lower name) =
      base.entries.find? fun entry => entry.1 = lower name := by
    refine List.find?_congr fun entry member => ?_
    rw [lowerKeys entry.1 (List.mem_map_of_mem member)]
  rw [get?_receive_sent sent, List.find?_append, OrderedDict.get?, ownNames]
  cases base.entries.find? fun entry => entry.1 = lower name <;> rfl

/-- The three entries of `identityHeaders`, behind the client's own. -/
theorem entries_identityHeaders (settings : Settings) (payload : List (String × Json))
    (requestId : String) (request : Request) :
    (identityHeaders settings payload (clientHeaders requestId request)).entries =
      (clientHeaders requestId request).entries ++
        [("X-User-Id", ((Json.obj payload).get? "sub").getD (.str "")),
          ("X-User-Role",
            .str ((((Json.obj payload).get? "role_id").getD (.str "")).scalarText.getD "")),
          ("X-Internal-Service-Key", .str settings.internalServiceKey)] := by
  have fresh : ∀ name : String, lower name ≠ name → name ∉ (clientHeaders requestId request).keys :=
    fun name mixedCase member => mixedCase (lower_of_mem_keys_clientHeaders member)
  have noId := fresh "X-User-Id" (by decide)
  have noRole := fresh "X-User-Role" (by decide)
  have noKey := fresh "X-Internal-Service-Key" (by decide)
  simp only [identityHeaders]
  rw [OrderedDict.entries_set_of_notMem, OrderedDict.entries_set_of_notMem,
    OrderedDict.entries_set_of_notMem noId]
  · simp
  · rw [OrderedDict.mem_keys_set, not_or]
    exact ⟨by decide, noRole⟩
  · rw [OrderedDict.mem_keys_set, OrderedDict.mem_keys_set, not_or, not_or]
    exact ⟨by decide, by decide, noKey⟩

/-! ## What the proxy sends for an authenticated request -/

/-- A request forwarded on a non-public route carries the identity headers of
its verified token. -/
theorem sent_of_proxyRequest {settings : Settings} {admission : Admission} {requestId : String}
    {request : Request} {service path : String} {payload : List (String × Json)}
    {forwarded : ForwardedRequest} (nonPublic : isPublic service path = false)
    (verified : verifyToken settings (request.headers.get? "Authorization") = .ok payload)
    (sent : proxyRequest settings admission requestId request service path = .ok forwarded) :
    sentHeaders (identityHeaders settings payload (clientHeaders requestId request)).entries =
      .ok forwarded.headers := by
  obtain ⟨-, headers, -, wire, -, -, -, prepared, -, -, -, written, rfl⟩ :=
    proxyRequest_eq_ok_iff.mp sent
  rw [proxiedHeaders, nonPublic, if_neg Bool.false_ne_true, verified] at prepared
  cases prepared
  exact written

/-- A read that prefers the client's entry over an added one. -/
theorem param_eq_getD {requestId : String} {request : Request} {headers : Headers}
    {name key value : String} {added : Option Json}
    (read : (headers.get? name).map Json.str =
      ((clientHeaders requestId request).get? (lower name)).or added)
    (names : lower name = key) (lowerCase : lower key = key) (notHost : key ≠ "host")
    (notId : key ≠ "x-request-id") (provided : added = some (.str value)) :
    headers.param name = (request.headers.get? key).getD value := by
  rw [names, get?_clientHeaders lowerCase notHost notId, provided] at read
  cases own : request.headers.get? key with
  | none =>
      rw [own, Option.map_none, Option.none_or, Option.map_eq_some_iff] at read
      obtain ⟨found, isFound, same⟩ := read
      rw [Headers.param, isFound]
      exact Json.str.inj same
  | some sentByClient =>
      rw [own, Option.map_some, Option.some_or, Option.map_eq_some_iff] at read
      obtain ⟨found, isFound, same⟩ := read
      rw [Headers.param, isFound]
      exact Json.str.inj same

section Received

variable {settings : Settings} {admission : Admission} {requestId : String} {request : Request}
variable {service path : String} {payload : List (String × Json)} {forwarded : ForwardedRequest}
variable {s : String} {r : Role}

/-- **What the downstream service reads.**  The id, the role and the key are the
client's own headers where it sent them, and the gateway's where it did not. -/
theorem param_forwarded (nonPublic : isPublic service path = false)
    (verified : verifyToken settings (request.headers.get? "Authorization") = .ok payload)
    (subject : (Json.obj payload).get? "sub" = some (.str s))
    (sent : proxyRequest settings admission requestId request service path = .ok forwarded) :
    (Headers.receive forwarded.headers).param "X-User-Id" =
        (request.headers.get? "x-user-id").getD s ∧
      (Headers.receive forwarded.headers).param "X-User-Role" =
        (request.headers.get? "x-user-role").getD
          ((((Json.obj payload).get? "role_id").getD (.str "")).scalarText.getD "") ∧
      (Headers.receive forwarded.headers).param "X-Internal-Service-Key" =
        (request.headers.get? "x-internal-service-key").getD settings.internalServiceKey := by
  have wire := sent_of_proxyRequest nonPublic verified sent
  rw [entries_identityHeaders, subject, Option.getD_some] at wire
  have read := get?_receive_append (fun k member => lower_of_mem_keys_clientHeaders member) wire
  have idName : lower "X-User-Id" = "x-user-id" := by decide
  have roleName : lower "X-User-Role" = "x-user-role" := by decide
  have keyName : lower "X-Internal-Service-Key" = "x-internal-service-key" := by decide
  refine ⟨param_eq_getD (read "X-User-Id") idName ?_ ?_ ?_ (by simp [idName]),
    param_eq_getD (read "X-User-Role") roleName ?_ ?_ ?_ (by simp [idName, roleName]),
    param_eq_getD (read "X-Internal-Service-Key") keyName ?_ ?_ ?_
      (by simp [idName, roleName, keyName])⟩
  all_goals decide

/-- The client spells no identity but the token's: an `X-User-Id` it sends is
the subject, an `X-User-Role` it sends reads as the token's role. -/
def SpellsOwnIdentity (request : Request) (s : String) (r : Role) : Prop :=
  (∀ v, request.headers.get? "x-user-id" = some v → v = s) ∧
    ∀ v, request.headers.get? "x-user-role" = some v → readRole (.str v) = .ok r

/-- The key the request makes the downstream service read. -/
def spelledKey (settings : Settings) (request : Request) : String :=
  (request.headers.get? "x-internal-service-key").getD settings.internalServiceKey

/-- The user id it reads. -/
def spelledUserId (request : Request) (s : String) : String :=
  (request.headers.get? "x-user-id").getD s

/-- The role text it reads. -/
def spelledRole (request : Request) (payload : List (String × Json)) : String :=
  (request.headers.get? "x-user-role").getD
    ((((Json.obj payload).get? "role_id").getD (.str "")).scalarText.getD "")

theorem currentUser_forwarded (downstream : Downstream) (nonPublic : isPublic service path = false)
    (verified : verifyToken settings (request.headers.get? "Authorization") = .ok payload)
    (subject : (Json.obj payload).get? "sub" = some (.str s))
    (sent : proxyRequest settings admission requestId request service path = .ok forwarded) :
    downstream.currentUser forwarded.headers =
      requireInternalUser downstream.internalServiceKey downstream.allowedRoles
        (spelledKey settings request) (spelledUserId request s) (spelledRole request payload) := by
  obtain ⟨idRead, roleRead, keyRead⟩ := param_forwarded nonPublic verified subject sent
  rw [Downstream.currentUser, requireRoles, idRead, roleRead, keyRead, spelledKey, spelledUserId,
    spelledRole]

/-- A verified payload has a role claim. -/
theorem role_of_verified
    (role : readRole (((Json.obj payload).get? "role_id").getD .null) = .ok r) :
    ∃ value, (Json.obj payload).get? "role_id" = some value ∧ readRole value = .ok r := by
  cases found : (Json.obj payload).get? "role_id" with
  | none => rw [found] at role; cases role
  | some value => rw [found] at role; exact ⟨value, rfl, role⟩

/-- The gateway writes the role claim as text; reading it back gives the role again. -/
theorem role_eq_of_claim {read : Role}
    (role : readRole (((Json.obj payload).get? "role_id").getD .null) = .ok r)
    (parsed : readRole (.str
      ((((Json.obj payload).get? "role_id").getD (.str "")).scalarText.getD "")) = .ok read) :
    read = r := by
  obtain ⟨value, found, denotes⟩ := role_of_verified role
  rw [found, Option.getD_some] at parsed
  obtain ⟨n, number⟩ : ∃ n, value.toInt = .ok n := by
    cases number : value.toInt with
    | error e => rw [readRole, number] at denotes; cases denotes
    | ok n => exact ⟨n, rfl⟩
  obtain ⟨text, shown⟩ := Json.exists_scalarText_of_toInt number
  rw [shown, Option.getD_some] at parsed
  exact readRole_scalarText denotes shown parsed

/-- The id read is the subject exactly when the client spells no other. -/
theorem spelledUserId_eq_iff :
    spelledUserId request s = s ↔ ∀ v, request.headers.get? "x-user-id" = some v → v = s := by
  cases spelled : request.headers.get? "x-user-id" with
  | none => simp [spelledUserId, spelled]
  | some v => simp [spelledUserId, spelled]

/-- A role read is the token's exactly when the client spells no other. -/
theorem spelledRole_eq_iff {read : Role}
    (role : readRole (((Json.obj payload).get? "role_id").getD .null) = .ok r)
    (parsed : readRole (.str (spelledRole request payload)) = .ok read) :
    read = r ↔ ∀ v, request.headers.get? "x-user-role" = some v → readRole (.str v) = .ok r := by
  cases spelled : request.headers.get? "x-user-role" with
  | none =>
      rw [spelledRole, spelled, Option.getD_none] at parsed
      exact iff_of_true (role_eq_of_claim role parsed) fun v sent => by cases sent
  | some v =>
      rw [spelledRole, spelled, Option.getD_some] at parsed
      simp [parsed]

/-- **When identity propagation holds.**  The downstream service refuses a
forwarded request or acts for the token's subject and role, exactly when the
client spelled no other identity in its own headers or the key, id and role
the request ends up spelling are not ones the downstream service admits. -/
theorem identity_preserved_iff (downstream : Downstream)
    (nonPublic : isPublic service path = false)
    (verified : verifyToken settings (request.headers.get? "Authorization") = .ok payload)
    (subject : (Json.obj payload).get? "sub" = some (.str s))
    (role : readRole (((Json.obj payload).get? "role_id").getD .null) = .ok r)
    (sent : proxyRequest settings admission requestId request service path = .ok forwarded) :
    (∀ user, downstream.currentUser forwarded.headers = .ok user →
        user.userId = s ∧ user.role = r) ↔
      SpellsOwnIdentity request s r ∨
        ¬ downstream.Admits (spelledKey settings request) (spelledUserId request s)
          (spelledRole request payload) := by
  rw [currentUser_forwarded downstream nonPublic verified subject sent, Downstream.Admits,
    ← exists_requireInternalUser_eq_ok]
  constructor
  · intro preserved
    rw [or_iff_not_imp_right, not_not]
    rintro ⟨user, accepted⟩
    obtain ⟨sameId, sameRole⟩ := preserved user accepted
    obtain ⟨idRead, roleRead⟩ := requireInternalUser_eq_ok accepted
    exact ⟨spelledUserId_eq_iff.mp (idRead.symm.trans sameId),
      (spelledRole_eq_iff role roleRead).mp sameRole⟩
  · rintro (⟨ownId, ownRole⟩ | notAdmitted) user accepted
    · obtain ⟨idRead, roleRead⟩ := requireInternalUser_eq_ok accepted
      exact ⟨idRead.trans (spelledUserId_eq_iff.mpr ownId),
        (spelledRole_eq_iff role roleRead).mpr ownRole⟩
    · exact absurd ⟨user, accepted⟩ notAdmitted

end Received

/-! ## A forged identity -/

/-- A camera request of Alice's with the given further headers. -/
def aliceRequest (further : List (String × String)) : Request where
  method := "POST"
  path := "/api/v1/cameras/new"
  query := ""
  headers := Headers.receive (("Authorization", "Bearer alice") :: further)
  body := []
  client := none

/-- An admin route of the camera service. -/
def adminRoute : Downstream where
  internalServiceKey := "shared-internal-key"
  allowedRoles := [.admin]

/-- A route of the camera service for every role. -/
def sharedRoute : Downstream where
  internalServiceKey := "shared-internal-key"
  allowedRoles := [.admin, .operator]

/-- What the gateway sends on when Alice spells her own role. -/
def aliceWire : List (String × String) :=
  [("authorization", "Bearer alice"), ("x-user-role", "2"), ("x-request-id", "1"),
    ("X-User-Id", "alice-id"), ("X-User-Role", "2"),
    ("X-Internal-Service-Key", "shared-internal-key")]

theorem identity_preserved_alice :
    (∃ user, sharedRoute.currentUser aliceWire = .ok user) ∧
      ∀ user, sharedRoute.currentUser aliceWire = .ok user →
        user.userId = "alice-id" ∧ user.role = .operator := by
  refine ⟨⟨{ userId := "alice-id", role := .operator }, rfl⟩, ?_⟩
  refine (@identity_preserved_iff exampleSettings openAdmission "1"
    (aliceRequest [("X-User-Role", "2")]) "cameras" "new" _
    ⟨"POST", "http://localhost:8002/api/v1/cameras/new", aliceWire, []⟩ _ _
    sharedRoute rfl rfl rfl rfl rfl).mpr (Or.inl ⟨?_, ?_⟩)
  · intro v spelled
    cases spelled
  · intro v spelled
    cases spelled
    rfl

/-- **An operator acts as an administrator of the attacker's choice**: Alice's
token is accepted for her own id and role, and the downstream service still
acts for the id and role in the headers she added. -/
theorem identity_forged :
    ∃ payload forwarded,
      isPublic "cameras" "new" = false ∧
        verifyToken exampleSettings
          ((aliceRequest [("X-User-Id", "root"), ("X-User-Role", "1")]).headers.get?
            "Authorization") = .ok payload ∧
        (Json.obj payload).get? "sub" = some (.str "alice-id") ∧
        readRole (((Json.obj payload).get? "role_id").getD .null) = .ok .operator ∧
        proxyRequest exampleSettings openAdmission "1"
          (aliceRequest [("X-User-Id", "root"), ("X-User-Role", "1")]) "cameras" "new" =
            .ok forwarded ∧
        ∃ user, adminRoute.currentUser forwarded.headers = .ok user ∧
          ¬ (user.userId = "alice-id" ∧ user.role = .operator) :=
  ⟨[("sub", .str "alice-id"), ("role_id", .int 2), ("type", .str "access")],
    ⟨"POST", "http://localhost:8002/api/v1/cameras/new",
      [("authorization", "Bearer alice"), ("x-user-id", "root"), ("x-user-role", "1"),
        ("x-request-id", "1"), ("X-User-Id", "alice-id"), ("X-User-Role", "2"),
        ("X-Internal-Service-Key", "shared-internal-key")], []⟩,
    rfl, rfl, rfl, rfl, rfl, { userId := "root", role := .admin }, rfl, by decide⟩

end PersonTracking.Gateway
