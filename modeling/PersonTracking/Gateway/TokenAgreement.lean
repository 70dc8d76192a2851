import PersonTracking.AuthService.AuthRoutes
import PersonTracking.Gateway.Connections

/-!
# Issuer and verifiers of tokens

The auth service mints tokens for a row of the users table; the proxy, the
handshake of `/ws`, `/verify` and `/refresh` each check them with code of their
own.  `agree_iff` says for which rows they agree: the role of the row has to be
one of `Role`, which knows two of the three rows of the roles table, and the
token has to be short enough for the gateway.
-/

namespace PersonTracking.Gateway

open Library Python Shared AuthService

/-- How the handshake of `/ws` ends without a connection. -/
inductive Refusal
  | closed (code : ℕ) (reason : String)
  | unhandled (error : PyError)
deriving DecidableEq, Repr

/-- The checks of the handshake on the payload of a token. -/
def checkHandshake (payload : List (String × Json)) : Except Refusal (List (String × Json)) :=
  let claim (name : String) : Json := ((Json.obj payload).get? name).getD .null
  match claim "type" with
  | .str "access" =>
      if (claim "sub").truthy then
        match readRole (claim "role_id") with
        | .ok _ => .ok payload
        | .error .typeError | .error .valueError => .error (.closed 4001 "Invalid token role")
        | .error error => .error (.unhandled error)
      else .error (.closed 4001 "Missing token subject")
  | _ => .error (.closed 4001 "Invalid token type")

/-- `websocket_endpoint` up to the connection; the result is the payload it has checked. -/
def websocketEndpoint {Conn : Type} [DecidableEq Conn] (settings : Settings)
    (activeConnections : List Conn) (token : Option String) :
    Except Refusal (List (String × Json)) :=
  match token with
  | none | some "" => .error (.closed 4001 "Missing authentication token")
  | some token =>
      if maxJwtTokenLength < token.toList.length then .error (.closed 4001 "Token is too large")
      else
        match settings.jwtDecode token with
        | .error .expiredSignature => .error (.closed 4001 "Token expired")
        | .error .invalidToken => .error (.closed 4001 "Invalid token")
        | .ok payload =>
            match checkHandshake payload with
            | .error refusal => .error refusal
            | .ok payload =>
                if canAccept activeConnections then .ok payload
                else .error (.closed 4002 "Maximum connections reached")

/-- The number of a role. -/
def roleNumber : Role → Int
  | .admin => 1
  | .operator => 2

/-- The gateway at a time, with the secret it shares with the auth service. -/
def Settings.sharing (settings : Settings) (jwt : Jwt) (now : Int) : Settings :=
  { settings with jwtDecode := jwt.decode now }

/-- The Authorization header for a token. -/
def bearer (token : String) : String := "Bearer " ++ token

/-- **Issuer and verifiers agree about a pair of tokens.**  Before its expiry the
access token passes the proxy and the handshake, which read its user's id and role
from it; the refresh token passes none of the three verifiers of access tokens, and
the access token is never refreshed. -/
structure Agree (Conn : Type) [DecidableEq Conn] (jwt : Jwt) (settings : Settings)
    (authSettings : AuthServiceSettings) (issuedAt : Int) (user : User) (issued : Issued) :
    Prop where
  accepted : ∀ now < accessExpiry authSettings issuedAt * 1000000, ∃ payload role,
    verifyToken (settings.sharing jwt now) (some (bearer issued.accessToken)) = .ok payload ∧
      (∀ activeConnections : List Conn, canAccept activeConnections = true →
        websocketEndpoint (settings.sharing jwt now) activeConnections (some issued.accessToken) =
          .ok payload) ∧
      (Json.obj payload).get? "sub" = some (.str user.id.toText) ∧
      readRole (((Json.obj payload).get? "role_id").getD .null) = .ok role ∧
      roleNumber role = user.roleId
  refreshRefused : ∀ now payload,
    (∀ header, (split header)[1]? = some issued.refreshCookie →
        verifyToken (settings.sharing jwt now) (some header) ≠ .ok payload) ∧
      (∀ activeConnections : List Conn,
        websocketEndpoint (settings.sharing jwt now) activeConnections
          (some issued.refreshCookie) ≠ .ok payload) ∧
      verifyRoute jwt now issued.refreshCookie ≠ .ok payload
  accessRefused : ∀ now users cookie body again,
    presentedToken cookie body = issued.accessToken →
      refreshToken jwt authSettings now users cookie body ≠ .ok again

/-- The email and the full name, written as JSON, and the two numbers of the claims
leave room for a token of 4096 characters. -/
def Fits (settings : AuthServiceSettings) (issuedAt : Int) (user : User) : Prop :=
  (escaped user.email).length + (optionalText user.fullName).dumps.length +
    (intDigits user.roleId).length + (intDigits (accessExpiry settings issuedAt)).length ≤ 2907

/-! ## The length of an access token -/

/-- The text of a UUID is written in JSON as it is. -/
theorem escaped_toText (id : Uuid) : escaped id.toText = id.toText.toList := by
  have plain : ∀ c ∈ id.toText.toList, escapeChar c = [c] := by
    intro c member
    rw [Uuid.toText, String.toList_ofList] at member
    rcases Uuid.mem_dashed member with rfl | digit
    · rfl
    · obtain ⟨d, small, rfl⟩ := exists_digit_of_mem_padded (by decide) digit
      have digits : ∀ d : Fin 16, escapeChar (digitChar d) = [digitChar d] := by decide
      exact digits ⟨d, small⟩
  rw [escaped, List.flatMap_congr plain]
  exact List.flatMap_singleton' _

theorem length_accessClaims (settings : AuthServiceSettings) (issuedAt : Int) (user : User) :
    (accessClaims settings issuedAt user).text.length =
      104 + ((escaped user.email).length + (optionalText user.fullName).dumps.length +
        (intDigits user.roleId).length +
          (intDigits (accessExpiry settings issuedAt)).length) := by
  have name : ∀ text : String, quoted text = '"' :: (escaped text ++ ['"']) := fun _ => rfl
  simp only [TokenClaims.text, accessClaims, TokenClaims.fields, Json.dumps, dumpsFields, name,
    escaped_toText]
  have keys : (escaped "sub").length = 3 ∧ (escaped "email").length = 5 ∧
      (escaped "role_id").length = 7 ∧ (escaped "full_name").length = 9 ∧
      (escaped "exp").length = 3 ∧ (escaped "type").length = 4 ∧ (escaped "access").length = 6 := by
    decide +kernel
  obtain ⟨sub, email, roleId, fullName, exp, type, access⟩ := keys
  simp only [List.length_cons, List.length_append, List.length_nil, sub, email, roleId, fullName,
    exp, type, access, Uuid.length_toText]
  omega

/-- The token fits exactly when its claims do. -/
theorem length_accessToken_le_iff (jwt : Jwt) (settings : AuthServiceSettings) (issuedAt : Int)
    (user : User) :
    (jwt.encode (accessClaims settings issuedAt user).fields).toList.length ≤ maxJwtTokenLength ↔
      Fits settings issuedAt user := by
  rw [jwt.length_encode, length_accessClaims, tokenLength, maxJwtTokenLength, Fits]
  omega

/-! ## The verifiers -/

/-- A word without whitespace is one word. -/
theorem splitFrom_of_spaceless {chars : List Char} (spaceless : ∀ c ∈ chars, isSpace c = false)
    (word : List Char) :
    splitFrom word chars =
      if (word.reverse ++ chars).isEmpty then [] else [word.reverse ++ chars] := by
  induction chars generalizing word with
  | nil => cases word <;> simp [splitFrom]
  | cons c chars ih =>
      have here := spaceless c List.mem_cons_self
      rw [splitFrom, here, if_neg Bool.false_ne_true,
        ih (fun d member => spaceless d (List.mem_cons_of_mem _ member))]
      simp

theorem split_bearer {token : String} (spaceless : ∀ c ∈ token.toList, isSpace c = false)
    (named : token ≠ "") : split (bearer token) = ["Bearer", token] := by
  have words : splitFrom [] (bearer token).toList =
      "Bearer".toList :: splitFrom [] token.toList := by
    rw [bearer, String.toList_append]
    rfl
  have chars : token.toList ≠ [] := fun empty => named (String.toList_injective empty)
  rw [split, words, splitFrom_of_spaceless spaceless]
  simp [chars]

section Verifiers

variable {settings : Settings} {jwt : Jwt} {now : Int} {claims : TokenClaims}
  {payload : List (String × Json)}

/-- What `verify_token` accepts. -/
theorem of_verifyToken {header : String}
    (verified : verifyToken settings (some header) = .ok payload) :
    ∃ scheme token, split header = [scheme, token] ∧
      token.toList.length ≤ maxJwtTokenLength ∧
        ∃ decoded, settings.jwtDecode token = .ok decoded ∧ checkPayload decoded = .ok payload := by
  unfold verifyToken at verified
  split at verified
  · cases verified
  · cases verified
  · rename_i same
    cases same
    split at verified
    · cases verified
    · split at verified
      · rename_i scheme token words
        split at verified
        · cases verified
        · split at verified
          · cases verified
          · rename_i short
            split at verified
            · rename_i decoded known
              exact ⟨scheme, token, words, not_lt.mp short, decoded, known, verified⟩
            · cases verified
            · cases verified
      · cases verified

/-- A token that comes in the right form is checked. -/
theorem verifyToken_eq {header scheme token : String} {decoded : List (String × Json)}
    (words : split header = [scheme, token]) (bearer : lower scheme = "bearer")
    (short : header.toList.length ≤ maxAuthorizationHeaderLength)
    (shortToken : token.toList.length ≤ maxJwtTokenLength)
    (decodes : settings.jwtDecode token = .ok decoded) :
    verifyToken settings (some header) = checkPayload decoded := by
  unfold verifyToken
  split
  · rename_i none
    cases none
  · rename_i empty
    cases empty
    cases words
  · rename_i same
    cases same
    rw [if_neg (not_lt.mpr short), words]
    simp only [bearer, ne_eq, not_true_eq_false, if_false, if_neg (not_lt.mpr shortToken), decodes]

/-- What the handshake accepts. -/
theorem of_websocketEndpoint {Conn : Type} [DecidableEq Conn] {activeConnections : List Conn}
    {token : String}
    (accepted : websocketEndpoint settings activeConnections (some token) = .ok payload) :
    ∃ decoded, settings.jwtDecode token = .ok decoded ∧ checkHandshake decoded = .ok payload := by
  unfold websocketEndpoint at accepted
  split at accepted
  · cases accepted
  · cases accepted
  · rename_i same
    cases same
    split at accepted
    · cases accepted
    · split at accepted
      · cases accepted
      · cases accepted
      · rename_i decoded known
        split at accepted
        · cases accepted
        · rename_i checked passes
          split at accepted
          · cases accepted
            exact ⟨decoded, known, passes⟩
          · cases accepted

/-- A token that is checked and lets its client in. -/
theorem websocketEndpoint_eq {Conn : Type} [DecidableEq Conn] {activeConnections : List Conn}
    {token : String} {decoded : List (String × Json)} (named : token ≠ "")
    (short : token.toList.length ≤ maxJwtTokenLength)
    (decodes : settings.jwtDecode token = .ok decoded)
    (passes : checkHandshake decoded = .ok payload)
    (room : canAccept activeConnections = true) :
    websocketEndpoint settings activeConnections (some token) = .ok payload := by
  unfold websocketEndpoint
  split
  · rename_i none
    cases none
  · rename_i empty
    exact absurd (Option.some.inj empty) named
  · rename_i same
    cases same
    simp only [if_neg (not_lt.mpr short), decodes, passes, room, if_true]

/-- What the proxy's checks let through. -/
theorem of_checkPayload {checked : List (String × Json)}
    (passes : checkPayload payload = .ok checked) :
    checked = payload ∧ ((Json.obj payload).get? "type").getD .null = .str "access" ∧
      ∃ role, readRole (((Json.obj payload).get? "role_id").getD .null) = .ok role := by
  unfold checkPayload at passes
  simp only [raise] at passes
  split at passes
  · rename_i access
    split at passes
    · split at passes
      · rename_i role read
        exact ⟨(Except.ok.inj passes).symm, access, role, read⟩
      · cases passes
      · cases passes
      · cases passes
    · cases passes
  · cases passes

/-- What the checks of the handshake let through. -/
theorem of_checkHandshake {checked : List (String × Json)}
    (passes : checkHandshake payload = .ok checked) :
    ((Json.obj payload).get? "type").getD .null = .str "access" := by
  simp only [checkHandshake] at passes
  split at passes
  · assumption
  · cases passes

/-- Both checks let the claims of an access token with a known role through. -/
theorem checks_access {sub email : String} {roleId exp : Int} {fullName : Option String}
    {role : Role} (named : sub ≠ "") (known : Role.ofInt roleId = .ok role) :
    checkPayload (TokenClaims.access sub email roleId fullName exp).fields =
        .ok (TokenClaims.access sub email roleId fullName exp).fields ∧
      checkHandshake (TokenClaims.access sub email roleId fullName exp).fields =
        .ok (TokenClaims.access sub email roleId fullName exp).fields := by
  have type : ((Json.obj (TokenClaims.access sub email roleId fullName exp).fields).get?
      "type").getD .null = .str "access" := rfl
  have subject : ((Json.obj (TokenClaims.access sub email roleId fullName exp).fields).get?
      "sub").getD .null = .str sub := rfl
  have number : readRole (((Json.obj (TokenClaims.access sub email roleId fullName exp).fields).get?
      "role_id").getD .null) = .ok role := known
  have truthy : (Json.str sub).truthy = true := by
    have chars : sub.toList ≠ [] := fun empty => named (String.toList_injective empty)
    simp [Json.truthy, chars]
  constructor
  · simp only [checkPayload, type, subject, truthy, number, if_true]
  · simp only [checkHandshake, type, subject, truthy, number, if_true]

/-- No refresh token is of the type access. -/
theorem type_refresh {sub : String} {exp : Int} :
    ((Json.obj (TokenClaims.refresh sub exp).fields).get? "type").getD .null ≠ .str "access" := by
  intro same
  exact absurd (Json.str.inj same) (by decide)

/-- What `/verify` accepts. -/
theorem of_verifyRoute {token : String} (verified : verifyRoute jwt now token = .ok payload) :
    jwt.decode now token = .ok payload ∧
      (Json.obj payload).get? "type" = some (.str "access") := by
  simp only [verifyRoute, TokenService.decodeAndVerifyToken, raise] at verified
  split at verified
  · cases verified
  · cases decoded : jwt.decode now token with
    | error error => rw [decoded] at verified; cases verified
    | ok found =>
        rw [decoded] at verified
        cases found with
        | nil => cases verified
        | cons field rest =>
            simp only at verified
            split at verified
            · rename_i access
              cases verified
              exact ⟨rfl, access⟩
            · cases verified

end Verifiers

/-! ## When they agree -/

/-- The roles whose number is in `Role`. -/
theorem exists_role_iff {n : Int} (row : n ∈ rolesTable.map Prod.fst) :
    (∃ role, Role.ofInt n = .ok role) ↔ n ≠ 3 := by
  simp only [rolesTable, List.map_cons, List.map_nil, List.mem_cons, List.not_mem_nil,
    or_false] at row
  rcases row with rfl | rfl | rfl
  · exact iff_of_true ⟨.admin, rfl⟩ (by decide)
  · exact iff_of_true ⟨.operator, rfl⟩ (by decide)
  · refine iff_of_false ?_ (by decide)
    rintro ⟨role, known⟩
    cases known

theorem roleNumber_of_ofInt {n : Int} {role : Role} (known : Role.ofInt n = .ok role) :
    roleNumber role = n := by
  unfold Role.ofInt at known
  split at known
  · cases known
    rfl
  · cases known
    rfl
  · cases known

section Agreement

variable {Conn : Type} [DecidableEq Conn] {jwt : Jwt} {settings : Settings}
  {authSettings : AuthServiceSettings} {issuedAt : Int} {user : User} {issued : Issued}

/-- A refresh token passes no verifier of access tokens. -/
theorem refresh_refused (now : Int) (payload : List (String × Json)) :
    (∀ header, (split header)[1]? =
        some (jwt.encode (refreshClaims authSettings issuedAt user).fields) →
          verifyToken (settings.sharing jwt now) (some header) ≠ .ok payload) ∧
      (∀ activeConnections : List Conn,
        websocketEndpoint (settings.sharing jwt now) activeConnections
          (some (jwt.encode (refreshClaims authSettings issuedAt user).fields)) ≠ .ok payload) ∧
      verifyRoute jwt now (jwt.encode (refreshClaims authSettings issuedAt user).fields) ≠
        .ok payload := by
  refine ⟨fun header carried verified => ?_, fun activeConnections accepted => ?_,
    fun verified => ?_⟩
  · obtain ⟨scheme, token, words, -, decoded, known, passes⟩ := of_verifyToken verified
    rw [words] at carried
    cases carried
    rw [fields_of_decode known] at passes
    exact absurd (of_checkPayload passes).2.1 type_refresh
  · obtain ⟨decoded, known, passes⟩ := of_websocketEndpoint accepted
    rw [fields_of_decode known] at passes
    exact absurd (of_checkHandshake passes) type_refresh
  · obtain ⟨known, access⟩ := of_verifyRoute verified
    rw [fields_of_decode known] at access
    exact absurd (congrArg (fun found => found.getD .null) access) type_refresh

/-- An access token is never refreshed. -/
theorem access_refused {now : Int} {users : Query} {cookie body : Option String}
    (presented : presentedToken cookie body =
      jwt.encode (accessClaims authSettings issuedAt user).fields) (again : Issued) :
    refreshToken jwt authSettings now users cookie body ≠ .ok again := by
  intro answered
  simp only [refreshToken, presented, TokenService.decodeAndVerifyToken, raise] at answered
  split at answered
  · cases answered
  · split at answered
    · cases answered
    · split at answered
      · cases answered
      · rename_i payload found
        split at found
        · rename_i decoded known
          cases found
          rw [fields_of_decode known] at answered
          cases answered
        · cases found

/-- What it takes that an access token is accepted. -/
theorem of_accepted
    (accepted : ∃ payload, verifyToken (settings.sharing jwt (accessExpiry authSettings issuedAt *
      1000000 - 1)) (some (bearer (jwt.encode (accessClaims authSettings issuedAt user).fields))) =
        .ok payload) :
    (∃ role, Role.ofInt user.roleId = .ok role) ∧ Fits authSettings issuedAt user := by
  obtain ⟨payload, verified⟩ := accepted
  obtain ⟨scheme, token, words, short, decoded, known, passes⟩ := of_verifyToken verified
  rw [split_bearer (jwt.spaceless _) encode_ne_empty] at words
  cases words
  rw [fields_of_decode known] at passes
  exact ⟨(of_checkPayload passes).2.2, (length_accessToken_le_iff jwt _ _ _).mp short⟩

/-- An access token with a known role that fits is accepted until it expires. -/
theorem accepted_of_fits {role : Role} (known : Role.ofInt user.roleId = .ok role)
    (fits : Fits authSettings issuedAt user) {now : Int}
    (fresh : now < accessExpiry authSettings issuedAt * 1000000) :
    verifyToken (settings.sharing jwt now)
        (some (bearer (jwt.encode (accessClaims authSettings issuedAt user).fields))) =
          .ok (accessClaims authSettings issuedAt user).fields ∧
      ∀ activeConnections : List Conn, canAccept activeConnections = true →
        websocketEndpoint (settings.sharing jwt now) activeConnections
            (some (jwt.encode (accessClaims authSettings issuedAt user).fields)) =
          .ok (accessClaims authSettings issuedAt user).fields := by
  have short := (length_accessToken_le_iff jwt _ _ _).mpr fits
  have decodes : (settings.sharing jwt now).jwtDecode
      (jwt.encode (accessClaims authSettings issuedAt user).fields) =
        .ok (accessClaims authSettings issuedAt user).fields :=
    decode_encode.trans (if_neg (not_le.mpr fresh))
  obtain ⟨proxy, handshake⟩ := @checks_access user.id.toText user.email user.roleId
    (accessExpiry authSettings issuedAt) user.fullName role (Uuid.toText_ne_empty user.id) known
  constructor
  · have words := split_bearer (jwt.spaceless (accessClaims authSettings issuedAt user))
      encode_ne_empty
    have scheme : lower "Bearer" = "bearer" := by decide
    have header :
        (bearer (jwt.encode (accessClaims authSettings issuedAt user).fields)).toList.length ≤
        maxAuthorizationHeaderLength := by
      rw [bearer, String.toList_append, List.length_append]
      have front : "Bearer ".toList.length = 7 := by decide
      unfold maxAuthorizationHeaderLength
      unfold maxJwtTokenLength at short
      omega
    exact (verifyToken_eq words scheme header short decodes).trans proxy
  · intro activeConnections room
    exact websocketEndpoint_eq encode_ne_empty short decodes handshake room

end Agreement

/-- **When issuer and verifiers agree.**  For every active user with a row in the
roles table and every pair of tokens the service mints for it: the verifiers agree
exactly when the user is no viewer and its email and name leave room for the token. -/
theorem agree_iff {Conn : Type} [DecidableEq Conn] (jwt : Jwt) (settings : Settings)
    (authSettings : AuthServiceSettings) (issuedAt : Int) (user : User) (issued : Issued)
    (row : user.roleId ∈ rolesTable.map Prod.fst)
    (minted : Issues jwt authSettings issuedAt user issued) :
    Agree Conn jwt settings authSettings issuedAt user issued ↔
      user.roleId ≠ 3 ∧ Fits authSettings issuedAt user := by
  obtain ⟨-, access, cookie⟩ := minted.tokens
  rw [← exists_role_iff row]
  constructor
  · intro agree
    obtain ⟨payload, role, verified, -⟩ := agree.accepted
      (accessExpiry authSettings issuedAt * 1000000 - 1) (by omega)
    rw [access] at verified
    exact of_accepted ⟨payload, verified⟩
  · rintro ⟨⟨role, known⟩, fits⟩
    refine ⟨fun now fresh => ?_, fun now payload => ?_,
      fun now users given body again presented => ?_⟩
    · rw [access]
      obtain ⟨proxy, handshake⟩ := @accepted_of_fits Conn _ jwt settings authSettings issuedAt user
        role known fits now fresh
      exact ⟨_, role, proxy, handshake, rfl, known, roleNumber_of_ofInt known⟩
    · rw [cookie]
      exact refresh_refused now payload
    · rw [access] at presented
      exact access_refused presented again

/-! ## An operator and a viewer -/

/-- The defaults of the settings. -/
def exampleAuthSettings : AuthServiceSettings where
  accessTokenExpireMinutes := 60
  refreshTokenExpireDays := 7

/-- Alice, an operator. -/
def alice : User where
  id := ⟨7, by decide⟩
  email := "alice@example.com"
  hashedPassword := "$2b$12$alice"
  fullName := some "Alice"
  isActive := true
  roleId := 2

/-- Vera, with the role that is the default of the users table. -/
def vera : User where
  id := ⟨8, by decide⟩
  email := "vera@example.com"
  hashedPassword := "$2b$12$vera"
  fullName := none
  isActive := true
  roleId := 3

/-- A password check for examples. -/
def exampleCheckpw (password hashedPassword : String) : Except PyError Bool :=
  .ok (hashedPassword = "$2b$12$" ++ password)

/-- Whoever is in the table logs in with the right password. -/
theorem issues_login {user : User} {password : String} (jwt : Jwt)
    (settings : AuthServiceSettings) (now : Int) (active : user.isActive = true)
    (right : verifyPassword exampleCheckpw password user.hashedPassword = true) :
    Issues jwt settings now user (issueTokens jwt settings now user) := by
  have authenticated : authenticateUser exampleCheckpw (.ok [user]) user.email password =
      .ok (some user) := by
    simp [authenticateUser, active, right, bind, Except.bind, pure, Except.pure]
  refine Issues.login exampleCheckpw (.ok [user]) user.email password authenticated ?_
  rw [login, authenticated]

theorem agree_alice :
    Agree ℕ Jwt.fixed exampleSettings exampleAuthSettings 1760000000000000 alice
      (issueTokens Jwt.fixed exampleAuthSettings 1760000000000000 alice) := by
  refine (agree_iff Jwt.fixed exampleSettings exampleAuthSettings 1760000000000000 alice _
    (by decide) (@issues_login alice "alice" _ _ _ rfl (by decide +kernel))).mpr
    ⟨by decide, ?_⟩
  rw [Fits]
  decide +kernel

/-- **A viewer's token opens nothing**: it is minted, and neither the proxy nor the
handshake takes it. -/
theorem viewer_locked_out :
    vera.isActive = true ∧ vera.roleId ∈ rolesTable.map Prod.fst ∧
      Issues Jwt.fixed exampleAuthSettings 1760000000000000 vera
        (issueTokens Jwt.fixed exampleAuthSettings 1760000000000000 vera) ∧
      ¬ Agree ℕ Jwt.fixed exampleSettings exampleAuthSettings 1760000000000000 vera
        (issueTokens Jwt.fixed exampleAuthSettings 1760000000000000 vera) := by
  refine ⟨rfl, by decide,
    @issues_login vera "vera" _ _ _ rfl (by decide +kernel), fun agree => ?_⟩
  obtain ⟨payload, role, verified, -⟩ := agree.accepted
    (accessExpiry exampleAuthSettings 1760000000000000 * 1000000 - 1) (by omega)
  obtain ⟨⟨role, known⟩, -⟩ := of_accepted ⟨payload, verified⟩
  cases known

end PersonTracking.Gateway
