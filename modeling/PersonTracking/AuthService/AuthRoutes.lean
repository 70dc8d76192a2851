import PersonTracking.AuthService.TokenService
import PersonTracking.Python.Uuid

/-!
# The routes of the auth service

`/login` and `/refresh` mint tokens for a row of the users table, `/verify`
checks one.  `bcrypt.checkpw` is an argument, and so is what a query of the
database returns.

`Issues` says what it means that the service mints a pair of tokens for a user;
`Issues.tokens` is the one fact about it the verifiers need.
-/

namespace PersonTracking.AuthService

open Library Python Shared Gateway

/-- The rows of the roles table. -/
def rolesTable : List (Int × String) := [(1, "admin"), (2, "operator"), (3, "viewer")]

/-- A row of the users table. -/
structure User where
  id : Uuid
  email : String
  hashedPassword : String
  fullName : Option String
  isActive : Bool
  roleId : Int
deriving DecidableEq, Repr

/-- Longest token a request may carry. -/
def maxTokenLength : ℕ := 4096

/-- What the service answers a successful login or refresh with: the token of the
body and the one of the cookie. -/
structure Issued where
  accessToken : String
  refreshCookie : String
deriving DecidableEq, Repr

/-- A query of the users table. -/
abbrev Query := Except PyError (List User)

/-- `bcrypt.checkpw`, on the text of a password and of a hash. -/
abbrev CheckPw := String → String → Except PyError Bool

/-- `LoginRequest`, validated. -/
structure LoginRequest where
  email : String
  password : String
  notEmpty : 1 ≤ password.toList.length
  notLong : password.toList.length ≤ 128

section Routes

variable (jwt : Jwt) (settings : AuthServiceSettings) (now : Int)

/-- `AuthService.verify_password`: a check that raises is a mismatch. -/
def verifyPassword (checkpw : CheckPw) (plainPassword hashedPassword : String) : Bool :=
  match checkpw plainPassword hashedPassword with
  | .ok same => same
  | .error _ => false

/-- `dummy_hash`. -/
def dummyHash : String := "$2b$12$L9cyqFUpysenWtJrxnlYEuyjAeBFlv1nRYRoxc1s3fXq8o1ZwsPPW"

/-- `AuthService.authenticate_user`; every error becomes `AuthenticationBackendUnavailable`.
The check of the dummy hash for an unknown email has no result, but it may raise. -/
def authenticateUser (checkpw : CheckPw) (users : Query) (email password : String) :
    Except PyError (Option User) := do
  let rows ← users
  match rows.find? fun user => user.email = email ∧ user.isActive with
  | none =>
      let _ ← checkpw password dummyHash
      return none
  | some user =>
      return if verifyPassword checkpw password user.hashedPassword then some user else none

/-- The payload of an access token. -/
def accessPayload (user : User) : OrderedDict String Json where
  entries := [("sub", .str user.id.toText), ("email", .str user.email),
    ("role_id", .int user.roleId), ("full_name", optionalText user.fullName)]
  nodup := by
    show ["sub", "email", "role_id", "full_name"].Nodup
    decide

/-- The payload of a refresh token. -/
def refreshPayload (user : User) : OrderedDict String Json where
  entries := [("sub", .str user.id.toText)]
  nodup := List.nodup_singleton _

/-- The tokens of a user. -/
def issueTokens (user : User) : Issued where
  accessToken := TokenService.createAccessToken jwt settings now (accessPayload user) none
  refreshCookie := TokenService.createRefreshToken jwt settings now (refreshPayload user) none

/-- `POST /login`. -/
def login (checkpw : CheckPw) (users : Query) (email password : String) :
    Except Failure Issued :=
  match authenticateUser checkpw users email password with
  | .error _ => raise 503 "Authentication backend is temporarily unavailable"
  | .ok none => raise 401 "Invalid email or password"
  | .ok (some user) => .ok (issueTokens jwt settings now user)

/-- `mcpt_refresh_token or request.refresh_token`. -/
def presentedToken (cookie body : Option String) : String :=
  match cookie with
  | some token => if token = "" then body.getD "" else token
  | none => body.getD ""

/-- `select(User).where(User.id == sub, User.is_active)`; the driver refuses what
is no UUID, and nothing equals `None`. -/
def selectActive (rows : List User) : Json → Except PyError (Option User)
  | .str text =>
      match Uuid.parse text with
      | some id => .ok (rows.find? fun user => user.id = id ∧ user.isActive)
      | none => .error .sqlError
  | .null => .ok none
  | _ => .error .sqlError

/-- `POST /refresh`, after the body has been validated. -/
def refreshToken (users : Query) (cookie body : Option String) : Except Failure Issued :=
  let token := presentedToken cookie body
  if token = "" then raise 401 "Missing refresh token"
  else if maxTokenLength < token.toList.length then raise 401 "Refresh token is too large"
  else
    match TokenService.decodeAndVerifyToken jwt now token with
    | none => raise 401 "Refresh token is invalid or has expired"
    | some payload =>
        match (Json.obj payload).get? "type" with
        | some (.str "refresh") =>
            match users with
            | .error error => .error (.unhandled error)
            | .ok rows =>
                match selectActive rows (((Json.obj payload).get? "sub").getD .null) with
                | .error error => .error (.unhandled error)
                | .ok none => raise 401 "Refresh token subject is no longer active"
                | .ok (some user) => .ok (issueTokens jwt settings now user)
        | _ => raise 401 "Refresh token is invalid or has expired"

/-- `POST /verify`; a token of a wrong length does not pass the validation of the body. -/
def verifyRoute (token : String) : Except Failure (List (String × Json)) :=
  if token = "" ∨ maxTokenLength < token.toList.length then raise 422 "Unprocessable Entity"
  else
    match TokenService.decodeAndVerifyToken jwt now token with
    | none | some [] => raise 401 "Token is invalid or has expired"
    | some payload =>
        match (Json.obj payload).get? "type" with
        | some (.str "access") => .ok payload
        | _ => raise 401 "Invalid token type: Access token expected"

/-- The service mints a pair of tokens for a user. -/
inductive Issues (user : User) (issued : Issued) : Prop
  | login (checkpw : CheckPw) (users : Query) (email password : String)
      (authenticated : authenticateUser checkpw users email password = .ok (some user))
      (answered : login jwt settings now checkpw users email password = .ok issued)
  | refresh (rows : List User) (cookie body : Option String) (payload : List (String × Json))
      (decoded : TokenService.decodeAndVerifyToken jwt now (presentedToken cookie body) =
        some payload)
      (selected : selectActive rows (((Json.obj payload).get? "sub").getD .null) =
        .ok (some user))
      (answered : refreshToken jwt settings now (.ok rows) cookie body = .ok issued)

end Routes

/-! ## What is minted -/

section Minted

variable {jwt : Jwt} {settings : AuthServiceSettings} {now : Int} {user : User} {issued : Issued}

/-- The expiry of an access token minted now. -/
def accessExpiry (settings : AuthServiceSettings) (now : Int) : Int :=
  expiry now (settings.accessTokenExpireMinutes * 60 * 1000000)

/-- The claims of an access token minted now. -/
def accessClaims (settings : AuthServiceSettings) (now : Int) (user : User) : TokenClaims :=
  .access user.id.toText user.email user.roleId user.fullName (accessExpiry settings now)

/-- The claims of a refresh token minted now. -/
def refreshClaims (settings : AuthServiceSettings) (now : Int) (user : User) : TokenClaims :=
  .refresh user.id.toText (expiry now (settings.refreshTokenExpireDays * 24 * 60 * 60 * 1000000))

/-- A selected user is active. -/
theorem active_of_selectActive {rows : List User} {sub : Json}
    (selected : selectActive rows sub = .ok (some user)) : user.isActive = true := by
  cases sub with
  | str text =>
      rw [selectActive] at selected
      split at selected
      · have found := List.find?_some (Except.ok.inj selected)
        simpa using (of_decide_eq_true found).2
      · cases selected
  | null => cases selected
  | bool _ | int _ | float _ | arr _ | obj _ => cases selected

/-- A refresh that answers mints for the user it has selected. -/
theorem eq_of_refreshToken {rows : List User} {cookie body : Option String}
    {payload : List (String × Json)}
    (decoded : TokenService.decodeAndVerifyToken jwt now (presentedToken cookie body) =
      some payload)
    (selected : selectActive rows (((Json.obj payload).get? "sub").getD .null) = .ok (some user))
    (answered : refreshToken jwt settings now (.ok rows) cookie body = .ok issued) :
    issued = issueTokens jwt settings now user := by
  simp only [refreshToken, decoded, selected, Gateway.raise] at answered
  -- no token, one that is too large, and one of another type are refused
  split at answered
  · cases answered
  split at answered
  · cases answered
  split at answered
  · cases answered
    rfl
  · cases answered

/-- **A pair of tokens carries the claims of its user**, who is active. -/
theorem Issues.tokens (minted : Issues jwt settings now user issued) :
    user.isActive = true ∧
      issued.accessToken = jwt.encode (accessClaims settings now user).fields ∧
      issued.refreshCookie = jwt.encode (refreshClaims settings now user).fields := by
  cases minted with
  | login checkpw users email password authenticated answered =>
      rw [AuthService.login, authenticated] at answered
      cases answered
      refine ⟨?_, rfl, rfl⟩
      obtain ⟨rows, -, found⟩ := exists_of_bind_eq_ok authenticated
      split at found
      · obtain ⟨-, -, nobody⟩ := exists_of_bind_eq_ok found
        cases nobody
      · rename_i row here
        have active := List.find?_some here
        split at found
        · cases found
          simpa using (of_decide_eq_true active).2
        · cases found
  | refresh rows cookie body payload decoded selected answered =>
      have same := eq_of_refreshToken decoded selected answered
      rw [same]
      exact ⟨active_of_selectActive selected, rfl, rfl⟩

end Minted

end PersonTracking.AuthService
