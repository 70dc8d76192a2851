import PersonTracking.Gateway.TokenAgreement

/-!
# Sessions over time

The users table changes under the sessions it has started: users are added, promoted and
deactivated while tokens minted for them are out.  No verifier reads the table, only
`/login` and `/refresh` do.

`session_current` is what this comes to.  A token that some verifier accepts was minted
less than the lifetime of an access token ago, for a user who was active then and had
the id and the role the token gives, and a refresh takes a user who is active now.  So a
user who is deactivated is out once that lifetime has passed.
-/

namespace PersonTracking.Gateway

open Library Python Shared AuthService

/-- The users table, the clock and every token minted so far. -/
structure Sessions where
  users : List User
  now : Int
  minted : List String

/-- What happens next.  A query of the database may fail. -/
inductive SessionStep
  | pass (now : Int)
  | administer (users : List User)
  | login (checkpw : CheckPw) (request : LoginRequest) (fault : Option PyError)
  | refresh (cookie body : Option String) (fault : Option PyError)

namespace Sessions

variable (jwt : Jwt) (settings : AuthServiceSettings)

/-- What a query of the users table returns. -/
def query (sessions : Sessions) : Option PyError → Query
  | some error => .error error
  | none => .ok sessions.users

/-- The signature is ideal: a token is one that was minted, or its signature is wrong. -/
def Genuine (sessions : Sessions) (token : String) : Prop :=
  token ∈ sessions.minted ∨ jwt.payloadOf token = none

/-- An answer of the auth service; tokens it mints are out from then on. -/
def answered (sessions : Sessions) : Except Failure Issued → Sessions
  | .ok issued =>
      { sessions with minted := sessions.minted ++ [issued.accessToken, issued.refreshCookie] }
  | .error _ => sessions

instance (sessions : Sessions) (token : String) : Decidable (sessions.Genuine jwt token) :=
  inferInstanceAs (Decidable (_ ∨ _))

/-- One step. -/
def step (sessions : Sessions) : SessionStep → Option Sessions
  | .pass now => if sessions.now ≤ now then some { sessions with now } else none
  | .administer users => some { sessions with users }
  | .login checkpw request fault =>
      some (sessions.answered (AuthService.login jwt settings sessions.now checkpw
        (sessions.query fault) request.email request.password))
  | .refresh cookie body fault =>
      if sessions.Genuine jwt (presentedToken cookie body) then
        some (sessions.answered (refreshToken jwt settings sessions.now (sessions.query fault)
          cookie body))
      else none

end Sessions

/-- Some verifier of access tokens accepts a token, and reads a payload from it. -/
inductive Accepts (Conn : Type) [DecidableEq Conn] (gateway : Settings) (jwt : Jwt) (now : Int)
    (token : String) (payload : List (String × Json)) : Prop
  | proxy (header scheme : String) (words : split header = [scheme, token])
      (verified : verifyToken (gateway.sharing jwt now) (some header) = .ok payload)
  | handshake (activeConnections : List Conn)
      (verified : websocketEndpoint (gateway.sharing jwt now) activeConnections (some token) =
        .ok payload)
  | verify (verified : verifyRoute jwt now token = .ok payload)

/-- How long an access token lives, in microseconds. -/
def accessLifetime (settings : AuthServiceSettings) : Int :=
  settings.accessTokenExpireMinutes * 60 * 1000000

/-- How long a refresh token lives. -/
def refreshLifetime (settings : AuthServiceSettings) : Int :=
  settings.refreshTokenExpireDays * 24 * 60 * 60 * 1000000

/-! ## What is minted -/

section Minting

variable {jwt : Jwt} {settings : AuthServiceSettings} {now : Int} {users : Query}
  {issued : Issued}

/-- A login that answers mints for an active row of the table. -/
theorem exists_user_of_login {checkpw : CheckPw} {email password : String}
    (answered : login jwt settings now checkpw users email password = .ok issued) :
    ∃ rows user, users = .ok rows ∧ user ∈ rows ∧ Issues jwt settings now user issued := by
  cases found : authenticateUser checkpw users email password with
  | error error =>
      rw [login, found] at answered
      cases answered
  | ok user? =>
      cases user? with
      | none =>
          rw [login, found] at answered
          cases answered
      | some user =>
          obtain ⟨rows, read, here⟩ := exists_of_bind_eq_ok found
          refine ⟨rows, user, read, ?_, .login checkpw users email password found answered⟩
          split at here
          · obtain ⟨-, -, nobody⟩ := exists_of_bind_eq_ok here
            cases nobody
          · rename_i row member
            split at here
            · cases here
              exact List.mem_of_find?_eq_some member
            · cases here

/-- A user who is selected is in the table, under the id that was asked for. -/
theorem mem_of_selectActive {rows : List User} {user : User} {sub : Json}
    (selected : selectActive rows sub = .ok (some user)) :
    user ∈ rows ∧ ∃ text, sub = .str text ∧ Uuid.parse text = some user.id := by
  cases sub with
  | str text =>
      rw [selectActive] at selected
      split at selected
      · rename_i id parsed
        have found := Except.ok.inj selected
        have same : user.id = id := by
          have met := List.find?_some found
          exact (of_decide_eq_true met).1
        exact ⟨List.mem_of_find?_eq_some found, text, rfl, same ▸ parsed⟩
      · cases selected
  | null => cases selected
  | bool _ | int _ | float _ | arr _ | obj _ => cases selected

/-- A refresh that answers has read a refresh token and selected its user. -/
theorem exists_user_of_refreshToken {cookie body : Option String}
    (answered : refreshToken jwt settings now users cookie body = .ok issued) :
    ∃ rows payload user, users = .ok rows ∧
      TokenService.decodeAndVerifyToken jwt now (presentedToken cookie body) = some payload ∧
      (Json.obj payload).get? "type" = some (.str "refresh") ∧
      selectActive rows (((Json.obj payload).get? "sub").getD .null) = .ok (some user) ∧
      Issues jwt settings now user issued := by
  have whole := answered
  simp only [refreshToken, raise] at answered
  split at answered
  · cases answered
  split at answered
  · cases answered
  split at answered
  · cases answered
  rename_i payload decoded
  split at answered
  · rename_i type
    split at answered
    · cases answered
    · rename_i rows
      split at answered
      · cases answered
      · cases answered
      · rename_i user selected
        exact ⟨rows, payload, user, rfl, decoded, type, selected,
          .refresh rows cookie body payload decoded selected whole⟩
  · cases answered

/-- Access tokens are of the type access. -/
theorem type_accessClaims (user : User) :
    (Json.obj (accessClaims settings now user).fields).get? "type" = some (.str "access") := rfl

/-- Refresh tokens carry the id of their user. -/
theorem sub_refreshClaims (user : User) :
    (Json.obj (refreshClaims settings now user).fields).get? "sub" =
      some (.str user.id.toText) := rfl

/-- An expiry is at most a lifetime away. -/
theorem lt_add_of_lt_expiry {later duration : Int}
    (fresh : later < expiry now duration * 1000000) : later < now + duration := by
  unfold expiry at fresh
  omega

end Minting

/-! ## What is accepted -/

section Accepting

variable {Conn : Type} [DecidableEq Conn] {gateway : Settings} {jwt : Jwt} {now : Int}
  {token : String} {payload : List (String × Json)}

/-- What the handshake checks it hands on. -/
theorem eq_of_checkHandshake {checked : List (String × Json)}
    (passes : checkHandshake payload = .ok checked) : checked = payload := by
  simp only [checkHandshake] at passes
  split at passes
  · split at passes
    · split at passes
      · exact (Except.ok.inj passes).symm
      · cases passes
      · cases passes
      · cases passes
    · cases passes
  · cases passes

/-- **All verifiers decode the token** and ask for an access token. -/
theorem Accepts.decoded (accepts : Accepts Conn gateway jwt now token payload) :
    jwt.decode now token = .ok payload ∧
      ((Json.obj payload).get? "type").getD .null = .str "access" := by
  cases accepts with
  | proxy header scheme words verified =>
      obtain ⟨_, _, words', -, decoded, known, passes⟩ := of_verifyToken verified
      rw [words] at words'
      cases words'
      obtain ⟨rfl, access, -⟩ := of_checkPayload passes
      exact ⟨known, access⟩
  | handshake activeConnections verified =>
      obtain ⟨decoded, known, passes⟩ := of_websocketEndpoint verified
      obtain rfl := eq_of_checkHandshake passes
      exact ⟨known, of_checkHandshake passes⟩
  | verify verified =>
      obtain ⟨known, access⟩ := of_verifyRoute verified
      exact ⟨known, by rw [access]; rfl⟩

end Accepting

/-! ## Where tokens come from -/

namespace Sessions

variable {jwt : Jwt} {settings : AuthServiceSettings} {sessions later : Sessions}
  {steps : List SessionStep} {token : String} {payload : List (String × Json)}

/-- A run has been at a state. -/
def Visited (jwt : Jwt) (settings : AuthServiceSettings) (sessions : Sessions)
    (steps : List SessionStep) (earlier : Sessions) : Prop :=
  ∃ taken, taken <+: steps ∧ runFrom (step jwt settings) sessions taken = some earlier

theorem Visited.extend {earlier : Sessions} (visited : Visited jwt settings sessions steps earlier)
    (more : List SessionStep) : Visited jwt settings sessions (steps ++ more) earlier := by
  obtain ⟨taken, early, reached⟩ := visited
  exact ⟨taken, early.trans (List.prefix_append steps more), reached⟩

/-- Where the tokens of a run come from: each was minted at an earlier state, for a user
who was active there. -/
structure Sourced (jwt : Jwt) (settings : AuthServiceSettings) (sessions : Sessions)
    (steps : List SessionStep) (later : Sessions) : Prop where
  clock : ∀ earlier, Visited jwt settings sessions steps earlier → earlier.now ≤ later.now
  minted : ∀ token ∈ later.minted, ∃ earlier user, Visited jwt settings sessions steps earlier ∧
    user ∈ earlier.users ∧ user.isActive = true ∧
      (token = jwt.encode (accessClaims settings earlier.now user).fields ∨
        token = jwt.encode (refreshClaims settings earlier.now user).fields)

/-- What the auth service answers is sourced, if a pair of tokens in it is for a row. -/
theorem minted_answered {answer : Except Failure Issued}
    (rows : ∀ issued, answer = .ok issued →
      ∃ user ∈ later.users, Issues jwt settings later.now user issued)
    (member : token ∈ (later.answered answer).minted) :
    token ∈ later.minted ∨ ∃ user ∈ later.users, user.isActive = true ∧
      (token = jwt.encode (accessClaims settings later.now user).fields ∨
        token = jwt.encode (refreshClaims settings later.now user).fields) := by
  cases answer with
  | error failure => exact Or.inl member
  | ok issued =>
      obtain ⟨user, row, issues⟩ := rows issued rfl
      obtain ⟨active, access, cookie⟩ := issues.tokens
      rcases List.mem_append.mp member with old | new
      · exact Or.inl old
      · refine Or.inr ⟨user, row, active, ?_⟩
        rw [List.mem_cons, List.mem_singleton, access, cookie] at new
        exact new

/-- The query of a step reads the table of its state. -/
theorem eq_users_of_query {fault : Option PyError} {rows : List User}
    (read : later.query fault = .ok rows) : rows = later.users := by
  cases fault with
  | none => exact (Except.ok.inj read).symm
  | some error => cases read

/-- What one step does to the clock and to the tokens. -/
theorem step_eq_some {next : Sessions} {action : SessionStep}
    (moved : step jwt settings later action = some next) :
    later.now ≤ next.now ∧ ∀ token ∈ next.minted, token ∈ later.minted ∨
      ∃ user ∈ later.users, user.isActive = true ∧
        (token = jwt.encode (accessClaims settings later.now user).fields ∨
          token = jwt.encode (refreshClaims settings later.now user).fields) := by
  have clock : ∀ answer, (later.answered answer).now = later.now := by
    intro answer
    cases answer <;> rfl
  cases action with
  | pass now =>
      rw [step] at moved
      split at moved
      · rename_i forward
        cases moved
        exact ⟨forward, fun token member => Or.inl member⟩
      · cases moved
  | administer users =>
      cases moved
      exact ⟨le_rfl, fun token member => Or.inl member⟩
  | login checkpw request fault =>
      cases moved
      refine ⟨(clock _).ge, fun token => minted_answered fun issued answered => ?_⟩
      obtain ⟨rows, user, read, member, issues⟩ := exists_user_of_login answered
      exact ⟨user, eq_users_of_query read ▸ member, issues⟩
  | refresh cookie body fault =>
      rw [step] at moved
      split at moved
      · cases moved
        refine ⟨(clock _).ge, fun token => minted_answered fun issued answered => ?_⟩
        obtain ⟨rows, payload, user, read, -, -, selected, issues⟩ :=
          exists_user_of_refreshToken answered
        exact ⟨user, eq_users_of_query read ▸ (mem_of_selectActive selected).1, issues⟩
      · cases moved

/-- **The tokens of every run are sourced.** -/
theorem sourced (empty : sessions.minted = [])
    (reached : runFrom (step jwt settings) sessions steps = some later) :
    Sourced jwt settings sessions steps later := by
  refine runFrom_history (P := Sourced jwt settings sessions) ?_ ?_ reached
  · constructor
    · rintro earlier ⟨taken, early, reached⟩
      rw [List.prefix_nil.mp early, runFrom_nil, Option.some.injEq] at reached
      exact reached ▸ le_rfl
    · rw [empty]
      exact fun token member => absurd member List.not_mem_nil
  · intro taken between action next before sourced moved
    obtain ⟨forward, tokens⟩ := step_eq_some moved
    have here : Visited jwt settings sessions taken between := ⟨taken, List.prefix_rfl, before⟩
    constructor
    · rintro earlier ⟨early, initial, reached⟩
      rcases List.prefix_concat_iff.mp initial with rfl | within
      · rw [runFrom_append, before, Option.bind_some, runFrom_cons, moved, Option.bind_some,
          runFrom_nil, Option.some.injEq] at reached
        exact reached ▸ le_rfl
      · exact (sourced.clock earlier ⟨early, within, reached⟩).trans forward
    · intro token member
      rcases tokens token member with old | ⟨user, row, active, same⟩
      · obtain ⟨earlier, user, visited, source⟩ := sourced.minted token old
        exact ⟨earlier, user, visited.extend _, source⟩
      · exact ⟨between, user, here.extend _, row, active, same⟩

/-- A genuine token that decodes was minted along the run, and is not older than it may be. -/
theorem exists_source (empty : sessions.minted = [])
    (reached : runFrom (step jwt settings) sessions steps = some later)
    (genuine : later.Genuine jwt token) (decoded : jwt.decode later.now token = .ok payload) :
    ∃ earlier user, Visited jwt settings sessions steps earlier ∧ earlier.now ≤ later.now ∧
      user ∈ earlier.users ∧ user.isActive = true ∧
        ((payload = (accessClaims settings earlier.now user).fields ∧
            later.now < earlier.now + accessLifetime settings) ∨
          (payload = (refreshClaims settings earlier.now user).fields ∧
            later.now < earlier.now + refreshLifetime settings)) := by
  have origin := sourced empty reached
  rcases genuine with minted | forged
  · obtain ⟨earlier, user, visited, row, active, source⟩ := origin.minted token minted
    refine ⟨earlier, user, visited, origin.clock earlier visited, row, active, ?_⟩
    -- the claims are those it was minted with, and their expiry has not passed
    have read : ∀ claims : TokenClaims, token = jwt.encode claims.fields →
        payload = claims.fields ∧ later.now < claims.exp * 1000000 := by
      rintro claims rfl
      refine ⟨fields_of_decode decoded, ?_⟩
      rw [decode_encode] at decoded
      split at decoded
      · cases decoded
      · rename_i fresh
        exact not_le.mp fresh
    rcases source with access | cookie
    · obtain ⟨same, fresh⟩ := read _ access
      exact Or.inl ⟨same, lt_add_of_lt_expiry fresh⟩
    · obtain ⟨same, fresh⟩ := read _ cookie
      exact Or.inr ⟨same, lt_add_of_lt_expiry fresh⟩
  · rw [Jwt.decode, forged] at decoded
    cases decoded

section Current

variable {Conn : Type} [DecidableEq Conn] {gateway : Settings}

/-- A user was active under an id and with a role, not longer ago than an access token lives. -/
def RecentlyActive (jwt : Jwt) (settings : AuthServiceSettings) (sessions : Sessions)
    (steps : List SessionStep) (later : Sessions) (sub : String) (roleId : Int) : Prop :=
  ∃ earlier, Visited jwt settings sessions steps earlier ∧ earlier.now ≤ later.now ∧
    later.now < earlier.now + accessLifetime settings ∧
      ∃ user ∈ earlier.users, user.isActive = true ∧ user.id.toText = sub ∧ user.roleId = roleId

/-- A token that is accepted speaks of a user who was active recently. -/
theorem recentlyActive_of_accepts (empty : sessions.minted = [])
    (reached : runFrom (step jwt settings) sessions steps = some later)
    (genuine : later.Genuine jwt token)
    (accepts : Accepts Conn gateway jwt later.now token payload) :
    ∃ sub roleId, (Json.obj payload).get? "sub" = some (.str sub) ∧
      (Json.obj payload).get? "role_id" = some (.int roleId) ∧
        RecentlyActive jwt settings sessions steps later sub roleId := by
  obtain ⟨decoded, type⟩ := accepts.decoded
  obtain ⟨earlier, user, visited, before, row, active, source⟩ :=
    exists_source empty reached genuine decoded
  rcases source with ⟨rfl, fresh⟩ | ⟨rfl, -⟩
  · exact ⟨_, _, rfl, rfl, earlier, visited, before, fresh, user, row, active, rfl, rfl⟩
  · exact absurd type type_refresh

/-- A token that is refreshed is a refresh token of a user who is active. -/
theorem active_of_refreshToken (empty : sessions.minted = [])
    (reached : runFrom (step jwt settings) sessions steps = some later)
    {cookie body : Option String} (genuine : later.Genuine jwt (presentedToken cookie body))
    {issued : Issued}
    (answered : refreshToken jwt settings later.now (.ok later.users) cookie body = .ok issued) :
    ∃ user ∈ later.users, user.isActive = true ∧
      issued = issueTokens jwt settings later.now user ∧
      ∃ earlier, Visited jwt settings sessions steps earlier ∧ earlier.now ≤ later.now ∧
        later.now < earlier.now + refreshLifetime settings ∧
          ∃ former ∈ earlier.users, former.isActive = true ∧ former.id = user.id := by
  obtain ⟨rows, payload, user, read, verified, type, selected, -⟩ :=
    exists_user_of_refreshToken answered
  cases read
  obtain ⟨row, sub, named, parsed⟩ := mem_of_selectActive selected
  refine ⟨user, row, active_of_selectActive selected,
    eq_of_refreshToken verified selected answered, ?_⟩
  have decoded : jwt.decode later.now (presentedToken cookie body) = .ok payload := by
    rw [TokenService.decodeAndVerifyToken] at verified
    split at verified
    · rename_i found known
      cases verified
      exact known
    · cases verified
  obtain ⟨earlier, former, visited, before, was, active, source⟩ :=
    exists_source empty reached genuine decoded
  rcases source with ⟨rfl, -⟩ | ⟨rfl, fresh⟩
  · rw [type_accessClaims] at type
    exact absurd (Json.str.inj (Option.some.inj type)) (by decide)
  · refine ⟨earlier, visited, before, fresh, former, was, active, ?_⟩
    rw [sub_refreshClaims, Option.getD_some] at named
    rw [← Json.str.inj named, Uuid.parse_toText] at parsed
    exact Option.some.inj parsed

/-- **Sessions are current.**  A token that some verifier of access tokens accepts gives
the id and the role of a user who was active less than the lifetime of an access token ago;
and what is refreshed is a refresh token, not older than its lifetime, of a user who is
active now. -/
theorem session_current (empty : sessions.minted = [])
    (reached : runFrom (step jwt settings) sessions steps = some later) :
    (∀ token payload, later.Genuine jwt token →
      Accepts Conn gateway jwt later.now token payload →
        ∃ sub roleId, (Json.obj payload).get? "sub" = some (.str sub) ∧
          (Json.obj payload).get? "role_id" = some (.int roleId) ∧
            RecentlyActive jwt settings sessions steps later sub roleId) ∧
      ∀ cookie body issued, later.Genuine jwt (presentedToken cookie body) →
        refreshToken jwt settings later.now (.ok later.users) cookie body = .ok issued →
          ∃ user ∈ later.users, user.isActive = true ∧
            issued = issueTokens jwt settings later.now user ∧
            ∃ earlier, Visited jwt settings sessions steps earlier ∧ earlier.now ≤ later.now ∧
              later.now < earlier.now + refreshLifetime settings ∧
                ∃ former ∈ earlier.users, former.isActive = true ∧ former.id = user.id :=
  ⟨fun _ _ genuine accepts => recentlyActive_of_accepts empty reached genuine accepts,
    fun _ _ _ genuine answered => active_of_refreshToken empty reached genuine answered⟩

/-- **A user who is deactivated is out** once the lifetime of an access token has passed. -/
theorem not_accepts_of_deactivated (empty : sessions.minted = [])
    (reached : runFrom (step jwt settings) sessions steps = some later) {id : Uuid} {since : Int}
    (gone : ∀ earlier, Visited jwt settings sessions steps earlier → since < earlier.now →
      ∀ user ∈ earlier.users, user.id = id → user.isActive = false)
    (elapsed : since + accessLifetime settings ≤ later.now) (genuine : later.Genuine jwt token)
    (named : (Json.obj payload).get? "sub" = some (.str id.toText)) :
    ¬ Accepts Conn gateway jwt later.now token payload := by
  intro accepts
  obtain ⟨sub, roleId, subject, -, earlier, visited, -, fresh, user, row, active, same, -⟩ :=
    recentlyActive_of_accepts empty reached genuine accepts
  have texts : sub = id.toText := Json.str.inj (Option.some.inj (subject.symm.trans named))
  have inactive := gone earlier visited (by omega) user row
    (Uuid.toText_injective (same.trans texts))
  rw [active] at inactive
  cases inactive

end Current

end Sessions

/-! ## An operator's session -/

/-- Alice before she logs in. -/
def beforeLogin : Sessions where
  users := [alice]
  now := 1760000000000000
  minted := []

/-- Alice's request. -/
def aliceLogin : LoginRequest where
  email := "alice@example.com"
  password := "alice"
  notEmpty := by decide
  notLong := by decide

/-- Alice 59 minutes after she has logged in. -/
noncomputable def afterLogin : Sessions where
  users := [alice]
  now := 1760003540000000
  minted :=
    let issued := issueTokens Jwt.fixed exampleAuthSettings 1760000000000000 alice
    [issued.accessToken, issued.refreshCookie]

theorem runFrom_beforeLogin :
    runFrom (Sessions.step Jwt.fixed exampleAuthSettings) beforeLogin
      [.login exampleCheckpw aliceLogin none, .pass 1760003540000000] = some afterLogin := by
  have right : verifyPassword exampleCheckpw "alice" alice.hashedPassword = true := by
    decide +kernel
  have answered : login Jwt.fixed exampleAuthSettings 1760000000000000 exampleCheckpw (.ok [alice])
      aliceLogin.email aliceLogin.password =
        .ok (issueTokens Jwt.fixed exampleAuthSettings 1760000000000000 alice) := by
    have active : alice.isActive = true := rfl
    have found : authenticateUser exampleCheckpw (.ok [alice]) alice.email "alice" =
        .ok (some alice) := by
      simp [authenticateUser, active, right, bind, Except.bind, pure, Except.pure]
    rw [login, show authenticateUser exampleCheckpw (.ok [alice]) aliceLogin.email
      aliceLogin.password = .ok (some alice) from found]
  rw [runFrom_cons, Sessions.step, Option.bind_some]
  show runFrom _ (beforeLogin.answered (login Jwt.fixed exampleAuthSettings 1760000000000000
    exampleCheckpw (.ok [alice]) aliceLogin.email aliceLogin.password)) _ = _
  rw [answered]
  rfl

/-- Her token is accepted, and it is one the theorem speaks of. -/
theorem session_current_alice :
    ∃ token payload, afterLogin.Genuine Jwt.fixed token ∧
      Accepts ℕ exampleSettings Jwt.fixed afterLogin.now token payload ∧
        ∃ sub roleId, (Json.obj payload).get? "sub" = some (.str sub) ∧
          (Json.obj payload).get? "role_id" = some (.int roleId) ∧
            Sessions.RecentlyActive Jwt.fixed exampleAuthSettings beforeLogin
              [.login exampleCheckpw aliceLogin none, .pass 1760003540000000] afterLogin
              sub roleId := by
  have fits : Fits exampleAuthSettings 1760000000000000 alice := by
    show _ ≤ _
    decide +kernel
  have fresh : afterLogin.now < accessExpiry exampleAuthSettings 1760000000000000 * 1000000 := by
    decide
  obtain ⟨proxy, -⟩ := @accepted_of_fits ℕ _ Jwt.fixed exampleSettings exampleAuthSettings
    1760000000000000 alice .operator rfl fits _ fresh
  have words := split_bearer (Jwt.fixed.spaceless
    (accessClaims exampleAuthSettings 1760000000000000 alice)) encode_ne_empty
  have genuine : afterLogin.Genuine Jwt.fixed (Jwt.fixed.encode
      (accessClaims exampleAuthSettings 1760000000000000 alice).fields) :=
    Or.inl List.mem_cons_self
  have accepts : Accepts ℕ exampleSettings Jwt.fixed afterLogin.now _ _ := .proxy _ _ words proxy
  exact ⟨_, _, genuine, accepts,
    (Sessions.session_current rfl runFrom_beforeLogin).1 _ _ genuine accepts⟩

end PersonTracking.Gateway
