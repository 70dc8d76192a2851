import Mathlib.Tactic.NormNum
import PersonTracking.Library.Transition
import PersonTracking.Python.Text
import PersonTracking.Web.SharedWebSocketClient
import PersonTracking.Web.Values

/-!
# Logging out of a page

The auth store with the module variable `inMemoryRefreshToken`, the two items it keeps
in `localStorage`, and the one refresh that `refreshAccessToken` lets be under way.
A step is what runs without waiting: an action of the store, a call of
`refreshAccessToken` up to its request, or the rest of that call when the answer is
there.  The ghost field `loggedOut` says that `logout` has run and that no login,
`initAuth` or start of a refresh has come since.

`final_iff_heldBack` says exactly in which runs a logout is final: those in which no
refresh comes back after a logout with a token that the store accepts.
`signed_in_after_logout` is a run in which one does.
-/

namespace PersonTracking.Web

open Library

/-- A number in arithmetic. -/
inductive JsNumber
  | finite (value : ℚ)
  | infinity
  | negInfinity
  | nan

/-- `seconds * 1000 - bufferMs <= now`.  Nothing is less than or equal to `NaN`. -/
def JsNumber.expired (bufferMs now : ℚ) : JsNumber → Bool
  | .finite seconds => seconds * 1000 - bufferMs ≤ now
  | .negInfinity => true
  | .infinity | .nan => false

/-- What the store asks of the browser. -/
structure Browser where
  /-- `window.atob`, or nothing where it throws. -/
  atob : List Char → Option (List Char)
  /-- `decodeURIComponent`, or nothing where it throws. -/
  decodeURIComponent : List Char → Option (List Char)
  /-- `JSON.parse`, or nothing where it throws. -/
  parse : List Char → Option JsValue
  /-- What a value counts as in arithmetic, or nothing where it throws: an object may
  hide the methods that would tell. -/
  toNumber : JsValue → Option JsNumber

/-- `UserProfile`. -/
structure UserProfile where
  id : JsValue
  email : JsValue
  roleId : ℚ
  fullName : JsValue

/-- `TOKEN_EXPIRY_BUFFER_MS`. -/
def tokenExpiryBufferMs : ℚ := 10000

/-- `'%' + ('00' + c.charCodeAt(0).toString(16)).slice(-2)`. -/
def percentEncoded (c : Char) : List Char := '%' :: Python.padded 16 2 c.toNat

/-- The base64 letter for a letter of base64url. -/
def fromBase64Url (c : Char) : Char := if c = '-' then '+' else if c = '_' then '/' else c

namespace Browser

variable (browser : Browser)

/-- `decodeJwt`.  `undefined` has no `split`. -/
def decodeJwt (token : Option String) : Option JsValue := do
  let token ← token
  let base64Url ← (token.toList.splitOn '.')[1]?
  if base64Url = [] then none
  else
    let binary ← browser.atob (base64Url.map fromBase64Url)
    let jsonPayload ← browser.decodeURIComponent (binary.flatMap percentEncoded)
    browser.parse jsonPayload

/-- `isTokenExpired`, or nothing where it throws. -/
def isTokenExpired (decoded : JsValue) (bufferMs now : ℚ) : Option Bool :=
  match (decoded.property "exp").filter JsValue.truthy with
  | none => some true
  | some exp => (browser.toNumber exp).map (JsNumber.expired bufferMs now)

end Browser

/-- `decoded.type === 'access'`. -/
def isAccess (decoded : JsValue) : Bool :=
  (decoded.property "type").bind JsValue.asString = some "access"

/-- What `buildUserProfile` does: it returns a profile or `null`, or throws. -/
inductive Profile
  | built (user : UserProfile)
  | null
  | throws

/-- `buildUserProfile`.  The default for the name calls a method of strings. -/
def buildUserProfile (decoded : JsValue) : Profile :=
  match (decoded.property "sub").filter JsValue.truthy,
      (decoded.property "email").filter JsValue.truthy,
      (decoded.property "role_id").bind JsValue.asNumber with
  | some sub, some email, some roleId =>
      match (decoded.property "full_name").filter JsValue.truthy, email.asString with
      | some fullName, _ => .built ⟨sub, email, roleId, fullName⟩
      | none, some text =>
          .built ⟨sub, email, roleId, .string (String.ofList ((text.toList.splitOn '@').headD []))⟩
      | none, none => .throws
  | _, _, _ => .null

namespace Browser

variable (browser : Browser)

/-- `isAccessTokenUsable` with the default buffer, or nothing where it throws. -/
def isAccessTokenUsable (token : Option String) (now : ℚ) : Option Bool :=
  match browser.decodeJwt (token.filter fun text => text ≠ "") with
  | none => some false
  | some decoded =>
      if isAccess decoded then
        (browser.isTokenExpired decoded tokenExpiryBufferMs now).map fun expired => !expired
      else some false

/-- What `setAccessToken` makes of a token before it stores anything: the profile, `null`
where it logs out, or an error. -/
def profile (accessToken : Option String) (now : ℚ) : Profile :=
  match browser.decodeJwt accessToken with
  | none => .null
  | some decoded =>
      if isAccess decoded then
        match buildUserProfile decoded with
        | .built user =>
            match browser.isTokenExpired decoded tokenExpiryBufferMs now with
            | some false => .built user
            | some true => .null
            | none => .throws
        | .null => .null
        | .throws => .throws
      else .null

/-- What `initAuth` makes of the token that is stored: the profile, `null` where it finds
nobody signed in, or an error. -/
def restored (accessToken : Option String) (now : ℚ) : Profile :=
  match browser.isAccessTokenUsable accessToken now with
  | some true => (browser.decodeJwt accessToken).elim .null buildUserProfile
  | some false => .null
  | none => .throws

/-- `setAccessToken` stores the token. -/
def Accepts (accessToken : Option String) (now : ℚ) : Prop :=
  ∃ user, browser.profile accessToken now = .built user

instance (accessToken : Option String) (now : ℚ) : Decidable (browser.Accepts accessToken now) :=
  match met : browser.profile accessToken now with
  | .built user => isTrue ⟨user, met⟩
  | .null | .throws => isFalse fun ⟨_, built⟩ => by rw [met] at built; cases built

section Profile

variable {browser : Browser} {accessToken : Option String} {decoded : JsValue} {now : ℚ}

theorem profile_of_built {user : UserProfile} (read : browser.decodeJwt accessToken = some decoded)
    (access : isAccess decoded = true) (made : buildUserProfile decoded = .built user)
    (standing : browser.isTokenExpired decoded tokenExpiryBufferMs now = some false) :
    browser.profile accessToken now = .built user := by
  simp [profile, read, access, made, standing]

theorem profile_of_throws (read : browser.decodeJwt accessToken = some decoded)
    (access : isAccess decoded = true) (made : buildUserProfile decoded = .throws) :
    browser.profile accessToken now = .throws := by
  simp [profile, read, access, made]

end Profile

/-- Only a string is accepted. -/
theorem isSome_of_accepts {browser : Browser} {accessToken : Option String} {now : ℚ}
    (accepted : browser.Accepts accessToken now) : accessToken.isSome = true := by
  cases accessToken with
  | none => obtain ⟨user, ⟨⟩⟩ := accepted
  | some accessToken => rfl

/-- Only a string is restored. -/
theorem isSome_of_restored {browser : Browser} {accessToken : Option String} {now : ℚ}
    {user : UserProfile} (built : browser.restored accessToken now = .built user) :
    accessToken.isSome = true := by
  cases accessToken with
  | none => cases built
  | some accessToken => rfl

end Browser

/-- The store and what is kept beside it. -/
structure AuthStore where
  accessToken : Option String
  refreshToken : Option String
  isAuthenticated : Bool
  isInitialized : Bool
  user : Option UserProfile
  inMemoryRefreshToken : Option String
  /-- The item `mcpt_access_token` of `localStorage`. -/
  storedAccessToken : Option String
  /-- The item `mcpt_refresh_token` of `localStorage`. -/
  storedRefreshToken : Option String
  /-- `refreshPromise` is not `null`. -/
  refreshPromise : Bool
  /-- `logout` has run, and no login, `initAuth` or start of a refresh has come since. -/
  loggedOut : Bool

/-- What can happen next.  `Date.now()` comes with the steps that read it. -/
inductive AuthStep
  | login (accessToken : Option String) (refreshToken : Option String) (now : ℚ)
  | logout
  | initAuth (now : ℚ)
  /-- A caller of `refreshAccessToken`. -/
  | refreshAccessToken
  /-- The request of the refresh succeeds, and its body has this `access_token`. -/
  | refreshSucceeds (accessToken : Option String) (now : ℚ)
  | refreshFails

namespace AuthStore

/-- The page as it loads, with what `localStorage` holds from before. -/
def start (storedAccessToken storedRefreshToken : Option String) : AuthStore where
  accessToken := none
  refreshToken := none
  isAuthenticated := false
  isInitialized := false
  user := none
  inMemoryRefreshToken := none
  storedAccessToken := storedAccessToken
  storedRefreshToken := storedRefreshToken
  refreshPromise := false
  loggedOut := false

variable (browser : Browser) (store : AuthStore)

/-! ## The actions -/

/-- `logout`. -/
def logout : AuthStore :=
  { store with
    inMemoryRefreshToken := none
    storedAccessToken := none
    storedRefreshToken := none
    accessToken := none
    refreshToken := none
    isAuthenticated := false
    isInitialized := true
    user := none
    loggedOut := true }

/-- A refresh token that is given and not empty replaces the one in memory. -/
def keptRefreshToken (refreshToken : Option String) : Option String :=
  if isMissing refreshToken then store.inMemoryRefreshToken else refreshToken

/-- What `setAccessToken` does with a token that it accepts. -/
def signIn (accessToken refreshToken : Option String) (user : UserProfile) : AuthStore :=
  { store with
    storedAccessToken := accessToken
    storedRefreshToken := none
    inMemoryRefreshToken := store.keptRefreshToken refreshToken
    accessToken := accessToken
    refreshToken := store.keptRefreshToken refreshToken
    isAuthenticated := true
    isInitialized := true
    user := some user }

/-- `setAccessToken`, or nothing where it throws. -/
def setAccessToken (accessToken refreshToken : Option String) (now : ℚ) : Option AuthStore :=
  match browser.profile accessToken now with
  | .built user => some (store.signIn accessToken refreshToken user)
  | .null => some store.logout
  | .throws => none

/-- `login`.  An error goes to the caller and leaves the store as it is. -/
def login (accessToken refreshToken : Option String) (now : ℚ) : AuthStore :=
  let called := { store with loggedOut := false }
  (called.setAccessToken browser accessToken refreshToken now).getD called

/-- What `initAuth` sets when it finds no usable token. -/
def unauthenticated : AuthStore :=
  { store with
    storedAccessToken := none
    accessToken := none
    refreshToken := store.inMemoryRefreshToken
    isAuthenticated := false
    isInitialized := true
    user := none }

/-- `initAuth`.  An error leaves what it finds, but for the refresh token. -/
def initAuth (now : ℚ) : AuthStore :=
  let moved := { store with
    storedRefreshToken := none
    inMemoryRefreshToken := store.keptRefreshToken store.storedRefreshToken
    loggedOut := false }
  match browser.restored store.storedAccessToken now with
  | .built user => { moved with
      accessToken := store.storedAccessToken
      refreshToken := moved.inMemoryRefreshToken
      isAuthenticated := true
      isInitialized := true
      user := some user }
  | .null => moved.unauthenticated
  -- the error comes before the token is removed
  | .throws => moved

/-- `refreshAccessToken` up to its request: a refresh that is under way is shared. -/
def refreshAccessToken : AuthStore :=
  if store.refreshPromise then store
  else { store with refreshPromise := true, loggedOut := false }

/-- The `finally` of the refresh. -/
def settled : AuthStore := { store with refreshPromise := false }

/-- The rest of the refresh when its request has succeeded. -/
def refreshSucceeds (accessToken : Option String) (now : ℚ) : AuthStore :=
  ((store.setAccessToken browser accessToken none now).getD store.logout).settled

/-- The rest of the refresh when its request has failed. -/
def refreshFails : AuthStore := store.logout.settled

/-- One step. -/
def step : AuthStep → Option AuthStore
  | .login accessToken refreshToken now => some (store.login browser accessToken refreshToken now)
  | .logout => some store.logout
  | .initAuth now => some (store.initAuth browser now)
  | .refreshAccessToken => some store.refreshAccessToken
  | .refreshSucceeds accessToken now =>
      if store.refreshPromise then some (store.refreshSucceeds browser accessToken now) else none
  | .refreshFails => if store.refreshPromise then some store.refreshFails else none

/-- **Logout is final**: after it nobody is authenticated, and neither the store nor
`localStorage` has an access token. -/
def Final : Prop :=
  store.loggedOut = true →
    store.isAuthenticated = false ∧ store.accessToken = none ∧ store.storedAccessToken = none

/-- The condition on a step: a refresh that comes back with a token that the store
accepts finds that no logout has run since it began. -/
def HeldBack : AuthStep → Prop
  | .refreshSucceeds accessToken now =>
      store.refreshPromise = true → browser.Accepts accessToken now → store.loggedOut = false
  | _ => True

/-- What the fields have to do with each other. -/
structure Coherent : Prop where
  token : store.isAuthenticated = store.accessToken.isSome
  profile : store.isAuthenticated = store.user.isSome
  stored : store.isAuthenticated = true → store.storedAccessToken = store.accessToken

variable {browser} {store} {after : AuthStore}

/-! ## What the actions do -/

theorem setAccessToken_of_accepts (store : AuthStore) {accessToken : Option String} {now : ℚ}
    (accepted : browser.Accepts accessToken now) (refreshToken : Option String) :
    ∃ user, store.setAccessToken browser accessToken refreshToken now =
      some (store.signIn accessToken refreshToken user) := by
  obtain ⟨user, built⟩ := accepted
  exact ⟨user, by rw [setAccessToken, built]⟩

/-- A token that is not accepted logs out, unless it makes `buildUserProfile` throw. -/
theorem setAccessToken_of_not_accepts (store : AuthStore) {accessToken : Option String} {now : ℚ}
    (rejected : ¬ browser.Accepts accessToken now) (refreshToken : Option String) :
    store.setAccessToken browser accessToken refreshToken now = some store.logout ∨
      store.setAccessToken browser accessToken refreshToken now = none := by
  unfold setAccessToken
  cases made : browser.profile accessToken now with
  | built user => exact absurd ⟨user, made⟩ rejected
  | null => exact .inl rfl
  | throws => exact .inr rfl

/-- A refresh that comes back signs in or logs out. -/
theorem refreshSucceeds_eq (browser : Browser) (store : AuthStore)
    (accessToken : Option String) (now : ℚ) :
    (browser.Accepts accessToken now ∧ ∃ user, store.refreshSucceeds browser accessToken now =
      (store.signIn accessToken none user).settled) ∨
    (¬ browser.Accepts accessToken now ∧
      store.refreshSucceeds browser accessToken now = store.refreshFails) := by
  by_cases accepted : browser.Accepts accessToken now
  · obtain ⟨user, signed⟩ := store.setAccessToken_of_accepts accepted none
    exact .inl ⟨accepted, user, by rw [refreshSucceeds, signed, Option.getD_some]⟩
  · refine .inr ⟨accepted, ?_⟩
    rcases store.setAccessToken_of_not_accepts accepted none with out | threw
    · rw [refreshSucceeds, out, Option.getD_some, refreshFails]
    · rw [refreshSucceeds, threw, Option.getD_none, refreshFails]

/-- A login signs in, logs out, or leaves the store as it is. -/
theorem login_eq (browser : Browser) (store : AuthStore)
    (accessToken refreshToken : Option String) (now : ℚ) :
    (browser.Accepts accessToken now ∧ ∃ user, store.login browser accessToken refreshToken now =
      { store with loggedOut := false }.signIn accessToken refreshToken user) ∨
    store.login browser accessToken refreshToken now = store.logout ∨
    store.login browser accessToken refreshToken now = { store with loggedOut := false } := by
  by_cases accepted : browser.Accepts accessToken now
  · obtain ⟨user, signed⟩ :=
      setAccessToken_of_accepts { store with loggedOut := false } accepted refreshToken
    exact .inl ⟨accepted, user, by rw [login, signed, Option.getD_some]⟩
  · rcases setAccessToken_of_not_accepts { store with loggedOut := false } accepted
      refreshToken with out | threw
    · exact .inr (.inl (by rw [login, out, Option.getD_some]; rfl))
    · exact .inr (.inr (by rw [login, threw, Option.getD_none]))

/-- `initAuth` is not a logout. -/
theorem initAuth_loggedOut (now : ℚ) : (store.initAuth browser now).loggedOut = false := by
  unfold initAuth
  cases browser.restored store.storedAccessToken now <;> rfl

/-! ## What a logout leaves -/

theorem final_logout : store.logout.Final := fun _ => ⟨rfl, rfl, rfl⟩

theorem final_of_loggedOut (standing : store.loggedOut = false) : store.Final := fun out => by
  rw [standing] at out
  cases out

theorem Final.settled (final : store.Final) : store.settled.Final := final

/-! ## Runs -/

theorem final_start (storedAccessToken storedRefreshToken : Option String) :
    (start storedAccessToken storedRefreshToken).Final := fun out => by cases out

/-- **One step.** -/
theorem final_step {next : AuthStep} (final : store.Final) (heldBack : store.HeldBack browser next)
    (moved : store.step browser next = some after) : after.Final := by
  cases next with
  | login accessToken refreshToken now =>
      cases moved
      rcases login_eq browser store accessToken refreshToken now with
        ⟨-, user, signed⟩ | out | same
      · exact signed ▸ final_of_loggedOut rfl
      · exact out ▸ final_logout
      · exact same ▸ final_of_loggedOut rfl
  | logout =>
      cases moved
      exact final_logout
  | initAuth now =>
      cases moved
      exact final_of_loggedOut (initAuth_loggedOut now)
  | refreshAccessToken =>
      cases moved
      unfold refreshAccessToken
      split
      · exact final
      · exact final_of_loggedOut rfl
  | refreshSucceeds accessToken now =>
      obtain ⟨waiting, ⟨⟩⟩ := Option.ite_none_right_eq_some.mp moved
      rcases refreshSucceeds_eq browser store accessToken now with
        ⟨accepted, user, signed⟩ | ⟨-, out⟩
      · exact signed ▸ final_of_loggedOut (heldBack waiting accepted)
      · exact out ▸ final_logout.settled
  | refreshFails =>
      obtain ⟨-, ⟨⟩⟩ := Option.ite_none_right_eq_some.mp moved
      exact final_logout.settled

/-- A refresh that comes back after a logout with a token that the store accepts signs
in again. -/
theorem not_final_of_not_heldBack {next : AuthStep} (late : ¬ store.HeldBack browser next) :
    ∃ after, store.step browser next = some after ∧ ¬ after.Final := by
  cases next with
  | refreshSucceeds accessToken now =>
      simp only [HeldBack, not_forall, Bool.not_eq_false] at late
      obtain ⟨waiting, accepted, out⟩ := late
      refine ⟨_, if_pos waiting, fun final => ?_⟩
      rcases refreshSucceeds_eq browser store accessToken now with
        ⟨-, user, signed⟩ | ⟨rejected, -⟩
      · rw [signed] at final
        have authenticated := (final out).1
        cases authenticated
      · exact rejected accepted
  | _ => exact absurd trivial late

/-- **A logout is final**, after every step of a run in any order, if and only if no
refresh comes back after a logout with a token that the store accepts, unless a login,
`initAuth` or a start of a refresh has come between. -/
theorem final_iff_heldBack (browser : Browser)
    (storedAccessToken storedRefreshToken : Option String) (steps : List AuthStep) :
    (∀ taken after, taken <+: steps →
      runFrom (step browser) (start storedAccessToken storedRefreshToken) taken = some after →
        after.Final) ↔
      Meets (HeldBack browser) (step browser) (start storedAccessToken storedRefreshToken) steps :=
  forall_prefix_iff_meets (fun _ => id) (fun _ _ _ => final_step)
    (fun _ _ _ => not_final_of_not_heldBack) (final_start storedAccessToken storedRefreshToken)

/-! ## The fields agree -/

theorem coherent_start (storedAccessToken storedRefreshToken : Option String) :
    (start storedAccessToken storedRefreshToken).Coherent where
  token := rfl
  profile := rfl
  stored signed := by cases signed

theorem coherent_logout : store.logout.Coherent where
  token := rfl
  profile := rfl
  stored signed := by cases signed

theorem coherent_unauthenticated : store.unauthenticated.Coherent where
  token := rfl
  profile := rfl
  stored signed := by cases signed

theorem coherent_signIn {accessToken : Option String} {now : ℚ}
    (accepted : browser.Accepts accessToken now) (refreshToken : Option String)
    (user : UserProfile) : (store.signIn accessToken refreshToken user).Coherent where
  token := (Browser.isSome_of_accepts accepted).symm
  profile := rfl
  stored _ := rfl

/-- Nothing else counts of a store. -/
theorem Coherent.of_same (coherent : store.Coherent)
    (authenticated : after.isAuthenticated = store.isAuthenticated)
    (token : after.accessToken = store.accessToken) (user : after.user = store.user)
    (stored : after.storedAccessToken = store.storedAccessToken) : after.Coherent where
  token := by rw [authenticated, token, coherent.token]
  profile := by rw [authenticated, user, coherent.profile]
  stored := by
    rw [authenticated, stored, token]
    exact coherent.stored

theorem Coherent.settled (coherent : store.Coherent) : store.settled.Coherent :=
  coherent.of_same rfl rfl rfl rfl

theorem Coherent.initAuth (coherent : store.Coherent) (now : ℚ) :
    (store.initAuth browser now).Coherent := by
  unfold AuthStore.initAuth
  cases made : browser.restored store.storedAccessToken now with
  | built user =>
      exact ⟨(Browser.isSome_of_restored made).symm, rfl, fun _ => rfl⟩
  | null => exact coherent_unauthenticated
  | throws => exact coherent.of_same rfl rfl rfl rfl

theorem coherent_step {next : AuthStep} (coherent : store.Coherent)
    (moved : store.step browser next = some after) : after.Coherent := by
  cases next with
  | login accessToken refreshToken now =>
      cases moved
      rcases login_eq browser store accessToken refreshToken now with
        ⟨accepted, user, signed⟩ | out | same
      · exact signed ▸ coherent_signIn accepted refreshToken user
      · exact out ▸ coherent_logout
      · exact same ▸ coherent.of_same rfl rfl rfl rfl
  | logout =>
      cases moved
      exact coherent_logout
  | initAuth now =>
      cases moved
      exact coherent.initAuth now
  | refreshAccessToken =>
      cases moved
      unfold refreshAccessToken
      split
      · exact coherent
      · exact coherent.of_same rfl rfl rfl rfl
  | refreshSucceeds accessToken now =>
      obtain ⟨-, ⟨⟩⟩ := Option.ite_none_right_eq_some.mp moved
      rcases refreshSucceeds_eq browser store accessToken now with
        ⟨accepted, user, signed⟩ | ⟨-, out⟩
      · exact signed ▸ (coherent_signIn accepted none user).settled
      · exact out ▸ coherent_logout.settled
  | refreshFails =>
      obtain ⟨-, ⟨⟩⟩ := Option.ite_none_right_eq_some.mp moved
      exact coherent_logout.settled

/-- **Whoever is authenticated** has an access token and a profile, and `localStorage`
holds the same token; whoever is not has neither. -/
theorem coherent_of_run {storedAccessToken storedRefreshToken : Option String}
    {steps : List AuthStep}
    (reached : runFrom (step browser) (start storedAccessToken storedRefreshToken) steps =
      some store) : store.Coherent :=
  runFrom_invariant (fun _ _ _ => coherent_step)
    (coherent_start storedAccessToken storedRefreshToken) reached

/-! ## A refresh that comes back late -/

/-- What the example token says. -/
def exampleJson : List Char :=
  ['{', '"', 's', 'u', 'b', '"', ':', '"', '1', '"', ',', '"', 'e', 'm', 'a', 'i', 'l', '"', ':',
   '"', 'a', '@', 'b', '.', 'c', '"', ',', '"', 'r', 'o', 'l', 'e', '_', 'i', 'd', '"', ':', '1',
   ',', '"', 't', 'y', 'p', 'e', '"', ':', '"', 'a', 'c', 'c', 'e', 's', 's', '"', ',', '"', 'e',
   'x', 'p', '"', ':', '9', '9', '9', '9', '9', '9', '9', '9', '9', '9', '}']

/-- What `JSON.parse` makes of it. -/
def exampleDecoded : JsValue :=
  .object [("sub", .string "1"), ("email", .string "a@b.c"), ("role_id", .number 1),
    ("type", .string "access"), ("exp", .number 9999999999)]

/-- The text in base64. -/
def examplePayload : List Char :=
  ['e', 'y', 'J', 'z', 'd', 'W', 'I', 'i', 'O', 'i', 'I', 'x', 'I', 'i', 'w', 'i', 'Z', 'W', '1',
   'h', 'a', 'W', 'w', 'i', 'O', 'i', 'J', 'h', 'Q', 'G', 'I', 'u', 'Y', 'y', 'I', 's', 'I', 'n',
   'J', 'v', 'b', 'G', 'V', 'f', 'a', 'W', 'Q', 'i', 'O', 'j', 'E', 's', 'I', 'n', 'R', '5', 'c',
   'G', 'U', 'i', 'O', 'i', 'J', 'h', 'Y', '2', 'N', 'l', 'c', '3', 'M', 'i', 'L', 'C', 'J', 'l',
   'e', 'H', 'A', 'i', 'O', 'j', 'k', '5', 'O', 'T', 'k', '5', 'O', 'T', 'k', '5', 'O', 'T', 'l',
   '9']

/-- A token that is good until the year 2286. -/
def exampleToken : String :=
  String.ofList (['.'].intercalate [['e', '3', '0'], examplePayload, ['s']])

/-- A browser, on what this token gives it. -/
def exampleBrowser : Browser where
  atob chars := if chars = examplePayload.map fromBase64Url then some exampleJson else none
  decodeURIComponent chars :=
    if chars = exampleJson.flatMap percentEncoded then some exampleJson else none
  parse chars := if chars = exampleJson then some exampleDecoded else none
  toNumber value := some (value.asNumber.elim .nan .finite)

theorem exampleBrowser_decodeJwt :
    exampleBrowser.decodeJwt (some exampleToken) = some exampleDecoded := by
  have parts : exampleToken.toList.splitOn '.' = [['e', '3', '0'], examplePayload, ['s']] := by
    rw [exampleToken, String.toList_ofList]
    exact List.splitOn_intercalate '.' (by decide) (List.cons_ne_nil _ _)
  have there : examplePayload ≠ [] := List.cons_ne_nil _ _
  simp [Browser.decodeJwt, parts, there, exampleBrowser]

theorem exampleBrowser_accepts : exampleBrowser.Accepts (some exampleToken) 0 := by
  have access : isAccess exampleDecoded = true := by decide
  have user : buildUserProfile exampleDecoded =
      .built ⟨.string "1", .string "a@b.c", 1, .string "a"⟩ := by
    rfl
  have standing :
      exampleBrowser.isTokenExpired exampleDecoded tokenExpiryBufferMs 0 = some false := by
    have given : (exampleDecoded.property "exp").filter JsValue.truthy =
        some (.number 9999999999) := by
      simp [exampleDecoded, JsValue.property, JsValue.truthy, Option.filter]
    rw [Browser.isTokenExpired, given, exampleBrowser, tokenExpiryBufferMs]
    norm_num [JsValue.asNumber, JsNumber.expired]
  exact ⟨_, Browser.profile_of_built exampleBrowser_decodeJwt access user standing⟩

/-- The page logs in, a request is answered 401 and a refresh begins, the user logs out,
and the refresh comes back. -/
def logOutDuringRefresh : List AuthStep :=
  [.login (some exampleToken) none 0, .refreshAccessToken, .logout,
    .refreshSucceeds (some exampleToken) 0]

/-- **Signed in after the logout**: the refresh that was under way stores its token. -/
theorem signed_in_after_logout :
    ∃ store, runFrom (step exampleBrowser) (start none none) logOutDuringRefresh = some store ∧
      ¬ store.Final ∧ store.isAuthenticated = true ∧
        store.storedAccessToken = some exampleToken := by
  obtain ⟨user, built⟩ := exampleBrowser_accepts
  let signedOut :=
    ((start none none).signIn (some exampleToken) none user).refreshAccessToken.logout
  have run : runFrom (step exampleBrowser) (start none none) logOutDuringRefresh =
      some (signedOut.signIn (some exampleToken) none user).settled := by
    simp [logOutDuringRefresh, runFrom_cons, step, login, refreshSucceeds, setAccessToken, built,
      refreshAccessToken, logout, signIn, start, signedOut]
  refine ⟨_, run, fun final => ?_, rfl, rfl⟩
  have out := (final rfl).1
  cases out

end AuthStore

end PersonTracking.Web
