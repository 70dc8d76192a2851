import Mathlib.Tactic.Linarith
import PersonTracking.Web.DecodeJwt

/-!
# The auth state of a page

`login`, `setAccessToken`, `logout` and `initAuth` may be called in any order and at any
time, on a page whose `localStorage` holds whatever was left there.  A `Session` is a
store after such calls, with whether there were any and when the token was installed.

`coherent_iff_readable` says when the fields of the store, what `localStorage` holds and
the token itself agree after every call.
-/

namespace PersonTracking.Web

open Library

/-- There are more than ten seconds left. -/
def JsNumber.Remains (now : ℚ) : JsNumber → Prop
  | .finite seconds => 10000 < seconds * 1000 - now
  | .infinity => True
  | .negInfinity | .nan => False

/-- A number that has not expired has that much left, unless it is none. -/
theorem JsNumber.remains_iff {number : JsNumber} {now : ℚ}
    (standing : number.expired tokenExpiryBufferMs now = false) :
    number.Remains now ↔ number ≠ .nan := by
  cases number with
  | finite seconds =>
      have beyond : ¬ seconds * 1000 - tokenExpiryBufferMs ≤ now := of_decide_eq_false standing
      rw [tokenExpiryBufferMs] at beyond
      have left : 10000 < seconds * 1000 - now := by linarith
      exact ⟨fun _ => JsNumber.noConfusion, fun _ => left⟩
  | infinity => exact ⟨fun _ => JsNumber.noConfusion, fun _ => trivial⟩
  | negInfinity => cases standing
  | nan => exact ⟨False.elim, fun other => absurd rfl other⟩

namespace Browser

variable (browser : Browser)

/-- The token says who the user is, and when it was installed it was an access token with
more than ten seconds left. -/
def Vouches (accessToken : Option String) (user : UserProfile) (installedAt : ℚ) : Prop :=
  ∃ decoded exp number, browser.decodeJwt accessToken = some decoded ∧
    isAccess decoded = true ∧ decoded.property "exp" = some exp ∧
      browser.toNumber exp = some number ∧ number.Remains installedAt ∧
        decoded.property "sub" = some user.id ∧ decoded.property "email" = some user.email ∧
          decoded.property "role_id" = some (.number user.roleId)

/-- The expiry of the token is not `NaN`. -/
def Numeric (accessToken : Option String) : Prop :=
  ∀ decoded exp, browser.decodeJwt accessToken = some decoded →
    decoded.property "exp" = some exp → browser.toNumber exp ≠ some .nan

variable {browser : Browser} {accessToken : Option String} {user : UserProfile} {now later : ℚ}
  {decoded : JsValue}

/-- The profile has the claims of the token. -/
theorem property_of_buildUserProfile (built : buildUserProfile decoded = .built user) :
    decoded.property "sub" = some user.id ∧ decoded.property "email" = some user.email ∧
      decoded.property "role_id" = some (.number user.roleId) := by
  unfold buildUserProfile at built
  split at built
  · rename_i sub email roleId hasSub hasEmail hasRole
    have sameSub := Option.eq_some_of_filter_eq_some hasSub
    have sameEmail := Option.eq_some_of_filter_eq_some hasEmail
    have sameRole : decoded.property "role_id" = some (.number roleId) := by
      obtain ⟨value, found, number⟩ := Option.bind_eq_some_iff.mp hasRole
      cases value with
      | number value =>
          cases number
          exact found
      | null | bool _ | string _ | array _ | object _ => cases number
    split at built
    · cases built
      exact ⟨sameSub, sameEmail, sameRole⟩
    · cases built
      exact ⟨sameSub, sameEmail, sameRole⟩
    · cases built
  · cases built

/-- What is behind an expiry that has not come. -/
theorem exists_of_isTokenExpired
    (standing : browser.isTokenExpired decoded tokenExpiryBufferMs now = some false) :
    ∃ exp number, decoded.property "exp" = some exp ∧ browser.toNumber exp = some number ∧
      number.expired tokenExpiryBufferMs now = false := by
  unfold isTokenExpired at standing
  split at standing
  · cases standing
  · rename_i exp given
    obtain ⟨number, read, inTime⟩ := Option.map_eq_some_iff.mp standing
    exact ⟨exp, number, Option.eq_some_of_filter_eq_some given, read, inTime⟩

/-- What is behind an accepted token. -/
theorem exists_of_profile (built : browser.profile accessToken now = .built user) :
    ∃ decoded, browser.decodeJwt accessToken = some decoded ∧ isAccess decoded = true ∧
      buildUserProfile decoded = .built user ∧
        browser.isTokenExpired decoded tokenExpiryBufferMs now = some false := by
  unfold profile at built
  split at built
  · cases built
  · rename_i decoded read
    split at built
    · rename_i access
      split at built
      · rename_i made
        split at built
        · rename_i standing
          cases built
          exact ⟨decoded, read, access, made, standing⟩
        · cases built
        · cases built
      · cases built
      · cases built
    · cases built

/-- **An accepted token vouches for its user** unless its expiry is `NaN`. -/
theorem vouches_iff (built : browser.profile accessToken now = .built user) :
    browser.Vouches accessToken user now ↔ browser.Numeric accessToken := by
  obtain ⟨decoded, read, access, made, standing⟩ := exists_of_profile built
  obtain ⟨exp, number, given, counts, inTime⟩ := exists_of_isTokenExpired standing
  constructor
  · rintro ⟨other, otherExp, otherNumber, otherRead, -, otherGiven, otherCounts, left, -⟩
    intro third thirdExp thirdRead thirdGiven isNan
    rw [otherRead, Option.some.injEq] at thirdRead
    subst thirdRead
    rw [otherGiven, Option.some.injEq] at thirdGiven
    subst thirdGiven
    rw [otherCounts, Option.some.injEq] at isNan
    subst isNan
    exact left
  · intro numeric
    have left := (JsNumber.remains_iff inTime).mpr fun nan =>
      numeric decoded exp read given (nan ▸ counts)
    exact ⟨decoded, exp, number, read, access, given, counts, left,
      property_of_buildUserProfile made⟩

/-- An empty token has no payload. -/
theorem decodeJwt_filter (accessToken : Option String) :
    browser.decodeJwt (accessToken.filter fun text => text ≠ "") =
      browser.decodeJwt accessToken := by
  cases accessToken with
  | none => rfl
  | some text =>
      by_cases empty : text = ""
      · subst empty
        rfl
      · rw [Option.filter_some, if_pos (by simpa using empty)]

/-- Whether an access token is usable is a matter of its expiry. -/
theorem isAccessTokenUsable_eq (read : browser.decodeJwt accessToken = some decoded)
    (access : isAccess decoded = true) : browser.isAccessTokenUsable accessToken now =
      (browser.isTokenExpired decoded tokenExpiryBufferMs now).map fun expired => !expired := by
  rw [isAccessTokenUsable, decodeJwt_filter, read]
  exact if_pos access

/-- What `initAuth` restores, `setAccessToken` would accept. -/
theorem profile_of_restored (built : browser.restored accessToken now = .built user) :
    browser.profile accessToken now = .built user := by
  unfold restored at built
  split at built
  · rename_i usable
    cases read : browser.decodeJwt accessToken with
    | none =>
        rw [read] at built
        cases built
    | some decoded =>
        rw [read, Option.elim_some] at built
        rw [isAccessTokenUsable, decodeJwt_filter, read] at usable
        cases access : isAccess decoded with
        | false => simp [access] at usable
        | true =>
            have standing :
                browser.isTokenExpired decoded tokenExpiryBufferMs now = some false := by
              simpa [access] using usable
            exact profile_of_built read access built standing
  · cases built
  · cases built

/-- A token that was accepted once does not make `initAuth` throw. -/
theorem restored_ne_throws (built : browser.profile accessToken now = .built user) (later : ℚ) :
    browser.restored accessToken later ≠ .throws := by
  obtain ⟨decoded, read, access, made, standing⟩ := exists_of_profile built
  obtain ⟨exp, number, given, counts, -⟩ := exists_of_isTokenExpired standing
  intro throws
  unfold restored at throws
  split at throws
  · rw [read, Option.elim_some, made] at throws
    cases throws
  · cases throws
  · rename_i unknown
    rw [isAccessTokenUsable_eq read access, Option.map_eq_none_iff] at unknown
    unfold isTokenExpired at unknown
    split at unknown
    · cases unknown
    · rename_i found truthyExp
      have same := Option.eq_some_of_filter_eq_some truthyExp
      rw [given, Option.some.injEq] at same
      rw [← same, counts] at unknown
      cases unknown

end Browser

/-! ## Sessions -/

/-- A store, whether anything was called, and when its token was installed. -/
structure Session where
  store : AuthStore
  begun : Bool
  installedAt : ℚ

/-- A call.  `Date.now()` comes with those that read it. -/
inductive AuthCall
  | login (accessToken refreshToken : Option String) (now : ℚ)
  | setAccessToken (accessToken refreshToken : Option String) (now : ℚ)
  | logout
  | initAuth (now : ℚ)

namespace Session

/-- A page that has loaded, with what `localStorage` holds from before. -/
def start (storedAccessToken storedRefreshToken : Option String) : Session where
  store := .start storedAccessToken storedRefreshToken
  begun := false
  installedAt := 0

/-- When the token was installed, after a call that made this of it. -/
def installed (session : Session) (now : ℚ) : Profile → ℚ
  | .built _ => now
  | .null | .throws => session.installedAt

variable (browser : Browser) (session : Session)

/-- One call.  One that throws leaves the store as it is, but for what it did before. -/
def call : AuthCall → Session
  | .login accessToken refreshToken now => {
      store := session.store.login browser accessToken refreshToken now
      begun := true
      installedAt := session.installed now (browser.profile accessToken now) }
  | .setAccessToken accessToken refreshToken now => {
      store :=
        (session.store.setAccessToken browser accessToken refreshToken now).getD session.store
      begun := true
      installedAt := session.installed now (browser.profile accessToken now) }
  | .logout => { session with store := session.store.logout, begun := true }
  | .initAuth now => {
      store := session.store.initAuth browser now
      begun := true
      installedAt := session.installed now (browser.restored session.store.storedAccessToken now) }

/-- One step: no call is ever refused. -/
def step (call : AuthCall) : Option Session := some (session.call browser call)

/-- **The state is coherent** after the first call: the page is authenticated if and only
if it has a token, and if and only if it has a user; then `localStorage` holds that token,
and the token vouches for the user; otherwise `localStorage` holds no token. -/
structure Coherent : Prop where
  token : session.store.isAuthenticated = true ↔ session.store.accessToken.isSome = true
  user : session.store.isAuthenticated = true ↔ session.store.user.isSome = true
  stored : session.store.isAuthenticated = true →
    session.store.storedAccessToken = session.store.accessToken
  absent : session.store.isAuthenticated = false → session.store.storedAccessToken = none
  vouches : ∀ user, session.store.user = some user →
    browser.Vouches session.store.accessToken user session.installedAt

/-- The condition on a call: a token that is taken has an expiry that is not `NaN`, and a
call that throws is no `initAuth` and not the first one on a page that holds a token. -/
def Readable : AuthCall → Prop
  | .login accessToken _ now | .setAccessToken accessToken _ now =>
      match browser.profile accessToken now with
      | .built _ => browser.Numeric accessToken
      | .null => True
      | .throws => session.begun = true ∨ session.store.storedAccessToken = none
  | .logout => True
  | .initAuth now =>
      match browser.restored session.store.storedAccessToken now with
      | .built _ => browser.Numeric session.store.storedAccessToken
      | .null => True
      | .throws => False

/-- What every call keeps, also when it throws. -/
structure Kept : Prop where
  fields : session.store.Coherent
  absent : session.begun = true → session.store.isAuthenticated = false →
    session.store.storedAccessToken = none
  accepted : ∀ user, session.store.user = some user →
    browser.profile session.store.accessToken session.installedAt = .built user ∧
      browser.Numeric session.store.accessToken
  fresh : session.begun = false → session.store.isAuthenticated = false

variable {browser} {session} {after : Session}

theorem kept_start (storedAccessToken storedRefreshToken : Option String) :
    (start storedAccessToken storedRefreshToken).Kept browser where
  fields := AuthStore.coherent_start storedAccessToken storedRefreshToken
  absent begun := absurd begun Bool.false_ne_true
  accepted _ found := absurd found (Option.some_ne_none _).symm
  fresh _ := rfl

/-- What is kept is coherence, once there was a call. -/
theorem Kept.coherent (kept : session.Kept browser) (begun : session.begun = true) :
    session.Coherent browser where
  token := by rw [kept.fields.token]
  user := by rw [kept.fields.profile]
  stored := kept.fields.stored
  absent := kept.absent begun
  vouches user found := by
    obtain ⟨built, numeric⟩ := kept.accepted user found
    exact (Browser.vouches_iff built).mpr numeric

/-- Nobody is signed in, and `localStorage` holds no token. -/
theorem kept_of_signedOut (fields : session.store.Coherent)
    (out : session.store.isAuthenticated = false)
    (absent : session.store.storedAccessToken = none) : session.Kept browser where
  fields := fields
  absent _ _ := absent
  accepted user found := by
    have nobody := fields.profile
    rw [out, found] at nobody
    cases nobody
  fresh _ := out

/-- Somebody is signed in by a token that was accepted. -/
theorem kept_of_signedIn {user : UserProfile} (fields : session.store.Coherent)
    (begun : session.begun = true) (signed : session.store.isAuthenticated = true)
    (same : session.store.user = some user)
    (built : browser.profile session.store.accessToken session.installedAt = .built user)
    (numeric : browser.Numeric session.store.accessToken) : session.Kept browser where
  fields := fields
  absent _ out := by
    rw [signed] at out
    cases out
  accepted other found := by
    rw [same, Option.some.injEq] at found
    exact found ▸ ⟨built, numeric⟩
  fresh notBegun := by
    rw [begun] at notBegun
    cases notBegun

/-- A call that throws before it does anything. -/
theorem Kept.throws (kept : session.Kept browser)
    (held : session.begun = true ∨ session.store.storedAccessToken = none)
    {store : AuthStore} (fields : store.Coherent)
    (authenticated : store.isAuthenticated = session.store.isAuthenticated)
    (token : store.accessToken = session.store.accessToken)
    (user : store.user = session.store.user)
    (stored : store.storedAccessToken = session.store.storedAccessToken) :
    Kept browser { store, begun := true, installedAt := session.installedAt } where
  fields := fields
  absent _ out := by
    rcases held with begun | nothing
    · exact stored.trans (kept.absent begun (authenticated ▸ out))
    · exact stored.trans nothing
  accepted other found := by
    obtain ⟨built, numeric⟩ := kept.accepted other (user ▸ found)
    exact ⟨token ▸ built, token ▸ numeric⟩
  fresh notBegun := absurd notBegun.symm Bool.false_ne_true

/-- **`setAccessToken`** signs in, logs out or throws, on a store that differs from the
session's in nothing that counts. -/
theorem kept_setAccessToken (kept : session.Kept browser)
    {accessToken refreshToken : Option String} {now : ℚ}
    (readable : session.Readable browser (.setAccessToken accessToken refreshToken now))
    (loggedOut : Bool) :
    Kept browser {
      store := ({ session.store with loggedOut }.setAccessToken browser accessToken
        refreshToken now).getD { session.store with loggedOut }
      begun := true
      installedAt := session.installed now (browser.profile accessToken now) } := by
  have fields : { session.store with loggedOut }.Coherent :=
    kept.fields.of_same rfl rfl rfl rfl
  rw [Readable] at readable
  rw [AuthStore.setAccessToken]
  cases made : browser.profile accessToken now with
  | built user =>
      rw [made] at readable
      exact kept_of_signedIn (AuthStore.coherent_signIn ⟨user, made⟩ refreshToken user) rfl rfl rfl
        made readable
  | null => exact kept_of_signedOut AuthStore.coherent_logout rfl rfl
  | throws =>
      rw [made] at readable
      exact kept.throws readable fields rfl rfl rfl rfl

/-- **`initAuth`** signs in or leaves nobody signed in. -/
theorem kept_initAuth (kept : session.Kept browser) {now : ℚ}
    (readable : session.Readable browser (.initAuth now)) :
    (session.call browser (.initAuth now)).Kept browser := by
  have fields : (session.store.initAuth browser now).Coherent := kept.fields.initAuth now
  rw [Readable] at readable
  show Kept browser {
    store := session.store.initAuth browser now
    begun := true
    installedAt := session.installed now (browser.restored session.store.storedAccessToken now) }
  cases made : browser.restored session.store.storedAccessToken now with
  | built user =>
      rw [made] at readable
      obtain ⟨signed, same, token⟩ : (session.store.initAuth browser now).isAuthenticated = true ∧
          (session.store.initAuth browser now).user = some user ∧
            (session.store.initAuth browser now).accessToken =
              session.store.storedAccessToken := by
        rw [AuthStore.initAuth, made]
        exact ⟨rfl, rfl, rfl⟩
      exact kept_of_signedIn fields rfl signed same
        (token ▸ Browser.profile_of_restored made) (token ▸ readable)
  | null =>
      obtain ⟨out, absent⟩ : (session.store.initAuth browser now).isAuthenticated = false ∧
          (session.store.initAuth browser now).storedAccessToken = none := by
        rw [AuthStore.initAuth, made]
        exact ⟨rfl, rfl⟩
      exact kept_of_signedOut fields out absent
  | throws =>
      rw [made] at readable
      exact absurd readable id

/-- **One call.** -/
theorem kept_step {next : AuthCall} (kept : session.Kept browser)
    (readable : session.Readable browser next) (moved : session.step browser next = some after) :
    after.Kept browser := by
  cases moved
  cases next with
  | login accessToken refreshToken now => exact kept_setAccessToken kept readable false
  | setAccessToken accessToken refreshToken now =>
      exact kept_setAccessToken kept readable session.store.loggedOut
  | logout => exact kept_of_signedOut AuthStore.coherent_logout rfl rfl
  | initAuth now => exact kept_initAuth kept readable

/-- `setAccessToken` with a token that cannot be read. -/
theorem not_coherent_setAccessToken (kept : session.Kept browser)
    {accessToken refreshToken : Option String} {now : ℚ}
    (unreadable : ¬ session.Readable browser (.setAccessToken accessToken refreshToken now))
    (loggedOut : Bool) :
    ¬ Coherent browser {
      store := ({ session.store with loggedOut }.setAccessToken browser accessToken
        refreshToken now).getD { session.store with loggedOut }
      begun := true
      installedAt := session.installed now (browser.profile accessToken now) } := by
  rw [Readable] at unreadable
  rw [AuthStore.setAccessToken]
  intro coherent
  cases made : browser.profile accessToken now with
  | built user =>
      rw [made] at unreadable coherent
      exact unreadable ((Browser.vouches_iff made).mp (coherent.vouches user rfl))
  | null =>
      rw [made] at unreadable
      exact unreadable trivial
  | throws =>
      -- nothing was called before, so nobody was signed in
      rw [made] at unreadable coherent
      rw [not_or, Bool.not_eq_true] at unreadable
      obtain ⟨notBegun, held⟩ := unreadable
      exact held (coherent.absent (kept.fresh notBegun))

/-- `initAuth` with a token that cannot be read. -/
theorem not_coherent_initAuth (kept : session.Kept browser) {now : ℚ}
    (unreadable : ¬ session.Readable browser (.initAuth now)) :
    ¬ (session.call browser (.initAuth now)).Coherent browser := by
  rw [Readable] at unreadable
  show ¬ Coherent browser {
    store := session.store.initAuth browser now
    begun := true
    installedAt := session.installed now (browser.restored session.store.storedAccessToken now) }
  rw [AuthStore.initAuth]
  intro coherent
  cases made : browser.restored session.store.storedAccessToken now with
  | built user =>
      rw [made] at unreadable coherent
      have accepted := Browser.profile_of_restored made
      exact unreadable ((Browser.vouches_iff accepted).mp (coherent.vouches user rfl))
  | null =>
      rw [made] at unreadable
      exact unreadable trivial
  | throws =>
      rw [made] at coherent
      cases signed : session.store.isAuthenticated with
      | true =>
          -- a token that was accepted before is read again
          have somebody := kept.fields.profile
          rw [signed] at somebody
          obtain ⟨user, found⟩ := Option.isSome_iff_exists.mp somebody.symm
          obtain ⟨built, -⟩ := kept.accepted user found
          rw [← kept.fields.stored signed] at built
          exact Browser.restored_ne_throws built now made
      | false =>
          have nothing : session.store.storedAccessToken = none := coherent.absent signed
          rw [nothing] at made
          cases made

/-- A call that does not meet the condition leaves the state incoherent. -/
theorem not_coherent_of_not_readable {next : AuthCall} (kept : session.Kept browser)
    (unreadable : ¬ session.Readable browser next) :
    ¬ (session.call browser next).Coherent browser := by
  cases next with
  | login accessToken refreshToken now => exact not_coherent_setAccessToken kept unreadable false
  | setAccessToken accessToken refreshToken now =>
      exact not_coherent_setAccessToken kept unreadable session.store.loggedOut
  | logout => exact absurd trivial unreadable
  | initAuth now => exact not_coherent_initAuth kept unreadable

theorem begun_call (next : AuthCall) : (session.call browser next).begun = true := by
  cases next <;> rfl

/-- **When the state is coherent.**  After every call of a sequence, in any order and from
any `localStorage`, the state is coherent if and only if every call meets the condition. -/
theorem coherent_iff_readable (browser : Browser)
    (storedAccessToken storedRefreshToken : Option String) (calls : List AuthCall) :
    (∀ taken after, taken <+: calls →
      runFrom (step browser) (start storedAccessToken storedRefreshToken) taken = some after →
        after.begun = true → after.Coherent browser) ↔
      Meets (Readable browser) (step browser) (start storedAccessToken storedRefreshToken) calls :=
  forall_prefix_iff_meets (fun _ => Kept.coherent) (fun _ _ _ => kept_step)
    (fun _ _ kept unreadable => ⟨_, rfl, fun coherent =>
      not_coherent_of_not_readable kept unreadable (coherent (begun_call _))⟩)
    (kept_start storedAccessToken storedRefreshToken)

/-! ## Tokens that cannot be read -/

/-- A payload whose `exp` is no number. -/
def neverJson : List Char :=
  ("\x7b\"sub\":\"1\",\"email\":\"a@b.c\",\"role_id\":1,\"type\":\"access\"," ++
    "\"exp\":\"never\"\x7d").toList

/-- What `JSON.parse` makes of it. -/
def neverDecoded : JsValue :=
  .object [("sub", .string "1"), ("email", .string "a@b.c"), ("role_id", .number 1),
    ("type", .string "access"), ("exp", .string "never")]

/-- A payload whose `email` is no string. -/
def mailJson : List Char :=
  "\x7b\"sub\":\"1\",\"email\":7,\"role_id\":1,\"type\":\"access\",\"exp\":9999999999\x7d".toList

/-- What `JSON.parse` makes of it. -/
def mailDecoded : JsValue :=
  .object [("sub", .string "1"), ("email", .number 7), ("role_id", .number 1),
    ("type", .string "access"), ("exp", .number 9999999999)]

/-- A browser, on these two payloads. -/
def twoPayloads : Browser :=
  standardBrowser
    (fun text =>
      if text = neverJson then some neverDecoded
      else if text = mailJson then some mailDecoded else none)
    fun value => some (value.asNumber.elim .nan .finite)

/-- The token with a payload. -/
def tokenOf (payload : List Char) : String := encodedToken ['h'] payload ['s']

theorem decodeJwt_never :
    twoPayloads.decodeJwt (some (tokenOf neverJson)) = some neverDecoded := by
  have nonempty : neverJson ≠ [] := by decide
  exact (decodeJwt_of_splitOn nonempty (splitOn_encodedToken (by decide))).trans (if_pos rfl)

theorem decodeJwt_mail :
    twoPayloads.decodeJwt (some (tokenOf mailJson)) = some mailDecoded := by
  have nonempty : mailJson ≠ [] := by decide
  have different : mailJson ≠ neverJson := by decide
  exact (decodeJwt_of_splitOn nonempty (splitOn_encodedToken (by decide))).trans
    ((if_neg different).trans (if_pos rfl))

theorem toNumber_never : twoPayloads.toNumber (.string "never") = some .nan := rfl

/-- Nothing is less than or equal to `NaN`: the token counts as good. -/
theorem accepts_never : twoPayloads.Accepts (some (tokenOf neverJson)) 0 := by
  have access : isAccess neverDecoded = true := by decide
  have user : buildUserProfile neverDecoded =
      .built ⟨.string "1", .string "a@b.c", 1, .string "a"⟩ := by rfl
  have given : (neverDecoded.property "exp").filter JsValue.truthy = some (.string "never") := by
    simp [neverDecoded, JsValue.property, JsValue.truthy, Option.filter]
  have standing :
      twoPayloads.isTokenExpired neverDecoded tokenExpiryBufferMs 0 = some false := by
    rw [Browser.isTokenExpired, given]
    simp only [toNumber_never, Option.map_some, JsNumber.expired]
  exact ⟨_, Browser.profile_of_built decodeJwt_never access user standing⟩

/-- A number has no `split`. -/
theorem profile_mail : twoPayloads.profile (some (tokenOf mailJson)) 0 = .throws := by
  have access : isAccess mailDecoded = true := by decide
  have throws : buildUserProfile mailDecoded = .throws := by rfl
  exact Browser.profile_of_throws decodeJwt_mail access throws

/-- **Two ways out of step**: a token without an expiry that can be compared is taken, and
a login that throws leaves the token of another session in `localStorage`. -/
theorem incoherent_after_call :
    (∃ after, runFrom (step twoPayloads) (start none none)
        [.setAccessToken (some (tokenOf neverJson)) none 0] = some after ∧
          after.begun = true ∧ ¬ after.Coherent twoPayloads) ∧
      ∃ after, runFrom (step twoPayloads) (start (some (tokenOf neverJson)) none)
        [.login (some (tokenOf mailJson)) none 0] = some after ∧
          after.begun = true ∧ ¬ after.Coherent twoPayloads := by
  constructor
  · refine ⟨_, rfl, begun_call _, not_coherent_of_not_readable (kept_start none none) ?_⟩
    obtain ⟨user, built⟩ := accepts_never
    rw [Readable, built]
    intro numeric
    have given : neverDecoded.property "exp" = some (.string "never") := by
      simp [neverDecoded, JsValue.property]
    exact numeric neverDecoded (.string "never") decodeJwt_never given toNumber_never
  · refine ⟨_, rfl, begun_call _, not_coherent_of_not_readable (kept_start _ none) ?_⟩
    rw [Readable, profile_mail, not_or]
    exact ⟨Bool.false_ne_true, Option.some_ne_none _⟩

end Session

end PersonTracking.Web
