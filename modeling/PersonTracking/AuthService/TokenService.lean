import PersonTracking.Gateway.Proxy
import PersonTracking.Python.Base64
import PersonTracking.Python.JsonText

/-!
# The tokens of the auth service

`TokenService` over PyJWT.  `Jwt` is the library with the shared secret: what is
encoded decodes to the same fields, and a token is as long as its base64 makes
it.  A signature is ideal, so nothing else is said about tokens the service has
not minted.

Times are microseconds since the epoch; an `exp` claim is in seconds.
-/

namespace PersonTracking.AuthService

open Library Python Shared Gateway

/-- What the service puts into its tokens. -/
inductive TokenClaims
  | access (sub email : String) (roleId : Int) (fullName : Option String) (exp : Int)
  | refresh (sub : String) (exp : Int)
deriving DecidableEq, Repr

/-- A text or `None`. -/
def optionalText : Option String → Json
  | none => .null
  | some text => .str text

/-- The claims as the fields of a dict. -/
def TokenClaims.fields : TokenClaims → List (String × Json)
  | access sub email roleId fullName exp =>
      [("sub", .str sub), ("email", .str email), ("role_id", .int roleId),
        ("full_name", optionalText fullName), ("exp", .int exp), ("type", .str "access")]
  | refresh sub exp => [("sub", .str sub), ("exp", .int exp), ("type", .str "refresh")]

/-- The text of the claims. -/
def TokenClaims.text (claims : TokenClaims) : List Char := (Json.obj claims.fields).dumps

/-- The length of a token whose claims take `n` characters: the header, the
claims, the signature of 32 bytes and two dots. -/
def tokenLength (n : ℕ) : ℕ := 36 + 1 + (4 * n + 2) / 3 + 1 + 43

/-- **PyJWT with the shared secret.**  `payloadOf` are the fields of a token whose
signature is right. -/
structure Jwt where
  encode : List (String × Json) → String
  payloadOf : String → Option (List (String × Json))
  payloadOf_encode : ∀ claims : TokenClaims,
    payloadOf (encode claims.fields) = some claims.fields
  length_encode : ∀ claims : TokenClaims,
    (encode claims.fields).toList.length = tokenLength claims.text.length
  spaceless : ∀ claims : TokenClaims, ∀ c ∈ (encode claims.fields).toList, isSpace c = false

/-- `jwt.decode` at a time: the signature, then the expiry. -/
def Jwt.decode (jwt : Jwt) (now : Int) (token : String) :
    Except JwtError (List (String × Json)) :=
  match jwt.payloadOf token with
  | none => .error .invalidToken
  | some payload =>
      match (Json.obj payload).get? "exp" with
      | none => .ok payload
      | some claim =>
          match claim.toInt with
          | .ok exp => if exp * 1000000 ≤ now then .error .expiredSignature else .ok payload
          | .error _ => .error .invalidToken

/-- The settings of the service. -/
structure AuthServiceSettings where
  accessTokenExpireMinutes : Int
  refreshTokenExpireDays : Int

/-- The `exp` claim of a token that is good for some time from now. -/
def expiry (now duration : Int) : Int := (now + duration) / 1000000

namespace TokenService

variable (jwt : Jwt) (settings : AuthServiceSettings) (now : Int)

/-- How long a token lives: the given time unless it is none, else the default. -/
def lifetime (expiresDelta : Option Int) (default : Int) : Int :=
  match expiresDelta with
  | some delta => if delta = 0 then default else delta
  | none => default

/-- `create_access_token`. -/
def createAccessToken (payload : OrderedDict String Json) (expiresDelta : Option Int) : String :=
  let duration := lifetime expiresDelta (settings.accessTokenExpireMinutes * 60 * 1000000)
  jwt.encode ((payload.set "exp" (.int (expiry now duration))).set "type" (.str "access")).entries

/-- `create_refresh_token`. -/
def createRefreshToken (payload : OrderedDict String Json) (expiresDelta : Option Int) : String :=
  let duration := lifetime expiresDelta (settings.refreshTokenExpireDays * 24 * 60 * 60 * 1000000)
  jwt.encode ((payload.set "exp" (.int (expiry now duration))).set "type" (.str "refresh")).entries

/-- `decode_and_verify_token`. -/
def decodeAndVerifyToken (token : String) : Option (List (String × Json)) :=
  match jwt.decode now token with
  | .ok payload => some payload
  | .error _ => none

end TokenService

/-! ## Tokens of the service -/

section Tokens

variable {jwt : Jwt} {now : Int} {claims : TokenClaims}

/-- The expiry of a token. -/
def TokenClaims.exp : TokenClaims → Int
  | access _ _ _ _ exp => exp
  | refresh _ exp => exp

/-- A token the service has minted decodes until it expires. -/
theorem decode_encode :
    jwt.decode now (jwt.encode claims.fields) =
      if claims.exp * 1000000 ≤ now then .error .expiredSignature else .ok claims.fields := by
  have expires : (Json.obj claims.fields).get? "exp" = some (.int claims.exp) := by
    cases claims <;> rfl
  simp only [Jwt.decode, jwt.payloadOf_encode, expires, Json.toInt]

/-- What a minted token decodes to, when it does, are its own claims. -/
theorem fields_of_decode {payload : List (String × Json)}
    (decoded : jwt.decode now (jwt.encode claims.fields) = .ok payload) :
    payload = claims.fields := by
  rw [decode_encode] at decoded
  split at decoded
  · cases decoded
  · exact (Except.ok.inj decoded).symm

theorem encode_ne_empty : jwt.encode claims.fields ≠ "" := by
  intro empty
  have long := jwt.length_encode claims
  rw [empty, tokenLength] at long
  simp at long

end Tokens

/-! ## A library with a fixed signature -/

/-- The letters of a text. -/
def letters (chars : List Char) : List Char := base64url (chars.map Char.toNat)

/-- A token as it is written, with a signature that never changes. -/
def writeToken (fields : List (String × Json)) : List Char :=
  letters "\x7b\"alg\":\"HS256\",\"typ\":\"JWT\"\x7d".toList ++
    '.' :: (letters (Json.obj fields).dumps ++ '.' :: List.replicate 43 'A')

theorem quoted_names : quoted "sub" = "\"sub\"".toList ∧ quoted "exp" = "\"exp\"".toList ∧
    quoted "type" = "\"type\"".toList ∧ quoted "email" = "\"email\"".toList ∧
    quoted "role_id" = "\"role_id\"".toList ∧ quoted "full_name" = "\"full_name\"".toList ∧
    quoted "access" = "\"access\"".toList ∧ quoted "refresh" = "\"refresh\"".toList := by
  decide +kernel

/-- The text of an access token, field by field. -/
theorem text_access (sub email : String) (roleId : Int) (fullName : Option String) (exp : Int) :
    (TokenClaims.access sub email roleId fullName exp).text =
      "\x7b\"sub\":".toList ++ (quoted sub ++ (",\"email\":".toList ++ (quoted email ++
        (",\"role_id\":".toList ++ (intDigits roleId ++ (',' :: ("\"full_name\":".toList ++
          ((optionalText fullName).dumps ++ (",\"exp\":".toList ++ (intDigits exp ++
            (',' :: "\"type\":\"access\"\x7d".toList))))))))))) := by
  obtain ⟨subName, expName, type, emailName, role, full, access, -⟩ := quoted_names
  simp only [TokenClaims.text, TokenClaims.fields, Json.dumps, dumpsFields, subName, expName, type,
    emailName, role, full, access]
  simp

/-- The text of a refresh token. -/
theorem text_refresh (sub : String) (exp : Int) :
    (TokenClaims.refresh sub exp).text =
      "\x7b\"sub\":".toList ++ (quoted sub ++ (",\"exp\":".toList ++ (intDigits exp ++
        (',' :: "\"type\":\"refresh\"\x7d".toList)))) := by
  obtain ⟨subName, expName, type, -, -, -, -, refresh⟩ := quoted_names
  simp only [TokenClaims.text, TokenClaims.fields, Json.dumps, dumpsFields, subName, expName, type,
    refresh]
  simp

/-- A text or `null` is readable. -/
theorem readable_optionalText : Readable fun text => (optionalText text).dumps := by
  intro first second x y same
  cases first with
  | none =>
      cases second with
      | none => exact ⟨rfl, List.append_cancel_left same⟩
      | some text => cases same
  | some text =>
      cases second with
      | none => cases same
      | some other =>
          obtain ⟨texts, rest⟩ := readable_quoted text other x y same
          exact ⟨by rw [texts], rest⟩

/-- **The text determines the claims.** -/
theorem text_injective : Function.Injective TokenClaims.text := by
  intro claims others same
  cases claims with
  | access sub email roleId fullName exp =>
      cases others with
      | access sub' email' roleId' fullName' exp' =>
          rw [text_access, text_access] at same
          obtain ⟨rfl, afterSub⟩ := readable_quoted _ _ _ _ (List.append_cancel_left same)
          obtain ⟨rfl, afterEmail⟩ := readable_quoted _ _ _ _ (List.append_cancel_left afterSub)
          obtain ⟨rfl, afterRole⟩ := readableBefore_intDigits _ _ _ _ _ _ (Or.inl rfl)
            (Or.inl rfl) (List.append_cancel_left afterEmail)
          obtain ⟨rfl, afterName⟩ := readable_optionalText _ _ _ _
            (List.append_cancel_left (List.cons.inj afterRole).2)
          obtain ⟨rfl, -⟩ := readableBefore_intDigits _ _ _ _ _ _ (Or.inl rfl) (Or.inl rfl)
            (List.append_cancel_left afterName)
          rfl
      | refresh sub' exp' =>
          rw [text_access, text_refresh] at same
          obtain ⟨-, afterSub⟩ := readable_quoted _ _ _ _ (List.append_cancel_left same)
          cases afterSub
  | refresh sub exp =>
      cases others with
      | access sub' email' roleId' fullName' exp' =>
          rw [text_access, text_refresh] at same
          obtain ⟨-, afterSub⟩ := readable_quoted _ _ _ _ (List.append_cancel_left same)
          cases afterSub
      | refresh sub' exp' =>
          rw [text_refresh, text_refresh] at same
          obtain ⟨rfl, afterSub⟩ := readable_quoted _ _ _ _ (List.append_cancel_left same)
          obtain ⟨rfl, -⟩ := readableBefore_intDigits _ _ _ _ _ _ (Or.inl rfl) (Or.inl rfl)
            (List.append_cancel_left afterSub)
          rfl

theorem ascii_optionalText (text : Option String) : Ascii (optionalText text).dumps := by
  cases text with
  | none =>
      have null : Ascii "null".toList := by decide +kernel
      exact null
  | some text => exact ascii_quoted text

theorem ascii_text (claims : TokenClaims) : Ascii claims.text := by
  have fixed : Ascii "\x7b\"sub\":".toList ∧ Ascii ",\"email\":".toList ∧
      Ascii ",\"role_id\":".toList ∧ Ascii "\"full_name\":".toList ∧ Ascii ",\"exp\":".toList ∧
      Ascii "\"type\":\"access\"\x7d".toList ∧ Ascii "\"type\":\"refresh\"\x7d".toList := by
    decide +kernel
  obtain ⟨sub, email, role, name, exp, access, refresh⟩ := fixed
  cases claims with
  | access subject address roleId fullName expiry =>
      rw [text_access]
      refine sub.append ((ascii_quoted _).append (email.append ((ascii_quoted _).append
        (role.append ((ascii_intDigits _).append (Ascii.cons (by decide) ?_))))))
      exact name.append ((ascii_optionalText _).append (exp.append
        ((ascii_intDigits _).append (Ascii.cons (by decide) access))))
  | refresh subject expiry =>
      rw [text_refresh]
      exact sub.append ((ascii_quoted _).append (exp.append
        ((ascii_intDigits _).append (Ascii.cons (by decide) refresh))))

/-- ASCII text is recovered from its letters. -/
theorem letters_injective {chars others : List Char} (ascii : Ascii chars) (ascii' : Ascii others)
    (same : letters chars = letters others) : chars = others := by
  have bytes : ∀ {chars : List Char}, Ascii chars → ∀ b ∈ chars.map Char.toNat, b < 256 := by
    intro chars ascii b member
    obtain ⟨c, inside, rfl⟩ := List.mem_map.mp member
    exact lt_trans (ascii c inside) (by decide)
  have codes := base64url_injective (bytes ascii) (bytes ascii') same
  exact List.map_injective_iff.mpr (fun c d => Char.toNat_inj.mp) codes

/-- The token of some claims. -/
def tokenOf (claims : TokenClaims) : String := String.ofList (writeToken claims.fields)

/-- **The token determines the claims.** -/
theorem tokenOf_injective : Function.Injective tokenOf := by
  intro claims others same
  have chars : writeToken claims.fields = writeToken others.fields := by
    have lists := congrArg String.toList same
    rwa [tokenOf, tokenOf, String.toList_ofList, String.toList_ofList] at lists
  have body := (List.cons.inj (List.append_cancel_left chars)).2
  exact text_injective (letters_injective (ascii_text claims) (ascii_text others)
    (List.append_cancel_right body))

theorem length_writeToken (claims : TokenClaims) :
    (writeToken claims.fields).length = tokenLength claims.text.length := by
  have header : (letters "\x7b\"alg\":\"HS256\",\"typ\":\"JWT\"\x7d".toList).length = 36 := by
    decide +kernel
  have body : (letters (Json.obj claims.fields).dumps).length =
      (4 * claims.text.length + 2) / 3 := by
    rw [letters, length_base64url, List.length_map]
    rfl
  simp only [writeToken, List.length_append, List.length_cons, List.length_replicate, header, body,
    tokenLength]
  omega

theorem spaceless_writeToken {claims : TokenClaims} {c : Char}
    (member : c ∈ writeToken claims.fields) : isSpace c = false := by
  have spaceless : base64Alphabet.all (fun c => !isSpace c) = true := by decide +kernel
  have alphabet : ∀ c ∈ base64Alphabet, isSpace c = false := by
    simpa using List.all_eq_true.mp spaceless
  simp only [writeToken, List.mem_append, List.mem_cons, List.mem_replicate] at member
  rcases member with header | rfl | body | rfl | ⟨-, rfl⟩
  · exact alphabet c (mem_base64url header)
  · decide
  · exact alphabet c (mem_base64url body)
  · decide
  · decide

/-- A library whose tokens are the written ones. -/
noncomputable def Jwt.fixed : Jwt where
  encode fields := String.ofList (writeToken fields)
  payloadOf token := (Function.partialInv tokenOf token).map TokenClaims.fields
  payloadOf_encode claims := by
    have found : Function.partialInv tokenOf (tokenOf claims) = some claims :=
      (tokenOf_injective.isPartialInv claims (tokenOf claims)).mpr rfl
    exact congrArg (fun claims => claims.map TokenClaims.fields) found
  length_encode claims := by
    rw [String.toList_ofList]
    exact length_writeToken claims
  spaceless claims c member := by
    rw [String.toList_ofList] at member
    exact spaceless_writeToken member

end PersonTracking.AuthService
