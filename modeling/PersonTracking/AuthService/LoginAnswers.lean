import PersonTracking.AuthService.AuthRoutes

/-!
# What a failed login tells

A login with a wrong password is refused whether or not the email is known.  For a known
email `verify_password` makes a mismatch of an error of `bcrypt.checkpw`; for an unknown
one the check of the dummy hash is not guarded, and its error is answered like one of the
database.

`answers_agree_iff` says for which passwords the two answers are the same.
-/

namespace PersonTracking.AuthService

open Library Python Shared Gateway

/-- What the client sees of an answer: its status code and its detail. -/
def statusAndDetail : Except Failure Issued → ℕ × Option String
  | .ok _ => (200, none)
  | .error (.http exception) => (exception.statusCode, some exception.detail)
  | .error (.unhandled error) => ((Failure.unhandled error).statusCode, none)

/-- The email is one of an active user of the table, the first of them. -/
def Known (rows : List User) (email : String) (user : User) : Prop :=
  rows.find? (fun user => user.email = email ∧ user.isActive) = some user

/-- The email is one of no active user of the table. -/
def Unknown (rows : List User) (email : String) : Prop :=
  ∀ user ∈ rows, user.email = email → user.isActive = false

section

variable {jwt : Jwt} {settings : AuthServiceSettings} {now : Int} {checkpw : CheckPw}
  {rows : List User} {user : User} {email password : String}

/-- A wrong password for a known email. -/
theorem login_known (known : Known rows email user)
    (wrong : verifyPassword checkpw password user.hashedPassword = false) :
    login jwt settings now checkpw (.ok rows) email password =
      raise 401 "Invalid email or password" := by
  have nobody : authenticateUser checkpw (.ok rows) email password = .ok none := by
    have found : rows.find? (fun user => user.email = email ∧ user.isActive) = some user := known
    simp only [authenticateUser, bind, Except.bind, found, wrong, if_neg Bool.false_ne_true]
    rfl
  rw [login, nobody]

/-- Any password for an unknown email. -/
theorem login_unknown (unknown : Unknown rows email) :
    login jwt settings now checkpw (.ok rows) email password =
      match checkpw password dummyHash with
      | .ok _ => raise 401 "Invalid email or password"
      | .error _ => raise 503 "Authentication backend is temporarily unavailable" := by
  have nowhere : rows.find? (fun user => user.email = email ∧ user.isActive) = none := by
    rw [List.find?_eq_none]
    intro user member
    simpa using unknown user member
  have checked : authenticateUser checkpw (.ok rows) email password =
      (checkpw password dummyHash).bind fun _ => .ok none := by
    simp only [authenticateUser, bind, Except.bind, nowhere]
    rfl
  rw [login, checked]
  cases checkpw password dummyHash with
  | ok same => rfl
  | error error => rfl

end

/-- **The answers agree** for a known and an unknown email, whatever the database holds,
if and only if `bcrypt.checkpw` does not raise on the password and the dummy hash. -/
theorem answers_agree_iff (jwt : Jwt) (settings : AuthServiceSettings) (now : Int)
    (checkpw : CheckPw) (rows : List User) (user : User) (existing unknown : LoginRequest)
    (samePassword : existing.password = unknown.password)
    (isKnown : Known rows existing.email user) (isUnknown : Unknown rows unknown.email)
    (wrong : verifyPassword checkpw existing.password user.hashedPassword = false) :
    statusAndDetail
          (login jwt settings now checkpw (.ok rows) existing.email existing.password) =
        statusAndDetail
          (login jwt settings now checkpw (.ok rows) unknown.email unknown.password) ↔
      ∃ same, checkpw existing.password dummyHash = .ok same := by
  rw [login_known isKnown wrong, login_unknown isUnknown, samePassword]
  cases checkpw unknown.password dummyHash with
  | ok same => exact ⟨fun _ => ⟨same, rfl⟩, fun _ => rfl⟩
  | error error =>
      refine ⟨fun agree => ?_, fun ⟨same, checked⟩ => by cases checked⟩
      have codes : 401 = 503 := congrArg Prod.fst agree
      omega

/-! ## A long password -/

/-- `bcrypt.checkpw` as far as it matters here: a password of more than 72 bytes raises,
another one is compared with the one a hash was made of. -/
def checkpwUpTo72 (password hashedPassword : String) : Except PyError Bool :=
  if 72 < (password.toList.flatMap String.utf8EncodeChar).length then .error .valueError
  else .ok (hashedPassword = "$2b$12$" ++ password)

/-- An active user. -/
def storedUser : User where
  id := .ofNat 1
  email := "known@example.com"
  hashedPassword := "$2b$12$secret"
  fullName := none
  isActive := true
  roleId := 2

/-- The letter `a`, as often as that. -/
def manyLetters (n : ℕ) : String := String.ofList (List.replicate n 'a')

@[simp] theorem length_manyLetters (n : ℕ) : (manyLetters n).toList.length = n := by
  rw [manyLetters, String.toList_ofList, List.length_replicate]

/-- A login with such a password. -/
def loginWith (email : String) (n : ℕ) (bounds : 1 ≤ n ∧ n ≤ 128) : LoginRequest where
  email := email
  password := manyLetters n
  notEmpty := (length_manyLetters n).symm ▸ bounds.1
  notLong := (length_manyLetters n).symm ▸ bounds.2

theorem five_letters : 1 ≤ 5 ∧ 5 ≤ 128 := by omega

theorem seventyThree_letters : 1 ≤ 73 ∧ 73 ≤ 128 := by omega

theorem storedUser_known : Known [storedUser] "known@example.com" storedUser := by
  rw [Known, List.find?_cons_of_pos]
  exact decide_eq_true ⟨rfl, rfl⟩

theorem nobody_unknown : Unknown [storedUser] "nobody@example.com" := by
  intro user member same
  rw [List.mem_singleton.mp member] at same
  exact absurd same (by decide +kernel)

theorem answers_agree_iff_short :
    statusAndDetail (login Jwt.fixed ⟨30, 7⟩ 0 checkpwUpTo72 (.ok [storedUser])
          "known@example.com" (manyLetters 5)) =
        statusAndDetail (login Jwt.fixed ⟨30, 7⟩ 0 checkpwUpTo72 (.ok [storedUser])
          "nobody@example.com" (manyLetters 5)) ↔
      ∃ same, checkpwUpTo72 (manyLetters 5) dummyHash = .ok same :=
  answers_agree_iff Jwt.fixed ⟨30, 7⟩ 0 checkpwUpTo72 [storedUser] storedUser
    (loginWith "known@example.com" 5 five_letters) (loginWith "nobody@example.com" 5 five_letters)
    rfl storedUser_known nobody_unknown (by decide +kernel)

/-- **The answer tells**: with a password of 73 letters, a known email is refused and an
unknown one is answered as if the database were away. -/
theorem account_told :
    ∃ existing unknown : LoginRequest, existing.password = unknown.password ∧
      Known [storedUser] existing.email storedUser ∧ Unknown [storedUser] unknown.email ∧
      verifyPassword checkpwUpTo72 existing.password storedUser.hashedPassword = false ∧
      statusAndDetail (login Jwt.fixed ⟨30, 7⟩ 0 checkpwUpTo72 (.ok [storedUser])
          existing.email existing.password) = (401, some "Invalid email or password") ∧
      statusAndDetail (login Jwt.fixed ⟨30, 7⟩ 0 checkpwUpTo72 (.ok [storedUser])
          unknown.email unknown.password) =
        (503, some "Authentication backend is temporarily unavailable") := by
  have raises : ∀ hash, checkpwUpTo72 (manyLetters 73) hash = .error .valueError := by
    intro hash
    have long : 72 < ((manyLetters 73).toList.flatMap String.utf8EncodeChar).length := by
      decide +kernel
    rw [checkpwUpTo72, if_pos long]
  have wrong : verifyPassword checkpwUpTo72 (manyLetters 73) storedUser.hashedPassword = false := by
    rw [verifyPassword, raises]
  have unguarded : login Jwt.fixed ⟨30, 7⟩ 0 checkpwUpTo72 (.ok [storedUser])
      "nobody@example.com" (manyLetters 73) =
        raise 503 "Authentication backend is temporarily unavailable" := by
    rw [login_unknown nobody_unknown, raises]
  exact ⟨loginWith "known@example.com" 73 seventyThree_letters,
    loginWith "nobody@example.com" 73 seventyThree_letters, rfl, storedUser_known, nobody_unknown,
    wrong, congrArg statusAndDetail (login_known storedUser_known wrong),
    congrArg statusAndDetail unguarded⟩

end PersonTracking.AuthService
