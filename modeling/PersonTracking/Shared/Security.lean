import PersonTracking.Shared.Http

/-!
# Authentication between services

The identity check every downstream service runs on the headers the gateway
sends it: the internal key, the user id and the role, in that order.
-/

namespace PersonTracking.Shared

open Library Python

/-- The roles the services know. -/
inductive Role
  | admin
  | operator
deriving DecidableEq, Repr

/-- `Role(n)`. -/
def Role.ofInt : Int → Except PyError Role
  | 1 => .ok admin
  | 2 => .ok operator
  | _ => .error .valueError

/-- `Role(int(value))`. -/
def readRole (value : Json) : Except PyError Role := value.toInt >>= Role.ofInt

/-- The identity a downstream service acts for. -/
structure AuthenticatedUser where
  userId : String
  role : Role
deriving DecidableEq, Repr

/-- `require_internal_user`, on the values of the three headers. -/
def requireInternalUser (expectedKey : String) (allowedRoles : List Role)
    (xInternalServiceKey xUserId xUserRole : String) : Except HTTPException AuthenticatedUser :=
  if expectedKey = "" ∨ xInternalServiceKey ≠ expectedKey then
    .error { statusCode := 403, detail := "Internal service authentication failed" }
  else if xUserId = "" then
    .error { statusCode := 401, detail := "Missing authenticated user context" }
  else
    match readRole (.str xUserRole) with
    | .error _ => .error { statusCode := 403, detail := "Invalid user role" }
    | .ok role =>
        if role ∈ allowedRoles then .ok { userId := xUserId, role }
        else .error { statusCode := 403, detail := "Insufficient permissions" }

/-- `require_roles`: the dependency of a route, reading the received headers. -/
def requireRoles (expectedKey : String) (allowedRoles : List Role) (headers : Headers) :
    Except HTTPException AuthenticatedUser :=
  requireInternalUser expectedKey allowedRoles (headers.param "X-Internal-Service-Key")
    (headers.param "X-User-Id") (headers.param "X-User-Role")

/-- An accepted request is acted on for exactly the id and role in its headers. -/
theorem requireInternalUser_eq_ok {expectedKey key userId role : String}
    {allowedRoles : List Role} {user : AuthenticatedUser}
    (accepted : requireInternalUser expectedKey allowedRoles key userId role = .ok user) :
    user.userId = userId ∧ readRole (.str role) = .ok user.role := by
  unfold requireInternalUser at accepted
  split at accepted
  · cases accepted
  · split at accepted
    · cases accepted
    · split at accepted
      · cases accepted
      · rename_i found parsed
        split at accepted
        · cases accepted
          exact ⟨rfl, parsed⟩
        · cases accepted

/-- A request is accepted exactly when it carries the configured key, names a
user and has a role the route lets in. -/
theorem exists_requireInternalUser_eq_ok {expectedKey key userId role : String}
    {allowedRoles : List Role} :
    (∃ user, requireInternalUser expectedKey allowedRoles key userId role = .ok user) ↔
      expectedKey ≠ "" ∧ key = expectedKey ∧ userId ≠ "" ∧
        ∃ r ∈ allowedRoles, readRole (.str role) = .ok r := by
  unfold requireInternalUser
  constructor
  · rintro ⟨user, accepted⟩
    split at accepted
    · cases accepted
    · rename_i rightKey
      split at accepted
      · cases accepted
      · rename_i named
        split at accepted
        · cases accepted
        · rename_i r parsed
          split at accepted
          · rename_i allowed
            rw [not_or, not_not] at rightKey
            exact ⟨rightKey.1, rightKey.2, named, r, allowed, parsed⟩
          · cases accepted
  · rintro ⟨configured, rightKey, named, r, allowed, parsed⟩
    refine ⟨{ userId, role := r }, ?_⟩
    rw [if_neg (by simp [configured, rightKey]), if_neg named, parsed]
    exact if_pos allowed

/-- **Roles survive the header.**  When the text of a role value is read back
as a role at all, it is the role the value itself denotes. -/
theorem readRole_scalarText {value : Json} {text : String} {role read : Role}
    (denotes : readRole value = .ok role) (shown : value.scalarText = some text)
    (parsed : readRole (.str text) = .ok read) : read = role := by
  cases value with
  | null | arr _ | obj _ => simp [readRole, Json.toInt, bind, Except.bind] at denotes
  | str written =>
      cases shown
      rw [denotes] at parsed
      cases parsed
      rfl
  | bool value =>
      have noRole : ∀ b : Bool,
          readRole (.str (if b then "True" else "False")) = .error .valueError := by decide
      cases shown
      rw [noRole] at parsed
      cases parsed
  | float value =>
      cases shown
      have unparsed := PyFloat.parseInt_repr value
      simp [readRole, Json.toInt, unparsed, bind, Except.bind] at parsed
  | int n =>
      cases shown
      have small : n = 1 ∨ n = 2 := by
        simp only [readRole, Json.toInt, bind, Except.bind] at denotes
        unfold Role.ofInt at denotes
        split at denotes
        · exact Or.inl rfl
        · exact Or.inr rfl
        · cases denotes
      rcases small with rfl | rfl
      · have one : readRole (.str (String.ofList (intDigits 1))) = .ok .admin := by decide
        rw [one] at parsed
        cases parsed
        cases denotes
        rfl
      · have two : readRole (.str (String.ofList (intDigits 2))) = .ok .operator := by decide
        rw [two] at parsed
        cases parsed
        cases denotes
        rfl

end PersonTracking.Shared
