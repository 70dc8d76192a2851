import PersonTracking.Gateway.TokenAgreement
import PersonTracking.Library.Pool

/-!
# Registering users

`/register` looks the email up, hashes the password and inserts the user.  Requests run
next to each other, each in a session of its own, and between the lookup and the commit
of one another one may have registered the same email: then the unique column of the
table refuses the row.  A statement may raise, and a commit may raise although it has
been carried out.

`registered_once` says what every run leaves, `one_account` what a run without faults
comes to, and `login_registered` that who has registered can log in and is let in as an
operator.
-/

namespace PersonTracking.AuthService

open Library Python Shared Gateway

/-! ## The request -/

/-- `validate_password_strength`. -/
def validatePasswordStrength (password : String) : Except String String :=
  if !password.toList.any fun c => 'A' ≤ c && c ≤ 'Z' then
    .error "Password must contain at least one uppercase letter"
  else if !password.toList.any fun c => 'a' ≤ c && c ≤ 'z' then
    .error "Password must contain at least one lowercase letter"
  else if !password.toList.any fun c =>
      decimalZeros.any fun start => start ≤ c.toNat && c.toNat < start + 10 then
    .error "Password must contain at least one digit"
  else .ok password

/-- `strip_full_name`. -/
def stripFullName (fullName : String) : Except String String :=
  let stripped := strip fullName.toList
  if stripped = [] then .error "Full name cannot be blank" else .ok (String.ofList stripped)

/-- `RegisterRequest`, validated. -/
structure RegisterRequest where
  email : String
  password : String
  fullName : String
  notShort : 8 ≤ password.toList.length
  notLong : password.toList.length ≤ 128
  strong : validatePasswordStrength password = .ok password
  named : ∃ sent : String, 1 ≤ sent.toList.length ∧ sent.toList.length ≤ 100 ∧
    stripFullName sent = .ok fullName

namespace RegisterRequest

/-- The validation of a body; what accepts the email is left open. -/
def validate (emailStr : String → Option String) (email password fullName : String) :
    Option RegisterRequest :=
  match emailStr email, named : stripFullName fullName with
  | some email, .ok stripped =>
      if valid : (8 ≤ password.toList.length ∧ password.toList.length ≤ 128) ∧
          validatePasswordStrength password = .ok password ∧
            1 ≤ fullName.toList.length ∧ fullName.toList.length ≤ 100 then
        some
          { email
            password
            fullName := stripped
            notShort := valid.1.1
            notLong := valid.1.2
            strong := valid.2.1
            named := ⟨fullName, valid.2.2.1, valid.2.2.2, named⟩ }
      else none
  | _, _ => none

/-- The login with the same email and password. -/
def toLogin (request : RegisterRequest) : LoginRequest where
  email := request.email
  password := request.password
  notEmpty := le_trans (by decide) request.notShort
  notLong := request.notLong

end RegisterRequest

/-! ## The route -/

/-- `new_user`, before it has an id. -/
structure NewUser where
  email : String
  hashedPassword : String
  fullName : String
  roleId : Int
deriving DecidableEq, Repr

/-- The row of a new user. -/
def NewUser.row (newUser : NewUser) (id : Uuid) : User where
  id := id
  email := newUser.email
  hashedPassword := newUser.hashedPassword
  fullName := some newUser.fullName
  isActive := true
  roleId := newUser.roleId

/-- What the route calls. -/
inductive RegisterCall
  | selectByEmail (email : String)
  | hashPassword (password : String)
  | commit (newUser : NewUser)
  | refresh (id : Uuid)
  | rollback
deriving DecidableEq, Repr

/-- What each call returns. -/
abbrev RegisterValue : RegisterCall → Type
  | .selectByEmail _ => Option User
  | .hashPassword _ => String
  | .commit _ => Uuid
  | .refresh _ | .rollback => Unit

/-- …unless it raises. -/
abbrev RegisterReply (call : RegisterCall) : Type := Except PyError (RegisterValue call)

/-- The answer to an email that is in the table. -/
def emailRegistered : HTTPException where
  statusCode := 409
  detail := "Email address already registered"

/-- The answer to a commit that raises. -/
def registrationFailed : HTTPException where
  statusCode := 500
  detail := "Failed to register user due to database error"

/-- A call of the route; an exception that nobody catches is the failure of the request. -/
def performing (call : RegisterCall) :
    Fallible RegisterCall RegisterReply Failure (RegisterValue call) :=
  Fallible.attempt (.call call fun answer => .done (answer.mapError Failure.unhandled))

/-- The user a request asks for. -/
def RegisterRequest.newUser (request : RegisterRequest) (hashed : String) : NewUser where
  email := request.email
  hashedPassword := hashed
  fullName := request.fullName
  roleId := 2

/-- `POST /register`. -/
def register (request : RegisterRequest) : Fallible RegisterCall RegisterReply Failure Uuid := do
  match ← performing (.selectByEmail request.email) with
  | some _ => throw (.http emailRegistered)
  | none =>
      let hashed ← performing (.hashPassword request.password)
      tryCatch
        (do
          let id ← performing (.commit (request.newUser hashed))
          performing (.refresh id)
          return id)
        fun _ => do
          performing .rollback
          throw (.http registrationFailed)

/-! ## The table and the requests -/

/-- `bcrypt`: a password passes the check against every hash of it. -/
structure Bcrypt where
  hashpw : String → String → Except PyError String
  checkpw : CheckPw
  checks : ∀ password salt hash, hashpw password salt = .ok hash →
    checkpw password hash = .ok true

/-- The users table with its unique columns. -/
structure UsersTable where
  rows : List User
  ids : (rows.map User.id).Nodup
  emails : (rows.map User.email).Nodup

/-- The texts of a row hold no NUL. -/
def User.Plain (row : User) : Prop :=
  hasNul row.email.toList = false ∧ hasNul row.hashedPassword.toList = false ∧
    ∀ fullName, row.fullName = some fullName → hasNul fullName.toList = false

instance (row : User) : Decidable row.Plain :=
  inferInstanceAs (Decidable (_ ∧ _ ∧ ∀ fullName, row.fullName = some fullName → _))

/-- The `INSERT`, unless a text or a unique column refuses it. -/
def UsersTable.insert (table : UsersTable) (row : User) : Option UsersTable :=
  if new : row.id ∉ table.rows.map User.id ∧ row.email ∉ table.rows.map User.email ∧
      row.Plain then
    some {
      rows := table.rows ++ [row]
      ids := by
        rw [List.map_append, List.map_singleton, ← List.concat_eq_append]
        exact table.ids.concat new.1
      emails := by
        rw [List.map_append, List.map_singleton, ← List.concat_eq_append]
        exact table.emails.concat new.2.1 }
  else none

/-- A fault strikes a statement before it is carried out, or after. -/
inductive Fault
  | before
  | after
deriving DecidableEq, Repr

/-- A moment: the fault that strikes, and what a salt or an id would be. -/
structure RegisterMoment where
  fault : Option Fault
  salt : String
  id : Uuid

/-- What the requests share.  `stored` notes the row a request has inserted. -/
structure Registrations (ι : Type) where
  users : UsersTable
  stored : ι → Option Uuid

variable {ι : Type} [DecidableEq ι]

namespace Registrations

/-- A statement that has no effect. -/
def ask {α : Type} (stores : Registrations ι) (fault : Option Fault) (answer : Except PyError α) :
    Option (Except PyError α × Registrations ι) :=
  some (if fault = none then answer else .error .sqlError, stores)

/-- `db.commit()`: the row of the session is inserted. -/
def commit (stores : Registrations ι) (moment : RegisterMoment) (worker : ι) (newUser : NewUser) :
    Except PyError Uuid × Registrations ι :=
  if moment.fault = some .before then (.error .sqlError, stores)
  else
    match stores.users.insert (newUser.row moment.id) with
    | none => (.error .sqlError, stores)
    | some users =>
        (if moment.fault = none then .ok moment.id else .error .sqlError,
          { users, stored := Function.update stores.stored worker (some moment.id) })

/-- What answers a call at a moment. -/
def answer (bcrypt : Bcrypt) (moment : RegisterMoment) (worker : ι) :
    (call : RegisterCall) → Registrations ι → Option (RegisterReply call × Registrations ι)
  | .selectByEmail email, stores =>
      stores.ask moment.fault
        (if hasNul email.toList then .error .sqlError
        else .ok (stores.users.rows.find? fun row => row.email = email))
  | .hashPassword password, stores => some (bcrypt.hashpw password moment.salt, stores)
  | .commit newUser, stores => some (stores.commit moment worker newUser)
  | .refresh id, stores =>
      stores.ask moment.fault
        (if id ∈ stores.users.rows.map User.id then .ok () else .error .runtimeError)
  | .rollback, stores => stores.ask moment.fault (.ok ())

end Registrations

/-- The requests with what they share. -/
abbrev RegisterPool (ι : Type) : Type :=
  Pool ι RegisterCall RegisterReply (Except Failure Uuid) (Registrations ι)

/-- The next call of a request. -/
abbrev RegisterMove (ι : Type) : Type := PoolMove ι RegisterMoment Empty

/-- Calls are answered, and nothing else happens. -/
def registerSurroundings (bcrypt : Bcrypt) :
    Surroundings ι RegisterCall RegisterReply (Except Failure Uuid) (Registrations ι)
      RegisterMoment Empty where
  answer := Registrations.answer bcrypt
  happen event _ := event.elim

/-- All requests are about to be handled. -/
def RegisterPool.start (users : UsersTable) (requests : ι → RegisterRequest) : RegisterPool ι where
  shared := { users, stored := fun _ => none }
  residual worker := (register (requests worker)).run

/-- An account as a request asks for it. -/
structure IsAccountOf (bcrypt : Bcrypt) (request : RegisterRequest) (row : User) : Prop where
  email : row.email = request.email
  fullName : row.fullName = some request.fullName
  active : row.isActive = true
  role : row.roleId = 2
  password : verifyPassword bcrypt.checkpw request.password row.hashedPassword = true

/-- **Registered once**: no row is changed or removed, every further row belongs to one
request and is as that request asks for it, a request that is answered with an id has a
row under it, and one that is answered with a conflict has none and its email is taken. -/
structure RegisteredOnce (bcrypt : Bcrypt) (requests : ι → RegisterRequest) (initial : UsersTable)
    (pool : RegisterPool ι) : Prop where
  kept : initial.rows <+: pool.shared.users.rows
  further : ∀ row ∈ pool.shared.users.rows, row ∉ initial.rows →
    (∃! worker, pool.shared.stored worker = some row.id) ∧
      ∀ worker, pool.shared.stored worker = some row.id → IsAccountOf bcrypt (requests worker) row
  created : ∀ worker id, pool.residual worker = .done (.ok id) →
    ∃ row ∈ pool.shared.users.rows, row ∉ initial.rows ∧ row.id = id ∧
      IsAccountOf bcrypt (requests worker) row
  refused : ∀ worker, pool.residual worker = .done (.error (.http emailRegistered)) →
    (requests worker).email ∈ pool.shared.users.rows.map User.email ∧
      pool.shared.stored worker = none
  apart : ∀ worker other id id', pool.residual worker = .done (.ok id) →
    pool.residual other = .done (.ok id') → worker ≠ other →
      id ≠ id' ∧ (requests worker).email ≠ (requests other).email

/-! ## How far a request has come -/

/-- How far a request has come: it has not looked its email up; the email is free; the
password is hashed; the email is taken; the row is inserted; a statement on the way has
raised, inside or outside of the `try`. -/
inductive Registering
  | started
  | free
  | hashed (hash : String)
  | taken
  | inserted (id : Uuid)
  | unsure
  | broken
deriving DecidableEq, Repr

namespace Registering

/-- What an answered call makes of a request. -/
def next (phase : Registering) : (call : RegisterCall) → RegisterReply call → Registering
  | .selectByEmail _, .ok (some _) => taken
  | .selectByEmail _, .ok none => free
  | .hashPassword _, .ok hash => hashed hash
  | .commit _, .ok id => inserted id
  | .commit _, .error _ | .refresh _, .error _ => unsure
  | .refresh _, .ok () | .rollback, .ok () => phase
  | .selectByEmail _, .error _ | .hashPassword _, .error _ | .rollback, .error _ => broken

/-- What a request may call. -/
def Allows (request : RegisterRequest) (phase : Registering) : RegisterCall → Prop
  | .selectByEmail email => phase = started ∧ email = request.email
  | .hashPassword password => phase = free ∧ password = request.password
  | .commit newUser => ∃ hash, phase = hashed hash ∧ newUser = request.newUser hash
  | .refresh id => phase = inserted id
  | .rollback => phase = unsure

/-- No row has been sent yet. -/
def Early : Registering → Prop
  | started | free | hashed _ | taken => True
  | inserted _ | unsure | broken => False

end Registering

/-- The calculus of a request. -/
def registering (request : RegisterRequest) :
    Program.Rules RegisterCall RegisterReply Registering where
  allowed phase call := phase.Allows request call
  admits _ _ _ := True
  after phase call reply := phase.next call reply

/-- How a request ends. -/
def RegisterEnds : Except Failure Uuid → Registering → Prop
  | .ok id, phase => phase = .inserted id
  | .error (.http exception), phase =>
      (exception = emailRegistered ∧ phase = .taken) ∨
        (exception = registrationFailed ∧ phase = .unsure)
  | .error (.unhandled _), phase => phase = .broken

/-! ### The program -/

/-- A call is allowed, and goes on with its value or raises. -/
theorem wpe_performing {request : RegisterRequest} {phase : Registering} {call : RegisterCall}
    {post : RegisterValue call → Registering → Prop} {raised : Failure → Registering → Prop}
    (allowed : phase.Allows request call)
    (returns : ∀ value, post value (phase.next call (.ok value)))
    (raises : ∀ error, raised (.unhandled error) (phase.next call (.error error))) :
    Fallible.wpe (registering request) post raised (performing call) phase := by
  refine ⟨allowed, fun answer _ => ?_⟩
  cases answer with
  | error error => exact raises error
  | ok value => exact returns value

/-- **Every request keeps to its calculus**, whatever it is answered. -/
theorem register_spec (request : RegisterRequest) :
    Program.wp (registering request) RegisterEnds (register request).run .started := by
  have ends : ∀ program phase,
      Fallible.wpe (registering request) (fun id later => later = .inserted id)
          (fun failure later => RegisterEnds (.error failure) later) program phase →
        Program.wp (registering request) RegisterEnds program.run phase := by
    intro program phase holds
    refine Program.wp_mono (fun result later ended => ?_) holds
    cases result <;> exact ended
  refine ends _ _ ?_
  rw [register, Fallible.wpe_bind]
  refine wpe_performing ⟨rfl, rfl⟩ (fun found => ?_) fun error => rfl
  cases found with
  | some row => exact Or.inl ⟨rfl, rfl⟩
  | none =>
      show Fallible.wpe _ _ _ _ Registering.free
      rw [Fallible.wpe_bind]
      refine wpe_performing ⟨rfl, rfl⟩ (fun hash => ?_) fun error => rfl
      -- what the rescue does once a statement in the `try` has raised
      have rescued : Fallible.wpe (registering request) (fun id later => later = .inserted id)
          (fun failure later => RegisterEnds (.error failure) later)
          (do performing .rollback; throw (.http registrationFailed)) .unsure := by
        rw [Fallible.wpe_bind]
        exact wpe_performing rfl (fun _ => Or.inr ⟨rfl, rfl⟩) fun error => rfl
      show Fallible.wpe _ _ _ _ (Registering.hashed hash)
      rw [Fallible.wpe_tryCatch, Fallible.wpe_bind]
      refine wpe_performing ⟨hash, rfl, rfl⟩ (fun id => ?_) fun error => rescued
      show Fallible.wpe _ _ _ _ (Registering.inserted id)
      rw [Fallible.wpe_bind]
      exact wpe_performing rfl (fun _ => rfl) fun error => rescued

/-! ## What the requests share -/

/-- What an insert leaves of a table. -/
theorem UsersTable.of_insert {table after : UsersTable} {row : User}
    (inserted : table.insert row = some after) :
    row.id ∉ table.rows.map User.id ∧ row.email ∉ table.rows.map User.email ∧
      after.rows = table.rows ++ [row] := by
  unfold UsersTable.insert at inserted
  split at inserted
  · rename_i new
    cases inserted
    exact ⟨new.1, new.2.1, rfl⟩
  · cases inserted

/-- **The invariant** of the requests and the table. -/
structure Registered (bcrypt : Bcrypt) (requests : ι → RegisterRequest) (initial : UsersTable)
    (phases : ι → RegisterRequest × Registering) (stores : Registrations ι) : Prop where
  made : ∀ worker, (phases worker).1 = requests worker
  kept : initial.rows <+: stores.users.rows
  further : ∀ row ∈ stores.users.rows, row ∈ initial.rows ∨
    ∃ worker, stores.stored worker = some row.id
  accounts : ∀ worker id, stores.stored worker = some id → ∃ row ∈ stores.users.rows,
    row ∉ initial.rows ∧ row.id = id ∧ IsAccountOf bcrypt (requests worker) row
  own : ∀ worker other id, stores.stored worker = some id → stores.stored other = some id →
    worker = other
  hashes : ∀ worker hash, (phases worker).2 = .hashed hash →
    verifyPassword bcrypt.checkpw (requests worker).password hash = true
  taken : ∀ worker, (phases worker).2 = .taken →
    (requests worker).email ∈ stores.users.rows.map User.email
  inserted : ∀ worker id, (phases worker).2 = .inserted id → stores.stored worker = some id
  early : ∀ worker, (phases worker).2.Early → stores.stored worker = none

namespace Registered

variable {bcrypt : Bcrypt} {requests : ι → RegisterRequest} {initial : UsersTable}
  {phases : ι → RegisterRequest × Registering} {stores after : Registrations ι} {worker : ι}

/-- A call that leaves the table alone, when the phase it leads to is right. -/
theorem move (registered : Registered bcrypt requests initial phases stores) {phase : Registering}
    (hashes : ∀ hash, phase = .hashed hash →
      verifyPassword bcrypt.checkpw (requests worker).password hash = true)
    (taken : phase = .taken → (requests worker).email ∈ stores.users.rows.map User.email)
    (inserted : ∀ id, phase = .inserted id → stores.stored worker = some id)
    (early : phase.Early → stores.stored worker = none) :
    Registered bcrypt requests initial
      (Function.update phases worker (requests worker, phase)) stores :=
  { registered with
    made := (Function.forall_update_iff phases fun other phase => phase.1 = requests other).mpr
      ⟨rfl, fun other _ => registered.made other⟩
    hashes := (Function.forall_update_iff phases fun other phase => ∀ hash,
      phase.2 = .hashed hash →
        verifyPassword bcrypt.checkpw (requests other).password hash = true).mpr
          ⟨hashes, fun other _ => registered.hashes other⟩
    taken := (Function.forall_update_iff phases fun other phase => phase.2 = .taken →
      (requests other).email ∈ stores.users.rows.map User.email).mpr
        ⟨taken, fun other _ => registered.taken other⟩
    inserted := (Function.forall_update_iff phases fun other phase => ∀ id,
      phase.2 = .inserted id → stores.stored other = some id).mpr
        ⟨inserted, fun other _ => registered.inserted other⟩
    early := (Function.forall_update_iff phases fun other phase => phase.2.Early →
      stores.stored other = none).mpr ⟨early, fun other _ => registered.early other⟩ }

/-- Ids of their own stay so when one request gets an id that nobody has. -/
theorem own_update {stored : ι → Option Uuid} {id : Uuid}
    (own : ∀ worker other id, stored worker = some id → stored other = some id → worker = other)
    (fresh : ∀ other, stored other ≠ some id) (first second : ι) {noted : Uuid}
    (here : Function.update stored worker (some id) first = some noted)
    (there : Function.update stored worker (some id) second = some noted) : first = second := by
  by_cases one : first = worker
  · by_cases two : second = worker
    · exact one.trans two.symm
    · rw [Function.update_of_ne two] at there
      rw [one, Function.update_self] at here
      exact absurd (there.trans here.symm) (fresh second)
  · by_cases two : second = worker
    · rw [Function.update_of_ne one] at here
      rw [two, Function.update_self] at there
      exact absurd (here.trans there.symm) (fresh first)
    · rw [Function.update_of_ne one] at here
      rw [Function.update_of_ne two] at there
      exact own first second noted here there

/-- **An insert** gives its request a row. -/
theorem insert (registered : Registered bcrypt requests initial phases stores) {hash : String}
    {id : Uuid} (hashed : (phases worker).2 = .hashed hash)
    (stored : stores.users.insert (((requests worker).newUser hash).row id) = some after.users)
    (notes : after.stored = Function.update stores.stored worker (some id))
    {phase : Registering} (late : phase = .inserted id ∨ phase = .unsure) :
    Registered bcrypt requests initial (Function.update phases worker (requests worker, phase))
      after := by
  obtain ⟨newId, -, rows⟩ := UsersTable.of_insert stored
  have unstored : stores.stored worker = none :=
    registered.early worker (by rw [hashed]; exact trivial)
  have grown : ∀ row ∈ stores.users.rows, row ∈ after.users.rows := fun row member => by
    rw [rows]
    exact List.mem_append_left _ member
  -- nobody else has a row under the new id
  have fresh : ∀ other, stores.stored other ≠ some id := by
    intro other same
    obtain ⟨row, member, -, own, -⟩ := registered.accounts other id same
    exact newId (List.mem_map.mpr ⟨row, member, own⟩)
  have still : ∀ other, other ≠ worker → after.stored other = stores.stored other := by
    intro other different
    rw [notes, Function.update_of_ne different]
  have mine : after.stored worker = some id := by rw [notes, Function.update_self]
  constructor
  case made =>
    exact (Function.forall_update_iff phases fun other phase => phase.1 = requests other).mpr
      ⟨rfl, fun other _ => registered.made other⟩
  case kept =>
    rw [rows]
    exact registered.kept.trans (List.prefix_append _ _)
  case further =>
    intro row member
    rw [rows] at member
    rcases List.mem_append.mp member with before | this
    · rcases registered.further row before with old | ⟨other, noted⟩
      · exact Or.inl old
      · refine Or.inr ⟨other, ?_⟩
        rw [still other (fun same => by rw [same, unstored] at noted; cases noted)]
        exact noted
    · rw [List.mem_singleton.mp this]
      exact Or.inr ⟨worker, mine⟩
  case accounts =>
    intro other stored noted
    by_cases same : other = worker
    · subst same
      rw [mine, Option.some.injEq] at noted
      subst noted
      refine ⟨_, by rw [rows]; exact List.mem_append_right _ (List.mem_singleton_self _), ?_, rfl,
        rfl, rfl, rfl, rfl, registered.hashes other hash hashed⟩
      intro before
      exact newId (List.mem_map_of_mem (registered.kept.subset before))
    · rw [still other same] at noted
      obtain ⟨row, member, account⟩ := registered.accounts other stored noted
      exact ⟨row, grown row member, account⟩
  case own =>
    rw [notes]
    exact fun first second _ => own_update registered.own fresh first second
  case hashes =>
    refine (Function.forall_update_iff phases fun other phase => ∀ hash,
      phase.2 = .hashed hash →
        verifyPassword bcrypt.checkpw (requests other).password hash = true).mpr
          ⟨fun hash same => ?_, fun other _ => registered.hashes other⟩
    rcases late with rfl | rfl <;> cases same
  case taken =>
    refine (Function.forall_update_iff phases fun other phase => phase.2 = .taken →
      (requests other).email ∈ after.users.rows.map User.email).mpr
        ⟨fun same => ?_, fun other _ same => ?_⟩
    · rcases late with rfl | rfl <;> cases same
    · obtain ⟨row, member, email⟩ := List.mem_map.mp (registered.taken other same)
      exact List.mem_map.mpr ⟨row, grown row member, email⟩
  case inserted =>
    refine (Function.forall_update_iff phases fun other phase => ∀ stored,
      phase.2 = .inserted stored →
        after.stored other = some stored).mpr
          ⟨fun stored same => ?_, fun other different stored same => ?_⟩
    · rcases late with rfl | rfl
      · cases same
        exact mine
      · cases same
    · rw [still other different]
      exact registered.inserted other stored same
  case early =>
    refine (Function.forall_update_iff phases fun other phase => phase.2.Early →
      after.stored other = none).mpr
        ⟨fun sooner => ?_, fun other different sooner => ?_⟩
    · rcases late with rfl | rfl <;> exact sooner.elim
    · rw [still other different]
      exact registered.early other sooner

/-- **What an answered call does.** -/
theorem answer (registered : Registered bcrypt requests initial phases stores)
    {moment : RegisterMoment} {call : RegisterCall} {reply : RegisterReply call}
    (allowed : (phases worker).2.Allows (requests worker) call)
    (answered : Registrations.answer bcrypt moment worker call stores = some (reply, after)) :
    Registered bcrypt requests initial
      (Function.update phases worker (requests worker, (phases worker).2.next call reply))
      after := by
  have early := registered.early worker
  cases call with
  | selectByEmail email =>
      obtain ⟨started, rfl⟩ := allowed
      rw [started] at early
      simp only [Registrations.answer, Registrations.ask, Option.some.injEq, Prod.mk.injEq]
        at answered
      obtain ⟨rfl, rfl⟩ := answered
      have failed : Registered bcrypt requests initial
          (Function.update phases worker (requests worker, .broken)) stores :=
        registered.move nofun nofun nofun fun sooner => sooner.elim
      split
      · split
        · exact failed
        · cases found : stores.users.rows.find? fun row => row.email = (requests worker).email with
          | none => exact registered.move nofun nofun nofun fun _ => early trivial
          | some row =>
              refine registered.move nofun (fun _ => ?_) nofun fun _ => early trivial
              have same : row.email = (requests worker).email := by
                simpa using List.find?_some found
              exact List.mem_map.mpr ⟨row, List.mem_of_find?_eq_some found, same⟩
      · exact failed
  | hashPassword password =>
      obtain ⟨free, rfl⟩ := allowed
      rw [free] at early
      simp only [Registrations.answer, Option.some.injEq, Prod.mk.injEq] at answered
      obtain ⟨rfl, rfl⟩ := answered
      cases hashed : bcrypt.hashpw (requests worker).password moment.salt with
      | error error => exact registered.move nofun nofun nofun fun sooner => sooner.elim
      | ok hash =>
          refine registered.move (fun other same => ?_) nofun nofun fun _ => early trivial
          cases same
          rw [verifyPassword, bcrypt.checks _ _ _ hashed]
  | commit newUser =>
      obtain ⟨hash, hashed, rfl⟩ := allowed
      have failed : Registered bcrypt requests initial
          (Function.update phases worker (requests worker, .unsure)) stores :=
        registered.move nofun nofun nofun fun sooner => sooner.elim
      simp only [Registrations.answer, Registrations.commit, Option.some.injEq] at answered
      split at answered
      · cases answered
        exact failed
      · split at answered
        · cases answered
          exact failed
        · rename_i users inserted
          cases answered
          refine registered.insert hashed inserted rfl ?_
          split
          · exact Or.inl rfl
          · exact Or.inr rfl
  | refresh id =>
      simp only [Registrations.answer, Registrations.ask, Option.some.injEq, Prod.mk.injEq]
        at answered
      obtain ⟨rfl, rfl⟩ := answered
      have failed : Registered bcrypt requests initial
          (Function.update phases worker (requests worker, .unsure)) stores :=
        registered.move nofun nofun nofun fun sooner => sooner.elim
      split
      · split
        · exact registered.move (registered.hashes worker) (registered.taken worker)
            (registered.inserted worker) early
        · exact failed
      · exact failed
  | rollback =>
      simp only [Registrations.answer, Registrations.ask, Option.some.injEq, Prod.mk.injEq]
        at answered
      obtain ⟨rfl, rfl⟩ := answered
      split
      · exact registered.move (registered.hashes worker) (registered.taken worker)
          (registered.inserted worker) early
      · exact registered.move nofun nofun nofun fun sooner => sooner.elim

end Registered

/-- **The invariant of runs without faults**: a commit that was refused has come too late,
nothing else has raised, who has a row knows it, and no hash holds a NUL. -/
structure Calm (requests : ι → RegisterRequest) (phases : ι → RegisterRequest × Registering)
    (stores : Registrations ι) : Prop where
  late : ∀ worker, (phases worker).2 = .unsure →
    (requests worker).email ∈ stores.users.rows.map User.email
  unbroken : ∀ worker, (phases worker).2 ≠ .broken
  knows : ∀ worker id, stores.stored worker = some id → (phases worker).2 = .inserted id
  plain : ∀ worker hash, (phases worker).2 = .hashed hash →
    ∀ id, (((requests worker).newUser hash).row id).Plain

/-- No fault strikes the move, its id is new, the password can be hashed, and the texts of
the row it makes hold no NUL. -/
def Undisturbed (bcrypt : Bcrypt) (requests : ι → RegisterRequest) (pool : RegisterPool ι) :
    RegisterMove ι → Prop
  | .happen _ => True
  | .answer worker moment => moment.fault = none ∧
      moment.id ∉ pool.shared.users.rows.map User.id ∧
        ∃ hash, bcrypt.hashpw (requests worker).password moment.salt = .ok hash ∧
          (((requests worker).newUser hash).row moment.id).Plain

namespace Calm

variable {bcrypt : Bcrypt} {requests : ι → RegisterRequest} {initial : UsersTable}
  {phases : ι → RegisterRequest × Registering} {stores after : Registrations ι} {worker : ι}

/-- A call that leaves the table alone, when the phase it leads to is right. -/
theorem move (calm : Calm requests phases stores) {phase : Registering}
    (late : phase = .unsure → (requests worker).email ∈ stores.users.rows.map User.email)
    (unbroken : phase ≠ .broken)
    (knows : ∀ id, stores.stored worker = some id → phase = .inserted id)
    (plain : ∀ hash, phase = .hashed hash → ∀ id,
      (((requests worker).newUser hash).row id).Plain) :
    Calm requests (Function.update phases worker (requests worker, phase)) stores where
  late := (Function.forall_update_iff phases fun other phase => phase.2 = .unsure →
    (requests other).email ∈ stores.users.rows.map User.email).mpr
      ⟨late, fun other _ => calm.late other⟩
  unbroken := (Function.forall_update_iff phases fun _ phase => phase.2 ≠ .broken).mpr
    ⟨unbroken, fun other _ => calm.unbroken other⟩
  knows := (Function.forall_update_iff phases fun other phase => ∀ id,
    stores.stored other = some id → phase.2 = .inserted id).mpr
      ⟨knows, fun other _ => calm.knows other⟩
  plain := (Function.forall_update_iff phases fun other phase => ∀ hash,
    phase.2 = .hashed hash → ∀ id, (((requests other).newUser hash).row id).Plain).mpr
      ⟨plain, fun other _ => calm.plain other⟩

/-- An insert that is answered. -/
theorem insert (calm : Calm requests phases stores) {row : User} {id : Uuid}
    (stored : stores.users.insert row = some after.users)
    (notes : after.stored = Function.update stores.stored worker (some id)) :
    Calm requests (Function.update phases worker (requests worker, .inserted id)) after := by
  obtain ⟨-, -, rows⟩ := UsersTable.of_insert stored
  constructor
  case late =>
    refine (Function.forall_update_iff phases fun other phase => phase.2 = .unsure →
      (requests other).email ∈ after.users.rows.map User.email).mpr ⟨nofun, fun other _ same => ?_⟩
    rw [rows, List.map_append]
    exact List.mem_append_left _ (calm.late other same)
  case unbroken =>
    exact (Function.forall_update_iff phases fun _ phase => phase.2 ≠ .broken).mpr
      ⟨nofun, fun other _ => calm.unbroken other⟩
  case knows =>
    refine (Function.forall_update_iff phases fun other phase => ∀ id,
      after.stored other = some id → phase.2 = .inserted id).mpr
        ⟨fun own noted => ?_, fun other different own noted => ?_⟩
    · rw [notes, Function.update_self, Option.some.injEq] at noted
      rw [noted]
    · rw [notes, Function.update_of_ne different] at noted
      exact calm.knows other own noted
  case plain =>
    exact (Function.forall_update_iff phases fun other phase => ∀ hash,
      phase.2 = .hashed hash → ∀ id, (((requests other).newUser hash).row id).Plain).mpr
        ⟨nofun, fun other _ => calm.plain other⟩

/-- **What an answered call does** where no fault strikes. -/
theorem answer (registered : Registered bcrypt requests initial phases stores)
    (calm : Calm requests phases stores) {moment : RegisterMoment} {call : RegisterCall}
    {reply : RegisterReply call} (faultless : moment.fault = none)
    (fresh : moment.id ∉ stores.users.rows.map User.id)
    (hashes : ∃ hash, bcrypt.hashpw (requests worker).password moment.salt = .ok hash ∧
      (((requests worker).newUser hash).row moment.id).Plain)
    (allowed : (phases worker).2.Allows (requests worker) call)
    (answered : Registrations.answer bcrypt moment worker call stores = some (reply, after)) :
    Calm requests
      (Function.update phases worker (requests worker, (phases worker).2.next call reply))
      after := by
  have unstored : (phases worker).2.Early → ∀ phase id, stores.stored worker = some id →
      phase = Registering.inserted id := by
    intro sooner phase id noted
    rw [registered.early worker sooner] at noted
    cases noted
  cases call with
  | selectByEmail email =>
      obtain ⟨started, rfl⟩ := allowed
      rw [started] at unstored
      obtain ⟨hash, -, plain, -⟩ := hashes
      replace plain : ¬ hasNul (requests worker).email.toList = true := by
        rw [show hasNul (requests worker).email.toList = false from plain]
        exact Bool.false_ne_true
      simp only [Registrations.answer, Registrations.ask, faultless, if_true, if_neg plain,
        Option.some.injEq, Prod.mk.injEq] at answered
      obtain ⟨rfl, rfl⟩ := answered
      cases stores.users.rows.find? fun row => row.email = (requests worker).email with
      | none => exact calm.move nofun nofun (unstored trivial _) nofun
      | some row => exact calm.move nofun nofun (unstored trivial _) nofun
  | hashPassword password =>
      obtain ⟨free, rfl⟩ := allowed
      rw [free] at unstored
      obtain ⟨hash, hashed, plain⟩ := hashes
      simp only [Registrations.answer, hashed, Option.some.injEq, Prod.mk.injEq] at answered
      obtain ⟨rfl, rfl⟩ := answered
      refine calm.move nofun nofun (unstored trivial _) fun other same => ?_
      cases same
      exact fun _ => plain
  | commit newUser =>
      obtain ⟨hash, hashed, rfl⟩ := allowed
      rw [hashed] at unstored
      simp only [Registrations.answer, Registrations.commit, faultless, reduceCtorEq, if_false,
        if_true, Option.some.injEq] at answered
      split at answered
      · rename_i refused
        cases answered
        refine calm.move (fun _ => ?_) nofun (unstored trivial _) nofun
        -- the id is new and the texts are plain, so it is the email that is not new
        unfold UsersTable.insert at refused
        split at refused
        · cases refused
        · rename_i taken
          by_contra free
          exact taken ⟨fresh, free, calm.plain worker hash hashed _⟩
      · rename_i users inserted
        cases answered
        exact calm.insert inserted rfl
  | refresh id =>
      replace allowed : (phases worker).2 = .inserted id := allowed
      obtain ⟨row, member, -, own, -⟩ :=
        registered.accounts worker id (registered.inserted worker id allowed)
      have there : id ∈ stores.users.rows.map User.id := List.mem_map.mpr ⟨row, member, own⟩
      simp only [Registrations.answer, Registrations.ask, faultless, there, if_true,
        Option.some.injEq, Prod.mk.injEq] at answered
      obtain ⟨rfl, rfl⟩ := answered
      exact calm.move (calm.late worker) (calm.unbroken worker) (calm.knows worker)
        (calm.plain worker)
  | rollback =>
      simp only [Registrations.answer, Registrations.ask, faultless, if_true, Option.some.injEq,
        Prod.mk.injEq] at answered
      obtain ⟨rfl, rfl⟩ := answered
      exact calm.move (calm.late worker) (calm.unbroken worker) (calm.knows worker)
        (calm.plain worker)

end Calm

/-! ## Whole runs -/

section Runs

variable {bcrypt : Bcrypt} {requests : ι → RegisterRequest} {initial : UsersTable}
  {moves : List (RegisterMove ι)} {pool : RegisterPool ι}

/-- The rules of all requests. -/
abbrev allRegistering : Program.Rules RegisterCall RegisterReply (RegisterRequest × Registering) :=
  Program.Rules.each registering

/-- How a request ends, with the request. -/
abbrev EachEnds (result : Except Failure Uuid) (phase : RegisterRequest × Registering) : Prop :=
  RegisterEnds result phase.2

omit [DecidableEq ι] in
/-- Nothing has happened. -/
theorem registered_start :
    Registered bcrypt requests initial (fun worker => (requests worker, .started))
      (RegisterPool.start initial requests).shared where
  made _ := rfl
  kept := List.prefix_rfl
  further _ member := Or.inl member
  accounts _ _ wrong := by cases wrong
  own _ _ _ wrong := by cases wrong
  hashes _ _ wrong := by cases wrong
  taken _ wrong := by cases wrong
  inserted _ _ wrong := by cases wrong
  early _ _ := rfl

omit [DecidableEq ι] in
/-- Every request keeps to its rules from the start. -/
theorem register_each (worker : ι) :
    Program.wp allRegistering EachEnds ((RegisterPool.start initial requests).residual worker)
      (requests worker, .started) :=
  Program.wp_each.mpr (register_spec (requests worker))

/-- **Every run is registered.** -/
theorem tracked_registered
    (reached : runFrom (registerSurroundings bcrypt).step (RegisterPool.start initial requests)
      moves = some pool) :
    pool.Tracked allRegistering EachEnds (Registered bcrypt requests initial) := by
  have always : Meets (fun _ _ => True) (registerSurroundings bcrypt).step
      (RegisterPool.start initial requests) moves := meets_of_always (fun _ _ => trivial) _ _
  refine Surroundings.tracked ?_ ?_ ⟨_, registered_start, register_each⟩ always reached
  · intro pool phases worker moment call next reply stores registered _ _ allowed _ answered
    replace allowed : (phases worker).2.Allows (phases worker).1 call := allowed
    rw [registered.made worker] at allowed
    have kept := registered.answer allowed answered
    rw [← registered.made worker] at kept
    exact ⟨trivial, kept⟩
  · exact fun _ event => event.elim

omit [DecidableEq ι] in
/-- A request that has ended has ended in a phase that says so. -/
theorem ended_of_done {phases : ι → RegisterRequest × Registering}
    (holds : ∀ worker, Program.wp allRegistering EachEnds (pool.residual worker) (phases worker))
    {worker : ι} {result : Except Failure Uuid} (done : pool.residual worker = .done result) :
    RegisterEnds result (phases worker).2 := by
  have ended := holds worker
  rwa [done] at ended

/-- Two rows of a table that share a unique column are one. -/
theorem UsersTable.eq_of_email {table : UsersTable} {row other : User} (member : row ∈ table.rows)
    (member' : other ∈ table.rows) (same : row.email = other.email) : row = other :=
  List.inj_on_of_nodup_map table.emails member member' same

theorem UsersTable.eq_of_id {table : UsersTable} {row other : User} (member : row ∈ table.rows)
    (member' : other ∈ table.rows) (same : row.id = other.id) : row = other :=
  List.inj_on_of_nodup_map table.ids member member' same

omit [DecidableEq ι] in
/-- Who is answered with an id has the row under it. -/
theorem account_of_done {phases : ι → RegisterRequest × Registering}
    (registered : Registered bcrypt requests initial phases pool.shared)
    (holds : ∀ worker, Program.wp allRegistering EachEnds (pool.residual worker) (phases worker))
    {worker : ι} {id : Uuid} (done : pool.residual worker = .done (.ok id)) :
    pool.shared.stored worker = some id ∧ ∃ row ∈ pool.shared.users.rows, row ∉ initial.rows ∧
      row.id = id ∧ IsAccountOf bcrypt (requests worker) row := by
  have stored := registered.inserted worker id (ended_of_done holds done)
  exact ⟨stored, registered.accounts worker id stored⟩

/-- **Registered once.**  Whatever was in the table, in whatever order the statements of the
requests are answered and whichever raise. -/
theorem registered_once
    (reached : runFrom (registerSurroundings bcrypt).step (RegisterPool.start initial requests)
      moves = some pool) :
    RegisteredOnce bcrypt requests initial pool := by
  obtain ⟨phases, registered, holds⟩ := tracked_registered reached
  constructor
  case kept => exact registered.kept
  case further =>
    intro row member new
    have account : ∀ worker, pool.shared.stored worker = some row.id →
        IsAccountOf bcrypt (requests worker) row := by
      intro worker noted
      obtain ⟨stored, inside, -, same, own⟩ := registered.accounts worker row.id noted
      exact UsersTable.eq_of_id inside member same ▸ own
    obtain ⟨worker, noted⟩ := (registered.further row member).resolve_left new
    exact ⟨⟨worker, noted, fun other noted' => registered.own other worker row.id noted' noted⟩,
      account⟩
  case created =>
    intro worker id done
    exact (account_of_done registered holds done).2
  case refused =>
    intro worker done
    have ended : RegisterEnds _ _ := ended_of_done holds done
    rcases ended with ⟨-, taken⟩ | ⟨wrong, -⟩
    · exact ⟨registered.taken worker taken, registered.early worker (by rw [taken]; exact trivial)⟩
    · exact absurd wrong (by decide)
  case apart =>
    intro worker other id id' done done' different
    obtain ⟨stored, row, member, -, same, account⟩ := account_of_done registered holds done
    obtain ⟨stored', row', member', -, same', account'⟩ := account_of_done registered holds done'
    have ids : id ≠ id' := by
      rintro rfl
      exact different (registered.own worker other id stored stored')
    refine ⟨ids, fun email => ids ?_⟩
    have rows : row = row' :=
      UsersTable.eq_of_email member member' (account.email.trans (email.trans account'.email.symm))
    rw [← same, ← same', rows]

/-- An active user whose email is in the table logs in with the right password. -/
theorem login_of_mem (jwt : Jwt) (settings : AuthServiceSettings) (now : Int) {checkpw : CheckPw}
    {table : UsersTable} {user : User} {password : String} (member : user ∈ table.rows)
    (active : user.isActive = true)
    (right : verifyPassword checkpw password user.hashedPassword = true) :
    login jwt settings now checkpw (.ok table.rows) user.email password =
      .ok (issueTokens jwt settings now user) := by
  have found : (table.rows.find? fun row => row.email = user.email ∧ row.isActive) = some user := by
    cases looked : table.rows.find? fun row => row.email = user.email ∧ row.isActive with
    | none =>
        have nobody := List.find?_eq_none.mp looked user member
        simp [active] at nobody
    | some other =>
        have same : other.email = user.email ∧ other.isActive = true := by
          simpa using List.find?_some looked
        rw [UsersTable.eq_of_email (List.mem_of_find?_eq_some looked) member same.1]
  have authenticated : authenticateUser checkpw (.ok table.rows) user.email password =
      .ok (some user) := by
    unfold authenticateUser
    simp only [bind, Except.bind, pure, Except.pure, found, right, if_true]
  rw [login, authenticated]

/-- **Who has registered can log in**, at any later moment of the run, with the email and the
password of the request, and the token opens the gateway with the role of an operator until
it expires, if it fits. -/
theorem login_registered {Conn : Type} [DecidableEq Conn] (jwt : Jwt)
    (settings : AuthServiceSettings) (gateway : Gateway.Settings) (now : Int)
    (reached : runFrom (registerSurroundings bcrypt).step (RegisterPool.start initial requests)
      moves = some pool)
    {worker : ι} {id : Uuid} (done : pool.residual worker = .done (.ok id)) :
    ∃ user, user.id = id ∧ Role.ofInt user.roleId = .ok .operator ∧
      login jwt settings now bcrypt.checkpw (.ok pool.shared.users.rows)
          (requests worker).toLogin.email (requests worker).toLogin.password =
        .ok (issueTokens jwt settings now user) ∧
      (Fits settings now user → ∀ later, later < accessExpiry settings now * 1000000 →
        verifyToken (gateway.sharing jwt later)
            (some (bearer (issueTokens jwt settings now user).accessToken)) =
          .ok (accessClaims settings now user).fields ∧
        ∀ activeConnections : List Conn, canAccept activeConnections = true →
          websocketEndpoint (gateway.sharing jwt later) activeConnections
              (some (issueTokens jwt settings now user).accessToken) =
            .ok (accessClaims settings now user).fields) := by
  obtain ⟨phases, registered, holds⟩ := tracked_registered reached
  obtain ⟨-, user, member, -, same, account⟩ := account_of_done registered holds done
  have role : Role.ofInt user.roleId = .ok .operator := by
    rw [account.role]
    rfl
  refine ⟨user, same, role, ?_, fun fits later fresh => ?_⟩
  · have right := login_of_mem jwt settings now member account.active account.password
    rwa [account.email] at right
  · exact accepted_of_fits role fits fresh

end Runs

/-! ## Two requests for one email -/

/-- A hash that ends in its password. -/
def Bcrypt.suffix : Bcrypt where
  hashpw password salt := .ok (String.ofList (salt.toList ++ password.toList))
  checkpw password hashed := .ok (password.toList.isSuffixOf hashed.toList)
  checks password salt hash hashed := by
    cases hashed
    rw [String.toList_ofList, List.isSuffixOf_iff_suffix.mpr (List.suffix_append _ _)]

/-- A request for an account. -/
def exampleRequest : RegisterRequest where
  email := "alice@example.com"
  password := "Secret123"
  fullName := "Alice"
  notShort := by decide
  notLong := by decide
  strong := by rfl
  named := ⟨"Alice", by decide, by decide, by rfl⟩

/-- No users. -/
def UsersTable.empty : UsersTable where
  rows := []
  ids := List.nodup_nil
  emails := List.nodup_nil

/-- A statement of a request without a fault. -/
def exampleMove (worker : Bool) (id : ℕ) : RegisterMove Bool :=
  .answer worker { fault := none, salt := "$2b$12$", id := .ofNat id }

/-- Both look the email up and hash the password; one commits, the other one is refused. -/
def exampleRegistrations : List (RegisterMove Bool) :=
  [exampleMove false 1, exampleMove true 2, exampleMove false 3, exampleMove true 4,
    exampleMove false 5, exampleMove true 6, exampleMove false 7, exampleMove true 8]

instance (requests : Bool → RegisterRequest) (pool : RegisterPool Bool)
    (move : RegisterMove Bool) : Decidable (Undisturbed Bcrypt.suffix requests pool move) :=
  match move with
  | .happen _ => isTrue trivial
  | .answer worker moment =>
      decidable_of_iff (moment.fault = none ∧ moment.id ∉ pool.shared.users.rows.map User.id ∧
          (((requests worker).newUser
            (String.ofList (moment.salt.toList ++ (requests worker).password.toList))).row
              moment.id).Plain)
        ⟨fun ⟨faultless, fresh, plain⟩ => ⟨faultless, fresh, _, rfl, plain⟩,
          fun ⟨faultless, fresh, _, hashed, plain⟩ =>
            ⟨faultless, fresh, (Except.ok.inj hashed).symm ▸ plain⟩⟩

/-- What a request was answered, if it has ended. -/
def finalAnswer (pool : RegisterPool Bool) (worker : Bool) : Option (Except Failure Uuid) :=
  match pool.residual worker with
  | .done result => some result
  | _ => none

theorem done_of_finalAnswer {pool : RegisterPool Bool} {worker : Bool}
    {result : Except Failure Uuid} (ended : finalAnswer pool worker = some result) :
    pool.residual worker = .done result := by
  unfold finalAnswer at ended
  split at ended
  · rename_i found done
    cases ended
    exact done
  · cases ended

/-- They are run to their ends. -/
theorem runFrom_exampleRegistrations :
    ∃ pool, runFrom (registerSurroundings Bcrypt.suffix).step
        (RegisterPool.start .empty fun _ => exampleRequest) exampleRegistrations = some pool ∧
      pool.residual false = .done (.ok (.ofNat 5)) ∧
      ∃ result, pool.residual true = .done result := by
  have ended : ∃ pool ∈ runFrom (registerSurroundings Bcrypt.suffix).step
      (RegisterPool.start .empty fun _ => exampleRequest) exampleRegistrations,
      (∃ result ∈ finalAnswer pool false, result.toOption = some (.ofNat 5)) ∧
        (finalAnswer pool true).isSome = true := by
    decide +kernel
  obtain ⟨pool, reached, ⟨result, answered, same⟩, second⟩ := ended
  obtain ⟨other, refused⟩ := Option.isSome_iff_exists.mp second
  refine ⟨pool, reached, ?_, other, done_of_finalAnswer refused⟩
  rw [done_of_finalAnswer answered]
  cases result with
  | error failure => cases same
  | ok id =>
      cases same
      rfl

theorem registered_once_example :
    ∃ pool, runFrom (registerSurroundings Bcrypt.suffix).step
        (RegisterPool.start .empty fun _ => exampleRequest) exampleRegistrations = some pool ∧
      RegisteredOnce Bcrypt.suffix (fun _ => exampleRequest) .empty pool := by
  obtain ⟨pool, reached, -⟩ := runFrom_exampleRegistrations
  exact ⟨pool, reached, registered_once reached⟩

theorem login_registered_example :
    ∃ pool, runFrom (registerSurroundings Bcrypt.suffix).step
        (RegisterPool.start .empty fun _ => exampleRequest) exampleRegistrations = some pool ∧
      ∃ user, user.id = Uuid.ofNat 5 ∧ Role.ofInt user.roleId = .ok .operator ∧
        login Jwt.fixed exampleAuthSettings 1760000000000000 Bcrypt.suffix.checkpw
            (.ok pool.shared.users.rows) "alice@example.com" "Secret123" =
          .ok (issueTokens Jwt.fixed exampleAuthSettings 1760000000000000 user) := by
  obtain ⟨pool, reached, first, -⟩ := runFrom_exampleRegistrations
  obtain ⟨user, same, role, answered, -⟩ := @login_registered _ _ _ _ _ _ _ ℕ _ Jwt.fixed
    exampleAuthSettings exampleSettings 1760000000000000 reached _ _ first
  exact ⟨pool, reached, user, same, role, answered⟩

end PersonTracking.AuthService
