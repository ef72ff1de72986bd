import VodogeCloud.Lib.Table
import VodogeCloud.Source.ServeDevice

/-!
# Signing in and changing a password

`SignIn` and `ChangePassword` (apps/gateway/internal/auth/auth.go:233-355) over the SQL
store (store.go:22-107, 160-210), `app.users` and `app.sessions`
(0010_console_auth.sql, 0012_session_writes.sql).

A call is its statements one by one, so that another call can come in between. The
password hash is compared outside the database, and `SetPassword` is a transaction of two
statements: its DELETE takes the sessions that are committed then, and nothing of it
is seen before it commits. Any number of sign-ins are under way beside one change.
-/

set_option autoImplicit false

namespace VodogeCloud.Source.ConsoleAuth

open VodogeCloud.Lib VodogeCloud.Source.Postgres
open VodogeCloud.Source.ServeDevice (trimSpace)

/-! ## Rows -/

/-- A row of `app.users`. -/
structure User where
  id : Uuid
  tenantId : Uuid
  email : String
  passwordHash : String
  status : String
  role : String
  deriving DecidableEq, Repr

/-- `User.Active`. -/
def User.active (user : User) : Bool := user.status = "active"

/-- A row of `app.sessions`. `createdBy` is no column: it is the place of the sign-in that
inserted the row. -/
structure Session where
  tokenSha256 : String
  userId : Uuid
  tenantId : Uuid
  expiresAt : Timestamp
  createdBy : Nat
  deriving DecidableEq, Repr

abbrev Users := Table User.id
abbrev Sessions := Table Session.tokenSha256

/-- bcrypt, which is not part of the repository. A hash is drawn with a salt. -/
structure Hasher where
  compare : String → String → Bool
  hash : String → String → Option String

/-! ## Signing in -/

inductive SignInError where
  | badCredentials
  | userDisabled
  | store
  deriving DecidableEq, Repr

inductive SignInPhase where
  | started
  /-- `users.User` answered. -/
  | read (user : Option User)
  /-- The password matches and the account is active. -/
  | granted (user : User)
  | refused (reason : SignInError)
  /-- The session was created. -/
  | signedIn (user : User) (tokenSha256 : String)
  deriving DecidableEq, Repr

structure SignIn where
  tenantId : Uuid
  email : String
  password : String
  expiresAt : Timestamp
  phase : SignInPhase
  deriving DecidableEq, Repr

/-- `DefaultSessionTTL`. -/
def defaultSessionTTL : Int := 43200000000

/-- The call up to its first store read. -/
def SignIn.begin (lower : String → String) (tenant : Uuid) (email password : String) (now ttl : Int) : SignIn :=
  let email := lower (trimSpace email)
  ⟨tenant, email, password, now + (if ttl ≤ 0 then defaultSessionTTL else ttl),
    if email = "" ∨ password = "" then .refused .badCredentials else .started⟩

/-- `resolve_user`. -/
def resolveUser (lower : String → String) (users : Users) (tenant : Uuid) (email : String) : Option User :=
  users.rows.find? fun user => user.tenantId = tenant ∧ user.email = lower email

/-- The comparison and the check of the status. -/
def decideSignIn (hasher : Hasher) (password : String) : Option User → SignInPhase
  | none => .refused .badCredentials
  | some user =>
    if hasher.compare user.passwordHash password = false then .refused .badCredentials
    else if user.active = false then .refused .userDisabled
    else .granted user

/-- `create_session`; a token that is taken is refused by the primary key. -/
def createSession (session : Session) (sessions : Sessions) : Option Sessions :=
  if fresh : ∀ other ∈ sessions, other.tokenSha256 ≠ session.tokenSha256 then
    some (sessions.insert session fresh)
  else none

/-! ## Changing a password -/

inductive ChangeError where
  | badCredentials
  | weakPassword
  | store
  deriving DecidableEq, Repr

inductive ChangePhase where
  | started
  /-- `UserByID` answered. -/
  | read (user : Option User)
  /-- The new hash is drawn. -/
  | hashed (user : User) (hash : String)
  /-- The UPDATE of `SetPassword` ran. -/
  | updated (user : User) (hash : String)
  /-- The DELETE ran over the sessions committed then. -/
  | deleted (user : User) (hash : String) (ended : List String)
  | refused (reason : ChangeError)
  /-- `ChangePassword` returned without an error; the user is as it was read. -/
  | changed (user : User)
  deriving DecidableEq, Repr

/-- The arguments of `ChangePassword`. -/
structure Change where
  tenantId : Uuid
  userId : Uuid
  current : String
  next : String
  keepFingerprint : String
  deriving DecidableEq, Repr

/-- `MinPasswordLength`, in bytes. -/
def minPasswordLength : Nat := 12

/-- `UserByID`, which sees the users of one tenant. -/
def userByID (users : Users) (tenant id : Uuid) : Option User :=
  (users.find id).filter fun user => user.tenantId = tenant

/-- The checks of `ChangePassword` and the new hash. -/
def decideChange (hasher : Hasher) (change : Change) (salt : String) : Option User → ChangePhase
  | none => .refused .badCredentials
  | some user =>
    if hasher.compare user.passwordHash change.current = false then .refused .badCredentials
    else if change.next.utf8ByteSize < minPasswordLength then .refused .weakPassword
    else if hasher.compare user.passwordHash change.next then .refused .weakPassword
    else
      match hasher.hash salt change.next with
      | none => .refused .store
      | some hash => .hashed user hash

def storeHash (hash : String) (user : User) : User := { user with passwordHash := hash }

theorem storeHash_id (hash : String) (user : User) : (storeHash hash user).id = user.id := rfl

/-- The UPDATE of `SetPassword`. -/
def setHash (change : Change) (hash : String) (users : Users) : Users :=
  users.update (fun user => user.tenantId = change.tenantId ∧ user.id = change.userId) (storeHash hash)
    (storeHash_id hash)

/-- The DELETE of `SetPassword`. -/
def otherSessions (change : Change) (sessions : Sessions) : List String :=
  (sessions.rows.filter fun session => session.tenantId = change.tenantId ∧
    session.userId = change.userId ∧ session.tokenSha256 ≠ change.keepFingerprint).map Session.tokenSha256

/-! ## Interleavings -/

structure State where
  users : Users
  sessions : Sessions
  signIns : List SignIn
  change : ChangePhase

inductive Event where
  | signIn (tenant : Uuid) (email password : String) (now ttl : Int)
  | readUser (index : Nat) (fails : Bool)
  | compare (index : Nat)
  | create (index : Nat) (tokenSha256 : String) (fails : Bool)
  | signOut (tokenSha256 : String)
  | purgeExpired (now : Timestamp)
  | changeRead (fails : Bool)
  | changeHash (salt : String)
  | changeUpdate (fails : Bool)
  | changeDelete (fails : Bool)
  | changeCommit (fails : Bool)

section Steps

variable (hasher : Hasher) (lower : String → String) (change : Change)

/-- A sign-in goes on where the statement is its next one. -/
def State.proceed (state : State) (index : Nat) (next : SignIn → Option SignInPhase) : State :=
  { state with signIns := state.signIns.modify index fun call =>
      { call with phase := (next call).getD call.phase } }

def readUser (fails : Bool) (state : State) (call : SignIn) : Option SignInPhase :=
  if call.phase = .started then
    some (if fails then .refused .store else .read (resolveUser lower state.users call.tenantId call.email))
  else none

def compareHash (call : SignIn) : Option SignInPhase :=
  match call.phase with
  | .read user => some (decideSignIn hasher call.password user)
  | _ => none

/-- The row a sign-in would insert. -/
def pendingSession (index : Nat) (tokenSha256 : String) (call : SignIn) : Option (User × Session) :=
  match call.phase with
  | .granted user => some (user, ⟨tokenSha256, user.id, user.tenantId, call.expiresAt, index⟩)
  | _ => none

def create (state : State) (index : Nat) (tokenSha256 : String) (fails : Bool) : State :=
  match state.signIns[index]?.bind (pendingSession index tokenSha256) with
  | none => state
  | some (user, session) =>
    match if fails then none else createSession session state.sessions with
    | none => state.proceed index fun _ => some (.refused .store)
    | some sessions =>
      { state.proceed index (fun _ => some (.signedIn user tokenSha256)) with sessions := sessions }

def changeRead (fails : Bool) (state : State) : State :=
  match state.change with
  | .started =>
    { state with change :=
        if fails then .refused .store else .read (userByID state.users change.tenantId change.userId) }
  | _ => state

def changeHash (salt : String) (state : State) : State :=
  match state.change with
  | .read user => { state with change := decideChange hasher change salt user }
  | _ => state

def changeUpdate (fails : Bool) (state : State) : State :=
  match state.change with
  | .hashed user hash => { state with change := if fails then .refused .store else .updated user hash }
  | _ => state

def changeDelete (fails : Bool) (state : State) : State :=
  match state.change with
  | .updated user hash =>
    { state with change :=
        if fails then .refused .store else .deleted user hash (otherSessions change state.sessions) }
  | _ => state

def changeCommit (fails : Bool) (state : State) : State :=
  match state.change with
  | .deleted user hash ended =>
    if fails then { state with change := .refused .store }
    else
      { state with
        users := setHash change hash state.users
        sessions := state.sessions.delete fun session => ended.contains session.tokenSha256
        change := .changed user }
  | _ => state

def step (state : State) : Event → State
  | .signIn tenant email password now ttl =>
    { state with signIns := state.signIns ++ [SignIn.begin lower tenant email password now ttl] }
  | .readUser index fails => state.proceed index (readUser lower fails state)
  | .compare index => state.proceed index (compareHash hasher)
  | .create index tokenSha256 fails => create state index tokenSha256 fails
  | .signOut tokenSha256 =>
    { state with sessions := state.sessions.delete fun session => session.tokenSha256 = tokenSha256 }
  | .purgeExpired now => { state with sessions := state.sessions.delete fun session => session.expiresAt ≤ now }
  | .changeRead fails => changeRead change fails state
  | .changeHash salt => changeHash hasher change salt state
  | .changeUpdate fails => changeUpdate fails state
  | .changeDelete fails => changeDelete change fails state
  | .changeCommit fails => changeCommit change fails state

end Steps

end VodogeCloud.Source.ConsoleAuth
