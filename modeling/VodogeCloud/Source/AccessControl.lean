import VodogeCloud.Source.ConsoleAuth
import VodogeCloud.Source.JsonText
import VodogeCloud.Source.TenantHost

/-!
# Which requests reach a tenant's data

`readOnly`, `hostTenant` and `tenantFromRequest` of the gateway
(apps/gateway/cmd/gateway/main.go:1177-1215, 1337-1405) over `Authenticate` and its
helpers (internal/auth/auth.go:85-231), `Resolve` and the cache of the directory
(internal/directory/resolve.go:38-60, internal/region/cache.go:31-49), `resolve_session`
(packages/db/migrations/0039_readonly_role.sql:67-85) and `resolve_tenant`
(0005_tenants.sql:42-58).

A request is taken apart where it reads what others write: the lookup of `readOnly`, the
cache of the directory, the read behind it, its store, and the lookup of `Authenticate`.
Between any two of them other requests move on, sessions and accounts come and go, and
tenants change. The clock of the database never goes back; the one of the gateway is what
each check says it is.
-/

set_option autoImplicit false

namespace VodogeCloud.Source.AccessControl

open VodogeCloud.Lib VodogeCloud.Source.Postgres VodogeCloud.Source.ConsoleAuth
open VodogeCloud.Source.TenantHost (Casing trimSpace)

/-! ## Requests and roles -/

/-- What the checks read of a request. -/
structure Request where
  method : List Char
  path : String
  authorization : List Char
  forwardedHost : List Char
  host : List Char
  deriving DecidableEq, Repr

def roleAdmin : String := "admin"
def roleReadOnly : String := "readonly"

/-- `Session.MayWrite`. -/
def mayWrite (role : String) : Bool := role = roleAdmin ∨ role = ""

/-- `ChangesState`. A method reaches the handlers as a token of ASCII characters. -/
def changesState (method : List Char) : Bool :=
  ¬ ["GET".toList, "HEAD".toList, "OPTIONS".toList, "TRACE".toList].contains
    ((trimSpace method).map Char.toUpper)

/-- `OwnCredential`. -/
def ownCredential (path : String) : Bool :=
  ["/v1/auth/login", "/v1/auth/logout", "/v1/auth/password"].contains path

/-- `BearerToken`. Letters that fold to one of the scheme's are ASCII. -/
def bearerToken (header : List Char) : List Char :=
  let trimmed := trimSpace header
  if (trimmed.take 7).map Char.toLower = "bearer ".toList then trimSpace (trimmed.drop 7) else []

/-- `Fingerprint`, in the digits the database shows it in. -/
def fingerprint (token : List Char) : String := JsonText.sha256Hex token

/-! ## Rows -/

/-- A row of `app.tenants`. -/
structure Tenant where
  id : Uuid
  slug : List Char
  status : String
  region : String
  deriving DecidableEq, Repr

abbrev Tenants := Table Tenant.slug

/-- `region.Entry`. -/
structure Entry where
  tenantId : Uuid
  slug : List Char
  region : String
  status : String
  deriving DecidableEq, Repr

def Tenant.entry (tenant : Tenant) : Entry := ⟨tenant.id, tenant.slug, tenant.region, tenant.status⟩

/-- Deleting an account deletes its sessions, and a session needs its account. -/
structure Db where
  users : Users
  sessions : Sessions
  tenants : Tenants
  owned : ∀ session ∈ sessions, ∃ user ∈ users, user.id = session.userId

/-- `auth.Session` as `SQL.Session` scans it. -/
structure Live where
  userId : Uuid
  tenantId : Uuid
  expiresAt : Timestamp
  role : String
  deriving DecidableEq, Repr

/-- `resolve_session`. -/
def resolveSession (db : Db) (now : Timestamp) (fingerprint : String) : Option Live :=
  ((db.sessions.find fingerprint).filter fun session => now < session.expiresAt).bind fun session =>
    (db.users.find session.userId).map fun user =>
      ⟨session.userId, session.tenantId, session.expiresAt, user.role⟩

/-- `resolve_tenant`. -/
def resolveTenant (db : Db) (slug : List Char) : Option Entry := (db.tenants.find slug).map Tenant.entry

/-! ## What others do to the rows -/

def addUser (user : User) (db : Db) : Db :=
  if fresh : ∀ other ∈ db.users, other.id ≠ user.id then
    { db with
      users := db.users.insert user fresh
      owned := fun session member =>
        let ⟨owner, stored, same⟩ := db.owned session member
        ⟨owner, Table.mem_insert.mpr (Or.inl stored), same⟩ }
  else db

def withRole (role : String) (user : User) : User := { user with role := role }

theorem withRole_id (role : String) (user : User) : (withRole role user).id = user.id := rfl

def setRole (id : Uuid) (role : String) (db : Db) : Db :=
  { db with
    users := db.users.update (fun user => user.id = id) (withRole role) (withRole_id role)
    owned := fun session member =>
      let ⟨owner, stored, same⟩ := db.owned session member
      ⟨_, Table.mem_update.mpr ⟨owner, stored, rfl⟩, by split <;> exact same⟩ }

def deleteUser (id : Uuid) (db : Db) : Db :=
  { db with
    users := db.users.delete fun user => user.id = id
    sessions := db.sessions.delete fun session => session.userId = id
    owned := by
      intro session member
      obtain ⟨kept, other⟩ := Table.mem_delete.mp member
      obtain ⟨owner, stored, same⟩ := db.owned session kept
      exact ⟨owner, Table.mem_delete.mpr ⟨stored, by simpa [same] using other⟩, same⟩ }

/-- `create_session` within the two constraints of the table. -/
def addSession (session : Session) (db : Db) : Db :=
  if fresh : ∀ other ∈ db.sessions, other.tokenSha256 ≠ session.tokenSha256 then
    if known : ∃ user ∈ db.users, user.id = session.userId then
      { db with
        sessions := db.sessions.insert session fresh
        owned := Table.forall_insert db.owned known }
    else db
  else db

/-- `delete_session` and `purge_expired_sessions`. -/
def endSessions (ends : Session → Bool) (db : Db) : Db :=
  { db with
    sessions := db.sessions.delete ends
    owned := fun session member => db.owned session (Table.mem_delete.mp member).1 }

/-! ## A request under way -/

inductive Phase where
  | arrived
  /-- `readOnly` handed the request on. -/
  | passed
  /-- The slug is not in the cache. -/
  | missed (slug : List Char)
  /-- The directory answered. -/
  | read (entry : Entry)
  /-- `hostTenant` returned. -/
  | resolved (entry : Entry)
  /-- `tenantFromRequest` returned the tenant. -/
  | acting (entry : Entry)
  | refused (code : Nat)
  deriving DecidableEq, Repr

structure Call where
  request : Request
  phase : Phase
  deriving DecidableEq, Repr

/-- What a process is started with; without a session store `configured` is false. -/
structure Gateway where
  casing : Casing
  baseDomain : List Char
  configured : Bool

structure State where
  db : Db
  clock : Timestamp
  cache : List Char → Option Entry
  calls : List Call

/-- A process that just started. -/
def State.start (db : Db) (clock : Timestamp) : State := ⟨db, clock, fun _ => none, []⟩

section Requests

variable (gateway : Gateway)

/-- The key of the request's session. -/
def carried (request : Request) : String := fingerprint (bearerToken request.authorization)

/-- The requests whose account `readOnly` looks at. -/
def Gateway.checked (request : Request) : Bool :=
  changesState request.method && !ownCredential request.path && gateway.configured &&
    decide (bearerToken request.authorization ≠ [])

/-- `readOnly`. -/
def readOnly (state : State) (fails : Bool) (call : Call) : Option Phase :=
  match call.phase with
  | .arrived =>
    if gateway.checked call.request = false then some .passed
    else if fails then some (.refused 500)
    else
      match resolveSession state.db state.clock (carried call.request) with
      | some session => some (if mayWrite session.role then .passed else .refused 403)
      | none => some .passed
  | _ => none

/-- The slug `hostTenant` hands to the directory, as the directory spells it. -/
def Gateway.slugOf (request : Request) : Option (List Char) :=
  ((gateway.casing.gatewaySlugFromHost request.forwardedHost gateway.baseDomain).or
      (gateway.casing.gatewaySlugFromHost request.host gateway.baseDomain)).bind fun slug =>
    let slug := gateway.casing.lower (trimSpace slug)
    if slug = [] then none else some slug

/-- `hostTenant` as far as the cache. -/
def hostTenant (state : State) (call : Call) : Option Phase :=
  match call.phase with
  | .passed =>
    match gateway.slugOf call.request with
    | none => some (.refused 404)
    | some slug =>
      match state.cache slug with
      | some entry => some (.resolved entry)
      | none => some (.missed slug)
  | _ => none

/-- The read of the directory; an error of the database is an unknown tenant. -/
def lookupTenant (state : State) (fails : Bool) (call : Call) : Option Phase :=
  match call.phase with
  | .missed slug =>
    match if fails then none else resolveTenant state.db slug with
    | none => some (.refused 404)
    | some entry => some (.read { entry with slug := slug })
  | _ => none

/-- `Cache.Store`. -/
def storeEntry (entry : Entry) (cache : List Char → Option Entry) : List Char → Option Entry :=
  match cache entry.slug with
  | some existing =>
    if existing.region ≠ entry.region then cache else Function.update cache entry.slug (some entry)
  | none => Function.update cache entry.slug (some entry)

/-- The return of `Resolve`. -/
def resolveRead (call : Call) : Option Phase :=
  match call.phase with
  | .read entry => some (.resolved entry)
  | _ => none

/-- `Authenticate` for the tenant of the host, and what `tenantFromRequest` makes of it. -/
def authenticate (state : State) (fails : Bool) (now : Timestamp) (call : Call) : Option Phase :=
  match call.phase with
  | .resolved entry =>
    if entry.status ≠ "active" then some (.refused 403)
    else if gateway.configured = false then some (.refused 503)
    else if bearerToken call.request.authorization = [] then some (.refused 401)
    else if fails then some (.refused 500)
    else
      match resolveSession state.db state.clock (carried call.request) with
      | none => some (.refused 401)
      | some session =>
        if session.expiresAt ≤ now then some (.refused 401)
        else if session.tenantId ≠ entry.tenantId then some (.refused 403)
        else some (.acting entry)
  | _ => none

end Requests

/-! ## Interleavings -/

inductive Event where
  | addUser (user : User)
  | setRole (id : Uuid) (role : String)
  | deleteUser (id : Uuid)
  | addSession (session : Session)
  | deleteSession (tokenSha256 : String)
  | purgeExpired
  | setTenants (tenants : Tenants)
  | tick (elapsed : Nat)
  | arrive (request : Request)
  | readOnly (index : Nat) (fails : Bool)
  | hostTenant (index : Nat)
  | lookupTenant (index : Nat) (fails : Bool)
  | storeEntry (index : Nat)
  | authenticate (index : Nat) (fails : Bool) (now : Timestamp)

/-- The request goes on where the statement is its next one. -/
def State.proceed (state : State) (index : Nat) (next : Call → Option Phase) : State :=
  { state with calls := state.calls.modify index fun call =>
      { call with phase := (next call).getD call.phase } }

def State.write (state : State) (change : Db → Db) : State := { state with db := change state.db }

/-- The cache after the entry that a request read, if it read one. -/
def storeRead (state : State) (index : Nat) : List Char → Option Entry :=
  match state.calls[index]? with
  | some ⟨_, .read entry⟩ => storeEntry entry state.cache
  | _ => state.cache

def step (gateway : Gateway) (state : State) : Event → State
  | .addUser user => state.write (addUser user)
  | .setRole id role => state.write (setRole id role)
  | .deleteUser id => state.write (deleteUser id)
  | .addSession session => state.write (addSession session)
  | .deleteSession tokenSha256 => state.write (endSessions fun session => session.tokenSha256 = tokenSha256)
  | .purgeExpired => state.write (endSessions fun session => session.expiresAt ≤ state.clock)
  | .setTenants tenants => state.write fun db => { db with tenants := tenants }
  | .tick elapsed => { state with clock := state.clock + elapsed }
  | .arrive request => { state with calls := state.calls ++ [⟨request, .arrived⟩] }
  | .readOnly index fails => state.proceed index (readOnly gateway state fails)
  | .hostTenant index => state.proceed index (hostTenant gateway state)
  | .lookupTenant index fails => state.proceed index (lookupTenant state fails)
  | .storeEntry index => { state.proceed index resolveRead with cache := storeRead state index }
  | .authenticate index fails now => state.proceed index (authenticate gateway state fails now)

/-- A session's token is drawn when it is created, so no request came with it before. -/
def Fresh (state : State) : Event → Prop
  | .addSession session => ∀ call ∈ state.calls, carried call.request ≠ session.tokenSha256
  | _ => True

instance (state : State) (event : Event) : Decidable (Fresh state event) := by
  cases event <;> unfold Fresh <;> infer_instance

end VodogeCloud.Source.AccessControl
