import VodogeCloud.Lib.Transactions
import VodogeCloud.Source.ClientAddress
import VodogeCloud.Source.ServeDevice

/-!
# The proxy configuration and its endpoints

`saveUpstream`, `deleteUpstream`, `saveInstance`, `deleteInstance` and
`pushProxyConfig` (apps/gateway/cmd/gateway/proxy_routes.go:60-110, 280-345,
474-496) with the checks of apps/gateway/internal/proxy/proxy.go:68-145 and the
statements of apps/gateway/internal/proxy/store.go:34-215, over
`app.upstream_proxies` and `app.proxy_instances` (0017_proxy.sql:16-74).

A request arrives decoded. `last_probe` and `last_probe_at` are left out: nothing
calls `RecordProbe`, so both stay NULL; so are `created_at` and `updated_at`, which
nothing here reads, the country rules, which no configuration carries, and the
audit entries, whose errors are dropped.
-/

set_option autoImplicit false

namespace VodogeCloud.Source.ProxyConfig

open VodogeCloud.Lib VodogeCloud.Lib.Transactions VodogeCloud.Source.Postgres VodogeCloud.Source.CommandTables
open VodogeCloud.Source.CommandLifecycle
open VodogeCloud.Source.ClientAddress (splitHostPort zoneOf)
open VodogeCloud.Source.ServeDevice (trimSpace)

/-! ## Addresses -/

/-- The pieces of a text between two occurrences of a character. -/
def splitOn (separator : Char) : List Char → List (List Char)
  | [] => [[]]
  | c :: rest =>
    if c = separator then [] :: splitOn separator rest
    else
      match splitOn separator rest with
      | [] => [[c]]
      | piece :: pieces => (c :: piece) :: pieces

def decimal (digits : List Char) : Nat :=
  digits.foldl (fun value digit => value * 10 + (digit.toNat - '0'.toNat)) 0

/-- `net.ParseIP(text) != nil`: no zone is allowed. -/
def parseIP (text : String) : Bool := (Lib.NetAddress.parse text.toList).any fun address => zoneOf address = []

/-- `strconv.Atoi` for what is checked to be a port. -/
def portNumber (text : List Char) : Option Nat :=
  let digits := match text with
    | '+' :: rest => rest
    | _ => text
  if digits ≠ [] && digits.all Char.isDigit && 1 ≤ decimal digits && decimal digits ≤ 65535 then
    some (decimal digits)
  else none

/-- `validateHostPort`; `quote` is the `%q` of the message. -/
def validateHostPort (quote : String → String) (address : String) : Except String Unit :=
  match splitHostPort (trimSpace address).toList with
  | none => .error "address must be host:port"
  | some (host, port) =>
    if host = [] then .error "address must be host:port"
    else if (portNumber port).isNone then
      .error ("port " ++ quote (String.ofList port) ++ " must be between 1 and 65535")
    else .ok ()

/-! ## Checks before a row is stored -/

/-- `proxy.Upstream` as a request brings it, with the password of the shadow document. -/
structure Upstream where
  id : String
  name : String
  address : String
  protocol : String
  username : String
  password : String
  enabled : Bool
  deriving DecidableEq, Repr

/-- `proxy.Instance` as a request brings it. -/
structure Instance where
  id : String
  deviceId : String
  name : String
  modemImei : String
  protocol : String
  listenAddr : String
  listenPort : Int
  authEnabled : Bool
  username : String
  password : String
  upstreamId : String
  enabled : Bool
  deriving DecidableEq, Repr

def defaultText (text fallback : String) : String := if text = "" then fallback else text

def knownProtocol (protocol : String) : Bool := protocol = "socks5" || protocol = "http"

/-- `ValidateUpstream`: what is stored, or the reason it is not. -/
def validateUpstream (quote : String → String) (upstream : Upstream) : Except String Upstream := do
  let name := trimSpace upstream.name
  if name = "" then throw "name is required"
  let protocol := defaultText upstream.protocol "socks5"
  if knownProtocol protocol = false then throw "protocol must be socks5 or http"
  validateHostPort quote upstream.address
  return { upstream with name := name, protocol := protocol }

/-- `strings.Trim(text, "0123456789")`. -/
def trimDigits (text : String) : List Char :=
  ((text.toList.dropWhile Char.isDigit).reverse.dropWhile Char.isDigit).reverse

/-- `ValidateInstance`. -/
def validateInstance (instance_ : Instance) : Except String Instance := do
  let name := trimSpace instance_.name
  if name = "" then throw "name is required"
  if instance_.deviceId = "" then throw "device_id is required"
  if instance_.modemImei.utf8ByteSize ≠ 15 ∨ trimDigits instance_.modemImei ≠ [] then
    throw "modem_imei must be 15 digits"
  let protocol := defaultText instance_.protocol "socks5"
  if knownProtocol protocol = false then throw "protocol must be socks5 or http"
  let listenAddr := defaultText instance_.listenAddr "0.0.0.0"
  if parseIP listenAddr = false then throw "listen_addr must be an IP address"
  if instance_.listenPort < 1 ∨ 65535 < instance_.listenPort then
    throw "listen_port must be between 1 and 65535"
  if instance_.listenPort < 1024 then throw "listen_port must be 1024 or above"
  if instance_.authEnabled = true ∧ trimSpace instance_.username = "" then
    throw "username is required when auth is enabled"
  return { instance_ with name := name, protocol := protocol, listenAddr := listenAddr }

/-- What `ValidateInstance` lets through. -/
theorem validateInstance_checked {request saved : Instance} (valid : validateInstance request = .ok saved) :
    knownProtocol saved.protocol = true ∧ parseIP saved.listenAddr = true ∧ 1024 ≤ saved.listenPort ∧
      saved.listenPort ≤ 65535 ∧ (saved.authEnabled = true → saved.username ≠ "") := by
  unfold validateInstance at valid
  simp only [throw, throwThe, MonadExceptOf.throw, bind, Except.bind, pure, Except.pure] at valid
  obtain ⟨_, valid⟩ := check_success valid
  obtain ⟨_, valid⟩ := check_success valid
  obtain ⟨_, valid⟩ := check_success valid
  obtain ⟨protocol, valid⟩ := check_success valid
  obtain ⟨address, valid⟩ := check_success valid
  obtain ⟨range, valid⟩ := check_success valid
  obtain ⟨port, valid⟩ := check_success valid
  obtain ⟨named, valid⟩ := check_success valid
  cases valid
  refine ⟨eq_true_of_ne_false protocol, eq_true_of_ne_false address, not_lt.mp port, not_lt.mp fun above => range (.inr above),
    fun authenticated empty => ?_⟩
  have empty : request.username = "" := empty
  refine named ⟨authenticated, ?_⟩
  rw [empty]
  decide

/-! ## The tables -/

structure UpstreamRow where
  id : Uuid
  tenantId : Uuid
  name : String
  address : String
  protocol : String
  username : Option String
  password : Option String
  enabled : Bool
  deriving DecidableEq, Repr

structure InstanceRow where
  id : Uuid
  tenantId : Uuid
  deviceId : Uuid
  name : String
  modemImei : String
  protocol : String
  listenAddr : String
  listenPort : Int
  authEnabled : Bool
  username : Option String
  password : Option String
  upstreamId : Option Uuid
  enabled : Bool
  deriving DecidableEq, Repr

/-- The constraints of the two tables besides their primary keys. -/
structure Constraints (registered : Uuid → Uuid → Bool) (upstreams : Table UpstreamRow.id)
    (instances : Table InstanceRow.id) : Prop where
  upstreamProtocol : ∀ row ∈ upstreams, knownProtocol row.protocol = true
  instanceProtocol : ∀ row ∈ instances, knownProtocol row.protocol = true
  port : ∀ row ∈ instances, 1 ≤ row.listenPort ∧ row.listenPort ≤ 65535
  upstreamName : ∀ a ∈ upstreams, ∀ b ∈ upstreams, a.tenantId = b.tenantId → a.name = b.name → a = b
  instanceName : ∀ a ∈ instances, ∀ b ∈ instances, a.tenantId = b.tenantId → a.name = b.name → a = b
  devicePort : ∀ a ∈ instances, ∀ b ∈ instances, a.tenantId = b.tenantId → a.deviceId = b.deviceId →
    a.listenPort = b.listenPort → a = b
  device : ∀ row ∈ instances, registered row.tenantId row.deviceId = true
  upstream : ∀ row ∈ instances, row.upstreamId.all (fun id => ∃ other ∈ upstreams, other.id = id) = true

/-- `app.upstream_proxies` and `app.proxy_instances`. -/
structure ProxyDb (registered : Uuid → Uuid → Bool) where
  upstreams : Table UpstreamRow.id
  instances : Table InstanceRow.id
  valid : Constraints registered upstreams instances

variable {registered : Uuid → Uuid → Bool}

def ProxyDb.empty : ProxyDb registered where
  upstreams := Table.empty
  instances := Table.empty
  valid := by constructor <;> exact fun _ member => nomatch member

def checkViolation (relation name : String) : PgError :=
  ⟨"23514", "new row for relation \"" ++ relation ++ "\" violates check constraint \"" ++ name ++ "\""⟩

def uniqueViolation (name : String) : PgError :=
  ⟨"23505", "duplicate key value violates unique constraint \"" ++ name ++ "\""⟩

def foreignKeyViolation (relation name : String) : PgError :=
  ⟨"23503", "insert or update on table \"" ++ relation ++ "\" violates foreign key constraint \"" ++
    name ++ "\""⟩

/-- The tables a statement leaves, unless they violate a constraint. -/
def ProxyDb.check (registered : Uuid → Uuid → Bool) (upstreams : Table UpstreamRow.id)
    (instances : Table InstanceRow.id) : Except PgError (ProxyDb registered) :=
  if upstreamProtocol : ∀ row ∈ upstreams, knownProtocol row.protocol = true then
  if instanceProtocol : ∀ row ∈ instances, knownProtocol row.protocol = true then
  if port : ∀ row ∈ instances, 1 ≤ row.listenPort ∧ row.listenPort ≤ 65535 then
  if upstreamName : ∀ a ∈ upstreams, ∀ b ∈ upstreams,
      a.tenantId = b.tenantId → a.name = b.name → a = b then
  if instanceName : ∀ a ∈ instances, ∀ b ∈ instances,
      a.tenantId = b.tenantId → a.name = b.name → a = b then
  if devicePort : ∀ a ∈ instances, ∀ b ∈ instances,
      a.tenantId = b.tenantId → a.deviceId = b.deviceId → a.listenPort = b.listenPort → a = b then
  if device : ∀ row ∈ instances, registered row.tenantId row.deviceId = true then
  if upstream : ∀ row ∈ instances,
      row.upstreamId.all (fun id => ∃ other ∈ upstreams, other.id = id) = true then
    .ok ⟨upstreams, instances, ⟨upstreamProtocol, instanceProtocol, port, upstreamName, instanceName,
      devicePort, device, upstream⟩⟩
  else .error (foreignKeyViolation "proxy_instances" "proxy_instances_upstream_fkey")
  else .error (foreignKeyViolation "proxy_instances" "proxy_instances_device_fkey")
  else .error (uniqueViolation "proxy_instances_device_port_key")
  else .error (uniqueViolation "proxy_instances_tenant_name_key")
  else .error (uniqueViolation "upstream_proxies_tenant_name_key")
  else .error (checkViolation "proxy_instances" "proxy_instances_port_valid")
  else .error (checkViolation "proxy_instances" "proxy_instances_protocol_known")
  else .error (checkViolation "upstream_proxies" "upstream_proxies_protocol_known")

/-! ## The store -/

/-- What a store method returns besides a result: an error of the server, or
`sql.ErrNoRows`. -/
inductive StoreError where
  | server (err : PgError)
  | noRows
  deriving DecidableEq, Repr

def server {α : Type} (result : Except PgError α) : Except StoreError α :=
  result.mapError .server

/-- The text arguments of a statement. -/
def textArguments (texts : List String) : Except PgError Unit :=
  if texts.any (fun text => text.toList.contains '\x00') then
    .error ⟨"22021", "invalid byte sequence for encoding \"UTF8\": 0x00"⟩
  else .ok ()

/-- `nullif(text, '')`. -/
def nullText (text : String) : Option String := if text = "" then none else some text

/-- `nullif(text, '')::uuid`. -/
def nullUuid (text : String) : Except PgError (Option Uuid) :=
  if text = "" then .ok none else (uuidIn text).map some

/-- The SET clause of the upstream UPDATE. An empty password leaves the stored one. -/
def setUpstream (upstream : Upstream) (row : UpstreamRow) : UpstreamRow :=
  { row with
    name := upstream.name
    address := upstream.address
    protocol := upstream.protocol
    username := nullText upstream.username
    password := if upstream.password = "" then row.password else some upstream.password
    enabled := upstream.enabled }

/-- The SET clause of the instance UPDATE, which leaves `device_id` alone. -/
def setInstance (instance_ : Instance) (upstreamId : Option Uuid) (row : InstanceRow) : InstanceRow :=
  { row with
    name := instance_.name
    modemImei := instance_.modemImei
    protocol := instance_.protocol
    listenAddr := instance_.listenAddr
    listenPort := instance_.listenPort
    authEnabled := instance_.authEnabled
    username := nullText instance_.username
    password := if instance_.password = "" then row.password else some instance_.password
    upstreamId := upstreamId
    enabled := instance_.enabled }

theorem setUpstream_id (upstream : Upstream) (row : UpstreamRow) :
    (setUpstream upstream row).id = row.id := rfl

theorem setInstance_id (instance_ : Instance) (upstreamId : Option Uuid) (row : InstanceRow) :
    (setInstance instance_ upstreamId row).id = row.id := rfl

def newUpstream (id tenant : Uuid) (upstream : Upstream) : UpstreamRow where
  id := id
  tenantId := tenant
  name := upstream.name
  address := upstream.address
  protocol := upstream.protocol
  username := nullText upstream.username
  password := nullText upstream.password
  enabled := upstream.enabled

def newInstance (id tenant device : Uuid) (instance_ : Instance) (upstreamId : Option Uuid) :
    InstanceRow where
  id := id
  tenantId := tenant
  deviceId := device
  name := instance_.name
  modemImei := instance_.modemImei
  protocol := instance_.protocol
  listenAddr := instance_.listenAddr
  listenPort := instance_.listenPort
  authEnabled := instance_.authEnabled
  username := nullText instance_.username
  password := nullText instance_.password
  upstreamId := upstreamId
  enabled := instance_.enabled

/-- The tenant's upstream with the id: row-level security hides the others. -/
def ownUpstream (tenant id : Uuid) (row : UpstreamRow) : Bool := row.id = id && row.tenantId = tenant

theorem ownUpstream_iff {tenant id : Uuid} {row : UpstreamRow} :
    ownUpstream tenant id row = true ↔ row.id = id ∧ row.tenantId = tenant := by
  simp [ownUpstream]

def ownInstance (tenant id : Uuid) (row : InstanceRow) : Bool := row.id = id && row.tenantId = tenant

theorem ownInstance_iff {tenant id : Uuid} {row : InstanceRow} :
    ownInstance tenant id row = true ↔ row.id = id ∧ row.tenantId = tenant := by
  simp [ownInstance]

/-- `SaveUpstream`; `rowId` is the key the database generates. -/
def ProxyDb.saveUpstream (tenant rowId : Uuid) (upstream : Upstream) (db : ProxyDb registered) :
    Except StoreError (ProxyDb registered × Uuid) := do
  server (textArguments [upstream.name, upstream.address, upstream.protocol, upstream.username,
    upstream.password])
  if upstream.id = "" then
    if fresh : ∀ other ∈ db.upstreams, other.id ≠ rowId then
      let after ← server (ProxyDb.check registered
        (db.upstreams.insert (newUpstream rowId tenant upstream) fresh) db.instances)
      return (after, rowId)
    else .error (.server (uniqueViolation "upstream_proxies_pkey"))
  else
    let id ← server (uuidIn upstream.id)
    if ∃ row ∈ db.upstreams, ownUpstream tenant id row = true then
      let after ← server (ProxyDb.check registered
        (db.upstreams.update (ownUpstream tenant id) (setUpstream upstream) (setUpstream_id upstream))
        db.instances)
      return (after, id)
    else .error .noRows

/-- `SaveInstance`. -/
def ProxyDb.saveInstance (tenant rowId : Uuid) (instance_ : Instance) (db : ProxyDb registered) :
    Except StoreError (ProxyDb registered × Uuid) := do
  server (textArguments [instance_.name, instance_.modemImei, instance_.protocol,
    instance_.listenAddr, instance_.username, instance_.password])
  let upstreamId ← server (nullUuid instance_.upstreamId)
  if instance_.id = "" then
    let device ← server (uuidIn instance_.deviceId)
    if fresh : ∀ other ∈ db.instances, other.id ≠ rowId then
      let after ← server (ProxyDb.check registered db.upstreams
        (db.instances.insert (newInstance rowId tenant device instance_ upstreamId) fresh))
      return (after, rowId)
    else .error (.server (uniqueViolation "proxy_instances_pkey"))
  else
    let id ← server (uuidIn instance_.id)
    if ∃ row ∈ db.instances, ownInstance tenant id row = true then
      let after ← server (ProxyDb.check registered db.upstreams
        (db.instances.update (ownInstance tenant id) (setInstance instance_ upstreamId)
          (setInstance_id instance_ upstreamId)))
      return (after, id)
    else .error .noRows

def clearUpstream (row : InstanceRow) : InstanceRow := { row with upstreamId := none }

theorem clearUpstream_id (row : InstanceRow) : (clearUpstream row).id = row.id := rfl

/-- `DELETE FROM app.upstream_proxies`: the foreign key clears the upstream of every
instance that chains through it, whatever tenant the instance is of. -/
def ProxyDb.removeUpstream (tenant id : Uuid) (db : ProxyDb registered) : ProxyDb registered where
  upstreams := db.upstreams.delete (ownUpstream tenant id)
  instances := db.instances.update (fun row => row.upstreamId = some id) clearUpstream clearUpstream_id
  valid := by
    have kept : ∀ row : InstanceRow,
        (if decide (row.upstreamId = some id) = true then clearUpstream row else row) =
          { row with upstreamId := if row.upstreamId = some id then none else row.upstreamId } := by
      intro row
      by_cases chained : row.upstreamId = some id
      · simp [chained, clearUpstream]
      · simp [chained]
    have same : ∀ a ∈ db.instances, ∀ b ∈ db.instances, a = b →
        (if decide (a.upstreamId = some id) = true then clearUpstream a else a) =
          if decide (b.upstreamId = some id) = true then clearUpstream b else b :=
      fun _ _ _ _ equal => by rw [equal]
    constructor
    · exact fun row member => db.valid.upstreamProtocol row (Table.mem_delete.mp member).1
    · exact Table.forall_update db.valid.instanceProtocol fun _ kept => kept
    · exact Table.forall_update db.valid.port fun _ kept => kept
    · exact fun a inA b inB =>
        db.valid.upstreamName a (Table.mem_delete.mp inA).1 b (Table.mem_delete.mp inB).1
    · intro a inA b inB tenants names
      obtain ⟨oldA, memberA, rfl⟩ := Table.mem_update.mp inA
      obtain ⟨oldB, memberB, rfl⟩ := Table.mem_update.mp inB
      rw [kept oldA, kept oldB] at tenants names
      exact same _ memberA _ memberB (db.valid.instanceName _ memberA _ memberB tenants names)
    · intro a inA b inB tenants devices ports
      obtain ⟨oldA, memberA, rfl⟩ := Table.mem_update.mp inA
      obtain ⟨oldB, memberB, rfl⟩ := Table.mem_update.mp inB
      rw [kept oldA, kept oldB] at tenants devices ports
      exact same _ memberA _ memberB (db.valid.devicePort _ memberA _ memberB tenants devices ports)
    · exact Table.forall_update db.valid.device fun _ kept => kept
    · intro row member
      obtain ⟨old, inOld, rfl⟩ := Table.mem_update.mp member
      rw [kept old]
      by_cases gone : old.upstreamId = some id
      · simp [gone]
      · cases named : old.upstreamId with
        | none => simp
        | some chained =>
          have known := db.valid.upstream old inOld
          rw [named, Option.all_some, decide_eq_true_eq] at known
          obtain ⟨other, inTable, same⟩ := known
          have differs : other.id ≠ id := fun equal => gone (by rw [named, ← same, equal])
          dsimp only
          rw [if_neg (by rw [← named]; exact gone), Option.all_some, decide_eq_true_eq]
          exact ⟨other, Table.mem_delete.mpr ⟨inTable, by simp [ownUpstream, differs]⟩, same⟩

/-- `DeleteUpstream`. -/
def ProxyDb.deleteUpstream (tenant : Uuid) (id : String) (db : ProxyDb registered) :
    Except StoreError (ProxyDb registered) := do
  let id ← server (uuidIn id)
  if ∃ row ∈ db.upstreams, ownUpstream tenant id row = true then return db.removeUpstream tenant id
  else return db

/-- `DELETE FROM app.proxy_instances`. -/
def ProxyDb.removeInstance (tenant id : Uuid) (db : ProxyDb registered) : ProxyDb registered where
  upstreams := db.upstreams
  instances := db.instances.delete (ownInstance tenant id)
  valid := by
    have old : ∀ row ∈ db.instances.delete (ownInstance tenant id), row ∈ db.instances :=
      fun row member => (Table.mem_delete.mp member).1
    exact ⟨db.valid.upstreamProtocol, fun row member => db.valid.instanceProtocol row (old row member),
      fun row member => db.valid.port row (old row member), db.valid.upstreamName,
      fun a inA b inB => db.valid.instanceName a (old a inA) b (old b inB),
      fun a inA b inB => db.valid.devicePort a (old a inA) b (old b inB),
      fun row member => db.valid.device row (old row member),
      fun row member => db.valid.upstream row (old row member)⟩

/-- `DeleteInstance`. -/
def ProxyDb.deleteInstance (tenant : Uuid) (id : String) (db : ProxyDb registered) :
    Except StoreError (ProxyDb registered) := do
  let id ← server (uuidIn id)
  return db.removeInstance tenant id

/-- `Upstreams`; `collate` is the order of the names. -/
def ProxyDb.listUpstreams (collate : String → String → Bool) (tenant : Uuid)
    (db : ProxyDb registered) : List UpstreamRow :=
  (db.upstreams.rows.filter (fun row => row.tenantId = tenant)).insertionSort
    (fun a b => collate a.name b.name = true)

/-- `Instances`; the empty device is every device. -/
def ProxyDb.listInstances (collate : String → String → Bool) (tenant : Uuid) (deviceId : String)
    (db : ProxyDb registered) : Except PgError (List InstanceRow) :=
  let listed (hit : InstanceRow → Bool) : List InstanceRow :=
    (db.instances.rows.filter (fun row => row.tenantId = tenant && hit row)).insertionSort
      (fun a b => collate a.name b.name = true)
  if deviceId = "" then .ok (listed fun _ => true)
  else (uuidIn deviceId).map fun device => listed fun row => row.deviceId = device

/-! ## The endpoints -/

/-- The JSON of an `Upstream` that was read. -/
def upstreamJson (row : UpstreamRow) : Jsonb :=
  jsonbObject [("id", .str (uuidOut row.id)), ("name", .str row.name), ("address", .str row.address),
    ("protocol", .str row.protocol), ("username", .str (row.username.getD "")),
    ("enabled", .bool row.enabled), ("has_password", .bool (row.password.any (· ≠ "")))]

/-- The JSON of an `Instance` that was read. -/
def instanceJson (row : InstanceRow) : Jsonb :=
  jsonbObject ([("id", .str (uuidOut row.id)), ("device_id", .str (uuidOut row.deviceId)),
    ("name", .str row.name), ("modem_imei", .str row.modemImei), ("protocol", .str row.protocol),
    ("listen_addr", .str row.listenAddr), ("listen_port", .num row.listenPort),
    ("auth_enabled", .bool row.authEnabled), ("username", .str (row.username.getD "")),
    ("has_password", .bool (row.password.any (· ≠ ""))), ("enabled", .bool row.enabled)] ++
    (row.upstreamId.map fun id => ("upstream_id", .str (uuidOut id))).toList)

def configPayload (instances : List InstanceRow) (upstreams : List UpstreamRow) : Jsonb :=
  jsonbObject [("kind", .str "ConfigureProxy"), ("instances", .arr (instances.map instanceJson)),
    ("upstreams", .arr (upstreams.map upstreamJson))]

/-- What the endpoints take from outside their tables. -/
structure Server where
  /-- The device foreign key. -/
  registered : Uuid → Uuid → Bool
  collate : String → String → Bool
  /-- `%q`. -/
  quote : String → String

/-- What one request draws: the generated keys, and the clocks of the gateway, in
nanoseconds and again in microseconds, and of the database. -/
structure Draw where
  rowId : Uuid
  commandId : Uuid
  outboxId : Nat
  nanos : Int
  gateway : Timestamp
  database : Timestamp

/-- Thirty minutes. -/
def configTTL : Int := 1800000000

/-- The proxy tables and the command tables. -/
structure Console (world : Server) where
  proxies : ProxyDb world.registered
  commands : CommandDb

def Console.empty {world : Server} : Console world := ⟨ProxyDb.empty, CommandDb.empty⟩

variable {world : Server}

def configKey (deviceId : String) (nanos : Int) : String :=
  "configure_proxy:" ++ deviceId ++ ":" ++ toString nanos

/-- The command `pushProxyConfig` queues. -/
def configCommand (world : Server) (draw : Draw) (tenant : Uuid) (deviceId : String)
    (proxies : ProxyDb world.registered) : Except PgError EnqueueArgs := do
  let instances ← proxies.listInstances world.collate tenant deviceId
  let device ← uuidIn deviceId
  return ⟨tenant, device, .configureProxy,
    configPayload instances (proxies.listUpstreams world.collate tenant),
    configKey deviceId draw.nanos, draw.gateway + configTTL⟩

/-- `pushProxyConfig`. No error reaches the caller. -/
def pushProxyConfig (draw : Draw) (tenant : Uuid) (deviceId : String) (console : Console world) :
    Console world :=
  let queued := do
    let args ← configCommand world draw tenant deviceId console.proxies
    enqueueCommand world.registered (some tenant) args draw.commandId draw.outboxId draw.database
      console.commands
  match queued with
  | .ok (commands, _) => { console with commands := commands }
  | .error _ => console

/-- A status with its text, in place of a result. -/
structure Refusal where
  status : Nat
  text : String
  deriving DecidableEq, Repr

/-- `writeInvalid`. -/
def orInvalid {α : Type} (result : Except String α) : Except Refusal α :=
  result.mapError fun reason => ⟨400, reason⟩

/-- `writeStoreError`. -/
def orUnavailable {α : Type} (fallback : String) (result : Except StoreError α) : Except Refusal α :=
  result.mapError fun _ => ⟨500, fallback⟩

def saveUpstream (draw : Draw) (tenant : Uuid) (pathId : String) (body : Upstream)
    (console : Console world) : Except Refusal (Console world) := do
  let upstream := if pathId = "" then body else { body with id := pathId }
  let upstream ← orInvalid (validateUpstream world.quote upstream)
  let (proxies, _) ← orUnavailable "upstream could not be saved"
    (console.proxies.saveUpstream tenant draw.rowId upstream)
  return { console with proxies := proxies }

def deleteUpstream (tenant : Uuid) (id : String) (console : Console world) :
    Except Refusal (Console world) := do
  let proxies ← orUnavailable "upstream could not be removed" (console.proxies.deleteUpstream tenant id)
  return { console with proxies := proxies }

def saveInstance (draw : Draw) (tenant : Uuid) (pathId : String) (body : Instance)
    (console : Console world) : Except Refusal (Console world) := do
  let instance_ := if pathId = "" then body else { body with id := pathId }
  let instance_ ← orInvalid (validateInstance instance_)
  let (proxies, _) ← orUnavailable "instance could not be saved"
    (console.proxies.saveInstance tenant draw.rowId instance_)
  return pushProxyConfig draw tenant instance_.deviceId { console with proxies := proxies }

/-- The device `deleteInstance` finds under the id before the row goes. -/
def deviceOf (tenant : Uuid) (id : String) (console : Console world) : String :=
  match console.proxies.listInstances world.collate tenant "" with
  | .ok existing =>
    existing.foldl (fun held item => if uuidOut item.id = id then uuidOut item.deviceId else held) ""
  | .error _ => ""

def deleteInstance (draw : Draw) (tenant : Uuid) (id : String) (console : Console world) :
    Except Refusal (Console world) := do
  let proxies ← orUnavailable "instance could not be removed" (console.proxies.deleteInstance tenant id)
  let after : Console world := { console with proxies := proxies }
  if deviceOf tenant id console = "" then return after
  else return pushProxyConfig draw tenant (deviceOf tenant id console) after

/-- The four requests that change the configuration. -/
inductive Request where
  | saveUpstream (pathId : String) (body : Upstream)
  | deleteUpstream (id : String)
  | saveInstance (pathId : String) (body : Instance)
  | deleteInstance (id : String)

def handle (draw : Draw) (tenant : Uuid) (console : Console world) :
    Request → Except Refusal (Console world)
  | .saveUpstream pathId body => saveUpstream draw tenant pathId body console
  | .deleteUpstream id => deleteUpstream tenant id console
  | .saveInstance pathId body => saveInstance draw tenant pathId body console
  | .deleteInstance id => deleteInstance draw tenant id console

end VodogeCloud.Source.ProxyConfig
