import Mathlib.Logic.Function.Basic
import VodogeCloud.Source.ProxyConfig

/-!
# The two proxy stores

`proxy.Memory` (apps/gateway/internal/proxy/memory.go:10-187) and the country rules of
`proxy.SQL` (store.go:217-262) over `app.upstream_proxy_country_rules`
(0017_proxy.sql:76-91), beside the upstreams and instances of `ProxyConfig`. A rule
follows its upstream: the foreign key deletes it with the upstream.

`last_probe`, `last_probe_at` and the traffic are left out, which neither listing
carries, and so is the `has_password` a request brings, which every read overwrites.
-/

set_option autoImplicit false

namespace VodogeCloud.Source.ProxyStores

open VodogeCloud.Lib VodogeCloud.Source.Postgres VodogeCloud.Source.ProxyConfig
open VodogeCloud.Source.ServeDevice (trimSpace)

/-! ## What the listings return -/

/-- `proxy.Instance` as `Instances` returns it: without the password. -/
structure ShownInstance where
  id : String
  deviceId : String
  name : String
  modemImei : String
  protocol : String
  listenAddr : String
  listenPort : Int
  authEnabled : Bool
  username : String
  hasPassword : Bool
  upstreamId : String
  enabled : Bool
  deriving DecidableEq, Repr

/-- `proxy.CountryRule`. -/
structure CountryRule where
  countryCode : String
  upstreamId : String
  deriving DecidableEq, Repr

def isCapital (letter : Char) : Bool := 'A' ≤ letter && letter ≤ 'Z'

/-- `ValidateCountryRule`; `upper` is `strings.ToUpper`. -/
def validateCountryRule (upper : String → String) (rule : CountryRule) : Except String CountryRule :=
  let code := upper (trimSpace rule.countryCode)
  if code.utf8ByteSize ≠ 2 then .error "country_code must be two letters, e.g. CN"
  else if code.toList.all isCapital = false then .error "country_code must be two letters, e.g. CN"
  else .ok { rule with countryCode := code }

/-! ## The double -/

/-- A map from tenants to slices, which is nil until the first save makes it. -/
abbrev Slices (α : Type) : Type := Option (Uuid → List α)

namespace Slices

variable {α : Type}

def of (tenant : Uuid) (slices : Slices α) : List α := slices.getD (fun _ => []) tenant

def made (slices : Slices α) : Slices α := some (slices.getD fun _ => [])

def put (tenant : Uuid) (slice : List α) (slices : Slices α) : Slices α :=
  some (Function.update (slices.getD fun _ => []) tenant slice)

@[simp] theorem of_made (tenant : Uuid) (slices : Slices α) : slices.made.of tenant = slices.of tenant := rfl

theorem of_put (tenant other : Uuid) (slice : List α) (slices : Slices α) :
    (slices.put tenant slice).of other = if other = tenant then slice else slices.of other := by
  unfold of put
  rw [Option.getD_some, Function.update_apply]

end Slices

/-- `proxy.Memory`: a slice for each tenant and one counter for all of them. -/
structure Memory where
  upstreams : Slices Upstream
  instances : Slices Instance
  rules : Slices CountryRule
  nextID : Nat

/-- `&proxy.Memory{}`. -/
def Memory.zero : Memory := ⟨none, none, none, 0⟩

/-- How a call of the double fails: with `ErrInvalid`, or on an assignment to a nil map,
which the server recovers from. -/
inductive MemoryError where
  | invalid (reason : String)
  | nilMap
  deriving DecidableEq, Repr

/-- The text of the n-th id. -/
def memoryId (n : Nat) : String := "mem-" ++ toString n

/-- The slice with its first element that meets the test changed. -/
def replaceFirst {α : Type} (hit : α → Bool) (change : α → α) : List α → Option (List α)
  | [] => none
  | existing :: rest =>
    if hit existing = true then some (change existing :: rest)
    else (replaceFirst hit change rest).map (existing :: ·)

/-- What an update leaves of a stored upstream: its password, when none is given. -/
def replaceUpstream (upstream existing : Upstream) : Upstream :=
  { upstream with
    password := if upstream.password = "" then existing.password else upstream.password }

/-- `SaveUpstream`: what the store becomes, and the id it returns. -/
def Memory.saveUpstream (tenant : Uuid) (upstream : Upstream) (store : Memory) :
    Memory × Except MemoryError String :=
  let store := { store with upstreams := store.upstreams.made }
  if upstream.id = "" then
    let created := { upstream with id := memoryId (store.nextID + 1) }
    let slice := store.upstreams.of tenant ++ [created]
    ({ store with upstreams := store.upstreams.put tenant slice, nextID := store.nextID + 1 },
      .ok created.id)
  else
    match replaceFirst (fun existing => existing.id = upstream.id) (replaceUpstream upstream)
        (store.upstreams.of tenant) with
    | some slice => ({ store with upstreams := store.upstreams.put tenant slice }, .ok upstream.id)
    | none => (store, .error (.invalid "no such upstream"))

/-- `DeleteUpstream`: nothing else in the store knows of the upstream. -/
def Memory.deleteUpstream (tenant : Uuid) (id : String) (store : Memory) :
    Memory × Except MemoryError String :=
  if store.upstreams.isNone = true then (store, .error .nilMap)
  else
    let kept := (store.upstreams.of tenant).filter fun existing => existing.id ≠ id
    ({ store with upstreams := store.upstreams.put tenant kept }, .ok "")

/-- The port is taken by another listener of the device. -/
def samePort (instance_ existing : Instance) : Bool :=
  existing.deviceId = instance_.deviceId && existing.listenPort = instance_.listenPort &&
    existing.id ≠ instance_.id

theorem samePort_iff {instance_ existing : Instance} : samePort instance_ existing = true ↔
    (existing.deviceId = instance_.deviceId ∧ existing.listenPort = instance_.listenPort) ∧
      existing.id ≠ instance_.id := by
  simp [samePort]

/-- What an update leaves of a stored listener: its password, when none is given. -/
def replaceInstance (instance_ existing : Instance) : Instance :=
  { instance_ with
    password := if instance_.password = "" then existing.password else instance_.password }

/-- `SaveInstance`. -/
def Memory.saveInstance (tenant : Uuid) (instance_ : Instance) (store : Memory) :
    Memory × Except MemoryError String :=
  let store := { store with instances := store.instances.made }
  if (store.instances.of tenant).any (samePort instance_) = true then
    (store, .error (.invalid "another instance on this device already uses that port"))
  else if instance_.id = "" then
    let created := { instance_ with id := memoryId (store.nextID + 1) }
    let slice := store.instances.of tenant ++ [created]
    ({ store with instances := store.instances.put tenant slice, nextID := store.nextID + 1 },
      .ok created.id)
  else
    match replaceFirst (fun existing => existing.id = instance_.id) (replaceInstance instance_)
        (store.instances.of tenant) with
    | some slice => ({ store with instances := store.instances.put tenant slice }, .ok instance_.id)
    | none => (store, .error (.invalid "no such instance"))

/-- `DeleteInstance`. -/
def Memory.deleteInstance (tenant : Uuid) (id : String) (store : Memory) :
    Memory × Except MemoryError String :=
  if store.instances.isNone = true then (store, .error .nilMap)
  else
    let kept := (store.instances.of tenant).filter fun existing => existing.id ≠ id
    ({ store with instances := store.instances.put tenant kept }, .ok "")

/-- `SaveCountryRule`. -/
def Memory.saveCountryRule (tenant : Uuid) (rule : CountryRule) (store : Memory) :
    Memory × Except MemoryError String :=
  let store := { store with rules := store.rules.made }
  match replaceFirst (fun existing => existing.countryCode = rule.countryCode) (fun _ => rule)
      (store.rules.of tenant) with
  | some slice => ({ store with rules := store.rules.put tenant slice }, .ok "")
  | none => ({ store with rules := store.rules.put tenant (store.rules.of tenant ++ [rule]) }, .ok "")

def showInstance (item : Instance) : ShownInstance where
  id := item.id
  deviceId := item.deviceId
  name := item.name
  modemImei := item.modemImei
  protocol := item.protocol
  listenAddr := item.listenAddr
  listenPort := item.listenPort
  authEnabled := item.authEnabled
  username := item.username
  hasPassword := item.password ≠ ""
  upstreamId := item.upstreamId
  enabled := item.enabled

/-- `Instances`: in the order they were created. -/
def Memory.listInstances (tenant : Uuid) (deviceId : String) (store : Memory) : List ShownInstance :=
  ((store.instances.of tenant).filter fun item => deviceId = "" || item.deviceId = deviceId).map showInstance

/-- `CountryRules`: in the order of their codes. -/
def Memory.countryRules (tenant : Uuid) (store : Memory) : List CountryRule :=
  (store.rules.of tenant).insertionSort (fun a b => a.countryCode ≤ b.countryCode)

/-! ## The tables -/

/-- A row of `app.upstream_proxy_country_rules`. -/
structure RuleRow where
  tenantId : Uuid
  countryCode : String
  upstreamId : Option Uuid
  deriving DecidableEq, Repr

/-- Its primary key. -/
def RuleRow.key (row : RuleRow) : Uuid × String := (row.tenantId, row.countryCode)

/-- `^[A-Z]{2}$`. -/
def isCode (code : String) : Bool := code.toList.length = 2 && code.toList.all isCapital

variable {registered : Uuid → Uuid → Bool}

/-- The three tables. -/
structure StoreDb (registered : Uuid → Uuid → Bool) where
  proxies : ProxyDb registered
  rules : Table RuleRow.key
  codes : ∀ row ∈ rules, isCode row.countryCode = true
  known : ∀ row ∈ rules,
    row.upstreamId.all (fun id => ∃ other ∈ proxies.upstreams, other.id = id) = true

def StoreDb.empty : StoreDb registered where
  proxies := ProxyDb.empty
  rules := Table.empty
  codes := fun _ member => absurd member List.not_mem_nil
  known := fun _ member => absurd member List.not_mem_nil

/-- The tables a statement leaves, unless a rule violates a constraint. -/
def StoreDb.check (proxies : ProxyDb registered) (rules : Table RuleRow.key) :
    Except PgError (StoreDb registered) :=
  if codes : ∀ row ∈ rules, isCode row.countryCode = true then
  if known : ∀ row ∈ rules,
      row.upstreamId.all (fun id => ∃ other ∈ proxies.upstreams, other.id = id) = true then
    .ok ⟨proxies, rules, codes, known⟩
  else .error (foreignKeyViolation "upstream_proxy_country_rules" "upstream_country_rules_upstream_fkey")
  else .error (checkViolation "upstream_proxy_country_rules" "upstream_country_rules_code_shape")

/-- `SaveUpstream`; `rowId` is the key the database generates. -/
def StoreDb.saveUpstream (tenant rowId : Uuid) (upstream : Upstream) (db : StoreDb registered) :
    Except StoreError (StoreDb registered × String) := do
  let (proxies, id) ← db.proxies.saveUpstream tenant rowId upstream
  let after ← server (StoreDb.check proxies db.rules)
  return (after, uuidOut id)

/-- `DeleteUpstream`: the rules of an upstream that goes go with it, whatever tenant they
are of. -/
def StoreDb.deleteUpstream (tenant : Uuid) (id : String) (db : StoreDb registered) :
    Except StoreError (StoreDb registered) := do
  let key ← server (uuidIn id)
  let proxies ← db.proxies.deleteUpstream tenant id
  if ∃ row ∈ db.proxies.upstreams, ownUpstream tenant key row = true then
    server (StoreDb.check proxies (db.rules.delete fun row => row.upstreamId = some key))
  else server (StoreDb.check proxies db.rules)

/-- `SaveInstance`. -/
def StoreDb.saveInstance (tenant rowId : Uuid) (instance_ : Instance) (db : StoreDb registered) :
    Except StoreError (StoreDb registered × String) := do
  let (proxies, id) ← db.proxies.saveInstance tenant rowId instance_
  let after ← server (StoreDb.check proxies db.rules)
  return (after, uuidOut id)

/-- `DeleteInstance`. -/
def StoreDb.deleteInstance (tenant : Uuid) (id : String) (db : StoreDb registered) :
    Except StoreError (StoreDb registered) := do
  let proxies ← db.proxies.deleteInstance tenant id
  server (StoreDb.check proxies db.rules)

/-- The DO UPDATE SET clause. -/
def setRule (upstreamId : Option Uuid) (row : RuleRow) : RuleRow := { row with upstreamId := upstreamId }

theorem setRule_key (upstreamId : Option Uuid) (row : RuleRow) : (setRule upstreamId row).key = row.key := rfl

/-- `SaveCountryRule`. -/
def StoreDb.saveCountryRule (tenant : Uuid) (rule : CountryRule) (db : StoreDb registered) :
    Except StoreError (StoreDb registered) := do
  server (textArguments [rule.countryCode])
  let upstreamId ← server (nullUuid rule.upstreamId)
  server (StoreDb.check db.proxies
    (db.rules.upsert ⟨tenant, rule.countryCode, upstreamId⟩ (setRule upstreamId) (setRule_key upstreamId)))

def showRow (row : InstanceRow) : ShownInstance where
  id := uuidOut row.id
  deviceId := uuidOut row.deviceId
  name := row.name
  modemImei := row.modemImei
  protocol := row.protocol
  listenAddr := row.listenAddr
  listenPort := row.listenPort
  authEnabled := row.authEnabled
  username := row.username.getD ""
  hasPassword := row.password.any (· ≠ "")
  upstreamId := (row.upstreamId.map uuidOut).getD ""
  enabled := row.enabled

/-- `Instances`; `collate` is the order of the names. -/
def StoreDb.listInstances (collate : String → String → Bool) (tenant : Uuid) (deviceId : String)
    (db : StoreDb registered) : Except PgError (List ShownInstance) :=
  (db.proxies.listInstances collate tenant deviceId).map fun rows => rows.map showRow

def showRule (row : RuleRow) : CountryRule where
  countryCode := row.countryCode
  upstreamId := (row.upstreamId.map uuidOut).getD ""

/-- `CountryRules`. -/
def StoreDb.countryRules (collate : String → String → Bool) (tenant : Uuid) (db : StoreDb registered) :
    List CountryRule :=
  ((db.rules.rows.filter (fun row => row.tenantId = tenant)).insertionSort
    (fun a b => collate a.countryCode b.countryCode = true)).map showRule

/-! ## The calls -/

/-- The calls that change a store. -/
inductive Call where
  | saveUpstream (upstream : Upstream)
  | deleteUpstream (id : String)
  | saveInstance (instance_ : Instance)
  | deleteInstance (id : String)
  | saveCountryRule (rule : CountryRule)
  deriving DecidableEq

/-- What a call leaves in memory, and what it returns: an id, or nothing. -/
def Memory.call (tenant : Uuid) (store : Memory) : Call → Memory × Except MemoryError String
  | .saveUpstream upstream => store.saveUpstream tenant upstream
  | .deleteUpstream id => store.deleteUpstream tenant id
  | .saveInstance instance_ => store.saveInstance tenant instance_
  | .deleteInstance id => store.deleteInstance tenant id
  | .saveCountryRule rule => store.saveCountryRule tenant rule

/-- The same of the tables. -/
def StoreDb.call (tenant rowId : Uuid) (db : StoreDb registered) :
    Call → Except StoreError (StoreDb registered × String)
  | .saveUpstream upstream => db.saveUpstream tenant rowId upstream
  | .deleteUpstream id => (db.deleteUpstream tenant id).map (·, "")
  | .saveInstance instance_ => db.saveInstance tenant rowId instance_
  | .deleteInstance id => (db.deleteInstance tenant id).map (·, "")
  | .saveCountryRule rule => (db.saveCountryRule tenant rule).map (·, "")

end VodogeCloud.Source.ProxyStores
