import Mathlib.Data.Char
import Mathlib.Data.List.Lex
import VodogeCloud.Guarantees.EnqueuedCommands
import VodogeCloud.Source.ProxyConfig

/-!
# Which proxy changes a device is told of

A device runs the listeners stored for it and chains through the upstreams of its
tenant; a request that changes either should queue the new configuration for the
device. Saving or deleting a listener pushes to one device, the one the request
names; saving or deleting an upstream pushes to none.
-/

set_option autoImplicit false

namespace VodogeCloud.Guarantees.ProxyNotices

open VodogeCloud.Lib VodogeCloud.Lib.Transactions
open VodogeCloud.Source.Postgres VodogeCloud.Source.CommandTables
open VodogeCloud.Source.CommandLifecycle VodogeCloud.Source.ProxyConfig
open VodogeCloud.Guarantees.EnqueuedCommands

variable {world : Server} {registered : Uuid → Uuid → Bool} {draw : Draw} {tenant device : Uuid}
  {console after : Console world} {db db' : ProxyDb registered}

/-! ## What a device should run -/

/-- The listeners of a device and the upstreams of its tenant. -/
def desired (tenant device : Uuid) (db : ProxyDb registered) : Set InstanceRow × Set UpstreamRow :=
  ({row | row ∈ db.instances ∧ row.tenantId = tenant ∧ row.deviceId = device},
    {row | row ∈ db.upstreams ∧ row.tenantId = tenant})

def HasInstance (tenant device : Uuid) (db : ProxyDb registered) : Prop :=
  ∃ row ∈ db.instances, row.tenantId = tenant ∧ row.deviceId = device

/-- The payload lists what the device should run, each row once. -/
def Carries (tenant device : Uuid) (db : ProxyDb registered) (payload : Jsonb) : Prop :=
  ∃ instances upstreams, payload = configPayload instances upstreams ∧
    instances.Nodup ∧ upstreams.Nodup ∧
    (∀ row, row ∈ instances ↔ row ∈ (desired tenant device db).1) ∧
    (∀ row, row ∈ upstreams ↔ row ∈ (desired tenant device db).2)

/-- A command that was not there before brings the device what it should run. -/
def Told (tenant device : Uuid) (before after : Console world) : Prop :=
  ∃ command ∈ after.commands.commands, command ∉ before.commands.commands ∧
    command.tenantId = tenant ∧ command.deviceId = device ∧ command.kind = .configureProxy ∧
    command.status = .queued ∧ Carries tenant device after.proxies command.payload

/-- Every device with a listener that should run something else now is told. -/
def EveryDeviceTold (before after : Console world) : Prop :=
  ∀ tenant device, desired tenant device before.proxies ≠ desired tenant device after.proxies →
    HasInstance tenant device before.proxies ∨ HasInstance tenant device after.proxies →
    Told tenant device before after

/-- A request that queues nothing tells every device only if no device needs telling. -/
theorem told_silent (quiet : after.commands = console.commands) :
    EveryDeviceTold console after ↔ ∀ tenant device,
      HasInstance tenant device console.proxies ∨ HasInstance tenant device after.proxies →
      desired tenant device console.proxies = desired tenant device after.proxies := by
  constructor
  · intro told tenant device owns
    by_contra differs
    obtain ⟨command, member, new, _⟩ := told tenant device differs owns
    rw [quiet] at member
    exact new member
  · intro same tenant device differs owns
    exact absurd (same tenant device owns) differs

theorem desired_eq (instances : ∀ row, row.tenantId = tenant → row.deviceId = device →
      (row ∈ db.instances ↔ row ∈ db'.instances))
    (upstreams : ∀ row, row.tenantId = tenant → (row ∈ db.upstreams ↔ row ∈ db'.upstreams)) :
    desired tenant device db = desired tenant device db' := by
  apply Prod.ext
  · ext row
    exact ⟨fun ⟨member, own, at_⟩ => ⟨(instances row own at_).mp member, own, at_⟩,
      fun ⟨member, own, at_⟩ => ⟨(instances row own at_).mpr member, own, at_⟩⟩
  · ext row
    exact ⟨fun ⟨member, own⟩ => ⟨(upstreams row own).mp member, own⟩,
      fun ⟨member, own⟩ => ⟨(upstreams row own).mpr member, own⟩⟩

theorem desired_instances (same : desired tenant device db = desired tenant device db')
    (row : InstanceRow) (own : row.tenantId = tenant) (at_ : row.deviceId = device) :
    row ∈ db.instances ↔ row ∈ db'.instances := by
  have rows := Set.ext_iff.mp (congrArg Prod.fst same) row
  simpa [desired, own, at_] using rows

theorem desired_upstreams (same : desired tenant device db = desired tenant device db')
    (row : UpstreamRow) (own : row.tenantId = tenant) :
    row ∈ db.upstreams ↔ row ∈ db'.upstreams := by
  have rows := Set.ext_iff.mp (congrArg Prod.snd same) row
  simpa [desired, own] using rows

/-! ## The store -/

theorem check_ok {upstreams : Table UpstreamRow.id} {instances : Table InstanceRow.id}
    (h : ProxyDb.check registered upstreams instances = .ok db) :
    db.upstreams = upstreams ∧ db.instances = instances := by
  unfold ProxyDb.check at h
  repeat' split at h
  all_goals cases h
  exact ⟨rfl, rfl⟩

theorem mapError_ok {ε ε' α : Type} {result : Except ε α} {f : ε → ε'} {value : α}
    (h : result.mapError f = .ok value) : result = .ok value := by
  cases result with
  | error err => cases h
  | ok found => cases h; rfl

theorem server_ok {α : Type} {result : Except PgError α} {value : α}
    (h : server result = .ok value) : result = .ok value := mapError_ok h

/-- A saved upstream is new, or an own one with the changes written to it. -/
theorem saveUpstream_cases {upstream : Upstream} {rowId id : Uuid}
    (h : db.saveUpstream tenant rowId upstream = .ok (db', id)) :
    db'.instances = db.instances ∧
    ((upstream.id = "" ∧ (∀ other ∈ db.upstreams, other.id ≠ rowId) ∧
      ∀ row, row ∈ db'.upstreams ↔ row ∈ db.upstreams ∨ row = newUpstream rowId tenant upstream) ∨
    (upstream.id ≠ "" ∧ uuidIn upstream.id = .ok id ∧
      (∃ row ∈ db.upstreams, ownUpstream tenant id row = true) ∧
      db'.upstreams =
        db.upstreams.update (ownUpstream tenant id) (setUpstream upstream)
          (setUpstream_id upstream))) := by
  obtain ⟨_, _, body⟩ := bind_success h
  clear h
  by_cases new : upstream.id = ""
  · rw [if_pos new] at body
    by_cases fresh : ∀ other ∈ db.upstreams, other.id ≠ rowId
    · rw [dif_pos fresh] at body
      obtain ⟨written, checked, done⟩ := bind_success body
      cases done
      obtain ⟨upstreams, instances⟩ := check_ok (server_ok checked)
      refine ⟨instances, Or.inl ⟨new, fresh, fun row => ?_⟩⟩
      rw [upstreams]
      exact Table.mem_insert
    · rw [dif_neg fresh] at body
      cases body
  · rw [if_neg new] at body
    obtain ⟨key, read, rest⟩ := bind_success body
    by_cases own : ∃ row ∈ db.upstreams, ownUpstream tenant key row = true
    · rw [if_pos own] at rest
      obtain ⟨written, checked, done⟩ := bind_success rest
      cases done
      obtain ⟨upstreams, instances⟩ := check_ok (server_ok checked)
      exact ⟨instances, Or.inr ⟨new, server_ok read, own, upstreams⟩⟩
    · rw [if_neg own] at rest
      cases rest

/-- A saved listener is new, on the device the request names, or an own one with the
changes written to it. -/
theorem saveInstance_cases {instance_ : Instance} {rowId id : Uuid}
    (h : db.saveInstance tenant rowId instance_ = .ok (db', id)) :
    db'.upstreams = db.upstreams ∧ ∃ upstreamId, nullUuid instance_.upstreamId = .ok upstreamId ∧
    ((instance_.id = "" ∧ (∀ other ∈ db.instances, other.id ≠ rowId) ∧
      ∃ device, uuidIn instance_.deviceId = .ok device ∧
        ∀ row, row ∈ db'.instances ↔ row ∈ db.instances ∨
          row = newInstance rowId tenant device instance_ upstreamId) ∨
    (instance_.id ≠ "" ∧ uuidIn instance_.id = .ok id ∧
      (∃ row ∈ db.instances, ownInstance tenant id row = true) ∧
      db'.instances =
        db.instances.update (ownInstance tenant id) (setInstance instance_ upstreamId)
          (setInstance_id instance_ upstreamId))) := by
  obtain ⟨_, _, body⟩ := bind_success h
  clear h
  obtain ⟨upstreamId, chained, body⟩ := bind_success body
  by_cases new : instance_.id = ""
  · rw [if_pos new] at body
    obtain ⟨device, named, rest⟩ := bind_success body
    by_cases fresh : ∀ other ∈ db.instances, other.id ≠ rowId
    · rw [dif_pos fresh] at rest
      obtain ⟨written, checked, done⟩ := bind_success rest
      cases done
      obtain ⟨upstreams, instances⟩ := check_ok (server_ok checked)
      refine ⟨upstreams, upstreamId, server_ok chained,
        Or.inl ⟨new, fresh, device, server_ok named, fun row => ?_⟩⟩
      rw [instances]
      exact Table.mem_insert
    · rw [dif_neg fresh] at rest
      cases rest
  · rw [if_neg new] at body
    obtain ⟨key, read, rest⟩ := bind_success body
    by_cases own : ∃ row ∈ db.instances, ownInstance tenant key row = true
    · rw [if_pos own] at rest
      obtain ⟨written, checked, done⟩ := bind_success rest
      cases done
      obtain ⟨upstreams, instances⟩ := check_ok (server_ok checked)
      exact ⟨upstreams, upstreamId, server_ok chained, Or.inr ⟨new, server_ok read, own, instances⟩⟩
    · rw [if_neg own] at rest
      cases rest

/-! ## The push -/

/-- The key of the push is free, and the database is not half an hour ahead of the
gateway. -/
def Free (draw : Draw) (tenant : Uuid) (deviceId : String) (console : Console world) : Prop :=
  ¬ KeyTaken console.commands tenant (configKey deviceId draw.nanos) ∧
    draw.database < draw.gateway + configTTL

/-- The keys the database generates for the push are not in use. -/
def Fresh (draw : Draw) (console : Console world) : Prop :=
  (∀ other ∈ console.commands.commands, other.id ≠ draw.commandId) ∧
    ∀ other ∈ console.commands.outbox, other.id ≠ draw.outboxId

theorem pushProxyConfig_proxies {deviceId : String} :
    (pushProxyConfig draw tenant deviceId console).proxies = console.proxies := by
  unfold pushProxyConfig
  dsimp only
  split
  · rfl
  · rfl

theorem listed_nodup {ρ κ : Type} {key : ρ → κ} (table : Table key) (hit : ρ → Bool)
    (order : ρ → ρ → Prop) [DecidableRel order] :
    ((table.rows.filter hit).insertionSort order).Nodup :=
  (List.perm_insertionSort order _).nodup_iff.mpr ((List.Nodup.of_map _ table.unique).filter _)

theorem uuidIn_ne_empty {text : String} (named : uuidIn text = .ok device) : text ≠ "" := by
  intro empty
  subst empty
  cases named

theorem listInstances_ok {collate : String → String → Bool} {deviceId : String}
    (named : uuidIn deviceId = .ok device) :
    ∃ instances, db.listInstances collate tenant deviceId = .ok instances ∧ instances.Nodup ∧
      ∀ row, row ∈ instances ↔ row ∈ (desired tenant device db).1 := by
  unfold ProxyDb.listInstances
  rw [if_neg (uuidIn_ne_empty named), named]
  refine ⟨_, rfl, listed_nodup _ _ _, fun row => ?_⟩
  simp [List.mem_insertionSort, Table.mem_rows, desired]

theorem mem_listUpstreams {collate : String → String → Bool} {row : UpstreamRow} :
    row ∈ db.listUpstreams collate tenant ↔ row ∈ (desired tenant device db).2 := by
  simp [ProxyDb.listUpstreams, List.mem_insertionSort, Table.mem_rows, desired]

/-- The command of the push to a device lists what the device should run. -/
theorem configCommand_ok {deviceId : String} (named : uuidIn deviceId = .ok device) :
    ∃ payload, payload.isObject = true ∧ Carries tenant device console.proxies payload ∧
      configCommand world draw tenant deviceId console.proxies =
        .ok ⟨tenant, device, .configureProxy, payload, configKey deviceId draw.nanos,
          draw.gateway + configTTL⟩ := by
  obtain ⟨instances, listed, once, members⟩ :=
    @listInstances_ok _ tenant device console.proxies world.collate deviceId named
  refine ⟨configPayload instances (console.proxies.listUpstreams world.collate tenant), rfl,
    ⟨_, _, rfl, once, listed_nodup _ _ _, members, fun row => mem_listUpstreams⟩, ?_⟩
  unfold configCommand
  rw [listed, ok_bind, named, ok_bind]
  rfl

/-- What is new after a push is for the device the push names. -/
theorem push_new {deviceId : String} {command : CommandRow}
    (member : command ∈ (pushProxyConfig draw tenant deviceId console).commands.commands)
    (new : command ∉ console.commands.commands) :
    uuidIn deviceId = .ok command.deviceId ∧ Free draw tenant deviceId console := by
  unfold pushProxyConfig at member
  dsimp only at member
  cases attempt : (do
      let args ← configCommand world draw tenant deviceId console.proxies
      enqueueCommand world.registered (some tenant) args draw.commandId draw.outboxId draw.database
        console.commands) with
  | error err =>
    rw [attempt] at member
    exact absurd member new
  | ok written =>
    rw [attempt] at member
    replace member : command ∈ written.1.commands := member
    obtain ⟨args, built, queued⟩ := bind_success attempt
    obtain ⟨_, _, rest⟩ := bind_success built
    obtain ⟨device, named, _⟩ := bind_success rest
    clear rest
    obtain ⟨payload, _, _, known⟩ := @configCommand_ok world draw tenant device console deviceId named
    rw [known] at built
    cases built
    rcases enqueueCommand_cases queued with ⟨same, _⟩ | ⟨row, free, _, members⟩
    · rw [same] at member
      exact absurd member new
    · rcases (members command).mp member with old | rfl
      · exact absurd old new
      · rw [row]
        exact ⟨named, free, enqueueCommand_lasting queued⟩

/-- A push tells a registered device exactly when it names the device and its key is free
in time. -/
theorem push_told {deviceId : String} {before : Console world} (same : before.commands = console.commands)
    (known : world.registered tenant device = true) (fresh : Fresh draw console) :
    Told tenant device before (pushProxyConfig draw tenant deviceId console) ↔
      Free draw tenant deviceId console ∧ uuidIn deviceId = .ok device := by
  constructor
  · rintro ⟨command, member, new, _, at_, _⟩
    rw [same] at new
    obtain ⟨named, free⟩ := push_new member new
    rw [at_] at named
    exact ⟨free, named⟩
  · rintro ⟨⟨free, lasting⟩, named⟩
    obtain ⟨payload, object, carried, built⟩ :=
      @configCommand_ok world draw tenant device console deviceId named
    obtain ⟨written, queued⟩ := @enqueueCommand_new world.registered
      ⟨tenant, device, .configureProxy, payload, configKey deviceId draw.nanos,
        draw.gateway + configTTL⟩
      draw.commandId draw.outboxId draw.database console.commands
      ⟨object, lasting, known, fresh.1, fresh.2⟩ free
    have pushed : pushProxyConfig draw tenant deviceId console =
        { console with commands := written } := by
      unfold pushProxyConfig
      simp only [built, ok_bind, queued]
    rcases enqueueCommand_cases queued with ⟨_, old, _⟩ | ⟨_, _, absent, members⟩
    · exact absurd rfl (fresh.1 _ old)
    · rw [pushed]
      refine ⟨_, (members _).mpr (Or.inr rfl), ?_, rfl, rfl, rfl, rfl, carried⟩
      rw [same]
      exact fun old => absent _ old rfl

/-! ## The four requests -/

/-- When a request reaches every device it concerns. -/
def Reaches (draw : Draw) (tenant : Uuid) (console : Console world) : Request → Prop
  | .saveUpstream pathId body =>
    (∀ row ∈ console.proxies.instances, row.tenantId ≠ tenant) ∨
      ∃ upstream, validateUpstream world.quote
          (if pathId = "" then body else { body with id := pathId }) = .ok upstream ∧
        ∃ row ∈ console.proxies.upstreams, row.tenantId = tenant ∧
          uuidIn upstream.id = .ok row.id ∧ setUpstream upstream row = row
  | .deleteUpstream id =>
    ∀ row ∈ console.proxies.upstreams, row.tenantId = tenant → uuidIn id = .ok row.id →
      ∀ other ∈ console.proxies.instances, other.tenantId ≠ tenant ∧ other.upstreamId ≠ some row.id
  | .saveInstance pathId body =>
    ∃ instance_, validateInstance (if pathId = "" then body else { body with id := pathId }) =
        .ok instance_ ∧
      ((∃ row ∈ console.proxies.instances, row.tenantId = tenant ∧ uuidIn instance_.id = .ok row.id ∧
          ∃ upstreamId, nullUuid instance_.upstreamId = .ok upstreamId ∧
            setInstance instance_ upstreamId row = row) ∨
        (Free draw tenant instance_.deviceId console ∧
          ∀ row ∈ console.proxies.instances, row.tenantId = tenant → uuidIn instance_.id = .ok row.id →
            uuidIn instance_.deviceId = .ok row.deviceId))
  | .deleteInstance id =>
    ∀ row ∈ console.proxies.instances, row.tenantId = tenant → uuidIn id = .ok row.id →
      id = uuidOut row.id ∧ Free draw tenant (uuidOut row.deviceId) console

theorem saveUpstream_told {pathId : String} {body : Upstream}
    (h : saveUpstream draw tenant pathId body console = .ok after) :
    EveryDeviceTold console after ↔ Reaches draw tenant console (.saveUpstream pathId body) := by
  obtain ⟨upstream, valid, rest⟩ := bind_success h
  obtain ⟨⟨proxies, id⟩, saved, done⟩ := bind_success rest
  cases done
  have valid := mapError_ok valid
  obtain ⟨instances, changed⟩ := saveUpstream_cases (mapError_ok saved)
  have quiet := @told_silent world console { console with proxies := proxies } rfl
  rw [quiet]
  constructor
  · intro same
    by_cases none_ : ∀ row ∈ console.proxies.instances, row.tenantId ≠ tenant
    · exact Or.inl none_
    · right
      simp only [not_forall, not_not] at none_
      obtain ⟨listener, member, own⟩ := none_
      have kept := same tenant listener.deviceId (Or.inl ⟨listener, member, own, rfl⟩)
      rcases changed with ⟨_, fresh, members⟩ | ⟨_, read, ⟨row, inTable, hit⟩, updated⟩
      · have old := (desired_upstreams kept (newUpstream draw.rowId tenant upstream) rfl).mpr
          ((members _).mpr (Or.inr rfl))
        exact absurd rfl (fresh _ old)
      · obtain ⟨rfl, owned⟩ := ownUpstream_iff.mp hit
        have written : setUpstream upstream row ∈ proxies.upstreams := by
          rw [updated]
          exact Table.mem_update.mpr ⟨row, inTable, by rw [if_pos hit]⟩
        have old := (desired_upstreams kept (setUpstream upstream row) owned).mpr written
        exact ⟨upstream, valid, row, inTable, owned, read, Table.eq_of_key old inTable rfl⟩
  · rintro (none_ | ⟨upstream', valid', row, inTable, owned, read', unchanged⟩) tenant' device owns
    · -- only the upstreams of a tenant without listeners are touched
      have other : tenant' ≠ tenant := by
        rintro rfl
        unfold HasInstance at owns
        rw [instances, or_self] at owns
        obtain ⟨listener, member, own, _⟩ := owns
        exact none_ listener member own
      refine desired_eq (fun row _ _ => by rw [instances]) (fun row own => ?_)
      rcases changed with ⟨_, _, members⟩ | ⟨_, _, _, updated⟩
      · rw [members]
        refine ⟨Or.inl, ?_⟩
        rintro (old | rfl)
        · exact old
        · exact absurd own.symm other
      · rw [updated, Table.mem_update_elsewhere (fun row => row.tenantId = tenant)]
        · rw [own]
          exact other
        · exact fun old _ hit => ⟨(ownUpstream_iff.mp hit).2, (ownUpstream_iff.mp hit).2⟩
    · rw [valid] at valid'
      cases valid'
      refine desired_eq (fun row _ _ => by rw [instances]) (fun other _ => ?_)
      rcases changed with ⟨new, _⟩ | ⟨_, read, _, updated⟩
      · exact absurd new (uuidIn_ne_empty read')
      · rw [read] at read'
        cases read'
        rw [updated, Table.mem_update_same]
        intro old member hit
        rw [Table.eq_of_key member inTable (ownUpstream_iff.mp hit).1]
        exact unchanged

/-- After a removal no listener chains through the upstream. -/
theorem removeUpstream_unchained {id : Uuid} {row : InstanceRow}
    (member : row ∈ (db.removeUpstream tenant id).instances) : row.upstreamId ≠ some id := by
  have written : row ∈ db.instances.update (fun row => row.upstreamId = some id) clearUpstream
      clearUpstream_id := member
  obtain ⟨old, _, rfl⟩ := Table.mem_update.mp written
  by_cases chained : old.upstreamId = some id
  · rw [if_pos (by simp [chained])]
    nofun
  · rw [if_neg (by simp [chained])]
    exact chained

/-- A removal of an upstream no listener chains through leaves the listeners alone. -/
theorem removeUpstream_unused {id : Uuid}
    (unused : ∀ row ∈ db.instances, row.upstreamId ≠ some id) {row : InstanceRow} :
    row ∈ (db.removeUpstream tenant id).instances ↔ row ∈ db.instances := by
  have same : ∀ old ∈ db.instances, decide (old.upstreamId = some id) = true →
      clearUpstream old = old := by
    intro old member chained
    exact absurd (by simpa using chained) (unused old member)
  exact @Table.mem_update_same _ _ _ db.instances _ clearUpstream clearUpstream_id row same

theorem deleteUpstream_told {id : String} (h : deleteUpstream tenant id console = .ok after) :
    EveryDeviceTold console after ↔ Reaches draw tenant console (.deleteUpstream id) := by
  obtain ⟨proxies, removed, done⟩ := bind_success h
  cases done
  obtain ⟨key, read, body⟩ := bind_success (mapError_ok removed)
  have read := server_ok read
  have quiet := @told_silent world console { console with proxies := proxies } rfl
  rw [quiet]
  by_cases own : ∃ row ∈ console.proxies.upstreams, ownUpstream tenant key row = true
  · rw [if_pos own] at body
    cases body
    have found := own
    obtain ⟨row, inTable, hit⟩ := found
    obtain ⟨rfl, owned⟩ := ownUpstream_iff.mp hit
    constructor
    · intro same row' inTable' owned' read' listener member
      rw [read] at read'
      have equal : row' = row := Table.eq_of_key inTable' inTable (Except.ok.inj read').symm
      subst equal
      have kept := same listener.tenantId listener.deviceId (Or.inl ⟨listener, member, rfl, rfl⟩)
      constructor
      · intro ours
        have still := (desired_upstreams kept row' (owned.trans ours.symm)).mp inTable
        have gone := (Table.mem_delete.mp still).2
        rw [hit] at gone
        cases gone
      · intro chained
        have still := (desired_instances kept listener rfl rfl).mp member
        exact removeUpstream_unchained still chained
    · intro none_ tenant' device owns
      have free := none_ row inTable owned read
      have unused := fun listener member => (free listener member).2
      have other : tenant' ≠ tenant := by
        rintro rfl
        rcases owns with ⟨listener, member, ours, _⟩ | ⟨listener, member, ours, _⟩
        · exact (free listener member).1 ours
        · exact (free listener ((removeUpstream_unused unused).mp member)).1 ours
      refine desired_eq (fun listener _ _ => (removeUpstream_unused unused).symm) (fun upstream owner => ?_)
      show _ ↔ upstream ∈ console.proxies.upstreams.delete _
      rw [Table.mem_delete]
      have stranger : ownUpstream tenant row.id upstream = false := by
        simp [ownUpstream, owner, other]
      exact ⟨fun member => ⟨member, stranger⟩, And.left⟩
  · rw [if_neg own] at body
    cases body
    constructor
    · intro _ row inTable owned read'
      rw [read] at read'
      cases read'
      exact absurd ⟨row, inTable, ownUpstream_iff.mpr ⟨rfl, owned⟩⟩ own
    · intro _ tenant' device _
      rfl

/-- A change of the listeners of one device alone. -/
theorem told_of_one (upstreams : after.proxies.upstreams = console.proxies.upstreams)
    (others : ∀ row, row.tenantId ≠ tenant ∨ row.deviceId ≠ device →
      (row ∈ after.proxies.instances ↔ row ∈ console.proxies.instances))
    (changed : ∃ row, row.tenantId = tenant ∧ row.deviceId = device ∧
      ¬ (row ∈ after.proxies.instances ↔ row ∈ console.proxies.instances)) :
    EveryDeviceTold console after ↔ Told tenant device console after := by
  obtain ⟨row, own, at_, differs⟩ := changed
  constructor
  · intro told
    apply told tenant device
    · exact fun same => differs (desired_instances same row own at_).symm
    · by_cases member : row ∈ after.proxies.instances
      · exact Or.inr ⟨row, member, own, at_⟩
      · have before : row ∈ console.proxies.instances := by
          by_contra absent
          exact differs ⟨fun h => absurd h member, fun h => absurd h absent⟩
        exact Or.inl ⟨row, before, own, at_⟩
  · intro told tenant' device' change _
    by_cases here : tenant' = tenant ∧ device' = device
    · obtain ⟨rfl, rfl⟩ := here
      exact told
    · refine absurd (desired_eq (fun row' own' at' => ?_) (fun row' _ => by rw [upstreams])) change
      refine (others row' ?_).symm
      rw [own', at']
      exact not_and_or.mp here

/-- A push after a change of the listeners of one registered device. -/
theorem pushed_told {proxies : ProxyDb world.registered} {deviceId : String} (fresh : Fresh draw console)
    (known : world.registered tenant device = true)
    (upstreams : proxies.upstreams = console.proxies.upstreams)
    (others : ∀ row, row.tenantId ≠ tenant ∨ row.deviceId ≠ device →
      (row ∈ proxies.instances ↔ row ∈ console.proxies.instances))
    (changed : ∃ row, row.tenantId = tenant ∧ row.deviceId = device ∧
      ¬ (row ∈ proxies.instances ↔ row ∈ console.proxies.instances)) :
    EveryDeviceTold console (pushProxyConfig draw tenant deviceId { console with proxies := proxies }) ↔
      Free draw tenant deviceId console ∧ uuidIn deviceId = .ok device := by
  have pushed : (pushProxyConfig draw tenant deviceId { console with proxies := proxies }).proxies =
      proxies := pushProxyConfig_proxies
  rw [told_of_one (by rw [pushed]; exact upstreams) (by rw [pushed]; exact others)
    (by rw [pushed]; exact changed)]
  exact @push_told world draw tenant device { console with proxies := proxies } deviceId console rfl known fresh

theorem saveInstance_told {pathId : String} {body : Instance} (fresh : Fresh draw console)
    (h : saveInstance draw tenant pathId body console = .ok after) :
    EveryDeviceTold console after ↔ Reaches draw tenant console (.saveInstance pathId body) := by
  obtain ⟨instance_, valid, rest⟩ := bind_success h
  obtain ⟨⟨proxies, id⟩, saved, done⟩ := bind_success rest
  cases done
  have valid := mapError_ok valid
  obtain ⟨upstreams, upstreamId, chained, changed⟩ := saveInstance_cases (mapError_ok saved)
  have reaches : Reaches draw tenant console (.saveInstance pathId body) ↔
      (∃ row ∈ console.proxies.instances, row.tenantId = tenant ∧ uuidIn instance_.id = .ok row.id ∧
        setInstance instance_ upstreamId row = row) ∨
      (Free draw tenant instance_.deviceId console ∧
        ∀ row ∈ console.proxies.instances, row.tenantId = tenant → uuidIn instance_.id = .ok row.id →
          uuidIn instance_.deviceId = .ok row.deviceId) := by
    simp only [Reaches, valid, chained, Except.ok.injEq, exists_eq_left']
  rw [reaches]
  rcases changed with ⟨new, unused, device, named, members⟩ |
    ⟨_, read, ⟨row, inTable, hit⟩, updated⟩
  · -- a new listener: its device is the one the push names
    have added := (members (newInstance draw.rowId tenant device instance_ upstreamId)).mpr (Or.inr rfl)
    have absent : ∀ row : InstanceRow, uuidIn instance_.id ≠ .ok row.id :=
      fun row read => uuidIn_ne_empty read new
    have others : ∀ row, row.tenantId ≠ tenant ∨ row.deviceId ≠ device →
        (row ∈ proxies.instances ↔ row ∈ console.proxies.instances) := by
      intro row other
      rw [members]
      refine ⟨?_, Or.inl⟩
      rintro (old | rfl)
      · exact old
      · simp [newInstance] at other
    have told := @pushed_told world draw tenant device console proxies instance_.deviceId fresh
      (proxies.valid.device _ added) upstreams others
      ⟨_, rfl, rfl, fun both => unused _ (both.mp added) rfl⟩
    rw [told, and_iff_left named]
    constructor
    · exact fun free => Or.inr ⟨free, fun row _ _ read => absurd read (absent row)⟩
    · rintro (⟨row, _, _, read, _⟩ | ⟨free, _⟩)
      · exact absurd read (absent row)
      · exact free
  · obtain ⟨rfl, owned⟩ := ownInstance_iff.mp hit
    have only : ∀ row' ∈ console.proxies.instances, uuidIn instance_.id = .ok row'.id → row' = row := by
      intro row' inTable' read'
      rw [read] at read'
      exact Table.eq_of_key inTable' inTable (Except.ok.inj read').symm
    by_cases unchanged : setInstance instance_ upstreamId row = row
    · refine iff_of_true (fun tenant' device differs _ => absurd ?_ differs)
        (Or.inl ⟨row, inTable, owned, read, unchanged⟩)
      refine desired_eq (fun other _ _ => ?_) (fun other _ => by rw [pushProxyConfig_proxies, upstreams])
      rw [pushProxyConfig_proxies, updated, Table.mem_update_same]
      intro old member hit'
      rw [Table.eq_of_key member inTable (ownInstance_iff.mp hit').1]
      exact unchanged
    · have written : setInstance instance_ upstreamId row ∈ proxies.instances := by
        rw [updated]
        exact Table.mem_update.mpr ⟨row, inTable, by rw [if_pos hit]⟩
      have known : world.registered tenant row.deviceId = true := by
        rw [← owned]
        exact console.proxies.valid.device row inTable
      have others : ∀ other, other.tenantId ≠ tenant ∨ other.deviceId ≠ row.deviceId →
          (other ∈ proxies.instances ↔ other ∈ console.proxies.instances) := by
        intro other elsewhere
        rw [updated, Table.mem_update_elsewhere
          (fun other => other.tenantId = tenant ∧ other.deviceId = row.deviceId)]
        · exact not_and_or.mpr elsewhere
        · intro old member hit'
          rw [Table.eq_of_key member inTable (ownInstance_iff.mp hit').1]
          exact ⟨⟨owned, rfl⟩, owned, rfl⟩
      rw [pushed_told fresh known upstreams others ⟨setInstance instance_ upstreamId row, owned, rfl,
        fun both => unchanged (Table.eq_of_key (both.mp written) inTable rfl)⟩]
      constructor
      · rintro ⟨free, named⟩
        refine Or.inr ⟨free, fun row' inTable' _ read' => ?_⟩
        rw [only row' inTable' read']
        exact named
      · rintro (⟨row', inTable', _, read', same⟩ | ⟨free, named⟩)
        · rw [only row' inTable' read'] at same
          exact absurd same unchanged
        · exact ⟨free, named row inTable owned read⟩

theorem foldl_last {ρ : Type} {hit : ρ → Bool} {value : ρ → String} {found : String}
    {items : List ρ} (agree : ∀ item ∈ items, hit item = true → value item = found) (held : String) :
    items.foldl (fun held item => if hit item then value item else held) held =
      if ∃ item ∈ items, hit item = true then found else held := by
  induction items generalizing held with
  | nil => simp
  | cons item rest ih =>
    have later := ih (fun other member => agree other (List.mem_cons_of_mem _ member))
    rw [List.foldl_cons, later]
    by_cases matches_ : hit item = true
    · simp [matches_, agree item List.mem_cons_self matches_]
    · simp [matches_]

/-- The device found under the text of a listener's id. -/
theorem deviceOf_own {row : InstanceRow} (member : row ∈ console.proxies.instances)
    (own : row.tenantId = tenant) : deviceOf tenant (uuidOut row.id) console = uuidOut row.deviceId := by
  unfold deviceOf ProxyDb.listInstances
  dsimp only
  have agree : ∀ item ∈ (console.proxies.instances.rows.filter
      (fun row => row.tenantId = tenant && true)).insertionSort
        (fun a b => world.collate a.name b.name = true),
      decide (uuidOut item.id = uuidOut row.id) = true → uuidOut item.deviceId = uuidOut row.deviceId := by
    intro item listed same
    have inTable := (List.mem_filter.mp ((List.mem_insertionSort _).mp listed)).1
    rw [Table.eq_of_key inTable member (uuidOut_injective (by simpa using same))]
  have found := foldl_last agree ""
  simp only [decide_eq_true_eq] at found
  rw [if_pos rfl]
  dsimp only
  rw [found, if_pos]
  exact ⟨row, (List.mem_insertionSort _).mpr (List.mem_filter.mpr ⟨member, by simp [own]⟩), rfl⟩

theorem deviceOf_none {id : String}
    (absent : ∀ row ∈ console.proxies.instances, row.tenantId = tenant → uuidOut row.id ≠ id) :
    deviceOf tenant id console = "" := by
  unfold deviceOf ProxyDb.listInstances
  dsimp only
  have agree : ∀ item ∈ (console.proxies.instances.rows.filter
      (fun row => row.tenantId = tenant && true)).insertionSort
        (fun a b => world.collate a.name b.name = true),
      decide (uuidOut item.id = id) = true → uuidOut item.deviceId = "" := by
    intro item listed same
    obtain ⟨inTable, own⟩ := List.mem_filter.mp ((List.mem_insertionSort _).mp listed)
    exact absurd (by simpa using same) (absent item inTable (by simpa using own))
  have found := foldl_last agree ""
  simp only [decide_eq_true_eq, ite_self] at found
  rw [if_pos rfl]
  exact found

theorem mem_removeInstance {id : Uuid} {row : InstanceRow} :
    row ∈ (db.removeInstance tenant id).instances ↔
      row ∈ db.instances ∧ ¬ (row.id = id ∧ row.tenantId = tenant) := by
  have kept : row ∈ (db.removeInstance tenant id).instances ↔
      row ∈ db.instances ∧ ownInstance tenant id row = false := Table.mem_delete
  rw [kept, ← ownInstance_iff, Bool.not_eq_true]

theorem deleteInstance_told {id : String} (fresh : Fresh draw console)
    (h : deleteInstance draw tenant id console = .ok after) :
    EveryDeviceTold console after ↔ Reaches draw tenant console (.deleteInstance id) := by
  obtain ⟨proxies, removed, rest⟩ := bind_success h
  obtain ⟨key, read, done⟩ := bind_success (mapError_ok removed)
  cases done
  have read := server_ok read
  by_cases own : ∃ row ∈ console.proxies.instances, row.id = key ∧ row.tenantId = tenant
  · obtain ⟨row, inTable, rfl, owned⟩ := own
    have only : ∀ row' ∈ console.proxies.instances, uuidIn id = .ok row'.id → row' = row := by
      intro row' inTable' read'
      rw [read] at read'
      exact Table.eq_of_key inTable' inTable (Except.ok.inj read').symm
    have reaches : Reaches draw tenant console (.deleteInstance id) ↔
        id = uuidOut row.id ∧ Free draw tenant (uuidOut row.deviceId) console := by
      constructor
      · exact fun every => every row inTable owned read
      · intro this row' inTable' _ read'
        rw [only row' inTable' read']
        exact this
    rw [reaches]
    have gone : row ∉ (console.proxies.removeInstance tenant row.id).instances :=
      fun still => (mem_removeInstance.mp still).2 ⟨rfl, owned⟩
    by_cases canonical : id = uuidOut row.id
    · rw [and_iff_right canonical]
      have device := deviceOf_own inTable owned
      rw [← canonical] at device
      have named := uuidIn_uuidOut row.deviceId
      have known : world.registered tenant row.deviceId = true := by
        rw [← owned]
        exact console.proxies.valid.device row inTable
      rw [device, if_neg (uuidIn_ne_empty named)] at rest
      cases rest
      have others : ∀ other, other.tenantId ≠ tenant ∨ other.deviceId ≠ row.deviceId →
          (other ∈ (console.proxies.removeInstance tenant row.id).instances ↔
            other ∈ console.proxies.instances) := by
        intro other elsewhere
        rw [mem_removeInstance]
        refine ⟨And.left, fun member => ⟨member, fun hit => ?_⟩⟩
        rw [Table.eq_of_key member inTable hit.1, owned] at elsewhere
        simp at elsewhere
      have told := @pushed_told world draw tenant row.deviceId console
        (console.proxies.removeInstance tenant row.id) (uuidOut row.deviceId) fresh known rfl others
        ⟨row, owned, rfl, fun both => gone (both.mpr inTable)⟩
      rw [told, and_iff_left named]
    · have device : deviceOf tenant id console = "" := by
        apply deviceOf_none
        intro row' inTable' _ same
        have read' : uuidIn id = .ok row'.id := by rw [← same, uuidIn_uuidOut]
        rw [only row' inTable' read'] at same
        exact canonical same.symm
      rw [if_pos device] at rest
      cases rest
      have quiet := @told_silent world console
        { console with proxies := console.proxies.removeInstance tenant row.id } rfl
      rw [quiet]
      refine iff_of_false (fun same => ?_) (fun both => canonical both.1)
      have kept := same tenant row.deviceId (Or.inl ⟨row, inTable, owned, rfl⟩)
      exact gone ((desired_instances kept row owned rfl).mp inTable)
  · have device : deviceOf tenant id console = "" := by
      apply deviceOf_none
      intro row inTable owned same
      rw [← same, uuidIn_uuidOut] at read
      exact own ⟨row, inTable, Except.ok.inj read, owned⟩
    rw [if_pos device] at rest
    cases rest
    refine iff_of_true (fun tenant' device' differs _ => absurd ?_ differs) ?_
    · refine desired_eq (fun row _ _ => ?_) (fun row _ => Iff.rfl)
      rw [mem_removeInstance]
      exact ⟨fun member => ⟨member, fun hit => own ⟨row, member, hit⟩⟩, And.left⟩
    · intro row inTable owned read'
      rw [read] at read'
      exact absurd ⟨row, inTable, (Except.ok.inj read').symm, owned⟩ own

/-- For every request that succeeds: every device with a listener that should run something
else now is told, if and only if no upstream a listener's configuration shows was changed,
and the one device whose listeners changed is named by the request and gets its push under
a free key. -/
theorem proxy_changes_told_iff {request : Request} (fresh : Fresh draw console)
    (h : handle draw tenant console request = .ok after) :
    EveryDeviceTold console after ↔ Reaches draw tenant console request := by
  cases request with
  | saveUpstream pathId body => exact saveUpstream_told h
  | deleteUpstream id => exact deleteUpstream_told h
  | saveInstance pathId body => exact saveInstance_told fresh h
  | deleteInstance id => exact deleteInstance_told fresh h

/-! ## Two runs -/

/-- A server whose names sort by their characters. -/
def plainServer : Server := ⟨fun _ _ => true, fun a b => decide (a.toList ≤ b.toList), id⟩

/-- The request number `n`, `n` seconds after the epoch. -/
def drawAt (n : Nat) : Draw :=
  ⟨BitVec.ofNat 128 (100 + n), BitVec.ofNat 128 (200 + n), n, 1000000000 * n, 1000000 * n, 1000000 * n⟩

/-- An exit of tenant 1. -/
def exitAt (address : String) : Upstream := ⟨"", "exit", address, "socks5", "", "", true⟩

/-- A listener on device 2, chained through the upstream of the first request. -/
def listener : Instance :=
  ⟨"", uuidOut 2, "sim 1", "356938035643809", "socks5", "", 1080, false, "", "", uuidOut 101, true⟩

/-- Tenant 1 after its requests; one that is refused changes nothing. -/
def served (requests : List (Nat × Request)) : Console plainServer :=
  requests.foldl (fun console request =>
    match handle (drawAt request.1) 1 console request.2 with
    | .ok next => next
    | .error _ => console) Console.empty

def configured : Console plainServer :=
  served [(1, .saveUpstream "" (exitAt "203.0.113.5:1080")), (2, .saveInstance "" listener)]

/-- The device of a new listener is told of it. -/
theorem new_listener_told : ∃ after : Console plainServer,
    handle (drawAt 1) 1 Console.empty (.saveInstance "" { listener with upstreamId := "" }) = .ok after ∧
    EveryDeviceTold Console.empty after := by
  have accepted : (@handle plainServer (drawAt 1) 1 Console.empty
      (.saveInstance "" { listener with upstreamId := "" })).isOk = true := by decide
  cases h : @handle plainServer (drawAt 1) 1 Console.empty
      (.saveInstance "" { listener with upstreamId := "" }) with
  | error err =>
    rw [h] at accepted
    cases accepted
  | ok after =>
    have fresh : Fresh (drawAt 1) (@Console.empty plainServer) :=
      ⟨fun _ member => absurd member List.not_mem_nil, fun _ member => absurd member List.not_mem_nil⟩
    refine ⟨after, rfl, (proxy_changes_told_iff fresh h).mpr ⟨_, rfl, Or.inr ⟨⟨?_, by decide⟩, ?_⟩⟩⟩
    · rintro ⟨_, member, _⟩
      exact absurd member List.not_mem_nil
    · exact fun _ member => absurd member List.not_mem_nil

/-- The exit of a running listener is given another address, and its device is not told. -/
theorem upstream_edit_untold : ∃ after : Console plainServer,
    handle (drawAt 3) 1 configured (.saveUpstream (uuidOut 101) (exitAt "198.51.100.7:1080")) =
      .ok after ∧
    ¬ EveryDeviceTold configured after := by
  have accepted : (handle (drawAt 3) 1 configured
      (.saveUpstream (uuidOut 101) (exitAt "198.51.100.7:1080"))).isOk = true := by decide
  cases h : handle (drawAt 3) 1 configured
      (.saveUpstream (uuidOut 101) (exitAt "198.51.100.7:1080")) with
  | error err =>
    rw [h] at accepted
    cases accepted
  | ok after =>
    refine ⟨after, rfl, ?_⟩
    rw [saveUpstream_told h]
    have listening : ∃ row ∈ configured.proxies.instances, row.tenantId = 1 := by decide
    have moved : ∀ row ∈ configured.proxies.upstreams, row.address ≠ "198.51.100.7:1080" := by
      decide
    rintro (none_ | ⟨upstream, valid, row, member, _, _, unchanged⟩)
    · obtain ⟨row, member, own⟩ := listening
      exact none_ row member own
    · have address : upstream.address = "198.51.100.7:1080" := by
        cases valid
        rfl
      apply moved row member
      rw [← unchanged, ← address]
      rfl

end VodogeCloud.Guarantees.ProxyNotices
