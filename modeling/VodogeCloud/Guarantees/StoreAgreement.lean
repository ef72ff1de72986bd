import Mathlib.Data.String.Basic
import VodogeCloud.Guarantees.ProxyNotices
import VodogeCloud.Lib.Decimal
import VodogeCloud.Lib.PairedLists
import VodogeCloud.Source.ProxyStores

/-!
# The two proxy stores side by side

A sequence of calls goes to both stores. The two name their rows differently, so the ids
of a sequence are those each store returned at the same call. The stores answer the same
and list the same as long as no call reaches one of the places where they differ: an
update that moves a listener to another device, an upstream or a device or a spelling
that the tables do not hold, a name that is taken or out of order, and the removal of an
upstream that is in use.
-/

set_option autoImplicit false

namespace VodogeCloud.Guarantees.StoreAgreement

open VodogeCloud.Lib VodogeCloud.Lib.Transactions VodogeCloud.Lib.PairedLists VodogeCloud.Lib.Decimal
open VodogeCloud.Source.Postgres VodogeCloud.Source.ProxyConfig VodogeCloud.Source.ProxyStores
open VodogeCloud.Guarantees.ProxyNotices

/-! ## One sequence of calls for two stores -/

/-- The ids that the stores returned at the calls that created a row. -/
abbrev Links : Type := List (String × Uuid)

/-- No id, or the two ids of one row. -/
def Linked (links : Links) (a b : String) : Prop :=
  a = "" ∧ b = "" ∨ ∃ link ∈ links, a = link.1 ∧ b = uuidOut link.2

/-- Texts that are the id of no row. -/
def Unknown (links : Links) (a b : String) : Prop :=
  a ≠ "" ∧ b ≠ "" ∧ ∀ link ∈ links, link.1 ≠ a ∧ uuidIn b ≠ .ok link.2

def SameId (links : Links) (a b : String) : Prop := Linked links a b ∨ Unknown links a b

/-- The arguments of one call, with the ids of each store. -/
def SameCall (links : Links) : Call → Call → Prop
  | .saveUpstream a, .saveUpstream b => SameId links a.id b.id ∧ { a with id := b.id } = b
  | .deleteUpstream a, .deleteUpstream b => SameId links a b
  | .saveInstance a, .saveInstance b => SameId links a.id b.id ∧ SameId links a.upstreamId b.upstreamId ∧
      { a with id := b.id, upstreamId := b.upstreamId } = b
  | .deleteInstance a, .deleteInstance b => SameId links a b
  | .saveCountryRule a, .saveCountryRule b => SameId links a.upstreamId b.upstreamId ∧
      { a with upstreamId := b.upstreamId } = b
  | _, _ => False

/-- The arguments passed their check. -/
def Validated (quote upper : String → String) : Call → Prop
  | .saveUpstream upstream => ∃ request, validateUpstream quote request = .ok upstream
  | .saveInstance instance_ => ∃ request, validateInstance request = .ok instance_
  | .saveCountryRule rule => ∃ request, validateCountryRule upper request = .ok rule
  | _ => True

/-- The call creates a row that has an id. -/
def creates : Call → Bool
  | .saveUpstream upstream => upstream.id = ""
  | .saveInstance instance_ => instance_.id = ""
  | _ => false

/-- Both stores, and the ids they returned so far. -/
structure Stores (registered : Uuid → Uuid → Bool) where
  memory : Memory
  tables : StoreDb registered
  links : Links

def Stores.empty (registered : Uuid → Uuid → Bool) : Stores registered := ⟨Memory.zero, StoreDb.empty, []⟩

/-- One call of the sequence; `rowId` is the key the database generates. -/
structure Event where
  tenant : Uuid
  rowId : Uuid
  inMemory : Call
  inTables : Call
  deriving DecidableEq

section Stores

variable {registered : Uuid → Uuid → Bool}

/-- Both stores after a call: tables that fail stay as they were, and ids returned for a new
row are kept. -/
def Stores.settle (stores : Stores registered) (rowId : Uuid) (new : Bool)
    (inMemory : Memory × Except MemoryError String)
    (inTables : Except StoreError (StoreDb registered × String)) : Stores registered where
  memory := inMemory.1
  tables :=
    match inTables with
    | .ok (after, _) => after
    | .error _ => stores.tables
  links :=
    match inMemory.2, inTables with
    | .ok id, .ok _ => if new = true then (id, rowId) :: stores.links else stores.links
    | _, _ => stores.links

def Stores.step (stores : Stores registered) (event : Event) : Stores registered :=
  stores.settle event.rowId (creates event.inMemory) (stores.memory.call event.tenant event.inMemory)
    (stores.tables.call event.tenant event.rowId event.inTables)

/-- The event is a call of the sequence: validated arguments, and a key the database has
not generated before. -/
structure Given (quote upper : String → String) (stores : Stores registered) (event : Event) : Prop where
  same : SameCall stores.links event.inMemory event.inTables
  validated : Validated quote upper event.inMemory
  newLink : ∀ link ∈ stores.links, link.2 ≠ event.rowId
  newUpstream : ∀ row ∈ stores.tables.proxies.upstreams, row.id ≠ event.rowId
  newInstance : ∀ row ∈ stores.tables.proxies.instances, row.id ≠ event.rowId

/-- The states that the calls `allowed` admits lead to. -/
inductive Reaches (allowed : Stores registered → Event → Prop) : Stores registered → Prop
  | start : Reaches allowed (Stores.empty registered)
  | next {stores : Stores registered} {event : Event} :
      Reaches allowed stores → allowed stores event → Reaches allowed (stores.step event)

end Stores

/-! ## What both stores say -/

/-- The same listing entry, up to the ids. -/
def SameShown (links : Links) (a b : ShownInstance) : Prop :=
  Linked links a.id b.id ∧ Linked links a.upstreamId b.upstreamId ∧
    { a with id := b.id, upstreamId := b.upstreamId } = b

def SameRule (links : Links) (a b : CountryRule) : Prop :=
  Linked links a.upstreamId b.upstreamId ∧ { a with upstreamId := b.upstreamId } = b

/-- The stores return the same instances, of all devices or of one, and the same country
rules, in the same order, and name them by ids that correspond one to one. -/
structure SameListings {registered : Uuid → Uuid → Bool} (collate : String → String → Bool)
    (stores : Stores registered) : Prop where
  first : (stores.links.map Prod.fst).Nodup
  second : (stores.links.map Prod.snd).Nodup
  instances : ∀ tenant device, (device = "" ∨ ∃ id, device = uuidOut id) →
    ∃ shown, stores.tables.listInstances collate tenant device = .ok shown ∧
      List.Forall₂ (SameShown stores.links) (stores.memory.listInstances tenant device) shown
  rules : ∀ tenant, List.Forall₂ (SameRule stores.links) (stores.memory.countryRules tenant)
    (stores.tables.countryRules collate tenant)

/-- The listener a row stands for. -/
def asInstance (row : InstanceRow) : Instance where
  id := uuidOut row.id
  deviceId := uuidOut row.deviceId
  name := row.name
  modemImei := row.modemImei
  protocol := row.protocol
  listenAddr := row.listenAddr
  listenPort := row.listenPort
  authEnabled := row.authEnabled
  username := row.username.getD ""
  password := row.password.getD ""
  upstreamId := (row.upstreamId.map uuidOut).getD ""
  enabled := row.enabled

/-- The tenant's rows: row-level security hides the others. -/
def ownRows {registered : Uuid → Uuid → Bool} (tenant : Uuid) (db : StoreDb registered) : List InstanceRow :=
  db.proxies.instances.rows.filter fun row => row.tenantId = tenant

/-- The stored password of the listener with the id, empty for none. -/
def passwordOf (stored : List Instance) (id : String) : String :=
  ((stored.find? fun item => item.id = id).map Instance.password).getD ""

/-- The saved listener is the one entry with the id, and an empty password is the old one. -/
structure Kept (saved : Instance) (id oldPassword newPassword : String) (listed : List ShownInstance) :
    Prop where
  entry : ∀ item, item ∈ listed ∧ item.id = id ↔
    item = { showInstance saved with id := id, hasPassword := newPassword ≠ "" }
  password : newPassword = if saved.password = "" then oldPassword else saved.password

/-- A save of a listener succeeds in both stores or in neither, and is read back from both. -/
structure ReadBack {registered : Uuid → Uuid → Bool} (collate : String → String → Bool)
    (stores : Stores registered) (event : Event) : Prop where
  together : ∀ saved, event.inMemory = .saveInstance saved →
    (stores.memory.call event.tenant event.inMemory).2.toBool =
      (stores.tables.call event.tenant event.rowId event.inTables).toBool
  memory : ∀ saved id, event.inMemory = .saveInstance saved →
    (stores.memory.call event.tenant event.inMemory).2 = .ok id →
      Kept saved id (passwordOf (stores.memory.instances.of event.tenant) saved.id)
        (passwordOf ((stores.step event).memory.instances.of event.tenant) id)
        ((stores.step event).memory.listInstances event.tenant "")
  tables : ∀ saved after id, event.inTables = .saveInstance saved →
    stores.tables.call event.tenant event.rowId event.inTables = .ok (after, id) →
      ∃ shown, after.listInstances collate event.tenant "" = .ok shown ∧
        Kept saved id (passwordOf ((ownRows event.tenant stores.tables).map asInstance) saved.id)
          (passwordOf ((ownRows event.tenant after).map asInstance) id) shown

/-! ## Where the stores differ -/

section Conditions

variable {registered : Uuid → Uuid → Bool} (collate : String → String → Bool)

/-- The upstream, if one is named, is a row that both stores know. -/
def KnownUpstream (stores : Stores registered) (upstreamId : String) : Prop :=
  upstreamId = "" ∨ ∃ link ∈ stores.links, link.1 = upstreamId ∧
    ∃ row ∈ stores.tables.proxies.upstreams, row.id = link.2

/-- What the tables ask of a listener that the double takes: plain texts, a registered
device by its own spelling, a name no other listener of the tenant has and that leaves the
names in order, and an upstream that is there. -/
structure Storable (stores : Stores registered) (tenant : Uuid) (saved : Instance) : Prop where
  plain : textArguments [saved.name, saved.modemImei, saved.protocol, saved.listenAddr, saved.username,
    saved.password] = .ok ()
  device : ∃ id, saved.deviceId = uuidOut id ∧ registered tenant id = true
  name : ∀ existing ∈ stores.memory.instances.of tenant, existing.name = saved.name → existing.id = saved.id
  upstream : KnownUpstream stores saved.upstreamId
  ordered : ((stores.memory.instances.of tenant).map (fun existing =>
      if existing.id = saved.id then saved.name else existing.name) ++
    if saved.id = "" then [saved.name] else []).Pairwise (fun a b => collate a b = true)

/-- The double takes the listener: its port is free, and it is new or stored. -/
def Taken (stores : Stores registered) (tenant : Uuid) (saved : Instance) : Prop :=
  (∀ existing ∈ stores.memory.instances.of tenant, samePort saved existing = false) ∧
    (saved.id = "" ∨ ∃ existing ∈ stores.memory.instances.of tenant, existing.id = saved.id)

/-- The call meets none of the places where the stores differ. -/
def Compatible (stores : Stores registered) (event : Event) : Prop :=
  match event.inMemory, event.inTables with
  | .saveInstance saved, _ =>
    (∀ existing ∈ stores.memory.instances.of event.tenant,
      existing.id = saved.id → existing.deviceId = saved.deviceId) ∧
    (Taken stores event.tenant saved → Storable collate stores event.tenant saved)
  | .saveCountryRule rule, _ => KnownUpstream stores rule.upstreamId
  | _, .deleteUpstream id => ∀ key, uuidIn id = .ok key →
    (∃ row ∈ stores.tables.proxies.upstreams, ownUpstream event.tenant key row = true) →
      (∀ row ∈ stores.tables.proxies.instances, row.upstreamId ≠ some key) ∧
        ∀ row ∈ stores.tables.rules, row.upstreamId ≠ some key
  | _, _ => True

end Conditions

/-! ## Ids -/

section Ids

variable {links links' : Links} {a b : String}

theorem Linked.mono (sub : ∀ link ∈ links, link ∈ links') (linked : Linked links a b) :
    Linked links' a b := by
  rcases linked with none_ | ⟨link, member, same⟩
  · exact Or.inl none_
  · exact Or.inr ⟨link, sub link member, same⟩

theorem memoryId_injective {n m : Nat} (same : memoryId n = memoryId m) : n = m := by
  have lists := congrArg String.toList same
  rw [memoryId, memoryId, String.toList_append, String.toList_append, List.append_cancel_left_eq] at lists
  exact natText_injective (String.toList_inj.mp lists)

theorem memoryId_ne_empty (n : Nat) : memoryId n ≠ "" := by
  intro empty
  have lists := congrArg String.toList empty
  rw [memoryId, String.toList_append] at lists
  cases lists

/-- The ids of the double are those it has counted, and no id is in two links. -/
structure Issued (links : Links) (counted : Nat) : Prop where
  issued : ∀ link ∈ links, ∃ n ≤ counted, link.1 = memoryId n
  first : (links.map Prod.fst).Nodup
  second : (links.map Prod.snd).Nodup

variable {counted : Nat}

theorem Issued.cons {rowId : Uuid} (ids : Issued links counted) (fresh : ∀ link ∈ links, link.2 ≠ rowId) :
    Issued ((memoryId (counted + 1), rowId) :: links) (counted + 1) where
  issued := by
    intro link member
    rcases List.mem_cons.mp member with rfl | old
    · exact ⟨counted + 1, le_rfl, rfl⟩
    · obtain ⟨n, bound, same⟩ := ids.issued link old
      exact ⟨n, Nat.le_succ_of_le bound, same⟩
  first := by
    refine List.nodup_cons.mpr ⟨?_, ids.first⟩
    intro taken
    obtain ⟨link, member, same⟩ := List.mem_map.mp taken
    obtain ⟨n, bound, text⟩ := ids.issued link member
    have := memoryId_injective (text.symm.trans same)
    omega
  second := by
    refine List.nodup_cons.mpr ⟨?_, ids.second⟩
    intro taken
    obtain ⟨link, member, same⟩ := List.mem_map.mp taken
    exact fresh link member same

theorem Issued.le {more : Nat} (ids : Issued links counted) (bound : counted ≤ more) : Issued links more where
  issued := fun link member =>
    let ⟨n, small, same⟩ := ids.issued link member
    ⟨n, small.trans bound, same⟩
  first := ids.first
  second := ids.second

theorem Issued.eq_of_first {link other : String × Uuid} (ids : Issued links counted) (member : link ∈ links)
    (inLinks : other ∈ links) (same : link.1 = other.1) : link = other :=
  List.inj_on_of_nodup_map ids.first member inLinks same

theorem Issued.eq_of_second {link other : String × Uuid} (ids : Issued links counted) (member : link ∈ links)
    (inLinks : other ∈ links) (same : link.2 = other.2) : link = other :=
  List.inj_on_of_nodup_map ids.second member inLinks same

theorem Issued.ne_empty {link : String × Uuid} (ids : Issued links counted) (member : link ∈ links) :
    link.1 ≠ "" := by
  obtain ⟨n, _, same⟩ := ids.issued link member
  rw [same]
  exact memoryId_ne_empty n

/-- Corresponding ids name corresponding rows. -/
theorem SameId.names_iff {link : String × Uuid} (ids : Issued links counted) (same : SameId links a b)
    (member : link ∈ links) : link.1 = a ↔ uuidIn b = .ok link.2 := by
  rcases same with (⟨emptyA, emptyB⟩ | ⟨named, inLinks, textA, textB⟩) | ⟨_, _, absent⟩
  · rw [emptyA, emptyB]
    constructor
    · intro empty
      exact absurd empty (ids.ne_empty member)
    · intro read
      cases read
  · rw [textA, textB, uuidIn_uuidOut]
    constructor
    · intro first
      rw [ids.eq_of_first member inLinks first]
    · intro second
      rw [ids.eq_of_second member inLinks (Except.ok.inj second).symm]
  · obtain ⟨notA, notB⟩ := absent link member
    exact ⟨fun first => absurd first notA, fun second => absurd second notB⟩

/-- A call that names no row in one store names none in the other. -/
theorem SameId.empty_iff (ids : Issued links counted) (same : SameId links a b) : a = "" ↔ b = "" := by
  rcases same with (⟨emptyA, emptyB⟩ | ⟨named, inLinks, textA, textB⟩) | ⟨someA, someB, _⟩
  · exact iff_of_true emptyA emptyB
  · refine iff_of_false (textA ▸ ids.ne_empty inLinks) ?_
    intro empty
    have read := uuidIn_uuidOut named.2
    rw [← textB, empty] at read
    cases read
  · exact iff_of_false someA someB

end Ids

/-! ## Rows -/

theorem nullText_getD (text : String) : (nullText text).getD "" = text := by
  unfold nullText
  split
  · next empty => exact empty.symm
  · rfl

theorem showInstance_asInstance (row : InstanceRow) : showInstance (asInstance row) = showRow row := by
  rcases row with ⟨_, _, _, _, _, _, _, _, _, _, password, _, _⟩
  cases password with
  | none => rfl
  | some text =>
    by_cases empty : text = ""
    · simp [showInstance, asInstance, showRow, empty]
    · simp [showInstance, asInstance, showRow, empty]

theorem asInstance_new (rowId tenant device : Uuid) (saved : Instance) (upstreamId : Option Uuid) :
    asInstance (newInstance rowId tenant device saved upstreamId) =
      { saved with
        id := uuidOut rowId
        deviceId := uuidOut device
        upstreamId := (upstreamId.map uuidOut).getD "" } := by
  simp [asInstance, newInstance, nullText_getD]

theorem asInstance_set (saved : Instance) (upstreamId : Option Uuid) (row : InstanceRow) :
    asInstance (setInstance saved upstreamId row) =
      { replaceInstance saved (asInstance row) with
        id := uuidOut row.id
        deviceId := uuidOut row.deviceId
        upstreamId := (upstreamId.map uuidOut).getD "" } := by
  by_cases empty : saved.password = ""
  · simp [asInstance, setInstance, replaceInstance, nullText_getD, empty]
  · simp [asInstance, setInstance, replaceInstance, nullText_getD, empty]

/-- One listener in both stores. -/
structure SameInstance (links : Links) (item : Instance) (row : InstanceRow) : Prop where
  id : (item.id, row.id) ∈ links
  upstream : Linked links item.upstreamId (asInstance row).upstreamId
  fields : { item with id := uuidOut row.id, upstreamId := (asInstance row).upstreamId } = asInstance row

/-- One country rule in both stores. -/
structure SameRuleRow (links : Links) (rule : CountryRule) (row : RuleRow) : Prop where
  upstream : Linked links rule.upstreamId (showRule row).upstreamId
  code : rule.countryCode = row.countryCode

section Rows

variable {links links' : Links} {item : Instance} {row : InstanceRow}

theorem SameInstance.mono (sub : ∀ link ∈ links, link ∈ links') (same : SameInstance links item row) :
    SameInstance links' item row := ⟨sub _ same.id, same.upstream.mono sub, same.fields⟩

theorem SameRuleRow.mono {rule : CountryRule} {row : RuleRow} (sub : ∀ link ∈ links, link ∈ links')
    (same : SameRuleRow links rule row) : SameRuleRow links' rule row := ⟨same.upstream.mono sub, same.code⟩

theorem SameInstance.device (same : SameInstance links item row) : item.deviceId = uuidOut row.deviceId :=
  congrArg Instance.deviceId same.fields

theorem SameInstance.name (same : SameInstance links item row) : item.name = row.name :=
  congrArg Instance.name same.fields

theorem SameInstance.port (same : SameInstance links item row) : item.listenPort = row.listenPort :=
  congrArg Instance.listenPort same.fields

theorem SameInstance.password (same : SameInstance links item row) : item.password = row.password.getD "" :=
  congrArg Instance.password same.fields

theorem SameInstance.shown (same : SameInstance links item row) :
    SameShown links (showInstance item) (showRow row) := by
  refine ⟨Or.inr ⟨_, same.id, rfl, rfl⟩, same.upstream, ?_⟩
  rw [← showInstance_asInstance row, ← same.fields]
  rfl

end Rows

section Relation

variable {registered : Uuid → Uuid → Bool} {collate : String → String → Bool}

/-- The tenant's rules. -/
def ownRules (tenant : Uuid) (db : StoreDb registered) : List RuleRow :=
  db.rules.rows.filter fun row => row.tenantId = tenant

/-- Both stores hold the same listeners and rules, in the order they were created, and the
names of the listeners are in order. -/
structure Related (collate : String → String → Bool) (stores : Stores registered) : Prop where
  ids : Issued stores.links stores.memory.nextID
  instances : ∀ tenant, List.Forall₂ (SameInstance stores.links) (stores.memory.instances.of tenant)
    (ownRows tenant stores.tables)
  rules : ∀ tenant, List.Forall₂ (SameRuleRow stores.links) (stores.memory.rules.of tenant)
    (ownRules tenant stores.tables)
  ordered : ∀ tenant,
    ((stores.memory.instances.of tenant).map Instance.name).Pairwise (fun a b => collate a b = true)

variable {stores : Stores registered} {tenant : Uuid}

theorem mem_ownRows {row : InstanceRow} :
    row ∈ ownRows tenant stores.tables ↔ row ∈ stores.tables.proxies.instances ∧ row.tenantId = tenant := by
  rw [ownRows, List.mem_filter, decide_eq_true_iff]
  exact Iff.rfl

theorem mem_ownRules {row : RuleRow} :
    row ∈ ownRules tenant stores.tables ↔ row ∈ stores.tables.rules ∧ row.tenantId = tenant := by
  rw [ownRules, List.mem_filter, decide_eq_true_iff]
  exact Iff.rfl

theorem related_empty : Related collate (Stores.empty registered) where
  ids := ⟨fun _ member => absurd member List.not_mem_nil, List.nodup_nil, List.nodup_nil⟩
  instances := fun _ => .nil
  rules := fun _ => .nil
  ordered := fun _ => .nil

/-- The listener of a row, and the row of a listener. -/
theorem Related.item (related : Related collate stores) {row : InstanceRow}
    (member : row ∈ stores.tables.proxies.instances) (own : row.tenantId = tenant) :
    ∃ item ∈ stores.memory.instances.of tenant, SameInstance stores.links item row :=
  exists_left (related.instances tenant) (mem_ownRows.mpr ⟨member, own⟩)

theorem Related.row (related : Related collate stores) {item : Instance}
    (member : item ∈ stores.memory.instances.of tenant) :
    ∃ row ∈ stores.tables.proxies.instances, row.tenantId = tenant ∧ SameInstance stores.links item row := by
  obtain ⟨row, inRows, same⟩ := exists_right (related.instances tenant) member
  obtain ⟨inTable, own⟩ := mem_ownRows.mp inRows
  exact ⟨row, inTable, own, same⟩

end Relation

/-! ## The listings -/

section Listings

variable {registered : Uuid → Uuid → Bool} {collate : String → String → Bool} {stores : Stores registered}
  {tenant : Uuid}

theorem names_eq {links : Links} {items : List Instance} {rows : List InstanceRow}
    (paired : List.Forall₂ (SameInstance links) items rows) :
    items.map Instance.name = rows.map InstanceRow.name := by
  induction paired with
  | nil => rfl
  | cons same _ ih => rw [List.map_cons, List.map_cons, same.name, ih]

/-- Rows whose names are in order are listed as they stand. -/
theorem sorted_self {rows : List InstanceRow}
    (ordered : (rows.map InstanceRow.name).Pairwise (fun a b => collate a b = true)) :
    rows.insertionSort (fun a b => collate a.name b.name = true) = rows :=
  List.Pairwise.insertionSort_eq (List.pairwise_map.mp ordered)

theorem Related.rows_ordered (related : Related collate stores) (tenant : Uuid) :
    ((ownRows tenant stores.tables).map InstanceRow.name).Pairwise (fun a b => collate a b = true) := by
  rw [← names_eq (related.instances tenant)]
  exact related.ordered tenant

theorem listAll_eq (related : Related collate stores) :
    stores.tables.listInstances collate tenant "" = .ok ((ownRows tenant stores.tables).map showRow) := by
  unfold StoreDb.listInstances ProxyDb.listInstances
  dsimp only
  rw [if_pos rfl]
  have every : stores.tables.proxies.instances.rows.filter
      (fun row => (row.tenantId = tenant : Bool) && true) = ownRows tenant stores.tables :=
    List.filter_congr fun row _ => Bool.and_true _
  rw [every, sorted_self (related.rows_ordered tenant)]
  rfl

theorem listDevice_eq (related : Related collate stores) (device : Uuid) :
    stores.tables.listInstances collate tenant (uuidOut device) =
      .ok (((ownRows tenant stores.tables).filter fun row => row.deviceId = device).map showRow) := by
  have named : uuidOut device ≠ "" := uuidIn_ne_empty (uuidIn_uuidOut device)
  unfold StoreDb.listInstances ProxyDb.listInstances
  dsimp only
  rw [if_neg named, uuidIn_uuidOut]
  have chosen : stores.tables.proxies.instances.rows.filter
      (fun row => (row.tenantId = tenant : Bool) && (row.deviceId = device : Bool)) =
      (ownRows tenant stores.tables).filter fun row => row.deviceId = device := by
    rw [ownRows, List.filter_filter]
    exact List.filter_congr fun row _ => Bool.and_comm _ _
  have ordered : (((ownRows tenant stores.tables).filter fun row => row.deviceId = device).map
      InstanceRow.name).Pairwise (fun a b => collate a b = true) :=
    List.Pairwise.sublist (List.filter_sublist.map _) (related.rows_ordered tenant)
  show Except.ok (List.map showRow (List.insertionSort _ _)) = _
  rw [chosen, sorted_self ordered]

theorem memoryList_all (store : Memory) :
    store.listInstances tenant "" = (store.instances.of tenant).map showInstance := by
  unfold Memory.listInstances
  rw [List.filter_eq_self.mpr fun _ _ => by simp]

/-- The double and the tables list the same. The collation orders two country codes as
their letters do. -/
theorem Related.sameListings
    (alphabetical : ∀ a b, isCode a = true → isCode b = true → (collate a b = true ↔ a ≤ b))
    (related : Related collate stores) : SameListings collate stores where
  first := related.ids.first
  second := related.ids.second
  instances := by
    rintro tenant device (rfl | ⟨id, rfl⟩)
    · refine ⟨_, listAll_eq related, ?_⟩
      rw [memoryList_all]
      exact map_paired (fun _ _ same => same.shown) (related.instances tenant)
    · refine ⟨_, listDevice_eq related id, ?_⟩
      have named : uuidOut id ≠ "" := uuidIn_ne_empty (uuidIn_uuidOut id)
      have agree : ∀ item row, SameInstance stores.links item row →
          (decide (uuidOut id = "") || decide (item.deviceId = uuidOut id)) = decide (row.deviceId = id) := by
        intro item row same
        rw [decide_eq_false named, Bool.false_or, same.device]
        exact decide_eq_decide.mpr ⟨fun text => uuidOut_injective text, fun equal => by rw [equal]⟩
      exact map_paired (fun _ _ same => same.shown) (filter_paired agree (related.instances tenant))
  rules := by
    intro tenant
    have paired : List.Forall₂ (SameRuleRow stores.links) (stores.memory.countryRules tenant)
        ((ownRules tenant stores.tables).insertionSort
          (fun a b => collate a.countryCode b.countryCode = true)) := by
      refine insertionSort_paired (fun a _ a' _ b inB b' inB' same same' => ?_) (related.rules tenant)
      have codes := alphabetical b.countryCode b'.countryCode
        (stores.tables.codes b (mem_ownRules.mp inB).1) (stores.tables.codes b' (mem_ownRules.mp inB').1)
      rw [codes, same.code, same'.code]
    refine List.forall₂_map_right_iff.mpr (paired.imp fun rule row same => ⟨same.upstream, ?_⟩)
    rcases rule with ⟨code, upstreamId⟩
    exact congrArg (CountryRule.mk · (showRule row).upstreamId) same.code

end Listings

/-! ## The double, call by call -/

section Double

variable {store : Memory} {tenant : Uuid}

theorem replaceFirst_eq {α : Type} {hit : α → Bool} {change : α → α} {list : List α}
    (once : list.Pairwise fun a b => ¬ (hit a = true ∧ hit b = true)) :
    replaceFirst hit change list =
      if list.any hit = true then some (list.map fun x => if hit x = true then change x else x) else none := by
  induction list with
  | nil => rfl
  | cons x rest ih =>
    obtain ⟨only, later⟩ := List.pairwise_cons.mp once
    unfold replaceFirst
    by_cases first : hit x = true
    · have others : rest.map (fun y => if hit y = true then change y else y) = rest := by
        conv_rhs => rw [← List.map_id rest]
        exact List.map_congr_left fun y member => if_neg fun second => only y member ⟨first, second⟩
      rw [if_pos first, List.any_cons, first, Bool.true_or, if_pos rfl, List.map_cons, if_pos first, others]
    · rw [if_neg first, ih later, List.any_cons, eq_false_of_ne_true first, Bool.false_or]
      by_cases found : rest.any hit = true
      · rw [if_pos found, if_pos found, List.map_cons, if_neg first]
        rfl
      · rw [if_neg found, if_neg found]
        rfl

/-- The calls on upstreams leave the listeners and the rules alone. -/
theorem saveUpstream_quiet (upstream : Upstream) :
    (store.saveUpstream tenant upstream).1.instances = store.instances ∧
      (store.saveUpstream tenant upstream).1.rules = store.rules := by
  unfold Memory.saveUpstream
  dsimp only
  split
  · exact ⟨rfl, rfl⟩
  · split
    · exact ⟨rfl, rfl⟩
    · exact ⟨rfl, rfl⟩

theorem deleteUpstream_quiet (id : String) :
    (store.deleteUpstream tenant id).1.instances = store.instances ∧
      (store.deleteUpstream tenant id).1.rules = store.rules := by
  unfold Memory.deleteUpstream
  split
  · exact ⟨rfl, rfl⟩
  · exact ⟨rfl, rfl⟩

/-- The listeners of the double after a save, and what the save returns. -/
inductive SavedInstance (tenant : Uuid) (saved : Instance) (store : Memory) :
    Memory × Except MemoryError String → Prop
  | samePort {existing : Instance} (member : existing ∈ store.instances.of tenant)
      (taken : samePort saved existing = true) :
      SavedInstance tenant saved store ({ store with instances := store.instances.made },
        .error (.invalid "another instance on this device already uses that port"))
  | absent (free : ∀ existing ∈ store.instances.of tenant, samePort saved existing = false)
      (named : saved.id ≠ "") (missing : ∀ existing ∈ store.instances.of tenant, existing.id ≠ saved.id) :
      SavedInstance tenant saved store ({ store with instances := store.instances.made },
        .error (.invalid "no such instance"))
  | created (free : ∀ existing ∈ store.instances.of tenant, samePort saved existing = false)
      (new : saved.id = "") :
      SavedInstance tenant saved store
        ({ store with
            instances := store.instances.made.put tenant
              (store.instances.of tenant ++ [{ saved with id := memoryId (store.nextID + 1) }])
            nextID := store.nextID + 1 },
          .ok (memoryId (store.nextID + 1)))
  | replaced (free : ∀ existing ∈ store.instances.of tenant, samePort saved existing = false)
      (named : saved.id ≠ "") (present : ∃ existing ∈ store.instances.of tenant, existing.id = saved.id) :
      SavedInstance tenant saved store
        ({ store with
            instances := store.instances.made.put tenant ((store.instances.of tenant).map fun existing =>
              if existing.id = saved.id then replaceInstance saved existing else existing) },
          .ok saved.id)

theorem saveInstance_saved {saved : Instance} (ids : ((store.instances.of tenant).map Instance.id).Nodup) :
    SavedInstance tenant saved store (store.saveInstance tenant saved) := by
  have once : (store.instances.of tenant).Pairwise fun a b =>
      ¬ ((decide (a.id = saved.id)) = true ∧ (decide (b.id = saved.id)) = true) := by
    refine (List.pairwise_map.mp ids).imp fun differs hits => ?_
    exact differs ((of_decide_eq_true hits.1).trans (of_decide_eq_true hits.2).symm)
  unfold Memory.saveInstance
  dsimp only
  rw [Slices.of_made]
  by_cases port : (store.instances.of tenant).any (samePort saved) = true
  · obtain ⟨existing, member, taken⟩ := List.any_eq_true.mp port
    rw [if_pos port]
    exact .samePort member taken
  · have free : ∀ existing ∈ store.instances.of tenant, samePort saved existing = false := by
      intro existing member
      exact eq_false_of_ne_true fun taken => port (List.any_eq_true.mpr ⟨existing, member, taken⟩)
    rw [if_neg port]
    by_cases new : saved.id = ""
    · rw [if_pos new]
      exact .created free new
    · rw [if_neg new, replaceFirst_eq once]
      by_cases found : (store.instances.of tenant).any (fun existing => decide (existing.id = saved.id)) = true
      · obtain ⟨existing, member, same⟩ := List.any_eq_true.mp found
        rw [if_pos found]
        simp only [decide_eq_true_eq]
        exact .replaced free new ⟨existing, member, of_decide_eq_true same⟩
      · rw [if_neg found]
        refine .absent free new fun existing member same => found ?_
        exact List.any_eq_true.mpr ⟨existing, member, decide_eq_true same⟩

/-- A call counts an id exactly when it creates a row. -/
theorem call_counts (call : Call) :
    store.nextID ≤ (store.call tenant call).1.nextID ∧
      (creates call = true → ∀ id, (store.call tenant call).2 = .ok id →
        id = memoryId (store.nextID + 1) ∧ (store.call tenant call).1.nextID = store.nextID + 1) := by
  cases call with
  | saveUpstream upstream =>
    unfold Memory.call Memory.saveUpstream
    dsimp only
    by_cases new : upstream.id = ""
    · rw [if_pos new]
      exact ⟨Nat.le_succ _, fun _ id same => ⟨(Except.ok.inj same).symm, rfl⟩⟩
    · rw [if_neg new]
      refine ⟨?_, fun creating => absurd (of_decide_eq_true creating) new⟩
      split
      · exact le_rfl
      · exact le_rfl
  | saveInstance saved =>
    unfold Memory.call Memory.saveInstance
    dsimp only
    split
    · exact ⟨le_rfl, fun _ id same => by cases same⟩
    · by_cases new : saved.id = ""
      · rw [if_pos new]
        exact ⟨Nat.le_succ _, fun _ id same => ⟨(Except.ok.inj same).symm, rfl⟩⟩
      · rw [if_neg new]
        refine ⟨?_, fun creating => absurd (of_decide_eq_true creating) new⟩
        split
        · exact le_rfl
        · exact le_rfl
  | saveCountryRule rule =>
    refine ⟨?_, fun creating => absurd creating Bool.false_ne_true⟩
    unfold Memory.call Memory.saveCountryRule
    dsimp only
    split
    · exact le_rfl
    · exact le_rfl
  | deleteUpstream id =>
    refine ⟨?_, fun creating => absurd creating Bool.false_ne_true⟩
    unfold Memory.call Memory.deleteUpstream
    dsimp only
    split
    · exact le_rfl
    · exact le_rfl
  | deleteInstance id =>
    refine ⟨?_, fun creating => absurd creating Bool.false_ne_true⟩
    unfold Memory.call Memory.deleteInstance
    dsimp only
    split
    · exact le_rfl
    · exact le_rfl

/-- The other listeners stay when one is deleted. -/
theorem deleteInstance_of (id : String) (other : Uuid) :
    (store.deleteInstance tenant id).1.instances.of other =
      if other = tenant then (store.instances.of tenant).filter fun existing => existing.id ≠ id
      else store.instances.of other := by
  unfold Memory.deleteInstance
  by_cases nil : store.instances.isNone = true
  · rw [if_pos nil]
    have empty : ∀ owner, store.instances.of owner = [] := by
      intro owner
      rw [Slices.of, Option.isNone_iff_eq_none.mp nil]
      rfl
    dsimp only
    rw [empty, empty, List.filter_nil, ite_self]
  · rw [if_neg nil]
    exact Slices.of_put tenant other _ _

/-- The rules of the double after a save: the rule of the code is replaced, or added. -/
theorem saveCountryRule_of {rule : CountryRule} (other : Uuid)
    (codes : ((store.rules.of tenant).map CountryRule.countryCode).Nodup) :
    (store.saveCountryRule tenant rule).1.rules.of other =
      if other = tenant then
        if (store.rules.of tenant).any (fun existing => existing.countryCode = rule.countryCode) = true then
          (store.rules.of tenant).map fun existing =>
            if existing.countryCode = rule.countryCode then rule else existing
        else store.rules.of tenant ++ [rule]
      else store.rules.of other := by
  have once : (store.rules.of tenant).Pairwise fun a b =>
      ¬ ((decide (a.countryCode = rule.countryCode)) = true ∧
        (decide (b.countryCode = rule.countryCode)) = true) := by
    refine (List.pairwise_map.mp codes).imp fun differs hits => ?_
    exact differs ((of_decide_eq_true hits.1).trans (of_decide_eq_true hits.2).symm)
  unfold Memory.saveCountryRule
  dsimp only
  rw [Slices.of_made, replaceFirst_eq once]
  by_cases found : (store.rules.of tenant).any
      (fun existing => decide (existing.countryCode = rule.countryCode)) = true
  · rw [if_pos found, if_pos found]
    simp only [decide_eq_true_eq]
    rw [Slices.of_put, Slices.of_made]
  · rw [if_neg found, if_neg found]
    dsimp only
    rw [Slices.of_put, Slices.of_made]

end Double

/-! ## The ids of a call -/

section StepIds

variable {registered : Uuid → Uuid → Bool} {stores : Stores registered} {event : Event}

theorem links_settle {new : Bool} {inMemory : Memory × Except MemoryError String}
    {inTables : Except StoreError (StoreDb registered × String)} :
    ∀ link ∈ stores.links, link ∈ (stores.settle event.rowId new inMemory inTables).links := by
  intro link member
  unfold Stores.settle
  dsimp only
  split
  · split
    · exact List.mem_cons_of_mem _ member
    · exact member
  · exact member

theorem issued_step (ids : Issued stores.links stores.memory.nextID)
    (fresh : ∀ link ∈ stores.links, link.2 ≠ event.rowId) :
    Issued (stores.step event).links (stores.step event).memory.nextID := by
  obtain ⟨grows, counts⟩ := @call_counts stores.memory event.tenant event.inMemory
  unfold Stores.step Stores.settle
  dsimp only
  split
  · next id _ returned _ =>
    by_cases new : creates event.inMemory = true
    · obtain ⟨text, counted⟩ := counts new id returned
      rw [if_pos new, counted, text]
      exact ids.cons fresh
    · rw [if_neg new]
      exact ids.le grows
  · exact ids.le grows

/-- What holds of the tables as they were and of those a call leaves holds after a step. -/
theorem tables_step {P : StoreDb registered → Prop} (before : P stores.tables)
    (done : ∀ after text, stores.tables.call event.tenant event.rowId event.inTables = .ok (after, text) → P after) :
    P (stores.step event).tables := by
  unfold Stores.step Stores.settle
  dsimp only
  split
  · next after text returned => exact done after text returned
  · exact before

end StepIds

/-! ## The tables, call by call -/

section Tables

variable {registered : Uuid → Uuid → Bool} {db after : StoreDb registered} {tenant rowId : Uuid}
  {saved : Instance} {upstreamId : Option Uuid}

theorem check_of_valid {upstreams : Table UpstreamRow.id} {instances : Table InstanceRow.id}
    (valid : Constraints registered upstreams instances) :
    ProxyDb.check registered upstreams instances = .ok ⟨upstreams, instances, valid⟩ := by
  unfold ProxyDb.check
  rw [dif_pos valid.upstreamProtocol, dif_pos valid.instanceProtocol, dif_pos valid.port,
    dif_pos valid.upstreamName, dif_pos valid.instanceName, dif_pos valid.devicePort,
    dif_pos valid.device, dif_pos valid.upstream]

theorem storeCheck_ok {proxies : ProxyDb registered} {rules : Table RuleRow.key}
    (checked : StoreDb.check proxies rules = .ok after) : after.proxies = proxies ∧ after.rules = rules := by
  unfold StoreDb.check at checked
  split at checked
  · split at checked
    · cases checked
      exact ⟨rfl, rfl⟩
    · cases checked
  · cases checked

theorem storeCheck_of {proxies : ProxyDb registered} {rules : Table RuleRow.key}
    (codes : ∀ row ∈ rules, isCode row.countryCode = true)
    (known : ∀ row ∈ rules,
      row.upstreamId.all (fun id => ∃ other ∈ proxies.upstreams, other.id = id) = true) :
    StoreDb.check proxies rules = .ok ⟨proxies, rules, codes, known⟩ := by
  unfold StoreDb.check
  rw [dif_pos codes, dif_pos known]

/-- What `ValidateInstance` lets through meets the CHECK constraints. -/
theorem validateInstance_sound {request : Instance} (valid : validateInstance request = .ok saved) :
    knownProtocol saved.protocol = true ∧ 1 ≤ saved.listenPort ∧ saved.listenPort ≤ 65535 := by
  obtain ⟨protocol, _, low, high, _⟩ := validateInstance_checked valid
  exact ⟨protocol, by omega, high⟩

/-- The constraints hold of the tables with a new listener. -/
theorem created_valid {device : Uuid}
    (fresh : ∀ other ∈ db.proxies.instances, other.id ≠ (newInstance rowId tenant device saved upstreamId).id)
    (protocol : knownProtocol saved.protocol = true)
    (port : 1 ≤ saved.listenPort ∧ saved.listenPort ≤ 65535)
    (name : ∀ row ∈ db.proxies.instances, row.tenantId = tenant → row.name ≠ saved.name)
    (free : ∀ row ∈ db.proxies.instances, row.tenantId = tenant → row.deviceId = device →
      row.listenPort ≠ saved.listenPort)
    (known : registered tenant device = true)
    (upstream : upstreamId.all (fun id => ∃ other ∈ db.proxies.upstreams, other.id = id) = true) :
    Constraints registered db.proxies.upstreams
      (db.proxies.instances.insert (newInstance rowId tenant device saved upstreamId) fresh) where
  upstreamProtocol := db.proxies.valid.upstreamProtocol
  upstreamName := db.proxies.valid.upstreamName
  instanceProtocol := Table.forall_insert db.proxies.valid.instanceProtocol protocol
  port := Table.forall_insert db.proxies.valid.port port
  instanceName := by
    intro a inA b inB tenants names
    refine Table.unique_insert (P := fun a b => a.tenantId = b.tenantId ∧ a.name = b.name)
      (fun _ _ same => ⟨same.1.symm, same.2.symm⟩)
      (fun a inA b inB same => db.proxies.valid.instanceName a inA b inB same.1 same.2)
      (fun row member same => name row member same.1 same.2) a inA b inB ⟨tenants, names⟩
  devicePort := by
    intro a inA b inB tenants devices ports
    refine Table.unique_insert
      (P := fun a b => a.tenantId = b.tenantId ∧ a.deviceId = b.deviceId ∧ a.listenPort = b.listenPort)
      (fun _ _ same => ⟨same.1.symm, same.2.1.symm, same.2.2.symm⟩)
      (fun a inA b inB same => db.proxies.valid.devicePort a inA b inB same.1 same.2.1 same.2.2)
      (fun row member same => free row member same.1 same.2.1 same.2.2) a inA b inB ⟨tenants, devices, ports⟩
  device := Table.forall_insert db.proxies.valid.device known
  upstream := Table.forall_insert db.proxies.valid.upstream upstream

/-- The constraints hold of the tables with a changed listener. -/
theorem updated_valid {id : Uuid} (protocol : knownProtocol saved.protocol = true)
    (port : 1 ≤ saved.listenPort ∧ saved.listenPort ≤ 65535)
    (name : ∀ row ∈ db.proxies.instances, row.tenantId = tenant → row.id ≠ id → row.name ≠ saved.name)
    (free : ∀ own ∈ db.proxies.instances, own.id = id → ∀ row ∈ db.proxies.instances,
      row.tenantId = tenant → row.id ≠ id → row.deviceId = own.deviceId → row.listenPort ≠ saved.listenPort)
    (upstream : upstreamId.all (fun id => ∃ other ∈ db.proxies.upstreams, other.id = id) = true) :
    Constraints registered db.proxies.upstreams
      (db.proxies.instances.update (ownInstance tenant id) (setInstance saved upstreamId)
        (setInstance_id saved upstreamId)) := by
  have once : ∀ a ∈ db.proxies.instances, ∀ b ∈ db.proxies.instances,
      ownInstance tenant id a = true → ownInstance tenant id b = true → a = b := by
    intro a inA b inB ownA ownB
    exact Table.eq_of_key inA inB ((ownInstance_iff.mp ownA).1.trans (ownInstance_iff.mp ownB).1.symm)
  have differs : ∀ own, ownInstance tenant id own = true → ∀ row, ownInstance tenant id row = false →
      own.tenantId = row.tenantId → row.tenantId = tenant ∧ row.id ≠ id := by
    intro own ownOwn row other tenants
    have ofTenant : row.tenantId = tenant := tenants.symm.trans (ownInstance_iff.mp ownOwn).2
    refine ⟨ofTenant, fun same => ?_⟩
    rw [ownInstance_iff.mpr ⟨same, ofTenant⟩] at other
    cases other
  constructor
  · exact db.proxies.valid.upstreamProtocol
  · exact Table.forall_update db.proxies.valid.instanceProtocol fun _ _ => protocol
  · exact Table.forall_update db.proxies.valid.port fun _ _ => port
  · exact db.proxies.valid.upstreamName
  · intro a inA b inB tenants names
    refine Table.unique_update (P := fun a b => a.tenantId = b.tenantId ∧ a.name = b.name)
      (fun _ _ same => ⟨same.1.symm, same.2.symm⟩)
      (fun a inA b inB same => db.proxies.valid.instanceName a inA b inB same.1 same.2) once
      ?_ a inA b inB ⟨tenants, names⟩
    intro own inOwn hit row inRow miss same
    obtain ⟨ofTenant, other⟩ := differs own hit row miss same.1
    exact name row inRow ofTenant other same.2.symm
  · intro a inA b inB tenants devices ports
    refine Table.unique_update
      (P := fun a b => a.tenantId = b.tenantId ∧ a.deviceId = b.deviceId ∧ a.listenPort = b.listenPort)
      (fun _ _ same => ⟨same.1.symm, same.2.1.symm, same.2.2.symm⟩)
      (fun a inA b inB same => db.proxies.valid.devicePort a inA b inB same.1 same.2.1 same.2.2) once
      ?_ a inA b inB ⟨tenants, devices, ports⟩
    intro own inOwn hit row inRow miss same
    obtain ⟨ofTenant, other⟩ := differs own hit row miss same.1
    exact free own inOwn (ownInstance_iff.mp hit).1 row inRow ofTenant other same.2.1.symm same.2.2.symm
  · exact Table.forall_update db.proxies.valid.device fun _ kept => kept
  · exact Table.forall_update db.proxies.valid.upstream fun _ _ => upstream

/-- A save of a new listener that meets the constraints. -/
theorem saveInstance_created {device : Uuid}
    (plain : textArguments [saved.name, saved.modemImei, saved.protocol, saved.listenAddr, saved.username,
      saved.password] = .ok ())
    (chained : nullUuid saved.upstreamId = .ok upstreamId) (new : saved.id = "")
    (named : uuidIn saved.deviceId = .ok device)
    (fresh : ∀ other ∈ db.proxies.instances, other.id ≠ rowId)
    (valid : Constraints registered db.proxies.upstreams
      (db.proxies.instances.insert (newInstance rowId tenant device saved upstreamId) fresh)) :
    db.saveInstance tenant rowId saved =
      .ok (⟨⟨db.proxies.upstreams, db.proxies.instances.insert _ fresh, valid⟩, db.rules, db.codes, db.known⟩,
        uuidOut rowId) := by
  have proxies : db.proxies.saveInstance tenant rowId saved =
      .ok (⟨db.proxies.upstreams, db.proxies.instances.insert _ fresh, valid⟩, rowId) := by
    unfold ProxyDb.saveInstance
    rw [plain, chained]
    show (if saved.id = "" then _ else _) = _
    rw [if_pos new, named]
    show (if fresh : _ then _ else _) = _
    rw [dif_pos fresh, check_of_valid valid]
    rfl
  have stored := @storeCheck_of registered ⟨_, _, valid⟩ db.rules db.codes db.known
  unfold StoreDb.saveInstance
  rw [proxies, ok_bind]
  dsimp only
  rw [stored]
  rfl

/-- A save of a stored listener that meets the constraints. -/
theorem saveInstance_updated {id : Uuid}
    (plain : textArguments [saved.name, saved.modemImei, saved.protocol, saved.listenAddr, saved.username,
      saved.password] = .ok ())
    (chained : nullUuid saved.upstreamId = .ok upstreamId) (named : saved.id ≠ "")
    (read : uuidIn saved.id = .ok id)
    (present : ∃ row ∈ db.proxies.instances, ownInstance tenant id row = true)
    (valid : Constraints registered db.proxies.upstreams
      (db.proxies.instances.update (ownInstance tenant id) (setInstance saved upstreamId)
        (setInstance_id saved upstreamId))) :
    db.saveInstance tenant rowId saved =
      .ok (⟨⟨db.proxies.upstreams, db.proxies.instances.update _ _ (setInstance_id saved upstreamId), valid⟩,
        db.rules, db.codes, db.known⟩, uuidOut id) := by
  have proxies : db.proxies.saveInstance tenant rowId saved =
      .ok (⟨db.proxies.upstreams, db.proxies.instances.update _ _ (setInstance_id saved upstreamId), valid⟩,
        id) := by
    unfold ProxyDb.saveInstance
    rw [plain, chained]
    show (if saved.id = "" then _ else _) = _
    rw [if_neg named, read]
    show (if ∃ row ∈ db.proxies.instances, ownInstance tenant id row = true then _ else _) = _
    rw [if_pos present, check_of_valid valid]
    rfl
  have stored := @storeCheck_of registered ⟨_, _, valid⟩ db.rules db.codes db.known
  unfold StoreDb.saveInstance
  rw [proxies, ok_bind]
  dsimp only
  rw [stored]
  rfl

end Tables

/-! ## A saved listener -/

/-- The argument the tables get. -/
def forTables (saved : Instance) (id upstreamId : String) : Instance :=
  { saved with id := id, upstreamId := upstreamId }

section SaveInstance

variable {registered : Uuid → Uuid → Bool} {collate : String → String → Bool} {stores : Stores registered}
  {tenant rowId : Uuid} {saved : Instance} {id upstreamId : String}

theorem Related.itemIds_nodup (related : Related collate stores) (tenant : Uuid) :
    ((stores.memory.instances.of tenant).map Instance.id).Nodup := by
  have rows : (ownRows tenant stores.tables).Pairwise (fun a b => a.id ≠ b.id) :=
    (List.pairwise_map.mp stores.tables.proxies.instances.unique).sublist List.filter_sublist
  refine List.pairwise_map.mpr (pairwise_paired (fun a a' b b' same same' differs equal => ?_)
    (related.instances tenant) rows)
  exact differs (congrArg Prod.snd (related.ids.eq_of_first same.id same'.id equal))

/-- An upstream that both stores know is one the tables can name. -/
theorem known_upstream {a b : String} (related : Related collate stores) (same : SameId stores.links a b)
    (known : KnownUpstream stores a) :
    ∃ key, nullUuid b = .ok key ∧ b = (key.map uuidOut).getD "" ∧ Linked stores.links a b ∧
      key.all (fun id => ∃ other ∈ stores.tables.proxies.upstreams, other.id = id) = true := by
  rcases known with empty | ⟨link, member, text, row, inTable, sameRow⟩
  · have emptyB := (same.empty_iff related.ids).mp empty
    refine ⟨none, ?_, emptyB, Or.inl ⟨empty, emptyB⟩, rfl⟩
    rw [emptyB]
    rfl
  · rcases same with (⟨empty, _⟩ | ⟨other, inLinks, textA, textB⟩) | ⟨_, _, absent⟩
    · exact absurd (text.trans empty) (related.ids.ne_empty member)
    · have equal := related.ids.eq_of_first inLinks member (textA.symm.trans text.symm)
      subst equal
      refine ⟨some other.2, ?_, textB, Or.inr ⟨other, inLinks, textA, textB⟩, ?_⟩
      · unfold nullUuid
        rw [textB, if_neg (uuidIn_ne_empty (uuidIn_uuidOut other.2)), uuidIn_uuidOut]
        rfl
      · rw [Option.all_some]
        exact decide_eq_true ⟨row, inTable, sameRow⟩
    · exact absurd text (absent link member).1

/-- What a save that the tables take says of the rows. -/
theorem saveInstance_rows {saved : Instance} {after : StoreDb registered} {text : String}
    (done : stores.tables.saveInstance tenant rowId saved = .ok (after, text)) :
    ∃ proxies key, stores.tables.proxies.saveInstance tenant rowId saved = .ok (proxies, key) ∧
      after.proxies = proxies ∧ after.rules = stores.tables.rules ∧ text = uuidOut key := by
  obtain ⟨⟨proxies, key⟩, first, rest⟩ := bind_success done
  obtain ⟨written, checked, returned⟩ := bind_success rest
  cases returned
  obtain ⟨sameProxies, sameRules⟩ := storeCheck_ok (server_ok checked)
  exact ⟨proxies, key, first, sameProxies, sameRules, rfl⟩

/-- The double has the listener that the tables change. -/
theorem Related.named (related : Related collate stores) (same : SameId stores.links saved.id id) {key : Uuid}
    {target : InstanceRow} (member : target ∈ stores.tables.proxies.instances)
    (own : ownInstance tenant key target = true) (read : uuidIn id = .ok key) :
    ∃ item ∈ stores.memory.instances.of tenant, SameInstance stores.links item target ∧ item.id = saved.id := by
  obtain ⟨isKey, ofTenant⟩ := ownInstance_iff.mp own
  obtain ⟨item, inItems, sameTarget⟩ := related.item member ofTenant
  exact ⟨item, inItems, sameTarget, (same.names_iff related.ids sameTarget.id).mpr (isKey ▸ read)⟩

/-- The tables refuse a port that the double refuses, on the device the listener is on. -/
theorem samePort_refused (related : Related collate stores) (same : SameId stores.links saved.id id)
    (unmoved : ∀ existing ∈ stores.memory.instances.of tenant,
      existing.id = saved.id → existing.deviceId = saved.deviceId)
    {existing : Instance} (member : existing ∈ stores.memory.instances.of tenant)
    (taken : samePort saved existing = true) {after : StoreDb registered} {text : String} :
    stores.tables.saveInstance tenant rowId (forTables saved id upstreamId) ≠ .ok (after, text) := by
  intro done
  obtain ⟨proxies, key, written, _⟩ := saveInstance_rows done
  obtain ⟨row, inTable, own, sameRow⟩ := related.row member
  obtain ⟨⟨device, port⟩, other⟩ := samePort_iff.mp taken
  have rowPort : row.listenPort = saved.listenPort := sameRow.port.symm.trans port
  obtain ⟨_, upstream, _, rows⟩ := saveInstance_cases written
  rcases rows with ⟨_, fresh, target, named, rows⟩ | ⟨_, named, ⟨target, inTargets, ownTarget⟩, rows⟩
  · have read : uuidIn (uuidOut row.deviceId) = .ok target := by
      rw [← sameRow.device, device]
      exact named
    rw [uuidIn_uuidOut] at read
    have equal := proxies.valid.devicePort row ((rows row).mpr (Or.inl inTable)) _
      ((rows _).mpr (Or.inr rfl)) own (Except.ok.inj read) rowPort
    exact fresh row inTable (congrArg InstanceRow.id equal)
  · have ofTenant := (ownInstance_iff.mp ownTarget).2
    obtain ⟨item, inItems, sameTarget, itemId⟩ := related.named same inTargets ownTarget named
    have sameDevice : target.deviceId = row.deviceId := uuidOut_injective
      (sameTarget.device.symm.trans ((unmoved item inItems itemId).trans (device.symm.trans sameRow.device)))
    have differs : row.id ≠ key := fun equal =>
      other ((same.names_iff related.ids sameRow.id).mpr (by rw [equal]; exact named))
    have inAfter : row ∈ proxies.instances := by
      rw [rows]
      exact Table.mem_update.mpr ⟨row, inTable, (if_neg (by simp [ownInstance, differs])).symm⟩
    have targetAfter : setInstance (forTables saved id upstreamId) upstream target ∈ proxies.instances := by
      rw [rows]
      exact Table.mem_update.mpr ⟨target, inTargets, (if_pos ownTarget).symm⟩
    have equal := proxies.valid.devicePort row inAfter _ targetAfter (own.trans ofTenant.symm)
      sameDevice.symm rowPort
    exact differs ((congrArg InstanceRow.id equal).trans (ownInstance_iff.mp ownTarget).1)

/-- The tables refuse an id that the double does not have. -/
theorem absent_refused (related : Related collate stores) (same : SameId stores.links saved.id id)
    (named : saved.id ≠ "") (missing : ∀ existing ∈ stores.memory.instances.of tenant, existing.id ≠ saved.id)
    {after : StoreDb registered} {text : String} :
    stores.tables.saveInstance tenant rowId (forTables saved id upstreamId) ≠ .ok (after, text) := by
  intro done
  obtain ⟨proxies, key, written, _⟩ := saveInstance_rows done
  obtain ⟨_, _, _, rows⟩ := saveInstance_cases written
  rcases rows with ⟨new, _⟩ | ⟨_, read, ⟨target, inTargets, ownTarget⟩, _⟩
  · exact named ((same.empty_iff related.ids).mpr new)
  · obtain ⟨item, inItems, _, itemId⟩ := related.named same inTargets ownTarget read
    exact missing item inItems itemId

end SaveInstance

section SaveTaken

variable {registered : Uuid → Uuid → Bool} {collate : String → String → Bool} {stores : Stores registered}
  {tenant rowId : Uuid} {saved : Instance} {id upstreamId : String}

/-- A new listener that the double takes and the tables can store is stored in both. -/
theorem created_stored (related : Related collate stores) (same : SameId stores.links saved.id id)
    (chained : SameId stores.links saved.upstreamId upstreamId) (new : saved.id = "")
    (valid : knownProtocol saved.protocol = true ∧ 1 ≤ saved.listenPort ∧ saved.listenPort ≤ 65535)
    (fresh : ∀ other ∈ stores.tables.proxies.instances, other.id ≠ rowId)
    (free : ∀ existing ∈ stores.memory.instances.of tenant, samePort saved existing = false)
    (storable : Storable collate stores tenant saved) :
    ∃ after row, stores.tables.saveInstance tenant rowId (forTables saved id upstreamId) =
        .ok (after, uuidOut rowId) ∧ after.rules = stores.tables.rules ∧
      after.proxies.instances.rows = stores.tables.proxies.instances.rows ++ [row] ∧
      row.id = rowId ∧ row.tenantId = tenant ∧ Linked stores.links saved.upstreamId upstreamId ∧
      asInstance row = { saved with id := uuidOut rowId, upstreamId := upstreamId } := by
  obtain ⟨device, spelled, known⟩ := storable.device
  obtain ⟨key, read, text, linked, there⟩ := known_upstream related chained storable.upstream
  have newTables : id = "" := (same.empty_iff related.ids).mp new
  have named : uuidIn saved.deviceId = .ok device := by rw [spelled, uuidIn_uuidOut]
  have names : ∀ row ∈ stores.tables.proxies.instances, row.tenantId = tenant → row.name ≠ saved.name := by
    intro row inTable own equal
    obtain ⟨item, inItems, sameRow⟩ := related.item inTable own
    have itemId := storable.name item inItems (sameRow.name.trans equal)
    exact related.ids.ne_empty sameRow.id (itemId.trans new)
  have ports : ∀ row ∈ stores.tables.proxies.instances, row.tenantId = tenant → row.deviceId = device →
      row.listenPort ≠ saved.listenPort := by
    intro row inTable own onDevice equal
    obtain ⟨item, inItems, sameRow⟩ := related.item inTable own
    have itemDevice : item.deviceId = saved.deviceId := by rw [sameRow.device, spelled, onDevice]
    have itemId : item.id ≠ saved.id := new ▸ related.ids.ne_empty sameRow.id
    exact Bool.eq_false_iff.mp (free item inItems)
      (samePort_iff.mpr ⟨⟨itemDevice, sameRow.port.trans equal⟩, itemId⟩)
  have constraints := @created_valid registered stores.tables tenant rowId (forTables saved id upstreamId) key
    device fresh valid.1 valid.2 names ports known there
  have stored := @saveInstance_created registered stores.tables tenant rowId (forTables saved id upstreamId) key
    device storable.plain read newTables named fresh constraints
  refine ⟨_, _, stored, rfl, rfl, rfl, rfl, linked, ?_⟩
  rw [asInstance_new, ← text, spelled]
  rfl

/-- A stored listener that the double changes and the tables can change is changed in both. -/
theorem updated_stored (related : Related collate stores) (same : SameId stores.links saved.id id)
    (chained : SameId stores.links saved.upstreamId upstreamId) (named : saved.id ≠ "")
    (present : ∃ existing ∈ stores.memory.instances.of tenant, existing.id = saved.id)
    (valid : knownProtocol saved.protocol = true ∧ 1 ≤ saved.listenPort ∧ saved.listenPort ≤ 65535)
    (unmoved : ∀ existing ∈ stores.memory.instances.of tenant,
      existing.id = saved.id → existing.deviceId = saved.deviceId)
    (free : ∀ existing ∈ stores.memory.instances.of tenant, samePort saved existing = false)
    (storable : Storable collate stores tenant saved) :
    ∃ after key upstream, stores.tables.saveInstance tenant rowId (forTables saved id upstreamId) =
        .ok (after, uuidOut key) ∧ after.rules = stores.tables.rules ∧
      after.proxies.instances.rows = stores.tables.proxies.instances.rows.map (fun row =>
        if ownInstance tenant key row = true then setInstance (forTables saved id upstreamId) upstream row
        else row) ∧
      (saved.id, key) ∈ stores.links ∧ id = uuidOut key ∧ Linked stores.links saved.upstreamId upstreamId ∧
      upstreamId = (upstream.map uuidOut).getD "" := by
  obtain ⟨key, read, text, linked, there⟩ := known_upstream related chained storable.upstream
  obtain ⟨existing, inItems, itemId⟩ := present
  obtain ⟨target, inTargets, ownTarget, sameTarget⟩ := related.row inItems
  have link : (saved.id, target.id) ∈ stores.links := itemId ▸ sameTarget.id
  have readId : uuidIn id = .ok target.id := (same.names_iff related.ids link).mp rfl
  have spelled : id = uuidOut target.id := by
    rcases same with (⟨empty, _⟩ | ⟨other, inLinks, textA, textB⟩) | ⟨_, _, absent⟩
    · exact absurd empty named
    · rw [textB, related.ids.eq_of_first inLinks link textA.symm]
    · exact absurd rfl (absent _ link).1
  have namedTables : id ≠ "" := fun empty => named ((same.empty_iff related.ids).mpr empty)
  have names : ∀ row ∈ stores.tables.proxies.instances, row.tenantId = tenant → row.id ≠ target.id →
      row.name ≠ saved.name := by
    intro row inTable own differs equal
    obtain ⟨item, inItems, sameRow⟩ := related.item inTable own
    have sameId := storable.name item inItems (sameRow.name.trans equal)
    exact differs (congrArg Prod.snd (related.ids.eq_of_first sameRow.id link sameId))
  have ports : ∀ own ∈ stores.tables.proxies.instances, own.id = target.id →
      ∀ row ∈ stores.tables.proxies.instances, row.tenantId = tenant → row.id ≠ target.id →
        row.deviceId = own.deviceId → row.listenPort ≠ saved.listenPort := by
    intro own inOwn isTarget row inTable ofTenant differs onDevice equal
    have isSame : own = target := Table.eq_of_key inOwn inTargets isTarget
    subst isSame
    obtain ⟨item, inItems', sameRow⟩ := related.item inTable ofTenant
    have itemDevice : item.deviceId = saved.deviceId := by
      rw [sameRow.device, onDevice, ← sameTarget.device]
      exact unmoved existing inItems itemId
    have itemId' : item.id ≠ saved.id := fun sameId =>
      differs (congrArg Prod.snd (related.ids.eq_of_first sameRow.id link sameId))
    exact Bool.eq_false_iff.mp (free item inItems')
      (samePort_iff.mpr ⟨⟨itemDevice, sameRow.port.trans equal⟩, itemId'⟩)
  have constraints := @updated_valid registered stores.tables tenant (forTables saved id upstreamId) key
    target.id valid.1 valid.2 names ports there
  have own : ∃ row ∈ stores.tables.proxies.instances, ownInstance tenant target.id row = true :=
    ⟨target, inTargets, by simp [ownInstance, ownTarget]⟩
  have stored := @saveInstance_updated registered stores.tables tenant rowId (forTables saved id upstreamId) key
    target.id storable.plain read namedTables readId own constraints
  exact ⟨_, target.id, key, stored, rfl, rfl, link, spelled, linked, text⟩

end SaveTaken

/-! ## One step of both -/

section SaveStep

variable {registered : Uuid → Uuid → Bool} {collate : String → String → Bool}

/-- What a compatible save of a listener does: both stores refuse it, both add it, or both
change it. -/
inductive Saved (stores : Stores registered) (tenant rowId : Uuid) (saved : Instance) (id upstreamId : String) :
    Memory × Except MemoryError String → Except StoreError (StoreDb registered × String) → Prop
  | refused (reason : MemoryError) (failure : StoreError) :
      Saved stores tenant rowId saved id upstreamId
        ({ stores.memory with instances := stores.memory.instances.made }, .error reason) (.error failure)
  | created {after : StoreDb registered} {row : InstanceRow} (new : saved.id = "")
      (ordered : ((stores.memory.instances.of tenant).map Instance.name ++ [saved.name]).Pairwise
        (fun a b => collate a b = true))
      (rules : after.rules = stores.tables.rules)
      (rows : after.proxies.instances.rows = stores.tables.proxies.instances.rows ++ [row])
      (key : row.id = rowId) (own : row.tenantId = tenant)
      (linked : Linked stores.links saved.upstreamId upstreamId)
      (fields : asInstance row = { saved with id := uuidOut rowId, upstreamId := upstreamId }) :
      Saved stores tenant rowId saved id upstreamId
        ({ stores.memory with
            instances := stores.memory.instances.made.put tenant
              (stores.memory.instances.of tenant ++ [{ saved with id := memoryId (stores.memory.nextID + 1) }])
            nextID := stores.memory.nextID + 1 },
          .ok (memoryId (stores.memory.nextID + 1))) (.ok (after, uuidOut rowId))
  | changed {after : StoreDb registered} {key : Uuid} {upstream : Option Uuid} (named : saved.id ≠ "")
      (ordered : ((stores.memory.instances.of tenant).map fun existing =>
        if existing.id = saved.id then saved.name else existing.name).Pairwise (fun a b => collate a b = true))
      (unmoved : ∀ existing ∈ stores.memory.instances.of tenant,
        existing.id = saved.id → existing.deviceId = saved.deviceId)
      (present : ∃ existing ∈ stores.memory.instances.of tenant, existing.id = saved.id)
      (rules : after.rules = stores.tables.rules)
      (rows : after.proxies.instances.rows = stores.tables.proxies.instances.rows.map fun row =>
        if ownInstance tenant key row = true then setInstance (forTables saved id upstreamId) upstream row
        else row)
      (link : (saved.id, key) ∈ stores.links) (spelled : id = uuidOut key)
      (linked : Linked stores.links saved.upstreamId upstreamId)
      (chained : upstreamId = (upstream.map uuidOut).getD "") :
      Saved stores tenant rowId saved id upstreamId
        ({ stores.memory with
            instances := stores.memory.instances.made.put tenant
              ((stores.memory.instances.of tenant).map fun existing =>
                if existing.id = saved.id then replaceInstance saved existing else existing) },
          .ok saved.id) (.ok (after, uuidOut key))

variable {stores : Stores registered} {tenant rowId : Uuid} {saved : Instance} {id upstreamId : String}

theorem saveInstance_both (related : Related collate stores) (same : SameId stores.links saved.id id)
    (chained : SameId stores.links saved.upstreamId upstreamId)
    (valid : knownProtocol saved.protocol = true ∧ 1 ≤ saved.listenPort ∧ saved.listenPort ≤ 65535)
    (fresh : ∀ other ∈ stores.tables.proxies.instances, other.id ≠ rowId)
    (unmoved : ∀ existing ∈ stores.memory.instances.of tenant,
      existing.id = saved.id → existing.deviceId = saved.deviceId)
    (storable : Taken stores tenant saved → Storable collate stores tenant saved) :
    @Saved registered collate stores tenant rowId saved id upstreamId (stores.memory.saveInstance tenant saved)
      (stores.tables.saveInstance tenant rowId (forTables saved id upstreamId)) := by
  have outcome := @saveInstance_saved stores.memory tenant saved (related.itemIds_nodup tenant)
  revert outcome
  generalize stores.memory.saveInstance tenant saved = result
  intro outcome
  cases outcome with
  | @samePort existing member taken =>
    obtain ⟨failure, failed⟩ : ∃ failure,
        stores.tables.saveInstance tenant rowId (forTables saved id upstreamId) = .error failure :=
      exists_error fun value =>
        @samePort_refused registered collate stores tenant rowId saved id upstreamId related same unmoved existing
          member taken value.1 value.2
    rw [failed]
    exact .refused _ failure
  | absent free named missing =>
    obtain ⟨failure, failed⟩ : ∃ failure,
        stores.tables.saveInstance tenant rowId (forTables saved id upstreamId) = .error failure :=
      exists_error fun value =>
        @absent_refused registered collate stores tenant rowId saved id upstreamId related same named missing
          value.1 value.2
    rw [failed]
    exact .refused _ failure
  | created free new =>
    have ready := storable ⟨free, Or.inl new⟩
    obtain ⟨after, row, stored, rules, rows, key, own, linked, fields⟩ :=
      created_stored related same chained new valid fresh free ready
    have ordered := ready.ordered
    rw [if_pos new] at ordered
    have names : (stores.memory.instances.of tenant).map (fun existing =>
        if existing.id = saved.id then saved.name else existing.name) =
        (stores.memory.instances.of tenant).map Instance.name := by
      refine List.map_congr_left fun existing member => if_neg fun equal => ?_
      obtain ⟨_, _, _, sameRow⟩ := related.row member
      exact related.ids.ne_empty sameRow.id (equal.trans new)
    rw [names] at ordered
    rw [stored]
    exact .created new ordered rules rows key own linked fields
  | replaced free named present =>
    have ready := storable ⟨free, Or.inr present⟩
    obtain ⟨after, key, upstream, stored, rules, rows, link, spelled, linked, text⟩ :=
      @updated_stored registered collate stores tenant rowId saved id upstreamId related same chained named
        present valid unmoved free ready
    have ordered := ready.ordered
    rw [if_neg named, List.append_nil] at ordered
    rw [stored]
    exact .changed named ordered unmoved present rules rows link spelled linked text

end SaveStep

/-! ## The relation is kept -/

section Keep

variable {registered : Uuid → Uuid → Bool} {collate : String → String → Bool} {stores : Stores registered}
  {tenant rowId : Uuid} {saved : Instance} {id upstreamId : String} {after : StoreDb registered}

theorem ownRows_append {row : InstanceRow} (owner : Uuid)
    (rows : after.proxies.instances.rows = stores.tables.proxies.instances.rows ++ [row])
    (own : row.tenantId = tenant) :
    ownRows owner after =
      if owner = tenant then ownRows tenant stores.tables ++ [row] else ownRows owner stores.tables := by
  unfold ownRows
  rw [rows, List.filter_append]
  by_cases mine : owner = tenant
  · rw [if_pos mine, List.filter_singleton, decide_eq_true (own.trans mine.symm), mine]
    rfl
  · rw [if_neg mine, List.filter_singleton, decide_eq_false fun equal => mine (equal.symm.trans own)]
    exact List.append_nil _

theorem ownRows_set {key : Uuid} {upstream : Option Uuid} (owner : Uuid)
    (rows : after.proxies.instances.rows = stores.tables.proxies.instances.rows.map fun row =>
      if ownInstance tenant key row = true then setInstance saved upstream row else row) :
    ownRows owner after =
      if owner = tenant then (ownRows tenant stores.tables).map fun row =>
        if row.id = key then setInstance saved upstream row else row
      else ownRows owner stores.tables := by
  have tenants : ∀ row : InstanceRow, ((if ownInstance tenant key row = true then
      setInstance saved upstream row else row)).tenantId = row.tenantId := by
    intro row
    split
    · rfl
    · rfl
  unfold ownRows
  rw [rows, List.filter_map]
  simp only [Function.comp_def, tenants]
  by_cases mine : owner = tenant
  · rw [if_pos mine, mine]
    refine List.map_congr_left fun row member => ?_
    have own := of_decide_eq_true (List.mem_filter.mp member).2
    simp [ownInstance, own]
  · rw [if_neg mine]
    conv_rhs => rw [← List.map_id (stores.tables.proxies.instances.rows.filter _)]
    refine List.map_congr_left fun row member => if_neg ?_
    have own := of_decide_eq_true (List.mem_filter.mp member).2
    simp [ownInstance, own, mine]

theorem Related.created {row : InstanceRow} (related : Related collate stores)
    (fresh : ∀ link ∈ stores.links, link.2 ≠ rowId)
    (ordered : ((stores.memory.instances.of tenant).map Instance.name ++ [saved.name]).Pairwise
      (fun a b => collate a b = true))
    (rules : after.rules = stores.tables.rules)
    (rows : after.proxies.instances.rows = stores.tables.proxies.instances.rows ++ [row])
    (key : row.id = rowId) (own : row.tenantId = tenant)
    (linked : Linked stores.links saved.upstreamId upstreamId)
    (fields : asInstance row = { saved with id := uuidOut rowId, upstreamId := upstreamId }) :
    Related collate
      { memory := { stores.memory with
          instances := stores.memory.instances.made.put tenant
            (stores.memory.instances.of tenant ++ [{ saved with id := memoryId (stores.memory.nextID + 1) }])
          nextID := stores.memory.nextID + 1 }
        tables := after
        links := (memoryId (stores.memory.nextID + 1), rowId) :: stores.links } := by
  have sub : ∀ link ∈ stores.links, link ∈ (memoryId (stores.memory.nextID + 1), rowId) :: stores.links :=
    fun _ member => List.mem_cons_of_mem _ member
  have new : SameInstance ((memoryId (stores.memory.nextID + 1), rowId) :: stores.links)
      { saved with id := memoryId (stores.memory.nextID + 1) } row := by
    have upstream : (asInstance row).upstreamId = upstreamId := congrArg Instance.upstreamId fields
    refine ⟨?_, ?_, ?_⟩
    · rw [key]
      exact List.mem_cons_self
    · rw [upstream]
      exact linked.mono sub
    · rw [upstream, key, fields]
  constructor
  · exact related.ids.cons fresh
  · intro owner
    dsimp only
    rw [Slices.of_put, ownRows_append owner rows own]
    by_cases mine : owner = tenant
    · rw [if_pos mine, if_pos mine]
      exact List.rel_append ((related.instances tenant).imp fun _ _ same => same.mono sub) (.cons new .nil)
    · rw [if_neg mine, if_neg mine]
      exact (related.instances owner).imp fun _ _ same => same.mono sub
  · intro owner
    rw [show ownRules owner after = ownRules owner stores.tables by rw [ownRules, ownRules, rules]]
    exact (related.rules owner).imp fun _ _ same => same.mono sub
  · intro owner
    dsimp only
    rw [Slices.of_put]
    by_cases mine : owner = tenant
    · rw [if_pos mine, List.map_append]
      exact ordered
    · rw [if_neg mine]
      exact related.ordered owner

theorem Related.changed {key : Uuid} {upstream : Option Uuid} (related : Related collate stores)
    (ordered : ((stores.memory.instances.of tenant).map fun existing =>
      if existing.id = saved.id then saved.name else existing.name).Pairwise (fun a b => collate a b = true))
    (unmoved : ∀ existing ∈ stores.memory.instances.of tenant,
      existing.id = saved.id → existing.deviceId = saved.deviceId)
    (rules : after.rules = stores.tables.rules)
    (rows : after.proxies.instances.rows = stores.tables.proxies.instances.rows.map fun row =>
      if ownInstance tenant key row = true then setInstance (forTables saved id upstreamId) upstream row else row)
    (link : (saved.id, key) ∈ stores.links)
    (linked : Linked stores.links saved.upstreamId upstreamId)
    (chained : upstreamId = (upstream.map uuidOut).getD "") :
    Related collate
      { memory := { stores.memory with
          instances := stores.memory.instances.made.put tenant
            ((stores.memory.instances.of tenant).map fun existing =>
              if existing.id = saved.id then replaceInstance saved existing else existing) }
        tables := after
        links := stores.links } := by
  constructor
  · exact related.ids
  · intro owner
    dsimp only
    rw [Slices.of_put, ownRows_set owner rows]
    by_cases mine : owner = tenant
    · rw [if_pos mine, if_pos mine]
      have here : List.Forall₂ (fun item row => item ∈ stores.memory.instances.of tenant ∧
          SameInstance stores.links item row) (stores.memory.instances.of tenant)
          (ownRows tenant stores.tables) :=
        (List.forall₂_and_left _ _).mpr ⟨fun _ member => member, related.instances tenant⟩
      refine map_paired (fun item row both => ?_) here
      obtain ⟨member, same⟩ := both
      have names : item.id = saved.id ↔ row.id = key := by
        constructor
        · intro equal
          exact congrArg Prod.snd (related.ids.eq_of_first same.id link equal)
        · intro equal
          exact congrArg Prod.fst (related.ids.eq_of_second same.id link equal)
      by_cases hit : item.id = saved.id
      · rw [if_pos hit, if_pos (names.mp hit)]
        have device : saved.deviceId = uuidOut row.deviceId := (unmoved item member hit).symm.trans same.device
        have password : item.password = (asInstance row).password := same.password
        refine ⟨hit ▸ same.id, ?_, ?_⟩
        · rw [asInstance_set, ← chained]
          exact linked
        · rw [asInstance_set, ← chained]
          simp only [replaceInstance, forTables, password, device]
          rfl
      · rw [if_neg hit, if_neg (fun equal => hit (names.mpr equal))]
        exact same
    · rw [if_neg mine, if_neg mine]
      exact related.instances owner
  · intro owner
    rw [show ownRules owner after = ownRules owner stores.tables by rw [ownRules, ownRules, rules]]
    exact related.rules owner
  · intro owner
    dsimp only
    rw [Slices.of_put]
    by_cases mine : owner = tenant
    · have names : ((stores.memory.instances.of tenant).map fun existing =>
          if existing.id = saved.id then replaceInstance saved existing else existing).map Instance.name =
          (stores.memory.instances.of tenant).map fun existing =>
            if existing.id = saved.id then saved.name else existing.name := by
        rw [List.map_map]
        refine List.map_congr_left fun existing _ => ?_
        by_cases hit : existing.id = saved.id
        · simp [hit, replaceInstance]
        · simp [hit]
      rw [if_pos mine, names]
      exact ordered
    · rw [if_neg mine]
      exact related.ordered owner

end Keep

/-! ## The other calls -/

section OtherCalls

variable {registered : Uuid → Uuid → Bool} {collate : String → String → Bool} {stores : Stores registered}
  {db after : StoreDb registered} {tenant rowId : Uuid} {text : String}

theorem saveUpstream_tables {upstream : Upstream} (done : db.saveUpstream tenant rowId upstream = .ok (after, text)) :
    after.proxies.instances = db.proxies.instances ∧ after.rules = db.rules := by
  obtain ⟨⟨proxies, key⟩, written, rest⟩ := bind_success done
  obtain ⟨stored, checked, returned⟩ := bind_success rest
  cases returned
  obtain ⟨sameProxies, sameRules⟩ := storeCheck_ok (server_ok checked)
  exact ⟨by rw [sameProxies]; exact (saveUpstream_cases written).1, sameRules⟩

/-- Removing an upstream that nothing uses leaves the listeners and the rules alone. -/
theorem deleteUpstream_tables (done : db.deleteUpstream tenant text = .ok after)
    (unused : ∀ key, uuidIn text = .ok key →
      (∃ row ∈ db.proxies.upstreams, ownUpstream tenant key row = true) →
        (∀ row ∈ db.proxies.instances, row.upstreamId ≠ some key) ∧ ∀ row ∈ db.rules, row.upstreamId ≠ some key) :
    after.proxies.instances = db.proxies.instances ∧ after.rules.rows = db.rules.rows := by
  obtain ⟨key, read, rest⟩ := bind_success done
  obtain ⟨proxies, removed, rest⟩ := bind_success rest
  have named := server_ok read
  unfold ProxyDb.deleteUpstream at removed
  rw [named] at removed
  by_cases own : ∃ row ∈ db.proxies.upstreams, ownUpstream tenant key row = true
  · obtain ⟨noListener, noRule⟩ := unused key named own
    rw [if_pos own] at rest
    obtain ⟨sameProxies, sameRules⟩ := storeCheck_ok (server_ok rest)
    have kept : (db.rules.delete fun row => row.upstreamId = some key).rows = db.rules.rows :=
      List.filter_eq_self.mpr fun row member => by simp [noRule row member]
    refine ⟨?_, by rw [sameRules, kept]⟩
    change (if ∃ row ∈ db.proxies.upstreams, ownUpstream tenant key row = true then
      Except.ok (db.proxies.removeUpstream tenant key) else .ok db.proxies) = .ok proxies at removed
    rw [if_pos own] at removed
    rw [sameProxies, ← Except.ok.inj removed]
    exact @Table.update_eq_self _ _ _ db.proxies.instances _ _ clearUpstream_id
      fun row member => decide_eq_false (noListener row member)
  · rw [if_neg own] at rest
    obtain ⟨sameProxies, sameRules⟩ := storeCheck_ok (server_ok rest)
    refine ⟨?_, by rw [sameRules]⟩
    change (if ∃ row ∈ db.proxies.upstreams, ownUpstream tenant key row = true then
      Except.ok (db.proxies.removeUpstream tenant key) else .ok db.proxies) = .ok proxies at removed
    rw [if_neg own] at removed
    rw [sameProxies, ← Except.ok.inj removed]

theorem deleteInstance_cases :
    (∃ key, uuidIn text = .ok key ∧ ∃ after, db.deleteInstance tenant text = .ok after ∧
      after.proxies = db.proxies.removeInstance tenant key ∧ after.rules = db.rules) ∨
      ∃ err, uuidIn text = .error err ∧ db.deleteInstance tenant text = .error (.server err) := by
  cases read : uuidIn text with
  | error err =>
    right
    refine ⟨err, rfl, ?_⟩
    unfold StoreDb.deleteInstance ProxyDb.deleteInstance
    rw [read]
    rfl
  | ok key =>
    left
    refine ⟨key, rfl, ⟨db.proxies.removeInstance tenant key, db.rules, db.codes, db.known⟩, ?_, rfl, rfl⟩
    have stored := @storeCheck_of registered (db.proxies.removeInstance tenant key) db.rules db.codes db.known
    unfold StoreDb.deleteInstance ProxyDb.deleteInstance
    rw [read]
    show server (StoreDb.check (db.proxies.removeInstance tenant key) db.rules) = _
    rw [stored]
    rfl

/-- Two capitals take two bytes. -/
theorem isCode_of_bytes {code : String} (bytes : code.utf8ByteSize = 2) (capitals : code.toList.all isCapital = true) :
    isCode code = true := by
  have lengths : ∀ chars : List Char, chars.all isCapital = true → String.utf8Len chars = chars.length := by
    intro chars
    induction chars with
    | nil => exact fun _ => rfl
    | cons letter rest ih =>
      intro all
      rw [List.all_cons, Bool.and_eq_true] at all
      have most : letter ≤ 'Z' := of_decide_eq_true (Bool.and_eq_true _ _ ▸ all.1 : _ ∧ _).2
      have ascii : ('Z' : Char).val ≤ 127 := by decide
      have one : letter.utf8Size = 1 := Char.utf8Size_eq_one_iff.mpr (UInt32.le_trans most ascii)
      rw [String.utf8Len_cons, List.length_cons, ih all.2, one]
  have size := String.utf8ByteSize_ofList code.toList
  rw [String.ofList_toList, bytes, lengths code.toList capitals] at size
  rw [isCode, ← size, capitals]
  rfl

theorem validateCountryRule_isCode {upper : String → String} {request rule : CountryRule}
    (valid : validateCountryRule upper request = .ok rule) : isCode rule.countryCode = true := by
  unfold validateCountryRule at valid
  dsimp only at valid
  obtain ⟨bytes, valid⟩ := check_success valid
  obtain ⟨capitals, valid⟩ := check_success valid
  cases valid
  exact isCode_of_bytes (not_not.mp bytes) (eq_true_of_ne_false capitals)

end OtherCalls

section KeepOthers

variable {registered : Uuid → Uuid → Bool} {collate : String → String → Bool} {stores : Stores registered}
  {tenant : Uuid}

theorem Related.codes_nodup (related : Related collate stores) (tenant : Uuid) :
    ((stores.memory.rules.of tenant).map CountryRule.countryCode).Nodup := by
  have rows : (ownRules tenant stores.tables).Pairwise (fun a b => a.countryCode ≠ b.countryCode) := by
    have keys : (ownRules tenant stores.tables).Pairwise (fun a b => a.key ≠ b.key) :=
      (List.pairwise_map.mp stores.tables.rules.unique).sublist List.filter_sublist
    refine keys.imp_of_mem fun inA inB differs equal => differs ?_
    rw [RuleRow.key, RuleRow.key, (mem_ownRules.mp inA).2, (mem_ownRules.mp inB).2, equal]
  refine List.pairwise_map.mpr (pairwise_paired (fun a a' b b' same same' differs equal => ?_)
    (related.rules tenant) rows)
  exact differs (same.code.symm.trans (equal.trans same'.code))

/-- What no call changes in one of the stores stays related. -/
theorem Related.kept {memory : Memory} {tables : StoreDb registered} {links : Links}
    (related : Related collate stores) (ids : Issued links memory.nextID)
    (sub : ∀ link ∈ stores.links, link ∈ links)
    (instances : ∀ owner, memory.instances.of owner = stores.memory.instances.of owner)
    (rules : ∀ owner, memory.rules.of owner = stores.memory.rules.of owner)
    (rows : tables.proxies.instances.rows = stores.tables.proxies.instances.rows)
    (ruleRows : tables.rules.rows = stores.tables.rules.rows) :
    Related collate ⟨memory, tables, links⟩ where
  ids := ids
  instances := by
    intro owner
    show List.Forall₂ _ (memory.instances.of owner) (tables.proxies.instances.rows.filter _)
    rw [instances, rows]
    exact (related.instances owner).imp fun _ _ same => same.mono sub
  rules := by
    intro owner
    show List.Forall₂ _ (memory.rules.of owner) (tables.rules.rows.filter _)
    rw [rules, ruleRows]
    exact (related.rules owner).imp fun _ _ same => same.mono sub
  ordered := by
    intro owner
    show ((memory.instances.of owner).map _).Pairwise _
    rw [instances]
    exact related.ordered owner

/-- Both stores delete the listener of corresponding ids. -/
theorem Related.deleted {a b : String} {memory : Memory} {tables : StoreDb registered}
    (related : Related collate stores) (same : SameId stores.links a b)
    (counted : memory.nextID = stores.memory.nextID)
    (instances : ∀ owner, memory.instances.of owner =
      if owner = tenant then (stores.memory.instances.of tenant).filter fun existing => existing.id ≠ a
      else stores.memory.instances.of owner)
    (rules : memory.rules = stores.memory.rules)
    (rows : tables.proxies.instances.rows = stores.tables.proxies.instances.rows.filter fun row =>
      !(decide (row.tenantId = tenant) && decide (uuidIn b = .ok row.id)))
    (ruleRows : tables.rules = stores.tables.rules) :
    Related collate ⟨memory, tables, stores.links⟩ where
  ids := by
    dsimp only
    rw [counted]
    exact related.ids
  instances := by
    intro owner
    have swapped : ownRows owner tables = (ownRows owner stores.tables).filter fun row =>
        !(decide (row.tenantId = tenant) && decide (uuidIn b = .ok row.id)) := by
      unfold ownRows
      rw [rows, List.filter_comm]
    show List.Forall₂ _ (memory.instances.of owner) (ownRows owner tables)
    rw [instances, swapped]
    by_cases mine : owner = tenant
    · subst mine
      rw [if_pos rfl]
      have own : ∀ row ∈ ownRows owner stores.tables,
          (!(decide (row.tenantId = owner) && decide (uuidIn b = .ok row.id))) = !decide (uuidIn b = .ok row.id) := by
        intro row member
        rw [decide_eq_true (mem_ownRows.mp member).2, Bool.true_and]
      rw [List.filter_congr own]
      refine filter_paired (fun item row sameRow => ?_) (related.instances owner)
      rw [← decide_not]
      exact decide_eq_decide.mpr (not_congr (same.names_iff related.ids sameRow.id))
    · rw [if_neg mine]
      have others : ∀ row ∈ ownRows owner stores.tables,
          (!(decide (row.tenantId = tenant) && decide (uuidIn b = .ok row.id))) = true := by
        intro row member
        rw [decide_eq_false fun equal => mine ((mem_ownRows.mp member).2.symm.trans equal)]
        rfl
      rw [List.filter_eq_self.mpr others]
      exact related.instances owner
  rules := by
    intro owner
    show List.Forall₂ _ (memory.rules.of owner) (ownRules owner tables)
    rw [rules, show ownRules owner tables = ownRules owner stores.tables by rw [ownRules, ownRules, ruleRows]]
    exact related.rules owner
  ordered := by
    intro owner
    show ((memory.instances.of owner).map _).Pairwise _
    rw [instances]
    by_cases mine : owner = tenant
    · rw [if_pos mine]
      exact (related.ordered tenant).sublist (List.filter_sublist.map _)
    · rw [if_neg mine]
      exact related.ordered owner

end KeepOthers

section KeepRules

variable {registered : Uuid → Uuid → Bool} {collate : String → String → Bool} {stores : Stores registered}
  {tenant : Uuid} {rule : CountryRule} {upstreamId : String}

theorem plain_of_isCode {code : String} (letters : isCode code = true) : textArguments [code] = .ok () := by
  rw [isCode, Bool.and_eq_true, List.all_eq_true] at letters
  have plain : code.toList.contains '\x00' = false := by
    rw [Bool.eq_false_iff]
    intro zero
    exact absurd (letters.2 _ (List.contains_iff_mem.mp zero)) (by decide)
  unfold textArguments
  rw [List.any_cons, List.any_nil, plain]
  rfl

/-- A rule of a known upstream is stored in the tables. -/
theorem saveCountryRule_stored (related : Related collate stores) (code : isCode rule.countryCode = true)
    (same : SameId stores.links rule.upstreamId upstreamId) (known : KnownUpstream stores rule.upstreamId) :
    ∃ after key, stores.tables.saveCountryRule tenant { rule with upstreamId := upstreamId } = .ok after ∧
      after.proxies = stores.tables.proxies ∧
      after.rules = stores.tables.rules.upsert ⟨tenant, rule.countryCode, key⟩ (setRule key) (setRule_key key) ∧
      Linked stores.links rule.upstreamId upstreamId ∧ upstreamId = (key.map uuidOut).getD "" := by
  obtain ⟨key, read, text, linked, there⟩ := known_upstream related same known
  have codes : ∀ row ∈ stores.tables.rules.upsert ⟨tenant, rule.countryCode, key⟩ (setRule key) (setRule_key key),
      isCode row.countryCode = true := by
    intro row member
    rcases Table.mem_upsert.mp member with ⟨old, _⟩ | ⟨old, inTable, _, rfl⟩ | ⟨rfl, _⟩
    · exact stores.tables.codes row old
    · exact stores.tables.codes old inTable
    · exact code
  have upstreams : ∀ row ∈ stores.tables.rules.upsert ⟨tenant, rule.countryCode, key⟩ (setRule key)
      (setRule_key key), row.upstreamId.all
        (fun id => ∃ other ∈ stores.tables.proxies.upstreams, other.id = id) = true := by
    intro row member
    rcases Table.mem_upsert.mp member with ⟨old, _⟩ | ⟨old, _, _, rfl⟩ | ⟨rfl, _⟩
    · exact stores.tables.known row old
    · exact there
    · exact there
  have stored := @storeCheck_of registered stores.tables.proxies _ codes upstreams
  refine ⟨⟨stores.tables.proxies, _, codes, upstreams⟩, key, ?_, rfl, rfl, linked, text⟩
  unfold StoreDb.saveCountryRule
  rw [plain_of_isCode code, read]
  show server (StoreDb.check stores.tables.proxies _) = _
  rw [stored]
  rfl

theorem ownRules_upsert {db tables : StoreDb registered} {code : String} {key : Option Uuid} (owner : Uuid)
    (ruleRows : tables.rules = db.rules.upsert ⟨tenant, code, key⟩ (setRule key) (setRule_key key)) :
    ownRules owner tables =
      if owner = tenant then
        if ∃ row ∈ ownRules tenant db, row.countryCode = code then
          (ownRules tenant db).map fun row => if row.countryCode = code then setRule key row else row
        else ownRules tenant db ++ [⟨tenant, code, key⟩]
      else ownRules owner db := by
  have mine : ∀ row ∈ ownRules tenant db, (row.key = (tenant, code) ↔ row.countryCode = code) := by
    intro row member
    rw [RuleRow.key, of_decide_eq_true (List.mem_filter.mp member).2, Prod.mk_inj]
    exact and_iff_right rfl
  have present : (∃ row ∈ ownRules tenant db, row.countryCode = code) ↔
      ∃ row ∈ db.rules, row.key = (tenant, code) := by
    constructor
    · rintro ⟨row, member, same⟩
      exact ⟨row, (List.mem_filter.mp member).1, (mine row member).mpr same⟩
    · rintro ⟨row, inTable, same⟩
      have member : row ∈ ownRules tenant db :=
        List.mem_filter.mpr ⟨inTable, decide_eq_true (congrArg Prod.fst same)⟩
      exact ⟨row, member, congrArg Prod.snd same⟩
  have tenants : ∀ row : RuleRow,
      (if row.key = (tenant, code) then setRule key row else row).tenantId = row.tenantId := by
    intro row
    split
    · rfl
    · rfl
  have rows : tables.rules.rows = if ∃ row ∈ db.rules, row.key = (tenant, code) then
      db.rules.rows.map (fun row => if row.key = (tenant, code) then setRule key row else row)
      else db.rules.rows ++ [⟨tenant, code, key⟩] := by
    rw [ruleRows]
    exact Table.rows_upsert
  by_cases found : ∃ row ∈ db.rules, row.key = (tenant, code)
  · rw [if_pos found] at rows
    rw [if_pos (present.mpr found), ownRules, rows, List.filter_map]
    simp only [Function.comp_def, tenants]
    by_cases own : owner = tenant
    · rw [if_pos own, own]
      refine List.map_congr_left fun row member => ?_
      by_cases hit : row.countryCode = code
      · rw [if_pos hit, if_pos ((mine row member).mpr hit)]
      · rw [if_neg hit, if_neg fun same => hit ((mine row member).mp same)]
    · rw [if_neg own]
      conv_rhs => rw [← List.map_id (ownRules owner db)]
      refine List.map_congr_left fun row member => if_neg fun same => own ?_
      exact (of_decide_eq_true (List.mem_filter.mp member).2).symm.trans (congrArg Prod.fst same)
  · rw [if_neg found] at rows
    rw [if_neg fun some_ => found (present.mp some_), ownRules, rows, List.filter_append, List.filter_singleton]
    by_cases own : owner = tenant
    · rw [if_pos own, own, decide_eq_true rfl]
      rfl
    · rw [if_neg own, decide_eq_false fun same => own same.symm]
      exact List.append_nil _

/-- Both stores replace the rule of the code, or add it. -/
theorem Related.ruled {memory : Memory} {tables : StoreDb registered} {key : Option Uuid}
    (related : Related collate stores) (counted : memory.nextID = stores.memory.nextID)
    (instances : memory.instances = stores.memory.instances)
    (rules : ∀ owner, memory.rules.of owner =
      if owner = tenant then
        if (stores.memory.rules.of tenant).any (fun existing => existing.countryCode = rule.countryCode) = true then
          (stores.memory.rules.of tenant).map fun existing =>
            if existing.countryCode = rule.countryCode then rule else existing
        else stores.memory.rules.of tenant ++ [rule]
      else stores.memory.rules.of owner)
    (proxies : tables.proxies = stores.tables.proxies)
    (ruleRows : tables.rules =
      stores.tables.rules.upsert ⟨tenant, rule.countryCode, key⟩ (setRule key) (setRule_key key))
    (linked : Linked stores.links rule.upstreamId ((key.map uuidOut).getD "")) :
    Related collate ⟨memory, tables, stores.links⟩ where
  ids := by
    dsimp only
    rw [counted]
    exact related.ids
  instances := by
    intro owner
    show List.Forall₂ _ (memory.instances.of owner) (ownRows owner tables)
    rw [instances, show ownRows owner tables = ownRows owner stores.tables by rw [ownRows, ownRows, proxies]]
    exact related.instances owner
  rules := by
    intro owner
    show List.Forall₂ _ (memory.rules.of owner) (ownRules owner tables)
    have found : (stores.memory.rules.of tenant).any
        (fun existing => existing.countryCode = rule.countryCode) = true ↔
        ∃ row ∈ ownRules tenant stores.tables, row.countryCode = rule.countryCode := by
      rw [List.any_eq_true]
      constructor
      · rintro ⟨existing, member, code⟩
        obtain ⟨row, inRows, same⟩ := exists_right (related.rules tenant) member
        exact ⟨row, inRows, same.code.symm.trans (of_decide_eq_true code)⟩
      · rintro ⟨row, inRows, code⟩
        obtain ⟨existing, member, same⟩ := exists_left (related.rules tenant) inRows
        exact ⟨existing, member, decide_eq_true (same.code.trans code)⟩
    rw [rules, ownRules_upsert owner ruleRows]
    by_cases own : owner = tenant
    · rw [if_pos own, if_pos own]
      by_cases present : (stores.memory.rules.of tenant).any
          (fun existing => existing.countryCode = rule.countryCode) = true
      · rw [if_pos present, if_pos (found.mp present)]
        refine map_paired (fun item row same => ?_) (related.rules tenant)
        by_cases hit : item.countryCode = rule.countryCode
        · rw [if_pos hit, if_pos (same.code.symm.trans hit)]
          exact ⟨linked, hit.symm.trans same.code⟩
        · rw [if_neg hit, if_neg fun code => hit (same.code.trans code)]
          exact same
      · rw [if_neg present, if_neg fun some_ => present (found.mpr some_)]
        exact List.rel_append (related.rules tenant) (.cons ⟨linked, rfl⟩ .nil)
    · rw [if_neg own, if_neg own]
      exact related.rules owner
  ordered := by
    intro owner
    show ((memory.instances.of owner).map _).Pairwise _
    rw [instances]
    exact related.ordered owner

end KeepRules

/-! ## Every step -/

theorem deleteInstance_counts {store : Memory} {tenant : Uuid} (id : String) :
    (store.deleteInstance tenant id).1.nextID = store.nextID ∧
      (store.deleteInstance tenant id).1.rules = store.rules := by
  unfold Memory.deleteInstance
  split
  · exact ⟨rfl, rfl⟩
  · exact ⟨rfl, rfl⟩

theorem saveCountryRule_counts {store : Memory} {tenant : Uuid} (rule : CountryRule) :
    (store.saveCountryRule tenant rule).1.nextID = store.nextID ∧
      (store.saveCountryRule tenant rule).1.instances = store.instances := by
  unfold Memory.saveCountryRule
  dsimp only
  split
  · exact ⟨rfl, rfl⟩
  · exact ⟨rfl, rfl⟩

section Step

variable {registered : Uuid → Uuid → Bool} {collate : String → String → Bool} {stores : Stores registered}
  {quote upper : String → String} {event : Event}

theorem Related.settled {tenant rowId : Uuid} {saved : Instance} {id upstreamId : String}
    {inMemory : Memory × Except MemoryError String}
    {inTables : Except StoreError (StoreDb registered × String)} (related : Related collate stores)
    (fresh : ∀ link ∈ stores.links, link.2 ≠ rowId)
    (both : @Saved registered collate stores tenant rowId saved id upstreamId inMemory inTables) :
    Related collate (stores.settle rowId (creates (.saveInstance saved)) inMemory inTables) := by
  cases both with
  | refused reason failure =>
    exact related.kept related.ids (fun _ member => member) (fun _ => rfl) (fun _ => rfl) rfl rfl
  | created new ordered rules rows key own linked fields =>
    have kept := related.created fresh ordered rules rows key own linked fields
    unfold Stores.settle
    dsimp only
    rw [creates, decide_eq_true new, if_pos rfl]
    exact kept
  | changed named ordered unmoved present rules rows link spelled linked chained =>
    have kept := related.changed ordered unmoved rules rows link linked chained
    unfold Stores.settle
    dsimp only
    rw [creates, decide_eq_false named, if_neg Bool.false_ne_true]
    exact kept

theorem settle_old {rowId : Uuid} {inMemory : Memory × Except MemoryError String}
    {inTables : Except StoreError (StoreDb registered × String)} :
    stores.settle rowId false inMemory inTables =
      ⟨inMemory.1, (stores.settle rowId false inMemory inTables).tables, stores.links⟩ := by
  unfold Stores.settle
  dsimp only
  congr 1
  split
  · rfl
  · rfl

/-- The rows a deletion leaves, whatever its id is. -/
theorem deleteInstance_rows {tenant rowId : Uuid} {inMemory : Memory × Except MemoryError String} (b : String) :
    (stores.settle rowId false inMemory (stores.tables.call tenant rowId (.deleteInstance b))).tables.rules =
        stores.tables.rules ∧
      (stores.settle rowId false inMemory
        (stores.tables.call tenant rowId (.deleteInstance b))).tables.proxies.instances.rows =
        stores.tables.proxies.instances.rows.filter fun row =>
          !(decide (row.tenantId = tenant) && decide (uuidIn b = .ok row.id)) := by
  have call : stores.tables.call tenant rowId (.deleteInstance b) =
      (stores.tables.deleteInstance tenant b).map (·, "") := rfl
  rcases @deleteInstance_cases registered stores.tables tenant b with
    ⟨key, read, after, done, proxies, rules⟩ | ⟨err, failed, done⟩
  · rw [call, done]
    refine ⟨rules, ?_⟩
    show after.proxies.instances.rows = _
    rw [proxies]
    refine List.filter_congr fun row _ => ?_
    rw [ownInstance, read, Bool.and_comm]
    congr 2
    exact decide_eq_decide.mpr ⟨fun same => by rw [same], fun same => (Except.ok.inj same).symm⟩
  · rw [call, done]
    refine ⟨rfl, ?_⟩
    show stores.tables.proxies.instances.rows = _
    refine (List.filter_eq_self.mpr fun row _ => ?_).symm
    have differs : uuidIn b ≠ .ok row.id := by
      rw [failed]
      exact fun same => by cases same
    rw [decide_eq_false differs, Bool.and_false]
    rfl

theorem Related.step (related : Related collate stores) (given : Given quote upper stores event)
    (compatible : Compatible collate stores event) : Related collate (stores.step event) := by
  have ids := issued_step related.ids given.newLink
  obtain ⟨tenant, rowId, inMemory, inTables⟩ := event
  obtain ⟨same, validated, newLink, newUpstream, newInstance⟩ := given
  cases inMemory with
  | saveUpstream upstream =>
    cases inTables with
    | saveUpstream other =>
      obtain ⟨instances, rules⟩ := @saveUpstream_quiet stores.memory tenant upstream
      refine related.kept ids links_settle (fun owner => ?_) (fun owner => ?_) ?_ ?_
      · exact congrArg (Slices.of owner) instances
      · exact congrArg (Slices.of owner) rules
      · refine @tables_step registered stores ⟨tenant, rowId, .saveUpstream upstream, .saveUpstream other⟩
          (fun tables => tables.proxies.instances.rows = stores.tables.proxies.instances.rows) rfl ?_
        exact fun after text done => congrArg Table.rows (saveUpstream_tables done).1
      · refine @tables_step registered stores ⟨tenant, rowId, .saveUpstream upstream, .saveUpstream other⟩
          (fun tables => tables.rules.rows = stores.tables.rules.rows) rfl ?_
        exact fun after text done => congrArg Table.rows (saveUpstream_tables done).2
    | _ => exact same.elim
  | deleteUpstream a =>
    cases inTables with
    | deleteUpstream b =>
      obtain ⟨instances, rules⟩ := @deleteUpstream_quiet stores.memory tenant a
      refine related.kept ids links_settle (fun owner => ?_) (fun owner => ?_) ?_ ?_
      · exact congrArg (Slices.of owner) instances
      · exact congrArg (Slices.of owner) rules
      · refine @tables_step registered stores ⟨tenant, rowId, .deleteUpstream a, .deleteUpstream b⟩
          (fun tables => tables.proxies.instances.rows = stores.tables.proxies.instances.rows) rfl ?_
        intro after text done
        obtain ⟨left, removed, returned⟩ := map_success done
        cases returned
        exact congrArg Table.rows (deleteUpstream_tables removed compatible).1
      · refine @tables_step registered stores ⟨tenant, rowId, .deleteUpstream a, .deleteUpstream b⟩
          (fun tables => tables.rules.rows = stores.tables.rules.rows) rfl ?_
        intro after text done
        obtain ⟨left, removed, returned⟩ := map_success done
        cases returned
        exact (deleteUpstream_tables removed compatible).2
    | _ => exact same.elim
  | saveInstance saved =>
    cases inTables with
    | saveInstance other =>
      obtain ⟨sameId, sameUpstream, fields⟩ := same
      obtain ⟨id, upstreamId, rfl⟩ : ∃ id upstreamId, other = forTables saved id upstreamId :=
        ⟨other.id, other.upstreamId, fields.symm⟩
      obtain ⟨request, valid⟩ := validated
      exact related.settled newLink (saveInstance_both related sameId sameUpstream
        (validateInstance_sound valid) newInstance compatible.1 compatible.2)
    | _ => exact same.elim
  | deleteInstance a =>
    cases inTables with
    | deleteInstance b =>
      obtain ⟨ruleRows, rows⟩ := @deleteInstance_rows registered stores tenant rowId
        (stores.memory.deleteInstance tenant a) b
      obtain ⟨counted, rules⟩ := @deleteInstance_counts stores.memory tenant a
      show Related collate (stores.settle rowId false (stores.memory.deleteInstance tenant a)
        (stores.tables.call tenant rowId (.deleteInstance b)))
      rw [settle_old]
      exact related.deleted same counted (deleteInstance_of a) rules rows ruleRows
    | _ => exact same.elim
  | saveCountryRule rule =>
    cases inTables with
    | saveCountryRule other =>
      obtain ⟨sameUpstream, fields⟩ := same
      obtain ⟨upstreamId, rfl⟩ : ∃ upstreamId, other = { rule with upstreamId := upstreamId } :=
        ⟨other.upstreamId, fields.symm⟩
      obtain ⟨request, valid⟩ := validated
      obtain ⟨after, key, stored, proxies, ruleRows, linked, text⟩ := @saveCountryRule_stored registered collate
        stores tenant rule upstreamId related (validateCountryRule_isCode valid) sameUpstream compatible
      obtain ⟨counted, instances⟩ := @saveCountryRule_counts stores.memory tenant rule
      have call : stores.tables.call tenant rowId (.saveCountryRule { rule with upstreamId := upstreamId }) =
          .ok (after, "") := by
        show (stores.tables.saveCountryRule tenant { rule with upstreamId := upstreamId }).map (·, "") = _
        rw [stored]
        rfl
      show Related collate (stores.settle rowId false (stores.memory.saveCountryRule tenant rule)
        (stores.tables.call tenant rowId (.saveCountryRule { rule with upstreamId := upstreamId })))
      rw [settle_old, call]
      exact related.ruled counted instances (fun owner => saveCountryRule_of owner (related.codes_nodup tenant))
        proxies ruleRows (text ▸ linked)
    | _ => exact same.elim

end Step

/-! ## Read back as saved -/

section ReadBack

variable {registered : Uuid → Uuid → Bool} {collate : String → String → Bool} {stores : Stores registered}
  {quote upper : String → String} {event : Event}

theorem find_unique {items : List Instance} {entry : Instance} (ids : (items.map Instance.id).Nodup)
    (member : entry ∈ items) : items.find? (fun item => item.id = entry.id) = some entry := by
  cases found : items.find? (fun item => item.id = entry.id) with
  | none =>
    have miss := List.find?_eq_none.mp found entry member
    exact absurd (decide_eq_true rfl) miss
  | some other =>
    have hit := List.find?_some found
    have same : other.id = entry.id := of_decide_eq_true hit
    rw [List.inj_on_of_nodup_map ids (List.mem_of_find?_eq_some found) member same]

theorem passwordOf_entry {items : List Instance} {entry : Instance} (ids : (items.map Instance.id).Nodup)
    (member : entry ∈ items) : passwordOf items entry.id = entry.password := by
  rw [passwordOf, find_unique ids member]
  rfl

theorem passwordOf_absent {items : List Instance} {id : String} (absent : ∀ item ∈ items, item.id ≠ id) :
    passwordOf items id = "" := by
  have none_ : items.find? (fun item => item.id = id) = none :=
    List.find?_eq_none.mpr fun item member => by simp [absent item member]
  rw [passwordOf, none_]
  rfl

/-- A listing that holds the saved listener keeps it. -/
theorem kept_entry {saved entry : Instance} {id old : String} {items : List Instance}
    (ids : (items.map Instance.id).Nodup) (member : entry ∈ items)
    (form : entry = { saved with id := id, password := if saved.password = "" then old else saved.password }) :
    Kept saved id old (passwordOf items id) (items.map showInstance) := by
  have isId : entry.id = id := congrArg Instance.id form
  have password : passwordOf items id = if saved.password = "" then old else saved.password := by
    rw [← isId, passwordOf_entry ids member, form]
  have shown : showInstance entry = { showInstance saved with id := id, hasPassword := passwordOf items id ≠ "" } := by
    rw [password, form]
    rfl
  refine ⟨fun item => ?_, password⟩
  rw [← shown]
  constructor
  · rintro ⟨inList, same⟩
    obtain ⟨other, inItems, rfl⟩ := List.mem_map.mp inList
    have sameId : other.id = entry.id := same.trans isId.symm
    rw [List.inj_on_of_nodup_map ids inItems member sameId]
  · rintro rfl
    exact ⟨List.mem_map_of_mem member, isId⟩

theorem rowIds_nodup (tenant : Uuid) (db : StoreDb registered) :
    (((ownRows tenant db).map asInstance).map Instance.id).Nodup := by
  have rows : (ownRows tenant db).Pairwise (fun a b => a.id ≠ b.id) :=
    (List.pairwise_map.mp db.proxies.instances.unique).sublist List.filter_sublist
  rw [List.map_map]
  exact List.pairwise_map.mpr (rows.imp fun differs same => differs (uuidOut_injective same))

theorem shown_rows (tenant : Uuid) (db : StoreDb registered) :
    (ownRows tenant db).map showRow = ((ownRows tenant db).map asInstance).map showInstance := by
  rw [List.map_map]
  exact List.map_congr_left fun row _ => (showInstance_asInstance row).symm

/-- What a save leaves in the double is what was saved. -/
theorem saved_in_memory {tenant rowId : Uuid} {saved : Instance} {id upstreamId text : String}
    {inMemory : Memory × Except MemoryError String}
    {inTables : Except StoreError (StoreDb registered × String)} (related : Related collate stores)
    (both : @Saved registered collate stores tenant rowId saved id upstreamId inMemory inTables)
    (ids : ((inMemory.1.instances.of tenant).map Instance.id).Nodup) (returned : inMemory.2 = .ok text) :
    Kept saved text (passwordOf (stores.memory.instances.of tenant) saved.id)
      (passwordOf (inMemory.1.instances.of tenant) text) (inMemory.1.listInstances tenant "") := by
  rw [memoryList_all]
  cases both with
  | refused reason failure => cases returned
  | created new ordered rules rows key own linked fields =>
    cases returned
    have absent : passwordOf (stores.memory.instances.of tenant) saved.id = "" := by
      refine passwordOf_absent fun item member equal => ?_
      obtain ⟨_, _, _, same⟩ := related.row member
      exact related.ids.ne_empty same.id (equal.trans new)
    dsimp only at ids ⊢
    rw [Slices.of_put, if_pos rfl] at ids ⊢
    refine kept_entry ids (List.mem_append_right _ List.mem_cons_self) ?_
    rw [absent]
    by_cases empty : saved.password = ""
    · rw [if_pos empty, ← empty]
    · rw [if_neg empty]
  | changed named ordered unmoved present rules rows link spelled linked chained =>
    cases returned
    obtain ⟨existing, member, isId⟩ := present
    dsimp only at ids ⊢
    rw [Slices.of_put, if_pos rfl] at ids ⊢
    have entry : replaceInstance saved existing ∈ (stores.memory.instances.of tenant).map fun existing =>
        if existing.id = saved.id then replaceInstance saved existing else existing :=
      List.mem_map.mpr ⟨existing, member, if_pos isId⟩
    refine kept_entry ids entry ?_
    rw [← isId, passwordOf_entry (related.itemIds_nodup tenant) member, isId]
    rfl

/-- What a save leaves in the tables is what was saved. -/
theorem saved_in_tables {tenant rowId : Uuid} {saved : Instance} {id upstreamId text : String}
    {inMemory : Memory × Except MemoryError String} {after : StoreDb registered}
    {inTables : Except StoreError (StoreDb registered × String)} (related : Related collate stores)
    (same : SameId stores.links saved.id id)
    (both : @Saved registered collate stores tenant rowId saved id upstreamId inMemory inTables)
    (returned : inTables = .ok (after, text)) :
    Kept (forTables saved id upstreamId) text (passwordOf ((ownRows tenant stores.tables).map asInstance) id)
      (passwordOf ((ownRows tenant after).map asInstance) text) ((ownRows tenant after).map showRow) := by
  rw [shown_rows]
  cases both with
  | refused reason failure => cases returned
  | @created written row new ordered rules rows key own linked fields =>
    cases returned
    have absent : passwordOf ((ownRows tenant stores.tables).map asInstance) id = "" := by
      refine passwordOf_absent fun item member equal => ?_
      obtain ⟨other, _, rfl⟩ := List.mem_map.mp member
      have named : uuidOut other.id ≠ "" := uuidIn_ne_empty (uuidIn_uuidOut other.id)
      exact named (equal.trans ((same.empty_iff related.ids).mp new))
    have member : asInstance row ∈ (ownRows tenant after).map asInstance := by
      refine List.mem_map_of_mem ?_
      rw [ownRows_append tenant rows own, if_pos rfl]
      exact List.mem_append_right _ List.mem_cons_self
    refine kept_entry (rowIds_nodup tenant after) member ?_
    rw [fields, absent, forTables]
    by_cases empty : saved.password = ""
    · simp only [if_pos empty]
      rw [← empty]
    · simp only [if_neg empty]
  | @changed written key upstream named ordered unmoved present rules rows link spelled linked chained =>
    cases returned
    obtain ⟨existing, inItems, isId⟩ := present
    obtain ⟨row, inTable, own, sameRow⟩ := related.row inItems
    have isKey : row.id = key := congrArg Prod.snd (related.ids.eq_of_first sameRow.id link isId)
    have inRows : row ∈ ownRows tenant stores.tables := mem_ownRows.mpr ⟨inTable, own⟩
    have device : saved.deviceId = uuidOut row.deviceId := (unmoved existing inItems isId).symm.trans sameRow.device
    have member : asInstance (setInstance (forTables saved id upstreamId) upstream row) ∈
        (ownRows tenant after).map asInstance := by
      refine List.mem_map_of_mem ?_
      rw [ownRows_set tenant rows, if_pos rfl]
      exact List.mem_map.mpr ⟨row, inRows, if_pos isKey⟩
    have old : passwordOf ((ownRows tenant stores.tables).map asInstance) id = (asInstance row).password := by
      have rowId : id = (asInstance row).id := by
        rw [spelled, ← isKey]
        rfl
      rw [rowId]
      exact passwordOf_entry (rowIds_nodup tenant stores.tables) (List.mem_map_of_mem inRows)
    refine kept_entry (rowIds_nodup tenant after) member ?_
    rw [asInstance_set, ← chained, old, isKey]
    simp only [replaceInstance, forTables, ← device]

theorem saved_together {tenant rowId : Uuid} {saved : Instance} {id upstreamId : String}
    {inMemory : Memory × Except MemoryError String}
    {inTables : Except StoreError (StoreDb registered × String)}
    (both : @Saved registered collate stores tenant rowId saved id upstreamId inMemory inTables) :
    inMemory.2.toBool = inTables.toBool := by
  cases both with
  | refused => rfl
  | created => rfl
  | changed => rfl

/-- Nothing is claimed of a call that saves no listener. -/
theorem readBack_other (inMemory : ∀ saved, event.inMemory ≠ .saveInstance saved)
    (inTables : ∀ saved, event.inTables ≠ .saveInstance saved) : ReadBack collate stores event where
  together := fun saved isSaved => absurd isSaved (inMemory saved)
  memory := fun saved _ isSaved => absurd isSaved (inMemory saved)
  tables := fun saved _ _ isSaved => absurd isSaved (inTables saved)

theorem Related.readBack (related : Related collate stores) (given : Given quote upper stores event)
    (compatible : Compatible collate stores event) : ReadBack collate stores event := by
  have relatedStep := related.step given compatible
  obtain ⟨tenant, rowId, inMemory, inTables⟩ := event
  obtain ⟨same, validated, newLink, newUpstream, newInstance⟩ := given
  cases inMemory with
  | saveInstance saved =>
    cases inTables with
    | saveInstance other =>
      obtain ⟨sameId, sameUpstream, fields⟩ := same
      obtain ⟨id, upstreamId, rfl⟩ : ∃ id upstreamId, other = forTables saved id upstreamId :=
        ⟨other.id, other.upstreamId, fields.symm⟩
      obtain ⟨request, valid⟩ := validated
      have both := saveInstance_both related sameId sameUpstream (validateInstance_sound valid) newInstance
        compatible.1 compatible.2
      refine ⟨?_, ?_, ?_⟩
      · intro _ _
        exact saved_together both
      · intro call text isSaved returned
        cases isSaved
        exact saved_in_memory related both (relatedStep.itemIds_nodup tenant) returned
      · intro call after text isSaved returned
        cases isSaved
        refine ⟨_, ?_, saved_in_tables related sameId both returned⟩
        have listed := @listAll_eq registered collate _ tenant relatedStep
        have tables : (stores.step ⟨tenant, rowId, .saveInstance saved,
            .saveInstance (forTables saved id upstreamId)⟩).tables = after := by
          unfold Stores.step
          dsimp only
          rw [returned]
          rfl
        rw [tables] at listed
        exact listed
    | _ => exact same.elim
  | saveUpstream upstream =>
    cases inTables with
    | saveUpstream other => exact readBack_other (fun _ wrong => by cases wrong) (fun _ wrong => by cases wrong)
    | _ => exact same.elim
  | deleteUpstream a =>
    cases inTables with
    | deleteUpstream b => exact readBack_other (fun _ wrong => by cases wrong) (fun _ wrong => by cases wrong)
    | _ => exact same.elim
  | deleteInstance a =>
    cases inTables with
    | deleteInstance b => exact readBack_other (fun _ wrong => by cases wrong) (fun _ wrong => by cases wrong)
    | _ => exact same.elim
  | saveCountryRule rule =>
    cases inTables with
    | saveCountryRule other => exact readBack_other (fun _ wrong => by cases wrong) (fun _ wrong => by cases wrong)
    | _ => exact same.elim

end ReadBack

/-! ## Every run -/

section Runs

variable {registered : Uuid → Uuid → Bool} {collate : String → String → Bool} {stores : Stores registered}

/-- The calls of a run that meets none of the places where the stores differ. -/
def Admitted (collate : String → String → Bool) (quote upper : String → String) (stores : Stores registered)
    (event : Event) : Prop :=
  Given quote upper stores event ∧ Compatible collate stores event

theorem Reaches.related {quote upper : String → String} (run : Reaches (Admitted collate quote upper) stores) :
    Related collate stores := by
  induction run with
  | start => exact related_empty
  | next _ admitted ih => exact ih.step admitted.1 admitted.2

/-- The claim about both stores, for the calls a sequence may hold. -/
def StoresAgree (registered : Uuid → Uuid → Bool) (collate : String → String → Bool)
    (allowed : Stores registered → Event → Prop) : Prop :=
  ∀ stores : Stores registered, Reaches allowed stores →
    SameListings collate stores ∧ ∀ event, allowed stores event → ReadBack collate stores event

/-- In every run whose calls meet none of the places where the stores differ, the stores
list the same and read back what was saved. -/
theorem stores_agree_when_compatible (quote upper : String → String)
    (alphabetical : ∀ a b, isCode a = true → isCode b = true → (collate a b = true ↔ a ≤ b)) :
    StoresAgree registered collate (Admitted collate quote upper) := by
  intro stores run
  refine ⟨run.related.sameListings alphabetical, fun event admitted => ?_⟩
  exact run.related.readBack admitted.1 admitted.2

end Runs

/-! ## A listener moves -/

/-- Every device is registered, and names are in the order of their bytes. -/
def everyDevice : Uuid → Uuid → Bool := fun _ _ => true

def byBytes : String → String → Bool := fun a b => decide (a ≤ b)

def listener : Instance where
  id := ""
  deviceId := uuidOut 10
  name := "office"
  modemImei := "123456789012345"
  protocol := "socks5"
  listenAddr := "0.0.0.0"
  listenPort := 1080
  authEnabled := false
  username := ""
  password := ""
  upstreamId := ""
  enabled := true

def creation : Event := ⟨1, 77, .saveInstance listener, .saveInstance listener⟩

/-- The same listener on the device 11. -/
def move : Event where
  tenant := 1
  rowId := 78
  inMemory := .saveInstance { listener with id := "mem-1", deviceId := uuidOut 11 }
  inTables := .saveInstance { listener with id := uuidOut 77, deviceId := uuidOut 11 }

def afterCreation : Stores everyDevice := (Stores.empty everyDevice).step creation

theorem creation_given : Given id id (Stores.empty everyDevice) creation where
  same := ⟨Or.inl (Or.inl ⟨rfl, rfl⟩), Or.inl (Or.inl ⟨rfl, rfl⟩), rfl⟩
  validated := ⟨listener, by decide⟩
  newLink := fun _ member => absurd member List.not_mem_nil
  newUpstream := fun _ member => absurd member List.not_mem_nil
  newInstance := fun _ member => absurd member List.not_mem_nil

theorem afterCreation_links : afterCreation.links = [("mem-1", 77)] := by decide

theorem move_given : Given id id afterCreation move where
  same := by
    have linked : ("mem-1", (77 : Uuid)) ∈ afterCreation.links := by
      rw [afterCreation_links]
      exact List.mem_cons_self
    exact ⟨Or.inl (Or.inr ⟨_, linked, rfl, rfl⟩), Or.inl (Or.inl ⟨rfl, rfl⟩), rfl⟩
  validated := ⟨{ listener with id := "mem-1", deviceId := uuidOut 11 }, by decide⟩
  newLink := by
    rw [afterCreation_links]
    decide
  newUpstream := by decide
  newInstance := by decide

theorem devices_eq {links : Links} {as bs : List ShownInstance} (same : List.Forall₂ (SameShown links) as bs) :
    as.map ShownInstance.deviceId = bs.map ShownInstance.deviceId := by
  induction same with
  | nil => rfl
  | @cons a b _ _ first _ ih =>
    have device : a.deviceId = b.deviceId := by rw [← first.2.2]
    rw [List.map_cons, List.map_cons, ih, device]

/-- The double moves the listener to the device, the tables leave it where it was. -/
theorem moved_listener_differs : ¬ StoresAgree everyDevice byBytes (Given id id) := by
  intro agree
  have run : Reaches (Given id id) (afterCreation.step move) :=
    .next (.next .start creation_given) move_given
  obtain ⟨shown, listed, same⟩ := (agree _ run).1.instances 1 "" (Or.inl rfl)
  have inMemory : ((afterCreation.step move).memory.listInstances 1 "").map ShownInstance.deviceId =
      [uuidOut 11] := by decide
  have inTables : ((afterCreation.step move).tables.listInstances byBytes 1 "").map
      (fun shown => shown.map ShownInstance.deviceId) = .ok [uuidOut 10] := by decide
  rw [listed] at inTables
  have devices := devices_eq same
  have tables : shown.map ShownInstance.deviceId = [uuidOut 10] := Except.ok.inj inTables
  rw [inMemory, tables] at devices
  exact absurd devices (by decide)

theorem creation_admitted : Admitted byBytes id id (Stores.empty everyDevice) creation := by
  refine ⟨creation_given, fun _ member => absurd member List.not_mem_nil, fun _ => ?_⟩
  exact {
    plain := by decide
    device := ⟨10, rfl, rfl⟩
    name := fun _ member => absurd member List.not_mem_nil
    upstream := Or.inl rfl
    ordered := List.pairwise_singleton _ _ }

theorem created_listener_agrees :
    SameListings byBytes afterCreation ∧ Admitted byBytes id id (Stores.empty everyDevice) creation ∧
      ReadBack byBytes (Stores.empty everyDevice) creation :=
  ⟨(stores_agree_when_compatible id id (fun _ _ _ _ => decide_eq_true_iff) afterCreation
      (.next .start creation_admitted)).1, creation_admitted,
    (stores_agree_when_compatible id id (fun _ _ _ _ => decide_eq_true_iff) _ .start).2 creation
      creation_admitted⟩

end VodogeCloud.Guarantees.StoreAgreement
