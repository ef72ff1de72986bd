import Mathlib.Data.Char
import Mathlib.Data.List.Lex
import VodogeCloud.Guarantees.AcceptedRecords
import VodogeCloud.Source.ModemList

/-!
# Every module is in the list once, and when its id is its own

The branch of the observed modules leaves out those in the registry and the other
branch is the registry, so each module has one row whatever the tables hold. A row
without an observation takes its id from the IMEI alone, and a registry may have one
IMEI under several devices: those rows share an id.
-/

set_option autoImplicit false

namespace VodogeCloud.Guarantees.ListedModules

open VodogeCloud.Lib VodogeCloud.Lib.Joins VodogeCloud.Lib.Transactions
open VodogeCloud.Source.Postgres VodogeCloud.Source.IngressWindow
open VodogeCloud.Source.DeviceProjection VodogeCloud.Source.ModemList
open VodogeCloud.Guarantees.AcceptedRecords

/-! ## What the list is for -/

/-- The modules of a tenant: managed, or in the registry. -/
def IsModule (tenant : Uuid) (modems : Table ModemRow.key) (registry : Table RegistryRow.key)
    (device : Uuid) (imei : String) : Prop :=
  (∃ row ∈ modems, row.managed = true ∧ row.key = (tenant, device, imei)) ∨
    ∃ row ∈ registry, row.key = (tenant, device, imei)

/-- Where a listed module is, as the console reads it. -/
def place (item : Modem) : String × String := (item.deviceId, item.imei)

/-- One row for each module, no other rows, and no id twice. -/
structure EachOnce (modules : Uuid → String → Prop) (list : List Modem) : Prop where
  once : ∀ device imei, modules device imei → (list.map place).count (uuidOut device, imei) = 1
  noOther : ∀ item ∈ list, ∃ device, modules device item.imei ∧ item.deviceId = uuidOut device
  ids : (list.map Modem.id).Nodup

/-- No observation of the module is stored. -/
def Unseen (modems : Table ModemRow.key) (row : RegistryRow) : Prop :=
  ∀ seen ∈ modems, seen.key ≠ row.key

/-- Two modules of the tenant's registry that were never seen have two IMEIs. -/
def UnseenApart (tenant : Uuid) (modems : Table ModemRow.key) (registry : Table RegistryRow.key) : Prop :=
  ∀ a ∈ registry, ∀ b ∈ registry, a.tenantId = tenant → b.tenantId = tenant →
    Unseen modems a → Unseen modems b → a.imei = b.imei → a.deviceId = b.deviceId

/-! ## The row an id comes from -/

/-- A row of `app.modems`, or one of the registry that has none. -/
abbrev Origin := ModemRow ⊕ RegistryRow

def Origin.key : Origin → Uuid × Uuid × String
  | .inl seen => seen.key
  | .inr row => row.key

def Origin.id (id : ModemRow → Uuid) : Origin → String
  | .inl seen => uuidOut (id seen)
  | .inr row => "registry:" ++ row.imei

/-- Which row a pair of the left join takes its id from. -/
def originOf (pair : RegistryRow × Option ModemRow) : Origin :=
  match pair.2 with
  | some seen => .inl seen
  | none => .inr pair.1

/-- The origins of the rows of the two branches. -/
def origins (modems : List ModemRow) (registry : List RegistryRow) : List Origin :=
  (antiJoin ModemRow.key RegistryRow.key (modems.filter ModemRow.managed) registry).map Sum.inl ++
    (leftJoin RegistryRow.key ModemRow.key registry modems).map originOf

/-- A key as the console reads it. -/
def spell (key : Uuid × Uuid × String) : String × String := (uuidOut key.2.1, key.2.2)

theorem spell_inj {tenant : Uuid} {a b : Uuid × Uuid × String} (ownA : a.1 = tenant)
    (ownB : b.1 = tenant) (same : spell a = spell b) : a = b := by
  obtain ⟨texts, imeis⟩ := Prod.mk.inj same
  have devices : a.2.1 = b.2.1 := uuidOut_injective texts
  exact Prod.ext (ownA.trans ownB.symm) (Prod.ext devices imeis)

/-- A made-up id is no uuid: its first letter is no hex digit. -/
theorem uuidOut_ne_registry (value : Uuid) (imei : String) : uuidOut value ≠ "registry:" ++ imei := by
  intro same
  have letters := congrArg String.toList same
  rw [uuidOut_toList, String.toList_append] at letters
  have first : nibble value.toNat 31 = 'r' := (List.cons.inj letters).1
  have digit := hexDigit_nibble value.toNat 31
  rw [first] at digit
  cases digit

section List

variable {casts : Casts} {imeiLe : String → String → Bool} {tenant : Uuid}
  {modems : Table ModemRow.key} {registry : Table RegistryRow.key}

theorem mem_ownModems {row : ModemRow} :
    row ∈ ownModems tenant modems ↔ row ∈ modems ∧ row.tenantId = tenant := by
  rw [ownModems, List.mem_filter, decide_eq_true_iff]
  exact Iff.rfl

theorem mem_ownRegistry {row : RegistryRow} :
    row ∈ ownRegistry tenant registry ↔ row ∈ registry ∧ row.tenantId = tenant := by
  rw [ownRegistry, List.mem_filter, decide_eq_true_iff]
  exact Iff.rfl

theorem unique_ownModems : ((ownModems tenant modems).map ModemRow.key).Nodup :=
  modems.unique.sublist (List.filter_sublist.map _)

theorem unique_managed :
    (((ownModems tenant modems).filter ModemRow.managed).map ModemRow.key).Nodup :=
  unique_ownModems.sublist (List.filter_sublist.map _)

theorem unique_ownRegistry : ((ownRegistry tenant registry).map RegistryRow.key).Nodup :=
  registry.unique.sublist (List.filter_sublist.map _)

/-- A pair of the left join has the key of its row of the registry. -/
theorem key_originOf {modems : List ModemRow} {registry : List RegistryRow}
    (unique : (modems.map ModemRow.key).Nodup) {pair : RegistryRow × Option ModemRow}
    (member : pair ∈ leftJoin RegistryRow.key ModemRow.key registry modems) :
    (originOf pair).key = pair.1.key := by
  obtain ⟨row, found⟩ := pair
  obtain ⟨-, rfl⟩ := (mem_leftJoin unique).mp member
  unfold originOf
  cases found : modems.find? fun other => other.key = row.key with
  | none => rfl
  | some seen =>
    have same : seen.key = row.key := by simpa using List.find?_some found
    exact same

/-- The keys of the listed rows. -/
theorem map_key_origins {modems : List ModemRow} {registry : List RegistryRow}
    (unique : (modems.map ModemRow.key).Nodup) :
    (origins modems registry).map Origin.key =
      (antiJoin ModemRow.key RegistryRow.key (modems.filter ModemRow.managed) registry).map
        ModemRow.key ++ registry.map RegistryRow.key := by
  have joined : (leftJoin RegistryRow.key ModemRow.key registry modems).map
      (Origin.key ∘ originOf) = registry.map RegistryRow.key := by
    have rows := congrArg (List.map RegistryRow.key) (@leftJoin_fst _ _ _ _ RegistryRow.key _ registry _ unique)
    rw [List.map_map] at rows
    rw [← rows]
    exact List.map_congr_left fun pair member => key_originOf unique member
  rw [origins, List.map_append, List.map_map, List.map_map, joined]
  rfl

/-- No two listed rows have one key. -/
theorem nodup_key_origins :
    ((origins (ownModems tenant modems) (ownRegistry tenant registry)).map Origin.key).Nodup := by
  rw [map_key_origins unique_ownModems]
  exact cover_nodup unique_managed unique_ownRegistry

/-- The keys of the listed rows are those of the modules. -/
theorem mem_key_origins {key : Uuid × Uuid × String} :
    key ∈ (origins (ownModems tenant modems) (ownRegistry tenant registry)).map Origin.key ↔
      key.1 = tenant ∧ IsModule tenant modems registry key.2.1 key.2.2 := by
  rw [map_key_origins unique_ownModems, mem_cover, List.mem_map, List.mem_map]
  constructor
  · rintro (⟨row, member, rfl⟩ | ⟨row, member, rfl⟩)
    · obtain ⟨own, managed⟩ := List.mem_filter.mp member
      obtain ⟨present, rfl⟩ := mem_ownModems.mp own
      exact ⟨rfl, Or.inl ⟨row, present, managed, rfl⟩⟩
    · obtain ⟨present, rfl⟩ := mem_ownRegistry.mp member
      exact ⟨rfl, Or.inr ⟨row, present, rfl⟩⟩
  · rintro ⟨rfl, ⟨row, present, managed, same⟩ | ⟨row, present, same⟩⟩
    · have own : row ∈ ownModems key.1 modems := mem_ownModems.mpr ⟨present, congrArg Prod.fst same⟩
      exact Or.inl ⟨row, List.mem_filter.mpr ⟨own, managed⟩, same⟩
    · exact Or.inr ⟨row, mem_ownRegistry.mpr ⟨present, congrArg Prod.fst same⟩, same⟩

/-! ## From the origins to the list -/

theorem registeredRow_id (id : ModemRow → Uuid) (pair : RegistryRow × Option ModemRow) :
    (registeredRow casts id pair).id = (originOf pair).id id := by
  obtain ⟨row, found⟩ := pair
  cases found with
  | none => rfl
  | some seen => rfl

theorem map_id_unionAll (id : ModemRow → Uuid) (modems : List ModemRow) (registry : List RegistryRow) :
    (unionAll casts id modems registry).map ListedRow.id =
      (origins modems registry).map (Origin.id id) := by
  rw [unionAll, origins, List.map_append, List.map_append, List.map_map, List.map_map, List.map_map,
    List.map_map]
  congr 1
  exact List.map_congr_left fun pair _ => registeredRow_id id pair

theorem map_place_unionAll (id : ModemRow → Uuid) {modems : List ModemRow} {registry : List RegistryRow}
    (unique : (modems.map ModemRow.key).Nodup) :
    (unionAll casts id modems registry).map (fun row => (row.deviceId, row.imei)) =
      ((origins modems registry).map Origin.key).map spell := by
  rw [unionAll, map_key_origins unique, List.map_append, List.map_append, List.map_map, List.map_map,
    List.map_map]
  congr 1
  have rows := congrArg (List.map (spell ∘ RegistryRow.key))
    (@leftJoin_fst _ _ _ _ RegistryRow.key _ registry _ unique)
  rw [List.map_map] at rows
  rw [List.map_map]
  exact rows

variable {ids : ModemIds modems}

/-- The order of the list does not matter to what is in it. -/
theorem listModems_perm :
    (listModems casts imeiLe tenant modems ids registry).Perm
      ((unionAll casts ids.id (ownModems tenant modems) (ownRegistry tenant registry)).map scanModem) :=
  (List.perm_insertionSort _ _).map scanModem

/-- The places of the list are the keys of the modules, each once. -/
theorem places_perm :
    ((listModems casts imeiLe tenant modems ids registry).map place).Perm
      (((origins (ownModems tenant modems) (ownRegistry tenant registry)).map Origin.key).map spell) := by
  rw [← map_place_unionAll ids.id unique_ownModems]
  have same := (@listModems_perm casts imeiLe tenant modems registry ids).map place
  rw [List.map_map] at same
  exact same

theorem ids_perm :
    ((listModems casts imeiLe tenant modems ids registry).map Modem.id).Perm
      ((origins (ownModems tenant modems) (ownRegistry tenant registry)).map (Origin.id ids.id)) := by
  rw [← map_id_unionAll]
  have same := (@listModems_perm casts imeiLe tenant modems registry ids).map Modem.id
  rw [List.map_map] at same
  exact same

/-- Whatever the tables hold, each module has one row. -/
theorem listed_once {device : Uuid} {imei : String} (shown : IsModule tenant modems registry device imei) :
    ((listModems casts imeiLe tenant modems ids registry).map place).count (uuidOut device, imei) = 1 := by
  have member := (@mem_key_origins tenant modems registry (tenant, device, imei)).mpr ⟨rfl, shown⟩
  have distinct : (((origins (ownModems tenant modems) (ownRegistry tenant registry)).map
      Origin.key).map spell).Nodup := by
    refine List.Nodup.map_on (fun a inA b inB same => ?_) nodup_key_origins
    exact spell_inj (mem_key_origins.mp inA).1 (mem_key_origins.mp inB).1 same
  rw [places_perm.count_eq]
  exact List.count_eq_one_of_mem distinct (List.mem_map.mpr ⟨_, member, rfl⟩)

/-- Whatever the tables hold, each row is a module. -/
theorem listed_is_module {item : Modem} (member : item ∈ listModems casts imeiLe tenant modems ids registry) :
    ∃ device, IsModule tenant modems registry device item.imei ∧ item.deviceId = uuidOut device := by
  have placed := places_perm.mem_iff.mp (List.mem_map_of_mem (f := place) member)
  obtain ⟨key, inKeys, same⟩ := List.mem_map.mp placed
  have imei : key.2.2 = item.imei := congrArg Prod.snd same
  refine ⟨key.2.1, ?_, (congrArg Prod.fst same).symm⟩
  rw [← imei]
  exact (mem_key_origins.mp inKeys).2

/-! ## When the ids are apart -/

/-- An id of `app.modems` is the id of an observation of the tenant. -/
theorem mem_of_inl {modems : List ModemRow} {registry : List RegistryRow}
    (unique : (modems.map ModemRow.key).Nodup) {seen : ModemRow}
    (member : Sum.inl seen ∈ origins modems registry) : seen ∈ modems := by
  rcases List.mem_append.mp member with alone | joined
  · obtain ⟨row, inBranch, same⟩ := List.mem_map.mp alone
    cases same
    exact (List.mem_filter.mp (mem_antiJoin.mp inBranch).1).1
  · obtain ⟨⟨row, found⟩, inBranch, same⟩ := List.mem_map.mp joined
    obtain ⟨-, rfl⟩ := (mem_leftJoin unique).mp inBranch
    unfold originOf at same
    cases found : modems.find? fun other => other.key = row.key with
    | none =>
      simp only [found] at same
      cases same
    | some partner =>
      simp only [found] at same
      cases same
      exact List.mem_of_find?_eq_some found

/-- A made-up id belongs to a row of the registry that no observation has. -/
theorem mem_inr_iff {modems : List ModemRow} {registry : List RegistryRow}
    (unique : (modems.map ModemRow.key).Nodup) {row : RegistryRow} :
    Sum.inr row ∈ origins modems registry ↔
      row ∈ registry ∧ ∀ seen ∈ modems, seen.key ≠ row.key := by
  constructor
  · intro member
    rcases List.mem_append.mp member with alone | joined
    · obtain ⟨seen, -, same⟩ := List.mem_map.mp alone
      cases same
    · obtain ⟨⟨other, found⟩, inBranch, same⟩ := List.mem_map.mp joined
      obtain ⟨present, rfl⟩ := (mem_leftJoin unique).mp inBranch
      unfold originOf at same
      cases found : modems.find? fun seen => seen.key = other.key with
      | none =>
        simp only [found] at same
        cases same
        refine ⟨present, fun seen stored => ?_⟩
        simpa using List.find?_eq_none.mp found seen stored
      | some partner =>
        simp only [found] at same
        cases same
  · rintro ⟨present, unseen⟩
    have missing : none = modems.find? fun seen => seen.key = row.key := by
      symm
      exact List.find?_eq_none.mpr fun seen stored => by simpa using unseen seen stored
    exact List.mem_append_right _
      (List.mem_map.mpr ⟨(row, none), (mem_leftJoin unique).mpr ⟨present, missing⟩, rfl⟩)

theorem unseen_iff {row : RegistryRow} (own : row.tenantId = tenant) :
    Unseen modems row ↔ ∀ seen ∈ ownModems tenant modems, seen.key ≠ row.key := by
  constructor
  · exact fun unseen seen member => unseen seen (mem_ownModems.mp member).1
  · intro unseen seen stored same
    exact unseen seen (mem_ownModems.mpr ⟨stored, (congrArg Prod.fst same).trans own⟩) same

/-- Two rows have one id exactly when they are two rows of the registry, both
without an observation, that have one IMEI. -/
theorem ids_apart_iff :
    ((listModems casts imeiLe tenant modems ids registry).map Modem.id).Nodup ↔
      UnseenApart tenant modems registry := by
  have distinct := List.Nodup.of_map _ (@nodup_key_origins tenant modems registry)
  rw [ids_perm.nodup_iff, List.nodup_map_iff_inj_on distinct]
  constructor
  · intro apart a inA b inB ownA ownB unseenA unseenB same
    have listedA := (mem_inr_iff unique_ownModems).mpr
      ⟨mem_ownRegistry.mpr ⟨inA, ownA⟩, (unseen_iff ownA).mp unseenA⟩
    have listedB := (mem_inr_iff unique_ownModems).mpr
      ⟨mem_ownRegistry.mpr ⟨inB, ownB⟩, (unseen_iff ownB).mp unseenB⟩
    have equal := apart _ listedA _ listedB (congrArg (fun imei => "registry:" ++ imei) same)
    exact congrArg RegistryRow.deviceId (Sum.inr.inj equal)
  · intro apart a inA b inB same
    cases a with
    | inl seenA =>
      cases b with
      | inl seenB =>
        have storedA := (mem_ownModems.mp (mem_of_inl unique_ownModems inA)).1
        have storedB := (mem_ownModems.mp (mem_of_inl unique_ownModems inB)).1
        exact congrArg Sum.inl
          (List.inj_on_of_nodup_map ids.primary storedA storedB (uuidOut_injective same))
      | inr rowB => exact absurd same (uuidOut_ne_registry _ _)
    | inr rowA =>
      cases b with
      | inl seenB => exact absurd same.symm (uuidOut_ne_registry _ _)
      | inr rowB =>
        obtain ⟨listedA, unseenA⟩ := (mem_inr_iff unique_ownModems).mp inA
        obtain ⟨listedB, unseenB⟩ := (mem_inr_iff unique_ownModems).mp inB
        obtain ⟨presentA, ownA⟩ := mem_ownRegistry.mp listedA
        obtain ⟨presentB, ownB⟩ := mem_ownRegistry.mp listedB
        have imeis : rowA.imei = rowB.imei := (String.append_right_inj _).mp same
        have devices := apart rowA presentA rowB presentB ownA ownB
          ((unseen_iff ownA).mpr unseenA) ((unseen_iff ownB).mpr unseenB) imeis
        have keys : rowA.key = rowB.key :=
          Prod.ext (ownA.trans ownB.symm) (Prod.ext devices imeis)
        exact congrArg Sum.inr (Table.eq_of_key presentA presentB keys)

/-- The list does what it is for exactly while no two modules of the registry that
were never seen have one IMEI. -/
theorem each_once_iff :
    EachOnce (IsModule tenant modems registry) (listModems casts imeiLe tenant modems ids registry) ↔
      UnseenApart tenant modems registry := by
  rw [← @ids_apart_iff casts imeiLe tenant modems registry ids]
  exact ⟨EachOnce.ids, fun apart => ⟨fun _ _ => listed_once, fun _ => listed_is_module, apart⟩⟩

end List

/-! ## One module, entered by hand on two devices -/

/-- Devices 2 and 3 of tenant 1, enrolled and silent so far. -/
def twoDevices : Intake Unit where
  journal := {
    devices := ⟨[⟨2, 1⟩, ⟨3, 1⟩], by decide⟩
    ingress := Table.empty
    pruned := Table.empty
    valid := {
      seqRange := by decide
      payloadObject := by decide
      envelopeUnique := by decide
      ingressDevice := by decide
      prunedPositive := by decide } }
  tables := {
    devices := ⟨[⟨2, 1, none, .obj [], noHost⟩, ⟨3, 1, none, .obj [], noHost⟩], by decide⟩
    modems := Table.empty
    registry := Table.empty
    candidates := Table.empty }
  rest := ()

/-- A device's first DeviceState: one adopted module, none observed. -/
def adoptionOp (device : Uuid) : AcceptOp where
  context := some 1
  args := ⟨1, device, firstSeq, device, "DeviceState", .obj
    [("adoptions", .arr [.obj [("adopted_at", .num 5), ("adopted_by", .str "manual"),
      ("modem_imei", .str "86")]]), ("modems", .arr []), ("observed_at", .num 10)]⟩
  now := 0

/-- The same module is expected on both devices. -/
def expectedTwice : Intake Unit :=
  run (acceptRecord plainCasts noOthers) twoDevices [adoptionOp 2, adoptionOp 3]

/-- There are no observations to name. -/
def noIds : ModemIds expectedTwice.tables.modems := ⟨fun _ => 0, by decide⟩

def byLetters (a b : String) : Bool := a.toList ≤ b.toList

theorem expected_twice_shares_id :
    (listModems plainCasts byLetters 1 expectedTwice.tables.modems noIds
      expectedTwice.tables.registry).map Modem.id = ["registry:86", "registry:86"] ∧
    ¬ EachOnce (IsModule 1 expectedTwice.tables.modems expectedTwice.tables.registry)
      (listModems plainCasts byLetters 1 expectedTwice.tables.modems noIds
        expectedTwice.tables.registry) := by
  have listed : (listModems plainCasts byLetters 1 expectedTwice.tables.modems noIds
      expectedTwice.tables.registry).map Modem.id = ["registry:86", "registry:86"] := by
    decide
  refine ⟨listed, fun each => ?_⟩
  have apart := each.ids
  rw [listed] at apart
  exact absurd apart (by decide)

end VodogeCloud.Guarantees.ListedModules
