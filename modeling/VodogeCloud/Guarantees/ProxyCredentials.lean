import VodogeCloud.Guarantees.CardRenderings
import VodogeCloud.Guarantees.ProxyNotices
import VodogeCloud.Source.ProxyExport

/-!
# The credentials of a proxy

A client is given the username and the password that are stored; the device is sent what
`Instances` and `Upstreams` read, and neither reads the password. So the configuration a
device gets has no password at all, and it is the stored one only where none is stored.
-/

set_option autoImplicit false

namespace VodogeCloud.Guarantees.ProxyCredentials

open VodogeCloud.Lib VodogeCloud.Lib.Transactions VodogeCloud.Source.Postgres
open VodogeCloud.Source.CommandTables
open VodogeCloud.Source.ServeDevice (trimSpace)
open VodogeCloud.Source.CommandLifecycle VodogeCloud.Source.ProxyConfig VodogeCloud.Source.ProxyExport
open VodogeCloud.Guarantees.CardRenderings VodogeCloud.Guarantees.ProxyNotices

variable {world : Server} {registered : Uuid → Uuid → Bool} {tenant device : Uuid}

/-! ## The credential of a listener -/

/-- The entries of a list in a payload. -/
def entries (payload : Jsonb) (list : String) : List Jsonb :=
  match payload.get list with
  | some (.arr items) => items
  | _ => []

/-- A stored password; NULL and the empty text are none. -/
def stored (password : Option String) : Option String := password.filter (· ≠ "")

/-- The entry gives the username and the password of the row. -/
def Gives (entry : Jsonb) (id : Uuid) (username password : Option String) : Prop :=
  entry.get "id" = some (.str (uuidOut id)) ∧ entry.get "username" = some (.str (username.getD "")) ∧
    entry.get "password" = (stored password).map .str

/-- The listener lets the endpoint in: it asks for nothing, or for what the endpoint brings. A
password that was not sent is empty. -/
def Authenticates (entry : Jsonb) (endpoint : Endpoint) : Prop :=
  entry.get "auth_enabled" = some (.bool true) →
    entry.get "username" = some (.str endpoint.username) ∧
      (entry.get "password").getD (.str "") = .str endpoint.password

/-- The payload gives the device the credentials its clients are given. -/
structure CredentialsPushed (tenant device : Uuid) (proxies : ProxyDb world.registered) (payload : Jsonb) : Prop where
  instances : ∀ row ∈ proxies.instances, row.tenantId = tenant → row.deviceId = device → row.authEnabled = true →
    ∃ entry ∈ entries payload "instances", Gives entry row.id row.username row.password
  upstreams : ∀ row ∈ proxies.upstreams, row.tenantId = tenant →
    ∃ entry ∈ entries payload "upstreams", Gives entry row.id row.username row.password
  endpoints : ∀ deviceId host endpoints skipped,
    exportEndpoints tenant deviceId host proxies = .ok (endpoints, skipped) →
    ∀ endpoint ∈ endpoints, ∀ entry ∈ entries payload "instances",
      entry.get "id" = some (.str endpoint.id) → Authenticates entry endpoint

/-- No password is stored for a listener of the device that asks for one, nor for an
upstream of the tenant. -/
def NoPasswords (tenant device : Uuid) (proxies : ProxyDb registered) : Prop :=
  (∀ row ∈ proxies.instances, row.tenantId = tenant → row.deviceId = device → row.authEnabled = true →
    stored row.password = none) ∧
  ∀ row ∈ proxies.upstreams, row.tenantId = tenant → stored row.password = none

/-! ## What the payload holds -/

theorem instanceJson_get (row : InstanceRow) :
    (instanceJson row).get "id" = some (.str (uuidOut row.id)) ∧
      (instanceJson row).get "auth_enabled" = some (.bool row.authEnabled) ∧
      (instanceJson row).get "username" = some (.str (row.username.getD "")) ∧
      (instanceJson row).get "password" = none := by
  unfold instanceJson
  cases row.upstreamId with
  | none =>
    rw [get_jsonbObject (by simp), get_jsonbObject (by simp), get_jsonbObject (by simp), get_jsonbObject (by simp)]
    simp
  | some id =>
    rw [get_jsonbObject (by simp), get_jsonbObject (by simp), get_jsonbObject (by simp), get_jsonbObject (by simp)]
    simp

theorem upstreamJson_get (row : UpstreamRow) :
    (upstreamJson row).get "id" = some (.str (uuidOut row.id)) ∧
      (upstreamJson row).get "username" = some (.str (row.username.getD "")) ∧
      (upstreamJson row).get "password" = none := by
  unfold upstreamJson
  rw [get_jsonbObject (by simp), get_jsonbObject (by simp), get_jsonbObject (by simp)]
  simp

theorem entries_configPayload (instances : List InstanceRow) (upstreams : List UpstreamRow) :
    entries (configPayload instances upstreams) "instances" = instances.map instanceJson ∧
      entries (configPayload instances upstreams) "upstreams" = upstreams.map upstreamJson := by
  unfold entries configPayload
  rw [get_jsonbObject (by simp), get_jsonbObject (by simp)]
  simp

/-! ## What a client is given -/

variable {proxies : ProxyDb world.registered}

theorem secrets_read {row : InstanceRow} (member : row ∈ proxies.instances) (own : row.tenantId = tenant) :
    (instanceSecrets tenant proxies).read (uuidOut row.id) = row.password.getD "" := by
  unfold Secrets.read
  -- an entry of this id is of this row
  have mine : ∀ entry ∈ instanceSecrets tenant proxies, entry.1 = uuidOut row.id →
      entry.2 = row.password.getD "" ∧ row.password.getD "" ≠ "" := by
    intro entry inSecrets named
    obtain ⟨other, inTable, made⟩ := List.mem_filterMap.mp inSecrets
    by_cases kept : other.tenantId = tenant ∧ other.password.getD "" ≠ ""
    · rw [if_pos kept, Option.some.injEq] at made
      subst made
      rw [← Table.eq_of_key inTable member (uuidOut_injective named)]
      exact ⟨rfl, kept.2⟩
    · rw [if_neg kept] at made
      cases made
  cases found : (instanceSecrets tenant proxies).find? fun entry => entry.1 = uuidOut row.id with
  | some entry =>
    have named := List.find?_some found
    exact (mine entry (List.mem_of_find?_eq_some found) (by simpa using named)).1
  | none =>
    by_contra differs
    have kept : row.tenantId = tenant ∧ row.password.getD "" ≠ "" := ⟨own, fun same => differs (by simp [same])⟩
    refine List.find?_eq_none.mp found (uuidOut row.id, row.password.getD "") ?_ (by simp)
    exact List.mem_filterMap.mpr ⟨row, member, if_pos kept⟩

theorem exportInstances_ok {instances : List InstanceRow} {secrets : Secrets} {host : String}
    {endpoints : List Endpoint} {skipped : List Unexportable}
    (exported : exportInstances instances secrets host = .ok (endpoints, skipped)) :
    ∀ endpoint ∈ endpoints, ∃ row ∈ instances, ∃ dial, endpoint = endpointOf secrets dial row := by
  have listed : ∃ export_ : InstanceRow → Option Endpoint,
      endpoints = sortByName Endpoint.name (instances.filterMap export_) ∧
      ∀ row, (∃ dial, export_ row = some (endpointOf secrets dial row)) ∨ export_ row = none := by
    simp only [exportInstances] at exported
    split at exported
    · obtain ⟨_, _, exported⟩ := bind_success exported
      cases exported
      refine ⟨_, rfl, fun row => ?_⟩
      cases dialFor (trimSpace host) row with
      | ok dial => exact Or.inl ⟨dial, rfl⟩
      | error _ => exact Or.inr rfl
    · cases exported
      refine ⟨_, rfl, fun row => ?_⟩
      cases dialFor (trimSpace host) row with
      | ok dial => exact Or.inl ⟨dial, rfl⟩
      | error _ => exact Or.inr rfl
  obtain ⟨export_, rfl, kinds⟩ := listed
  intro endpoint member
  obtain ⟨row, inList, made⟩ := List.mem_filterMap.mp ((List.mem_insertionSort _).mp member)
  rcases kinds row with ⟨dial, some_⟩ | none_
  · rw [some_] at made
    exact ⟨row, inList, dial, (Option.some.inj made).symm⟩
  · rw [none_] at made
    cases made

/-- An endpoint comes from a listener of the tenant, with what is stored for it. -/
theorem mem_endpoints {deviceId host : String} {endpoints : List Endpoint} {skipped : List Unexportable}
    (exported : exportEndpoints tenant deviceId host proxies = .ok (endpoints, skipped)) {endpoint : Endpoint}
    (member : endpoint ∈ endpoints) :
    ∃ row ∈ proxies.instances, row.tenantId = tenant ∧ endpoint.id = uuidOut row.id ∧
      (row.authEnabled = true → endpoint.username = row.username.getD "" ∧
        endpoint.password = row.password.getD "") := by
  unfold exportEndpoints at exported
  cases listed : proxies.listInstances world.collate tenant deviceId with
  | error err =>
    rw [listed] at exported
    cases exported
  | ok instances =>
    rw [listed] at exported
    have inTable : ∀ row ∈ instances, row ∈ proxies.instances ∧ row.tenantId = tenant := by
      intro row inList
      unfold ProxyDb.listInstances at listed
      by_cases every : deviceId = ""
      · rw [if_pos every] at listed
        cases listed
        simpa [List.mem_insertionSort, Table.mem_rows] using inList
      · rw [if_neg every] at listed
        obtain ⟨named, _, rfl⟩ := map_success listed
        have facts := List.mem_filter.mp ((List.mem_insertionSort _).mp inList)
        exact ⟨facts.1, by have := facts.2; simp_all⟩
    obtain ⟨row, inList, dial, rfl⟩ := exportInstances_ok exported endpoint member
    obtain ⟨inRows, own⟩ := inTable row inList
    refine ⟨row, inRows, own, rfl, fun asked => ⟨if_pos asked, ?_⟩⟩
    exact (if_pos asked).trans (secrets_read inRows own)

/-! ## When the two agree -/

theorem stored_eq_none {password : Option String} : stored password = none ↔ password.getD "" = "" := by
  cases password with
  | none => simp [stored]
  | some text => simp [stored, Option.filter]

/-- The device is sent the credentials its clients are given exactly when no password is stored. -/
theorem credentials_pushed_iff (draw : Draw) (deviceId : String) (named : uuidIn deviceId = .ok device)
    (proxies : ProxyDb world.registered) :
    (∃ args, configCommand world draw tenant deviceId proxies = .ok args ∧
      CredentialsPushed tenant device proxies args.payload) ↔ NoPasswords tenant device proxies := by
  obtain ⟨payload, _, ⟨instances, upstreams, rfl, _, _, listed, upstreamsListed⟩, command⟩ :=
    @configCommand_ok world draw tenant device ⟨proxies, CommandDb.empty⟩ deviceId named
  obtain ⟨instanceEntries, upstreamEntries⟩ := entries_configPayload instances upstreams
  constructor
  · rintro ⟨args, made, pushed⟩
    rw [command] at made
    cases made
    refine ⟨fun row member own mine asked => ?_, fun row member own => ?_⟩
    · obtain ⟨entry, inEntries, _, _, given⟩ := pushed.instances row member own mine asked
      rw [instanceEntries] at inEntries
      obtain ⟨other, _, rfl⟩ := List.mem_map.mp inEntries
      rw [(instanceJson_get other).2.2.2] at given
      exact Option.map_eq_none_iff.mp given.symm
    · obtain ⟨entry, inEntries, _, _, given⟩ := pushed.upstreams row member own
      rw [upstreamEntries] at inEntries
      obtain ⟨other, _, rfl⟩ := List.mem_map.mp inEntries
      rw [(upstreamJson_get other).2.2] at given
      exact Option.map_eq_none_iff.mp given.symm
  · rintro ⟨noneHere, noneUpstream⟩
    refine ⟨_, command, ⟨fun row member own mine asked => ?_, fun row member own => ?_, ?_⟩⟩
    · refine ⟨instanceJson row, ?_, (instanceJson_get row).1, (instanceJson_get row).2.2.1, ?_⟩
      · rw [instanceEntries]
        exact List.mem_map.mpr ⟨row, (listed row).mpr ⟨member, own, mine⟩, rfl⟩
      · rw [(instanceJson_get row).2.2.2, noneHere row member own mine asked]
        rfl
    · refine ⟨upstreamJson row, ?_, (upstreamJson_get row).1, (upstreamJson_get row).2.1, ?_⟩
      · rw [upstreamEntries]
        exact List.mem_map.mpr ⟨row, (upstreamsListed row).mpr ⟨member, own⟩, rfl⟩
      · rw [(upstreamJson_get row).2.2, noneUpstream row member own]
        rfl
    · intro filter host endpoints skipped exported endpoint inEndpoints entry inEntries sameId asked
      rw [instanceEntries] at inEntries
      obtain ⟨row, inList, rfl⟩ := List.mem_map.mp inEntries
      obtain ⟨member, own, mine⟩ := (listed row).mp inList
      obtain ⟨other, inTable, _, otherId, given⟩ := mem_endpoints exported inEndpoints
      obtain ⟨readId, readAuth, readName, readPassword⟩ := instanceJson_get row
      rw [readId, otherId, Option.some.injEq, Jsonb.str.injEq] at sameId
      obtain rfl := Table.eq_of_key inTable member (uuidOut_injective sameId.symm)
      rw [readAuth, Option.some.injEq, Jsonb.bool.injEq] at asked
      obtain ⟨username, password⟩ := given asked
      rw [readName, readPassword, username, password, stored_eq_none.mp (noneHere other member own mine asked)]
      exact ⟨rfl, rfl⟩

/-- A listener that asks for a username alone, and one that asks for a password too. -/
def named : Instance := { listener with authEnabled := true, username := "user", upstreamId := "" }

def protected_ : Instance := { named with password := "secret" }

theorem username_alone_pushed :
    uuidIn (uuidOut 2) = .ok 2 ∧
      ∃ args, configCommand plainServer (drawAt 2) 1 (uuidOut 2) (served [(1, .saveInstance "" named)]).proxies = .ok args ∧
        CredentialsPushed 1 2 (served [(1, .saveInstance "" named)]).proxies args.payload := by
  have device : uuidIn (uuidOut 2) = .ok 2 := by decide
  refine ⟨device, (credentials_pushed_iff (drawAt 2) (uuidOut 2) device _).mpr ?_⟩
  unfold NoPasswords
  decide

/-- The password of the only listener is stored and is in no command. -/
theorem stored_password_not_pushed :
    (served [(1, .saveInstance "" protected_)]).proxies.instances.rows.map InstanceRow.password = [some "secret"] ∧
      (served [(1, .saveInstance "" protected_)]).commands.commands.rows.map
        (fun command => (entries command.payload "instances").map (·.get "password")) = [[none]] ∧
      ¬ ∃ args, configCommand plainServer (drawAt 2) 1 (uuidOut 2) (served [(1, .saveInstance "" protected_)]).proxies =
          .ok args ∧ CredentialsPushed 1 2 (served [(1, .saveInstance "" protected_)]).proxies args.payload := by
  have facts : (served [(1, .saveInstance "" protected_)]).proxies.instances.rows.map InstanceRow.password =
        [some "secret"] ∧
      (served [(1, .saveInstance "" protected_)]).commands.commands.rows.map
        (fun command => (entries command.payload "instances").map (·.get "password")) = [[none]] ∧
      (∃ row ∈ (served [(1, .saveInstance "" protected_)]).proxies.instances, row.tenantId = 1 ∧ row.deviceId = 2 ∧
        row.authEnabled = true ∧ stored row.password ≠ none) ∧
      ((configCommand plainServer (drawAt 2) 1 (uuidOut 2)
        (served [(1, .saveInstance "" protected_)]).proxies).toOption.map fun args =>
          (entries args.payload "instances").map (·.get "password")) = some [none] := by
    decide
  refine ⟨facts.1, facts.2.1, ?_⟩
  rintro ⟨args, made, pushed⟩
  obtain ⟨row, member, own, mine, asked, kept⟩ := facts.2.2.1
  obtain ⟨entry, inEntries, _, _, given⟩ := pushed.instances row member own mine asked
  have absent := facts.2.2.2
  rw [made] at absent
  have absent : (entries args.payload "instances").map (·.get "password") = [none] := Option.some.inj absent
  have listed : entry.get "password" ∈ (entries args.payload "instances").map (·.get "password") :=
    List.mem_map.mpr ⟨entry, inEntries, rfl⟩
  rw [absent, List.mem_singleton, given] at listed
  exact kept (Option.map_eq_none_iff.mp listed)

end VodogeCloud.Guarantees.ProxyCredentials
