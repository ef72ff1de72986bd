import VodogeCloud.Lib.Calls
import VodogeCloud.Lib.Transactions
import VodogeCloud.Source.Enrollment

/-!
# The device quota under concurrent enrolments

`checkDeviceQuota` counts the committed devices, and a transaction that has passed it
adds one of its own later. Transactions do not see each other's devices, so two of them
fill the last place twice. The quota is a bound where a call counts only while there is
room for it beside every enrolment of the tenant that has passed the check and is not over.
-/

set_option autoImplicit false

namespace VodogeCloud.Guarantees.DeviceQuota

open VodogeCloud.Lib VodogeCloud.Lib.Transactions VodogeCloud.Source.Postgres
open VodogeCloud.Source.Enrollment

/-! ## Enrolments under way -/

/-- The call has passed the check and its transaction is not over. -/
def underway (call : Issue) : Bool :=
  match call.phase with
  | .counted => true
  | .consumed _ _ => true
  | .inserted _ _ _ => true
  | _ => false

def holds (tenant : Uuid) (call : Issue) : Bool := call.tenantId = tenant && underway call

/-- The places of a tenant that are taken and not yet filled. -/
def pending (state : State) (tenant : Uuid) : Nat := state.issues.countP (holds tenant)

/-- A call counts only while the quota has room beside the enrolments under way. -/
def Roomy (tenant : Uuid) (quota : Int) (state : State) : Event → Prop
  | .count index => ∀ call ∈ state.issues[index]?, call.tenantId = tenant → call.phase = .started →
      (enrolled state.db tenant : Int) < quota → (enrolled state.db tenant : Int) + pending state tenant < quota
  | _ => True

section Runs

variable {quotas : Uuid → Option Int} {tenant : Uuid} {quota : Int} {state : State}

/-- The statement of a call that takes no new place. -/
theorem pending_proceed_le {index : Nat} {next : Issue → Phase}
    (keeps : ∀ call, state.issues[index]? = some call → holds tenant { call with phase := next call } = true →
      holds tenant call = true) :
    pending (state.proceed index next) tenant ≤ pending state tenant := by
  have counts := Calls.countP_modify (holds tenant) (fun call => { call with phase := next call }) state.issues index
  unfold pending State.proceed
  dsimp only at counts ⊢
  cases found : state.issues[index]? with
  | none =>
    rw [found] at counts
    simp only [Option.elim_none] at counts
    omega
  | some call =>
    rw [found] at counts
    simp only [Option.elim_some] at counts
    by_cases after : holds tenant { call with phase := next call } = true
    · rw [if_pos after, if_pos (keeps call found after)] at counts
      omega
    · rw [if_neg after] at counts
      omega

/-- Beside one place that is given up or filled. -/
theorem pending_proceed_lt {index : Nat} {next : Issue → Phase} {call : Issue}
    (found : state.issues[index]? = some call) (before : holds tenant call = true)
    (after : holds tenant { call with phase := next call } = false) :
    pending (state.proceed index next) tenant + 1 = pending state tenant := by
  have counts := Calls.countP_modify (holds tenant) (fun call => { call with phase := next call }) state.issues index
  rw [found] at counts
  simp only [Option.elim_some, before, after, if_true, Bool.false_eq_true, if_false] at counts
  exact counts

theorem pending_proceed_le_succ {index : Nat} {next : Issue → Phase} :
    pending (state.proceed index next) tenant ≤ pending state tenant + 1 := by
  have counts := Calls.countP_modify (holds tenant) (fun call => { call with phase := next call }) state.issues index
  unfold pending State.proceed
  dsimp only at counts ⊢
  cases found : state.issues[index]? with
  | none =>
    rw [found] at counts
    simp only [Option.elim_none] at counts
    omega
  | some call =>
    rw [found] at counts
    simp only [Option.elim_some] at counts
    split at counts <;> split at counts <;> omega

/-! ## The invariant -/

/-- What a transaction wrote and has not committed. -/
def wrote : Phase → Option (DeviceRow × CodeRow)
  | .consumed device code => some (device, code)
  | .inserted device code _ => some (device, code)
  | _ => none

/-- The device a transaction wrote is one of its own tenant, and the code its own. -/
def OwnDevice (call : Issue) : Prop :=
  ∀ device code, wrote call.phase = some (device, code) → device.tenantId = call.tenantId ∧ code.code = call.code

/-- The devices of the tenant and the places taken stay within the quota. -/
structure Within (tenant : Uuid) (quota : Int) (state : State) : Prop where
  bound : (enrolled state.db tenant : Int) + pending state tenant ≤ quota
  own : ∀ call ∈ state.issues, OwnDevice call

/-- What an accepted code brings: a device of the tenant, and the unused code bound to it. -/
theorem consumeEnrollmentCode_ok {db : EnrollDb} {owner : Uuid} {code hint : String} {id : Uuid} {now : Timestamp}
    {device : DeviceRow} {row : CodeRow} (h : consumeEnrollmentCode db owner code hint id now = .ok (device, row)) :
    (device.tenantId = owner ∧ row.code = code) ∧
      ∃ stored ∈ db.codes, stored.tenantId = owner ∧ stored.usedAt = none ∧ row = useCode now device.id stored := by
  unfold consumeEnrollmentCode at h
  split at h
  · cases h
  · split at h
    · cases h
    · split at h
      · cases h
      · split at h
        · cases h
        · next stored found =>
          split at h
          · cases h
          · next unused =>
            split at h
            · cases h
            · cases h
              obtain ⟨inCodes, ofTenant⟩ := Option.filter_eq_some_iff.mp found
              obtain ⟨member, named⟩ := Table.find_eq_some_iff.mp inCodes
              exact ⟨⟨rfl, named⟩, stored, member, by simpa using ofTenant, not_not.mp unused, rfl⟩

theorem mem_proceed {index : Nat} {next : Issue → Phase} {call : Issue}
    (member : call ∈ (state.proceed index next).issues) :
    call ∈ state.issues ∨ ∃ old ∈ state.issues, call = { old with phase := next old } := by
  rcases Calls.mem_moved member with ⟨place, _, kept⟩ | ⟨old, before, moved⟩
  · exact Or.inl (List.mem_of_getElem? kept)
  · exact Or.inr ⟨old, List.mem_of_getElem? before, moved⟩

theorem own_proceed {index : Nat} {next : Issue → Phase} (own : ∀ call ∈ state.issues, OwnDevice call)
    (kept : ∀ call, OwnDevice call → OwnDevice { call with phase := next call }) :
    ∀ call ∈ (state.proceed index next).issues, OwnDevice call := by
  intro call member
  rcases mem_proceed member with old | ⟨old, inIssues, rfl⟩
  · exact own call old
  · exact kept old (own old inIssues)

/-! ## What one statement does -/

theorem count_own {db : EnrollDb} (call : Issue) (own : OwnDevice call) :
    OwnDevice { call with phase := count quotas db call } := by
  intro device code written
  unfold count at written
  split at written
  · split at written <;> cases written
  · exact own device code written

theorem consume_own {id : Uuid} {now : Timestamp} (call : Issue) (own : OwnDevice call) :
    OwnDevice { call with phase := consume state id now call } := by
  intro device code written
  unfold consume at written
  split at written
  · split at written
    · cases written
    · split at written
      · cases written
      · next consumed =>
        cases written
        exact (consumeEnrollmentCode_ok consumed).1
  · exact own device code written

theorem insertCertificate_own {db : EnrollDb} {certificate : Option CertificateRow} (call : Issue) (own : OwnDevice call) :
    OwnDevice { call with phase := insertCertificate db certificate call } := by
  intro device code written
  unfold insertCertificate at written
  split at written
  · next held =>
    split at written
    · cases written
    · split at written
      · cases written
      · cases written
        exact own device code (by rw [held]; rfl)
  · exact own device code written

theorem abandon_own (call : Issue) : OwnDevice { call with phase := abandon call } := by
  intro device code written
  unfold abandon at written
  split at written <;> cases written

theorem consume_keeps {id : Uuid} {now : Timestamp} (call : Issue)
    (after : holds tenant { call with phase := consume state id now call } = true) : holds tenant call = true := by
  unfold holds underway consume at *
  split at after
  · next held =>
    simp only [Bool.and_eq_true] at after ⊢
    exact ⟨after.1, by rw [held]⟩
  · exact after

theorem insertCertificate_keeps {db : EnrollDb} {certificate : Option CertificateRow} (call : Issue)
    (after : holds tenant { call with phase := insertCertificate db certificate call } = true) : holds tenant call = true := by
  unfold holds underway insertCertificate at *
  split at after
  · next held =>
    simp only [Bool.and_eq_true] at after ⊢
    exact ⟨after.1, by rw [held]⟩
  · exact after

theorem abandon_keeps (call : Issue) (after : holds tenant { call with phase := abandon call } = true) :
    holds tenant call = true := by
  unfold holds underway abandon at *
  split at after <;> simp at after

/-- The check lets a call pass that finds fewer devices than the quota. -/
theorem count_takes {db : EnrollDb} {call : Issue} (limited : quotas tenant = some quota)
    (before : holds tenant call = false)
    (after : holds tenant { call with phase := count quotas db call } = true) :
    call.tenantId = tenant ∧ call.phase = .started ∧ (enrolled db tenant : Int) < quota := by
  unfold holds at before after
  have owner : call.tenantId = tenant := by
    simp only [Bool.and_eq_true, decide_eq_true_eq] at after
    exact after.1
  refine ⟨owner, ?_⟩
  rw [owner] at before after
  simp only [decide_true, Bool.true_and] at before after
  unfold count at after
  split at after
  · next held =>
    refine ⟨held, ?_⟩
    rw [owner, limited] at after
    unfold checkDeviceQuota at after
    dsimp only at after
    by_cases full : quota ≤ (enrolled db tenant : Int)
    · rw [if_pos full] at after
      cases after
    · omega
  · have same : underway call = true := after
    rw [before] at same
    cases same

theorem count_within (limited : quotas tenant = some quota) {index : Nat} (within : Within tenant quota state)
    (roomy : Roomy tenant quota state (.count index)) :
    Within tenant quota (state.proceed index (count quotas state.db)) := by
  refine ⟨?_, own_proceed within.own count_own⟩
  show (enrolled state.db tenant : Int) + pending (state.proceed index (count quotas state.db)) tenant ≤ quota
  by_cases taken : ∃ call, state.issues[index]? = some call ∧ holds tenant call = false ∧
      holds tenant { call with phase := count quotas state.db call } = true
  · obtain ⟨call, found, before, after⟩ := taken
    obtain ⟨owner, started, room⟩ := count_takes limited before after
    have fits := roomy call found owner started room
    have grown := @pending_proceed_le_succ tenant state index (count quotas state.db)
    omega
  · have same := @pending_proceed_le tenant state index (count quotas state.db) fun call found after => by
      by_contra before
      exact taken ⟨call, found, by simpa using before, after⟩
    have bound := within.bound
    omega

theorem proceed_within {index : Nat} {next : Issue → Phase} (within : Within tenant quota state)
    (kept : ∀ call, OwnDevice call → OwnDevice { call with phase := next call })
    (keeps : ∀ call, holds tenant { call with phase := next call } = true → holds tenant call = true) :
    Within tenant quota (state.proceed index next) := by
  refine ⟨?_, own_proceed within.own kept⟩
  have fewer := @pending_proceed_le tenant state index next fun call _ => keeps call
  have bound := within.bound
  show (enrolled state.db tenant : Int) + pending (state.proceed index next) tenant ≤ quota
  omega

theorem commit_ok {device : DeviceRow} {code : CodeRow} {certificate : CertificateRow} {db after : EnrollDb}
    (h : commit device code certificate db = .ok after) :
    after.devices.rows = db.devices.rows ++ [device] ∧
      ∀ row, row ∈ after.codes ↔ ∃ old ∈ db.codes, row = if old.code = code.code then writeCode code old else old := by
  unfold commit at h
  split at h
  · split at h
    · split at h
      · cases h
      · split at h
        · cases h
        · cases h
          refine ⟨rfl, fun row => ?_⟩
          have members := @Table.mem_update _ _ CodeRow.code db.codes (fun row => row.code = code.code) (writeCode code)
            (writeCode_code code) row
          simpa only [decide_eq_true_eq] using members
    · cases h
  · cases h

theorem commit_within {index : Nat} (within : Within tenant quota state) :
    Within tenant quota (commitIssue state index) := by
  unfold commitIssue
  cases written : state.issues[index]?.bind Issue.written with
  | none => exact within
  | some triple =>
    obtain ⟨device, code, certificate⟩ := triple
    obtain ⟨call, found, about⟩ := Option.bind_eq_some_iff.mp written
    have held := Issue.written_some about
    dsimp only
    cases done : commit device code certificate state.db with
    | error err =>
      exact proceed_within within (fun _ _ _ _ written => nomatch written) fun _ after => by
        simp [holds, underway] at after
    | ok db =>
      obtain ⟨devices, _⟩ := commit_ok done
      refine ⟨?_, own_proceed within.own fun _ _ _ _ written => nomatch written⟩
      show (enrolled db tenant : Int) +
        pending (state.proceed index fun _ => .committed device.id) tenant ≤ quota
      have bound := within.bound
      have counted : enrolled db tenant = enrolled state.db tenant + if device.tenantId = tenant then 1 else 0 := by
        unfold enrolled
        rw [devices, List.countP_append, List.countP_singleton]
        simp
      by_cases mine : device.tenantId = tenant
      · have owner := (within.own call (List.mem_of_getElem? found) device code (by rw [held]; rfl)).1
        have filled := @pending_proceed_lt tenant state index (fun _ => .committed device.id) call found
          (by simp [holds, underway, held, ← owner, mine]) (by simp [holds, underway])
        rw [if_pos mine] at counted
        omega
      · have fewer := @pending_proceed_le tenant state index (fun _ => .committed device.id) fun _ _ after => by
          simp [holds, underway] at after
        rw [if_neg mine] at counted
        omega

theorem step_within (limited : quotas tenant = some quota) (state : State) (event : Event)
    (within : Within tenant quota state) (roomy : Roomy tenant quota state event) :
    Within tenant quota (step quotas state event) := by
  cases event with
  | issue owner code hint =>
    refine ⟨?_, fun call member => ?_⟩
    · have bound := within.bound
      have same : pending (step quotas state (.issue owner code hint)) tenant = pending state tenant := by
        unfold pending step
        rw [List.countP_append]
        simp [holds, underway]
      rw [same]
      exact bound
    · rcases List.mem_append.mp member with old | new
      · exact within.own call old
      · rw [List.mem_singleton.mp new]
        exact fun _ _ written => nomatch written
  | count index => exact count_within limited within roomy
  | consume index device now => exact proceed_within within consume_own consume_keeps
  | insert index certificate => exact proceed_within within insertCertificate_own insertCertificate_keeps
  | commit index => exact commit_within within
  | abandon index => exact proceed_within within (fun call _ => abandon_own call) abandon_keeps

/-! ## The codes -/

/-- The codes that calls bring, in order. -/
def codesOf (events : List Event) : List String :=
  events.filterMap fun event =>
    match event with
    | .issue _ code _ => some code
    | _ => none

theorem codes_proceed {index : Nat} {next : Issue → Phase} :
    (state.proceed index next).issues.map Issue.code = state.issues.map Issue.code := by
  apply List.ext_getElem?
  intro place
  unfold State.proceed
  rw [List.getElem?_map, List.getElem?_map, List.getElem?_modify]
  cases state.issues[place]? with
  | none => rfl
  | some call =>
    by_cases same : index = place
    · simp [same]
    · simp [same]

theorem codes_commitIssue {index : Nat} : (commitIssue state index).issues.map Issue.code = state.issues.map Issue.code := by
  unfold commitIssue
  split
  · rfl
  · split
    · exact codes_proceed
    · exact codes_proceed

theorem codes_step (event : Event) :
    (step quotas state event).issues.map Issue.code = state.issues.map Issue.code ++ codesOf [event] := by
  cases event with
  | issue owner code hint => exact List.map_append
  | count index => exact codes_proceed.trans (List.append_nil _).symm
  | consume index device now => exact codes_proceed.trans (List.append_nil _).symm
  | insert index certificate => exact codes_proceed.trans (List.append_nil _).symm
  | commit index => exact codes_commitIssue.trans (List.append_nil _).symm
  | abandon index => exact codes_proceed.trans (List.append_nil _).symm

theorem codes_run (events : List Event) :
    (events.foldl (step quotas) state).issues.map Issue.code = state.issues.map Issue.code ++ codesOf events := by
  induction events generalizing state with
  | nil => exact (List.append_nil _).symm
  | cons event rest ih =>
    rw [List.foldl_cons, ih, codes_step, List.append_assoc]
    congr 1
    exact List.filterMap_append.symm

theorem mem_proceed_of_fixed {index : Nat} {next : Issue → Phase} {call : Issue} (member : call ∈ state.issues)
    (fixed : next call = call.phase) : call ∈ (state.proceed index next).issues := by
  obtain ⟨place, found⟩ := List.mem_iff_getElem?.mp member
  refine List.mem_iff_getElem?.mpr ⟨place, ?_⟩
  unfold State.proceed
  rw [List.getElem?_modify, found]
  by_cases same : index = place
  · simp [same, fixed]
  · simp [same]

/-- A code is used only by a call that committed with it, or was used from the start. -/
def Accounted (first : EnrollDb) (state : State) : Prop :=
  ∀ row ∈ state.db.codes, row.usedAt ≠ none →
    (∃ old ∈ first.codes, old.code = row.code ∧ old.usedAt ≠ none) ∨
    ∃ call ∈ state.issues, call.code = row.code ∧ ∃ device, call.phase = .committed device

theorem proceed_accounted {first : EnrollDb} {index : Nat} {next : Issue → Phase} (accounted : Accounted first state)
    (fixed : ∀ call device, call.phase = .committed device → next call = call.phase) :
    Accounted first (state.proceed index next) := by
  intro row member used
  rcases accounted row member used with old | ⟨call, inIssues, same, device, committed⟩
  · exact Or.inl old
  · exact Or.inr ⟨call, mem_proceed_of_fixed inIssues (fixed call device committed), same, device, committed⟩

theorem commit_accounted {first : EnrollDb} {index : Nat} (own : ∀ call ∈ state.issues, OwnDevice call)
    (accounted : Accounted first state) : Accounted first (commitIssue state index) := by
  unfold commitIssue
  cases written : state.issues[index]?.bind Issue.written with
  | none => exact accounted
  | some triple =>
    obtain ⟨device, code, certificate⟩ := triple
    obtain ⟨call, found, about⟩ := Option.bind_eq_some_iff.mp written
    have held := Issue.written_some about
    dsimp only
    have others : ∀ other ∈ state.issues, ∀ id, other.phase = .committed id →
        ∀ next : Issue → Phase, other ∈ (state.proceed index next).issues := by
      intro other member id committed next
      obtain ⟨place, there⟩ := List.mem_iff_getElem?.mp member
      refine List.mem_iff_getElem?.mpr ⟨place, ?_⟩
      unfold State.proceed
      rw [List.getElem?_modify, there]
      by_cases same : index = place
      · rw [same, there] at found
        cases found
        rw [held] at committed
        cases committed
      · simp [same]
    cases done : commit device code certificate state.db with
    | error err =>
      intro row member used
      rcases accounted row member used with old | ⟨other, inIssues, same, id, committed⟩
      · exact Or.inl old
      · exact Or.inr ⟨other, others other inIssues id committed _, same, id, committed⟩
    | ok db =>
      intro row member used
      obtain ⟨before, inCodes, written⟩ := ((commit_ok done).2 row).mp member
      by_cases mine : before.code = code.code
      · have own_ := (own call (List.mem_of_getElem? found) device code (by rw [held]; rfl)).2
        have named : row.code = code.code := by
          rw [written, if_pos mine]
          exact mine
        refine Or.inr ⟨{ call with phase := .committed device.id }, ?_, own_.symm.trans named.symm, device.id, rfl⟩
        refine List.mem_iff_getElem?.mpr ⟨index, ?_⟩
        show (state.issues.modify index _)[index]? = _
        rw [List.getElem?_modify_eq, found]
        rfl
      · rw [if_neg mine] at written
        rcases accounted row (written ▸ inCodes) used with old | ⟨other, inIssues, same, id, committed⟩
        · exact Or.inl old
        · exact Or.inr ⟨other, others other inIssues id committed _, same, id, committed⟩

theorem step_accounted {first : EnrollDb} (event : Event) (own : ∀ call ∈ state.issues, OwnDevice call)
    (accounted : Accounted first state) : Accounted first (step quotas state event) := by
  cases event with
  | issue owner code hint =>
    intro row member used
    rcases accounted row member used with old | ⟨call, inIssues, about⟩
    · exact Or.inl old
    · exact Or.inr ⟨call, List.mem_append_left _ inIssues, about⟩
  | count index =>
    refine proceed_accounted accounted fun call device committed => ?_
    rw [count, committed]
  | consume index device now =>
    refine proceed_accounted accounted fun call device committed => ?_
    rw [consume, committed]
  | insert index certificate =>
    refine proceed_accounted accounted fun call device committed => ?_
    rw [insertCertificate, committed]
  | commit index => exact commit_accounted own accounted
  | abandon index =>
    refine proceed_accounted accounted fun call device committed => ?_
    rw [abandon, committed]

/-! ## Whole runs -/

def run (quotas : Uuid → Option Int) (db : EnrollDb) (events : List Event) : State :=
  events.foldl (step quotas) ⟨db, []⟩

/-- In every run whose calls count while there is room beside the enrolments under way, the
tenant stays within its quota, and a call that is refused for the quota leaves its code unused. -/
theorem quota_bounds_devices (quotas : Uuid → Option Int) (tenant : Uuid) (quota : Int)
    (limited : quotas tenant = some quota) (db : EnrollDb) (fits : (enrolled db tenant : Int) ≤ quota)
    (events : List Event) (distinct : (codesOf events).Nodup)
    (valid : ∀ code ∈ codesOf events, ∀ row ∈ db.codes, row.code = code → row.usedAt = none)
    (roomy : Guarded (step quotas) (Roomy tenant quota) ⟨db, []⟩ events) :
    (enrolled (run quotas db events).db tenant : Int) ≤ quota ∧
    ∀ call ∈ (run quotas db events).issues, ∀ found limit, call.phase = .refused (.quotaExceeded found limit) →
      ∀ row ∈ (run quotas db events).db.codes, row.code = call.code → row.usedAt = none := by
  have kept : Within tenant quota (run quotas db events) ∧ Accounted db (run quotas db events) := by
    refine foldl_guarded (P := fun state => Within tenant quota state ∧ Accounted db state)
      (fun state event both room => ⟨step_within limited state event both.1 room,
        step_accounted event both.1.own both.2⟩) _ ⟨⟨?_, fun call member => by simp at member⟩, ?_⟩ events roomy
    · show (enrolled db tenant : Int) + (0 : Nat) ≤ quota
      omega
    · exact fun row member used => Or.inl ⟨row, member, rfl, used⟩
  refine ⟨?_, fun call member found limit refused row inCodes same => ?_⟩
  · have bound := kept.1.bound
    omega
  · by_contra used
    have codes : (run quotas db events).issues.map Issue.code = codesOf events := codes_run events
    rcases kept.2 row inCodes used with ⟨old, inFirst, sameOld, usedOld⟩ | ⟨other, inIssues, sameOther, device, committed⟩
    · refine usedOld (valid call.code ?_ old inFirst (sameOld.trans same))
      rw [← codes]
      exact List.mem_map_of_mem member
    · rw [← codes] at distinct
      have equal := List.inj_on_of_nodup_map distinct inIssues member (sameOther.trans same)
      rw [equal, refused] at committed
      cases committed

end Runs

/-! ## Two enrolments for one place -/

instance (tenant : Uuid) (quota : Int) (state : State) (event : Event) : Decidable (Roomy tenant quota state event) :=
  match event with
  | .count _ => inferInstanceAs (Decidable (∀ call ∈ state.issues[_]?, _ → _ → _ → _))
  | .issue _ _ _ => .isTrue trivial
  | .consume _ _ _ => .isTrue trivial
  | .insert _ _ => .isTrue trivial
  | .commit _ => .isTrue trivial
  | .abandon _ => .isTrue trivial

def shopTenants : List TenantRow := [⟨1, "eu", "active"⟩]

def shopCodes : List CodeRow := [⟨"A", 1, 100, none, none⟩, ⟨"B", 1, 100, none, none⟩]

theorem shopTenants_unique : (shopTenants.map TenantRow.id).Nodup := by decide

theorem shopCodes_unique : (shopCodes.map CodeRow.code).Nodup := by decide

/-- A tenant with one place and two codes. -/
def shop : EnrollDb where
  tenants := ⟨shopTenants, shopTenants_unique⟩
  devices := Table.empty
  codes := ⟨shopCodes, shopCodes_unique⟩
  certificates := Table.empty

def onePlace (tenant : Uuid) : Option Int := if tenant = 1 then some 1 else none

def certificate (serial : String) (mark : Char) (device : Uuid) : CertificateRow :=
  ⟨String.ofList (List.replicate 64 mark), serial, 1, device, 0, 1⟩

/-- The statements of a call from its check on. -/
def enrolment (index : Nat) (device : Uuid) (certificate : CertificateRow) : List Event :=
  [.consume index device 50, .insert index (some certificate), .commit index]

/-- One after the other. -/
def inTurn : List Event :=
  [.issue 1 "A" "", .count 0] ++ enrolment 0 10 (certificate "s" 'a' 10) ++ [.issue 1 "B" "", .count 1] ++
    enrolment 1 11 (certificate "t" 'b' 11)

theorem in_turn_one_device :
    (run onePlace shop inTurn).issues.map Issue.phase = [.committed 10, .refused (.quotaExceeded 1 1)] ∧
    (enrolled (run onePlace shop inTurn).db 1 : Int) ≤ 1 ∧
    ∀ row ∈ (run onePlace shop inTurn).db.codes, row.code = "B" → row.usedAt = none := by
  have facts : (run onePlace shop inTurn).issues =
        [⟨1, "A", "", .committed 10⟩, ⟨1, "B", "", .refused (.quotaExceeded 1 1)⟩] ∧
      (codesOf inTurn).Nodup ∧
      (∀ code ∈ codesOf inTurn, ∀ row ∈ shop.codes, row.code = code → row.usedAt = none) ∧
      Guarded (step onePlace) (Roomy 1 1) ⟨shop, []⟩ inTurn := by
    decide +kernel
  have bounds := quota_bounds_devices onePlace 1 1 rfl shop (by decide) inTurn facts.2.1 facts.2.2.1 facts.2.2.2
  refine ⟨by rw [facts.1]; rfl, bounds.1, ?_⟩
  exact bounds.2 ⟨1, "B", "", .refused (.quotaExceeded 1 1)⟩ (by rw [facts.1]; simp) 1 1 rfl

/-- Both count before either commits. -/
def together : List Event :=
  [.issue 1 "A" "", .issue 1 "B" "", .count 0, .count 1] ++ enrolment 0 10 (certificate "s" 'a' 10) ++
    enrolment 1 11 (certificate "t" 'b' 11)

theorem together_two_devices :
    onePlace 1 = some 1 ∧ (enrolled shop 1 : Int) ≤ 1 ∧ (codesOf together).Nodup ∧
    (∀ code ∈ codesOf together, ∀ row ∈ shop.codes, row.code = code → row.usedAt = none) ∧
    ¬(enrolled (run onePlace shop together).db 1 : Int) ≤ 1 := by
  decide +kernel

end VodogeCloud.Guarantees.DeviceQuota
