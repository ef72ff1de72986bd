import VodogeCloud.Guarantees.DeviceQuota

/-!
# One code, one device

However calls of `Issue` interleave and wherever they stop, a code brings in at most one
device. The lock on the code carries it: of the transactions that are not over at most one
has written a given code, and the committed code it found is still the unused one.
-/

set_option autoImplicit false

namespace VodogeCloud.Guarantees.SingleUseCodes

open VodogeCloud.Lib VodogeCloud.Lib.Transactions VodogeCloud.Source.Postgres VodogeCloud.Source.Enrollment
open VodogeCloud.Guarantees.DeviceQuota

variable {quotas : Uuid → Option Int} {first : EnrollDb} {state : State}

/-- The call is over and its device is there. -/
def enrolls (call : Issue) : Bool :=
  match call.phase with
  | .committed _ => true
  | _ => false

theorem enrolls_iff {call : Issue} : enrolls call = true ↔ ∃ device, call.phase = .committed device := by
  unfold enrolls
  cases call.phase <;> simp

/-- The code of a call that enrolled a device is bound to it, and was unused at first. -/
structure Bound (first : EnrollDb) (state : State) (call : Issue) (device : Uuid) : Prop where
  code : ∃ row ∈ state.db.codes, row.code = call.code ∧ row.tenantId = call.tenantId ∧
    row.usedAt ≠ none ∧ row.deviceId = some device
  unused : ∃ row ∈ first.codes, row.code = call.code ∧ row.tenantId = call.tenantId ∧ row.usedAt = none
  device : ∃ row ∈ state.db.devices, row.id = device ∧ row.tenantId = call.tenantId

structure OncePerCode (first : EnrollDb) (state : State) : Prop where
  once : Calls.Lone enrolls Issue.code state.issues
  bound : ∀ call ∈ state.issues, ∀ device, call.phase = .committed device → Bound first state call device
  rest : ∀ row ∈ state.db.codes, row ∈ first.codes ∨ ∃ call ∈ state.issues, enrolls call = true ∧ call.code = row.code
  devices : state.db.devices.rows.length = first.devices.rows.length + state.issues.countP enrolls
  certificates : state.db.certificates.rows.length =
    first.certificates.rows.length + state.issues.countP enrolls

/-! ## The lock -/

/-- A transaction that wrote a code has the only lock on it, and the code is still unused. -/
structure Locked (first : EnrollDb) (state : State) : Prop where
  own : ∀ call ∈ state.issues, OwnDevice call
  alone : Calls.Lone (fun call => (wrote call.phase).isSome) Issue.code state.issues
  stored : ∀ call ∈ state.issues, ∀ device code, wrote call.phase = some (device, code) →
    ∃ row ∈ state.db.codes, row.tenantId = call.tenantId ∧ row.usedAt = none ∧
      ∃ now, code = useCode now device.id row
  origin : ∀ row ∈ state.db.codes, row.usedAt = none → row ∈ first.codes

theorem locks_of_wrote {call : Issue} (own : OwnDevice call) (holds : (wrote call.phase).isSome = true) :
    call.locks call.code = true := by
  obtain ⟨⟨device, code⟩, written⟩ := Option.isSome_iff_exists.mp holds
  have same := (own device code written).2
  unfold Issue.locks
  cases held : call.phase with
  | consumed =>
    rw [held] at written
    cases written
    exact decide_eq_true same
  | inserted =>
    rw [held] at written
    cases written
    exact decide_eq_true same
  | _ =>
    rw [held] at written
    cases written

/-- What a statement may make of a call: nothing new is written, or a code that nobody has
locked and that is unused. -/
def Calm (state : State) (next : Issue → Phase) (call : Issue) : Prop :=
  (∀ device, next call = .committed device ↔ call.phase = .committed device) ∧
  OwnDevice { call with phase := next call } ∧
  ∀ device code, wrote (next call) = some (device, code) →
    wrote call.phase = some (device, code) ∨
      (state.issues.any (·.locks call.code) = false ∧
        ∃ row ∈ state.db.codes, row.tenantId = call.tenantId ∧ row.usedAt = none ∧
          ∃ now, code = useCode now device.id row)

theorem calm_of_silent {next : Issue → Phase} {call : Issue}
    (fixed : ∀ device, next call = .committed device ↔ call.phase = .committed device)
    (silent : wrote (next call) = none) : Calm state next call := by
  refine ⟨fixed, fun device code written => ?_, fun device code written => ?_⟩
  · rw [show ({ call with phase := next call } : Issue).phase = next call from rfl, silent] at written
    cases written
  · rw [silent] at written
    cases written

theorem calm_of_same {next : Issue → Phase} {call : Issue} (own : OwnDevice call) (same : next call = call.phase) :
    Calm state next call := by
  refine ⟨fun device => by rw [same], fun device code written => own device code ?_, fun _ _ written => Or.inl ?_⟩
  · rwa [← same]
  · rwa [← same]

theorem count_calm (call : Issue) (own : OwnDevice call) : Calm state (count quotas state.db) call := by
  cases held : call.phase with
  | started =>
    apply calm_of_silent
    · intro device
      rw [held, count, held]
      dsimp only
      split <;> simp
    · rw [count, held]
      dsimp only
      split <;> rfl
  | _ => exact calm_of_same own (by rw [count, held])

theorem consume_calm {id : Uuid} {now : Timestamp} (call : Issue) (own : OwnDevice call) :
    Calm state (consume state id now) call := by
  cases held : call.phase with
  | counted =>
    by_cases locked : state.issues.any (·.locks call.code) = true
    · exact calm_of_same own (by rw [consume, held]; dsimp only; rw [if_pos locked])
    · cases taken : consumeEnrollmentCode state.db call.tenantId call.code call.hint id now with
      | error err =>
        have refused : consume state id now call = .refused (.database err) := by
          rw [consume, held]
          dsimp only
          rw [if_neg locked, taken]
        exact calm_of_silent (fun device => by simp [refused, held]) (by rw [refused]; rfl)
      | ok pair =>
        obtain ⟨device, code⟩ := pair
        have consumed : consume state id now call = .consumed device code := by
          rw [consume, held]
          dsimp only
          rw [if_neg locked, taken]
        refine ⟨fun other => by simp [consumed, held], consume_own call own, fun written row same => ?_⟩
        rw [consumed] at same
        cases same
        obtain ⟨_, stored, member, owner, unused, bound⟩ := consumeEnrollmentCode_ok taken
        exact Or.inr ⟨by simpa using locked, stored, member, owner, unused, now, bound⟩
  | _ => exact calm_of_same own (by rw [consume, held])

theorem insertCertificate_calm {certificate : Option CertificateRow} (call : Issue) (own : OwnDevice call) :
    Calm state (insertCertificate state.db certificate) call := by
  cases held : call.phase with
  | consumed device code =>
    cases certificate with
    | none =>
      exact calm_of_silent (fun other => by simp [insertCertificate, held]) (by simp [insertCertificate, held, wrote])
    | some row =>
      cases broken : certificateError state.db row with
      | some err =>
        exact calm_of_silent (fun other => by simp [insertCertificate, held, broken])
          (by simp [insertCertificate, held, broken, wrote])
      | none =>
        have inserted : insertCertificate state.db (some row) call = .inserted device code row := by
          simp [insertCertificate, held, broken]
        refine ⟨fun other => by simp [inserted, held], insertCertificate_own call own, fun _ _ written => Or.inl ?_⟩
        rw [inserted] at written
        rw [held]
        exact written
  | _ => exact calm_of_same own (by rw [insertCertificate, held])

theorem abandon_calm (call : Issue) (own : OwnDevice call) : Calm state abandon call := by
  cases held : call.phase with
  | committed device => exact calm_of_same own (by rw [abandon, held])
  | refused reason => exact calm_of_same own (by rw [abandon, held])
  | _ => exact calm_of_silent (fun device => by simp [abandon, held]) (by simp [abandon, held, wrote])

/-! ## Statements that commit nothing -/

section Proceed

variable {index : Nat} {next : Issue → Phase}

theorem of_mem_proceed {call : Issue} (member : call ∈ (state.proceed index next).issues) :
    (∃ place, place ≠ index ∧ state.issues[place]? = some call) ∨
      ∃ old, state.issues[index]? = some old ∧ call = { old with phase := next old } :=
  Calls.mem_moved member

theorem proceed_locked (locked : Locked first state) (calm : ∀ call, state.issues[index]? = some call → Calm state next call) :
    Locked first (state.proceed index next) := by
  refine ⟨?_, locked.alone.modify (fun _ => rfl) ?_, ?_, locked.origin⟩
  · intro call member
    rcases of_mem_proceed member with ⟨place, _, old⟩ | ⟨old, here, rfl⟩
    · exact locked.own call (List.mem_of_getElem? old)
    · exact (calm old here).2.1
  · -- a call that newly wrote found no lock, so no other call holds its code
    intro call found writes
    obtain ⟨⟨device, code⟩, written⟩ := Option.isSome_iff_exists.mp writes
    refine ((calm call found).2.2 device code written).imp (fun before => by rw [before]; rfl) ?_
    rintro ⟨free, _⟩ other inIssues holds same
    have unlocked := List.any_eq_false.mp free other inIssues
    rw [← same] at unlocked
    exact unlocked (locks_of_wrote (locked.own other inIssues) holds)
  · intro call member device code written
    rcases of_mem_proceed member with ⟨place, _, old⟩ | ⟨old, here, rfl⟩
    · exact locked.stored call (List.mem_of_getElem? old) device code written
    · rcases (calm old here).2.2 device code written with before | ⟨_, fresh⟩
      · exact locked.stored old (List.mem_of_getElem? here) device code before
      · exact fresh

theorem countP_proceed (fixed : ∀ call, state.issues[index]? = some call →
    enrolls { call with phase := next call } = enrolls call) :
    (state.proceed index next).issues.countP enrolls = state.issues.countP enrolls := by
  have counts := Calls.countP_modify enrolls (fun call => { call with phase := next call }) state.issues index
  unfold State.proceed
  dsimp only at counts ⊢
  cases found : state.issues[index]? with
  | none =>
    rw [found] at counts
    simpa using counts
  | some call =>
    rw [found] at counts
    simp only [Option.elim_some, fixed call found] at counts
    omega

/-- A call that enrolled a device stays as it is. -/
theorem mem_proceed_of_enrolls {call : Issue} (member : call ∈ state.issues) (done : enrolls call = true)
    (fixed : ∀ old, state.issues[index]? = some old → enrolls old = true → next old = old.phase) :
    call ∈ (state.proceed index next).issues := by
  obtain ⟨place, found⟩ := List.mem_iff_getElem?.mp member
  refine List.mem_iff_getElem?.mpr ⟨place, ?_⟩
  unfold State.proceed
  dsimp only
  rw [List.getElem?_modify, found]
  by_cases same : index = place
  · subst same
    simp [fixed call found done]
  · simp [same]

theorem proceed_once (once : OncePerCode first state)
    (calm : ∀ call, state.issues[index]? = some call → Calm state next call) :
    OncePerCode first (state.proceed index next) := by
  have fixed : ∀ call, state.issues[index]? = some call →
      enrolls { call with phase := next call } = enrolls call := by
    intro call here
    rw [Bool.eq_iff_iff, enrolls_iff, enrolls_iff]
    exact exists_congr (calm call here).1
  have stays : ∀ old, state.issues[index]? = some old → enrolls old = true → next old = old.phase := by
    intro old here done
    obtain ⟨device, held⟩ := enrolls_iff.mp done
    rw [held]
    exact ((calm old here).1 device).mpr held
  refine ⟨?_, ?_, ?_, ?_, ?_⟩
  · exact once.once.modify (fun _ => rfl) fun call found done => Or.inl ((fixed call found).symm.trans done)
  · intro call member device held
    rcases of_mem_proceed member with ⟨place, _, old⟩ | ⟨old, here, rfl⟩
    · obtain ⟨code, unused, there⟩ := once.bound call (List.mem_of_getElem? old) device held
      exact ⟨code, unused, there⟩
    · obtain ⟨code, unused, there⟩ :=
        once.bound old (List.mem_of_getElem? here) device (((calm old here).1 device).mp held)
      exact ⟨code, unused, there⟩
  · intro row member
    rcases once.rest row member with old | ⟨call, inIssues, done, same⟩
    · exact Or.inl old
    · exact Or.inr ⟨call, mem_proceed_of_enrolls inIssues done stays, done, same⟩
  · rw [countP_proceed fixed]
    exact once.devices
  · rw [countP_proceed fixed]
    exact once.certificates

end Proceed

/-! ## The commit -/

theorem commit_rows {device : DeviceRow} {code : CodeRow} {certificate : CertificateRow} {db after : EnrollDb}
    (h : commit device code certificate db = .ok after) :
    after.certificates.rows = db.certificates.rows ++ [certificate] := by
  unfold commit at h
  split at h
  · split at h
    · split at h
      · cases h
      · split at h
        · cases h
        · cases h
          rfl
    · cases h
  · cases h

theorem written_iff {index : Nat} {device : DeviceRow} {code : CodeRow} {certificate : CertificateRow} :
    state.issues[index]?.bind Issue.written = some (device, code, certificate) ↔
      ∃ call, state.issues[index]? = some call ∧ call.phase = .inserted device code certificate := by
  rw [Option.bind_eq_some_iff]
  refine exists_congr fun call => and_congr_right fun _ => ?_
  unfold Issue.written
  cases call.phase <;> simp

theorem countP_commit {index : Nat} {call : Issue} {device : Uuid} (found : state.issues[index]? = some call)
    (open_ : enrolls call = false) :
    (state.proceed index fun _ => .committed device).issues.countP enrolls = state.issues.countP enrolls + 1 := by
  have counts := Calls.countP_modify enrolls (fun call => { call with phase := .committed device }) state.issues index
  have counted : enrolls { call with phase := .committed device } = true := rfl
  rw [found] at counts
  simp only [Option.elim_some, open_, counted, Bool.false_eq_true, if_false, if_true, Nat.add_zero] at counts
  unfold State.proceed
  exact counts

section Commit

variable {index : Nat} {call : Issue} {device : DeviceRow} {code : CodeRow} {certificate : CertificateRow}
  {db : EnrollDb}

/-- What a commit finds: the code unused, and no call that enrolled with it. -/
structure Found (first : EnrollDb) (state : State) (call : Issue) (device : DeviceRow) (code : CodeRow) : Prop where
  owner : device.tenantId = call.tenantId
  tenant : code.tenantId = call.tenantId
  named : code.code = call.code
  used : code.usedAt ≠ none
  bound : code.deviceId = some device.id
  unused : ∃ row ∈ first.codes, row.code = call.code ∧ row.tenantId = call.tenantId ∧ row.usedAt = none
  alone : ∀ other ∈ state.issues, enrolls other = true → other.code ≠ call.code
  stored : ∃ row ∈ state.db.codes, row.code = code.code

theorem commit_found (locked : Locked first state) (once : OncePerCode first state)
    (found : state.issues[index]? = some call) (held : call.phase = .inserted device code certificate) :
    Found first state call device code := by
  have member := List.mem_of_getElem? found
  have written : wrote call.phase = some (device, code) := by rw [held]; rfl
  obtain ⟨owner, named⟩ := locked.own call member device code written
  obtain ⟨row, inCodes, tenant, unused, now, bound⟩ := locked.stored call member device code written
  have same : row.code = call.code := by rw [← named, bound]; rfl
  refine ⟨owner, ?_, named, ?_, ?_, ⟨row, locked.origin row inCodes unused, same, tenant, unused⟩, ?_, row, inCodes, ?_⟩
  · rw [bound]
    exact tenant
  · rw [bound]
    exact Option.some_ne_none now
  · rw [bound]
    rfl
  · intro other inIssues done sameCode
    obtain ⟨id, committed⟩ := enrolls_iff.mp done
    obtain ⟨⟨stored, inDb, storedCode, _, used, _⟩, _⟩ := once.bound other inIssues id committed
    obtain rfl := Table.eq_of_key inDb inCodes (storedCode.trans (sameCode.trans same.symm))
    exact used unused
  · rw [same, named]

theorem commit_codes (stored : ∃ row ∈ state.db.codes, row.code = code.code)
    (done : commit device code certificate state.db = .ok db) (row : CodeRow) :
    row ∈ db.codes ↔ row = code ∨ row ∈ state.db.codes ∧ row.code ≠ code.code := by
  rw [(commit_ok done).2 row]
  constructor
  · rintro ⟨old, member, rfl⟩
    by_cases same : old.code = code.code
    · rw [if_pos same]
      unfold writeCode
      rw [same]
      exact Or.inl rfl
    · rw [if_neg same]
      exact Or.inr ⟨member, same⟩
  · rintro (rfl | ⟨member, other⟩)
    · obtain ⟨old, inCodes, same⟩ := stored
      refine ⟨old, inCodes, ?_⟩
      rw [if_pos same]
      unfold writeCode
      rw [same]
    · exact ⟨row, member, (if_neg other).symm⟩

theorem commit_locked (locked : Locked first state) (found : state.issues[index]? = some call)
    (held : call.phase = .inserted device code certificate) (finds : Found first state call device code)
    (done : commit device code certificate state.db = .ok db) :
    Locked first { state.proceed index (fun _ => .committed device.id) with db := db } := by
  have rows := commit_codes finds.stored done
  have holds : (wrote call.phase).isSome = true := by rw [held]; rfl
  refine ⟨?_, ?_, ?_, ?_⟩
  · intro other member
    rcases of_mem_proceed member with ⟨place, _, old⟩ | ⟨old, _, rfl⟩
    · exact locked.own other (List.mem_of_getElem? old)
    · exact fun _ _ written => nomatch written
  · exact locked.alone.modify (fun _ => rfl) fun other _ writes => by cases writes
  · intro other member otherDevice otherCode written
    rcases of_mem_proceed member with ⟨place, elsewhere, old⟩ | ⟨old, _, rfl⟩
    · have inIssues := List.mem_of_getElem? old
      obtain ⟨row, inCodes, tenant, unused, now, bound⟩ := locked.stored other inIssues otherDevice otherCode written
      have named := (locked.own other inIssues otherDevice otherCode written).2
      refine ⟨row, (rows row).mpr (Or.inr ⟨inCodes, fun same => elsewhere ?_⟩), tenant, unused, now, bound⟩
      -- the same code would be locked twice
      refine locked.alone place index other call old found (by simp [written]) holds ?_
      rw [← named, bound, ← finds.named]
      exact same
    · cases written
  · intro row member unused
    rcases (rows row).mp member with rfl | ⟨old, _⟩
    · exact absurd unused finds.used
    · exact locked.origin row old unused

theorem commit_once (once : OncePerCode first state) (found : state.issues[index]? = some call)
    (held : call.phase = .inserted device code certificate) (finds : Found first state call device code)
    (done : commit device code certificate state.db = .ok db) :
    OncePerCode first { state.proceed index (fun _ => .committed device.id) with db := db } := by
  have rows := commit_codes finds.stored done
  obtain ⟨devices, _⟩ := commit_ok done
  have open_ : enrolls call = false := by simp [enrolls, held]
  have here : { call with phase := .committed device.id } ∈
      (state.proceed index fun _ => .committed device.id).issues := by
    refine List.mem_iff_getElem?.mpr ⟨index, ?_⟩
    change (state.issues.modify index _)[index]? = _
    rw [List.getElem?_modify_eq, found]
    rfl
  refine ⟨?_, ?_, ?_, ?_, ?_⟩
  · refine once.once.modify (fun _ => rfl) fun other inPlace _ => Or.inr ?_
    rw [found] at inPlace
    cases inPlace
    exact finds.alone
  · intro other member id committed
    have added : ∀ row ∈ state.db.devices, row ∈ db.devices := fun row inDb => by
      rw [← Table.mem_rows, devices]
      exact List.mem_append_left _ inDb
    rcases of_mem_proceed member with ⟨place, _, old⟩ | ⟨old, same, rfl⟩
    · have inIssues := List.mem_of_getElem? old
      obtain ⟨⟨row, inCodes, named, about⟩, unused, there, inDb, known⟩ := once.bound other inIssues id committed
      have different := finds.alone other inIssues (enrolls_iff.mpr ⟨id, committed⟩)
      refine ⟨⟨row, (rows row).mpr (Or.inr ⟨inCodes, ?_⟩), named, about⟩, unused, there, added there inDb, known⟩
      rw [named, finds.named]
      exact different
    · rw [found] at same
      cases same
      cases committed
      refine ⟨⟨code, (rows code).mpr (Or.inl rfl), finds.named, finds.tenant, finds.used, finds.bound⟩, finds.unused,
        device, ?_, rfl, finds.owner⟩
      rw [← Table.mem_rows, devices]
      exact List.mem_append_right _ (List.mem_singleton.mpr rfl)
  · intro row member
    rcases (rows row).mp member with rfl | ⟨old, _⟩
    · exact Or.inr ⟨_, here, rfl, finds.named.symm⟩
    · refine (once.rest row old).imp_right fun ⟨other, inIssues, enrolled_, same⟩ =>
        ⟨other, mem_proceed_of_enrolls inIssues enrolled_ fun at_ there doneAt => ?_, enrolled_, same⟩
      rw [found] at there
      cases there
      rw [open_] at doneAt
      cases doneAt
  · have counts := @countP_commit state index call device.id found open_
    have before := once.devices
    change db.devices.rows.length = _ + (state.proceed index fun _ => .committed device.id).issues.countP enrolls
    rw [devices, List.length_append, List.length_singleton, counts]
    omega
  · have counts := @countP_commit state index call device.id found open_
    have before := once.certificates
    change db.certificates.rows.length = _ + (state.proceed index fun _ => .committed device.id).issues.countP enrolls
    rw [commit_rows done, List.length_append, List.length_singleton, counts]
    omega

end Commit

/-! ## Whole runs -/

theorem commitIssue_single {index : Nat} (locked : Locked first state) (once : OncePerCode first state) :
    Locked first (commitIssue state index) ∧ OncePerCode first (commitIssue state index) := by
  unfold commitIssue
  cases written : state.issues[index]?.bind Issue.written with
  | none => exact ⟨locked, once⟩
  | some triple =>
    obtain ⟨device, code, certificate⟩ := triple
    obtain ⟨call, found, held⟩ := written_iff.mp written
    dsimp only
    cases done : commit device code certificate state.db with
    | ok db =>
      have finds := commit_found locked once found held
      exact ⟨commit_locked locked found held finds done, commit_once once found held finds done⟩
    | error err =>
      have calm : ∀ old, state.issues[index]? = some old →
          Calm state (fun _ => .refused (.database err)) old := by
        intro old here
        rw [found] at here
        cases here
        exact calm_of_silent (fun id => by simp [held]) rfl
      exact ⟨proceed_locked locked calm, proceed_once once calm⟩

theorem issue_single {owner : Uuid} {code hint : String} (locked : Locked first state) (once : OncePerCode first state) :
    Locked first { state with issues := state.issues ++ [⟨owner, code, hint, .started⟩] } ∧
      OncePerCode first { state with issues := state.issues ++ [⟨owner, code, hint, .started⟩] } := by
  have added : (state.issues ++ [(⟨owner, code, hint, .started⟩ : Issue)]).countP enrolls =
      state.issues.countP enrolls := by
    rw [List.countP_append]
    exact Nat.add_zero _
  refine ⟨⟨?_, ?_, ?_, locked.origin⟩, ⟨?_, ?_, ?_, ?_, ?_⟩⟩
  · intro call member
    rcases List.mem_append.mp member with before | new
    · exact locked.own call before
    · rw [List.mem_singleton.mp new]
      exact fun _ _ written => nomatch written
  · exact locked.alone.append rfl
  · intro call member device row written
    rcases List.mem_append.mp member with before | new
    · exact locked.stored call before device row written
    · rw [List.mem_singleton.mp new] at written
      cases written
  · exact once.once.append rfl
  · intro call member device held
    rcases List.mem_append.mp member with before | new
    · obtain ⟨row, unused, there⟩ := once.bound call before device held
      exact ⟨row, unused, there⟩
    · rw [List.mem_singleton.mp new] at held
      cases held
  · intro row member
    exact (once.rest row member).imp_right fun ⟨call, before, about⟩ => ⟨call, List.mem_append_left _ before, about⟩
  · have before := once.devices
    dsimp only
    omega
  · have before := once.certificates
    dsimp only
    omega

theorem step_single (event : Event) (locked : Locked first state) (once : OncePerCode first state) :
    Locked first (step quotas state event) ∧ OncePerCode first (step quotas state event) := by
  have both : ∀ index next, (∀ call ∈ state.issues, Calm state next call) →
      Locked first (state.proceed index next) ∧ OncePerCode first (state.proceed index next) := by
    intro index next calm
    have here : ∀ call, state.issues[index]? = some call → Calm state next call :=
      fun call found => calm call (List.mem_of_getElem? found)
    exact ⟨proceed_locked locked here, proceed_once once here⟩
  cases event with
  | issue owner code hint => exact issue_single locked once
  | count index => exact both index _ fun call member => count_calm call (locked.own call member)
  | consume index device now => exact both index _ fun call member => consume_calm call (locked.own call member)
  | insert index certificate =>
    exact both index _ fun call member => insertCertificate_calm call (locked.own call member)
  | commit index => exact commitIssue_single locked once
  | abandon index => exact both index _ fun call member => abandon_calm call (locked.own call member)

/-- In every run of concurrent enrolments a code that was unused brings in at most one device
and one certificate, a used one none, and a call that is refused leaves its code as it was. -/
theorem code_enrolls_once (quotas : Uuid → Option Int) (db : EnrollDb) (events : List Event) :
    OncePerCode db (run quotas db events) := by
  have start : Locked db ⟨db, []⟩ ∧ OncePerCode db ⟨db, []⟩ := by
    refine ⟨⟨?_, ?_, ?_, fun row member _ => member⟩, ⟨?_, ?_, fun row member => Or.inl member, ?_, ?_⟩⟩
    all_goals simp [Calls.Lone]
  exact (foldl_rel (R := fun a b => Locked db a ∧ OncePerCode db a → Locked db b ∧ OncePerCode db b) (fun _ both => both)
    (fun _ _ _ early late both => late (early both)) (fun state event both => step_single event both.1 both.2) _ events
    start).2

end VodogeCloud.Guarantees.SingleUseCodes
