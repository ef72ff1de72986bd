import VodogeCloud.Guarantees.DeviceQuota
import VodogeCloud.Source.DeviceDeletion

/-!
# Enrolled devices cannot be deleted

`app.delete_device` takes the device off the codes that enrolled it and keeps the codes.
A code that was used has to name a device, so the statement breaks the check on codes and
the call rolls back. Every device that came by `consume_enrollment_code` has such a code:
no statement unbinds a used code, so it has one for as long as there is a database.
-/

set_option autoImplicit false

namespace VodogeCloud.Guarantees.DeviceDeletion

open VodogeCloud.Lib VodogeCloud.Lib.Transactions VodogeCloud.Source.Postgres
open VodogeCloud.Source
open VodogeCloud.Source.Enrollment hiding State Event step
open VodogeCloud.Source.DeviceDeletion VodogeCloud.Guarantees.DeviceQuota

/-! ## What a deletion should do -/

/-- The device is gone with all its rows, and nothing else is. -/
structure DeletedAlone (tenant device : Uuid) (before after : DeviceDb) : Prop where
  devices : after.enroll.devices.rows = before.enroll.devices.rows.filter fun row => row.id ≠ device
  certificates : after.enroll.certificates.rows =
    before.enroll.certificates.rows.filter fun row => row.deviceId ≠ device
  modems : after.history.modems = before.history.modems.filter fun row => row.deviceId ≠ device
  messages : after.history.messages = before.history.messages.filter fun row => row.deviceId ≠ device
  instances : after.history.instances = before.history.instances.filter fun row => row.deviceId ≠ device
  traffic : after.history.traffic =
    before.history.traffic.filter fun row => !(instanceIds tenant device before.history).contains row.instanceId
  commands : after.history.commands = before.history.commands.filter fun row => row.deviceId ≠ device
  attempts : after.history.attempts =
    before.history.attempts.filter fun row => !(commandIds tenant device before.history).contains row.commandId
  receipts : after.history.receipts =
    before.history.receipts.filter fun row => !(commandIds tenant device before.history).contains row.commandId
  outbox : after.history.outbox =
    before.history.outbox.filter fun row => !(commandIds tenant device before.history).contains row.commandId
  ingress : after.history.ingress = before.history.ingress.filter fun row => row.deviceId ≠ device
  constraints : Constraints after

/-- `app.delete_device` succeeds, returns true and removes the device alone. -/
def Deletable (tenant device : Uuid) (db : DeviceDb) : Prop :=
  ∃ after, deleteDevice tenant device db = .ok (after, true) ∧ DeletedAlone tenant device db after

/-! ## Why it fails -/

/-- A device of the tenant and a used code that names it. -/
def Enrolled (db : EnrollDb) (tenant device : Uuid) : Prop :=
  (∃ row ∈ db.devices, row.id = device ∧ row.tenantId = tenant) ∧
    ∃ row ∈ db.codes, row.tenantId = tenant ∧ row.deviceId = some device ∧ row.usedAt.isSome = true

section Deletions

variable {tenant device : Uuid} {db after : DeviceDb}

theorem unbindCodes_ok {enroll enroll' : EnrollDb} (h : unbindCodes tenant device enroll = .ok enroll') :
    (∀ row ∈ enroll.codes, boundTo tenant device row = true → row.usedAt = none) ∧
      enroll' = { enroll with codes := enroll.codes.update (boundTo tenant device) unbind unbind_code } := by
  unfold unbindCodes at h
  by_cases broken : (enroll.codes.rows.any fun row => boundTo tenant device row && !oneTime (unbind row)) = true
  · rw [if_pos broken] at h
    cases h
  · rw [if_neg broken] at h
    cases h
    refine ⟨fun row member bound => ?_, rfl⟩
    simp only [List.any_eq_true, Bool.and_eq_true, not_exists, not_and] at broken
    have kept := broken row member bound
    simpa [oneTime, unbind] using kept

/-- What a deletion that goes through does to codes and devices. -/
theorem deleteDevice_ok {existed : Bool} (h : deleteDevice tenant device db = .ok (after, existed)) :
    after = db ∨ (∀ row ∈ db.enroll.codes, boundTo tenant device row = true → row.usedAt = none) ∧
      after.enroll.codes = db.enroll.codes.update (boundTo tenant device) unbind unbind_code ∧
      after.enroll.devices = db.enroll.devices.delete (fun row => row.tenantId = tenant && row.id = device) := by
  unfold deleteDevice at h
  split at h
  · cases h
    exact Or.inl rfl
  · obtain ⟨_, _, h⟩ := bind_success h
    obtain ⟨enroll, unbound, h⟩ := bind_success h
    obtain ⟨_, _, h⟩ := bind_success h
    obtain ⟨last, removed, h⟩ := bind_success h
    cases h
    obtain ⟨unused, rfl⟩ := unbindCodes_ok unbound
    refine Or.inr ⟨unused, ?_⟩
    unfold deleteDeviceRow at removed
    split at removed
    · cases removed
    · cases removed
      exact ⟨rfl, rfl⟩

/-- The code of an enrolled device makes the call fail. -/
theorem deleteDevice_fails (enrolled : Enrolled db.enroll tenant device) :
    ∃ err, deleteDevice tenant device db = .error err := by
  obtain ⟨⟨row, member, named, ofTenant⟩, code, inCodes, codeTenant, bound, used⟩ := enrolled
  cases result : deleteDevice tenant device db with
  | error err => exact ⟨err, rfl⟩
  | ok pair =>
    have seen : (db.enroll.devices.rows.any fun row => row.tenantId = tenant && row.id = device) = true :=
      List.any_eq_true.mpr ⟨row, member, by simp [named, ofTenant]⟩
    unfold deleteDevice at result
    rw [seen, if_neg (by decide)] at result
    obtain ⟨_, _, result⟩ := bind_success result
    obtain ⟨_, unbound, _⟩ := bind_success result
    have unused := (unbindCodes_ok unbound).1 code inCodes (by simp [boundTo, codeTenant, bound])
    rw [unused] at used
    cases used

end Deletions

/-! ## A used code stays bound -/

/-- What a transaction wrote belongs to its tenant, and its code is not used yet. -/
def Pending (db : EnrollDb) (call : Issue) : Prop :=
  ∀ device code, wrote call.phase = some (device, code) →
    device.tenantId = call.tenantId ∧ code.tenantId = call.tenantId ∧ code.deviceId = some device.id ∧
      code.usedAt.isSome = true ∧ ∃ row ∈ db.codes, row.code = code.code ∧ row.usedAt = none

/-- Transactions work on different codes, and what one committed stays. -/
structure Sound (db : EnrollDb) (issues : List Issue) : Prop where
  pending : ∀ call ∈ issues, Pending db call
  alone : ∀ (i j : Nat) (a b : Issue), issues[i]? = some a → issues[j]? = some b →
    ∀ x y, wrote a.phase = some x → wrote b.phase = some y → x.2.code = y.2.code → i = j
  done : ∀ call ∈ issues, ∀ device, call.phase = .committed device → Enrolled db call.tenantId device

section Steps

variable {db after : EnrollDb} {issues : List Issue} {index : Nat} {next : Issue → Phase}

/-- A statement that only waits, refuses or goes on with what was written. -/
def Tame (next : Issue → Phase) : Prop :=
  ∀ call, (wrote (next call) = none ∨ wrote (next call) = wrote call.phase) ∧
    ∀ device, next call = .committed device → call.phase = .committed device

theorem count_tame (quotas : Uuid → Option Int) : Tame (count quotas db) := by
  intro call
  unfold count
  split
  · split
    · exact ⟨Or.inl rfl, nofun⟩
    · exact ⟨Or.inl rfl, nofun⟩
  · exact ⟨Or.inr rfl, fun _ same => same⟩

theorem insertCertificate_tame (certificate : Option CertificateRow) : Tame (insertCertificate db certificate) := by
  intro call
  unfold insertCertificate
  split
  · next device code held =>
    split
    · exact ⟨Or.inl rfl, nofun⟩
    · split
      · exact ⟨Or.inl rfl, nofun⟩
      · rw [held]
        exact ⟨Or.inr rfl, nofun⟩
  · exact ⟨Or.inr rfl, fun _ same => same⟩

theorem abandon_tame : Tame abandon := by
  intro call
  unfold abandon
  split
  · next held =>
    rw [held]
    exact ⟨Or.inr rfl, fun _ same => same⟩
  · exact ⟨Or.inl rfl, nofun⟩
  · exact ⟨Or.inl rfl, nofun⟩

theorem refused_tame (reason : IssueError) : Tame fun _ => .refused reason :=
  fun _ => ⟨Or.inl rfl, nofun⟩

theorem Sound.tame (sound : Sound db issues) (tame : Tame next) :
    Sound db (issues.modify index fun call => { call with phase := next call }) := by
  -- what a moved call has written it had written before
  have wrote_of : ∀ call x, wrote (next call) = some x → wrote call.phase = some x := by
    intro call x written
    rcases (tame call).1 with nothing | same
    · rw [nothing] at written
      cases written
    · rw [← same]
      exact written
  constructor
  · intro call member
    rcases Calls.mem_moved member with ⟨place, _, kept⟩ | ⟨old, before, rfl⟩
    · exact sound.pending call (List.mem_of_getElem? kept)
    · intro device code written
      exact sound.pending old (List.mem_of_getElem? before) device code (wrote_of old _ written)
  · intro i j a b atI atJ x y writtenA writtenB same
    obtain ⟨oldA, beforeA, ⟨_, rfl⟩ | ⟨_, rfl⟩⟩ := Calls.getElem?_moved atI
    · obtain ⟨oldB, beforeB, ⟨_, rfl⟩ | ⟨_, rfl⟩⟩ := Calls.getElem?_moved atJ
      · exact sound.alone i j a b beforeA beforeB x y writtenA writtenB same
      · exact sound.alone i j a oldB beforeA beforeB x y writtenA (wrote_of oldB y writtenB) same
    · obtain ⟨oldB, beforeB, ⟨_, rfl⟩ | ⟨_, rfl⟩⟩ := Calls.getElem?_moved atJ
      · exact sound.alone i j oldA b beforeA beforeB x y (wrote_of oldA x writtenA) writtenB same
      · exact sound.alone i j oldA oldB beforeA beforeB x y (wrote_of oldA x writtenA) (wrote_of oldB y writtenB) same
  · intro call member device committed
    rcases Calls.mem_moved member with ⟨place, _, kept⟩ | ⟨old, before, rfl⟩
    · exact sound.done call (List.mem_of_getElem? kept) device committed
    · exact sound.done old (List.mem_of_getElem? before) device ((tame old).2 device committed)

theorem locks_of_wrote {call : Issue} {x : DeviceRow × CodeRow} (written : wrote call.phase = some x) :
    call.locks x.2.code = true := by
  unfold wrote at written
  unfold Issue.locks
  cases phase : call.phase <;> rw [phase] at written <;> cases written <;> simp

/-- A consumed code was unused and nobody else had it. -/
theorem consume_wrote {state : Enrollment.State} {id : Uuid} {now : Timestamp} {call : Issue} {x : DeviceRow × CodeRow}
    (written : wrote (consume state id now call) = some x) :
    wrote call.phase = some x ∨
      (∀ other ∈ state.issues, other.locks x.2.code = false) ∧ x.1.tenantId = call.tenantId ∧
        ∃ stored ∈ state.db.codes, stored.tenantId = call.tenantId ∧ stored.usedAt = none ∧
          x.2 = useCode now x.1.id stored := by
  unfold consume at written
  split at written
  · split at written
    · cases written
    · next free =>
      split at written
      · cases written
      · next row code consumed =>
        cases written
        obtain ⟨⟨ofTenant, named⟩, stored⟩ := consumeEnrollmentCode_ok consumed
        refine Or.inr ⟨fun other member => ?_, ofTenant, stored⟩
        simp only [List.any_eq_true, not_exists, not_and, Bool.not_eq_true] at free
        rw [named]
        exact free other member
  · exact Or.inl written

theorem consume_committed {state : Enrollment.State} {id : Uuid} {now : Timestamp} {call : Issue} {device : Uuid}
    (committed : consume state id now call = .committed device) : call.phase = .committed device := by
  unfold consume at committed
  split at committed
  · split at committed
    · cases committed
    · split at committed
      · cases committed
      · cases committed
  · exact committed

theorem Sound.consume {id : Uuid} {now : Timestamp} (sound : Sound db issues) :
    Sound db (issues.modify index fun call => { call with phase := consume ⟨db, issues⟩ id now call }) := by
  -- a fresh writer meets no other call that holds its code
  have fresh : ∀ (place : Nat) (call other : Issue) x y, issues[place]? = some other →
      wrote (Enrollment.consume ⟨db, issues⟩ id now call) = some x → wrote call.phase ≠ some x →
      wrote other.phase = some y → x.2.code ≠ y.2.code := by
    intro place call other x y there written new held same
    rcases consume_wrote written with old | ⟨free, _⟩
    · exact new old
    · have locked := locks_of_wrote held
      rw [← same, free other (List.mem_of_getElem? there)] at locked
      cases locked
  constructor
  · intro call member
    rcases Calls.mem_moved member with ⟨place, _, kept⟩ | ⟨old, before, rfl⟩
    · exact sound.pending call (List.mem_of_getElem? kept)
    · intro device code written
      rcases consume_wrote written with had | ⟨_, ofTenant, stored, inCodes, storedTenant, unused, bound⟩
      · exact sound.pending old (List.mem_of_getElem? before) device code had
      · have bound : code = useCode now device.id stored := bound
        rw [bound]
        exact ⟨ofTenant, storedTenant, rfl, rfl, stored, inCodes, rfl, unused⟩
  · intro i j a b atI atJ x y writtenA writtenB same
    obtain ⟨oldA, beforeA, ⟨_, rfl⟩ | ⟨placeA, rfl⟩⟩ := Calls.getElem?_moved atI
    · obtain ⟨oldB, beforeB, ⟨_, rfl⟩ | ⟨_, rfl⟩⟩ := Calls.getElem?_moved atJ
      · exact sound.alone i j a b beforeA beforeB x y writtenA writtenB same
      · by_cases had : wrote oldB.phase = some y
        · exact sound.alone i j a oldB beforeA beforeB x y writtenA had same
        · exact absurd same.symm (fresh i oldB a y x beforeA writtenB had writtenA)
    · obtain ⟨oldB, beforeB, ⟨_, rfl⟩ | ⟨placeB, rfl⟩⟩ := Calls.getElem?_moved atJ
      · by_cases had : wrote oldA.phase = some x
        · exact sound.alone i j oldA b beforeA beforeB x y had writtenB same
        · exact absurd same (fresh j oldA b x y beforeB writtenA had writtenB)
      · exact placeA.trans placeB.symm
  · intro call member device committed
    rcases Calls.mem_moved member with ⟨place, _, kept⟩ | ⟨old, before, rfl⟩
    · exact sound.done call (List.mem_of_getElem? kept) device committed
    · exact sound.done old (List.mem_of_getElem? before) device (consume_committed committed)

/-- A commit uses the code of its own transaction and no other. -/
theorem Sound.commit {call : Issue} {device : DeviceRow} {code : CodeRow} {certificate : CertificateRow}
    (sound : Sound db issues) (found : issues[index]? = some call)
    (held : call.phase = .inserted device code certificate)
    (committed : commit device code certificate db = .ok after) :
    Sound after (issues.modify index fun call => { call with phase := .committed device.id }) := by
  have written : wrote call.phase = some (device, code) := by rw [held]; rfl
  obtain ⟨ofTenant, codeTenant, bound, used, unusedRow, inCodes, sameCode, unused⟩ :=
    sound.pending call (List.mem_of_getElem? found) device code written
  obtain ⟨devices, codes⟩ := commit_ok committed
  have spared : ∀ row ∈ db.codes, row.code ≠ code.code → row ∈ after.codes :=
    fun row member differs => (codes row).mpr ⟨row, member, (if_neg differs).symm⟩
  have grown : ∀ row ∈ db.devices, row ∈ after.devices := by
    intro row member
    show row ∈ after.devices.rows
    rw [devices]
    exact List.mem_append_left _ member
  have kept : ∀ tenant id, Enrolled db tenant id → Enrolled after tenant id := by
    rintro tenant id ⟨⟨row, member, facts⟩, codeRow, inTable, about, names, usedRow⟩
    refine ⟨⟨row, grown row member, facts⟩, codeRow, spared codeRow inTable fun same => ?_, about, names, usedRow⟩
    rw [Table.eq_of_key inTable inCodes (same.trans sameCode.symm), unused] at usedRow
    cases usedRow
  constructor
  · intro other member
    rcases Calls.mem_moved member with ⟨place, elsewhere, there⟩ | ⟨old, _, rfl⟩
    · intro otherDevice otherCode otherWritten
      obtain ⟨one, two, three, four, row, inTable, names, free⟩ :=
        sound.pending other (List.mem_of_getElem? there) otherDevice otherCode otherWritten
      refine ⟨one, two, three, four, row, spared row inTable fun same => elsewhere ?_, names, free⟩
      exact sound.alone place index other call there found _ _ otherWritten written (names.symm.trans same)
    · exact nofun
  · intro i j a b atI atJ x y writtenA writtenB same
    obtain ⟨oldA, beforeA, ⟨_, rfl⟩ | ⟨_, rfl⟩⟩ := Calls.getElem?_moved atI
    · obtain ⟨oldB, beforeB, ⟨_, rfl⟩ | ⟨_, rfl⟩⟩ := Calls.getElem?_moved atJ
      · exact sound.alone i j a b beforeA beforeB x y writtenA writtenB same
      · cases writtenB
    · cases writtenA
  · intro other member id done
    rcases Calls.mem_moved member with ⟨place, _, there⟩ | ⟨old, before, rfl⟩
    · exact kept _ _ (sound.done other (List.mem_of_getElem? there) id done)
    · rw [found] at before
      cases before
      cases done
      refine ⟨⟨device, ?_, rfl, ofTenant⟩, writeCode code unusedRow, ?_, codeTenant, bound, used⟩
      · show device ∈ after.devices.rows
        rw [devices]
        exact List.mem_append_right _ List.mem_cons_self
      · exact (codes _).mpr ⟨unusedRow, inCodes, (if_pos sameCode).symm⟩

theorem Sound.enrol {state : Enrollment.State} (quotas : Uuid → Option Int) (sound : Sound state.db state.issues)
    (event : Enrollment.Event) :
    Sound (Enrollment.step quotas state event).db (Enrollment.step quotas state event).issues := by
  cases event with
  | issue tenant code hint =>
    have started : ∀ (place : Nat) (call : Issue), (state.issues ++ [⟨tenant, code, hint, .started⟩])[place]? = some call →
        state.issues[place]? = some call ∨ call.phase = .started := by
      intro place call there
      rw [List.getElem?_append] at there
      split at there
      · exact Or.inl there
      · have new := List.mem_of_getElem? there
        simp only [List.mem_singleton] at new
        exact Or.inr (by rw [new])
    have from_ : ∀ call : Issue, call ∈ state.issues ++ [⟨tenant, code, hint, .started⟩] →
        call ∈ state.issues ∨ call.phase = .started := by
      intro call member
      obtain ⟨place, there⟩ := List.mem_iff_getElem?.mp member
      exact (started place call there).imp List.mem_of_getElem? id
    constructor
    · intro call member
      rcases from_ call member with old | new
      · exact sound.pending call old
      · intro device row written
        rw [new] at written
        cases written
    · intro i j a b atI atJ x y writtenA writtenB same
      rcases started i a atI with oldA | new
      · rcases started j b atJ with oldB | new
        · exact sound.alone i j a b oldA oldB x y writtenA writtenB same
        · rw [new] at writtenB
          cases writtenB
      · rw [new] at writtenA
        cases writtenA
    · intro call member device committed
      rcases from_ call member with old | new
      · exact sound.done call old device committed
      · rw [new] at committed
        cases committed
  | count index => exact sound.tame (count_tame quotas)
  | consume index device now => exact sound.consume
  | insert index certificate => exact sound.tame (insertCertificate_tame certificate)
  | abandon index => exact sound.tame abandon_tame
  | commit index =>
    simp only [Enrollment.step, commitIssue]
    cases found : state.issues[index]? with
    | none => exact sound
    | some call =>
      cases held : call.phase with
      | inserted device code certificate =>
        simp only [Option.bind_some, Issue.written, held]
        cases done : Enrollment.commit device code certificate state.db with
        | error err => exact sound.tame (refused_tame _)
        | ok db => exact sound.commit found held done
      | _ =>
        simp only [Option.bind_some, Issue.written, held]
        exact sound

/-- Every code and every enrolled device of the last state is in the next one. -/
structure Keeps (db after : EnrollDb) : Prop where
  unused : ∀ row ∈ db.codes, row.usedAt = none → ∃ next ∈ after.codes, next.code = row.code ∧ next.usedAt = none
  enrolled : ∀ tenant device, Enrolled db tenant device → Enrolled after tenant device

theorem Sound.keeps (sound : Sound db issues) (keeps : Keeps db after) : Sound after issues where
  pending call member device code written := by
    obtain ⟨one, two, three, four, row, inCodes, names, free⟩ := sound.pending call member device code written
    obtain ⟨next, inNext, sameCode, stillFree⟩ := keeps.unused row inCodes free
    exact ⟨one, two, three, four, next, inNext, sameCode.trans names, stillFree⟩
  alone := sound.alone
  done call member device committed := keeps.enrolled _ _ (sound.done call member device committed)

end Steps

/-! ## Runs -/

section Runs

variable {tenant device : Uuid} {state : State}

theorem deleteDevice_keeps {db after : DeviceDb} {existed : Bool}
    (h : deleteDevice tenant device db = .ok (after, existed)) : Keeps db.enroll after.enroll := by
  rcases deleteDevice_ok h with rfl | ⟨unused, codes, devices⟩
  · exact ⟨fun row member free => ⟨row, member, rfl, free⟩, fun _ _ enrolled => enrolled⟩
  · constructor
    · intro row member free
      refine ⟨if boundTo tenant device row then unbind row else row, ?_, ?_⟩
      · rw [codes]
        exact Table.mem_update.mpr ⟨row, member, rfl⟩
      · split
        · exact ⟨rfl, free⟩
        · exact ⟨rfl, free⟩
    · rintro owner id ⟨⟨row, member, named, ofOwner⟩, code, inCodes, codeOwner, bound, used⟩
      -- the used code of this device is not one the statement may unbind
      have spared : boundTo tenant device code = false := by
        by_contra hit
        rw [Bool.not_eq_false] at hit
        rw [unused code inCodes hit] at used
        cases used
      refine ⟨⟨row, ?_, named, ofOwner⟩, code, ?_, codeOwner, bound, used⟩
      · rw [devices]
        refine Table.mem_delete.mpr ⟨member, ?_⟩
        by_contra hit
        simp only [Bool.not_eq_false, Bool.and_eq_true, decide_eq_true_eq] at hit
        simp only [boundTo, Bool.and_eq_false_iff, decide_eq_false_iff_not] at spared
        rcases spared with differs | differs
        · exact differs (codeOwner.trans (ofOwner.symm.trans hit.1))
        · exact differs (bound.trans (congrArg some (named.symm.trans hit.2)))
      · rw [codes]
        exact Table.mem_update.mpr ⟨code, inCodes, by rw [spared]; rfl⟩

theorem step_sound (quotas : Uuid → Option Int) (sound : Sound state.db.enroll state.issues) (event : Event) :
    Sound (step quotas state event).db.enroll (step quotas state event).issues := by
  cases event with
  | enrol event => exact Sound.enrol quotas sound event
  | createCode tenant code expiresAt =>
    simp only [step]
    by_cases fresh : ∀ other ∈ state.db.enroll.codes, other.code ≠ (newCode tenant code expiresAt).code
    · rw [dif_pos fresh]
      have kept : ∀ row ∈ state.db.enroll.codes,
          row ∈ state.db.enroll.codes.insert (newCode tenant code expiresAt) fresh :=
        fun row member => Table.mem_insert.mpr (Or.inl member)
      refine sound.keeps ⟨fun row member free => ⟨row, kept row member, rfl, free⟩, ?_⟩
      rintro owner id ⟨devices, row, member, facts⟩
      exact ⟨devices, row, kept row member, facts⟩
    · rw [dif_neg fresh]
      exact sound
  | setTenant row => exact sound.keeps ⟨fun row member free => ⟨row, member, rfl, free⟩, fun _ _ enrolled => enrolled⟩
  | editDevice id imei name vertical =>
    refine sound.keeps ⟨fun row member free => ⟨row, member, rfl, free⟩, ?_⟩
    rintro owner other ⟨⟨row, member, named, ofOwner⟩, codes⟩
    refine ⟨⟨if row.id = id then editRow imei name vertical row else row, ?_, ?_⟩, codes⟩
    · refine (@Table.mem_update _ _ DeviceRow.id state.db.enroll.devices (fun row => row.id = id)
        (editRow imei name vertical) (editRow_id imei name vertical) _).mpr ⟨row, member, ?_⟩
      simp only [decide_eq_true_eq]
    · split
      · exact ⟨named, ofOwner⟩
      · exact ⟨named, ofOwner⟩
  | record history => exact sound
  | deleteDevice owner id =>
    simp only [step]
    cases result : deleteDevice owner id state.db with
    | error err => exact sound
    | ok pair => exact sound.keeps (deleteDevice_keeps result)

theorem run_sound (quotas : Uuid → Option Int) (sound : Sound state.db.enroll state.issues) (events : List Event) :
    Sound (events.foldl (step quotas) state).db.enroll (events.foldl (step quotas) state).issues := by
  induction events generalizing state with
  | nil => exact sound
  | cons event rest ih => exact ih (step_sound quotas sound event)

/-- However it was used since, a device that was enrolled by a code cannot be deleted by its tenant. -/
theorem enrolled_device_never_deleted (quotas : Uuid → Option Int) (start : State) (idle : start.issues = [])
    (events : List Event) (call : Issue) (device : Uuid)
    (member : call ∈ (events.foldl (step quotas) start).issues) (created : call.phase = .committed device) :
    (∃ err, deleteDevice call.tenantId device (events.foldl (step quotas) start).db = .error err) ∧
      ¬ Deletable call.tenantId device (events.foldl (step quotas) start).db := by
  have fresh : Sound start.db.enroll start.issues := by
    rw [idle]
    exact ⟨fun _ member => (nomatch member), fun _ _ _ _ there => (nomatch there), fun _ member => (nomatch member)⟩
  obtain ⟨err, fails⟩ := deleteDevice_fails ((run_sound quotas fresh events).done call member device created)
  refine ⟨⟨err, fails⟩, ?_⟩
  rintro ⟨after, done, _⟩
  rw [fails] at done
  cases done

end Runs

def noHistory : History := ⟨[], [], [], [], [], [], [], [], [], []⟩

/-- A tenant with an unused code. -/
def opened : State := ⟨⟨shop, noHistory⟩, []⟩

/-- A device is enrolled and reports for the first time. -/
def enrolledOnce : List Event :=
  (.issue 1 "A" "" :: .count 0 :: enrolment 0 10 (certificate "s" 'a' 10)).map Event.enrol ++
    [.record { noHistory with ingress := [⟨1, 10⟩] }]

theorem one_device_enrolled :
    (enrolledOnce.foldl (step onePlace) opened).issues.head? = some ⟨1, "A", "", .committed 10⟩ := by
  decide

theorem enrolled_device_stays :
    ¬ Deletable 1 10 (enrolledOnce.foldl (step onePlace) opened).db := by
  have member := List.mem_of_head? one_device_enrolled
  exact (enrolled_device_never_deleted onePlace opened rfl enrolledOnce _ 10 member rfl).2

/-- How the call failed. -/
def failure (result : Except PgError (DeviceDb × Bool)) : Option PgError :=
  match result with
  | .ok _ => none
  | .error err => some err

theorem deletion_breaks_the_check :
    (enrolledOnce.foldl (step onePlace) opened).issues.map Issue.phase = [.committed 10] ∧
      failure (deleteDevice 1 10 (enrolledOnce.foldl (step onePlace) opened).db) =
        some ⟨"23514", "new row for relation \"enrollment_codes\" violates check constraint \"enrollment_codes_one_time\""⟩ ∧
      ¬ Deletable 1 10 (enrolledOnce.foldl (step onePlace) opened).db := by
  have facts : (enrolledOnce.foldl (step onePlace) opened).issues.map Issue.phase = [.committed 10] ∧
      failure (deleteDevice 1 10 (enrolledOnce.foldl (step onePlace) opened).db) =
        some ⟨"23514", "new row for relation \"enrollment_codes\" violates check constraint \"enrollment_codes_one_time\""⟩ := by
    decide
  refine ⟨facts.1, facts.2, ?_⟩
  rintro ⟨after, done, _⟩
  rw [done] at facts
  cases facts.2

end VodogeCloud.Guarantees.DeviceDeletion
