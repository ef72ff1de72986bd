import VodogeCloud.Lib.Transactions
import VodogeCloud.Source.CommandLifecycle

/-!
# The two expiry sweeps

`expire_overdue_commands` runs when a device asks for its commands and
`expire_overdue_tenant_commands` on a timer, so which of them reaches a command first is
a race. Both are one sweep over the commands a condition selects. Two sweeps one after the
other are one sweep over the commands either selects, because what the first has expired
is not overdue for the second; so all devices of a tenant, in any order, come to the same
rows and the same count as the tenant at once.
-/

set_option autoImplicit false

namespace VodogeCloud.Guarantees.ExpirySweeps

open VodogeCloud.Lib VodogeCloud.Lib.Transactions VodogeCloud.Source.Postgres
open VodogeCloud.Source.CommandTables VodogeCloud.Source.CommandLifecycle

section Sweeps

variable {calendar : Calendar} {tenant : Uuid} {now : Option Timestamp} {db : CommandDb}

/-! ## One sweep -/

/-- The commands of the devices a condition selects. -/
def dueIn (tenant : Uuid) (now : Option Timestamp) (among : Uuid → Bool) (row : CommandRow) : Bool :=
  row.tenantId = tenant && among row.deviceId && overdue now row

/-- What becomes of a message of the swept commands. -/
def sweptText (swept : List CommandRow) (message : MessageRow) : String :=
  if swept.any (fun command => message.commandId = some command.id && command.status = .accepted)
  then acceptedText else unreceiptedText

/-- The rows after a sweep of the commands `hit` selects. -/
structure Swept (calendar : Calendar) (tenant : Uuid) (now : Timestamp) (hit : CommandRow → Bool)
    (db after : CommandDb) : Prop where
  commands : after.commands.rows =
    db.commands.rows.map fun row => if hit row then expireRow calendar now row else row
  outbox : after.outbox.rows = db.outbox.rows.map fun row =>
    if wakeupIn tenant ((db.commands.rows.filter hit).map CommandRow.id) row then publishRow now row else row
  messages : after.messages.rows = db.messages.rows.map fun row =>
    if queuedMessageOf tenant ((db.commands.rows.filter hit).map CommandRow.id) row then
      failMessage (sweptText (db.commands.rows.filter hit)) row
    else row
  attempts : after.attempts = db.attempts
  receipts : after.receipts = db.receipts

theorem Swept.unique {at_ : Timestamp} {hit : CommandRow → Bool} {a b : CommandDb}
    (first : Swept calendar tenant at_ hit db a) (second : Swept calendar tenant at_ hit db b) : a = b := by
  have commands : a.commands = b.commands := Table.ext (first.commands.trans second.commands.symm)
  have outbox : a.outbox = b.outbox := Table.ext (first.outbox.trans second.outbox.symm)
  have messages : a.messages = b.messages := Table.ext (first.messages.trans second.messages.symm)
  have attempts := first.attempts.trans second.attempts.symm
  have receipts := first.receipts.trans second.receipts.symm
  cases a
  cases b
  simp_all

/-- A sweep goes through, whatever it selects. -/
theorem expireSweep_swept (hit : CommandRow → Bool) (at_ : Timestamp) :
    ∃ after, expireSweep calendar tenant hit at_ db = .ok (after, (db.commands.rows.filter hit).length) ∧
      Swept calendar tenant at_ hit db after := by
  obtain ⟨written, done⟩ := @updateOutbox_succeeds
    (db.updateCommands hit (expireRow calendar at_) (expireRow_identity calendar at_))
    (wakeupIn tenant ((db.commands.rows.filter hit).map CommandRow.id)) (publishRow at_)
    (publishRow_identity at_) (fun _ _ _ => rfl)
  obtain ⟨_, commands, receipts, messages, attempts⟩ := updateOutbox_ok done
  have outbox := updateOutbox_rows done
  refine ⟨written.updateMessages (queuedMessageOf tenant ((db.commands.rows.filter hit).map CommandRow.id))
    (failMessage (sweptText (db.commands.rows.filter hit))) (failMessage_identity _), ?_, ?_⟩
  · unfold expireSweep
    dsimp only
    rw [done]
    rfl
  · refine ⟨?_, outbox, ?_, attempts, receipts⟩
    · show written.commands.rows = _
      rw [commands]
      rfl
    · show written.messages.rows.map _ = _
      rw [messages]
      rfl

/-! ## One sweep after another -/

variable {at_ : Timestamp} {p q : Uuid → Bool} {a b : CommandDb}

theorem dueIn_expireRow (row : CommandRow) : dueIn tenant now q (expireRow calendar at_ row) = false := by
  simp [dueIn, overdue, expireRow, CommandStatus.open]

theorem dueIn_or (row : CommandRow) :
    dueIn tenant now (fun device => p device || q device) row = (dueIn tenant now p row || dueIn tenant now q row) := by
  simp only [dueIn]
  cases row.tenantId = tenant |> decide <;> cases p row.deviceId <;> cases q row.deviceId <;> simp

/-- The second sweep finds what the first has left, as it was. -/
theorem filter_swept (first : Swept calendar tenant at_ (dueIn tenant now p) db a) :
    a.commands.rows.filter (dueIn tenant now q) =
      db.commands.rows.filter fun row => !dueIn tenant now p row && dueIn tenant now q row := by
  rw [first.commands]
  induction db.commands.rows with
  | nil => rfl
  | cons row rest ih =>
    rw [List.map_cons, List.filter_cons, List.filter_cons, ih]
    cases hit : dueIn tenant now p row with
    | true => simp [dueIn_expireRow]
    | false => simp

theorem filter_length_or (rows : List CommandRow) (hit other : CommandRow → Bool) :
    (rows.filter fun row => hit row || other row).length =
      (rows.filter hit).length + (rows.filter fun row => !hit row && other row).length := by
  induction rows with
  | nil => rfl
  | cons row rest ih =>
    simp only [List.filter_cons]
    cases hit row <;> cases other row <;> simp [ih] <;> omega

theorem contains_or (rows : List CommandRow) (hit other : CommandRow → Bool) (id : Uuid) :
    ((rows.filter fun row => hit row || other row).map CommandRow.id).contains id =
      (((rows.filter hit).map CommandRow.id).contains id ||
        ((rows.filter fun row => !hit row && other row).map CommandRow.id).contains id) := by
  induction rows with
  | nil => rfl
  | cons row rest ih =>
    simp only [List.filter_cons]
    cases hit row <;> cases other row <;> simp_all [Bool.or_assoc, Bool.or_left_comm]

/-- The text of a message is that of its own command, whatever else is swept. -/
theorem sweptText_of_subset {some_ more : List CommandRow} {message : MessageRow}
    (inTable : ∀ command ∈ more, command ∈ db.commands) (fewer : ∀ command ∈ some_, command ∈ more)
    (own : message.commandId.any (some_.map CommandRow.id).contains = true) :
    sweptText some_ message = sweptText more message := by
  obtain ⟨id, found, member⟩ := (Option.any_eq_true _ _).mp own
  obtain ⟨mine, inSome, sameId⟩ := List.mem_map.mp (List.contains_iff_mem.mp member)
  have same : some_.any (fun command => message.commandId = some command.id && command.status = .accepted) =
      more.any (fun command => message.commandId = some command.id && command.status = .accepted) := by
    rw [Bool.eq_iff_iff, List.any_eq_true, List.any_eq_true]
    constructor
    · rintro ⟨command, inside, about⟩
      exact ⟨command, fewer command inside, about⟩
    · rintro ⟨command, inside, about⟩
      have its : message.commandId = some command.id := by
        simp only [Bool.and_eq_true, decide_eq_true_eq] at about
        exact about.1
      have equal : command = mine := by
        refine Table.eq_of_key (inTable command inside) (inTable mine (fewer mine inSome)) ?_
        rw [found] at its
        rw [sameId]
        exact (Option.some.inj its).symm
      exact ⟨mine, inSome, equal ▸ about⟩
  unfold sweptText
  rw [same]

/-- What is not in the first set is in both together exactly where it is in the second. -/
theorem and_or_of_miss : ∀ {x y z w v : Bool}, ¬(x && y && w && v) = true →
    (x && (y || z) && w && v) = (x && z && w && v) := by
  decide

theorem outbox_twice (ids later all : List Uuid) (row : OutboxRow)
    (both : all.contains row.commandId = (ids.contains row.commandId || later.contains row.commandId)) :
    (if wakeupIn tenant later (if wakeupIn tenant ids row then publishRow at_ row else row) then
        publishRow at_ (if wakeupIn tenant ids row then publishRow at_ row else row)
      else (if wakeupIn tenant ids row then publishRow at_ row else row)) =
      if wakeupIn tenant all row then publishRow at_ row else row := by
  by_cases hit : wakeupIn tenant ids row = true
  · have resolved : wakeupIn tenant later (publishRow at_ row) = false := by simp [wakeupIn, publishRow]
    have hitAll : wakeupIn tenant all row = true := by
      simp only [wakeupIn, Bool.and_eq_true] at hit ⊢
      exact ⟨⟨hit.1.1, by rw [both, hit.1.2]; rfl⟩, hit.2⟩
    rw [if_pos hit, resolved, if_neg (by decide), if_pos hitAll]
  · have same : wakeupIn tenant all row = wakeupIn tenant later row := by
      unfold wakeupIn at hit ⊢
      rw [both]
      have merged := @and_or_of_miss (row.tenantId = tenant) (ids.contains row.commandId)
        (later.contains row.commandId) row.resolvedAt.isNone true (by rwa [Bool.and_true])
      rwa [Bool.and_true, Bool.and_true] at merged
    rw [if_neg hit, same]

theorem message_twice (ids later all : List Uuid) (text textLater textAll : MessageRow → String) (row : MessageRow)
    (both : row.commandId.any all.contains = (row.commandId.any ids.contains || row.commandId.any later.contains))
    (first : row.commandId.any ids.contains = true → text row = textAll row)
    (second : row.commandId.any later.contains = true → textLater row = textAll row) :
    (if queuedMessageOf tenant later (if queuedMessageOf tenant ids row then failMessage text row else row) then
        failMessage textLater (if queuedMessageOf tenant ids row then failMessage text row else row)
      else (if queuedMessageOf tenant ids row then failMessage text row else row)) =
      if queuedMessageOf tenant all row then failMessage textAll row else row := by
  by_cases hit : queuedMessageOf tenant ids row = true
  · have failed : queuedMessageOf tenant later (failMessage text row) = false := by
      simp [queuedMessageOf, failMessage]
    have own : row.commandId.any ids.contains = true := by
      simp only [queuedMessageOf, Bool.and_eq_true] at hit
      exact hit.1.1.2
    have hitAll : queuedMessageOf tenant all row = true := by
      simp only [queuedMessageOf, Bool.and_eq_true] at hit ⊢
      exact ⟨⟨⟨hit.1.1.1, by rw [both, own]; rfl⟩, hit.1.2⟩, hit.2⟩
    rw [if_pos hit, failed, if_neg (by decide), if_pos hitAll]
    unfold failMessage
    rw [first own]
  · have same : queuedMessageOf tenant all row = queuedMessageOf tenant later row := by
      unfold queuedMessageOf at hit ⊢
      rw [both]
      exact and_or_of_miss hit
    rw [if_neg hit, same]
    by_cases hitLater : queuedMessageOf tenant later row = true
    · have own : row.commandId.any later.contains = true := by
        simp only [queuedMessageOf, Bool.and_eq_true] at hitLater
        exact hitLater.1.1.2
      rw [if_pos hitLater, if_pos hitLater]
      unfold failMessage
      rw [second own]
    · rw [if_neg hitLater, if_neg hitLater]

/-- Two sweeps one after the other are one over what either selects. -/
theorem Swept.trans (first : Swept calendar tenant at_ (dueIn tenant now p) db a)
    (second : Swept calendar tenant at_ (dueIn tenant now q) a b) :
    Swept calendar tenant at_ (dueIn tenant now fun device => p device || q device) db b := by
  have hits : dueIn tenant now (fun device => p device || q device) =
      fun row => dueIn tenant now p row || dueIn tenant now q row := funext dueIn_or
  have left := @filter_swept calendar tenant now db at_ p q a first
  have contained := contains_or db.commands.rows (dueIn tenant now p) (dueIn tenant now q)
  refine ⟨?_, ?_, ?_, second.attempts.trans first.attempts, second.receipts.trans first.receipts⟩
  · rw [second.commands, first.commands, List.map_map, hits]
    refine List.map_congr_left fun row _ => ?_
    cases hit : dueIn tenant now p row with
    | true => simp [hit, dueIn_expireRow]
    | false => simp [hit]
  · rw [second.outbox, left, first.outbox, List.map_map, hits]
    exact List.map_congr_left fun row _ => outbox_twice _ _ _ row (contained row.commandId)
  · rw [second.messages, left, first.messages, List.map_map, hits]
    refine List.map_congr_left fun row _ => message_twice _ _ _ _ _ _ row ?_ (fun own => ?_) (fun own => ?_)
    · cases row.commandId with
      | none => rfl
      | some id => exact contained id
    · refine @sweptText_of_subset db _ _ row (fun command member => (List.mem_filter.mp member).1)
        (fun command member => ?_) own
      obtain ⟨inTable, hit⟩ := List.mem_filter.mp member
      exact List.mem_filter.mpr ⟨inTable, by rw [hit]; rfl⟩
    · refine @sweptText_of_subset db _ _ row (fun command member => (List.mem_filter.mp member).1)
        (fun command member => ?_) own
      obtain ⟨inTable, hit⟩ := List.mem_filter.mp member
      simp only [Bool.and_eq_true] at hit
      exact List.mem_filter.mpr ⟨inTable, by rw [hit.2, Bool.or_true]⟩

/-! ## Nothing to sweep -/

theorem Swept.congr {hit other : CommandRow → Bool} (swept : Swept calendar tenant at_ hit db a)
    (same : ∀ row ∈ db.commands.rows, hit row = other row) : Swept calendar tenant at_ other db a := by
  have filtered : db.commands.rows.filter hit = db.commands.rows.filter other := List.filter_congr same
  refine ⟨?_, ?_, ?_, swept.attempts, swept.receipts⟩
  · rw [swept.commands]
    exact List.map_congr_left fun row member => by rw [same row member]
  · rw [swept.outbox, filtered]
  · rw [swept.messages, filtered]

/-- A sweep that selects nothing changes nothing. -/
theorem Swept.nothing {hit : CommandRow → Bool} (none_ : ∀ row ∈ db.commands.rows, hit row = false) :
    Swept calendar tenant at_ hit db db := by
  have empty : db.commands.rows.filter hit = [] := List.filter_eq_nil_iff.mpr fun row member => by
    simp [none_ row member]
  refine ⟨?_, ?_, ?_, rfl, rfl⟩
  · conv_lhs => rw [← List.map_id db.commands.rows]
    exact List.map_congr_left fun row member => by simp [none_ row member]
  · conv_lhs => rw [← List.map_id db.outbox.rows]
    exact List.map_congr_left fun row _ => by simp [empty, wakeupIn]
  · conv_lhs => rw [← List.map_id db.messages.rows]
    refine List.map_congr_left fun row _ => ?_
    have miss : queuedMessageOf tenant [] row = false := by
      unfold queuedMessageOf
      cases row.commandId <;> simp
    rw [empty, List.map_nil, miss]
    rfl

theorem expireSweep_nothing {hit : CommandRow → Bool} (none_ : ∀ row ∈ db.commands.rows, hit row = false) :
    expireSweep calendar tenant hit at_ db = .ok (db, 0) := by
  obtain ⟨after, done, swept⟩ := @expireSweep_swept calendar tenant db hit at_
  have empty : db.commands.rows.filter hit = [] := List.filter_eq_nil_iff.mpr fun row member => by
    simp [none_ row member]
  rw [done, empty, swept.unique (Swept.nothing none_)]
  rfl

/-- What was swept is not due again. -/
theorem swept_not_due (swept : Swept calendar tenant at_ (dueIn tenant now p) db a)
    (within : ∀ row ∈ db.commands.rows, dueIn tenant now q row = true → dueIn tenant now p row = true) :
    ∀ row ∈ a.commands.rows, dueIn tenant now q row = false := by
  intro row member
  rw [swept.commands] at member
  obtain ⟨old, inTable, rfl⟩ := List.mem_map.mp member
  by_cases hit : dueIn tenant now p old = true
  · rw [if_pos hit]
    exact dueIn_expireRow old
  · rw [if_neg hit, Bool.eq_false_iff]
    exact fun due => hit (within old inTable due)

/-! ## The two functions -/

theorem expireOverdueCommands_eq (device : Uuid) :
    expireOverdueCommands calendar (some tenant) tenant device now db =
      expireSweep calendar tenant (dueIn tenant now fun other => other = device) (now.getD 0) db := by
  unfold expireOverdueCommands tenantGuard
  rw [if_pos rfl]
  rfl

theorem expireOverdueTenantCommands_eq :
    expireOverdueTenantCommands calendar (some tenant) tenant now db =
      expireSweep calendar tenant (dueIn tenant now fun _ => true) (now.getD 0) db := by
  have hits : dueIn tenant now (fun _ => true) = fun row => row.tenantId = tenant && overdue now row := by
    funext row
    simp [dueIn]
  unfold expireOverdueTenantCommands tenantGuard
  rw [if_pos rfl, hits]
  rfl

/-- `expire_overdue_commands` for one device after another, with the counts added up. -/
def sweepDevices (calendar : Calendar) (tenant : Uuid) (now : Option Timestamp) (devices : List Uuid)
    (db : CommandDb) : Except PgError (CommandDb × Nat) :=
  devices.foldlM (fun done device =>
    (expireOverdueCommands calendar (some tenant) tenant device now done.1).map fun swept =>
      (swept.1, done.2 + swept.2)) (db, 0)

theorem sweepDevices_swept (devices : List Uuid) (db : CommandDb) (before : Nat) :
    ∃ after, devices.foldlM (fun done device =>
        (expireOverdueCommands calendar (some tenant) tenant device now done.1).map fun swept =>
          (swept.1, done.2 + swept.2)) (db, before) =
        Except.ok (after, before + (db.commands.rows.filter (dueIn tenant now devices.contains)).length) ∧
      Swept calendar tenant (now.getD 0) (dueIn tenant now devices.contains) db after := by
  induction devices generalizing db before with
  | nil =>
    have none_ : ∀ row ∈ db.commands.rows, dueIn tenant now ([] : List Uuid).contains row = false := by
      intro row _
      simp [dueIn]
    refine ⟨db, ?_, Swept.nothing none_⟩
    rw [List.filter_eq_nil_iff.mpr fun row member => by simp [none_ row member]]
    rfl
  | cons device rest ih =>
    obtain ⟨middle, done, first⟩ :=
      @expireSweep_swept calendar tenant db (dueIn tenant now fun other => other = device) (now.getD 0)
    obtain ⟨after, followed, second⟩ :=
      ih middle (before + (db.commands.rows.filter (dueIn tenant now fun other => other = device)).length)
    have hits : dueIn tenant now (device :: rest).contains =
        dueIn tenant now fun other => decide (other = device) || rest.contains other := by
      congr 1
    refine ⟨after, ?_, ?_⟩
    · rw [List.foldlM_cons, expireOverdueCommands_eq, done]
      refine followed.trans ?_
      rw [@filter_swept calendar tenant now db (now.getD 0) _ rest.contains middle first, hits,
        funext (@dueIn_or tenant now (fun other => decide (other = device)) rest.contains),
        filter_length_or, Nat.add_assoc]
    · rw [hits]
      exact first.trans second

/-- Every device of the tenant, in any order, comes to the same rows and the same count as
the tenant at once, and neither sweep then finds anything more at that time. -/
theorem sweeps_agree (calendar : Calendar) (tenant : Uuid) (now : Option Timestamp) (devices : List Uuid)
    (db : CommandDb) (all : ∀ row ∈ db.commands, row.tenantId = tenant → row.deviceId ∈ devices) :
    (∃ after count,
      sweepDevices calendar tenant now devices db = .ok (after, count) ∧
      expireOverdueTenantCommands calendar (some tenant) tenant now db = .ok (after, count) ∧
      expireOverdueTenantCommands calendar (some tenant) tenant now after = .ok (after, 0) ∧
      ∀ device, expireOverdueCommands calendar (some tenant) tenant device now after = .ok (after, 0)) ∧
    ∀ device once count, expireOverdueCommands calendar (some tenant) tenant device now db = .ok (once, count) →
      expireOverdueCommands calendar (some tenant) tenant device now once = .ok (once, 0) := by
  refine ⟨?_, fun device once count done => ?_⟩
  · obtain ⟨after, done, swept⟩ := @sweepDevices_swept calendar tenant now devices db 0
    obtain ⟨whole, doneWhole, sweptWhole⟩ :=
      @expireSweep_swept calendar tenant db (dueIn tenant now fun _ => true) (now.getD 0)
    have same : ∀ row ∈ db.commands.rows,
        dueIn tenant now devices.contains row = dueIn tenant now (fun _ => true) row := by
      intro row member
      by_cases owner : row.tenantId = tenant
      · simp [dueIn, all row member owner]
      · simp [dueIn, owner]
    have equal : after = whole := (swept.congr same).unique sweptWhole
    have quiet : ∀ among : Uuid → Bool, ∀ row ∈ after.commands.rows, dueIn tenant now among row = false := by
      intro among
      refine swept_not_due (swept.congr same) fun row _ due => ?_
      simp only [dueIn, Bool.and_eq_true] at due ⊢
      exact ⟨⟨due.1.1, trivial⟩, due.2⟩
    refine ⟨after, (db.commands.rows.filter (dueIn tenant now fun _ => true)).length, ?_, ?_, ?_, fun device => ?_⟩
    · unfold sweepDevices
      rw [done, Nat.zero_add, List.filter_congr same]
    · rw [expireOverdueTenantCommands_eq, doneWhole, equal]
    · rw [expireOverdueTenantCommands_eq]
      exact expireSweep_nothing (quiet _)
    · rw [expireOverdueCommands_eq]
      exact expireSweep_nothing (quiet _)
  · rw [expireOverdueCommands_eq] at done ⊢
    obtain ⟨after, doneOnce, swept⟩ :=
      @expireSweep_swept calendar tenant db (dueIn tenant now fun other => other = device) (now.getD 0)
    rw [doneOnce] at done
    cases done
    exact expireSweep_nothing (swept_not_due swept fun _ _ due => due)

end Sweeps

/-! ## Two devices -/

def sweepCalendar : Calendar := ⟨fun at_ _ => some at_, fun at_ _ => some at_, fun _ => ""⟩

/-- A command of a device of tenant 5 that expires at 100. -/
def restart (device id : Uuid) (outboxId : Nat) (key : String) : CommandOp :=
  .enqueueCommand (fun _ _ => true) (some 5) ⟨5, device, .restartModem, .obj [], key, 100⟩ id outboxId 0

def twoDevices : CommandDb := run (CommandOp.apply sweepCalendar) .empty [restart 7 1 1 "a", restart 8 2 2 "b"]

theorem two_devices_swept :
    (∃ after count,
      sweepDevices sweepCalendar 5 (some 200) [8, 7] twoDevices = .ok (after, count) ∧
      expireOverdueTenantCommands sweepCalendar (some 5) 5 (some 200) twoDevices = .ok (after, count)) ∧
    (expireOverdueTenantCommands sweepCalendar (some 5) 5 (some 200) twoDevices).map Prod.snd = .ok 2 := by
  have facts : (∀ row ∈ twoDevices.commands, row.tenantId = 5 → row.deviceId ∈ [(8 : Uuid), 7]) ∧
      (expireOverdueTenantCommands sweepCalendar (some 5) 5 (some 200) twoDevices).map Prod.snd = .ok 2 := by
    decide
  obtain ⟨after, count, devices, tenant, _⟩ :=
    (sweeps_agree sweepCalendar 5 (some 200) [8, 7] twoDevices facts.1).1
  exact ⟨⟨after, count, devices, tenant⟩, facts.2⟩

end VodogeCloud.Guarantees.ExpirySweeps
