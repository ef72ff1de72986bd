import VodogeCloud.Guarantees.ResultReplay
import VodogeCloud.Guarantees.SessionSurvival

/-!
# Receipts of commands

The contract gives a receipt one of three statuses. `RecordReceipt` writes the same
columns for all of them, and `retry_at` is not among them, while the table wants a
`retry_at` of every `retry_later`. So the two receipts that stop a delivery are
recorded whatever else the tables hold, and the one that asks for another delivery
never is. The session it came in on ends there.
-/

set_option autoImplicit false

namespace VodogeCloud.Guarantees.RecordedReceipts

open VodogeCloud.Lib VodogeCloud.Lib.Transactions
open VodogeCloud.Source.Postgres VodogeCloud.Source.CommandTables VodogeCloud.Source.CommandLifecycle
open VodogeCloud.Source.PendingCommands
open VodogeCloud.Guarantees.ResultReplay VodogeCloud.Guarantees.SessionSurvival

/-- A receipt as the contract has it, for a command the tenant has. -/
structure Legal (tenant : Uuid) (receipt : Receipt) (commandId : Uuid) (db : CommandDb) : Prop where
  id : ∃ id, uuidIn receipt.id = .ok id
  command : uuidIn receipt.commandId = .ok commandId
  status : receipt.status ∈ ["accepted", "duplicate", "retry_later"]
  known : ∃ row ∈ db.commands, row.id = commandId ∧ row.tenantId = tenant

/-- What a receipt makes of a command. -/
def received (tenant commandId : Uuid) (status : String) (now : Timestamp) (row : CommandRow) :
    CommandRow :=
  if (status = "accepted" ∨ status = "duplicate") ∧
      (row.tenantId = tenant ∧ row.id = commandId) ∧ (row.status = .queued ∨ row.status = .dispatched) then
    { row with status := .accepted, acceptedAt := some now }
  else row

/-- The commands after the receipt; one that is to be retried is offered as before. -/
structure Recorded (tenant commandId : Uuid) (status : String) (now : Timestamp) (db db' : CommandDb) :
    Prop where
  commands : db'.commands.rows = db.commands.rows.map (received tenant commandId status now)
  offered : status = "retry_later" → ∀ (around : Surroundings) (device : Uuid) (later : Timestamp),
    (pendingForDevice around tenant device later db').2 = (pendingForDevice around tenant device later db).2

section Receipt

variable {tenant commandId : Uuid} {receipt : Receipt} {now : Timestamp} {db : CommandDb}

/-- The `INSERT` of a `retry_later` breaks `command_receipts_retry_at_shape`. -/
theorem retry_later_refused (legal : Legal tenant receipt commandId db) (retry : receipt.status = "retry_later") :
    recordReceipt tenant receipt now db = .error ⟨"23514",
      "new row for relation \"command_receipts\" violates check constraint \"command_receipts_retry_at_shape\""⟩ := by
  obtain ⟨id, read⟩ := legal.id
  simp only [recordReceipt, read, legal.command, retry, receiptKindIn, bind, Except.bind]
  rfl

/-- An `accepted` or `duplicate` is recorded, and settles the command if it waits. -/
theorem stop_recorded (legal : Legal tenant receipt commandId db) (stops : receipt.status ≠ "retry_later") :
    ∃ db', recordReceipt tenant receipt now db = .ok db' ∧
      db'.commands.rows = db.commands.rows.map (received tenant commandId receipt.status now) := by
  obtain ⟨id, read⟩ := legal.id
  obtain ⟨kind, parsed, late⟩ := receiptKindIn_label legal.status
  have shape : ReceiptRow.retryShape
      ⟨id, tenant, commandId, kind, .obj [], receipt.receivedAt, none, none, none⟩ = true := by
    simp [ReceiptRow.retryShape, late, stops]
  obtain ⟨⟨db1, inserted⟩, done⟩ := insertReceipt_ok_iff.mpr ⟨shape, Or.inr legal.known⟩
  have same : db1.commands = db.commands := by
    rcases (insertReceipt_cases done).2 with ⟨_, rfl, _⟩ | ⟨_, _, _, _, commands, _⟩
    · rfl
    · exact commands
  have stop : receipt.status = "accepted" ∨ receipt.status = "duplicate" := by
    have := legal.status
    simp only [List.mem_cons, List.not_mem_nil, or_false] at this
    tauto
  refine ⟨db1.updateCommands (fun row => commandOf tenant commandId row && row.status.deliverable)
    (fun row => { row with status := .accepted, acceptedAt := some now }) (fun _ => rfl), ?_, ?_⟩
  · simp only [recordReceipt, read, legal.command, parsed, done, bind, Except.bind, if_pos stop]
    rfl
  · show db1.commands.rows.map _ = _
    rw [same]
    refine List.map_congr_left fun row _ => ?_
    unfold received
    have hit : (commandOf tenant commandId row && row.status.deliverable) = true ↔
        ((receipt.status = "accepted" ∨ receipt.status = "duplicate") ∧
          (row.tenantId = tenant ∧ row.id = commandId) ∧
          (row.status = .queued ∨ row.status = .dispatched)) := by
      have waits : row.status.deliverable = true ↔ row.status = .queued ∨ row.status = .dispatched := by
        cases row.status <;> decide
      simp only [commandOf, Bool.and_eq_true, decide_eq_true_eq, waits, stop, true_and]
    exact if_congr hit rfl rfl

/-- For every state of the tables and every receipt the contract allows:
`RecordReceipt` records it as the contract means it exactly if it is not
`retry_later`. -/
theorem receipt_recorded_iff (legal : Legal tenant receipt commandId db) :
    (∃ db', recordReceipt tenant receipt now db = .ok db' ∧
      Recorded tenant commandId receipt.status now db db') ↔ receipt.status ≠ "retry_later" := by
  constructor
  · rintro ⟨db', done, _⟩ retry
    rw [retry_later_refused legal retry] at done
    cases done
  · intro stops
    obtain ⟨db', done, commands⟩ := @stop_recorded tenant commandId receipt now db legal stops
    exact ⟨db', done, commands, fun retry => absurd retry stops⟩

end Receipt

/-! ## The one command of tenant 1 -/

/-- Its device's receipt. -/
def receiptFor (status : String) : Receipt :=
  ⟨"00000000-0000-0000-0000-000000000009", "00000000-0000-0000-0000-000000000003",
    "00000000-0000-0000-0000-000000000004", status, 10⟩

theorem receiptFor_legal {status : String} (legal : status ∈ ["accepted", "duplicate", "retry_later"]) :
    Legal 1 (receiptFor status) 3 oneCommand := by
  have receiptId : uuidIn "00000000-0000-0000-0000-000000000009" = .ok 9 := by decide
  have commandId : uuidIn "00000000-0000-0000-0000-000000000003" = .ok 3 := by decide
  refine ⟨⟨9, receiptId⟩, commandId, legal, ?_⟩
  have known : ∃ row ∈ oneCommand.commands.rows, row.id = 3 ∧ row.tenantId = 1 := by decide
  exact known

theorem accepted_receipt_recorded :
    (receiptFor "accepted").status ≠ "retry_later" ∧
    ∃ db', recordReceipt 1 (receiptFor "accepted") 20 oneCommand = .ok db' ∧
      Recorded 1 3 (receiptFor "accepted").status 20 oneCommand db' :=
  ⟨by decide, (receipt_recorded_iff (receiptFor_legal (by decide))).mpr (by decide)⟩

/-- The command is queued, and the device asks to be asked again. -/
theorem retry_later_unrecorded :
    oneCommand.commands.rows.map CommandRow.status = [.queued] ∧
    Legal 1 (receiptFor "retry_later") 3 oneCommand ∧
    ¬ ∃ db', recordReceipt 1 (receiptFor "retry_later") 20 oneCommand = .ok db' ∧
      Recorded 1 3 (receiptFor "retry_later").status 20 oneCommand db' := by
  have legal := @receiptFor_legal "retry_later" (by decide)
  refine ⟨by decide, legal, ?_⟩
  rintro ⟨db', done, _⟩
  rw [retry_later_refused legal rfl] at done
  cases done

end VodogeCloud.Guarantees.RecordedReceipts
