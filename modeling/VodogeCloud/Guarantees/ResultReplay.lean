import VodogeCloud.Guarantees.TerminalCommands

/-!
# What a command result does to its command

`settlingResults.RecordResult` row by row: the command, its wakeup and the
outbound message that mirrors it. Two things follow. A result ends its command
when its status is one of the five terminal ones, and only then. Applying the
same result again changes nothing unless the first application made the second
one look like a late answer.
-/

set_option autoImplicit false

namespace VodogeCloud.Guarantees.ResultReplay

open VodogeCloud.Lib VodogeCloud.Lib.Transactions
open VodogeCloud.Source.Postgres VodogeCloud.Source.CommandTables VodogeCloud.Source.CommandLifecycle
open VodogeCloud.Guarantees.TerminalCommands

/-! ## The rows after a result -/

/-- One command row after `RecordResult`. -/
def resultRow (tenant id : Uuid) (status : CommandStatus) (completedAt : Timestamp) (detail : Jsonb)
    (row : CommandRow) : CommandRow :=
  if resultHit tenant id row then finishRow status completedAt detail row
  else if lateHit tenant id row then lateRow detail row
  else row

/-- One wakeup after `RecordResult`. -/
def settledWakeup (tenant id : Uuid) (now : Timestamp) (row : OutboxRow) : OutboxRow :=
  if wakeupOf tenant id row then publishRow now row else row

/-- What `RecordResult` parses before it writes. -/
structure Parsed (result : CommandResult) (status : CommandStatus) (detail : Jsonb) (id : Uuid) :
    Prop where
  status : statusIn result.status = .ok status
  detail : jsonbIn result.detail = .ok detail
  id : uuidIn result.commandId = .ok id

section Rows

variable {tenant id : Uuid} {status : CommandStatus} {detail : Jsonb} {result : CommandResult}
  {now : Timestamp} {db db' : CommandDb}

theorem recordResult_parsed (h : recordResult tenant result now db = .ok db') :
    ∃ status detail id, Parsed result status detail id := by
  obtain ⟨status, read, h⟩ := bind_success h
  obtain ⟨detail, parsed, h⟩ := bind_success h
  obtain ⟨id, named, h⟩ := bind_success h
  exact ⟨status, detail, id, read, parsed, named⟩

/-- A row the main UPDATE reaches is the only one of its command. -/
theorem lateHit_false {row other : CommandRow} (member : row ∈ db.commands)
    (inTable : other ∈ db.commands) (reached : resultHit tenant id row = true) :
    lateHit tenant id other = false := by
  rw [Bool.eq_false_iff]
  intro late
  simp only [resultHit, lateHit, commandOf, Bool.and_eq_true, decide_eq_true_eq, Bool.not_eq_true',
    Bool.or_eq_true] at reached late
  have same : row = other := Table.eq_of_key member inTable (reached.1.2.trans late.1.2.symm)
  subst same
  rcases late.2 with expired | cancelled
  · rw [expired] at reached
    exact absurd reached.2 (by decide)
  · rw [cancelled] at reached
    exact absurd reached.2 (by decide)

theorem commands_rows_of_result (changed : Bool)
    (decides : changed = db.commands.rows.any (resultHit tenant id)) (completedAt : Timestamp) :
    (if changed then
      db.updateCommands (resultHit tenant id) (finishRow status completedAt detail)
        (finishRow_identity status completedAt detail)
    else
      db.updateCommands (lateHit tenant id) (lateRow detail) (lateRow_identity detail)).commands.rows =
      db.commands.rows.map (resultRow tenant id status completedAt detail) := by
  subst decides
  split
  · next some_ =>
    obtain ⟨first, inTable, reached⟩ := List.any_eq_true.mp some_
    apply List.map_congr_left
    intro row member
    simp [resultRow, lateHit_false inTable member reached]
  · next none_ =>
    apply List.map_congr_left
    intro row member
    have missed : resultHit tenant id row = false := by
      rw [Bool.eq_false_iff]
      exact fun reached => none_ (List.any_eq_true.mpr ⟨row, member, reached⟩)
    simp [resultRow, missed]

/-- The whole effect of `RecordResult`. -/
theorem recordResult_rows (parsed : Parsed result status detail id)
    (h : recordResult tenant result now db = .ok db') :
    db'.commands.rows =
        db.commands.rows.map (resultRow tenant id status result.completedAt detail) ∧
      db'.outbox.rows = db.outbox.rows.map (settledWakeup tenant id now) ∧
      db'.messages = db.messages := by
  unfold recordResult at h
  rw [parsed.status, ok_bind, parsed.detail, ok_bind, parsed.id, ok_bind] at h
  dsimp only at h
  have commands := @commands_rows_of_result tenant id status detail db _ rfl result.completedAt
  obtain ⟨_, same, _, messages, _⟩ := updateOutbox_ok h
  have outbox := updateOutbox_rows h
  refine ⟨by rw [same]; exact commands, ?_, ?_⟩
  · rw [outbox]
    split <;> rfl
  · rw [messages]
    split <;> rfl

theorem recordResult_succeeds (parsed : Parsed result status detail id) (now : Timestamp)
    (db : CommandDb) : ∃ db', recordResult tenant result now db = .ok db' := by
  unfold recordResult
  rw [parsed.status, ok_bind, parsed.detail, ok_bind, parsed.id, ok_bind]
  exact updateOutbox_succeeds _ fun row _ _ => publishRow_leaseShape now row

/-! ## The message -/

/-- The reference of the result fits its column. -/
def fits (result : CommandResult) : Bool :=
  (messageReference result.details).all (· ≤ (integerMax : Int))

/-- The status `settlingResults` writes to the message. -/
def messageStatus (result : CommandResult) : MessageStatus :=
  if result.status = "succeeded" then .sent else .failed

/-- The reason it writes. -/
def messageReason (result : CommandResult) : String :=
  if result.reason = "" then result.reasonCode else result.reason

/-- One message after `SettleOutbound`. -/
def settledMessage (tenant id : Uuid) (result : CommandResult) (commands : List CommandRow)
    (now : Timestamp) (row : MessageRow) : MessageRow :=
  if fits result && settleHit tenant id commands row then
    settleMessage (messageStatus result) (messageReason result) (messageReference result.details)
      now row
  else row

theorem jsonbInFields_values {fields : List (List JsonChar × Json)} {values : List (String × Jsonb)}
    (h : jsonbInFields fields = .ok values) :
    ∀ field ∈ fields, ∃ value, jsonbIn field.2 = .ok value := by
  induction fields generalizing values with
  | nil => simp
  | cons first rest ih =>
    obtain ⟨key, item⟩ := first
    unfold jsonbInFields at h
    obtain ⟨_, _, h⟩ := bind_success h
    obtain ⟨value, parsed, h⟩ := bind_success h
    obtain ⟨others, later, _⟩ := bind_success h
    intro field member
    rcases List.mem_cons.mp member with rfl | inRest
    · exact ⟨value, parsed⟩
    · exact ih later field inRest

theorem no_nul_of_jsonbIn {text : String} {value : Jsonb}
    (h : jsonbIn (.str (chars text)) = .ok value) : '\x00' ∉ text.toList := by
  obtain ⟨_, read, _⟩ := map_eq_ok.mp h
  intro member
  have inside : JsonChar.scalar '\x00' ∈ chars text := List.mem_map.mpr ⟨'\x00', member, rfl⟩
  unfold textIn at read
  rw [if_pos inside] at read
  cases read

/-- A NUL in the reason is refused with the document. -/
theorem Parsed.reason_clean (parsed : Parsed result status detail id) :
    '\x00' ∉ (messageReason result).toList := by
  obtain ⟨_, fields, _⟩ := map_eq_ok.mp parsed.detail
  have values := jsonbInFields_values fields
  obtain ⟨_, reason⟩ := values (chars "reason", .str (chars result.reason)) (by simp)
  obtain ⟨_, code⟩ := values (chars "reason_code", .str (chars result.reasonCode)) (by simp)
  unfold messageReason
  split
  · exact no_nul_of_jsonbIn code
  · exact no_nul_of_jsonbIn reason

/-- The whole effect of `settlingResults.RecordResult`. -/
theorem settlingRecordResult_rows (parsed : Parsed result status detail id)
    (h : settlingRecordResult tenant result now db = .ok db') :
    db'.commands.rows =
        db.commands.rows.map (resultRow tenant id status result.completedAt detail) ∧
      db'.outbox.rows = db.outbox.rows.map (settledWakeup tenant id now) ∧
      db'.messages.rows =
        db.messages.rows.map (settledMessage tenant id result db'.commands.rows now) := by
  obtain ⟨db1, recorded, h⟩ := bind_success h
  obtain ⟨commands, outbox, messages⟩ := recordResult_rows parsed recorded
  dsimp only at h
  unfold settleOutbound at h
  rw [parsed.id, ok_bind] at h
  have clean := parsed.reason_clean
  unfold messageReason at clean
  rw [if_neg clean] at h
  by_cases small : (messageReference result.details).any (fun value => (integerMax : Int) < value) = true
  · have large : fits result = false := by
      cases reference : messageReference result.details with
      | none => simp [reference] at small
      | some value => simpa [fits, reference] using small
    rw [if_pos small] at h
    cases h
    refine ⟨commands, outbox, ?_⟩
    rw [messages]
    conv_lhs => rw [← List.map_id db.messages.rows]
    apply List.map_congr_left
    intro row _
    simp [settledMessage, large]
  · have small' : fits result = true := by
      cases reference : messageReference result.details with
      | none => simp [fits, reference]
      | some value => simpa [fits, reference] using small
    rw [if_neg small] at h
    cases h
    refine ⟨commands, outbox, ?_⟩
    rw [← messages]
    apply List.map_congr_left
    intro row _
    simp only [settledMessage, small', Bool.true_and, messageStatus, messageReason]
    rfl

theorem settlingRecordResult_succeeds (parsed : Parsed result status detail id) (now : Timestamp)
    (db : CommandDb) : ∃ db', settlingRecordResult tenant result now db = .ok db' := by
  obtain ⟨db1, recorded⟩ := @recordResult_succeeds tenant id status detail result parsed now db
  unfold settlingRecordResult
  rw [recorded, ok_bind]
  dsimp only
  split
  · next db2 _ => exact ⟨db2, rfl⟩
  · exact ⟨db1, rfl⟩

end Rows

/-! ## Whether a result ends its command -/

section Ending

variable {tenant id : Uuid} {status : CommandStatus} {detail : Jsonb} {result : CommandResult}
  {now : Timestamp} {db db' : CommandDb}

/-- Every command is terminal or as it was, and a command that is left open keeps
its wakeup. -/
def EndsOrKeeps (db db' : CommandDb) : Prop :=
  ∀ command ∈ db.commands, ∀ after ∈ db'.commands, after.id = command.id →
    (after.status.terminal = true ∨ after = command) ∧
      (after.status.open = true → ∀ row ∈ db.outbox, row.commandId = command.id →
        row.resolvedAt = none → row ∈ db'.outbox)

/-- The commands a result without a terminal status may name: one that is over,
or one that already says the same and whose wakeup is settled. -/
def Unharmed (tenant id : Uuid) (status : CommandStatus) (completedAt : Timestamp) (detail : Jsonb)
    (db : CommandDb) : Prop :=
  ∀ command ∈ db.commands, commandOf tenant id command = true →
    command.status.terminal = true ∨
      (finishRow status completedAt detail command = command ∧
        (command.status.open = true →
          ∀ row ∈ db.outbox, row.commandId = id → row.resolvedAt.isSome = true))

theorem resultRow_id (completedAt : Timestamp) (row : CommandRow) :
    (resultRow tenant id status completedAt detail row).id = row.id := by
  unfold resultRow
  split
  · rfl
  · split <;> rfl

/-- The row of a command after the result. -/
theorem after_eq {completedAt : Timestamp}
    (rows : db'.commands.rows = db.commands.rows.map (resultRow tenant id status completedAt detail))
    {command after : CommandRow} (member : command ∈ db.commands) (inTable : after ∈ db'.commands)
    (same : after.id = command.id) : after = resultRow tenant id status completedAt detail command := by
  have written : resultRow tenant id status completedAt detail command ∈ db'.commands := by
    rw [← Table.mem_rows, rows]
    exact List.mem_map.mpr ⟨command, member, rfl⟩
  exact Table.eq_of_key inTable written (same.trans (resultRow_id completedAt command).symm)

/-- What is left of the wakeup of a command. -/
theorem mem_settled_wakeup
    (rows : db'.outbox.rows = db.outbox.rows.map (settledWakeup tenant id now))
    {row : OutboxRow} (member : row ∈ db.outbox) (unresolved : row.resolvedAt = none) :
    row ∈ db'.outbox ↔ wakeupOf tenant id row = false := by
  have written : settledWakeup tenant id now row ∈ db'.outbox := by
    rw [← Table.mem_rows, rows]
    exact List.mem_map.mpr ⟨row, member, rfl⟩
  unfold settledWakeup at written
  constructor
  · intro kept
    rw [Bool.eq_false_iff]
    intro reached
    rw [if_pos reached] at written
    have same := Table.eq_of_key kept written rfl
    rw [same] at unresolved
    cases unresolved
  · intro missed
    rwa [if_neg (by simp [missed])] at written

theorem wakeupOf_command {command : CommandRow} {row : OutboxRow} (member : command ∈ db.commands)
    (inOutbox : row ∈ db.outbox) (same : row.commandId = command.id)
    (unresolved : row.resolvedAt = none) :
    wakeupOf tenant id row = commandOf tenant id command := by
  have owner := outbox_tenant inOutbox member same
  simp [wakeupOf, commandOf, owner, same, unresolved]

/-- A result that went through leaves every command terminal or alone exactly
when it carries a terminal status or finds nothing to write. -/
theorem result_ends_command (parsed : Parsed result status detail id)
    (h : settlingRecordResult tenant result now db = .ok db') :
    EndsOrKeeps db db' ↔
      status.terminal = true ∨ Unharmed tenant id status result.completedAt detail db := by
  obtain ⟨commands, outbox, _⟩ := settlingRecordResult_rows parsed h
  constructor
  · intro ends
    by_cases terminal : status.terminal = true
    · exact Or.inl terminal
    · refine Or.inr fun command member own => ?_
      by_cases terminal_ : command.status.terminal = true
      · exact Or.inl terminal_
      · right
        have reached : resultHit tenant id command = true := by simp [resultHit, own, terminal_]
        have written : finishRow status result.completedAt detail command ∈ db'.commands := by
          rw [← Table.mem_rows, commands]
          exact List.mem_map.mpr ⟨command, member, by simp [resultRow, reached]⟩
        obtain ⟨one, wakeups⟩ := ends command member _ written rfl
        have same := one.resolve_left terminal
        refine ⟨same, fun open_ row inOutbox named => ?_⟩
        cases unresolved : row.resolvedAt with
        | some at_ => rfl
        | none =>
          have mine : command.id = id := by
            simp only [commandOf, Bool.and_eq_true, decide_eq_true_eq] at own
            exact own.2
          rw [same] at wakeups
          have kept := wakeups open_ row inOutbox (named.trans mine.symm) unresolved
          rw [mem_settled_wakeup outbox inOutbox unresolved,
            wakeupOf_command member inOutbox (named.trans mine.symm) unresolved, own] at kept
          cases kept
  · intro condition command member after inTable same
    have row := after_eq commands member inTable same
    by_cases own : commandOf tenant id command = true
    · by_cases terminal_ : command.status.terminal = true
      · -- the command was over: at most a late answer is noted
        have kept : after.status = command.status := by
          rw [row]
          unfold resultRow
          rw [if_neg (by simp [resultHit, terminal_])]
          split <;> rfl
        refine ⟨Or.inl (by rw [kept]; exact terminal_), fun open_ => ?_⟩
        rw [kept] at open_
        rw [open_not_terminal open_] at terminal_
        cases terminal_
      · have reached : resultHit tenant id command = true := by simp [resultHit, own, terminal_]
        have ended : after = finishRow status result.completedAt detail command := by
          rw [row]
          simp [resultRow, reached]
        rcases condition with terminal | unharmed
        · refine ⟨Or.inl (by rw [ended]; exact terminal), fun open_ => ?_⟩
          rw [ended] at open_
          have alive := open_not_terminal open_
          rw [show (finishRow status result.completedAt detail command).status = status from rfl,
            terminal] at alive
          cases alive
        · obtain ⟨unchanged, settled⟩ := (unharmed command member own).resolve_left terminal_
          rw [unchanged] at ended
          refine ⟨Or.inr ended, fun open_ other inOutbox named unresolved => ?_⟩
          have mine : command.id = id := by
            simp only [commandOf, Bool.and_eq_true, decide_eq_true_eq] at own
            exact own.2
          rw [ended] at open_
          have resolved := settled open_ other inOutbox (named.trans mine)
          rw [unresolved] at resolved
          cases resolved
    · have missed : resultHit tenant id command = false := by simp [resultHit, own]
      have noLate : lateHit tenant id command = false := by simp [lateHit, own]
      refine ⟨Or.inr (by rw [row]; simp [resultRow, missed, noLate]), ?_⟩
      intro _ other inOutbox named unresolved
      rw [mem_settled_wakeup outbox inOutbox unresolved,
        wakeupOf_command member inOutbox named unresolved]
      simpa using own

end Ending

/-- One queued command of tenant 1. -/
def oneCommand : CommandDb := run (CommandOp.apply plainCalendar) .empty [enqueueOne]

/-- Its device answers with the given status. -/
def answer (status : String) : CommandResult :=
  ⟨"00000000-0000-0000-0000-000000000003", status, 5, 1, "", "", none⟩

/-- The tables after an answer. -/
def answered (status : String) (now : Timestamp) (db : CommandDb) : CommandDb :=
  settle (settlingRecordResult 1 (answer status)) db now

theorem answered_eq {status : String} {parsed : CommandStatus} {detail : Jsonb}
    (h : Parsed (answer status) parsed detail 3) (now : Timestamp) (db : CommandDb) :
    settlingRecordResult 1 (answer status) now db = .ok (answered status now db) := by
  obtain ⟨db', done⟩ := @settlingRecordResult_succeeds 1 3 parsed detail (answer status) h now db
  unfold answered
  rw [settle_of_ok done]
  exact done

/-- What an answer with no reason and no details is stored as. -/
def answerDetail (status : String) : Jsonb :=
  .obj [("reason", .str ""), ("status", .str status), ("attempts", .num 1), ("reason_code", .str "")]

theorem answer_succeeded_parsed :
    Parsed (answer "succeeded") .succeeded (answerDetail "succeeded") 3 :=
  ⟨rfl, by decide +kernel, by decide +kernel⟩

theorem succeeded_ends_command : EndsOrKeeps oneCommand (answered "succeeded" 7 oneCommand) :=
  (result_ends_command answer_succeeded_parsed
    (answered_eq answer_succeeded_parsed 7 oneCommand)).mpr (Or.inl rfl)

/-- The device says the command is queued: it stays queued and is never woken
again. -/
theorem queued_answer_strands_command :
    settlingRecordResult 1 (answer "queued") 7 oneCommand = .ok (answered "queued" 7 oneCommand) ∧
    oneCommand.outbox.rows.map OutboxRow.resolvedAt = [none] ∧
    (answered "queued" 7 oneCommand).commands.rows.map CommandRow.status = [.queued] ∧
    (answered "queued" 7 oneCommand).outbox.rows.map OutboxRow.resolvedAt = [some 7] ∧
    ¬ EndsOrKeeps oneCommand (answered "queued" 7 oneCommand) := by
  refine ⟨@answered_eq "queued" .queued (answerDetail "queued")
    ⟨rfl, by decide +kernel, by decide +kernel⟩ 7 oneCommand, by decide +kernel, by decide +kernel,
    by decide +kernel, ?_⟩
  unfold EndsOrKeeps
  decide +kernel

/-! ## Applying a result twice -/

section Replay

variable {tenant id : Uuid} {status : CommandStatus} {detail : Jsonb} {result : CommandResult}
  {now later : Timestamp} {db db1 db2 : CommandDb}

theorem fresh_filter {key : String} {fields : List (String × Jsonb)} :
    key ∉ (fields.filter fun field => field.1 ≠ key).map Prod.fst := by
  intro member
  obtain ⟨field, kept, same⟩ := List.mem_map.mp member
  simpa [same] using (List.mem_filter.mp kept).2

theorem mergeLate_form (detail : Jsonb) (stored : Option Jsonb) :
    ∃ fields, "late_result" ∉ fields.map Prod.fst ∧
      mergeLate detail stored = .obj (insertField "late_result" detail fields) := by
  unfold mergeLate
  split
  · exact ⟨_, fresh_filter, rfl⟩
  · exact ⟨[], by simp, rfl⟩

/-- Noting the same late answer twice is noting it once. -/
theorem mergeLate_idem (stored : Option Jsonb) :
    mergeLate detail (some (mergeLate detail stored)) = mergeLate detail stored := by
  obtain ⟨fields, fresh, form⟩ := mergeLate_form detail stored
  rw [form]
  simp only [mergeLate, filter_insertField fresh]

/-- An answer that carries itself as a late answer is another one. -/
theorem mergeLate_ne (stored : Option Jsonb) : mergeLate detail stored ≠ detail := by
  obtain ⟨fields, fresh, form⟩ := mergeLate_form detail stored
  rw [form]
  intro same
  have placed := (@insertField_perm "late_result" detail fields fresh).mem_iff.mpr List.mem_cons_self
  have inner := List.sizeOf_lt_of_mem placed
  have outer := congrArg sizeOf same
  simp only [Prod.mk.sizeOf_spec, Jsonb.obj.sizeOf_spec] at inner outer
  omega

/-- The two statuses the late branch looks for. -/
def givenUp (status : CommandStatus) : Prop := status = .expired ∨ status = .cancelled

theorem lateHit_iff {row : CommandRow} :
    lateHit tenant id row = true ↔ commandOf tenant id row = true ∧ givenUp row.status := by
  simp [lateHit, givenUp]

/-- A command row is as it was after the second application, unless the first one
gave it a status the late branch looks for. -/
theorem resultRow_twice {completedAt : Timestamp} {row : CommandRow}
    (terminal : status.terminal = true) :
    resultRow tenant id status completedAt detail (resultRow tenant id status completedAt detail row) =
        resultRow tenant id status completedAt detail row ↔
      (givenUp status → resultHit tenant id row = false) := by
  by_cases reached : resultHit tenant id row = true
  · have own : commandOf tenant id row = true := by
      simp only [resultHit, Bool.and_eq_true] at reached
      exact reached.1
    have once : resultRow tenant id status completedAt detail row =
        finishRow status completedAt detail row := by simp [resultRow, reached]
    have still : commandOf tenant id (finishRow status completedAt detail row) = true := own
    have ended : resultHit tenant id (finishRow status completedAt detail row) = false := by
      simp [resultHit, finishRow, terminal]
    rw [once]
    unfold resultRow
    rw [if_neg (by simp [ended]), reached]
    by_cases late : givenUp status
    · rw [if_pos (lateHit_iff.mpr ⟨still, late⟩)]
      refine iff_of_false (fun same => ?_) (by simp [late])
      exact mergeLate_ne _ (Option.some.inj (congrArg CommandRow.result same))
    · rw [if_neg fun hit => late (lateHit_iff.mp hit).2]
      exact iff_of_true rfl fun h => absurd h late
  · refine iff_of_true ?_ (fun _ => by simpa using reached)
    by_cases late : lateHit tenant id row = true
    · have once : resultRow tenant id status completedAt detail row = lateRow detail row := by
        simp [resultRow, reached, late]
      have again : lateHit tenant id (lateRow detail row) = true := late
      rw [once]
      unfold resultRow
      rw [if_neg (show ¬ resultHit tenant id (lateRow detail row) = true from reached), if_pos again]
      simp only [lateRow, mergeLate_idem]
    · simp [resultRow, reached, late]

theorem settledWakeup_twice {row : OutboxRow} :
    settledWakeup tenant id later (settledWakeup tenant id now row) =
      settledWakeup tenant id now row := by
  unfold settledWakeup
  split
  · rw [if_neg (by simp [wakeupOf, publishRow])]
  · rfl

/-- A message without the time of its last settlement. -/
def shown (row : MessageRow) : MessageRow := { row with receivedAt := 0 }

/-- Whether the command is one the cloud gave up on. -/
def gaveUp (tenant id : Uuid) (commands : List CommandRow) : Bool :=
  commands.any (lateHit tenant id)

theorem settleHit_eq {commands : List CommandRow} {row : MessageRow} :
    settleHit tenant id commands row = true ↔
      (row.tenantId = tenant ∧ row.commandId = some id ∧ row.direction = .outbound) ∧
        (row.status = .queued ∨ (row.status = .failed ∧ gaveUp tenant id commands = true)) := by
  simp [settleHit, gaveUp, and_assoc]

theorem late_reason_differs (reason : String) :
    nullIfEmpty (some reason) ≠
      some (lateText ++ (nullIfEmpty (some reason)).getD "设备没有给出原因") := by
  by_cases empty : reason = ""
  · simp [nullIfEmpty, empty]
  · intro same
    have kept : nullIfEmpty (some reason) = some reason := by simp [nullIfEmpty, empty]
    rw [kept] at same
    have lengths := congrArg String.length (Option.some.inj same)
    rw [Option.getD_some, String.length_append] at lengths
    have positive : lateText.length = 14 := by decide
    omega

/-- Settling changes none of the columns that select the message. -/
theorem settleHit_settled {commands : List CommandRow} {row : MessageRow} {state : MessageStatus}
    {reason : String} {reference : Option Int} {at_ : Timestamp}
    (hit : settleHit tenant id commands row = true) :
    settleHit tenant id commands (settleMessage state reason reference at_ row) = true ↔
      (settleMessage state reason reference at_ row).status = .queued ∨
        ((settleMessage state reason reference at_ row).status = .failed ∧
          gaveUp tenant id commands = true) := by
  obtain ⟨mirror, _⟩ := settleHit_eq.mp hit
  rw [settleHit_eq]
  exact and_iff_right mirror

/-- Answering late and failing again says the same again. -/
theorem settleMessage_twice_failed {reason : String} {reference : Option Int} {row : MessageRow}
    (failed : row.status = .failed) :
    shown (settleMessage .failed reason reference later
      (settleMessage .failed reason reference now row)) =
      shown (settleMessage .failed reason reference now row) := by
  cases reference with
  | none => simp [shown, settleMessage, failed]
  | some value => simp [shown, settleMessage, failed]

/-- A message is as it was after the second application, unless the first one
answered it while its command was already given up. -/
theorem settledMessage_twice {commands : List CommandRow} {row : MessageRow} :
    shown (settledMessage tenant id result commands later
        (settledMessage tenant id result commands now row)) =
        shown (settledMessage tenant id result commands now row) ↔
      (messageStatus result = .failed → fits result = true → gaveUp tenant id commands = true →
        queuedMessageOf tenant [id] row = false) := by
  cases small : fits result with
  | false => simp [settledMessage, small]
  | true =>
    by_cases hit : settleHit tenant id commands row = true
    · obtain ⟨⟨sameTenant, sameCommand, outbound⟩, state⟩ := settleHit_eq.mp hit
      have mirror : queuedMessageOf tenant [id] row = decide (row.status = .queued) := by
        simp [queuedMessageOf, sameTenant, sameCommand, outbound]
      have again := @settleHit_settled tenant id commands row (messageStatus result)
        (messageReason result) (messageReference result.details) now hit
      have both : messageStatus result = .sent ∨ messageStatus result = .failed := by
        unfold messageStatus
        split
        · exact Or.inl rfl
        · exact Or.inr rfl
      simp only [settledMessage, small, hit, Bool.and_self, Bool.true_and, if_true, mirror]
      rcases both with sent | failed
      · -- sent for good
        rw [sent] at again ⊢
        have missed : ¬ settleHit tenant id commands (settleMessage .sent (messageReason result)
            (messageReference result.details) now row) = true := by
          rw [again]
          rcases state with queued | ⟨failed, _⟩
          · simp [settleMessage, queued]
          · simp [settleMessage, failed]
        rw [if_neg missed]
        exact iff_of_true rfl (fun impossible => by cases impossible)
      · rw [failed] at again ⊢
        rcases state with queued | ⟨failed', late⟩
        · have status' : (settleMessage .failed (messageReason result)
              (messageReference result.details) now row).status = .failed := by
            simp [settleMessage, queued]
          cases late : gaveUp tenant id commands with
          | false =>
            rw [if_neg (by rw [again, late]; simp [status'])]
            simp
          | true =>
            rw [if_pos (by rw [again, late]; simp [status'])]
            refine iff_of_false (fun same => ?_) (by simp [queued])
            have reasons := congrArg MessageRow.failureReason same
            simp only [shown, settleMessage, queued, if_true] at reasons
            exact late_reason_differs _ reasons.symm
        · rw [if_pos (again.mpr (Or.inr ⟨by simp [settleMessage, failed'], late⟩))]
          exact iff_of_true (settleMessage_twice_failed failed') (by simp [failed'])
    · have once : ∀ at_, settledMessage tenant id result commands at_ row = row := by
        intro at_
        simp [settledMessage, hit]
      rw [once now, once later]
      refine iff_of_true rfl fun _ _ _ => ?_
      rw [Bool.eq_false_iff]
      intro queued
      apply hit
      simp only [queuedMessageOf, Bool.and_eq_true, decide_eq_true_eq] at queued
      obtain ⟨⟨⟨sameTenant, named⟩, outbound⟩, status'⟩ := queued
      have sameCommand : row.commandId = some id := by
        cases present : row.commandId with
        | none => simp [present] at named
        | some other => simpa [present] using named
      exact settleHit_eq.mpr ⟨⟨sameTenant, sameCommand, outbound⟩, Or.inl status'⟩

/-- The three tables as they were, but for the time of the last settlement. -/
def Unmoved (db db' : CommandDb) : Prop :=
  db'.commands.rows = db.commands.rows ∧ db'.outbox.rows = db.outbox.rows ∧
    db'.messages.rows.map shown = db.messages.rows.map shown

/-- The results that may be applied twice: one that does not itself end the
command in a status the late branch looks for, and that does not fail a message
still queued under a command the cloud had given up on. -/
def Replayable (tenant id : Uuid) (status : CommandStatus) (result : CommandResult)
    (db : CommandDb) : Prop :=
  (givenUp status → ∀ command ∈ db.commands, resultHit tenant id command = false) ∧
    (messageStatus result = .failed → fits result = true →
      gaveUp tenant id db.commands.rows = true →
      ∀ message ∈ db.messages, queuedMessageOf tenant [id] message = false)

theorem lateHit_resultRow {completedAt : Timestamp} {row : CommandRow} :
    lateHit tenant id (resultRow tenant id status completedAt detail row) = true ↔
      lateHit tenant id row = true ∨ (givenUp status ∧ resultHit tenant id row = true) := by
  by_cases reached : resultHit tenant id row = true
  · have own : commandOf tenant id row = true ∧ row.status.terminal = false := by
      simpa [resultHit] using reached
    have early : ¬ lateHit tenant id row = true := by
      rw [lateHit_iff]
      rintro ⟨_, expired | cancelled⟩
      · rw [expired] at own
        exact absurd own.2 (by decide)
      · rw [cancelled] at own
        exact absurd own.2 (by decide)
    have once : resultRow tenant id status completedAt detail row =
        finishRow status completedAt detail row := by simp [resultRow, reached]
    rw [once, lateHit_iff, or_iff_right early]
    exact ⟨fun h => ⟨h.2, reached⟩, fun h => ⟨own.1, h.1⟩⟩
  · have same : lateHit tenant id (resultRow tenant id status completedAt detail row) =
        lateHit tenant id row := by
      unfold resultRow
      rw [if_neg reached]
      split <;> rfl
    rw [same]
    exact ⟨Or.inl, fun h => h.resolve_right fun both => reached both.2⟩

theorem gaveUp_map {completedAt : Timestamp} {rows : List CommandRow} :
    gaveUp tenant id (rows.map (resultRow tenant id status completedAt detail)) = true ↔
      gaveUp tenant id rows = true ∨ (givenUp status ∧ ∃ row ∈ rows, resultHit tenant id row = true) := by
  simp only [gaveUp, List.any_map, List.any_eq_true, Function.comp_apply, lateHit_resultRow]
  constructor
  · rintro ⟨row, member, late | ⟨status', reached⟩⟩
    · exact Or.inl ⟨row, member, late⟩
    · exact Or.inr ⟨status', row, member, reached⟩
  · rintro (⟨row, member, late⟩ | ⟨status', row, member, reached⟩)
    · exact ⟨row, member, Or.inl late⟩
    · exact ⟨row, member, Or.inr ⟨status', reached⟩⟩

/-- After a terminal status nothing of the command is left to reach. -/
theorem resultHit_resultRow {completedAt : Timestamp} {row : CommandRow}
    (terminal : status.terminal = true) :
    resultHit tenant id (resultRow tenant id status completedAt detail row) = false := by
  unfold resultRow
  split
  · simp [resultHit, finishRow, terminal]
  · next missed =>
    split
    · exact Bool.eq_false_iff.mpr missed
    · exact Bool.eq_false_iff.mpr missed

theorem settledMessage_congr {commands commands' : List CommandRow}
    (same : gaveUp tenant id commands' = gaveUp tenant id commands) :
    settledMessage tenant id result commands' now = settledMessage tenant id result commands now := by
  funext row
  have hit : settleHit tenant id commands' row = settleHit tenant id commands row := by
    rw [Bool.eq_iff_iff, settleHit_eq, settleHit_eq, same]
  simp only [settledMessage, hit]

/-- A result with one of the five statuses, applied again at any later time. -/
theorem replay_changes_nothing (parsed : Parsed result status detail id)
    (contract : result.status ∈ terminalStatuses)
    (first : settlingRecordResult tenant result now db = .ok db1) :
    ∃ db2, settlingRecordResult tenant result later db1 = .ok db2 ∧
      (Unmoved db1 db2 ↔ Replayable tenant id status result db) := by
  have terminal : status.terminal = true := by
    obtain ⟨status', read, terminal⟩ := terminalStatuses_statusIn contract
    cases parsed.status.symm.trans read
    exact terminal
  obtain ⟨db2, second⟩ :=
    @settlingRecordResult_succeeds tenant id status detail result parsed later db1
  refine ⟨db2, second, ?_⟩
  obtain ⟨commands1, outbox1, messages1⟩ := settlingRecordResult_rows parsed first
  obtain ⟨commands2, outbox2, messages2⟩ := settlingRecordResult_rows parsed second
  have commands : db2.commands.rows = db1.commands.rows ↔
      (givenUp status → ∀ command ∈ db.commands, resultHit tenant id command = false) := by
    rw [commands2, commands1, List.map_map, List.map_inj_left]
    simp only [Function.comp_apply, resultRow_twice terminal]
    exact ⟨fun h late command member => h command member late,
      fun h command member late => h late command member⟩
  have outbox : db2.outbox.rows = db1.outbox.rows := by
    rw [outbox2, outbox1, List.map_map]
    apply List.map_congr_left
    intro row _
    exact settledWakeup_twice
  -- the second application finds the command in the status the first one left
  have late : gaveUp tenant id db2.commands.rows = gaveUp tenant id db1.commands.rows := by
    rw [Bool.eq_iff_iff, commands2, gaveUp_map]
    refine or_iff_left ?_
    rintro ⟨_, row, member, reached⟩
    rw [commands1] at member
    obtain ⟨old, _, rfl⟩ := List.mem_map.mp member
    rw [resultHit_resultRow terminal] at reached
    cases reached
  have messages : db2.messages.rows.map shown = db1.messages.rows.map shown ↔
      (messageStatus result = .failed → fits result = true →
        gaveUp tenant id db1.commands.rows = true →
        ∀ message ∈ db.messages, queuedMessageOf tenant [id] message = false) := by
    rw [messages2, settledMessage_congr late, messages1, List.map_map, List.map_map, List.map_map,
      List.map_inj_left]
    simp only [Function.comp_apply, settledMessage_twice]
    exact ⟨fun h failed small gone message member => h message member failed small gone,
      fun h message member failed small gone => h failed small gone message member⟩
  unfold Unmoved Replayable
  rw [commands, messages]
  refine and_congr_right fun spared => ?_
  rw [and_iff_right outbox]
  have before : gaveUp tenant id db1.commands.rows = true ↔ gaveUp tenant id db.commands.rows = true := by
    rw [commands1, gaveUp_map]
    refine or_iff_left ?_
    rintro ⟨late, row, member, reached⟩
    rw [spared late row member] at reached
    cases reached
  rw [before]

end Replay

theorem succeeded_replay :
    ∃ db2, settlingRecordResult 1 (answer "succeeded") 9 (answered "succeeded" 7 oneCommand) = .ok db2 ∧
      Unmoved (answered "succeeded" 7 oneCommand) db2 := by
  obtain ⟨db2, second, unmoved⟩ := @replay_changes_nothing 1 3 .succeeded (answerDetail "succeeded")
    (answer "succeeded") 7 9 oneCommand _ answer_succeeded_parsed (by decide)
    (answered_eq answer_succeeded_parsed 7 oneCommand)
  refine ⟨db2, second, unmoved.mpr ⟨fun late => ?_, fun failed => by cases failed⟩⟩
  rcases late with expired | cancelled
  · cases expired
  · cases cancelled

/-- A device that reports its own command expired, twice: the second report is
stored as an answer that came too late. -/
theorem expired_replay_notes_late_answer :
    settlingRecordResult 1 (answer "expired") 7 oneCommand = .ok (answered "expired" 7 oneCommand) ∧
    settlingRecordResult 1 (answer "expired") 9 (answered "expired" 7 oneCommand) =
      .ok (answered "expired" 9 (answered "expired" 7 oneCommand)) ∧
    (answered "expired" 7 oneCommand).commands.rows.map CommandRow.result =
      [some (answerDetail "expired")] ∧
    ¬ Unmoved (answered "expired" 7 oneCommand) (answered "expired" 9 (answered "expired" 7 oneCommand)) := by
  have parsed : Parsed (answer "expired") .expired (answerDetail "expired") 3 :=
    ⟨rfl, by decide +kernel, by decide +kernel⟩
  refine ⟨answered_eq parsed 7 _, answered_eq parsed 9 _, by decide +kernel, ?_⟩
  rintro ⟨commands, _⟩
  revert commands
  decide +kernel

end VodogeCloud.Guarantees.ResultReplay
