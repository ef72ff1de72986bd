import VodogeCloud.Guarantees.AcceptedRecords
import VodogeCloud.Guarantees.IngressRetention
import VodogeCloud.Guarantees.SessionTurns
import VodogeCloud.Source.InboundMessages

/-!
# A received message is filed once

An accepted `SmsReceived` record puts its message into the mailbox, and no replay of the
record, no other record and no pruning of the journal ever puts it there again: the record
stays in the journal, so its sequence is never inserted a second time. What the console
deletes is gone for good, and what it does not delete stays as it was received.
-/

set_option autoImplicit false

namespace VodogeCloud.Guarantees.FiledMessages

open VodogeCloud.Lib VodogeCloud.Lib.Transactions VodogeCloud.Source.Postgres
open VodogeCloud.Source.IngressWindow VodogeCloud.Source.IngressWrites VodogeCloud.Source.DeviceProjection
open VodogeCloud.Source.InboundMessages VodogeCloud.Guarantees.IngressRetention
open VodogeCloud.Guarantees.AcceptedRecords (plainCasts)
open VodogeCloud.Guarantees.SessionTurns (sampleJournal)

variable {τ : Type} {casts : Casts} {elsewhere : Elsewhere τ}
variable {minus : Timestamp → Interval → Except PgError Timestamp}
variable {state next : IngressDb × Mailbox τ} {op : MailOp τ} {message : Inbound}

/-! ## Messages -/

/-- A message but for the mark that it was read. -/
def content (message : Inbound) : Inbound := { message with readAt := none }

theorem key_of_content {a b : Inbound} (same : content a = content b) : a.key = b.key := by
  have deviceId := congrArg Inbound.deviceId same
  have seq := congrArg Inbound.seq same
  exact Prod.ext deviceId seq

/-- The console's statement deletes the message. -/
def Removes (op : MailOp τ) (message : Inbound) : Prop :=
  match op with
  | .deleteMessage tenant id => message.tenantId = tenant ∧ message.id = id
  | .deleteThread tenant peer => message.tenantId = tenant ∧ message.peer = peer
  | _ => False

instance (op : MailOp τ) (message : Inbound) : Decidable (Removes op message) := by
  cases op <;> unfold Removes <;> infer_instance

theorem inboundRow_fields {others : τ} {record : IngressRow} (row : inboundRow casts elsewhere others record = .ok message) :
    message.key = record.key ∧ message.readAt = none := by
  obtain ⟨receivedAt, -, row⟩ := bind_success row
  split at row
  · cases row
  · split at row
    · cases row
    · cases row
      exact ⟨rfl, rfl⟩

theorem insertInbound_cases {inbound after : Table Inbound.key} (inserted : insertInbound message inbound = .ok after) :
    (after = inbound ∧ ∃ other ∈ inbound, other.key = message.key) ∨
      ((∀ other ∈ inbound, other.key ≠ message.key) ∧ ∀ other, other ∈ after ↔ other ∈ inbound ∨ other = message) := by
  unfold insertInbound at inserted
  split at inserted
  · next existing found =>
    cases inserted
    exact Or.inl ⟨rfl, existing, Table.find_eq_some_iff.mp found⟩
  · next found =>
    split at inserted
    · cases inserted
    · cases inserted
      refine Or.inr ⟨Table.find_eq_none_iff.mp found, fun other => ?_⟩
      exact @Table.mem_insert _ _ _ _ _ _ (Table.find_eq_none_iff.mp found)

/-! ## One transaction -/

/-- What a committed transaction did to the journal and the mailbox. -/
inductive Did (casts : Casts) (elsewhere : Elsewhere τ) (op : MailOp τ) (state next : IngressDb × Mailbox τ) : Prop
  /-- Nothing was filed, and what was read or deleted is what the console asked for. -/
  | kept (rows : ∀ row ∈ state.1.ingress, row.kind ≠ "DeviceState" → row ∈ next.1.ingress)
      (same : ∀ message, (∃ other ∈ next.2.inbound, content other = message) ↔
        (∃ other ∈ state.2.inbound, content other = message) ∧ ¬ Removes op message)
  /-- A new record of a message. -/
  | filed (record : IngressRow) (fresh : ∀ row ∈ state.1.ingress, row.key ≠ record.key)
      (sms : record.kind = "SmsReceived") (rows : ∀ row, row ∈ next.1.ingress ↔ row ∈ state.1.ingress ∨ row = record)
      (passive : ∀ message, ¬ Removes op message)
      (filed : ∃ message, inboundRow casts elsewhere state.2.others record = .ok message ∧
        insertInbound message state.2.inbound = .ok next.2.inbound)

theorem projectInserted_sms {record : IngressRow} {mailbox rest : Mailbox τ} (sms : record.kind = "SmsReceived")
    (projected : projectInserted (projectRecord casts elsewhere) record mailbox = .ok rest) :
    ∃ message, inboundRow casts elsewhere mailbox.others record = .ok message ∧
      insertInbound message mailbox.inbound = .ok rest.inbound := by
  have projects : record.kind ∈ projectedKinds := by
    rw [sms]
    decide
  rw [projectInserted, if_pos projects, projectRecord, if_pos sms] at projected
  obtain ⟨message, row, tail⟩ := bind_success projected
  obtain ⟨inbound, inserts, done⟩ := bind_success tail
  cases done
  exact ⟨message, row, inserts⟩

theorem projectInserted_other {record : IngressRow} {mailbox rest : Mailbox τ} (other : record.kind ≠ "SmsReceived")
    (projected : projectInserted (projectRecord casts elsewhere) record mailbox = .ok rest) :
    rest.inbound = mailbox.inbound := by
  unfold projectInserted at projected
  split at projected
  · rw [projectRecord, if_neg other] at projected
    obtain ⟨others, -, done⟩ := bind_success projected
    cases done
    rfl
  · cases projected
    rfl

theorem acceptIngress_did {context : Option Uuid} {args : AcceptArgs} {now : Timestamp} {db after : IngressDb}
    {mailbox rest : Mailbox τ} {status : AcceptStatus} {window : WindowRow}
    (accepted : acceptIngress (projectRecord casts elsewhere) context args now db mailbox =
      .ok (after, rest, status, window)) :
    Did casts elsewhere (.journal (.acceptIngress context args now)) (db, mailbox) (after, rest) := by
  rcases (acceptIngress_cases accepted).2.2 with ⟨-, rfl, rfl, -⟩ | ⟨-, absent, attempt, projected⟩
  · exact .kept (fun row member _ => member) fun message => by simp [Removes]
  · have members := insertIngress_members attempt
    by_cases sms : (args.row now).kind = "SmsReceived"
    · exact .filed (args.row now) (Table.find_eq_none_iff.mp absent) sms members (fun message => by simp [Removes])
        (projectInserted_sms sms projected)
    · refine .kept (fun row member _ => (members row).mpr (Or.inl member)) fun message => ?_
      simp [Removes, projectInserted_other sms projected]

theorem apply_did (applied : op.apply casts elsewhere minus state = .ok next) : Did casts elsewhere op state next := by
  obtain ⟨db, mailbox⟩ := state
  cases op with
  | journal op =>
    cases op with
    | acceptIngress context args now =>
      obtain ⟨⟨after, rest, status, window⟩, accepted, applied⟩ := bind_success applied
      cases applied
      exact acceptIngress_did accepted
    | recordUnstorableIngress context args now recordedAt =>
      obtain ⟨⟨after, status⟩, recorded, applied⟩ := bind_success applied
      cases applied
      exact .kept (fun row member _ => (recordUnstorableIngress_extends recorded).rows row member)
        fun message => by simp [Removes]
    | pruneIngress context args =>
      obtain ⟨⟨after, total⟩, pruned, applied⟩ := bind_success applied
      cases applied
      exact .kept (pruneIngress_thins pruned).keeps fun message => by simp [Removes]
  | markThreadRead tenant peer now =>
    cases applied
    refine .kept (fun row member _ => member) fun message => ?_
    simp only [markThreadRead, Table.mem_update, Removes, not_false_eq_true, and_true]
    constructor
    · rintro ⟨other, ⟨old, member, rfl⟩, rfl⟩
      refine ⟨old, member, ?_⟩
      split <;> rfl
    · rintro ⟨old, member, rfl⟩
      refine ⟨_, ⟨old, member, rfl⟩, ?_⟩
      split <;> rfl
  | deleteMessage tenant id =>
    cases applied
    refine .kept (fun row member _ => member) fun message => ?_
    simp only [deleteMessage, Table.mem_delete, Removes, decide_eq_false_iff_not]
    constructor
    · rintro ⟨other, ⟨member, kept⟩, rfl⟩
      exact ⟨⟨other, member, rfl⟩, kept⟩
    · rintro ⟨⟨other, member, rfl⟩, kept⟩
      exact ⟨other, ⟨member, kept⟩, rfl⟩
  | deleteThread tenant peer =>
    cases applied
    refine .kept (fun row member _ => member) fun message => ?_
    simp only [deleteThread, Table.mem_delete, Removes, decide_eq_false_iff_not]
    constructor
    · rintro ⟨other, ⟨member, kept⟩, rfl⟩
      exact ⟨⟨other, member, rfl⟩, kept⟩
    · rintro ⟨⟨other, member, rfl⟩, kept⟩
      exact ⟨other, ⟨member, kept⟩, rfl⟩
  | elsewhere change =>
    cases applied
    exact .kept (fun row member _ => member) fun message => by simp [Removes]

/-! ## Runs -/

/-- Every message has its record in the journal. -/
def Covered (state : IngressDb × Mailbox τ) : Prop :=
  ∀ message ∈ state.2.inbound, ∃ row ∈ state.1.ingress, row.key = message.key ∧ row.kind = "SmsReceived"

theorem did_covered (covered : Covered state) (did : Did casts elsewhere op state next) : Covered next := by
  intro message member
  cases did with
  | kept rows same =>
    obtain ⟨⟨other, stored, alike⟩, -⟩ := (same (content message)).mp ⟨message, member, rfl⟩
    obtain ⟨row, inside, key, kind⟩ := covered other stored
    exact ⟨row, rows row inside (by rw [kind]; decide), key.trans (key_of_content alike), kind⟩
  | filed record fresh sms rows passive filed =>
    obtain ⟨added, row, inserted⟩ := filed
    rcases insertInbound_cases inserted with ⟨same, -⟩ | ⟨-, members⟩
    · rw [same] at member
      obtain ⟨old, inside, found⟩ := covered message member
      exact ⟨old, (rows old).mpr (Or.inl inside), found⟩
    · rcases (members message).mp member with stored | rfl
      · obtain ⟨old, inside, found⟩ := covered message stored
        exact ⟨old, (rows old).mpr (Or.inl inside), found⟩
      · exact ⟨record, (rows record).mpr (Or.inr rfl), (inboundRow_fields row).1.symm, sms⟩

/-- What is known of a message whose record is in the journal. -/
structure Settled (record : IngressRow) (message : Inbound) (state : IngressDb × Mailbox τ) : Prop where
  stored : record ∈ state.1.ingress
  alone : ∀ other ∈ state.2.inbound, other.key = record.key → content other = message

theorem did_settled {record : IngressRow} (sms : record.kind = "SmsReceived") (settled : Settled record message state)
    (did : Did casts elsewhere op state next) (keyed : message.key = record.key) :
    Settled record message next ∧
      ((∃ other ∈ next.2.inbound, content other = message) ↔
        (∃ other ∈ state.2.inbound, content other = message) ∧ ¬ Removes op message) := by
  cases did with
  | kept rows same =>
    refine ⟨⟨rows record settled.stored (by rw [sms]; decide), ?_⟩, same message⟩
    intro other member key
    obtain ⟨⟨old, stored, alike⟩, -⟩ := (same (content other)).mp ⟨other, member, rfl⟩
    rw [← alike]
    exact settled.alone old stored ((key_of_content alike).trans key)
  | filed added fresh _ rows passive filed =>
    obtain ⟨newer, row, inserted⟩ := filed
    have differs : newer.key ≠ record.key := by
      rw [(inboundRow_fields row).1]
      exact (fresh record settled.stored).symm
    have members : ∀ other, other.key = record.key → (other ∈ next.2.inbound ↔ other ∈ state.2.inbound) := by
      intro other key
      rcases insertInbound_cases inserted with ⟨same, -⟩ | ⟨-, members⟩
      · rw [same]
      · rw [members other]
        exact or_iff_left fun same => differs (same ▸ key)
    refine ⟨⟨(rows record).mpr (Or.inl settled.stored), ?_⟩, ?_⟩
    · intro other member key
      exact settled.alone other ((members other key).mp member) key
    · have place : ∀ other, content other = message → other.key = record.key := by
        rintro other rfl
        exact keyed
      constructor
      · rintro ⟨other, member, alike⟩
        exact ⟨⟨other, (members other (place other alike)).mp member, alike⟩, passive message⟩
      · rintro ⟨⟨other, member, alike⟩, -⟩
        exact ⟨other, (members other (place other alike)).mpr member, alike⟩

variable (casts elsewhere minus) in
theorem settle_settled {record : IngressRow} (sms : record.kind = "SmsReceived") (settled : Settled record message state)
    (keyed : message.key = record.key) (op : MailOp τ) :
    Settled record message (settle (MailOp.apply casts elsewhere minus) state op) ∧
      ((∃ other ∈ (settle (MailOp.apply casts elsewhere minus) state op).2.inbound, content other = message) ↔
        (∃ other ∈ state.2.inbound, content other = message) ∧ ¬ Removes op message) := by
  cases outcome : op.apply casts elsewhere minus state with
  | ok next =>
    rw [settle_of_ok outcome]
    exact did_settled sms settled (apply_did outcome) keyed
  | error err =>
    rw [settle_of_error outcome]
    have passive : ¬ Removes op message := by
      cases op with
      | deleteMessage tenant id => cases outcome
      | deleteThread tenant peer => cases outcome
      | _ => exact id
    exact ⟨settled, by simp [passive]⟩

variable (casts elsewhere minus) in
theorem run_settled {record : IngressRow} (sms : record.kind = "SmsReceived") (settled : Settled record message state)
    (keyed : message.key = record.key) (late : List (MailOp τ)) :
    Settled record message (run (MailOp.apply casts elsewhere minus) state late) ∧
      ((∃ other ∈ (run (MailOp.apply casts elsewhere minus) state late).2.inbound, content other = message) ↔
        (∃ other ∈ state.2.inbound, content other = message) ∧ ∀ op ∈ late, ¬ Removes op message) := by
  induction late generalizing state with
  | nil => exact ⟨settled, by simp⟩
  | cons op rest ih =>
    obtain ⟨once, first⟩ := settle_settled casts elsewhere minus sms settled keyed op
    obtain ⟨last, later⟩ := ih once
    rw [run_cons]
    refine ⟨last, later.trans ?_⟩
    rw [first]
    simp only [List.mem_cons, forall_eq_or_imp, and_assoc]

theorem run_covered (covered : Covered state) (ops : List (MailOp τ)) :
    Covered (run (MailOp.apply casts elsewhere minus) state ops) :=
  run_invariant (fun _ _ _ covered applied => did_covered covered (apply_did applied)) state covered ops

/-- From any state in which the messages have their records, and in any run: the message of
an accepted record is in the mailbox until a statement of its tenant deletes it, under its
device and sequence there is never another, and deleted it never comes back. -/
theorem message_filed_once (state : IngressDb × Mailbox τ) (covered : Covered state) (early late : List (MailOp τ))
    {context : Option Uuid} {args : AcceptArgs} {now : Timestamp} {after : IngressDb} {rest : Mailbox τ}
    {window : WindowRow} (sms : args.kind = "SmsReceived")
    (accepted : acceptIngress (projectRecord casts elsewhere) context args now
      (run (MailOp.apply casts elsewhere minus) state early).1
      (run (MailOp.apply casts elsewhere minus) state early).2 = .ok (after, rest, .inserted, window)) :
    ∃ message,
      inboundRow casts elsewhere (run (MailOp.apply casts elsewhere minus) state early).2.others (args.row now) =
        .ok message ∧
      (∀ other ∈ (run (MailOp.apply casts elsewhere minus) (after, rest) late).2.inbound,
        other.key = message.key → content other = message) ∧
      ((∃ other ∈ (run (MailOp.apply casts elsewhere minus) (after, rest) late).2.inbound, content other = message) ↔
        ∀ op ∈ late, ¬ Removes op message) := by
  have before : Covered (run (MailOp.apply casts elsewhere minus) state early) := run_covered covered early
  rcases (acceptIngress_cases accepted).2.2 with ⟨duplicate, -⟩ | ⟨-, absent, attempt, projected⟩
  · cases duplicate
  have members := insertIngress_members attempt
  have fresh := Table.find_eq_none_iff.mp absent
  obtain ⟨message, row, inserted⟩ := projectInserted_sms (show (args.row now).kind = _ from sms) projected
  obtain ⟨keyed, unread⟩ := inboundRow_fields row
  have plain : content message = message := by
    rw [content, ← unread]
  rcases insertInbound_cases inserted with ⟨-, other, stored, same⟩ | ⟨free, rows⟩
  · obtain ⟨old, inside, key, -⟩ := before other stored
    exact absurd (key.trans (same.trans keyed)) (fresh old inside)
  have settled : Settled (args.row now) message (after, rest) := by
    refine ⟨(members _).mpr (Or.inr rfl), fun other member key => ?_⟩
    rcases (rows other).mp member with old | rfl
    · exact absurd (key.trans keyed.symm) (free other old)
    · exact plain
  obtain ⟨last, present⟩ := run_settled casts elsewhere minus sms settled keyed late
  refine ⟨message, row, fun other member key => last.alone other member (key.trans keyed), ?_⟩
  rw [present]
  exact and_iff_right ⟨message, (rows message).mpr (Or.inr rfl), plain⟩

/-! ## A message that is read, deleted and offered again -/

def nowhere : Elsewhere Unit := ⟨fun _ _ => .ok (), fun _ _ _ _ => none, fun record => record.envelopeId⟩

def greeting : AcceptArgs := ⟨5, 7, AcceptedRecords.firstSeq, 101, "SmsReceived", .obj [("peer", .str "+1"), ("body", .str "hi")]⟩

def afterwards : List (MailOp Unit) :=
  [.markThreadRead 5 "+1" 2, .deleteThread 5 "+1", .journal (.acceptIngress (some 5) greeting 3)]

def mailboxOf (late : List (MailOp Unit)) (state : IngressDb × Mailbox Unit) : List Inbound :=
  (run (MailOp.apply plainCasts nowhere fun now _ => .ok now) state late).2.inbound.rows

theorem greeting_filed_once : ∃ after rest window,
    acceptIngress (projectRecord plainCasts nowhere) (some 5) greeting 1 sampleJournal ⟨Table.empty, ()⟩ =
      .ok (after, rest, .inserted, window) ∧
    ∃ message, inboundRow plainCasts nowhere () (greeting.row 1) = .ok message ∧
      (∀ other ∈ mailboxOf afterwards (after, rest), other.key = message.key → content other = message) ∧
      ((∃ other ∈ mailboxOf afterwards (after, rest), content other = message) ↔
        ∀ op ∈ afterwards, ¬ Removes op message) := by
  have stored : (acceptIngress (projectRecord plainCasts nowhere) (some 5) greeting 1 sampleJournal ⟨Table.empty, ()⟩).map
      (fun out => out.2.2.1) = .ok .inserted := by
    decide +kernel
  obtain ⟨⟨after, rest, status, window⟩, accepted, rfl⟩ := map_success stored
  refine ⟨after, rest, window, accepted, ?_⟩
  exact message_filed_once (sampleJournal, ⟨Table.empty, ()⟩) (fun message member => absurd member List.not_mem_nil) []
    afterwards rfl accepted

end VodogeCloud.Guarantees.FiledMessages
