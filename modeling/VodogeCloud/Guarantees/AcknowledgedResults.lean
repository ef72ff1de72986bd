import VodogeCloud.Guarantees.IngressRetention
import VodogeCloud.Guarantees.ResultReplay
import VodogeCloud.Guarantees.SessionTurns
import VodogeCloud.Source.SessionSteps

/-!
# Acknowledged command results

An ack speaks for the journal alone, and the result is applied after it. What
keeps an acknowledged result from being lost is the session that still has it in
hand, and nothing else: the device has discarded it and no other part of the
gateway reads it back from the journal. So the invariant says of every result
whose sequence is stored or pruned that it was applied or that a session is on
its way to apply it, and a run keeps it as long as no such session is lost, no
result is buried under a tombstone and `RecordResult` can read what it is given.
-/

set_option autoImplicit false

namespace VodogeCloud.Guarantees.AcknowledgedResults

open VodogeCloud.Lib VodogeCloud.Lib.SequenceGaps VodogeCloud.Lib.Transactions
open VodogeCloud.Source.Postgres VodogeCloud.Source.IngressWindow VodogeCloud.Source.IngressWrites
open VodogeCloud.Source.CommandTables VodogeCloud.Source.CommandLifecycle
open VodogeCloud.Source.IngressStore VodogeCloud.Source.ServeDevice VodogeCloud.Source.SessionSteps
open VodogeCloud.Source.MemoryJournal (StoreError Status Window Result)
open VodogeCloud.Source.NulScrub (MapOrder)
open VodogeCloud.Guarantees.IngressRetention VodogeCloud.Guarantees.IngressAnswers
open VodogeCloud.Guarantees.TerminalCommands VodogeCloud.Guarantees.ResultReplay
open VodogeCloud.Guarantees.SessionTurns

/-! ## The sequences a device's acks can cover -/

section Journal

variable {db db' : IngressDb} {tenant device : Uuid}

/-- The sequence is stored, or the mark has crossed it. -/
def Accounted (db : IngressDb) (tenant device : Uuid) (seq : Nat) : Prop :=
  seq ∈ db.stored tenant device ∨ seq ≤ db.base tenant device

theorem accounted_window {seq : Nat} (within : seq ≤ (db.window tenant device).committedThrough) :
    Accounted db tenant device seq := by
  have covered := (window_committed db tenant device).1.2
  rcases Nat.lt_or_ge (db.base tenant device) seq with beyond | below
  · exact Or.inl (covered seq beyond within)
  · exact Or.inr below

theorem extends_accounted (h : Extends db db') {seq : Nat} (before : Accounted db tenant device seq) :
    Accounted db' tenant device seq := by
  rcases before with ⟨row, member, owned, rfl⟩ | below
  · exact Or.inl ⟨row, h.rows row member, owned, rfl⟩
  · refine Or.inr ?_
    simpa only [IngressDb.base, h.marks] using below

/-- Only the sequence of the row can be new. -/
theorem insertIngress_accounted {row : IngressRow} {inserted : Bool}
    (h : insertIngress db row = .ok (db', inserted)) {seq : Nat}
    (after : Accounted db' tenant device seq) :
    Accounted db tenant device seq ∨ (row.deviceId = device ∧ row.seq = seq) := by
  rcases insertIngress_cases h with ⟨_, rfl, _⟩ | ⟨_, _, members, _, marks⟩
  · exact Or.inl after
  · rcases after with ⟨other, member, owned, rfl⟩ | below
    · rcases (members other).mp member with old | rfl
      · exact Or.inl (Or.inl ⟨other, old, owned, rfl⟩)
      · simp only [IngressRow.of, Bool.and_eq_true, decide_eq_true_eq] at owned
        exact Or.inr ⟨owned.2, rfl⟩
    · refine Or.inl (Or.inr ?_)
      simpa only [IngressDb.base, marks] using below

variable {σ : Type} {project : σ → IngressRow → Except PgError σ}

theorem acceptIngress_accounted {context : Option Uuid} {args : AcceptArgs} {now : Timestamp}
    {rest rest' : σ} {status : AcceptStatus} {window : WindowRow}
    (h : acceptIngress project context args now db rest = .ok (db', rest', status, window)) {seq : Nat}
    (after : Accounted db' tenant device seq) :
    Accounted db tenant device seq ∨ (args.deviceId = device ∧ args.seq.value.toNat = seq) := by
  rcases (acceptIngress_cases h).2.2 with ⟨_, rfl, _⟩ | ⟨_, _, attempt, _⟩
  · exact Or.inl after
  · exact insertIngress_accounted attempt after

theorem recordUnstorableIngress_accounted {context : Option Uuid} {args : UnstorableArgs}
    {now : Timestamp} {recordedAt : String} {status : AcceptStatus}
    (h : recordUnstorableIngress context args now recordedAt db = .ok (db', status)) {seq : Nat}
    (after : Accounted db' tenant device seq) :
    Accounted db tenant device seq ∨ (args.deviceId = device ∧ args.seq.value.toNat = seq) := by
  obtain ⟨row, _, attempt, key, _⟩ := recordUnstorableIngress_inserts h
  obtain ⟨device', seq'⟩ := Prod.mk.inj key
  rw [← device', ← seq']
  exact insertIngress_accounted attempt after

/-- The mark crosses stored sequences only, and deletes none above it. -/
theorem advanceMark_accounted {cutoff : Option Timestamp} {base ceiling deleted : Nat}
    {positive : 0 < ceiling} {pruned prunedDevice : Uuid}
    (raised : db.base pruned prunedDevice < ceiling)
    (covered : Covered (db.stored pruned prunedDevice) (db.base pruned prunedDevice) ceiling)
    {seq : Nat} :
    Accounted (advanceMark pruned prunedDevice cutoff base ceiling deleted positive db) tenant device
      seq ↔ Accounted db tenant device seq := by
  have same := @advanceMark_stored pruned prunedDevice cutoff base ceiling deleted positive db tenant
    device seq
  unfold Accounted
  by_cases this : (tenant, device) = (pruned, prunedDevice)
  · obtain ⟨rfl, rfl⟩ := Prod.mk.inj this
    rw [advanceMark_base tenant device cutoff base ceiling deleted positive db raised]
    rcases Nat.lt_or_ge ceiling seq with beyond | within
    · rw [same (Or.inr beyond)]
      exact or_congr_right (by omega)
    · refine iff_of_true (Or.inr within) ?_
      rcases Nat.lt_or_ge (db.base tenant device) seq with above | below
      · exact Or.inl (covered seq above within)
      · exact Or.inr below
  · rw [advanceMark_base_other pruned prunedDevice cutoff base ceiling deleted positive db this,
      same (Or.inl this)]

theorem pruneDevice_accounted {pruned prunedDevice : Uuid} {cutoff : Option Timestamp}
    {limit deleted : Nat} (h : pruneDevice pruned cutoff limit db prunedDevice = .ok (db', deleted)) :
    Accounted db' tenant device = Accounted db tenant device := by
  obtain ⟨bound, _, h⟩ := bind_success h
  dsimp only at h
  split at h
  · cases h
    rfl
  · split at h
    · cases h
      rfl
    · next raised =>
      obtain ⟨count, _, h⟩ := bind_success h
      obtain ⟨_, _, h⟩ := bind_success h
      cases h
      funext seq
      exact propext (advanceMark_accounted (Nat.lt_of_not_le raised)
        (pruneCeiling_covered db pruned prunedDevice _))

theorem pruneIngress_accounted {minus : Timestamp → Interval → Except PgError Timestamp}
    {context : Option Uuid} {args : PruneArgs} {total : Nat}
    (h : pruneIngress minus context args db = .ok (db', total)) :
    Accounted db' tenant device = Accounted db tenant device := by
  obtain ⟨cutoff, limit, devices, h⟩ := pruneIngress_loop h
  refine @foldlM_keeps _ _ _ _ _ (fun acc : IngressDb × Nat => Accounted acc.1 tenant device) ?_
    devices (db, 0) (db', total) h
  intro acc other next turn
  obtain ⟨⟨after, deleted⟩, pruned, turn⟩ := bind_success turn
  obtain ⟨sum, _, turn⟩ := bind_success turn
  cases turn
  exact pruneDevice_accounted pruned

/-- A writer that leaves the device's records alone accounts for nothing new of it. -/
theorem journalOp_accounted {minus : Timestamp → Interval → Except PgError Timestamp}
    {op : JournalOp} {rest rest' : σ} (other : elsewhere device op = true)
    (h : op.apply project minus (db, rest) = .ok (db', rest')) {seq : Nat} :
    Accounted db' tenant device seq ↔ Accounted db tenant device seq := by
  cases op with
  | acceptIngress context args now =>
    obtain ⟨⟨after, rest'', status, window⟩, accepted, h⟩ := bind_success h
    cases h
    refine ⟨fun now_ => ?_, extends_accounted (acceptIngress_extends accepted)⟩
    refine (acceptIngress_accounted accepted now_).resolve_right fun ours => ?_
    simp [elsewhere, ours.1] at other
  | recordUnstorableIngress context args now recordedAt =>
    obtain ⟨⟨after, status⟩, recorded, h⟩ := bind_success h
    cases h
    refine ⟨fun now_ => ?_, extends_accounted (recordUnstorableIngress_extends recorded)⟩
    refine (recordUnstorableIngress_accounted recorded now_).resolve_right fun ours => ?_
    simp [elsewhere, ours.1] at other
  | pruneIngress context args =>
    obtain ⟨⟨after, total⟩, pruned, h⟩ := bind_success h
    cases h
    rw [pruneIngress_accounted pruned]

end Journal

/-! ## The store calls of a session -/

section Store

variable {σ : Type} {project : σ → IngressRow → Except PgError σ} {db db' : IngressDb} {rest rest' : σ}
  {tenant device : Uuid} {record : SqlRecord} {now : Timestamp} {seq : Nat}

/-- The journal grew by the record's sequence at most. -/
structure Fills (db db' : IngressDb) (tenant device : Uuid) (seq : Nat) : Prop where
  keeps : ∀ {s : Nat}, Accounted db tenant device s → Accounted db' tenant device s
  only : ∀ {s : Nat}, Accounted db' tenant device s → Accounted db tenant device s ∨ s = seq

theorem Fills.refl (db : IngressDb) (tenant device : Uuid) (seq : Nat) :
    Fills db db tenant device seq := ⟨id, Or.inl⟩

theorem acceptIngress_window {context : Option Uuid} {args : AcceptArgs} {status : AcceptStatus}
    {window : WindowRow}
    (h : acceptIngress project context args now db rest = .ok (db', rest', status, window)) :
    1 ≤ args.seq.value ∧ window = db'.window args.tenantId args.deviceId := by
  obtain ⟨guards, read, _⟩ := acceptIngress_cases h
  constructor
  · unfold acceptGuards at guards
    split at guards
    · cases guards
    · split at guards
      · cases guards
      · omega
  · unfold ingressWindow at read
    split at read
    · cases read
    · cases read
      rfl

/-- An answer of `Accept` is one of the statement, with the window the journal then has. -/
theorem accept_ok {order : MapOrder Number} {result : Result} (fits : record.seq < 2 ^ 64)
    (h : Source.IngressStore.accept order project record now db rest = (db', rest', .ok result)) :
    ∃ args status row, args.tenantId = record.tenantId ∧ args.deviceId = record.deviceId ∧
      args.seq.value.toNat = record.seq ∧ args.kind = record.kind ∧
      acceptIngress project (some record.tenantId) args now db rest = .ok (db', rest', status, row) ∧
      result = ⟨acceptStatus status, readWindow db' record.tenantId record.deviceId⟩ := by
  unfold Source.IngressStore.accept at h
  split at h
  · cases h
  · split at h
    · cases h
    · next journal others status row stored =>
      obtain ⟨envelopeId, _, stored⟩ := bind_success stored
      obtain ⟨document, _, stored⟩ := bind_success stored
      obtain ⟨positive, same⟩ := acceptIngress_window stored
      have small : record.seq < 2 ^ 63 := by
        by_contra large
        have := int64_large large fits
        dsimp only at positive
        omega
      rw [same, parseWindow_window] at h
      cases h
      exact ⟨⟨record.tenantId, record.deviceId, int64 record.seq, envelopeId, record.kind, document⟩, status, row, rfl,
        rfl, int64_toNat small, rfl, stored, rfl⟩

/-- What `Accept` did when it stored the record. -/
theorem accept_fills {order : MapOrder Number} {result : Result} (fits : record.seq < 2 ^ 64)
    (h : Source.IngressStore.accept order project record now db rest = (db', rest', .ok result)) :
    Fills db db' record.tenantId record.deviceId record.seq ∧
      result.window = readWindow db' record.tenantId record.deviceId := by
  obtain ⟨args, status, row, tenant, device, seq, _, stored, rfl⟩ := accept_ok fits h
  refine ⟨⟨extends_accounted (acceptIngress_extends stored), fun after => ?_⟩, rfl⟩
  rw [← tenant, ← device] at after ⊢
  refine (acceptIngress_accounted stored after).imp_right fun fresh => ?_
  rw [← fresh.2, seq]

theorem recordUnstorable_fills {reason recordedAt : String} (fits : record.seq < 2 ^ 64) :
    Fills db (recordUnstorable record reason now recordedAt db).1 tenant device record.seq := by
  rcases @recordUnstorable_journal record reason recordedAt now db fits with
    ⟨id, _, _, _, written⟩ | ⟨_, same⟩
  · rw [written]
    split
    · next journal inserted stored =>
      refine ⟨extends_accounted (insertIngress_extends stored), fun after => ?_⟩
      exact (insertIngress_accounted stored after).imp_right fun fresh => fresh.2.symm
    · exact Fills.refl _ _ _ _
  · rw [same]
    exact Fills.refl _ _ _ _

end Store

/-! ## What a step can do -/

section Steps

variable {σ : Type} {setting : Setting σ} {state next : System setting}

/-- The sequence is behind the acks of the device, or may be. -/
def Reached (state : System setting) (seq : Nat) : Prop :=
  Accounted state.cloud.journal setting.device.tenantId setting.device.deviceId seq

/-- The result a session is on its way to apply. -/
def carried {queue : Queue} : Stage queue → Option (Offer queue)
  | .stored offer _ => if offer.envelope.kind = "CommandResult" then some offer else none
  | .acknowledged offer => some offer
  | _ => none

/-- The window a session is about to write. -/
def carriedWindow {queue : Queue} : Stage queue → Option Window
  | .resuming window => some window
  | .stored _ window => some window
  | .counted window => some window
  | _ => none

def Held (state : System setting) (offer : Offer setting.queue) : Prop :=
  ∃ stage ∈ state.sessions, carried stage = some offer

def Applied (state : System setting) (offer : Offer setting.queue) : Prop :=
  ∃ entry ∈ state.applied, entry.offer = offer

/-- The result names a command and one of the terminal statuses. -/
def Ending (result : CommandResult) : Prop :=
  ∃ status detail id, Parsed result status detail id ∧ status.terminal = true

/-- A sequence is reached once its record is stored, and a result that is stored
is in hand. -/
structure JournalMoves (state next : System setting) : Prop where
  keeps : ∀ {seq : Nat}, Reached state seq → Reached next seq
  fresh : ∀ {offer : Offer setting.queue}, offer.envelope.kind = "CommandResult" →
    Reached next offer.seq → Reached state offer.seq ∨ Held next offer

/-- A result leaves a session's hands by being applied, and a window is written
as it was read. -/
structure SessionMoves (state next : System setting) : Prop where
  held : ∀ {offer : Offer setting.queue}, Held state offer → Applied next offer ∨ Held next offer
  windows : ∀ stage ∈ next.sessions, ∀ window, carriedWindow stage = some window →
    (∃ old ∈ state.sessions, carriedWindow old = some window) ∨
      ∀ seq ≤ window.committedThrough, Reached next seq
  sent : ∀ committed ∈ next.sent, committed ∈ state.sent ∨
    ∃ old ∈ state.sessions, ∃ window, carriedWindow old = some window ∧
      window.committedThrough = committed

/-- The command tables move as `Frozen` allows, and what was applied is written
down. -/
structure CommandMoves (state next : System setting) : Prop where
  commands : Settled state.cloud.commands →
    Settled next.cloud.commands ∧ Frozen state.cloud.commands next.cloud.commands
  applied : ∀ entry ∈ state.applied, entry ∈ next.applied
  entries : ∀ entry ∈ next.applied, entry ∈ state.applied ∨
    (Ending entry.result ∧ entry.after = next.cloud.commands)

theorem JournalMoves.of_eq (same : next.cloud.journal = state.cloud.journal) :
    JournalMoves state next := by
  have reached : ∀ {seq : Nat}, Reached next seq ↔ Reached state seq := by
    intro seq
    unfold Reached
    rw [same]
  exact ⟨reached.mpr, fun _ after => Or.inl (reached.mp after)⟩

theorem CommandMoves.of_eq (commands : next.cloud.commands = state.cloud.commands)
    (applied : next.applied = state.applied) : CommandMoves state next := by
  refine ⟨fun settled => ?_, fun entry member => by rwa [applied], fun entry member => ?_⟩
  · rw [commands]
    exact ⟨settled, Frozen.refl _⟩
  · rw [applied] at member
    exact Or.inl member

/-- A window that was just read covers what the journal has. -/
theorem reached_readWindow {seq : Nat}
    (within : seq ≤ (readWindow state.cloud.journal setting.device.tenantId
      setting.device.deviceId).committedThrough) : Reached state seq :=
  accounted_window within

/-- Every session is where it was, but for one that reached its first stage. -/
theorem SessionMoves.of_enter {stage : Stage setting.queue} (sent : next.sent = state.sent)
    (sessions : next.sessions = stage :: state.sessions)
    (sound : ∀ window, carriedWindow stage = some window →
      ∀ seq ≤ window.committedThrough, Reached next seq) : SessionMoves state next := by
  refine ⟨?_, ?_, fun committed member => Or.inl (by rwa [← sent])⟩
  · rintro offer ⟨old, member, carries⟩
    exact Or.inr ⟨old, by rw [sessions]; exact List.mem_cons_of_mem _ member, carries⟩
  · intro other member window carries
    rw [sessions] at member
    rcases List.mem_cons.mp member with rfl | old
    · exact Or.inr (sound window carries)
    · exact Or.inl ⟨other, old, carries⟩

theorem mem_or_eq_of_eraseIdx {α : Type} {items : List α} {index : Nat} {removed item : α}
    (at_ : items[index]? = some removed) (member : item ∈ items) :
    item = removed ∨ item ∈ items.eraseIdx index := by
  obtain ⟨place, found⟩ := List.mem_iff_getElem?.mp member
  by_cases same : place = index
  · subst same
    rw [at_] at found
    cases found
    exact Or.inl rfl
  · exact Or.inr (List.mem_eraseIdx_iff_getElem?.mpr ⟨place, same, found⟩)

/-- Every session is where it was, but for one that went on or ended. -/
theorem SessionMoves.of_replace {index : Nat} {stage : Stage setting.queue}
    {after : Option (Stage setting.queue)} (at_ : state.sessions[index]? = some stage)
    (sessions : next.sessions = after.toList ++ state.sessions.eraseIdx index)
    (held : ∀ offer, carried stage = some offer → Applied next offer ∨ Held next offer)
    (sound : ∀ reached ∈ after, ∀ window, carriedWindow reached = some window →
      ∀ seq ≤ window.committedThrough, Reached next seq)
    (sent : ∀ committed ∈ next.sent, committed ∈ state.sent ∨
      ∃ window, carriedWindow stage = some window ∧ window.committedThrough = committed) :
    SessionMoves state next := by
  refine ⟨?_, ?_, fun committed member => (sent committed member).imp_right fun written => ?_⟩
  · rintro offer ⟨old, member, carries⟩
    rcases mem_or_eq_of_eraseIdx at_ member with rfl | other
    · exact held offer carries
    · refine Or.inr ⟨old, ?_, carries⟩
      rw [sessions]
      exact List.mem_append_right _ other
  · intro other member window carries
    rw [sessions, List.mem_append, Option.mem_toList] at member
    rcases member with reached | old
    · exact Or.inr (sound other reached window carries)
    · exact Or.inl ⟨other, List.mem_of_mem_eraseIdx old, carries⟩
  · exact ⟨stage, List.mem_of_getElem? at_, written⟩

structure Moves (state next : System setting) : Prop where
  journal : JournalMoves state next
  sessions : SessionMoves state next
  commands : CommandMoves state next

/-! ## The steps, one by one -/

theorem Offer.fits (offer : Offer setting.queue) : offer.seq < 2 ^ 64 := by
  have numbered := setting.queue.numbered offer.known
  obtain ⟨raw, _, parsed⟩ := Option.bind_eq_some_iff.mp numbered
  exact (parseSeq_range parsed).2

theorem resumeStep_moves : Moves state (resumeStep state) := by
  unfold resumeStep
  rw [snapshot_eq]
  refine ⟨JournalMoves.of_eq rfl, SessionMoves.of_enter rfl rfl fun window carries seq within => ?_,
    CommandMoves.of_eq rfl rfl⟩
  cases carries
  exact reached_readWindow within

theorem acceptStep_moves (offer : Offer setting.queue) (order : MapOrder Number) (now : Timestamp) :
    Moves state (acceptStep offer order now state) := by
  unfold acceptStep
  split
  · exact ⟨JournalMoves.of_eq rfl, SessionMoves.of_enter rfl rfl (by rintro window ⟨⟩),
      CommandMoves.of_eq rfl rfl⟩
  · refine ⟨JournalMoves.of_eq rfl, ⟨Or.inr, fun stage member window carries => ?_, fun _ => Or.inl⟩,
      CommandMoves.of_eq rfl rfl⟩
    exact Or.inl ⟨stage, member, carries⟩
  · next journal rest result answer =>
    obtain ⟨fills, window⟩ := accept_fills (Offer.fits offer) answer
    refine ⟨⟨fills.keeps, fun {other} isResult after => ?_⟩,
      SessionMoves.of_enter rfl rfl fun read carries seq within => ?_, CommandMoves.of_eq rfl rfl⟩
    · refine (fills.only after).imp_right fun same => ?_
      obtain rfl : other = offer := Offer.eq_of_seq same
      exact ⟨.stored other result.window, List.mem_cons_self, if_pos isResult⟩
    · cases carries
      rw [window] at within
      exact accounted_window within

theorem send_moves {index : Nat} {stage : Stage setting.queue} {window : Window}
    (at_ : state.sessions[index]? = some stage) (carries : carriedWindow stage = some window)
    (idle : carried stage = none) : Moves state ((state.send window).replace index none) := by
  refine ⟨JournalMoves.of_eq rfl, SessionMoves.of_replace at_ rfl ?_ ?_ ?_, CommandMoves.of_eq rfl rfl⟩
  · intro offer holds
    rw [idle] at holds
    cases holds
  · exact fun reached member => nomatch member
  · intro committed member
    rcases List.mem_cons.mp member with rfl | old
    · exact Or.inr ⟨window, carries, rfl⟩
    · exact Or.inl old

theorem acknowledgeStep_moves {index : Nat} {offer : Offer setting.queue} {window : Window}
    (at_ : state.sessions[index]? = some (.stored offer window)) :
    Moves state (acknowledgeStep index offer window state) := by
  refine ⟨JournalMoves.of_eq rfl, SessionMoves.of_replace at_ rfl ?_ ?_ ?_, CommandMoves.of_eq rfl rfl⟩
  · intro other holds
    change (if _ then _ else _) = _ at holds
    split at holds
    · next isResult =>
      cases holds
      refine Or.inr ⟨.acknowledged offer, ?_, rfl⟩
      show _ ∈ Option.toList (if _ then _ else _) ++ _
      rw [if_pos isResult]
      exact List.mem_cons_self
    · cases holds
  · intro reached member read carries
    split at member
    · cases member
      cases carries
    · cases member
  · intro committed member
    rcases List.mem_cons.mp member with rfl | old
    · exact Or.inr ⟨window, rfl, rfl⟩
    · exact Or.inl old

section Record

variable {index : Nat} {offer : Offer setting.queue} {now : Timestamp} {result : CommandResult}

theorem recordStep_unread {err : ServeError}
    (unread : resultOf setting.float offer.envelope = .error err) :
    recordStep index offer now state = state.replace index none := by
  unfold recordStep
  split
  · rfl
  · next read =>
    rw [unread] at read
    cases read

theorem recordStep_failed {err : PgError} (read : resultOf setting.float offer.envelope = .ok result)
    (failed : recordResult setting.device.tenantId result now state.cloud.commands = .error err) :
    recordStep index offer now state = state.replace index none := by
  unfold recordStep
  split
  · rfl
  · next again =>
    cases read.symm.trans again
    split
    · rfl
    · next done =>
      rw [failed] at done
      cases done

theorem recordStep_done {commands : CommandDb}
    (read : resultOf setting.float offer.envelope = .ok result)
    (done : recordResult setting.device.tenantId result now state.cloud.commands = .ok commands) :
    recordStep index offer now state =
      { state.withCommands commands with
        applied := ⟨offer, result, now, state.cloud.commands, commands, read, done⟩ ::
          state.applied }.replace index (some (.recorded result)) := by
  unfold recordStep
  split
  · next failed =>
    rw [read] at failed
    cases failed
  · next again =>
    cases read.symm.trans again
    split
    · next failed =>
      rw [done] at failed
      cases failed
    · next other =>
      cases done.symm.trans other
      rfl

/-- A result that can be read is applied. -/
theorem recordStep_moves (at_ : state.sessions[index]? = some (.acknowledged offer))
    (readable : resultOf setting.float offer.envelope = .ok result) (ends : Ending result) :
    Moves state (recordStep index offer now state) := by
  obtain ⟨status, detail, id, parsed, terminal⟩ := ends
  obtain ⟨commands, done⟩ := @recordResult_succeeds setting.device.tenantId id status detail result
    parsed now state.cloud.commands
  rw [recordStep_done readable done]
  refine ⟨JournalMoves.of_eq rfl, SessionMoves.of_replace at_ rfl ?_ ?_ (fun _ => Or.inl), ?_⟩
  · intro held holds
    cases holds
    exact Or.inl ⟨_, List.mem_cons_self, rfl⟩
  · intro reached member window carries
    cases member
    cases carries
  · refine ⟨fun settled => recordResult_keeps settled done, fun entry => List.mem_cons_of_mem _, ?_⟩
    intro entry member
    rcases List.mem_cons.mp member with rfl | old
    · exact Or.inr ⟨⟨status, detail, id, parsed, terminal⟩, rfl⟩
    · exact Or.inl old

end Record

theorem settleStep_moves {index : Nat} {result : CommandResult} {now : Timestamp}
    (at_ : state.sessions[index]? = some (.recorded result)) :
    Moves state (settleStep index result now state) := by
  unfold settleStep
  dsimp only
  split
  · next commands settled =>
    refine ⟨JournalMoves.of_eq rfl,
      SessionMoves.of_replace at_ rfl (by rintro _ ⟨⟩) (by rintro _ ⟨⟩) (fun _ => Or.inl), ?_⟩
    obtain ⟨_, _, written⟩ := settleOutbound_ok settled
    refine ⟨fun kept => ?_, fun _ member => member, fun _ => Or.inl⟩
    show Settled commands ∧ Frozen state.cloud.commands commands
    rw [written]
    exact messages_keep ⟨kept, Frozen.refl _⟩
  · exact ⟨JournalMoves.of_eq rfl,
      SessionMoves.of_replace at_ rfl (by rintro _ ⟨⟩) (by rintro _ ⟨⟩) (fun _ => Or.inl),
      CommandMoves.of_eq rfl rfl⟩

/-- A tombstone can take the record's place. -/
def Buriable (state : System setting) (offer : Offer setting.queue) : Prop :=
  ∃ id, uuidIn offer.envelope.id = .ok id ∧ offer.seq < 2 ^ 63 ∧
    Insertable state.cloud.journal setting.device.tenantId setting.device.deviceId id

/-- A result is not buried, so what a tombstone fills is no result. -/
theorem buryStep_moves {index : Nat} {offer : Offer setting.queue} {reason recordedAt : String}
    {now : Timestamp} (at_ : state.sessions[index]? = some (.refused offer reason))
    (spared : offer.envelope.kind = "CommandResult" → ¬ Buriable state offer) :
    Moves state (buryStep index offer reason now recordedAt state) := by
  refine ⟨?_, SessionMoves.of_replace at_ rfl (by rintro _ ⟨⟩) ?_ (fun _ => Or.inl),
    CommandMoves.of_eq rfl rfl⟩
  · by_cases isResult : offer.envelope.kind = "CommandResult"
    · refine JournalMoves.of_eq ?_
      show (recordUnstorable _ reason now recordedAt state.cloud.journal).1 = state.cloud.journal
      cases found : state.cloud.journal.ingress.find (setting.device.deviceId, offer.seq) with
      | some existing => exact recordUnstorable_found (Offer.fits offer) found
      | none => exact recordUnstorable_barred (Offer.fits offer) found (spared isResult)
    · have fills := @recordUnstorable_fills state.cloud.journal setting.device.tenantId
        setting.device.deviceId
        { recordOf setting.device offer.envelope offer.seq with payload := none } now reason recordedAt
        (Offer.fits offer)
      refine ⟨fills.keeps, fun {other} otherResult after => Or.inl ?_⟩
      refine (fills.only after).resolve_right fun same => ?_
      rw [Offer.eq_of_seq same] at otherResult
      exact isResult otherResult
  · intro reached member window carries
    cases member
    cases carries

theorem countStep_moves {index : Nat} (at_ : state.sessions[index]? = some .buried) :
    Moves state (countStep index state) := by
  unfold countStep
  rw [snapshot_eq]
  refine ⟨JournalMoves.of_eq rfl, SessionMoves.of_replace at_ rfl (by rintro _ ⟨⟩) ?_ (fun _ => Or.inl),
    CommandMoves.of_eq rfl rfl⟩
  intro reached member window carries seq within
  cases member
  cases carries
  exact accounted_window within

/-- Sessions are lost that had nothing left to apply. -/
theorem lost_moves (journal : next.cloud = state.cloud) (sent : next.sent = state.sent)
    (applied : next.applied = state.applied)
    (fewer : ∀ stage ∈ next.sessions, stage ∈ state.sessions)
    (spared : ∀ offer, Held state offer → Applied state offer ∨ Held next offer) :
    Moves state next := by
  refine ⟨JournalMoves.of_eq (by rw [journal]), ⟨fun {offer} held => ?_, ?_, ?_⟩,
    CommandMoves.of_eq (by rw [journal]) applied⟩
  · unfold Applied
    rw [applied]
    exact spared offer held
  · exact fun stage member window carries => Or.inl ⟨stage, fewer stage member, carries⟩
  · exact fun committed member => Or.inl (by rwa [← sent])

/-- Other writers leave the sessions alone. -/
theorem outside_moves (sessions : next.sessions = state.sessions) (sent : next.sent = state.sent)
    (applied : next.applied = state.applied)
    (reached : ∀ {seq : Nat}, Reached next seq ↔ Reached state seq)
    (commands : Settled state.cloud.commands →
      Settled next.cloud.commands ∧ Frozen state.cloud.commands next.cloud.commands) :
    Moves state next := by
  refine ⟨⟨reached.mpr, fun _ after => Or.inl (reached.mp after)⟩, ⟨?_, ?_, ?_⟩,
    ⟨commands, fun entry member => by rwa [applied], fun entry member => Or.inl (by rwa [← applied])⟩⟩
  · rintro offer ⟨stage, member, carries⟩
    exact Or.inr ⟨stage, by rwa [sessions], carries⟩
  · exact fun stage member window carries => Or.inl ⟨stage, by rwa [← sessions], carries⟩
  · exact fun committed member => Or.inl (by rwa [← sent])

/-- The next step of a session does not drop a result: what it is to apply can be
read and ends a command, and what it is to bury is no result. -/
def Spares (state : System setting) : Stage setting.queue → Prop
  | .acknowledged offer =>
    ∃ result, resultOf setting.float offer.envelope = .ok result ∧ Ending result
  | .refused offer _ => offer.envelope.kind = "CommandResult" → ¬ Buriable state offer
  | _ => True

/-- No session is lost with a result it has not applied. -/
def Harmless (state : System setting) : Event setting.queue → Prop
  | .proceed index _ _ => ∀ stage, state.sessions[index]? = some stage → Spares state stage
  | .lose index => ∀ stage, state.sessions[index]? = some stage →
    ∀ offer, carried stage = some offer → Applied state offer
  | .crash => ∀ offer, Held state offer → Applied state offer
  | _ => True

theorem proceed_moves {index : Nat} {now : Timestamp} {recordedAt : String}
    (harmless : Harmless state (.proceed index now recordedAt)) :
    Moves state (proceed index now recordedAt state) := by
  unfold proceed
  split
  · exact lost_moves rfl rfl rfl (fun _ member => member) fun _ => Or.inr
  · next at_ => exact send_moves at_ rfl rfl
  · next at_ => exact acknowledgeStep_moves at_
  · next at_ =>
    obtain ⟨result, readable, ends⟩ := harmless _ at_
    exact recordStep_moves at_ readable ends
  · next at_ => exact settleStep_moves at_
  · next at_ => exact buryStep_moves at_ (harmless _ at_)
  · next at_ => exact countStep_moves at_
  · next at_ => exact send_moves at_ rfl rfl

theorem step_moves {event : Event setting.queue} (harmless : Harmless state event) :
    Moves state (step state event) := by
  cases event with
  | resume => exact resumeStep_moves
  | offer offer order now => exact acceptStep_moves offer order now
  | proceed index now recordedAt => exact proceed_moves harmless
  | lose index =>
    refine lost_moves rfl rfl rfl (fun stage member => List.mem_of_mem_eraseIdx member) ?_
    rintro offer ⟨stage, member, carries⟩
    cases at_ : state.sessions[index]? with
    | none =>
      refine Or.inr ⟨stage, ?_, carries⟩
      show stage ∈ state.sessions.eraseIdx index
      rwa [List.eraseIdx_of_length_le (List.getElem?_eq_none_iff.mp at_)]
    | some lost =>
      rcases mem_or_eq_of_eraseIdx at_ member with rfl | other
      · exact Or.inl (harmless _ at_ offer carries)
      · exact Or.inr ⟨stage, other, carries⟩
  | crash => exact lost_moves rfl rfl rfl (List.forall_mem_nil _) fun offer held => Or.inl (harmless offer held)
  | command op =>
    refine outside_moves rfl rfl rfl Iff.rfl fun settled => ?_
    refine settle_rel (R := fun before after => Settled before → Settled after ∧ Frozen before after)
      ?_ ?_ _ op settled
    · exact fun db kept => ⟨kept, Frozen.refl db⟩
    · exact fun other before after committed kept => apply_keeps kept committed
  | journal op =>
    show Moves state (if _ then _ else _)
    split
    · next other =>
      refine outside_moves rfl rfl rfl ?_ fun settled => ⟨settled, Frozen.refl _⟩
      intro seq
      cases outcome : op.apply setting.project setting.minus (state.cloud.journal, state.cloud.rest) with
      | error err =>
        dsimp only [Reached, System.withJournal]
        rw [settle_of_error outcome]
      | ok result =>
        dsimp only [Reached, System.withJournal]
        rw [settle_of_ok outcome]
        exact journalOp_accounted other outcome
    · exact lost_moves rfl rfl rfl (fun _ member => member) fun _ => Or.inr

end Steps

/-! ## An uninterrupted turn -/

section Turn

variable {σ : Type} {setting : Setting σ}

/-- The `committed_through` of the frames written. -/
def committedSent (replies : List Reply) : List Nat :=
  replies.filterMap fun
    | .resumeAck _ window _ => some window.committedThrough
    | .uplinkAck _ window => some window.committedThrough
    | _ => none

/-- The steps of one record with nothing in between. -/
def oneTurn (env : Environment σ) (offer : Offer setting.queue) : List (Event setting.queue) :=
  .offer offer env.order env.database :: List.replicate 3 (.proceed 0 env.database env.recordedAt)

/-- What a turn leaves: the database, no session on the record, and its acks, the
newest first. -/
def Leaves (final : System setting) (turn : Turn σ) (sent : List Nat) : Prop :=
  final.cloud = turn.gateway.cloud ∧ final.sessions = [] ∧
    final.sent = (committedSent turn.sent).reverse ++ sent

theorem Leaves.after {final : System setting} {turn : Turn σ} {sent : List Nat}
    {connectionId : String} {window : Window}
    (h : Leaves final turn (window.committedThrough :: sent)) :
    Leaves final (turn.after [.uplinkAck connectionId window]) sent := by
  refine ⟨h.1, h.2.1, h.2.2.trans ?_⟩
  simp [Turn.after, committedSent]

variable {env : Environment σ} {session : Session} {gateway : Gateway σ}
  {offer : Offer setting.queue} {sent : List Nat} {applied : List (Application setting)}

/-- `serveResult` reads the result and then applies it. -/
theorem serveResult_eq (envelope : Envelope) :
    serveResult env session envelope gateway =
      match resultOf env.float envelope with
      | .error err => stop session gateway [] err
      | .ok result =>
        match settlingRecordResult session.device.tenantId result env.database
            gateway.cloud.commands with
        | .error err => stop session gateway [] (.database err)
        | .ok commands => goOn session (gateway.withCommands commands) [] := by
  unfold serveResult resultOf
  cases envelope.payload.bind (commandResultPayload env.float) with
  | none => rfl
  | some payload =>
    dsimp only
    unfold resultStatement
    cases timestampArg payload.completedAt with
    | error err => rfl
    | ok completedAt => rfl

/-- The two steps of `RecordResult`. -/
theorem result_turn (device : session.device = setting.device) (float : env.float = setting.float) :
    Leaves (List.foldl step (⟨gateway.cloud, [.acknowledged offer], sent, applied⟩ : System setting)
        (List.replicate 2 (.proceed 0 env.database env.recordedAt)))
      (serveResult env session offer.envelope gateway) sent := by
  rw [serveResult_eq, float, device]
  let state : System setting := ⟨gateway.cloud, [.acknowledged offer], sent, applied⟩
  show Leaves (proceed 0 _ _ (recordStep 0 offer env.database state)) _ sent
  cases read : resultOf setting.float offer.envelope with
  | error err =>
    rw [recordStep_unread read]
    exact ⟨rfl, rfl, rfl⟩
  | ok result =>
    dsimp only
    unfold settlingRecordResult
    cases done : recordResult setting.device.tenantId result env.database gateway.cloud.commands with
    | error err =>
      rw [@recordStep_failed σ setting state 0 offer env.database result err read done]
      exact ⟨rfl, rfl, rfl⟩
    | ok commands =>
      rw [@recordStep_done σ setting state 0 offer env.database result commands read done, ok_bind]
      show Leaves (settleStep 0 result env.database _) _ sent
      unfold settleStep
      dsimp only [System.withCommands, System.replace]
      cases settleOutbound setting.device.tenantId result.commandId
          (if result.status = "succeeded" then MessageStatus.sent else .failed)
          (if result.reason = "" then result.reasonCode else result.reason)
          (messageReference result.details) env.database commands with
      | ok settled => exact ⟨rfl, rfl, rfl⟩
      | error err => exact ⟨rfl, rfl, rfl⟩

/-- The three steps after a refusal. -/
theorem refused_turn (device : session.device = setting.device)
    (writes : ∀ frame, env.write frame = true) (reason : String) :
    Leaves (List.foldl step (⟨gateway.cloud, [.refused offer reason], sent, applied⟩ : System setting)
        (List.replicate 3 (.proceed 0 env.database env.recordedAt)))
      (serveUnstorable env session (recordOf session.device offer.envelope offer.seq) reason gateway)
      sent := by
  rw [serveUnstorable_writes writes, device]
  have counted : ∀ cloud : Cloud σ,
      countStep 0 (⟨cloud, [.buried], sent, applied⟩ : System setting) =
        ⟨cloud, [.counted (readWindow cloud.journal setting.device.tenantId setting.device.deviceId)],
          sent, applied⟩ := by
    intro cloud
    unfold countStep
    rw [snapshot_eq]
    rfl
  have buried_ : buryStep 0 offer reason env.database env.recordedAt
      (⟨gateway.cloud, [.refused offer reason], sent, applied⟩ : System setting) =
      ⟨{ gateway.cloud with
          journal := buried env (recordOf setting.device offer.envelope offer.seq) reason
            gateway.cloud.journal }, [.buried], sent, applied⟩ := rfl
  let again : Event setting.queue := .proceed 0 env.database env.recordedAt
  show Leaves (List.foldl step (buryStep 0 offer reason env.database env.recordedAt _) [again, again]) _
    sent
  rw [buried_]
  show Leaves (List.foldl step (countStep 0 _) [again]) _ sent
  rw [counted]
  exact ⟨rfl, rfl, rfl⟩

/-- Taken one after the other the steps are the turn of the loop. -/
theorem uninterrupted_turn (device : session.device = setting.device)
    (project : env.project = setting.project) (float : env.float = setting.float)
    (writes : ∀ frame, env.write frame = true) :
    Leaves ((oneTurn env offer).foldl step ⟨gateway.cloud, [], sent, applied⟩)
      (serveRecord env session offer.envelope gateway) sent := by
  have frame : SequencedFrame offer.envelope offer.seq := by
    refine ⟨setting.queue.sequenced offer.known, ?_⟩
    exact Option.bind_eq_some_iff.mp (setting.queue.numbered offer.known)
  show Leaves (List.foldl step (acceptStep offer env.order env.database ⟨gateway.cloud, [], sent, applied⟩)
    (List.replicate 3 (.proceed 0 env.database env.recordedAt))) _ sent
  unfold acceptStep
  dsimp only
  rw [← project, ← device]
  split
  · next answer =>
    rw [serveRecord_malformed frame answer]
    exact refused_turn device writes _
  · next other answer =>
    rw [serveRecord_refused frame answer other]
    exact ⟨rfl, rfl, rfl⟩
  · next journal rest result answer =>
    rw [serveRecord_stored frame answer]
    unfold serveStored
    dsimp only
    rw [if_pos (writes _)]
    show Leaves (List.foldl step (acknowledgeStep 0 offer result.window _)
      (List.replicate 2 (.proceed 0 env.database env.recordedAt))) _ sent
    unfold acknowledgeStep
    split
    · have turned := @result_turn σ setting env session (gateway.withJournal journal rest) offer
        (result.window.committedThrough :: sent) applied device float
      exact Leaves.after turned
    · exact ⟨rfl, rfl, rfl⟩

end Turn

/-! ## Whole runs -/

section Runs

variable {σ : Type} {setting : Setting σ} {state next : System setting}

/-- Every result the acks may cover is applied or in hand, and what was applied
stands. -/
structure Accountable (state : System setting) : Prop where
  settled : Settled state.cloud.commands
  results : ∀ {offer : Offer setting.queue}, offer.envelope.kind = "CommandResult" →
    Reached state offer.seq → Applied state offer ∨ Held state offer
  windows : ∀ stage ∈ state.sessions, ∀ window, carriedWindow stage = some window →
    ∀ seq ≤ window.committedThrough, Reached state seq
  sent : ∀ committed ∈ state.sent, ∀ seq ≤ committed, Reached state seq
  entries : ∀ entry ∈ state.applied,
    Ending entry.result ∧ Frozen entry.after state.cloud.commands

theorem Moves.accountable (moves : Moves state next) (kept : Accountable state) :
    Accountable next := by
  obtain ⟨settled, frozen⟩ := moves.commands.commands kept.settled
  have stillApplied : ∀ {offer : Offer setting.queue}, Applied state offer → Applied next offer := by
    rintro offer ⟨entry, member, same⟩
    exact ⟨entry, moves.commands.applied entry member, same⟩
  refine ⟨settled, fun {offer} isResult reached => ?_, fun stage member window carries seq within => ?_,
    fun committed member seq within => ?_, fun entry member => ?_⟩
  · rcases moves.journal.fresh isResult reached with before | held
    · rcases kept.results isResult before with applied | held
      · exact Or.inl (stillApplied applied)
      · exact moves.sessions.held held
    · exact Or.inr held
  · rcases moves.sessions.windows stage member window carries with ⟨old, inOld, same⟩ | sound
    · exact moves.journal.keeps (kept.windows old inOld window same seq within)
    · exact sound seq within
  · rcases moves.sessions.sent committed member with before | ⟨old, inOld, window, carries, same⟩
    · exact moves.journal.keeps (kept.sent committed before seq within)
    · subst same
      exact moves.journal.keeps (kept.windows old inOld window carries seq within)
  · rcases moves.commands.entries entry member with before | ⟨ends, after⟩
    · obtain ⟨ends, earlier⟩ := kept.entries entry before
      exact ⟨ends, earlier.trans frozen⟩
    · rw [after]
      exact ⟨ends, Frozen.refl _⟩

/-- Before the device has ever connected. -/
structure Unheard (setting : Setting σ) (cloud : Cloud σ) : Prop where
  stored : ∀ seq, seq ∉ cloud.journal.stored setting.device.tenantId setting.device.deviceId
  unpruned : cloud.journal.base setting.device.tenantId setting.device.deviceId = 0
  commands : cloud.commands.commands.rows = []

theorem Unheard.accountable {cloud : Cloud σ} (unheard : Unheard setting cloud) :
    Accountable (System.start setting cloud) := by
  refine ⟨settled_of_no_commands unheard.commands, fun {offer} _ reached => ?_,
    List.forall_mem_nil _, List.forall_mem_nil _, List.forall_mem_nil _⟩
  obtain ⟨raw, _, parsed⟩ := Option.bind_eq_some_iff.mp (setting.queue.numbered offer.known)
  have positive := (parseSeq_range parsed).1
  rcases reached with stored | below
  · exact absurd stored (unheard.stored offer.seq)
  · change offer.seq ≤ cloud.journal.base _ _ at below
    rw [unheard.unpruned] at below
    omega

theorem run_accountable {start : System setting} (kept : Accountable start)
    {events : List (Event setting.queue)} (harmless : Guarded step Harmless start events) :
    Accountable (events.foldl step start) :=
  foldl_guarded (fun _ _ before spared => (step_moves spared).accountable before) start kept events
    harmless

/-- The command the result named is over, an answer to one the cloud had given up
on is noted beside its result, and the status it was left in is its status now. -/
def Stands (entry : Application setting) (db : CommandDb) : Prop :=
  ∀ id, uuidIn entry.result.commandId = .ok id → ∀ command ∈ entry.before.commands,
    commandOf setting.device.tenantId id command = true →
    ∃ noted ∈ entry.after.commands, noted.id = command.id ∧ noted.status.terminal = true ∧
      (givenUp command.status → ∃ detail, jsonbIn entry.result.detail = .ok detail ∧
        noted.result = some (mergeLate detail command.result)) ∧
      ∃ later ∈ db.commands, later.id = command.id ∧ later.status = noted.status

theorem stands_of_frozen {entry : Application setting} {db : CommandDb} (ends : Ending entry.result)
    (frozen : Frozen entry.after db) : Stands entry db := by
  obtain ⟨status, detail, id, parsed, terminal⟩ := ends
  intro other named command member own
  cases parsed.id.symm.trans named
  obtain ⟨rows, _, _⟩ := recordResult_rows parsed entry.done
  have noted : resultRow setting.device.tenantId id status entry.result.completedAt detail command ∈
      entry.after.commands := by
    rw [← Table.mem_rows, rows]
    exact List.mem_map.mpr ⟨command, member, rfl⟩
  have terminal_ : (resultRow setting.device.tenantId id status entry.result.completedAt detail
      command).status.terminal = true :=
    recordResult_ends entry.done parsed.status terminal parsed.id _ noted (by
      unfold resultRow
      split
      · exact own
      · split <;> exact own)
  obtain ⟨later, inTable, sameId, sameStatus⟩ := frozen.commands _ noted terminal_
  rw [resultRow_id] at sameId
  refine ⟨_, noted, resultRow_id _ _, terminal_, fun gone => ⟨detail, parsed.detail, ?_⟩, later, inTable,
    sameId, sameStatus⟩
  have late : lateHit setting.device.tenantId id command = true := lateHit_iff.mpr ⟨own, gone⟩
  have missed : resultHit setting.device.tenantId id command = false := by
    rcases gone with expired | cancelled
    · simp [resultHit, expired, CommandStatus.terminal]
    · simp [resultHit, cancelled, CommandStatus.terminal]
  simp [resultRow, missed, late, lateRow]

/-- A result whose sequence a sent `committed_through` covers has been applied and
stands, unless its session is still between storing and applying it. -/
def AnswersKept (state : System setting) : Prop :=
  ∀ committed ∈ state.sent, ∀ offer : Offer setting.queue, offer.seq ≤ committed →
    offer.envelope.kind = "CommandResult" → ¬ Held state offer →
    ∃ entry ∈ state.applied, entry.offer = offer ∧ Stands entry state.cloud.commands

/-- In every run that loses no session with a result in hand, buries no result and
hands `RecordResult` results it can read, no acknowledged result is lost. -/
theorem acknowledged_results_applied {cloud : Cloud σ} (unheard : Unheard setting cloud)
    (events : List (Event setting.queue))
    (harmless : Guarded step Harmless (System.start setting cloud) events) :
    AnswersKept (events.foldl step (System.start setting cloud)) := by
  have kept := run_accountable unheard.accountable harmless
  intro committed member offer within isResult free
  have reached := kept.sent committed member offer.seq within
  obtain ⟨entry, inLog, same⟩ := (kept.results isResult reached).resolve_right free
  obtain ⟨ends, frozen⟩ := kept.entries entry inLog
  exact ⟨entry, inLog, same, stands_of_frozen ends frozen⟩

/-- The answer to command 3, numbered 1. -/
def answerEnvelope : Envelope where
  v := 1
  kind := "CommandResult"
  id := "00000000-0000-0000-0000-000000000009"
  ts := 0
  deviceId := sampleName
  seq := some "1"
  traceId := none
  payload := some (.obj [(chars "cmd_id", .str (chars "00000000-0000-0000-0000-000000000003")),
    (chars "status", .str (chars "succeeded")), (chars "completed_at", .num 0 none),
    (chars "attempts", .num 1 none)])

/-- The only record the device has numbered. -/
def oneAnswer : Queue where
  record seq := if seq = 1 then some answerEnvelope else none
  sequenced := by
    intro seq envelope known
    split at known
    · cases known
      decide
    · cases known
  numbered := by
    intro seq envelope known
    split at known
    · next first =>
      cases known
      subst first
      decide
    · cases known

def theAnswer : Offer oneAnswer := ⟨1, answerEnvelope, rfl⟩

def oneDevice : Setting Unit where
  device := sampleDevice
  queue := oneAnswer
  project := fun rest _ => .ok rest
  float := sampleFloat
  calendar := plainCalendar
  minus := fun now interval => .ok (now - interval.span)

/-- The device is registered and has not connected yet. -/
def freshCloud : Cloud Unit := ⟨sampleJournal, .empty, ()⟩

theorem freshCloud_unheard : Unheard oneDevice freshCloud := by
  refine ⟨?_, rfl, rfl⟩
  rintro seq ⟨row, member, _⟩
  cases member

theorem answer_turn :
    Leaves ((@oneTurn Unit oneDevice (sampleEnvironment oneDevice.project) theAnswer).foldl step
        ⟨freshCloud, [], [], []⟩)
      (serveRecord (sampleEnvironment oneDevice.project) ⟨sampleDevice, "c1", 0⟩ theAnswer.envelope
        (sampleGateway () .empty)) [] :=
  @uninterrupted_turn Unit oneDevice (sampleEnvironment oneDevice.project) ⟨sampleDevice, "c1", 0⟩
    (sampleGateway () .empty) theAnswer [] [] rfl rfl rfl fun _ => rfl

/-- Tenant 5 asks device 7 for an SMS. -/
def askOnce : CommandOp :=
  .enqueueCommand (fun _ _ => true) (some 5) ⟨5, 7, .sendSms, .obj [], "key", 1000⟩ 3 1 0

/-- The answer is stored, acknowledged and applied, and the device resumes. -/
def answeredRun : List (Event oneAnswer) :=
  [.command askOnce, .offer theAnswer .forwards 10, .proceed 0 10 "", .proceed 0 10 "", .proceed 0 10 "", .resume,
    .proceed 0 20 ""]

/-- The gateway dies between the ack and `RecordResult`; the device resumes, has
discarded the answer, and the command runs out. -/
def interruptedRun : List (Event oneAnswer) :=
  [.command askOnce, .offer theAnswer .forwards 10, .proceed 0 10 "", .crash, .resume, .proceed 0 20 "",
    .command (.expireOverdueTenantCommands (some 5) 5 (some 2000))]

def runFrom (events : List (Event oneAnswer)) : System oneDevice :=
  events.foldl step (System.start oneDevice freshCloud)

theorem answer_readable :
    ∃ result, resultOf sampleFloat answerEnvelope = .ok result ∧ Ending result :=
  ⟨_, rfl, .succeeded, _, 3, ⟨rfl, rfl, by decide⟩, rfl⟩

def isRefused {queue : Queue} : Stage queue → Bool
  | .refused _ _ => true
  | _ => false

theorem harmless_proceed {state : System oneDevice} {index : Nat} {now : Timestamp}
    (stored : (state.sessions[index]?).all (fun stage => !isRefused stage) = true) :
    Harmless state (.proceed index now "") := by
  intro stage at_
  rw [at_] at stored
  cases stage with
  | acknowledged offer =>
    obtain ⟨seq, envelope, known⟩ := offer
    change (if _ then _ else _) = _ at known
    split at known
    · cases known
      exact answer_readable
    · cases known
  | refused offer reason => cases stored
  | resuming window => trivial
  | stored offer window => trivial
  | recorded result => trivial
  | buried => trivial
  | counted window => trivial

theorem answered_result_applied :
    Unheard oneDevice freshCloud ∧
    Guarded step Harmless (System.start oneDevice freshCloud) answeredRun ∧
    (runFrom answeredRun).sent = [1, 1] ∧
    (runFrom answeredRun).cloud.commands.commands.rows.map CommandRow.status = [.succeeded] ∧
    AnswersKept (runFrom answeredRun) := by
  have harmless : Guarded step Harmless (System.start oneDevice freshCloud) answeredRun := by
    refine ⟨trivial, trivial, harmless_proceed ?_, harmless_proceed ?_, harmless_proceed ?_, trivial,
      harmless_proceed ?_, trivial⟩
    all_goals decide
  exact ⟨freshCloud_unheard, harmless, by decide, by decide,
    acknowledged_results_applied freshCloud_unheard answeredRun harmless⟩

/-- The answer was acknowledged twice, was never applied, and the command is
expired without a word of it. -/
theorem crash_loses_acknowledged_result :
    (runFrom interruptedRun).sent = [1, 1] ∧ (runFrom interruptedRun).sessions.isEmpty = true ∧
    (runFrom interruptedRun).cloud.commands.commands.rows.map (fun row => (row.status, row.result)) =
      [(.expired, some (expiredResult plainCalendar 2000 "cloud_expired"))] ∧
    ¬ AnswersKept (runFrom interruptedRun) := by
  have sent : (runFrom interruptedRun).sent = [1, 1] := by decide
  have idle : (runFrom interruptedRun).sessions.isEmpty = true := by decide
  have unapplied : (runFrom interruptedRun).applied.isEmpty = true := by decide
  refine ⟨sent, idle, by decide, fun kept => ?_⟩
  have free : ¬ Held (runFrom interruptedRun) theAnswer := by
    rintro ⟨stage, member, _⟩
    rw [List.isEmpty_iff.mp idle] at member
    cases member
  obtain ⟨entry, member, _⟩ := kept 1 (by simp [sent]) theAnswer (Nat.le_refl 1) rfl free
  rw [List.isEmpty_iff.mp unapplied] at member
  cases member

end Runs

end VodogeCloud.Guarantees.AcknowledgedResults
