import VodogeCloud.Guarantees.AcknowledgedResults
import VodogeCloud.Source.ResultNotices

/-!
# One notice for a failed command

A record is stored once: its row stays in the journal, and `Accept` answers every
further copy with `duplicate`. `OnAlert` asks for that answer and so speaks at most
once. `RecordResult` does not, and what is left to bound its notices is the session:
a notice is raised by a session that has the record in hand, and it leaves the
session's hands with it. So the sessions that have a record in hand and the notices
raised of it are counted together, and the count grows only where `Accept` takes a
copy.
-/

set_option autoImplicit false

namespace VodogeCloud.Guarantees.FailureNotices

open VodogeCloud.Lib VodogeCloud.Lib.Transactions
open VodogeCloud.Source.Postgres VodogeCloud.Source.IngressWindow VodogeCloud.Source.IngressWrites
open VodogeCloud.Source.CommandTables VodogeCloud.Source.CommandLifecycle
open VodogeCloud.Source.IngressStore VodogeCloud.Source.ServeDevice
open VodogeCloud.Source.SessionSteps VodogeCloud.Source.ResultNotices
open VodogeCloud.Source.MemoryJournal (StoreError Status Window Result)
open VodogeCloud.Source.NulScrub (MapOrder)
open VodogeCloud.Guarantees.IngressRetention VodogeCloud.Guarantees.IngressAnswers
open VodogeCloud.Guarantees.AcknowledgedResults

/-! ## What is stored stays stored -/

section Journal

variable {σ : Type} {project : σ → IngressRow → Except PgError σ} {db db' : IngressDb} {rest rest' : σ}
  {record : SqlRecord} {now : Timestamp}

/-- The journal has a row for the sequence, of a kind that is never pruned. -/
def Kept (db : IngressDb) (device : Uuid) (seq : Nat) : Prop :=
  ∃ row ∈ db.ingress, row.key = (device, seq) ∧ row.kind ≠ "DeviceState"

/-- Rows of these kinds are never deleted. -/
def Lasts (db db' : IngressDb) : Prop :=
  ∀ row ∈ db.ingress, row.kind ≠ "DeviceState" → row ∈ db'.ingress

theorem Lasts.kept (lasts : Lasts db db') {device : Uuid} {seq : Nat} (kept : Kept db device seq) :
    Kept db' device seq := by
  obtain ⟨row, member, same, kind⟩ := kept
  exact ⟨row, lasts row member kind, same, kind⟩

theorem lasts_of_extends (extends_ : Extends db db') : Lasts db db' :=
  fun row member _ => extends_.rows row member

/-- An `accept_ingress` that commits leaves the record in the journal, and says
`inserted` only if nothing was there. -/
theorem acceptIngress_stores {context : Option Uuid} {args : AcceptArgs} {status : AcceptStatus}
    {window : WindowRow}
    (h : acceptIngress project context args now db rest = .ok (db', rest', status, window)) :
    (∃ row ∈ db'.ingress, row.key = (args.deviceId, args.seq.value.toNat) ∧ row.kind = args.kind) ∧
      (status = .inserted → db.ingress.find (args.deviceId, args.seq.value.toNat) = none) := by
  rcases (acceptIngress_cases h).2.2 with ⟨rfl, rfl, _, existing, member, same, agrees⟩ | ⟨_, absent, attempt, _⟩
  · simp only [sameRecord, Bool.and_eq_true, decide_eq_true_eq] at agrees
    exact ⟨⟨existing, member, same, agrees.1.2⟩, fun impossible => by cases impossible⟩
  · exact ⟨⟨args.row now, (insertIngress_members attempt _).mpr (Or.inr rfl), rfl, rfl⟩, fun _ => absent⟩

theorem accept_lasts {order : MapOrder Number} (answer : Except StoreError Result)
    (h : Source.IngressStore.accept order project record now db rest = (db', rest', answer)) : Lasts db db' := by
  unfold Source.IngressStore.accept at h
  split at h
  · cases h
    exact fun _ member _ => member
  · split at h
    · cases h
      exact fun _ member _ => member
    · next journal others status row stored =>
      obtain ⟨_, _, stored⟩ := bind_success stored
      obtain ⟨_, _, stored⟩ := bind_success stored
      cases h
      exact lasts_of_extends (acceptIngress_extends stored)

/-- The answers of `Accept`: the record is in the journal, and was not if the
answer is `inserted`. -/
theorem accept_stores {order : MapOrder Number} {result : Result} (fits : record.seq < 2 ^ 64)
    (unpruned : record.kind ≠ "DeviceState")
    (h : Source.IngressStore.accept order project record now db rest = (db', rest', .ok result)) :
    Kept db' record.deviceId record.seq ∧
      (result.status = .inserted → ¬ Kept db record.deviceId record.seq) := by
  obtain ⟨args, status, row, _, device, seq, sameKind, stored, rfl⟩ := accept_ok fits h
  obtain ⟨⟨held, member, key, kind⟩, absent⟩ := acceptIngress_stores stored
  rw [device, seq] at key absent
  refine ⟨⟨held, member, key, by rw [kind, sameKind]; exact unpruned⟩, fun inserted => ?_⟩
  rintro ⟨row, inTable, taken, _⟩
  cases status with
  | inserted => exact Table.find_eq_none_iff.mp (absent rfl) row inTable taken
  | duplicate => cases inserted

end Journal

/-! ## The sessions -/

section Sessions

variable {σ : Type} {setting : Setting σ} {system : System setting} {seq : Nat}

theorem acceptStep_lasts (offer : Offer setting.queue) (order : MapOrder Number) (now : Timestamp) :
    Lasts system.cloud.journal (acceptStep offer order now system).cloud.journal := by
  unfold acceptStep
  split
  · exact fun _ member _ => member
  · exact fun _ member _ => member
  · next answer => exact accept_lasts _ answer

theorem buryStep_lasts {index : Nat} {offer : Offer setting.queue} {reason recordedAt : String}
    {now : Timestamp} :
    Lasts system.cloud.journal (buryStep index offer reason now recordedAt system).cloud.journal := by
  show Lasts _ (recordUnstorable _ reason now recordedAt system.cloud.journal).1
  rcases @recordUnstorable_journal { recordOf setting.device offer.envelope offer.seq with payload := none }
    reason recordedAt now system.cloud.journal (Offer.fits offer) with ⟨id, _, _, _, written⟩ | ⟨_, same⟩
  · rw [written]
    split
    · next stored => exact lasts_of_extends (insertIngress_extends stored)
    · exact fun _ member _ => member
  · rw [same]
    exact fun _ member _ => member

theorem proceed_lasts (index : Nat) (now : Timestamp) (recordedAt : String) :
    Lasts system.cloud.journal (proceed index now recordedAt system).cloud.journal := by
  have unwritten : ∀ {next : System setting}, next.cloud.journal = system.cloud.journal →
      Lasts system.cloud.journal next.cloud.journal := by
    intro next same row member _
    rwa [same]
  unfold proceed
  split
  · exact unwritten rfl
  · exact unwritten rfl
  · exact unwritten rfl
  · unfold recordStep
    split
    · exact unwritten rfl
    · split
      · exact unwritten rfl
      · exact unwritten rfl
  · unfold settleStep
    dsimp only
    split
    · exact unwritten rfl
    · exact unwritten rfl
  · exact buryStep_lasts
  · unfold countStep
    split
    · exact unwritten rfl
    · exact unwritten rfl
  · exact unwritten rfl

theorem step_lasts (event : Event setting.queue) :
    Lasts system.cloud.journal (Source.SessionSteps.step system event).cloud.journal := by
  cases event with
  | resume =>
    show Lasts _ (resumeStep system).cloud.journal
    unfold resumeStep
    split
    · exact fun _ member _ => member
    · exact fun _ member _ => member
  | offer offer order now => exact acceptStep_lasts offer order now
  | proceed index now recordedAt => exact proceed_lasts index now recordedAt
  | lose index => exact fun _ member _ => member
  | crash => exact fun _ member _ => member
  | command op => exact fun _ member _ => member
  | journal op =>
    show Lasts _ (System.cloud (if _ then _ else _)).journal
    split
    · intro row member unpruned
      exact run_keeps setting.project setting.minus (system.cloud.journal, system.cloud.rest) [op] member
        unpruned
    · exact fun _ member _ => member

/-- The session has the result in hand. -/
def carries (seq : Nat) (stage : Stage setting.queue) : Bool :=
  (carried stage).any fun offer => decide (offer.seq = seq)

/-- How many sessions have the result in hand. -/
def inHand (system : System setting) (seq : Nat) : Nat := system.sessions.countP (carries seq)

/-- `Accept` took a copy of the result. -/
def takes (seq : Nat) (answer : Option (Offer setting.queue × Status)) : Nat :=
  answer.toList.countP fun taken =>
    decide (taken.1.seq = seq) && decide (taken.1.envelope.kind = "CommandResult")

def tells (seq : Nat) (notices : List (Notice setting.queue)) : Nat :=
  notices.countP fun notice => decide (notice.offer.seq = seq)

theorem countP_of_getElem? {α : Type} {items : List α} {index : Nat} {item : α} (p : α → Bool)
    (at_ : items[index]? = some item) :
    items.countP p = (items.eraseIdx index).countP p + if p item then 1 else 0 := by
  obtain ⟨within, rfl⟩ := List.getElem?_eq_some_iff.mp at_
  rw [← (List.getElem_cons_eraseIdx_perm within).countP_eq p, List.countP_cons]

/-- A session that goes on changes what it has in hand only. -/
theorem inHand_replace {next : System setting} {index : Nat} {stage : Stage setting.queue}
    {after : Option (Stage setting.queue)} (at_ : system.sessions[index]? = some stage)
    (sessions : next.sessions = after.toList ++ system.sessions.eraseIdx index) :
    inHand next seq + (if carries seq stage then 1 else 0) =
      inHand system seq + after.toList.countP (carries seq) := by
  unfold inHand
  rw [sessions, List.countP_append, countP_of_getElem? (carries seq) at_]
  omega

theorem inHand_done {next : System setting} {index : Nat} {stage : Stage setting.queue}
    (at_ : system.sessions[index]? = some stage)
    (sessions : next.sessions = system.sessions.eraseIdx index) : inHand next seq ≤ inHand system seq := by
  have moved := @inHand_replace σ setting system seq next index stage none at_ sessions
  simp only [Option.toList_none, List.countP_nil] at moved
  omega

end Sessions

/-! ## What a step can do -/

section Steps

variable {σ : Type} {setting : Setting σ} {system : System setting} {seq : Nat}

theorem inHand_enter (stage : Stage setting.queue) :
    inHand (system.enter stage) seq = inHand system seq + if carries seq stage then 1 else 0 :=
  List.countP_cons

/-- What `Accept` takes, a session has in hand. -/
theorem acceptStep_inHand (offer : Offer setting.queue) (order : MapOrder Number) (now : Timestamp) :
    inHand (acceptStep offer order now system) seq =
      inHand system seq + takes seq (answered system (.offer offer order now)) := by
  unfold acceptStep answered
  dsimp only
  split
  · next refused =>
    rw [refused, inHand_enter]
    rfl
  · next err _ failed =>
    rw [failed]
    rfl
  · next journal rest result stored =>
    rw [stored]
    dsimp only
    rw [inHand_enter]
    show inHand system seq + _ = _
    simp only [carries, carried, takes, Option.toList_some, List.countP_cons, List.countP_nil]
    by_cases isResult : offer.envelope.kind = "CommandResult"
    · simp [isResult]
    · simp [isResult]

theorem acknowledgeStep_inHand {index : Nat} {offer : Offer setting.queue} {window : Window}
    (at_ : system.sessions[index]? = some (.stored offer window)) :
    inHand (acknowledgeStep index offer window system) seq = inHand system seq := by
  have moved := @inHand_replace σ setting system seq (acknowledgeStep index offer window system) index
    (.stored offer window) _ at_ rfl
  by_cases isResult : offer.envelope.kind = "CommandResult"
  · simp only [carries, carried, isResult, if_true, Option.toList_some, List.countP_cons,
      List.countP_nil, Option.any_some, decide_eq_true_eq] at moved
    omega
  · simp only [carries, carried, isResult, if_false, Option.any_none, Bool.false_eq_true,
      Option.toList_none, List.countP_nil] at moved
    omega

/-- A notice leaves the session's hands with the result it is about. -/
theorem recordStep_inHand {index : Nat} {offer : Offer setting.queue} {now : Timestamp}
    (at_ : system.sessions[index]? = some (.acknowledged offer)) :
    inHand (recordStep index offer now system) seq + tells seq (resultNotice offer now system).toList ≤
      inHand system seq := by
  have gone : ∀ {next : System setting} {after : Option (Stage setting.queue)},
      next.sessions = after.toList ++ system.sessions.eraseIdx index →
      after.toList.countP (carries seq) = 0 →
      inHand next seq + (if offer.seq = seq then 1 else 0) = inHand system seq := by
    intro next after sessions idle
    have moved := @inHand_replace σ setting system seq next index (.acknowledged offer) after at_ sessions
    simp only [carries, carried, Option.any_some, decide_eq_true_eq] at moved
    omega
  have told : tells seq (resultNotice offer now system).toList ≤ if offer.seq = seq then 1 else 0 := by
    unfold resultNotice
    split
    · exact Nat.zero_le _
    · split
      · exact Nat.zero_le _
      · split
        · exact Nat.zero_le _
        · simp [tells, List.countP_cons]
  refine Nat.le_trans (Nat.add_le_add_left told _) ?_
  unfold recordStep
  split
  · exact Nat.le_of_eq (@gone _ none rfl rfl)
  · split
    · exact Nat.le_of_eq (@gone _ none rfl rfl)
    · exact Nat.le_of_eq (@gone _ (some (.recorded _)) rfl rfl)

theorem proceed_inHand (index : Nat) (now : Timestamp) (recordedAt : String) :
    inHand (proceed index now recordedAt system) seq +
        tells seq (announced system (.proceed index now recordedAt)).toList ≤ inHand system seq := by
  unfold proceed announced
  dsimp only
  cases at_ : system.sessions[index]? with
  | none => exact Nat.le_refl _
  | some stage =>
    cases stage with
    | resuming window => exact inHand_done at_ rfl
    | stored offer window => exact Nat.le_of_eq (acknowledgeStep_inHand at_)
    | acknowledged offer => exact recordStep_inHand at_
    | recorded result =>
      dsimp only
      unfold settleStep
      dsimp only
      split
      · exact inHand_done at_ rfl
      · exact inHand_done at_ rfl
    | refused offer reason =>
      exact Nat.le_of_eq (@inHand_replace σ setting system seq _ index (.refused offer reason)
        (some .buried) at_ rfl)
    | buried =>
      dsimp only
      unfold countStep
      split
      · exact inHand_done at_ rfl
      · next window _ =>
        exact Nat.le_of_eq (@inHand_replace σ setting system seq _ index .buried (some (.counted window))
          at_ rfl)
    | counted window => exact inHand_done at_ rfl

/-- Only `Accept` puts a result into a session's hands, and a notice is paid with
one that was there. -/
theorem step_inHand (event : Event setting.queue) :
    inHand (Source.SessionSteps.step system event) seq + tells seq (announced system event).toList ≤
      inHand system seq + takes seq (answered system event) := by
  cases event with
  | resume =>
    show inHand (resumeStep system) seq ≤ _
    unfold resumeStep
    split
    · exact Nat.le_refl _
    · rw [inHand_enter]
      exact Nat.le_refl _
  | offer offer order now => exact Nat.le_of_eq (acceptStep_inHand offer order now)
  | proceed index now recordedAt => exact proceed_inHand index now recordedAt
  | lose index => exact (List.eraseIdx_sublist system.sessions index).countP_le
  | crash => exact Nat.zero_le _
  | command op => exact Nat.le_refl _
  | journal op =>
    show inHand (if _ then _ else _) seq ≤ _
    split
    · exact Nat.le_refl _
    · exact Nat.le_refl _

/-- What `Accept` took is in the journal, and was not if it said `inserted`. -/
theorem answered_stores {event : Event setting.queue} {offer : Offer setting.queue} {status : Status}
    (unpruned : offer.envelope.kind ≠ "DeviceState") (answer : answered system event = some (offer, status)) :
    Kept (Source.SessionSteps.step system event).cloud.journal setting.device.deviceId offer.seq ∧
      (status = .inserted → ¬ Kept system.cloud.journal setting.device.deviceId offer.seq) := by
  cases event with
  | offer taken order now =>
    unfold answered at answer
    dsimp only at answer
    split at answer
    · next journal rest result stored =>
      cases answer
      obtain ⟨kept, absent⟩ := accept_stores (Offer.fits offer) unpruned stored
      refine ⟨?_, absent⟩
      show Kept (acceptStep offer order now system).cloud.journal _ _
      unfold acceptStep
      rw [stored]
      exact kept
    · cases answer
  | resume => cases answer
  | proceed index now recordedAt => cases answer
  | lose index => cases answer
  | crash => cases answer
  | command op => cases answer
  | journal op => cases answer

end Steps

/-! ## Runs -/

section Runs

variable {σ : Type} {setting : Setting σ} {state : Watched setting}

/-- The record reads as a result other than `succeeded`. -/
def Failing (offer : Offer setting.queue) : Prop :=
  ∃ result, resultOf setting.float offer.envelope = .ok result ∧ result.status ≠ "succeeded"

/-- The notices raised of a record, and the sessions that may raise another. -/
def weight (state : Watched setting) (seq : Nat) : Nat :=
  inHand state.system seq + tells seq state.notices

/-- `Accept` takes a copy of a stored failure only when no notice of it was raised
and no other session has it in hand. -/
def Unrepeated (state : Watched setting) : Moment setting.queue → Prop
  | .event event => ∀ offer, answered state.system event = some (offer, .duplicate) →
    offer.envelope.kind = "CommandResult" → Failing offer → weight state offer.seq = 0
  | .cutOff _ _ => True

theorem step_weight (moment : Moment setting.queue) (seq : Nat) :
    weight (state.step moment) seq ≤ weight state seq ∨
      ∃ event offer status, moment = .event event ∧ answered state.system event = some (offer, status) ∧
        offer.seq = seq ∧ offer.envelope.kind = "CommandResult" ∧
        weight (state.step moment) seq ≤ weight state seq + 1 := by
  cases moment with
  | cutOff index now =>
    refine Or.inl ?_
    show 0 + tells seq state.notices ≤ _
    unfold weight
    omega
  | event event =>
    have grows : weight (state.step (.event event)) seq ≤
        weight state seq + takes seq (answered state.system event) := by
      have moved := @step_inHand σ setting state.system seq event
      show inHand (Source.SessionSteps.step state.system event) seq +
        tells seq ((announced state.system event).toList ++ state.notices) ≤ _
      unfold weight
      unfold tells at moved ⊢
      rw [List.countP_append]
      omega
    cases answer : answered state.system event with
    | none =>
      rw [answer] at grows
      exact Or.inl grows
    | some taken =>
      obtain ⟨offer, status⟩ := taken
      rw [answer] at grows
      by_cases own : offer.seq = seq ∧ offer.envelope.kind = "CommandResult"
      · refine Or.inr ⟨event, offer, status, rfl, answer, own.1, own.2, ?_⟩
        simpa [takes, own.1, own.2] using grows
      · refine Or.inl ?_
        have foreign : takes seq (some (offer, status)) = 0 := by
          simp only [takes, Option.toList_some, List.countP_singleton, Bool.and_eq_true,
            decide_eq_true_eq, if_neg own]
        rw [foreign] at grows
        exact grows

theorem step_kept (moment : Moment setting.queue) {seq : Nat}
    (kept : Kept state.system.cloud.journal setting.device.deviceId seq) :
    Kept (state.step moment).system.cloud.journal setting.device.deviceId seq := by
  cases moment with
  | event event => exact (step_lasts event).kept kept
  | cutOff index now => exact (step_lasts (.proceed index now "")).kept kept

/-- A notice is about a failure, and of a failure there is one notice or one session
that may raise it, once it is stored. -/
structure Sound (state : Watched setting) : Prop where
  failing : ∀ notice ∈ state.notices, Failing notice.offer
  single : ∀ offer : Offer setting.queue, Failing offer → weight state offer.seq ≤ 1
  kept : ∀ offer : Offer setting.queue, Failing offer → 0 < weight state offer.seq →
    Kept state.system.cloud.journal setting.device.deviceId offer.seq

theorem announced_failing {system : System setting} {event : Event setting.queue}
    {notice : Notice setting.queue} (raised : announced system event = some notice) :
    Failing notice.offer := by
  unfold announced at raised
  split at raised
  · split at raised
    · unfold resultNotice at raised
      split at raised
      · cases raised
      · next result read =>
        split at raised
        · cases raised
        · split at raised
          · cases raised
          · next failed =>
            cases raised
            exact ⟨result, read, failed⟩
    · cases raised
  · cases raised

theorem step_sound (sound : Sound state) {moment : Moment setting.queue}
    (unrepeated : Unrepeated state moment) : Sound (state.step moment) := by
  have bounded : ∀ offer : Offer setting.queue, Failing offer →
      weight (state.step moment) offer.seq ≤ 1 ∧ (0 < weight (state.step moment) offer.seq →
        Kept (state.step moment).system.cloud.journal setting.device.deviceId offer.seq) := by
    intro offer failing
    have before := sound.single offer failing
    rcases @step_weight σ setting state moment offer.seq with
      lighter | ⟨event, taken, status, rfl, answer, same, isResult, heavier⟩
    · exact ⟨by omega, fun held => step_kept moment (sound.kept offer failing (by omega))⟩
    · obtain rfl : taken = offer := Offer.eq_of_seq same
      obtain ⟨stored, absent⟩ := answered_stores (by rw [isResult]; decide) answer
      have idle : weight state taken.seq = 0 := by
        cases status with
        | duplicate => exact unrepeated taken answer isResult failing
        | inserted =>
          by_contra held
          exact absent rfl (sound.kept taken failing (Nat.pos_of_ne_zero held))
      exact ⟨by omega, fun _ => stored⟩
  refine ⟨?_, fun offer failing => (bounded offer failing).1, fun offer failing => (bounded offer failing).2⟩
  cases moment with
  | cutOff index now => exact sound.failing
  | event event =>
    intro notice member
    rcases List.mem_append.mp member with raised | old
    · exact announced_failing (Option.mem_toList.mp raised)
    · exact sound.failing notice old

theorem start_sound (cloud : Cloud σ) : Sound (Watched.start setting cloud) :=
  ⟨List.forall_mem_nil _, fun _ _ => Nat.zero_le _, fun _ _ held => absurd held (Nat.lt_irrefl 0)⟩

/-- From every state of the database, in every run in which no copy of a failure is
taken beside a notice or another session's copy: one notice for a record at most. -/
theorem failure_announced_once (cloud : Cloud σ) (moments : List (Moment setting.queue))
    (unrepeated : Guarded Watched.step Unrepeated (Watched.start setting cloud) moments) (seq : Nat) :
    tells seq (moments.foldl Watched.step (Watched.start setting cloud)).notices ≤ 1 := by
  have sound : Sound (moments.foldl Watched.step (Watched.start setting cloud)) :=
    foldl_guarded (P := Sound) (fun _ _ before fits => step_sound before fits) _ (start_sound cloud)
      moments unrepeated
  rcases Nat.eq_zero_or_pos (tells seq (moments.foldl Watched.step (Watched.start setting cloud)).notices) with
    silent | told
  · omega
  · obtain ⟨notice, member, same⟩ := List.countP_pos_iff.mp told
    have single := sound.single notice.offer (sound.failing notice member)
    rw [of_decide_eq_true same] at single
    unfold weight at single
    omega

/-- The device's answer to command 3 is that it failed. -/
def failureEnvelope : Envelope :=
  { answerEnvelope with
    payload := some (.obj [(chars "cmd_id", .str (chars "00000000-0000-0000-0000-000000000003")),
      (chars "status", .str (chars "failed")), (chars "completed_at", .num 0 none),
      (chars "attempts", .num 1 none), (chars "reason", .str (chars "no signal")),
      (chars "reason_code", .str (chars "timeout"))]) }

/-- The only record the device has numbered. -/
def oneFailure : Queue where
  record seq := if seq = 1 then some failureEnvelope else none
  sequenced := by
    intro seq envelope known
    split at known
    · cases known
      decide
    · cases known
  numbered := by
    intro seq envelope known
    split at known
    · next first =>
      cases known
      subst first
      decide
    · cases known

def theFailure : Offer oneFailure := ⟨1, failureEnvelope, rfl⟩

theorem offer_first (offer : Offer oneFailure) : offer.seq = 1 := by
  by_contra other
  have known := offer.known
  rw [show oneFailure.record offer.seq = none from if_neg other] at known
  cases known

def failingDevice : Setting Unit := { oneDevice with queue := oneFailure }

def watch (moments : List (Moment oneFailure)) : Watched failingDevice :=
  moments.foldl Watched.step (Watched.start failingDevice freshCloud)

/-- A session takes the record and goes on until it has settled it. -/
def wholeTurn (now : Timestamp) : List (Moment oneFailure) :=
  [.event (.offer theFailure .forwards now), .event (.proceed 0 now ""), .event (.proceed 0 now ""),
    .event (.proceed 0 now "")]

/-- The session is lost before `RecordResult`, and the device sends the record again. -/
def recoveredRun : List (Moment oneFailure) :=
  [.event (.command askOnce), .event (.offer theFailure .forwards 10), .event (.lose 0)] ++ wholeTurn 20

/-- The ack of the first turn never reaches the device, which reconnects and sends
the record again. -/
def replayedRun : List (Moment oneFailure) :=
  [.event (.command askOnce)] ++ wholeTurn 10 ++ [.event .resume, .event (.proceed 0 20 "")] ++ wholeTurn 30

theorem unrepeated_unasked {state : Watched failingDevice} {event : Event oneFailure}
    (unasked : answered state.system event = none) : Unrepeated state (.event event) := by
  intro offer answer
  rw [unasked] at answer
  cases answer

theorem unrepeated_idle {state : Watched failingDevice} {moment : Moment oneFailure}
    (idle : weight state 1 = 0) : Unrepeated state moment := by
  cases moment with
  | cutOff index now => trivial
  | event event =>
    intro offer _ _ _
    rw [offer_first offer]
    exact idle

theorem recovered_failure_announced :
    Guarded Watched.step Unrepeated (Watched.start failingDevice freshCloud) recoveredRun ∧
    (watch recoveredRun).accepted.map Prod.snd = [.duplicate, .inserted] ∧
    (watch recoveredRun).notices.length = 1 ∧
    tells 1 (watch recoveredRun).notices ≤ 1 := by
  have unrepeated : Guarded Watched.step Unrepeated (Watched.start failingDevice freshCloud) recoveredRun :=
    ⟨unrepeated_unasked rfl, unrepeated_idle (by decide +kernel), unrepeated_unasked rfl,
      unrepeated_idle (by decide +kernel), unrepeated_unasked rfl, unrepeated_unasked rfl,
      unrepeated_unasked rfl, trivial⟩
  exact ⟨unrepeated, by decide +kernel, by decide +kernel,
    @failure_announced_once Unit failingDevice freshCloud recoveredRun unrepeated 1⟩

/-- The replayed copy is a duplicate, the command is over since the first one, and
the operators are told again. -/
theorem replayed_failure_announced_twice :
    (watch replayedRun).accepted.map Prod.snd = [.duplicate, .inserted] ∧
    (watch replayedRun).notices.map Notice.event =
      List.replicate 2 ⟨"command.failed", uuidOut failingDevice.device.tenantId, "命令执行失败", "no signal timeout"⟩ ∧
    ¬ ∀ seq, tells seq (watch replayedRun).notices ≤ 1 := by
  refine ⟨by decide +kernel, by decide +kernel, fun once => ?_⟩
  have twice : tells 1 (watch replayedRun).notices = 2 := by decide +kernel
  have single := once 1
  rw [twice] at single
  exact absurd single (by decide)


/-! ## The guard of `OnAlert` -/

/-- How often `Accept` said `inserted` of a record. -/
def insertions (state : Watched setting) (seq : Nat) : Nat :=
  state.accepted.countP fun answer => decide (answer.1.seq = seq) && decide (answer.2 = .inserted)

/-- What was inserted is in the journal and was inserted once. -/
def InsertedOnce (state : Watched setting) : Prop :=
  ∀ offer : Offer setting.queue, offer.envelope.kind ≠ "DeviceState" →
    insertions state offer.seq ≤ 1 ∧ (0 < insertions state offer.seq →
      Kept state.system.cloud.journal setting.device.deviceId offer.seq)

theorem step_insertedOnce (moment : Moment setting.queue) (before : InsertedOnce state) :
    InsertedOnce (state.step moment) := by
  intro offer unpruned
  obtain ⟨single, kept⟩ := before offer unpruned
  have lasting : 0 < insertions state offer.seq →
      Kept (state.step moment).system.cloud.journal setting.device.deviceId offer.seq :=
    fun held => step_kept moment (kept held)
  cases moment with
  | cutOff index now => exact ⟨single, lasting⟩
  | event event =>
    have grown : insertions (state.step (.event event)) offer.seq =
        (answered state.system event).toList.countP
          (fun answer => decide (answer.1.seq = offer.seq) && decide (answer.2 = .inserted)) +
        insertions state offer.seq := List.countP_append
    cases answer : answered state.system event with
    | none =>
      rw [answer] at grown
      simp only [Option.toList_none, List.countP_nil, Nat.zero_add] at grown
      rw [grown]
      exact ⟨single, lasting⟩
    | some taken =>
      obtain ⟨other, status⟩ := taken
      rw [answer] at grown
      by_cases own : other.seq = offer.seq ∧ status = .inserted
      · obtain ⟨same, rfl⟩ := own
        obtain rfl : other = offer := Offer.eq_of_seq same
        obtain ⟨stored, absent⟩ := answered_stores unpruned answer
        have first : insertions state other.seq = 0 := by
          by_contra held
          exact absent rfl (kept (Nat.pos_of_ne_zero held))
        simp only [Option.toList_some, List.countP_singleton, decide_true, Bool.and_self, if_true, first]
          at grown
        exact ⟨by omega, fun _ => stored⟩
      · simp only [Option.toList_some, List.countP_singleton, Bool.and_eq_true, decide_eq_true_eq,
          if_neg own, Nat.zero_add] at grown
        rw [grown]
        exact ⟨single, lasting⟩

/-- In every run `Accept` says `inserted` of a record once at most, whatever is
replayed, lost or cut off: what asks for it first is called once at most. -/
theorem record_inserted_once (cloud : Cloud σ) (moments : List (Moment setting.queue))
    {offer : Offer setting.queue} (unpruned : offer.envelope.kind ≠ "DeviceState") :
    insertions (moments.foldl Watched.step (Watched.start setting cloud)) offer.seq ≤ 1 := by
  have start : InsertedOnce (Watched.start setting cloud) :=
    fun _ _ => ⟨Nat.zero_le _, fun held => absurd held (Nat.lt_irrefl 0)⟩
  refine (foldl_rel (R := fun a b => InsertedOnce a → InsertedOnce b) (fun _ kept => kept)
    (fun _ _ _ first second kept => second (first kept)) ?_ _ moments start offer unpruned).1
  exact fun state moment kept => step_insertedOnce moment kept

theorem replayed_record_inserted_once :
    insertions (watch replayedRun) 1 = 1 ∧ insertions (watch replayedRun) 1 ≤ 1 :=
  ⟨by decide +kernel, @record_inserted_once Unit failingDevice freshCloud replayedRun theFailure (by decide)⟩

end Runs

end VodogeCloud.Guarantees.FailureNotices
