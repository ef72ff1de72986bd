import VodogeCloud.Guarantees.AcceptedRecords
import VodogeCloud.Guarantees.ResultReplay
import VodogeCloud.Source.DeliveryReports
import VodogeCloud.Source.OutboundSends

/-!
# The fate of a sent message and the order of arrival

A report finds its message through the reference that the result of the command
writes, so a report that is accepted before the result is lost; and of two reports
that decide the last one accepted stands, whatever their times. The message ends
the same in every order only when no report decides, or when the result has nothing
left to write and the reports that decide agree.
-/

set_option autoImplicit false

namespace VodogeCloud.Guarantees.DeliveryOrder

open VodogeCloud.Lib VodogeCloud.Lib.Transactions
open VodogeCloud.Source.Postgres VodogeCloud.Source.CommandTables VodogeCloud.Source.CommandLifecycle
open VodogeCloud.Source.DeviceProjection VodogeCloud.Source.DeliveryReports
open VodogeCloud.Source.IngressWindow (IngressRow)
open VodogeCloud.Source.OutboundSends (Outbound recordOutbound)
open VodogeCloud.Guarantees.ResultReplay
open VodogeCloud.Guarantees.AcceptedRecords (plainCasts)

/-! ## One message -/

/-- What the records can change of a message. `carries` tells whether it has the
reference of the reports. -/
structure Fate where
  status : MessageStatus
  deliveredAt : Option Timestamp
  carries : Bool
  deriving DecidableEq, Repr

/-- What the result does to its message. `late` tells whether the command is expired
or cancelled once the result is recorded. -/
structure Settling where
  succeeded : Bool
  fits : Bool
  late : Bool
  deriving DecidableEq, Repr

/-- An arrival as the message sees it. -/
inductive Word where
  | settles
  | tells (outcome : Option Outcome)
  deriving DecidableEq, Repr

def Word.decides : Word → Option Outcome
  | .settles => none
  | .tells outcome => outcome

namespace Settling

variable (settling : Settling)

def status : MessageStatus := if settling.succeeded then .sent else .failed

/-- `SettleOutbound` reaches the message. -/
def hits (fate : Fate) : Bool :=
  settling.fits && (fate.status = .queued || (fate.status = .failed && settling.late))

def settle (fate : Fate) : Fate :=
  if settling.hits fate then
    { fate with
      status :=
        if fate.status = .queued then settling.status
        else if settling.status = .sent then .sent else fate.status
      carries := true }
  else fate

end Settling

/-- The outcome, written to the message. -/
def Fate.end_ (fate : Fate) (outcome : Outcome) : Fate :=
  { fate with status := outcome.status, deliveredAt := outcome.deliveredAt fate.deliveredAt }

def Fate.tell (fate : Fate) : Option Outcome → Fate
  | none => fate
  | some outcome => if fate.carries then fate.end_ outcome else fate

def Settling.step (settling : Settling) (fate : Fate) : Word → Fate
  | .settles => settling.settle fate
  | .tells outcome => fate.tell outcome

section Words

variable {settling : Settling} {fate : Fate} {words : List Word}

theorem settle_settle : settling.settle (settling.settle fate) = settling.settle fate := by
  obtain ⟨status, deliveredAt, carries⟩ := fate
  obtain ⟨succeeded, fits, late⟩ := settling
  cases status <;> cases succeeded <;> cases fits <;> cases late <;> rfl

/-- An outcome is not settled again. -/
theorem settle_end (outcome : Outcome) :
    settling.settle (fate.end_ outcome) = fate.end_ outcome := by
  cases outcome <;> simp [Settling.settle, Settling.hits, Fate.end_, Outcome.status]

theorem end_end (outcome : Outcome) : (fate.end_ outcome).end_ outcome = fate.end_ outcome := by
  cases outcome <;> rfl

/-- A message that the result reaches ends up sent or failed. -/
theorem settle_status (reached : settling.hits fate = true) :
    (settling.settle fate).status = .sent ∨ (settling.settle fate).status = .failed := by
  rw [Settling.settle, if_pos reached]
  simp only [Settling.hits, Bool.and_eq_true, Bool.or_eq_true, decide_eq_true_eq] at reached
  unfold Settling.status
  rcases reached.2 with queued | ⟨failed, _⟩
  · cases settling.succeeded <;> simp [queued]
  · cases settling.succeeded <;> simp [failed]

theorem settle_delivered (delivered : (settling.settle fate).status = .delivered) :
    fate.status = .delivered := by
  cases reached : settling.hits fate with
  | true =>
    rcases settle_status reached with sent | failed
    · rw [sent] at delivered
      cases delivered
    · rw [failed] at delivered
      cases delivered
  | false => rwa [Settling.settle, if_neg (by simp [reached])] at delivered

theorem carries_settle (carries : fate.carries = true) : (settling.settle fate).carries = true := by
  unfold Settling.settle
  split
  · rfl
  · exact carries

/-- An outcome overwrites what the result wrote. -/
theorem end_settle (carries : fate.carries = true) (outcome : Outcome) :
    (settling.settle fate).end_ outcome = fate.end_ outcome := by
  unfold Settling.settle
  split
  · simp [Fate.end_, carries]
  · rfl

/-- Some word decides. -/
def decided (words : List Word) : Bool := words.any fun word => word.decides.isSome

theorem decided_concat (words : List Word) (last : Word) :
    decided (words ++ [last]) = (decided words || last.decides.isSome) := by
  simp [decided]

/-- The fate after words that decide nothing or the given outcome. -/
def Settling.after (settling : Settling) (fate : Fate) (outcome : Outcome) (words : List Word) : Fate :=
  if decided words then fate.end_ outcome
  else if Word.settles ∈ words then settling.settle fate
  else fate

/-- The outcome overwrites whatever came before it. -/
theorem after_tell (outcome : Outcome) (carries : fate.carries = true) :
    (settling.after fate outcome words).tell (some outcome) = fate.end_ outcome := by
  unfold Settling.after
  split
  · rw [Fate.tell, if_pos (show (fate.end_ outcome).carries = true from carries), end_end]
  · split
    · rw [Fate.tell, if_pos (carries_settle carries), end_settle carries]
    · rw [Fate.tell, if_pos carries]

theorem settle_after (outcome : Outcome) :
    settling.settle (settling.after fate outcome words) =
      if decided words then fate.end_ outcome else settling.settle fate := by
  unfold Settling.after
  cases decided words with
  | true => exact settle_end outcome
  | false =>
    simp only [Bool.false_eq_true, if_false]
    split
    · exact settle_settle
    · rfl

/-- The words of a message, when those that decide agree and are heard. -/
theorem foldl_step (outcome : Outcome)
    (agree : ∀ word ∈ words, ∀ told, word.decides = some told → told = outcome)
    (heard : fate.carries = true ∨ ∀ word ∈ words, word.decides = none) :
    words.foldl settling.step fate = settling.after fate outcome words := by
  induction words using List.reverseRecOn with
  | nil => rfl
  | append_singleton words last ih =>
    rw [List.foldl_append, List.foldl_cons, List.foldl_nil,
      ih (fun word member => agree word (List.mem_append_left _ member))
        (heard.imp_right fun silent word member => silent word (List.mem_append_left _ member)),
      Settling.after.eq_def settling fate outcome (words ++ [last]), decided_concat]
    cases last with
    | settles =>
      rw [Settling.step, settle_after]
      simp [Word.decides]
    | tells told =>
      cases told with
      | none => simp [Settling.after, Word.decides, Settling.step, Fate.tell]
      | some told =>
        have same : told = outcome := agree (.tells (some told)) (by simp) told rfl
        have carries : fate.carries = true := by
          refine heard.resolve_right fun silent => ?_
          have quiet := silent (.tells (some told)) (by simp)
          cases quiet
        subst same
        rw [Settling.step, after_tell told carries]
        simp [Word.decides]

/-- A message that carries no reference and that the result does not reach stays as
it is. -/
theorem foldl_step_unheard (deaf : fate.carries = false) (missed : settling.hits fate = false) :
    words.foldl settling.step fate = fate := by
  induction words with
  | nil => rfl
  | cons word rest ih =>
    have still : settling.step fate word = fate := by
      cases word with
      | settles => simp [Settling.step, Settling.settle, missed]
      | tells outcome => cases outcome <;> simp [Settling.step, Fate.tell, deaf]
    rw [List.foldl_cons, still]
    exact ih

/-! ### Every order of the same words -/

/-- What an operator sees. -/
def Fate.shown (fate : Fate) : MessageStatus × Option Timestamp := (fate.status, fate.deliveredAt)

/-- The result and the reports, in this order. -/
def inOrder (outcomes : List (Option Outcome)) : List Word := .settles :: outcomes.map .tells

def SameEnd (settling : Settling) (fate : Fate) (words : List Word) : Prop :=
  ∀ first second : List Word, first.Perm words → second.Perm words →
    (first.foldl settling.step fate).shown = (second.foldl settling.step fate).shown

def StaysEnded (settling : Settling) (fate : Fate) (words : List Word) : Prop :=
  ∀ before between after : List Word, (before ++ between ++ after).Perm words →
    (before.foldl settling.step fate).status = .delivered →
      ((before ++ between).foldl settling.step fate).status ≠ .undelivered ∧
        ((before ++ between).foldl settling.step fate).status ≠ .sent

/-- Either the message has its reference, and the reports that decide agree with
each other and with a message that was delivered; or the result does not reach the
message; or no report decides. -/
def OrderSafe (settling : Settling) (fate : Fate) (outcomes : List (Option Outcome)) : Prop :=
  if fate.carries then
    (∀ a b, some a ∈ outcomes → some b ∈ outcomes → a = b) ∧
      (fate.status = .delivered → some Outcome.undelivered ∉ outcomes)
  else settling.hits fate = true → ∀ outcome ∈ outcomes, outcome = none

variable {outcomes : List (Option Outcome)}

theorem decides_of_mem_inOrder {word : Word} {told : Outcome} (member : word ∈ inOrder outcomes)
    (decides : word.decides = some told) : some told ∈ outcomes := by
  rcases List.mem_cons.mp member with rfl | inReports
  · cases decides
  · obtain ⟨outcome, inOutcomes, rfl⟩ := List.mem_map.mp inReports
    rw [← decides]
    exact inOutcomes

/-- A safe order hears nothing, or hears one outcome. -/
theorem OrderSafe.cases (safe : OrderSafe settling fate outcomes) :
    (fate.carries = false ∧ settling.hits fate = false) ∨
    ∃ outcome, (∀ told, some told ∈ outcomes → told = outcome) ∧
      (fate.carries = true ∨ ∀ told, some told ∉ outcomes) ∧
      (fate.status = .delivered → some Outcome.undelivered ∉ outcomes) := by
  unfold OrderSafe at safe
  split at safe
  · next carries =>
    right
    by_cases decided : ∃ told, some told ∈ outcomes
    · obtain ⟨outcome, member⟩ := decided
      exact ⟨outcome, fun told inOutcomes => safe.1 told outcome inOutcomes member, Or.inl carries, safe.2⟩
    · have silent : ∀ told, some told ∉ outcomes := fun told member => decided ⟨told, member⟩
      exact ⟨.undelivered, fun told member => absurd member (silent told), Or.inl carries, safe.2⟩
  · next deaf =>
    have deaf : fate.carries = false := by simpa using deaf
    cases reached : settling.hits fate with
    | false => exact Or.inl ⟨deaf, rfl⟩
    | true =>
      right
      have silent : ∀ told, some told ∉ outcomes := by
        intro told member
        cases safe reached _ member
      exact ⟨.undelivered, fun told member => absurd member (silent told), Or.inr silent,
        fun _ => silent _⟩

/-- What `after` leaves delivered stays delivered. -/
theorem after_delivered {outcome : Outcome} {before between : List Word}
    (words : ∀ word ∈ before ++ between, word ∈ inOrder outcomes)
    (agree : ∀ told, some told ∈ outcomes → told = outcome)
    (kept : fate.status = .delivered → some Outcome.undelivered ∉ outcomes)
    (delivered : (settling.after fate outcome before).status = .delivered) :
    (settling.after fate outcome (before ++ between)).status = .delivered := by
  by_cases ended : decided before = true
  · have more : decided (before ++ between) = true := by
      unfold decided at ended ⊢
      rw [List.any_append, ended, Bool.true_or]
    rw [Settling.after, if_pos ended] at delivered
    rw [Settling.after, if_pos more]
    exact delivered
  · have start : fate.status = .delivered := by
      rw [Settling.after, if_neg ended] at delivered
      split at delivered
      · exact settle_delivered delivered
      · exact delivered
    unfold Settling.after
    split
    · next later =>
      obtain ⟨word, member, decides⟩ := List.any_eq_true.mp later
      obtain ⟨told, decides⟩ := Option.isSome_iff_exists.mp decides
      have inOutcomes := decides_of_mem_inOrder (words word member) decides
      have same := agree told inOutcomes
      subst same
      cases told with
      | delivered at_ => rfl
      | undelivered => exact absurd inOutcomes (kept start)
    · split
      · have missed : settling.hits fate = false := by simp [Settling.hits, start]
        simp [Settling.settle, missed, start]
      · exact start

theorem OrderSafe.converges (safe : OrderSafe settling fate outcomes) :
    SameEnd settling fate (inOrder outcomes) ∧ StaysEnded settling fate (inOrder outcomes) := by
  rcases safe.cases with ⟨deaf, missed⟩ | ⟨outcome, agree, heard, kept⟩
  · refine ⟨fun first second _ _ => ?_, fun before between after _ delivered => ?_⟩
    · rw [foldl_step_unheard deaf missed, foldl_step_unheard deaf missed]
    · rw [foldl_step_unheard deaf missed] at delivered ⊢
      rw [delivered]
      exact ⟨by decide, by decide⟩
  · have form : ∀ some_ : List Word, (∀ word ∈ some_, word ∈ inOrder outcomes) →
        some_.foldl settling.step fate = settling.after fate outcome some_ := by
      intro some_ inside
      refine foldl_step outcome ?_ (heard.imp_right fun silent word member => ?_)
      · exact fun word member told decides =>
          agree told (decides_of_mem_inOrder (inside word member) decides)
      · cases decides : word.decides with
        | none => rfl
        | some told => exact absurd (decides_of_mem_inOrder (inside word member) decides) (silent told)
    refine ⟨fun first second perm perm' => ?_, fun before between after perm delivered => ?_⟩
    · have same := perm.trans perm'.symm
      rw [form first fun word => perm.mem_iff.mp, form second fun word => perm'.mem_iff.mp]
      unfold Settling.after decided
      rw [same.any_eq]
      simp only [same.mem_iff]
    · have inside : ∀ word ∈ before ++ between, word ∈ inOrder outcomes :=
        fun word member => perm.mem_iff.mp (List.mem_append_left _ member)
      rw [form before fun word member => inside word (List.mem_append_left _ member)] at delivered
      rw [form _ inside, after_delivered inside agree kept delivered]
      exact ⟨by decide, by decide⟩

/-! ### Orders that differ -/

theorem carries_step (carries : fate.carries = true) (word : Word) :
    (settling.step fate word).carries = true := by
  cases word with
  | settles => exact carries_settle carries
  | tells outcome =>
    cases outcome with
    | none => exact carries
    | some outcome => rwa [Settling.step, Fate.tell, if_pos carries]

theorem carries_foldl (carries : fate.carries = true) :
    (words.foldl settling.step fate).carries = true := by
  induction words generalizing fate with
  | nil => exact carries
  | cons word rest ih => exact ih (carries_step carries word)

/-- Reports that come before the reference are lost. -/
theorem foldl_tells_unheard (deaf : fate.carries = false) (outcomes : List (Option Outcome)) :
    (outcomes.map Word.tells).foldl settling.step fate = fate := by
  induction outcomes with
  | nil => rfl
  | cons outcome rest ih =>
    have still : settling.step fate (.tells outcome) = fate := by
      cases outcome <;> simp [Settling.step, Fate.tell, deaf]
    rw [List.map_cons, List.foldl_cons, still]
    exact ih

/-- Reports that come after it leave an outcome. -/
theorem foldl_tells_decided (carries : fate.carries = true) {told : Outcome}
    (member : some told ∈ outcomes) :
    ∃ outcome : Outcome,
      ((outcomes.map Word.tells).foldl settling.step fate).status = outcome.status := by
  induction outcomes using List.reverseRecOn with
  | nil => cases member
  | append_singleton rest last ih =>
    rw [List.map_append, List.foldl_append]
    cases last with
    | some outcome =>
      refine ⟨outcome, ?_⟩
      simp [Settling.step, Fate.tell, carries_foldl carries, Fate.end_]
    | none =>
      have earlier : some told ∈ rest := by simpa using member
      exact ih earlier

theorem eq_of_end_end {a b : Outcome}
    (same : ((fate.end_ a).end_ b).shown = ((fate.end_ b).end_ a).shown) : a = b := by
  cases a with
  | delivered at_ =>
    cases b with
    | delivered other =>
      simp only [Fate.shown, Fate.end_, Outcome.deliveredAt, Prod.mk.injEq, Option.some.injEq] at same
      rw [same.2]
    | undelivered => simp [Fate.shown, Fate.end_, Outcome.status] at same
  | undelivered =>
    cases b with
    | delivered other => simp [Fate.shown, Fate.end_, Outcome.status] at same
    | undelivered => rfl

theorem foldl_two_outcomes (carries : fate.carries = true) (a b : Outcome) :
    (words ++ [Word.tells (some a), Word.tells (some b)]).foldl settling.step fate =
      ((words.foldl settling.step fate).end_ a).end_ b := by
  have heard : (words.foldl settling.step fate).carries = true := carries_foldl carries
  have still : ((words.foldl settling.step fate).end_ a).carries = true := heard
  simp only [List.foldl_append, List.foldl_cons, List.foldl_nil, Settling.step, Fate.tell, heard,
    still, if_true]

/-- Two outcomes that differ can each be the last one. -/
theorem SameEnd.agree (same : SameEnd settling fate (inOrder outcomes)) (carries : fate.carries = true)
    {a b : Outcome} (inA : some a ∈ outcomes) (inB : some b ∈ outcomes) : a = b := by
  by_contra differs
  have inRest : some b ∈ outcomes.erase (some a) :=
    (List.mem_erase_of_ne fun equal => differs (Option.some.inj equal).symm).mpr inB
  have apart : outcomes.Perm (some a :: some b :: (outcomes.erase (some a)).erase (some b)) :=
    (List.perm_cons_erase inA).trans ((List.perm_cons_erase inRest).cons _)
  let others := inOrder ((outcomes.erase (some a)).erase (some b))
  have endA : (others ++ [Word.tells (some b), Word.tells (some a)]).Perm (inOrder outcomes) := by
    refine (List.perm_append_comm).trans ?_
    refine ((List.Perm.swap _ _ _).trans ?_).trans ((apart.map Word.tells).cons Word.settles).symm
    exact ((List.Perm.swap _ _ _).cons _).trans (List.Perm.swap _ _ _)
  have endB : (others ++ [Word.tells (some a), Word.tells (some b)]).Perm (inOrder outcomes) :=
    ((List.Perm.swap _ _ []).append_left others).trans endA
  have shown := same _ _ endB endA
  rw [foldl_two_outcomes carries, foldl_two_outcomes carries] at shown
  exact differs (eq_of_end_end shown)

theorem outcome_status_ne (outcome : Outcome) :
    outcome.status ≠ .sent ∧ outcome.status ≠ .failed := by
  cases outcome with
  | delivered at_ => simp [Outcome.status]
  | undelivered => simp [Outcome.status]

/-- The words end the same in every order, and a delivered message stays so, exactly
when the order is safe. -/
theorem converges_iff :
    SameEnd settling fate (inOrder outcomes) ∧ StaysEnded settling fate (inOrder outcomes) ↔
      OrderSafe settling fate outcomes := by
  refine ⟨fun ⟨same, stays⟩ => ?_, OrderSafe.converges⟩
  unfold OrderSafe
  split
  · next carries =>
    refine ⟨fun a b inA inB => same.agree carries inA inB, fun delivered member => ?_⟩
    have first : ([] ++ [Word.tells (some .undelivered)] ++
        inOrder (outcomes.erase (some .undelivered))).Perm (inOrder outcomes) :=
      (List.Perm.swap _ _ _).trans (((List.perm_cons_erase member).map Word.tells).cons _).symm
    have kept := (stays [] [.tells (some .undelivered)] _ first delivered).1
    simp [Settling.step, Fate.tell, carries, Fate.end_, Outcome.status] at kept
  · next deaf =>
    have deaf : fate.carries = false := by simpa using deaf
    intro reached outcome member
    cases outcome with
    | none => rfl
    | some told =>
      have last : (outcomes.map Word.tells ++ [Word.settles]).Perm (inOrder outcomes) :=
        List.perm_append_comm
      have shown := congrArg Prod.fst (same _ _ last (List.Perm.refl _))
      have carries : (settling.settle fate).carries = true := by
        rw [Settling.settle, if_pos reached]
      obtain ⟨outcome, ended⟩ := foldl_tells_decided carries member
      simp only [List.foldl_append, foldl_tells_unheard deaf, List.foldl_cons, List.foldl_nil,
        inOrder, Settling.step, Fate.shown] at shown
      rw [ended] at shown
      obtain ⟨notSent, notFailed⟩ := outcome_status_ne outcome
      rcases settle_status reached with sent | failed
      · exact absurd (shown.symm.trans sent) notSent
      · exact absurd (shown.symm.trans failed) notFailed

end Words

/-! ## The records of one message -/

/-- A sent message and what its reports are matched by. -/
structure Sms where
  messageId : Uuid
  tenantId : Uuid
  deviceId : Uuid
  commandId : Uuid
  peer : String
  reference : Int
  deriving DecidableEq, Repr

/-- The message is `row`, and no other one of its device and peer has the
reference. -/
structure Sms.In (sms : Sms) (inbox : Inbox) (row : MessageRow) : Prop where
  member : row ∈ inbox.db.messages
  identity : row.identity =
    (sms.messageId, sms.tenantId, sms.deviceId, some sms.commandId, Direction.outbound)
  peer : (inbox.delivery sms.messageId).peer = sms.peer
  alone : ∀ other ∈ inbox.db.messages, other.tenantId = sms.tenantId →
    other.deviceId = sms.deviceId → other.direction = .outbound →
    (inbox.delivery other.id).peer = sms.peer → other.providerReference = some sms.reference →
    other.id = sms.messageId

/-- A report the projection can read that quotes the message. -/
structure Sms.Quoted (sms : Sms) (casts : Casts) (record : IngressRow) : Prop where
  tenant : record.tenantId = sms.tenantId
  device : record.deviceId = sms.deviceId
  peer : casts.field record.payload "peer" = some sms.peer
  reference : ∃ text, casts.field record.payload "reference" = some text ∧
    casts.integer text = .ok sms.reference
  readable : ∃ report, readReport casts record.payload = .ok report

/-- What a report decides. -/
def told (casts : Casts) (record : IngressRow) : Option Outcome :=
  match readReport casts record.payload with
  | .ok report => report.outcome
  | .error _ => none

/-- The command is expired or cancelled when the result looks for its message: the
cloud gave it up, or the result itself says so. -/
def lateAfter (tenant command : Uuid) (status : CommandStatus) (commands : List CommandRow) : Bool :=
  gaveUp tenant command commands ||
    ((status = .expired || status = .cancelled) && commands.any (resultHit tenant command))

def Sms.settling (sms : Sms) (result : CommandResult) (status : CommandStatus) (inbox : Inbox) :
    Settling where
  succeeded := result.status = "succeeded"
  fits := fits result
  late := lateAfter sms.tenantId sms.commandId status inbox.db.commands.rows

def Sms.fate (sms : Sms) (inbox : Inbox) (row : MessageRow) : Fate where
  status := row.status
  deliveredAt := (inbox.delivery sms.messageId).deliveredAt
  carries := row.providerReference = some sms.reference

/-- The inbox follows the fate of the message. -/
def Tracks (sms : Sms) (status : CommandStatus) (late : Bool) (inbox : Inbox) (fate : Fate) : Prop :=
  ∃ row, sms.In inbox row ∧ fate = sms.fate inbox row ∧
    lateAfter sms.tenantId sms.commandId status inbox.db.commands.rows = late

section Records

variable {casts : Casts} {sms : Sms} {inbox next : Inbox} {row : MessageRow} {fate : Fate} {late : Bool}
  {result : CommandResult} {status : CommandStatus} {detail : Jsonb} {now : Timestamp}

theorem Sms.In.parts (h : sms.In inbox row) :
    row.id = sms.messageId ∧ row.tenantId = sms.tenantId ∧ row.deviceId = sms.deviceId ∧
      row.commandId = some sms.commandId ∧ row.direction = .outbound := by
  simpa only [MessageRow.identity, Prod.mk.injEq] using h.identity

/-! ### A report -/

theorem newest_cons (delivery : Uuid → Delivery) (first : MessageRow) (rest : List MessageRow) :
    ∃ row ∈ first :: rest, newest delivery (first :: rest) = some row := by
  unfold newest
  rw [List.foldl_cons]
  dsimp only
  induction rest generalizing first with
  | nil => exact ⟨first, by simp, rfl⟩
  | cons second rest ih =>
    rw [List.foldl_cons]
    dsimp only
    split
    · obtain ⟨row, member, found⟩ := ih second
      exact ⟨row, List.mem_cons_of_mem _ member, found⟩
    · obtain ⟨row, member, found⟩ := ih first
      refine ⟨row, ?_, found⟩
      rcases List.mem_cons.mp member with rfl | inRest
      · exact List.mem_cons_self
      · exact List.mem_cons_of_mem _ (List.mem_cons_of_mem _ inRest)

/-- A report can only be about the message that has the reference. -/
theorem candidate_iff (h : sms.In inbox row) {record : IngressRow} (quoted : sms.Quoted casts record)
    {other : MessageRow} (member : other ∈ inbox.db.messages) :
    candidate record (some sms.peer) (some sms.reference) inbox.delivery other = true ↔
      other = row ∧ row.providerReference = some sms.reference := by
  obtain ⟨id, tenant, device, _, direction⟩ := h.parts
  simp only [candidate, Bool.and_eq_true, decide_eq_true_eq, Option.isSome_some, Option.some.injEq,
    quoted.tenant, quoted.device, and_true]
  constructor
  · rintro ⟨⟨⟨⟨sameTenant, sameDevice⟩, outbound⟩, samePeer⟩, carries⟩
    have same := h.alone other member sameTenant sameDevice outbound samePeer carries
    have equal : other = row := Table.eq_of_key member h.member (same.trans id.symm)
    exact ⟨equal, equal ▸ carries⟩
  · rintro ⟨rfl, carries⟩
    exact ⟨⟨⟨⟨tenant, device⟩, direction⟩, by rw [id, h.peer]⟩, carries⟩

/-- The message a report finds. -/
theorem newest_candidate (h : sms.In inbox row) {record : IngressRow}
    (quoted : sms.Quoted casts record) :
    newest inbox.delivery (inbox.db.messages.rows.filter
        (candidate record (some sms.peer) (some sms.reference) inbox.delivery)) =
      if row.providerReference = some sms.reference then some row else none := by
  cases found : inbox.db.messages.rows.filter
      (candidate record (some sms.peer) (some sms.reference) inbox.delivery) with
  | nil =>
    split
    · next carries =>
      have missed := List.filter_eq_nil_iff.mp found row h.member
      exact absurd ((candidate_iff h quoted h.member).mpr ⟨rfl, carries⟩) missed
    · rfl
  | cons first rest =>
    obtain ⟨best, member, chosen⟩ := newest_cons inbox.delivery first rest
    rw [← found] at member
    obtain ⟨inTable, matches_⟩ := List.mem_filter.mp member
    obtain ⟨rfl, carries⟩ := (candidate_iff h quoted inTable).mp matches_
    rw [chosen, if_pos carries]

/-- The inbox after a report that found the message. -/
def marked (inbox : Inbox) (row : MessageRow) (report : Report) : Inbox where
  db := inbox.db.updateMessages (fun other => other.id = row.id) report.mark report.mark_identity
  delivery := Function.update inbox.delivery row.id (report.write (inbox.delivery row.id))

theorem mem_marked {report : Report} {other : MessageRow} :
    other ∈ (marked inbox row report).db.messages ↔
      ∃ old ∈ inbox.db.messages, other = if old.id = row.id then report.mark old else old := by
  have rows := @Table.mem_update _ _ MessageRow.id inbox.db.messages
    (fun other => decide (other.id = row.id)) report.mark (fun _ => rfl) other
  simp only [decide_eq_true_eq] at rows
  exact rows

theorem marked_peer {report : Report} (id : Uuid) :
    ((marked inbox row report).delivery id).peer = (inbox.delivery id).peer := by
  unfold marked
  by_cases same : id = row.id
  · subst same
    simp [Report.write]
  · simp [Function.update_of_ne same]

theorem Sms.In.marked (h : sms.In inbox row) (report : Report) :
    sms.In (marked inbox row report) (report.mark row) where
  member := mem_marked.mpr ⟨row, h.member, by rw [if_pos rfl]⟩
  identity := h.identity
  peer := by
    rw [marked_peer]
    exact h.peer
  alone := by
    intro other member tenant device outbound peer carries
    rw [marked_peer] at peer
    obtain ⟨old, inTable, rfl⟩ := mem_marked.mp member
    split at carries
    · next same =>
      rw [if_pos same]
      exact same.trans h.parts.1
    · next differs =>
      rw [if_neg differs] at tenant device outbound peer ⊢
      exact h.alone old inTable tenant device outbound peer carries

theorem fate_marked (h : sms.In inbox row) (report : Report)
    (carries : row.providerReference = some sms.reference) :
    sms.fate (marked inbox row report) (report.mark row) = (sms.fate inbox row).tell report.outcome := by
  have id := h.parts.1
  unfold Sms.fate marked
  rw [id]
  cases outcome : report.outcome with
  | none => simp [Report.mark, Report.write, outcome, Fate.tell]
  | some outcome' => simp [Report.mark, Report.write, outcome, Fate.tell, Fate.end_, carries]

theorem tracks_report {record : IngressRow} (quoted : sms.Quoted casts record)
    (h : Tracks sms status late inbox fate) :
    ∃ next, arrive casts inbox (.report record) = .ok next ∧
      Tracks sms status late next (fate.tell (told casts record)) := by
  obtain ⟨row, present, rfl, same⟩ := h
  obtain ⟨text, named, read⟩ := quoted.reference
  obtain ⟨report, readable⟩ := quoted.readable
  have tells : told casts record = report.outcome := by rw [told, readable]
  have reference : (casts.field record.payload "reference").mapM casts.integer =
      .ok (some sms.reference) := by
    rw [named, Option.mapM_some, read]
    rfl
  show ∃ next, projectStatusReport casts record inbox = .ok next ∧ _
  unfold projectStatusReport
  rw [reference, ok_bind, quoted.peer, newest_candidate present quoted]
  by_cases carries : row.providerReference = some sms.reference
  · rw [if_pos carries]
    dsimp only
    rw [readable]
    refine ⟨marked inbox row report, rfl, report.mark row, present.marked report, ?_, same⟩
    rw [tells, fate_marked present report carries]
  · rw [if_neg carries]
    refine ⟨inbox, rfl, row, present, ?_, same⟩
    cases outcome : told casts record with
    | none => rfl
    | some outcome' => simp [Fate.tell, Sms.fate, carries]

/-! ### The result -/

theorem lateAfter_map {tenant command : Uuid} {completedAt : Timestamp} {commands : List CommandRow} :
    gaveUp tenant command (commands.map (resultRow tenant command status completedAt detail)) =
      lateAfter tenant command status commands := by
  rw [Bool.eq_iff_iff, gaveUp_map]
  simp [lateAfter, givenUp]

/-- A second result would find the command as the first one did. -/
theorem lateAfter_twice {tenant command : Uuid} {completedAt : Timestamp} {commands : List CommandRow} :
    lateAfter tenant command status
        (commands.map (resultRow tenant command status completedAt detail)) =
      lateAfter tenant command status commands := by
  rw [lateAfter, lateAfter_map]
  cases gone : (decide (status = .expired) || decide (status = .cancelled)) with
  | false => rw [Bool.false_and, Bool.or_false]
  | true =>
    have terminal : status.terminal = true := by
      simp only [Bool.or_eq_true, decide_eq_true_eq] at gone
      rcases gone with rfl | rfl
      · rfl
      · rfl
    have none_ : (commands.map (resultRow tenant command status completedAt detail)).any
        (resultHit tenant command) = false := by
      rw [List.any_eq_false]
      intro row member
      obtain ⟨old, _, rfl⟩ := List.mem_map.mp member
      simp [resultHit_resultRow terminal]
    rw [none_, Bool.and_false, Bool.or_false]

theorem settledMessage_identity {tenant command : Uuid} {commands : List CommandRow} :
    (settledMessage tenant command result commands now row).identity = row.identity := by
  unfold settledMessage
  split
  · rfl
  · rfl

/-- The result reaches the message when its fate says so. -/
theorem settledMessage_hits (present : sms.In inbox row) {commands : List CommandRow}
    (gone : gaveUp sms.tenantId sms.commandId commands =
      lateAfter sms.tenantId sms.commandId status inbox.db.commands.rows) :
    (fits result && settleHit sms.tenantId sms.commandId commands row) =
      (sms.settling result status inbox).hits (sms.fate inbox row) := by
  obtain ⟨_, tenant, _, command, direction⟩ := present.parts
  have hit : settleHit sms.tenantId sms.commandId commands row =
      (decide (row.status = .queued) || (decide (row.status = .failed) &&
        lateAfter sms.tenantId sms.commandId status inbox.db.commands.rows)) := by
    rw [Bool.eq_iff_iff, settleHit_eq, gone]
    simp [tenant, command, direction]
  rw [hit]
  rfl

theorem fate_settled (present : sms.In inbox row) {commands : List CommandRow} {db : CommandDb}
    (referenced : messageReference result.details = some sms.reference)
    (gone : gaveUp sms.tenantId sms.commandId commands =
      lateAfter sms.tenantId sms.commandId status inbox.db.commands.rows) :
    sms.fate { inbox with db := db }
        (settledMessage sms.tenantId sms.commandId result commands now row) =
      (sms.settling result status inbox).settle (sms.fate inbox row) := by
  unfold settledMessage Settling.settle
  rw [settledMessage_hits present gone, referenced]
  split
  · simp [Sms.fate, settleMessage, Sms.settling, Settling.status, messageStatus]
  · rfl

theorem Sms.In.settled (present : sms.In inbox row) {commands : List CommandRow} {db : CommandDb}
    (messages : db.messages.rows =
      inbox.db.messages.rows.map (settledMessage sms.tenantId sms.commandId result commands now)) :
    sms.In { inbox with db := db }
      (settledMessage sms.tenantId sms.commandId result commands now row) where
  member := by
    show _ ∈ db.messages.rows
    rw [messages]
    exact List.mem_map.mpr ⟨row, present.member, rfl⟩
  identity := settledMessage_identity.trans present.identity
  peer := present.peer
  alone := by
    intro other member tenant device outbound peer carries
    change other ∈ db.messages.rows at member
    rw [messages] at member
    obtain ⟨old, inTable, rfl⟩ := List.mem_map.mp member
    by_cases mirror : old.commandId = some sms.commandId
    · have own : row.commandId = some sms.commandId := present.parts.2.2.2.1
      have same : old = row := inbox.db.valid.messageCommand old inTable row present.member
        (by rw [mirror]; rfl) (mirror.trans own.symm)
      rw [same]
      exact (congrArg Prod.fst settledMessage_identity).trans present.parts.1
    · have missed : settledMessage sms.tenantId sms.commandId result commands now old = old := by
        simp [settledMessage, settleHit, mirror]
      rw [missed] at tenant device outbound peer carries ⊢
      exact present.alone old inTable tenant device outbound peer carries

theorem tracks_result (parsed : Parsed result status detail sms.commandId)
    (referenced : messageReference result.details = some sms.reference)
    (h : Tracks sms status late inbox fate) :
    ∃ next, arrive casts inbox (.result sms.tenantId result now) = .ok next ∧
      Tracks sms status late next
        (Settling.settle ⟨result.status = "succeeded", fits result, late⟩ fate) := by
  obtain ⟨row, present, rfl, rfl⟩ := h
  obtain ⟨db, settled⟩ :=
    @settlingRecordResult_succeeds sms.tenantId sms.commandId status detail result parsed now inbox.db
  obtain ⟨commands, _, messages⟩ := settlingRecordResult_rows parsed settled
  have gone : gaveUp sms.tenantId sms.commandId db.commands.rows =
      lateAfter sms.tenantId sms.commandId status inbox.db.commands.rows := by
    rw [commands, lateAfter_map]
  refine ⟨{ inbox with db := db }, ?_, _, present.settled messages, ?_, ?_⟩
  · show (settlingRecordResult sms.tenantId result now inbox.db >>= _) = _
    rw [settled]
    rfl
  · rw [fate_settled present referenced gone]
    rfl
  · show lateAfter _ _ _ db.commands.rows = _
    rw [commands, lateAfter_twice]

/-! ### Whole runs -/

/-- The result of the command, and the reports that quote it. -/
structure Sms.Answered (sms : Sms) (casts : Casts) (result : CommandResult) (status : CommandStatus)
    (detail : Jsonb) (records : List IngressRow) : Prop where
  parsed : Parsed result status detail sms.commandId
  reference : messageReference result.details = some sms.reference
  quoted : ∀ record ∈ records, sms.Quoted casts record

/-- The records, the result first. -/
def arrivals (sms : Sms) (result : CommandResult) (now : Timestamp) (records : List IngressRow) :
    List Arrival :=
  .result sms.tenantId result now :: records.map .report

/-- A record as the message sees it. -/
def word (casts : Casts) : Arrival → Word
  | .result _ _ _ => .settles
  | .report record => .tells (told casts record)

theorem words_arrivals (records : List IngressRow) :
    (arrivals sms result now records).map (word casts) = inOrder (records.map (told casts)) := by
  simp [arrivals, inOrder, word, Function.comp_def]

/-- Records of the message, in any order and number, go through. -/
theorem arriveAll_tracks {records : List IngressRow}
    (answered : sms.Answered casts result status detail records) {order : List Arrival}
    (inside : ∀ arrival ∈ order, arrival ∈ arrivals sms result now records)
    (h : Tracks sms status late inbox fate) :
    ∃ last, arriveAll casts order inbox = .ok last ∧
      Tracks sms status late last ((order.map (word casts)).foldl
        (Settling.step ⟨result.status = "succeeded", fits result, late⟩) fate) := by
  rw [List.foldl_map]
  refine foldlM_simulates (fun arrival member state shadow related => ?_) h
  rcases List.mem_cons.mp (inside arrival member) with rfl | inReports
  · exact tracks_result answered.parsed answered.reference related
  · obtain ⟨record, inRecords, rfl⟩ := List.mem_map.mp inReports
    exact tracks_report (answered.quoted record inRecords) related

/-- Status and `delivered_at` of a message. -/
def displayed (inbox : Inbox) (id : Uuid) : Option (MessageStatus × Option Timestamp) :=
  (inbox.db.messages.find id).map fun row => (row.status, (inbox.delivery id).deliveredAt)

theorem Tracks.displayed (h : Tracks sms status late inbox fate) :
    displayed inbox sms.messageId = some fate.shown := by
  obtain ⟨row, present, rfl, _⟩ := h
  have found : inbox.db.messages.find sms.messageId = some row :=
    Table.find_eq_some_iff.mpr ⟨present.member, present.parts.1⟩
  rw [DeliveryOrder.displayed, found]
  rfl

/-- The records leave the message the same in every order. -/
def SameFate (casts : Casts) (inbox : Inbox) (id : Uuid) (records : List Arrival) : Prop :=
  ∀ first second : List Arrival, first.Perm records → second.Perm records →
    ∀ end1 end2, arriveAll casts first inbox = .ok end1 → arriveAll casts second inbox = .ok end2 →
      displayed end1 id = displayed end2 id

/-- In no order does the message go back once it is delivered. -/
def StaysDelivered (casts : Casts) (inbox : Inbox) (id : Uuid) (records : List Arrival) : Prop :=
  ∀ before between after : List Arrival, (before ++ between ++ after).Perm records →
    ∀ middle last, arriveAll casts before inbox = .ok middle →
      arriveAll casts (before ++ between) inbox = .ok last →
      (displayed middle id).map Prod.fst = some .delivered →
        (displayed last id).map Prod.fst ≠ some .undelivered ∧
          (displayed last id).map Prod.fst ≠ some .sent

end Records

section Orders

variable {casts : Casts} {sms : Sms} {inbox : Inbox} {row : MessageRow} {result : CommandResult}
  {status : CommandStatus} {detail : Jsonb} {records : List IngressRow}

theorem exists_order {f : Arrival → Word} {words : List Word} {all : List Arrival}
    (perm : words.Perm (all.map f)) : ∃ order : List Arrival, words = order.map f ∧ order.Perm all := by
  have composed := congrFun₂ (List.eq_map_comp_perm f) words all
  exact composed.mpr perm

/-- Every order of some of the records goes through and shows what its words say. -/
def Follows (casts : Casts) (settling : Settling) (fate : Fate) (inbox : Inbox) (id : Uuid)
    (all : List Arrival) : Prop :=
  ∀ order : List Arrival, (∀ arrival ∈ order, arrival ∈ all) →
    ∃ last, arriveAll casts order inbox = .ok last ∧
      displayed last id = some ((order.map (word casts)).foldl settling.step fate).shown

variable {settling : Settling} {fate : Fate} {id : Uuid} {all : List Arrival}

theorem Follows.sameFate_iff (follows : Follows casts settling fate inbox id all) :
    SameFate casts inbox id all ↔ SameEnd settling fate (all.map (word casts)) := by
  constructor
  · intro same first second perm perm'
    obtain ⟨order, rfl, permuted⟩ := exists_order perm
    obtain ⟨order', rfl, permuted'⟩ := exists_order perm'
    obtain ⟨last, applied, shown⟩ := follows order fun _ => permuted.mem_iff.mp
    obtain ⟨last', applied', shown'⟩ := follows order' fun _ => permuted'.mem_iff.mp
    have equal := same order order' permuted permuted' last last' applied applied'
    rw [shown, shown'] at equal
    exact Option.some.inj equal
  · intro same first second perm perm' end1 end2 applied applied'
    obtain ⟨last, through, shown⟩ := follows first fun _ => perm.mem_iff.mp
    obtain ⟨last', through', shown'⟩ := follows second fun _ => perm'.mem_iff.mp
    cases applied.symm.trans through
    cases applied'.symm.trans through'
    rw [shown, shown', same _ _ (perm.map _) (perm'.map _)]

theorem Follows.staysDelivered_iff (follows : Follows casts settling fate inbox id all) :
    StaysDelivered casts inbox id all ↔ StaysEnded settling fate (all.map (word casts)) := by
  constructor
  · intro stays before between after perm delivered
    obtain ⟨order, split_, permuted⟩ := exists_order perm
    obtain ⟨both, rest, rfl, parts, rfl⟩ := List.map_eq_append_iff.mp split_.symm
    obtain ⟨first, second, rfl, rfl, rfl⟩ := List.map_eq_append_iff.mp parts
    have inside : ∀ arrival ∈ first ++ second, arrival ∈ all :=
      fun _ member => permuted.mem_iff.mp (List.mem_append_left _ member)
    obtain ⟨middle, applied, shown⟩ := follows first fun arrival member =>
      inside arrival (List.mem_append_left _ member)
    obtain ⟨last, applied', shown'⟩ := follows (first ++ second) inside
    have kept := stays first second rest permuted middle last applied applied'
    rw [shown, shown', List.map_append] at kept
    simp only [Option.map_some, Fate.shown, Option.some.injEq, ne_eq] at kept
    exact kept delivered
  · intro stays before between after perm middle last applied applied' delivered
    have inside : ∀ arrival ∈ before ++ between, arrival ∈ all :=
      fun _ member => perm.mem_iff.mp (List.mem_append_left _ member)
    obtain ⟨middle', through, shown⟩ := follows before fun arrival member =>
      inside arrival (List.mem_append_left _ member)
    obtain ⟨last', through', shown'⟩ := follows (before ++ between) inside
    cases applied.symm.trans through
    cases applied'.symm.trans through'
    have words := perm.map (word casts)
    rw [List.map_append, List.map_append] at words
    rw [shown] at delivered
    have kept := stays _ _ _ words (Option.some.inj delivered)
    rw [shown', List.map_append]
    simpa only [Option.map_some, Fate.shown, Option.some.injEq, ne_eq] using kept

/-- A command's result with a reference, and any reports that quote it: the message
ends the same in every order of acceptance, and does not go back once it is
delivered, exactly when the order is safe. -/
theorem fate_order_free (present : sms.In inbox row)
    (answered : sms.Answered casts result status detail records) (now : Timestamp) :
    (SameFate casts inbox sms.messageId (arrivals sms result now records) ∧
      StaysDelivered casts inbox sms.messageId (arrivals sms result now records)) ↔
      OrderSafe (sms.settling result status inbox) (sms.fate inbox row) (records.map (told casts)) := by
  have start : Tracks sms status (lateAfter sms.tenantId sms.commandId status inbox.db.commands.rows)
      inbox (sms.fate inbox row) := ⟨row, present, rfl, rfl⟩
  have follows : Follows casts (sms.settling result status inbox) (sms.fate inbox row) inbox
      sms.messageId (arrivals sms result now records) := by
    intro order inside
    obtain ⟨last, applied, tracked⟩ := arriveAll_tracks answered inside start
    exact ⟨last, applied, tracked.displayed⟩
  rw [follows.sameFate_iff, follows.staysDelivered_iff, words_arrivals, converges_iff]

end Orders

/-! ## One SMS with reference 7 -/

/-- The command of tenant 1 with its message, which is queued. -/
def oneMessage : CommandDb :=
  settle (fun (message : Outbound) =>
    recordOutbound (fun _ _ => true) message 4 1) oneCommand ⟨1, 2, "+49", "hello", 3⟩

def oneInbox : Inbox where
  db := oneMessage
  delivery _ := ⟨"+49", 1, none, none⟩

def oneSms : Sms := ⟨4, 1, 2, 3, "+49", 7⟩

/-- The device answers that the SMS went out under reference 7. -/
def sentResult : CommandResult :=
  { answer "succeeded" with details := some (.obj [(chars "message_reference", .num 7 none)]) }

/-- A report about it. -/
def report (seq : Nat) (status : String) (reported : Nat) : IngressRow where
  deviceId := 2
  seq := seq
  tenantId := 1
  envelopeId := BitVec.ofNat 128 seq
  kind := "SmsStatusReport"
  payload := .obj [("peer", .str "+49"), ("status", .str status), ("reference", .num 7),
    ("reported_at", .num reported)]
  receivedAt := 9

/-- What an operator sees after the records. -/
def seen (order : List Arrival) : Option (Option (MessageStatus × Option Timestamp)) :=
  match arriveAll plainCasts order oneInbox with
  | .ok inbox => some (displayed inbox 4)
  | .error _ => none

theorem oneSms_in : ∃ row, oneSms.In oneInbox row ∧ row.providerReference = none := by
  refine ⟨(Outbound.row ⟨1, 2, "+49", "hello", 3⟩ 4 1), ⟨?_, rfl, rfl, ?_⟩, rfl⟩
  · decide +kernel
  · decide +kernel

/-- What the answer is stored as. -/
def sentDetail : Jsonb :=
  .obj [("reason", .str ""), ("status", .str "succeeded"),
    ("details", .obj [("message_reference", .num 7)]), ("attempts", .num 1), ("reason_code", .str "")]

theorem sentResult_answered {records : List IngressRow}
    (quoted : ∀ record ∈ records, oneSms.Quoted plainCasts record) :
    oneSms.Answered plainCasts sentResult .succeeded sentDetail records :=
  ⟨⟨rfl, by decide +kernel, by decide +kernel⟩, by decide +kernel, quoted⟩

/-- Reports that decide nothing may come at any time. -/
theorem pending_report_any_order :
    SameFate plainCasts oneInbox 4 (arrivals oneSms sentResult 3 [report 1 "pending" 5]) ∧
    StaysDelivered plainCasts oneInbox 4 (arrivals oneSms sentResult 3 [report 1 "pending" 5]) := by
  obtain ⟨row, present, unset⟩ := oneSms_in
  have quoted : ∀ record ∈ [report 1 "pending" 5], oneSms.Quoted plainCasts record := by
    intro record member
    rw [List.mem_singleton.mp member]
    exact ⟨rfl, rfl, by decide +kernel, ⟨"7", by decide +kernel, by decide +kernel⟩,
      ⟨⟨none, none⟩, by decide +kernel⟩⟩
  refine (fate_order_free present (sentResult_answered quoted) 3).mpr ?_
  unfold OrderSafe
  rw [if_neg (by simp [Sms.fate, unset])]
  intro _
  decide +kernel

theorem seen_some {order : List Arrival} {value : Option (MessageStatus × Option Timestamp)}
    (h : seen order = some value) :
    ∃ last, arriveAll plainCasts order oneInbox = .ok last ∧ displayed last 4 = value := by
  unfold seen at h
  split at h
  · next inbox applied => exact ⟨inbox, applied, Option.some.inj h⟩
  · cases h

/-- A delivered report that is accepted before the result is lost, and an older
failed one that is accepted last takes the message back. -/
theorem report_before_result_lost :
    ¬ SameFate plainCasts oneInbox 4 (arrivals oneSms sentResult 3 [report 1 "delivered" 5]) ∧
    ¬ StaysDelivered plainCasts oneInbox 4
      (arrivals oneSms sentResult 3 [report 1 "delivered" 5, report 2 "failed" 4]) := by
  have settled : seen [.result 1 sentResult 3, .report (report 1 "delivered" 5)] =
      some (some (.delivered, some 5000)) := by decide +kernel
  have lost : seen [.report (report 1 "delivered" 5), .result 1 sentResult 3] =
      some (some (.sent, none)) := by decide +kernel
  have back : seen [.result 1 sentResult 3, .report (report 1 "delivered" 5),
      .report (report 2 "failed" 4)] = some (some (.undelivered, some 5000)) := by decide +kernel
  obtain ⟨end1, applied1, shown1⟩ := seen_some settled
  obtain ⟨end2, applied2, shown2⟩ := seen_some lost
  obtain ⟨end3, applied3, shown3⟩ := seen_some back
  constructor
  · intro same
    have equal := same _ _ (List.Perm.refl _) (List.Perm.swap _ _ _) end1 end2 applied1 applied2
    rw [shown1, shown2] at equal
    cases equal
  · intro stays
    have kept := (stays [.result 1 sentResult 3, .report (report 1 "delivered" 5)]
      [.report (report 2 "failed" 4)] [] (List.Perm.refl _) end1 end3 applied1 applied3
      (by rw [shown1]; rfl)).1
    rw [shown3] at kept
    exact kept rfl

end VodogeCloud.Guarantees.DeliveryOrder
