import VodogeCloud.Guarantees.SessionTurns
import VodogeCloud.Guarantees.TerminalCommands
import VodogeCloud.Lib.NetAddress
import VodogeCloud.Source.DeliveryEnvelopes

/-!
# The ids of deliveries

An id holds nothing of a frame but its kind and the milliseconds of the clock, so two
deliveries are told apart by their times alone, and the frames of one pending read share one.
The number stays within its twelve digits for every clock from 1970 on, except where the
offset of the kind carries it over.
-/

set_option autoImplicit false

namespace VodogeCloud.Guarantees.DeliveryIds

open VodogeCloud.Lib.CivilTime (padded padded_digits padded_injective)
open VodogeCloud.Lib.NetAddress (hexDigit joined splitOn_joined)
open VodogeCloud.Source.Postgres VodogeCloud.Source.ServeDevice VodogeCloud.Source.DeliveryEnvelopes
open VodogeCloud.Source.PendingCommands (PendingCommand expired)
open VodogeCloud.Source.EventPages (unixMilli)
open VodogeCloud.Source.CommandTables (CommandDb)
open VodogeCloud.Source.CommandLifecycle (CommandOp)
open VodogeCloud.Lib.Transactions (run)
open VodogeCloud.Guarantees.TerminalCommands (plainCalendar)
open VodogeCloud.Guarantees.SessionTurns (serveKind_answers sampleEnvironment sampleGateway sampleFrame
  sampleDevice)

/-! ## One id -/

def isHex (c : Char) : Bool := (hexDigit c).isSome

/-- A UUID as it is written: groups of 8, 4, 4, 4 and 12 hexadecimal digits. -/
def wellFormedUuid (text : List Char) : Bool :=
  (text.splitOn '-').map List.length == [8, 4, 4, 4, 12] && (text.splitOn '-').all (·.all isHex)

theorem length_padded_iff {number : Nat} :
    (padded 12 number).length = 12 ↔ number < 1000000000000 := by
  have digits := @Nat.length_toDigits_le_iff 10 number 12 (by decide) (by decide)
  unfold padded
  rw [List.length_leftpad]
  rw [show (10 : Nat) ^ 12 = 1000000000000 from rfl] at digits
  omega

theorem isHex_of_isDigit {c : Char} (digit : c.isDigit = true) : isHex c = true := by
  simp only [Char.isDigit, Bool.and_eq_true, decide_eq_true_eq] at digit
  have between : '0' ≤ c ∧ c ≤ '9' := digit
  unfold isHex hexDigit
  rw [if_pos between]
  rfl

theorem groups (kind : String) (now : Timestamp) :
    (kindEnvelopeID kind now).splitOn '-' =
      ["00000000".toList, "0000".toList, "4000".toList, "8000".toList, padded 12 (idNumber kind now)] := by
  have text : kindEnvelopeID kind now = joined '-'
      ["00000000".toList, "0000".toList, "4000".toList, "8000".toList, padded 12 (idNumber kind now)] := rfl
  rw [text]
  refine splitOn_joined ?_ (List.cons_ne_nil _ _)
  intro piece member
  simp only [List.mem_cons, List.not_mem_nil, or_false] at member
  rcases member with rfl | rfl | rfl | rfl | rfl
  · decide
  · decide
  · decide
  · decide
  · intro mark
    exact absurd (padded_digits 12 _ '-' mark) (by decide)

/-- The number of an id has no more than its digits. -/
def Fits (kind : String) (now : Timestamp) : Prop :=
  0 ≤ kindOffset kind + millisOf now ∧ kindOffset kind + millisOf now < 1000000000000

theorem kindOffset_bounds (kind : String) : 0 ≤ kindOffset kind ∧ kindOffset kind ≤ 3 := by
  unfold kindOffset
  split
  · decide
  · split
    · decide
    · split
      · decide
      · decide

theorem millisOf_bounds (now : Timestamp) : -1000000000000 < millisOf now ∧ millisOf now < 1000000000000 := by
  have below := @Int.tmod_lt_of_pos (unixMilli now) 1000000000000 (by decide)
  have above := @Int.lt_tmod_of_pos (unixMilli now) 1000000000000 (by decide)
  unfold millisOf
  omega

theorem idNumber_fits_iff (kind : String) (now : Timestamp) :
    idNumber kind now < 1000000000000 ↔ Fits kind now := by
  have offset := kindOffset_bounds kind
  have millis := millisOf_bounds now
  unfold idNumber Fits
  omega

theorem wellFormed_iff (kind : String) (now : Timestamp) :
    wellFormedUuid (kindEnvelopeID kind now) = true ↔ Fits kind now := by
  rw [← idNumber_fits_iff, ← length_padded_iff, wellFormedUuid, groups, Bool.and_eq_true, beq_iff_eq]
  constructor
  · rintro ⟨lengths, _⟩
    simpa using lengths
  · intro length
    refine ⟨by simp [length], ?_⟩
    have digits : (padded 12 (idNumber kind now)).all isHex = true :=
      List.all_eq_true.mpr fun c member => isHex_of_isDigit (padded_digits 12 _ c member)
    simp only [List.all_cons, List.all_nil, Bool.and_true, digits]
    decide

/-- Two deliveries have one id exactly when their clocks agree modulo the thousand million
seconds of the number. -/
theorem delivery_id_eq_iff (a b : Timestamp) :
    kindEnvelopeID "CommandDeliver" a = kindEnvelopeID "CommandDeliver" b ↔ millisOf a = millisOf b := by
  have offset : kindOffset "CommandDeliver" = 0 := by decide
  have millisA := millisOf_bounds a
  have millisB := millisOf_bounds b
  constructor
  · intro same
    have numbers := padded_injective (List.append_cancel_left same)
    unfold idNumber at numbers
    rw [offset] at numbers
    omega
  · intro same
    unfold kindEnvelopeID idNumber
    rw [same]

/-! ## What a session writes -/

variable {σ : Type}

/-- Every id is a UUID, and deliveries of different commands have different ids. -/
def Distinguishable (sent : List Written) : Prop :=
  (∀ written ∈ sent, wellFormedUuid written.id = true) ∧
    ∀ a ∈ sent, ∀ b ∈ sent, ∀ first second, deliveredCommand a.frame = some first →
      deliveredCommand b.frame = some second → first ≠ second → a.id ≠ b.id

/-- Different commands were written at different milliseconds. -/
def Apart (sent : List Written) : Prop :=
  ∀ a ∈ sent, ∀ b ∈ sent, ∀ first second, deliveredCommand a.frame = some first →
    deliveredCommand b.frame = some second → first ≠ second → millisOf a.now ≠ millisOf b.now

theorem clock_delivery (round : Round σ) {frame : Reply} {command : Uuid}
    (delivers : deliveredCommand frame = some command) : round.clock frame = round.env.now := by
  cases frame with
  | commandDeliver pending => rfl
  | resumeAck _ _ _ => cases delivers
  | uplinkAck _ _ => cases delivers
  | pong _ _ _ => cases delivers

theorem replyKind_delivery {frame : Reply} {command : Uuid} (delivers : deliveredCommand frame = some command) :
    replyKind frame = "CommandDeliver" := by
  cases frame with
  | commandDeliver pending => rfl
  | resumeAck _ _ _ => cases delivers
  | uplinkAck _ _ => cases delivers
  | pong _ _ _ => cases delivers

theorem distinguishable_iff (sent : List Written) :
    Distinguishable sent ↔ (∀ written ∈ sent, Fits (replyKind written.frame) written.now) ∧ Apart sent := by
  have ids : ∀ {a b : Written} {first second : Uuid}, deliveredCommand a.frame = some first →
      deliveredCommand b.frame = some second → (a.id = b.id ↔ millisOf a.now = millisOf b.now) := by
    intro a b first second deliversA deliversB
    rw [Written.id, Written.id, replyKind_delivery deliversA, replyKind_delivery deliversB]
    exact delivery_id_eq_iff a.now b.now
  constructor
  · rintro ⟨formed, differ⟩
    refine ⟨fun written member => (wellFormed_iff _ _).mp (formed written member), ?_⟩
    intro a inA b inB first second deliversA deliversB other same
    exact differ a inA b inB first second deliversA deliversB other ((ids deliversA deliversB).mpr same)
  · rintro ⟨fits, apart⟩
    refine ⟨fun written member => (wellFormed_iff _ _).mpr (fits written member), ?_⟩
    intro a inA b inB first second deliversA deliversB other same
    exact apart a inA b inB first second deliversA deliversB other ((ids deliversA deliversB).mp same)

/-! ## The pending reads of a run -/

/-- What a pending read hands over that has not expired, with the clock its frames share. -/
structure Batch where
  now : Timestamp
  commands : List Uuid

def batchOf (env : Environment σ) (pending : List PendingCommand) : Batch where
  now := env.now
  commands := (pending.filter fun one => !expired env.now one.command).map fun one => one.command.id

/-- The reads of the loop, until a frame ends the session. -/
def loopBatches : Session → List (Round σ) → List Batch
  | _, [] => []
  | session, round :: rounds =>
    batchOf round.env (duePending round.env session round.gateway.cloud.commands).2 ::
      match (serveFrame round.env session round.frame round.gateway).next with
      | .ok next => loopBatches next rounds
      | .error _ => []

def batches (opening : Opening σ) (rounds : List (Round σ)) : List Batch :=
  batchOf opening.env opening.batch.2 ::
    match opening.resume.next with
    | .ok session => loopBatches session rounds
    | .error _ => []

/-- Reads that hand over different commands are made at different milliseconds, so none hands
over two. -/
def Spaced (reads : List Batch) : Prop :=
  ∀ a ∈ reads, ∀ b ∈ reads, ∀ first ∈ a.commands, ∀ second ∈ b.commands, first ≠ second →
    millisOf a.now ≠ millisOf b.now

/-- A frame that delivers nothing. -/
def Quiet (turn : Turn σ) : Prop := ∀ frame ∈ turn.sent, deliveredCommand frame = none

section Turns

variable {env : Environment σ} {session : Session} {envelope : Envelope} {gateway : Gateway σ}

theorem serveKind_quiet : Quiet (serveKind env session envelope gateway) := by
  intro frame member
  have other := serveKind_answers.quiet frame member
  cases frame with
  | commandDeliver pending => exact absurd rfl (other pending)
  | _ => rfl

theorem deliverAll_batch (pending : List PendingCommand) {frame : Reply} {command : Uuid}
    (member : frame ∈ (deliverAll env pending).1) (delivers : deliveredCommand frame = some command) :
    command ∈ (batchOf env pending).commands := by
  induction pending with
  | nil => cases member
  | cons first rest ih =>
    unfold deliverAll at member
    unfold batchOf at ih ⊢
    dsimp only at ih ⊢
    split at member
    · rename_i gone
      rw [List.filter_cons_of_neg (by rw [gone]; decide)]
      exact ih member
    · rename_i live
      rw [List.filter_cons_of_pos (by simpa using live), List.map_cons]
      split at member
      · rcases List.mem_cons.mp member with rfl | later
        · cases delivers
          exact List.mem_cons_self
        · exact List.mem_cons_of_mem _ (ih later)
      · cases member

/-- A turn delivers only what its pending read handed over. -/
theorem serveFrame_batch {frame : Frame} {sent : Reply} {command : Uuid}
    (member : sent ∈ (serveFrame env session frame gateway).sent)
    (delivers : deliveredCommand sent = some command) :
    command ∈ (batchOf env (duePending env session gateway.cloud.commands).2).commands := by
  unfold serveFrame at member
  cases read : readEnvelope frame with
  | error err =>
    rw [read] at member
    cases member
  | ok envelope =>
    rw [read] at member
    dsimp only at member
    unfold serveEnvelope at member
    split at member
    · cases member
    · cases touched : gateway.hub.touch session.connectionId env.now with
      | none =>
        rw [touched] at member
        cases member
      | some hub =>
        rw [touched] at member
        dsimp only at member
        cases all : deliverAll env (duePending env session gateway.cloud.commands).2 with
        | mk delivered complete =>
          rw [all] at member
          have handed : sent ∈ delivered →
              command ∈ (batchOf env (duePending env session gateway.cloud.commands).2).commands := by
            intro inBatch
            refine deliverAll_batch _ ?_ delivers
            rw [all]
            exact inBatch
          cases complete with
          | false => exact handed member
          | true =>
            rcases List.mem_append.mp member with inBatch | other
            · exact handed inBatch
            · rw [serveKind_quiet sent other] at delivers
              cases delivers

end Turns

theorem resume_batch {opening : Opening σ} {sent : Reply} {command : Uuid}
    (member : sent ∈ opening.resume.sent) (delivers : deliveredCommand sent = some command) :
    command ∈ (batchOf opening.env opening.batch.2).commands := by
  unfold Opening.resume at member
  cases read : readResume opening.device opening.frame with
  | error err =>
    rw [read] at member
    cases member
  | ok connectionId =>
    rw [read] at member
    dsimp only at member
    cases stands : VodogeCloud.Source.IngressStore.snapshot opening.device.tenantId opening.device.deviceId
        opening.gateway.cloud.journal with
    | error err =>
      rw [stands] at member
      cases member
    | ok window =>
      rw [stands] at member
      dsimp only at member
      cases all : deliverAll opening.env opening.batch.2 with
      | mk delivered complete =>
        have handed : sent ∈ Reply.resumeAck connectionId window opening.env.now :: delivered →
            command ∈ (batchOf opening.env opening.batch.2).commands := by
          intro inSent
          rcases List.mem_cons.mp inSent with rfl | inBatch
          · cases delivers
          · refine deliverAll_batch _ ?_ delivers
            rw [all]
            exact inBatch
        rw [all] at member
        split at member
        · cases complete with
          | false => exact handed member
          | true => exact handed member
        · cases member

/-- A delivery of the run comes from one of its reads, at the time of the read. -/
def From (reads : List Batch) (written : Written) : Prop :=
  ∀ command, deliveredCommand written.frame = some command →
    ∃ batch ∈ reads, batch.now = written.now ∧ command ∈ batch.commands

theorem From.later {batch : Batch} {reads : List Batch} {written : Written} (from_ : From reads written) :
    From (batch :: reads) written := by
  intro command delivers
  obtain ⟨other, member, now, inBatch⟩ := from_ command delivers
  exact ⟨other, List.mem_cons_of_mem _ member, now, inBatch⟩

theorem loop_from {session : Session} {rounds : List (Round σ)} :
    ∀ written ∈ loop session rounds, From (loopBatches session rounds) written := by
  induction rounds generalizing session with
  | nil => exact fun _ member => nomatch member
  | cons round rounds ih =>
    intro written member
    rw [loop] at member
    rw [loopBatches]
    rcases List.mem_append.mp member with here | later
    · obtain ⟨sent, inTurn, rfl⟩ := List.mem_map.mp here
      exact fun command delivers =>
        ⟨_, List.mem_cons_self, (clock_delivery round delivers).symm, serveFrame_batch inTurn delivers⟩
    · cases next : (serveFrame round.env session round.frame round.gateway).next with
      | ok session' =>
        rw [next] at later
        exact (ih written later).later
      | error err =>
        rw [next] at later
        cases later

theorem serveDevice_from (opening : Opening σ) (rounds : List (Round σ)) :
    ∀ written ∈ serveDevice opening rounds, From (batches opening rounds) written := by
  intro written member
  unfold serveDevice at member
  unfold batches
  rcases List.mem_append.mp member with here | later
  · obtain ⟨sent, inTurn, rfl⟩ := List.mem_map.mp here
    exact fun command delivers => ⟨_, List.mem_cons_self, rfl, resume_batch inTurn delivers⟩
  · cases next : opening.resume.next with
    | ok session =>
      rw [next] at later
      exact (loop_from written later).later
    | error err =>
      rw [next] at later
      cases later

/-- The frames of a session are told apart exactly when every number fits its digits and
different commands were written at different milliseconds; which they are as soon as the
pending reads are spaced. -/
theorem deliveries_distinguishable (opening : Opening σ) (rounds : List (Round σ)) :
    (Distinguishable (serveDevice opening rounds) ↔
      (∀ written ∈ serveDevice opening rounds, Fits (replyKind written.frame) written.now) ∧
        Apart (serveDevice opening rounds)) ∧
      (Spaced (batches opening rounds) → Apart (serveDevice opening rounds)) := by
  refine ⟨distinguishable_iff _, fun spaced => ?_⟩
  intro a inA b inB first second deliversA deliversB other
  obtain ⟨batchA, memberA, nowA, handedA⟩ := serveDevice_from opening rounds a inA first deliversA
  obtain ⟨batchB, memberB, nowB, handedB⟩ := serveDevice_from opening rounds b inB second deliversB
  rw [← nowA, ← nowB]
  exact spaced batchA memberA batchB memberB first handedA second handedB other

/-! ## Two commands in one read -/

/-- The restarts of two modules of device 7 wait. -/
def waitingCommands : CommandDb :=
  run (CommandOp.apply plainCalendar) .empty
    [.enqueueCommand (fun _ _ => true) (some 5) ⟨5, 7, .restartModem, .obj [], "a", 1000⟩ 1 1 0,
      .enqueueCommand (fun _ _ => true) (some 5) ⟨5, 7, .restartModem, .obj [], "b", 1000⟩ 2 2 0]

/-- The device resumes. -/
def resuming : Opening Unit where
  env := sampleEnvironment fun rest _ => .ok rest
  gateway := sampleGateway () waitingCommands
  frame := sampleFrame "Resume" "00000000-0000-4000-8000-000000000001" []
    (.obj [(chars "connection_id", .str (chars "c2")), (chars "last_assigned_seq", .str (chars "0")),
      (chars "last_acked_seq", .str (chars "0")), (chars "pending_gap_ids", .arr []),
      (chars "capability_matrix_version", .str (chars "1"))])
  device := sampleDevice
  resumeReport := id

theorem resuming_written :
    (serveDevice resuming []).map (fun written => (deliveredCommand written.frame, written.id)) =
      [(none, "00000000-0000-4000-8000-000000000001".toList),
        (some 1, "00000000-0000-4000-8000-000000000000".toList),
        (some 2, "00000000-0000-4000-8000-000000000000".toList)] := by
  decide +kernel

/-- The two restarts go out under one id. -/
theorem one_read_one_id : ¬ Distinguishable (serveDevice resuming []) := by
  rintro ⟨_, differ⟩
  have first : (some 1, "00000000-0000-4000-8000-000000000000".toList) ∈
      (serveDevice resuming []).map fun written => (deliveredCommand written.frame, written.id) := by
    rw [resuming_written]
    exact List.mem_cons_of_mem _ List.mem_cons_self
  have second : (some 2, "00000000-0000-4000-8000-000000000000".toList) ∈
      (serveDevice resuming []).map fun written => (deliveredCommand written.frame, written.id) := by
    rw [resuming_written]
    exact List.mem_cons_of_mem _ (List.mem_cons_of_mem _ List.mem_cons_self)
  obtain ⟨a, inA, sameA⟩ := List.mem_map.mp first
  obtain ⟨b, inB, sameB⟩ := List.mem_map.mp second
  rw [Prod.mk.injEq] at sameA sameB
  exact differ a inA b inB 1 2 sameA.1 sameB.1 (by decide) (sameA.2.trans sameB.2.symm)

end VodogeCloud.Guarantees.DeliveryIds
