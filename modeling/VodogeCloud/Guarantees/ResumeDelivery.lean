import VodogeCloud.Guarantees.CurrentPolicies
import VodogeCloud.Guarantees.MatrixOrders
import VodogeCloud.Source.DeviceResume

/-!
# What a stale device can still get

A resume orders the current matrix and the current policies again, under the key of the
first push. With a free key the order is a new command; with a taken one it changes
nothing, so the device gets the current state only from a command that was live before.
A push that expired keeps its key.
-/

set_option autoImplicit false

namespace VodogeCloud.Guarantees.ResumeDelivery

open VodogeCloud.Lib VodogeCloud.Lib.Transactions VodogeCloud.Source VodogeCloud.Source.Postgres
open VodogeCloud.Source.CommandTables VodogeCloud.Source.CommandLifecycle VodogeCloud.Source.PendingCommands
open VodogeCloud.Source.GoJson VodogeCloud.Source.JsonText VodogeCloud.Source.CapabilityMatrix
open VodogeCloud.Source.CardPolicies
open VodogeCloud.Source.CardDelivery (World Draw pushArgs)
open VodogeCloud.Source.MatrixDelivery (matrixArgs matrixTTL enqueue reconciliation)
open VodogeCloud.Source.DeviceResume
open VodogeCloud.Guarantees.EnqueuedCommands VodogeCloud.Guarantees.CardRenderings
open VodogeCloud.Guarantees.CurrentPolicies (CarriesSet)
open VodogeCloud.Guarantees.MatrixDigests (integerFloat payloadObject_get)
open VodogeCloud.Guarantees.MatrixOrders (ledgerEntry)
open VodogeCloud.Guarantees.PolicyCommands (plainWorld)

/-- A command of the device that is still to be delivered at `now` and carries such a payload. -/
structure Live (now : Timestamp) (tenant device : Uuid) (kind : CommandKind) (carries : Jsonb → Prop)
    (row : CommandRow) : Prop where
  tenant : row.tenantId = tenant
  device : row.deviceId = device
  kind : row.kind = kind
  carries : carries row.payload
  open_ : row.status.open = true
  future : now < row.expiresAt

def Deliverable (now : Timestamp) (tenant device : Uuid) (kind : CommandKind) (carries : Jsonb → Prop)
    (db : CommandDb) : Prop :=
  ∃ row ∈ db.commands, Live now tenant device kind carries row

/-! ## One enqueue -/

section Enqueue

variable {registered : Uuid → Uuid → Bool} {context : Option Uuid} {args : EnqueueArgs} {id : Uuid}
  {outboxId : Nat} {issued now : Timestamp} {db db' : CommandDb} {queued : CommandRow}

/-- After an enqueue its payload is deliverable if the key was free, or if it was before. -/
theorem enqueue_delivers {carries : Jsonb → Prop} (carried : carries args.payload)
    (done : enqueueCommand registered context args id outboxId issued db = .ok (db', queued)) :
    Deliverable now args.tenantId args.deviceId args.kind carries db' ↔
      (¬ KeyTaken db args.tenantId args.idempotencyKey ∧ now < args.expiresAt) ∨
        Deliverable now args.tenantId args.deviceId args.kind carries db := by
  rcases enqueueCommand_cases done with ⟨rfl, member, tenant, key, _⟩ | ⟨rfl, free, _, members⟩
  · have taken : KeyTaken db' args.tenantId args.idempotencyKey := ⟨queued, member, tenant, key⟩
    constructor
    · exact Or.inr
    · rintro (⟨free, _⟩ | there)
      · exact absurd taken free
      · exact there
  · constructor
    · rintro ⟨row, member, live⟩
      rcases (members row).mp member with old | rfl
      · exact Or.inr ⟨row, old, live⟩
      · exact Or.inl ⟨free, live.future⟩
    · rintro (⟨_, future⟩ | ⟨row, member, live⟩)
      · exact ⟨_, (members _).mpr (Or.inr rfl), ⟨rfl, rfl, rfl, carried, rfl, future⟩⟩
      · exact ⟨row, (members row).mpr (Or.inl member), live⟩

/-- An enqueue is nothing to the commands of another kind. -/
theorem enqueue_other_kind {tenant device : Uuid} {kind : CommandKind} {carries : Jsonb → Prop}
    (other : args.kind ≠ kind)
    (done : enqueueCommand registered context args id outboxId issued db = .ok (db', queued)) :
    Deliverable now tenant device kind carries db' ↔ Deliverable now tenant device kind carries db := by
  rcases enqueueCommand_cases done with ⟨rfl, _⟩ | ⟨rfl, _, _, members⟩
  · exact Iff.rfl
  · constructor
    · rintro ⟨row, member, live⟩
      rcases (members row).mp member with old | rfl
      · exact ⟨row, old, live⟩
      · exact absurd live.kind other
    · rintro ⟨row, member, live⟩
      exact ⟨row, (members row).mpr (Or.inl member), live⟩

theorem enqueue_other_key {tenant : Uuid} {key : String} (other : args.idempotencyKey ≠ key)
    (done : enqueueCommand registered context args id outboxId issued db = .ok (db', queued)) :
    KeyTaken db' tenant key ↔ KeyTaken db tenant key := by
  rcases enqueueCommand_cases done with ⟨rfl, _⟩ | ⟨rfl, _, _, members⟩
  · exact Iff.rfl
  · constructor
    · rintro ⟨row, member, own, same⟩
      rcases (members row).mp member with old | rfl
      · exact ⟨row, old, own, same⟩
      · exact absurd same other
    · rintro ⟨row, member, held⟩
      exact ⟨row, (members row).mpr (Or.inl member), held⟩

end Enqueue

theorem words_differ (rest rest' : String) :
    "update_card_policy:" ++ rest ≠ "update_capability_matrix:" ++ rest' := by
  intro same
  have letters := congrArg (fun key : String => key.toList.take 10) same
  rw [String.toList_append, String.toList_append, List.take_append_of_le_length (by decide),
    List.take_append_of_le_length (by decide)] at letters
  exact absurd letters (by decide)

/-- The keys of the two pushes differ in their first word. -/
theorem keys_differ (deviceId version deviceId' version' : String) (payload payload' : List Char) :
    CardDelivery.cardPolicyKey deviceId version payload ≠ matrixKey deviceId' version' payload' := by
  intro same
  unfold CardDelivery.cardPolicyKey matrixKey at same
  simp only [String.append_assoc] at same
  exact words_differ _ _ same

/-! ## A whole resume -/

/-- The stored matrix as `Get` reads it. -/
def current (row : MatrixRow) : Overlay := ⟨row.version, row.sha256, .column row.document⟩

/-- The key under which a reconnect orders the stored matrix. -/
def matrixPushKey (device : Uuid) (row : MatrixRow) : String :=
  matrixKey (uuidOut device) row.version (payloadText (current row))

/-- The key under which a reconnect orders the policies of the tenant. -/
def policyPushKey (tenant device : Uuid) (cards : CardDb) : String :=
  CardDelivery.cardPolicyKey (uuidOut device) (cards.version tenant)
    (CardDelivery.commandText (CardDelivery.commandOfRows (cards.version tenant) (cards.list tenant)))

def CarriesMatrix (row : MatrixRow) (payload : Jsonb) : Prop := payload.get "matrix" = some row.document

theorem payload_carries (row : MatrixRow) :
    CarriesMatrix row (payloadObject row.version row.sha256 row.document) :=
  (payloadObject_get row.version row.sha256 row.document).2.2

section Resume

variable {world : World} {tenant device : Uuid} {held : String} {draw : Draw} {now : Timestamp}
  {commands after : CommandDb}

theorem settled_ok {α : Type} {before : α} {result : Except PgError α} (clean : (settled before result).2 = []) :
    result = .ok (settled before result).1 := by
  cases result with
  | ok after => rfl
  | error err => cases clean

/-- Without a store error each part of a resume has done its work, one after the other. -/
theorem recordResume_ok {report : DeviceReport} {draw : ResumeDraw} {gateway : Gateway}
    (completed : (recordResume world tenant device report draw gateway).2 = []) :
    ∃ pushed, reconcileCardPolicies world tenant device report.cardPolicyVersion draw.policies gateway.cards
        gateway.commands = .ok pushed ∧
      reconcileMatrix world tenant device report.matrixVersion draw.matrix gateway.matrices pushed =
        .ok (recordResume world tenant device report draw gateway).1.commands := by
  have errors := List.append_eq_nil_iff.mp completed
  have cards := settled_ok (List.append_eq_nil_iff.mp errors.1).2
  exact ⟨_, cards, settled_ok errors.2⟩

theorem reconcileCardPolicies_cases {cards : CardDb}
    (done : reconcileCardPolicies world tenant device held draw cards commands = .ok after) :
    (after = commands ∧ (held = cards.version tenant ∨ cards.list tenant = [])) ∨
      (cards.list tenant ≠ [] ∧ ∃ queued, enqueueCommand world.registered (some tenant)
        (pushArgs tenant device (cards.version tenant) (cards.list tenant) draw.gateway) draw.commandId
        draw.outboxId draw.database commands = .ok (after, queued)) := by
  unfold reconcileCardPolicies at done
  by_cases skipped : held ≠ "" ∧ held = cards.version tenant
  · rw [if_pos skipped] at done
    cases done
    exact Or.inl ⟨rfl, Or.inl skipped.2⟩
  · rw [if_neg skipped] at done
    by_cases empty : cards.list tenant = []
    · rw [if_pos empty] at done
      cases done
      exact Or.inl ⟨rfl, Or.inr empty⟩
    · rw [if_neg empty] at done
      obtain ⟨⟨written, queued⟩, enqueued, rfl⟩ := map_success done
      exact Or.inr ⟨empty, queued, enqueued⟩

/-- Policies leave the matrix commands and the keys of the matrix alone. -/
theorem reconcileCardPolicies_elsewhere {cards : CardDb}
    (done : reconcileCardPolicies world tenant device held draw cards commands = .ok after) (row : MatrixRow) :
    (Deliverable now tenant device .updateCapabilityMatrix (CarriesMatrix row) after ↔
      Deliverable now tenant device .updateCapabilityMatrix (CarriesMatrix row) commands) ∧
    (KeyTaken after tenant (matrixPushKey device row) ↔ KeyTaken commands tenant (matrixPushKey device row)) := by
  rcases reconcileCardPolicies_cases done with ⟨rfl, _⟩ | ⟨_, queued, enqueued⟩
  · exact ⟨Iff.rfl, Iff.rfl⟩
  · refine ⟨enqueue_other_kind ?_ enqueued, enqueue_other_key ?_ enqueued⟩
    · exact CommandKind.noConfusion
    · exact keys_differ _ _ _ _ _ _

theorem reconcileMatrix_stale {matrices : MatrixDb} {row : MatrixRow} (found : matrices.find tenant = some row)
    (named : row.version ≠ "") (stale : held ≠ row.version)
    (done : reconcileMatrix world tenant device held draw matrices commands = .ok after) :
    ∃ queued, enqueueCommand world.registered (some tenant)
      (matrixArgs tenant device (current row) draw.gateway (payloadObject row.version row.sha256 row.document))
      draw.commandId draw.outboxId draw.database commands = .ok (after, queued) := by
  have wanted : reconciliation tenant held matrices = some (current row) := by
    unfold reconciliation CapabilityMatrix.get
    rw [found]
    simp [named, stale, current]
  unfold reconcileMatrix at done
  rw [wanted] at done
  obtain ⟨payload, built, queueing⟩ := bind_success done
  obtain ⟨⟨written, queued⟩, enqueued, finished⟩ := bind_success queueing
  cases built
  cases finished
  exact ⟨queued, enqueued⟩

theorem reconcileMatrix_elsewhere {matrices : MatrixDb} {carries : Jsonb → Prop}
    (done : reconcileMatrix world tenant device held draw matrices commands = .ok after) :
    Deliverable now tenant device .updateCardPolicy carries after ↔
      Deliverable now tenant device .updateCardPolicy carries commands := by
  unfold reconcileMatrix at done
  cases wanted : reconciliation tenant held matrices with
  | none =>
    rw [wanted] at done
    cases done
    exact Iff.rfl
  | some overlay =>
    rw [wanted] at done
    obtain ⟨payload, _, queueing⟩ := bind_success done
    obtain ⟨⟨written, queued⟩, enqueued, finished⟩ := bind_success queueing
    cases finished
    exact enqueue_other_kind CommandKind.noConfusion enqueued

end Resume

/-! ## Every resume of every run -/

section Runs

variable {world : World} {tenant device : Uuid} {report : DeviceReport} {draw : ResumeDraw}
  {gateway : Gateway} {now : Timestamp}

theorem matrix_delivered (completed : (recordResume world tenant device report draw gateway).2 = [])
    {row : MatrixRow} (found : gateway.matrices.find tenant = some row) (named : row.version ≠ "")
    (stale : report.matrixVersion ≠ row.version) :
    Deliverable now tenant device .updateCapabilityMatrix (CarriesMatrix row)
        (recordResume world tenant device report draw gateway).1.commands ↔
      (¬ KeyTaken gateway.commands tenant (matrixPushKey device row) ∧ now < draw.matrix.gateway + matrixTTL) ∨
        Deliverable now tenant device .updateCapabilityMatrix (CarriesMatrix row) gateway.commands := by
  obtain ⟨pushed, policies, matrix⟩ := recordResume_ok completed
  obtain ⟨queued, enqueued⟩ := reconcileMatrix_stale found named stale matrix
  obtain ⟨there, key⟩ := @reconcileCardPolicies_elsewhere _ _ _ _ _ now _ _ _ policies row
  rw [← there, ← key]
  exact enqueue_delivers (payload_carries row) enqueued

theorem policies_delivered (completed : (recordResume world tenant device report draw gateway).2 = [])
    (stale : report.cardPolicyVersion ≠ gateway.cards.version tenant) :
    Deliverable now tenant device .updateCardPolicy
        (fun payload => CarriesSet world.number payload (gateway.cards.list tenant))
        (recordResume world tenant device report draw gateway).1.commands ↔
      (gateway.cards.list tenant ≠ [] ∧
        ¬ KeyTaken gateway.commands tenant (policyPushKey tenant device gateway.cards) ∧
        now < draw.policies.gateway + cardPolicyTTL) ∨
        Deliverable now tenant device .updateCardPolicy
          (fun payload => CarriesSet world.number payload (gateway.cards.list tenant)) gateway.commands := by
  obtain ⟨pushed, policies, matrix⟩ := recordResume_ok completed
  rw [reconcileMatrix_elsewhere matrix]
  rcases reconcileCardPolicies_cases policies with ⟨rfl, skipped⟩ | ⟨filled, queued, enqueued⟩
  · simp [skipped.resolve_left stale]
  · have carried : CarriesSet world.number (pushArgs tenant device (gateway.cards.version tenant)
        (gateway.cards.list tenant) draw.policies.gateway).payload (gateway.cards.list tenant) :=
      ⟨gateway.cards.version tenant, carries_push _ _⟩
    have delivered := @enqueue_delivers _ _ _ _ _ _ now _ _ _
      (fun payload => CarriesSet world.number payload (gateway.cards.list tenant)) carried enqueued
    rw [and_iff_right filled]
    exact delivered

end Runs

/-- The condition at each resume of a run: a free key, or a command that was live before. -/
theorem resume_delivers_iff (world : World) (float : FloatFormat) (events : List Event) (tenant device : Uuid)
    (report : DeviceReport) (draw : ResumeDraw) (now : Timestamp)
    (completed : (recordResume world tenant device report draw (reached world float events)).2 = []) :
    (∀ row, (reached world float events).matrices.find tenant = some row → row.version ≠ "" →
      report.matrixVersion ≠ row.version →
      (Deliverable now tenant device .updateCapabilityMatrix (CarriesMatrix row)
          (recordResume world tenant device report draw (reached world float events)).1.commands ↔
        (¬ KeyTaken (reached world float events).commands tenant (matrixPushKey device row) ∧
          now < draw.matrix.gateway + matrixTTL) ∨
        Deliverable now tenant device .updateCapabilityMatrix (CarriesMatrix row)
          (reached world float events).commands)) ∧
    (report.cardPolicyVersion ≠ (reached world float events).cards.version tenant →
      (Deliverable now tenant device .updateCardPolicy
          (fun payload => CarriesSet world.number payload ((reached world float events).cards.list tenant))
          (recordResume world tenant device report draw (reached world float events)).1.commands ↔
        ((reached world float events).cards.list tenant ≠ [] ∧
          ¬ KeyTaken (reached world float events).commands tenant
            (policyPushKey tenant device (reached world float events).cards) ∧
          now < draw.policies.gateway + cardPolicyTTL) ∨
        Deliverable now tenant device .updateCardPolicy
          (fun payload => CarriesSet world.number payload ((reached world float events).cards.list tenant))
          (reached world float events).commands)) :=
  ⟨fun _ found named stale => matrix_delivered completed found named stale, policies_delivered completed⟩

/-! ## A push that expired -/

instance (now : Timestamp) (tenant device : Uuid) (kind : CommandKind) (carries : Jsonb → Prop)
    [DecidablePred carries] (row : CommandRow) : Decidable (Live now tenant device kind carries row) :=
  decidable_of_iff (row.tenantId = tenant ∧ row.deviceId = device ∧ row.kind = kind ∧ carries row.payload ∧
      row.status.open = true ∧ now < row.expiresAt)
    ⟨fun h => ⟨h.1, h.2.1, h.2.2.1, h.2.2.2.1, h.2.2.2.2.1, h.2.2.2.2.2⟩,
      fun h => ⟨h.tenant, h.device, h.kind, h.carries, h.open_, h.future⟩⟩

instance (now : Timestamp) (tenant device : Uuid) (kind : CommandKind) (carries : Jsonb → Prop)
    [DecidablePred carries] (db : CommandDb) : Decidable (Deliverable now tenant device kind carries db) :=
  inferInstanceAs (Decidable (∃ row ∈ db.commands, _))

instance (row : MatrixRow) : DecidablePred (CarriesMatrix row) := fun payload =>
  inferInstanceAs (Decidable (payload.get "matrix" = some row.document))

/-- A device that says nothing of what it holds. -/
def silent : DeviceReport := ⟨"", "", "", 0, 0⟩

def drawAt (clock : Timestamp) (id : Uuid) (outboxId : Nat) : ResumeDraw :=
  ⟨clock, ⟨id, outboxId, clock, clock, []⟩, ⟨id + 1, outboxId + 1, clock, clock, []⟩⟩

/-- A publish before the tenant has a device. -/
def published : List Event :=
  [.matrices (.publish 1 "1" [ledgerEntry (some "supported")] []),
    .matrices (.advance 0 ⟨0, 0, 5, 5, []⟩), .enrolled ⟨7, 1, none, none, none, none, none⟩]

/-- The device connects, and disconnects before it has the matrix. -/
def expired : List Event :=
  published ++ [.resume 1 7 silent (drawAt 10 1 1),
    .cards (.lifecycle (.expireOverdueTenantCommands (some 1) 1 (some 8000000000)))]

def storedRow (events : List Event) : MatrixRow :=
  ((reached plainWorld integerFloat events).matrices.find 1).getD ⟨1, "", "", .null⟩

theorem first_resume_delivers :
    Deliverable 10 1 7 .updateCapabilityMatrix (CarriesMatrix (storedRow published))
      (recordResume plainWorld 1 7 silent (drawAt 10 1 1) (reached plainWorld integerFloat published)).1.commands := by
  have facts : (recordResume plainWorld 1 7 silent (drawAt 10 1 1)
        (reached plainWorld integerFloat published)).2 = [] ∧
      (reached plainWorld integerFloat published).matrices.find 1 = some (storedRow published) ∧
      (storedRow published).version ≠ "" ∧ silent.matrixVersion ≠ (storedRow published).version ∧
      ¬ KeyTaken (reached plainWorld integerFloat published).commands 1 (matrixPushKey 7 (storedRow published)) := by
    decide +kernel
  obtain ⟨completed, found, named, stale, free⟩ := facts
  exact ((resume_delivers_iff plainWorld integerFloat published 1 7 silent (drawAt 10 1 1) 10 completed).1 _ found
    named stale).mpr (Or.inl ⟨free, by decide⟩)

theorem expired_push_stays_lost :
    (reached plainWorld integerFloat expired).matrices.find 1 = some (storedRow expired) ∧
    (storedRow expired).version ≠ "" ∧ silent.matrixVersion ≠ (storedRow expired).version ∧
    (recordResume plainWorld 1 7 silent (drawAt 9000000000 3 3) (reached plainWorld integerFloat expired)).2 = [] ∧
    ¬ Deliverable 9000000000 1 7 .updateCapabilityMatrix (CarriesMatrix (storedRow expired))
      (recordResume plainWorld 1 7 silent (drawAt 9000000000 3 3)
        (reached plainWorld integerFloat expired)).1.commands := by
  decide +kernel

end VodogeCloud.Guarantees.ResumeDelivery
