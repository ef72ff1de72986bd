import VodogeCloud.Guarantees.MatrixOrders
import VodogeCloud.Source.MatrixRequest

/-!
# A put that fails half way

`putMatrix` stores the overlay before it queues anything, and what it has queued when
an `Enqueue` fails stays queued. So an answer that says error leaves the tables alone
only where there was nothing left to write: the request did not get past `Put`, or the
overlay and the commands ahead of the failure were there already. A version that is put
again with another document is the case that matters, because its commands meet the keys
of the first.
-/

set_option autoImplicit false

namespace VodogeCloud.Guarantees.WholePuts

open VodogeCloud.Lib VodogeCloud.Lib.Transactions
open VodogeCloud.Source.Postgres VodogeCloud.Source.CommandTables VodogeCloud.Source.CommandLifecycle
open VodogeCloud.Source.GoJson VodogeCloud.Source.CapabilityMatrix VodogeCloud.Source.MatrixDelivery
open VodogeCloud.Source.MatrixRequest
open VodogeCloud.Source.CardDelivery (World Draw)
open VodogeCloud.Guarantees.EnqueuedCommands VodogeCloud.Guarantees.MatrixDigests
open VodogeCloud.Guarantees.MatrixOrders VodogeCloud.Guarantees.PolicyCommands

/-! ## One command -/

/-- The key of a put, for one device. -/
def putKey (version : String) (device : Uuid) : String := "matrix:" ++ version ++ ":" ++ uuidOut device

/-- A command of the put: the overlay as payload, under the key of the device. -/
structure Carries (tenant : Uuid) (overlay : Overlay) (device : Uuid) (row : CommandRow) : Prop where
  tenant : row.tenantId = tenant
  key : row.idempotencyKey = putKey overlay.version device
  payload : commandPayload overlay = .ok row.payload

section Loop

variable {world : World} {tenant : Uuid} {overlay : Overlay} {expires : Timestamp} {call : Call}
  {commands after : CommandDb}

/-- An `Enqueue` finds the command, or adds it. -/
theorem enqueueCall_cases (h : enqueueCall world tenant overlay expires call commands = some after) :
    ∃ row, Carries tenant overlay call.device row ∧ row ∈ after.commands ∧
      ((after = commands ∧ KeyTaken commands tenant (putKey overlay.version call.device)) ∨
        (row ∉ commands.commands ∧ ¬ KeyTaken commands tenant (putKey overlay.version call.device) ∧
          ∀ other, other ∈ after.commands ↔ other ∈ commands.commands ∨ other = row)) := by
  unfold enqueueCall at h
  split at h
  · cases done : enqueue world tenant overlay (putArgs tenant call.device overlay expires) call.draw commands with
    | error err =>
      rw [done] at h
      cases h
    | ok written =>
      rw [done] at h
      cases h
      obtain ⟨payload, row, built, queued⟩ := enqueue_ok done
      rcases enqueueCommand_cases queued with ⟨rfl, member, owner, key, _, _, same⟩ | ⟨rfl, free, absent, members⟩
      · exact ⟨row, ⟨owner, key, by rw [same]; exact built⟩, member, Or.inl ⟨rfl, row, member, owner, key⟩⟩
      · refine ⟨_, ⟨rfl, rfl, built⟩, (members _).mpr (Or.inr rfl), Or.inr ⟨?_, free, members⟩⟩
        exact fun old => absent _ old rfl
  · cases h

theorem enqueueCall_keeps (h : enqueueCall world tenant overlay expires call commands = some after)
    {row : CommandRow} (member : row ∈ commands.commands) : row ∈ after.commands := by
  obtain ⟨_, _, _, ⟨rfl, _⟩ | ⟨_, _, members⟩⟩ := enqueueCall_cases h
  · exact member
  · exact (members row).mpr (Or.inl member)

/-! ## The loop -/

/-- Every `Enqueue` goes through. -/
def AllTaken (world : World) (tenant : Uuid) (overlay : Overlay) (expires : Timestamp) :
    List Call → CommandDb → Prop
  | [], _ => True
  | call :: rest, commands => ∃ after, enqueueCall world tenant overlay expires call commands = some after ∧
      AllTaken world tenant overlay expires rest after

/-- Every device ahead of the first whose `Enqueue` fails has the command. -/
def AheadKnown (world : World) (tenant : Uuid) (overlay : Overlay) (expires : Timestamp)
    (commands : CommandDb) : List Call → Prop
  | [] => True
  | call :: rest => (enqueueCall world tenant overlay expires call commands).isSome = true →
      KeyTaken commands tenant (putKey overlay.version call.device) ∧
        AheadKnown world tenant overlay expires commands rest

theorem enqueueAll_keeps (calls : List Call) (queued : Nat) (commands : CommandDb) {row : CommandRow}
    (member : row ∈ commands.commands) :
    row ∈ (enqueueAll world tenant overlay expires calls queued commands).1.commands := by
  induction calls generalizing queued commands with
  | nil => exact member
  | cons call rest ih =>
    unfold enqueueAll
    cases done : enqueueCall world tenant overlay expires call commands with
    | none => exact member
    | some after => exact ih (queued + 1) after (enqueueCall_keeps done member)

theorem enqueueAll_ended (calls : List Call) (queued : Nat) (commands : CommandDb) :
    (enqueueAll world tenant overlay expires calls queued commands).2.2 = true ↔
      AllTaken world tenant overlay expires calls commands := by
  induction calls generalizing queued commands with
  | nil => exact iff_of_true rfl trivial
  | cons call rest ih =>
    unfold enqueueAll AllTaken
    cases done : enqueueCall world tenant overlay expires call commands with
    | none =>
      refine iff_of_false (by simp) ?_
      rintro ⟨after, impossible, _⟩
      cases impossible
    | some after =>
      refine (ih (queued + 1) after).trans ⟨fun taken => ⟨after, rfl, taken⟩, ?_⟩
      rintro ⟨_, same, taken⟩
      cases same
      exact taken

/-- A loop that breaks off has written nothing exactly if the commands ahead were there. -/
theorem enqueueAll_broken {calls : List Call} {queued : Nat} {commands : CommandDb}
    (broken : (enqueueAll world tenant overlay expires calls queued commands).2.2 = false) :
    (∀ row, row ∈ (enqueueAll world tenant overlay expires calls queued commands).1.commands ↔
      row ∈ commands.commands) ↔ AheadKnown world tenant overlay expires commands calls := by
  induction calls generalizing queued commands with
  | nil => cases broken
  | cons call rest ih =>
    unfold enqueueAll at broken ⊢
    unfold AheadKnown
    cases done : enqueueCall world tenant overlay expires call commands with
    | none => exact iff_of_true (fun _ => Iff.rfl) nofun
    | some after =>
      rw [done] at broken
      dsimp only at broken ⊢
      simp only [Option.isSome_some, forall_const]
      obtain ⟨row, _, added, ⟨rfl, known⟩ | ⟨fresh, free, _⟩⟩ := enqueueCall_cases done
      · rw [and_iff_right known]
        exact ih broken
      · refine iff_of_false (fun same => fresh ?_) (fun known => free known.1)
        exact (same row).mp (enqueueAll_keeps rest (queued + 1) after added)

/-- What the loop leaves: the rows that were there, and commands of the put. -/
theorem mem_enqueueAll {calls : List Call} {queued : Nat} {commands : CommandDb} {row : CommandRow}
    (member : row ∈ (enqueueAll world tenant overlay expires calls queued commands).1.commands) :
    row ∈ commands.commands ∨ ∃ call ∈ calls, Carries tenant overlay call.device row := by
  induction calls generalizing queued commands with
  | nil => exact Or.inl member
  | cons call rest ih =>
    unfold enqueueAll at member
    cases done : enqueueCall world tenant overlay expires call commands with
    | none =>
      rw [done] at member
      exact Or.inl member
    | some after =>
      rw [done] at member
      rcases ih member with before | ⟨other, inRest, carries⟩
      · obtain ⟨made, carries, _, ⟨rfl, _⟩ | ⟨_, _, members⟩⟩ := enqueueCall_cases done
        · exact Or.inl before
        · rcases (members row).mp before with old | rfl
          · exact Or.inl old
          · exact Or.inr ⟨call, List.mem_cons_self, carries⟩
      · exact Or.inr ⟨other, List.mem_cons_of_mem _ inRest, carries⟩

/-- Once the loop has ended, every device has the command. -/
theorem enqueueAll_carries {calls : List Call} {queued : Nat} {commands : CommandDb}
    (ended : (enqueueAll world tenant overlay expires calls queued commands).2.2 = true) :
    ∀ call ∈ calls, ∃ row ∈ (enqueueAll world tenant overlay expires calls queued commands).1.commands,
      Carries tenant overlay call.device row := by
  induction calls generalizing queued commands with
  | nil => exact List.forall_mem_nil _
  | cons first rest ih =>
    unfold enqueueAll at ended ⊢
    cases done : enqueueCall world tenant overlay expires first commands with
    | none =>
      rw [done] at ended
      cases ended
    | some after =>
      rw [done] at ended
      refine List.forall_mem_cons.mpr ⟨?_, ih ended⟩
      obtain ⟨row, carries, added, _⟩ := enqueueCall_cases done
      exact ⟨row, enqueueAll_keeps rest (queued + 1) after added, carries⟩

end Loop

/-! ## The request -/

section Request

variable {world : World} {float : FloatFormat} {calls : Calls} {request : Request} {stores : Stores}
  {tenant : Uuid} {overlay : Overlay} {matrices : MatrixDb}

def Unchanged (before after : Stores) : Prop :=
  (∀ tenant, after.matrices.find tenant = before.matrices.find tenant) ∧
    ∀ row, row ∈ after.commands.commands ↔ row ∈ before.commands.commands

/-- An error leaves the overlays and the commands as they were. -/
def AllOrNothing (world : World) (float : FloatFormat) (calls : Calls) (request : Request) (stores : Stores) :
    Prop :=
  (putMatrix world float calls request stores).2.isError = true →
    Unchanged stores (putMatrix world float calls request stores).1

/-- The tenant has the overlay stored. -/
def Held (tenant : Uuid) (overlay : Overlay) (matrices : MatrixDb) : Prop :=
  ∃ value, overlay.document.value = .ok value ∧
    matrices.find tenant = some ⟨tenant, overlay.version, overlay.sha256, value⟩

/-- What `Put` is called with. -/
structure Asks (float : FloatFormat) (request : Request) (tenant : Uuid) (overlay : Overlay) : Prop where
  tenant : request.tenant = some tenant
  overlay : ∃ raw, request.matrix = some raw ∧ parse float raw = .ok overlay

/-- Nothing fails once `Put` has stored the overlay, or what is written ahead of the
failure was there. -/
def Whole (world : World) (float : FloatFormat) (calls : Calls) (request : Request) (stores : Stores) : Prop :=
  ∀ tenant overlay, Asks float request tenant overlay →
    (putCall calls tenant overlay stores.matrices).isSome = true →
    (∃ devices, calls.devices = some devices ∧
      AllTaken world tenant overlay (calls.gateway + putTTL) devices stores.commands) ∨
    (Held tenant overlay stores.matrices ∧ ∀ devices, calls.devices = some devices →
      AheadKnown world tenant overlay (calls.gateway + putTTL) stores.commands devices)

theorem putCall_ok (h : putCall calls tenant overlay stores.matrices = some matrices) :
    Held tenant overlay matrices ∧
      ∀ other, other ≠ tenant → matrices.find other = stores.matrices.find other := by
  unfold putCall at h
  split at h
  · cases stored : Source.CapabilityMatrix.put tenant overlay stores.matrices with
    | error err =>
      rw [stored] at h
      cases h
    | ok written =>
      rw [stored] at h
      cases h
      obtain ⟨value, cast, found, others⟩ := put_ok stored
      exact ⟨⟨value, cast, found⟩, others⟩
  · cases h

/-- The overlay was stored before exactly if `Put` changes no row. -/
theorem held_iff (stored : putCall calls tenant overlay stores.matrices = some matrices) :
    (∀ owner, matrices.find owner = stores.matrices.find owner) ↔ Held tenant overlay stores.matrices := by
  obtain ⟨⟨value, cast, found⟩, others⟩ := putCall_ok stored
  constructor
  · intro same
    exact ⟨value, cast, (same tenant).symm.trans found⟩
  · rintro ⟨value', cast', found'⟩ owner
    by_cases own : owner = tenant
    · subst own
      cases cast.symm.trans cast'
      exact found.trans found'.symm
    · exact others owner own

theorem putMatrix_asks (asks : Asks float request tenant overlay) :
    putMatrix world float calls request stores = putOverlay world calls tenant overlay stores := by
  obtain ⟨raw, body, accepted⟩ := asks.overlay
  simp only [putMatrix, asks.tenant, body, accepted]

/-- A request that does not come to `Put` changes nothing. -/
theorem putMatrix_refused (refused : ∀ tenant overlay, ¬ Asks float request tenant overlay) :
    (putMatrix world float calls request stores).1 = stores := by
  unfold putMatrix
  split
  · rfl
  · next tenant known =>
    split
    · rfl
    · next raw body =>
      split
      · rfl
      · next overlay accepted => exact absurd ⟨known, raw, body, accepted⟩ (refused tenant overlay)

theorem Asks.unique {tenant' : Uuid} {overlay' : Overlay} (a : Asks float request tenant overlay)
    (b : Asks float request tenant' overlay') : tenant = tenant' ∧ overlay = overlay' := by
  obtain ⟨raw, body, accepted⟩ := a.overlay
  obtain ⟨raw', body', accepted'⟩ := b.overlay
  cases a.tenant.symm.trans b.tenant
  cases body.symm.trans body'
  cases accepted.symm.trans accepted'
  exact ⟨rfl, rfl⟩

/-- From `Put` on. -/
theorem putOverlay_whole_iff :
    ((putOverlay world calls tenant overlay stores).2.isError = true →
      Unchanged stores (putOverlay world calls tenant overlay stores).1) ↔
    ((putCall calls tenant overlay stores.matrices).isSome = true →
      (∃ devices, calls.devices = some devices ∧
        AllTaken world tenant overlay (calls.gateway + putTTL) devices stores.commands) ∨
      (Held tenant overlay stores.matrices ∧ ∀ devices, calls.devices = some devices →
        AheadKnown world tenant overlay (calls.gateway + putTTL) stores.commands devices)) := by
  unfold putOverlay
  cases stored : putCall calls tenant overlay stores.matrices with
  | none => exact iff_of_true (fun _ => ⟨fun _ => rfl, fun _ => Iff.rfl⟩) nofun
  | some matrices =>
    have unwritten := @held_iff calls stores tenant overlay matrices stored
    cases listed : calls.devices with
    | none =>
      simp only [Answer.isError, Option.isSome_some, forall_const, reduceCtorEq, false_and, exists_false,
        false_or, false_implies, and_true]
      exact ⟨fun same => unwritten.mp same.1, fun held => ⟨unwritten.mpr held, fun _ => Iff.rfl⟩⟩
    | some devices =>
      simp only [Option.isSome_some, forall_const, Option.some.injEq, exists_eq_left', forall_eq']
      have ended := @enqueueAll_ended world tenant overlay (calls.gateway + putTTL) devices 0 stores.commands
      have broken := @enqueueAll_broken world tenant overlay (calls.gateway + putTTL) devices 0 stores.commands
      generalize enqueueAll world tenant overlay (calls.gateway + putTTL) devices 0 stores.commands = outcome
        at ended broken ⊢
      obtain ⟨commands, queued, done⟩ := outcome
      cases done with
      | true => exact iff_of_true (fun impossible => by cases impossible) (Or.inl (ended.mp rfl))
      | false =>
        have unended : ¬ AllTaken world tenant overlay (calls.gateway + putTTL) devices stores.commands :=
          fun taken => by cases ended.mpr taken
        simp only [Answer.isError, forall_const, unended, false_or]
        exact and_congr unwritten (broken rfl)

theorem allOrNothing_iff :
    AllOrNothing world float calls request stores ↔ Whole world float calls request stores := by
  by_cases asked : ∃ tenant overlay, Asks float request tenant overlay
  · obtain ⟨tenant, overlay, asks⟩ := asked
    unfold AllOrNothing
    rw [putMatrix_asks asks, putOverlay_whole_iff]
    constructor
    · intro whole tenant' overlay' asks'
      obtain ⟨rfl, rfl⟩ := asks.unique asks'
      exact whole
    · exact fun whole => whole tenant overlay asks
  · have refused : ∀ tenant overlay, ¬ Asks float request tenant overlay :=
      fun tenant overlay asks => asked ⟨tenant, overlay, asks⟩
    refine iff_of_true (fun _ => ?_) fun tenant overlay asks => absurd asks (refused tenant overlay)
    rw [putMatrix_refused refused]
    exact ⟨fun _ => rfl, fun _ => Iff.rfl⟩

/-! ## What the devices hold -/

/-- The commands under the stored version carry the stored document. -/
def OneDocument (owner : Uuid) (stores : Stores) : Prop :=
  ∀ stored, stores.matrices.find owner = some stored → ∀ row ∈ stores.commands.commands,
    row.tenantId = owner → ∀ device, row.idempotencyKey = putKey stored.version device →
    row.payload = payloadObject stored.version stored.sha256 stored.document

/-- The catalogue lists the devices that have a command of the version. -/
def Listed (float : FloatFormat) (calls : Calls) (request : Request) (stores : Stores) : Prop :=
  ∀ tenant overlay, Asks float request tenant overlay → ∀ devices, calls.devices = some devices →
    ∀ device, KeyTaken stores.commands tenant (putKey overlay.version device) → ∃ call ∈ devices, call.device = device

/-- A 200 leaves the commands of the version with the stored document. -/
theorem putOverlay_oneDocument {devices : List Call}
    (stored : putCall calls tenant overlay stores.matrices = some matrices)
    (ended : (enqueueAll world tenant overlay (calls.gateway + putTTL) devices 0 stores.commands).2.2 = true)
    (listed : ∀ device, KeyTaken stores.commands tenant (putKey overlay.version device) →
      ∃ call ∈ devices, call.device = device) (owner : Uuid) (before : OneDocument owner stores) :
    OneDocument owner
      ⟨matrices, (enqueueAll world tenant overlay (calls.gateway + putTTL) devices 0 stores.commands).1⟩ := by
  obtain ⟨⟨value, cast, found⟩, others⟩ := putCall_ok stored
  intro held lookup row member owned device key
  by_cases own : owner = tenant
  · subst own
    cases found.symm.trans lookup
    have payload : ∀ {call : Uuid} {made : CommandRow}, Carries owner overlay call made →
        made.payload = payloadObject overlay.version overlay.sha256 value := by
      intro call made carries
      obtain ⟨value', cast', form⟩ := commandPayload_ok carries.payload
      cases cast.symm.trans cast'
      exact form
    rcases mem_enqueueAll member with old | ⟨call, _, carries⟩
    · obtain ⟨call, inList, rfl⟩ := listed device ⟨row, old, owned, key⟩
      obtain ⟨made, inTable, carries⟩ := enqueueAll_carries ended call inList
      have same : row = made :=
        (enqueueAll world owner overlay (calls.gateway + putTTL) devices 0 stores.commands).1.valid.idempotencyKey
          row member made inTable (owned.trans carries.tenant.symm) (key.trans carries.key.symm)
      rw [same]
      exact payload carries
    · exact payload carries
  · change matrices.find owner = some held at lookup
    rw [others owner own] at lookup
    rcases mem_enqueueAll member with old | ⟨call, _, carries⟩
    · exact before held lookup row old owned device key
    · exact absurd (owned.symm.trans carries.tenant) own

theorem whole_oneDocument (whole : AllOrNothing world float calls request stores)
    (listed : Listed float calls request stores) (owner : Uuid) (before : OneDocument owner stores) :
    OneDocument owner (putMatrix world float calls request stores).1 := by
  cases failed : (putMatrix world float calls request stores).2.isError with
  | true =>
    obtain ⟨matrices, commands⟩ := whole failed
    intro held lookup row member owned device key
    rw [matrices] at lookup
    exact before held lookup row ((commands row).mp member) owned device key
  | false =>
    by_cases asked : ∃ tenant overlay, Asks float request tenant overlay
    · obtain ⟨tenant, overlay, asks⟩ := asked
      rw [putMatrix_asks asks] at failed ⊢
      unfold putOverlay at failed ⊢
      cases stored : putCall calls tenant overlay stores.matrices with
      | none =>
        rw [stored] at failed
        cases failed
      | some matrices =>
        rw [stored] at failed
        cases listing : calls.devices with
        | none =>
          rw [listing] at failed
          cases failed
        | some devices =>
          rw [listing] at failed
          have kept := @putOverlay_oneDocument world calls stores tenant overlay matrices devices stored
          have complete := listed tenant overlay asks devices listing
          dsimp only at failed kept ⊢
          generalize enqueueAll world tenant overlay (calls.gateway + putTTL) devices 0 stores.commands = outcome
            at failed kept ⊢
          obtain ⟨commands, queued, ended⟩ := outcome
          cases ended with
          | false => cases failed
          | true => exact kept rfl complete owner before
    · rw [putMatrix_refused fun tenant overlay asks => asked ⟨tenant, overlay, asks⟩]
      exact before

/-- For every state of the tables and every request: an error changes nothing exactly if
nothing fails past `Put` or what was written ahead of the failure was there. And then no
version gets a second document while a listed device has the first. -/
theorem put_all_or_nothing_iff (world : World) (float : FloatFormat) (calls : Calls) (request : Request)
    (stores : Stores) :
    (AllOrNothing world float calls request stores ↔ Whole world float calls request stores) ∧
    (Whole world float calls request stores → Listed float calls request stores → ∀ owner,
      OneDocument owner stores → OneDocument owner (putMatrix world float calls request stores).1) :=
  ⟨allOrNothing_iff, fun whole listed owner before =>
    whole_oneDocument (allOrNothing_iff.mpr whole) listed owner before⟩

end Request

/-! ## One version, two documents -/

/-- Tenant 1 puts version 1 with one rule. -/
def putRule (rule : Json) : Request :=
  ⟨some 1, some (object [("matrix", object [("version", text "1"), ("rule", .arr [rule])])])⟩

/-- The catalogue lists device 7. -/
def oneDeviceListed (id : Nat) : Calls := ⟨true, 10, some [⟨7, true, ⟨id, id, 10, 10, []⟩⟩]⟩

def noMatrix : Stores := ⟨.empty, .empty⟩

def firstPut : Stores × Answer :=
  putMatrix plainWorld integerFloat (oneDeviceListed 1) (putRule (.bool true)) noMatrix

/-- The same version with another rule. -/
def secondPut : Stores × Answer :=
  putMatrix plainWorld integerFloat (oneDeviceListed 2) (putRule (.bool false)) firstPut.1

theorem first_put_whole :
    firstPut.2 = .stored 1 ∧
    AllOrNothing plainWorld integerFloat (oneDeviceListed 1) (putRule (.bool true)) noMatrix ∧
    OneDocument 1 firstPut.1 := by
  have answer : firstPut.2 = .stored 1 := by decide
  have whole : AllOrNothing plainWorld integerFloat (oneDeviceListed 1) (putRule (.bool true)) noMatrix := by
    intro failed
    change firstPut.2.isError = true at failed
    rw [answer] at failed
    cases failed
  obtain ⟨exactly, consequence⟩ :=
    put_all_or_nothing_iff plainWorld integerFloat (oneDeviceListed 1) (putRule (.bool true)) noMatrix
  refine ⟨answer, whole, consequence (exactly.mp whole) ?_ 1 ?_⟩
  · rintro tenant overlay _ devices _ device ⟨row, member, _⟩
    cases member
  · intro stored _ row member
    cases member

/-- The answer is 500, the overlay is the new one, and the device keeps the old one under
the same version. -/
theorem second_put_half_applied :
    secondPut.2 = .unavailable ∧
    ¬ AllOrNothing plainWorld integerFloat (oneDeviceListed 2) (putRule (.bool false)) firstPut.1 ∧
    ¬ OneDocument 1 secondPut.1 := by
  have answer : secondPut.2 = .unavailable := by decide +kernel
  refine ⟨answer, fun whole => ?_, fun one => ?_⟩
  · have same : secondPut.2.isError = true →
        ∀ tenant, secondPut.1.matrices.find tenant = firstPut.1.matrices.find tenant := by
      unfold secondPut
      exact fun failed => (whole failed).1
    rw [answer] at same
    have digests : (secondPut.1.matrices.find 1).map MatrixRow.sha256 ≠
        (firstPut.1.matrices.find 1).map MatrixRow.sha256 := by decide +kernel
    exact digests (congrArg (Option.map MatrixRow.sha256) (same rfl 1))
  · have mixed : (secondPut.1.matrices.find 1).any (fun stored => secondPut.1.commands.commands.rows.any fun row =>
        decide (row.tenantId = 1) && decide (row.idempotencyKey = putKey stored.version 7) &&
          !decide (row.payload = payloadObject stored.version stored.sha256 stored.document)) = true := by
      decide +kernel
    obtain ⟨stored, lookup, found⟩ := (Option.any_eq_true _ _).mp mixed
    obtain ⟨row, member, differs⟩ := List.any_eq_true.mp found
    simp only [Bool.and_eq_true, decide_eq_true_eq, Bool.not_eq_true', decide_eq_false_iff_not] at differs
    exact differs.2 (one stored lookup row member differs.1.1 7 differs.1.2)

end VodogeCloud.Guarantees.WholePuts
