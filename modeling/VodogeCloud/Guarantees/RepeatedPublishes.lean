import Mathlib.Data.List.Lex
import Mathlib.Data.Prod.Lex
import VodogeCloud.Guarantees.MatrixOrders
import VodogeCloud.Source.LedgerPublish

/-!
# Publishing an unchanged ledger

The rules of a document are sorted by the key of the table, so they do not depend on the
order in which they were read, and the key of a command is a function of the document.
But the document has the second of its publish as its version: a ledger that did not
change is a new document in every second, with a digest and a command of its own.
-/

set_option autoImplicit false

namespace VodogeCloud.Guarantees.RepeatedPublishes

open VodogeCloud.Lib VodogeCloud.Lib.CivilTime VodogeCloud.Lib.Transactions VodogeCloud.Source
open VodogeCloud.Source.Postgres VodogeCloud.Source.CommandTables VodogeCloud.Source.CommandLifecycle
open VodogeCloud.Source.GoJson VodogeCloud.Source.JsonText VodogeCloud.Source.CapabilityMatrix
open VodogeCloud.Source.MatrixDelivery VodogeCloud.Source.LedgerPublish
open VodogeCloud.Source.MatrixRequest (Call Stores)
open VodogeCloud.Source.CardDelivery (World Draw)
open VodogeCloud.Guarantees.CanonicalTexts VodogeCloud.Guarantees.CommandOrders
open VodogeCloud.Guarantees.EnqueuedCommands
open VodogeCloud.Guarantees.MatrixDigests VodogeCloud.Guarantees.MatrixOrders
open VodogeCloud.Guarantees.PolicyCommands (plainWorld)

/-! ## The rules -/

/-- What a rule is sorted by. -/
def sortKey (entry : Entry) : Lex (List Char × List Char) :=
  toLex (entry.modemFamily.toList, entry.carrier.toList)

theorem entryLe_iff {a b : Entry} : entryLe a b = true ↔ sortKey a ≤ sortKey b := by
  unfold entryLe sortKey
  rw [Prod.Lex.toLex_le_toLex]
  by_cases same : a.modemFamily = b.modemFamily
  · simp [same]
  · have differs : a.modemFamily.toList ≠ b.modemFamily.toList := fun equal => same (String.toList_inj.mp equal)
    simp [same, differs]

theorem sortKey_injective {a b : Entry} (same : sortKey a = sortKey b) :
    (a.modemFamily, a.carrier) = (b.modemFamily, b.carrier) := by
  obtain ⟨families, carriers⟩ := Prod.mk.inj (toLex.injective same)
  rw [String.toList_inj.mp families, String.toList_inj.mp carriers]

/-- Entries of distinct pairings are sorted in one way. -/
theorem sorted_perm {listed listed' : List Entry} (same : listed.Perm listed')
    (distinct : (listed.map fun entry => (entry.modemFamily, entry.carrier)).Nodup) :
    listed.insertionSort (fun a b => entryLe a b) = listed'.insertionSort fun a b => entryLe a b := by
  have total : Std.Total fun a b : Entry => entryLe a b = true :=
    ⟨fun a b => by rw [entryLe_iff, entryLe_iff]; exact le_total _ _⟩
  have transitive : IsTrans Entry fun a b => entryLe a b = true :=
    ⟨fun a b c => by rw [entryLe_iff, entryLe_iff, entryLe_iff]; exact le_trans⟩
  have sorted (entries : List Entry) := List.pairwise_insertionSort (fun a b : Entry => entryLe a b = true) entries
  refine List.Perm.eq_of_pairwise ?_ (sorted listed) (sorted listed')
    ((List.perm_insertionSort _ listed).trans (same.trans (List.perm_insertionSort _ listed').symm))
  intro a b inListed inListed' before after
  have known := (List.perm_insertionSort _ listed).mem_iff.mp inListed
  have known' := same.mem_iff.mpr ((List.perm_insertionSort _ listed').mem_iff.mp inListed')
  rw [entryLe_iff] at before after
  exact List.inj_on_of_nodup_map distinct known known' (sortKey_injective (le_antisymm before after))

theorem entries_distinct (ledger : LedgerDb) (tenant : Uuid) :
    ((ledger.entries tenant).map fun entry => (entry.modemFamily, entry.carrier)).Nodup := by
  unfold LedgerDb.entries
  rw [List.map_map]
  refine List.Nodup.map_on ?_ ((List.Nodup.of_map _ ledger.unique).filter _)
  intro a inA b inB same
  obtain ⟨rowA, ownA⟩ := List.mem_filter.mp inA
  obtain ⟨rowB, ownB⟩ := List.mem_filter.mp inB
  obtain ⟨families, carriers⟩ := Prod.mk.inj same
  refine List.inj_on_of_nodup_map ledger.unique rowA rowB ?_
  unfold LedgerRow.pairing
  rw [of_decide_eq_true ownA, of_decide_eq_true ownB]
  exact congrArg _ (Prod.ext families carriers)

/-- However the ledger is listed, it renders to one document. -/
theorem document_perm {ledger : LedgerDb} {tenant : Uuid} {listed listed' : List Entry}
    (reads : listed.Perm (ledger.entries tenant)) (reads' : listed'.Perm (ledger.entries tenant))
    (version : String) (supported : List SupportedDevice) :
    document version listed supported = document version listed' supported := by
  have distinct := ((reads.map fun entry => (entry.modemFamily, entry.carrier)).nodup_iff).mpr
    (entries_distinct ledger tenant)
  unfold document
  rw [sorted_perm (reads.trans reads'.symm) distinct]

/-! ## The version -/

theorem version_eq_iff (a b : Schedule.GoTime) :
    version a = version b ↔ a / Schedule.second = b / Schedule.second := by
  constructor
  · exact fun same => utcText_injective (String.ofList_injective same)
  · intro same
    unfold version
    rw [same]

/-- The keys of a document in the order of a Go map. -/
theorem reencode_document {float : FloatFormat} {version : String} {entries : List Entry}
    {devices : List SupportedDevice} {value : Json}
    (h : reencode float (document version entries devices) = some value) :
    ∃ rules, value = .obj [(chars "rule", rules), (chars "version", .str (chars version))] ∨
      ∃ shapes, value = .obj [(chars "device", shapes), (chars "rule", rules),
        (chars "version", .str (chars version))] := by
  unfold document object at h
  obtain ⟨fields, written, rfl⟩ := Option.map_eq_some_iff.mp h
  cases devices with
  | nil =>
    simp only [List.isEmpty_nil, if_true, List.append_nil, List.map_cons, List.map_nil, text, reencodeFields,
      reencode, goString_chars, Option.bind_eq_bind, Option.bind_some] at written
    obtain ⟨rules, _, written⟩ := Option.bind_eq_some_iff.mp written
    cases written
    exact ⟨rules, Or.inl rfl⟩
  | cons device rest =>
    simp only [List.isEmpty_cons, Bool.false_eq_true, if_false, List.cons_append, List.nil_append,
      List.map_cons, List.map_nil, text, reencodeFields, reencode, goString_chars, Option.bind_eq_bind,
      Option.bind_some] at written
    obtain ⟨rules, _, written⟩ := Option.bind_eq_some_iff.mp written
    obtain ⟨shapes, _, written⟩ := Option.bind_eq_some_iff.mp written
    cases written
    exact ⟨rules, Or.inr ⟨shapes, rfl⟩⟩

theorem reencode_version {float : FloatFormat} {version : String} {entries : List Entry}
    {devices : List SupportedDevice} {value : Json}
    (h : reencode float (document version entries devices) = some value) :
    stringField "version" ((structFields value).getD []) = some version := by
  have only : fieldValues "version" ((structFields value).getD []) = [.str (chars version)] := by
    obtain ⟨rules, rfl | ⟨shapes, rfl⟩⟩ := reencode_document h <;> rfl
  unfold stringField
  rw [only]
  exact congrArg some (goString_chars version)

theorem parse_version {float : FloatFormat} {version : String} {entries : List Entry}
    {devices : List SupportedDevice} {overlay : Overlay}
    (h : parse float (document version entries devices) = .ok overlay) : overlay.version = version := by
  obtain ⟨value, encoded, _, _, named⟩ := parse_ok h
  rw [reencode_version encoded] at named
  exact (Option.some.inj named).symm

/-! ## The loop -/

/-- The key of the command for a device. -/
def publishKey (overlay : Overlay) (device : Uuid) : String :=
  matrixKey (uuidOut device) overlay.version (payloadText overlay)

section Loop

variable {world : World} {tenant : Uuid} {overlay : Overlay} {call : Call} {commands after : CommandDb}

/-- The command is new: its key was free. -/
structure Added (tenant : Uuid) (overlay : Overlay) (commands : CommandDb) (row : CommandRow) : Prop where
  owner : row.tenantId = tenant
  key : row.idempotencyKey = publishKey overlay row.deviceId
  free : ¬ KeyTaken commands tenant row.idempotencyKey

theorem sendCall_cases (h : sendCall world tenant overlay call commands = some after) {row : CommandRow} :
    (row ∈ commands.commands → row ∈ after.commands) ∧
      (row ∈ after.commands → row ∈ commands.commands ∨ Added tenant overlay commands row) := by
  unfold sendCall at h
  by_cases reaches : call.reaches = true
  · rw [if_pos reaches] at h
    cases done : enqueue world tenant overlay (matrixArgs tenant call.device overlay call.draw.gateway) call.draw
        commands with
    | error err =>
      rw [done] at h
      cases h
    | ok written =>
      rw [done] at h
      cases h
      obtain ⟨payload, _, _, queued⟩ := enqueue_ok done
      rcases enqueueCommand_cases queued with ⟨rfl, _⟩ | ⟨rfl, free, _, members⟩
      · exact ⟨id, Or.inl⟩
      · refine ⟨fun old => (members row).mpr (Or.inl old), fun inAfter => ?_⟩
        rcases (members row).mp inAfter with old | rfl
        · exact Or.inl old
        · exact Or.inr ⟨rfl, rfl, free⟩
  · rw [if_neg reaches] at h
    cases h

/-- What the loop adds had its key free when the loop began. -/
theorem sendAll_added {calls : List Call} {sent : Nat} {commands : CommandDb} {row : CommandRow}
    (member : row ∈ (sendAll world tenant overlay calls sent commands).1.commands) :
    row ∈ commands.commands ∨ Added tenant overlay commands row := by
  induction calls generalizing sent commands with
  | nil => exact Or.inl member
  | cons call rest ih =>
    unfold sendAll at member
    cases done : sendCall world tenant overlay call commands with
    | none =>
      rw [done] at member
      exact ih member
    | some after =>
      rw [done] at member
      rcases ih member with inAfter | added
      · exact (sendCall_cases done).2 inAfter
      · refine Or.inr ⟨added.owner, added.key, fun taken => added.free ?_⟩
        obtain ⟨holder, held, own⟩ := taken
        exact ⟨holder, (sendCall_cases done).1 held, own⟩

end Loop

/-! ## Two requests -/

/-- A request that comes past `Put`. -/
structure Publishes (float : FloatFormat) (calls : Calls) (tenant : Uuid) (stores : Stores) (overlay : Overlay) :
    Prop where
  rendered : ∃ entries supported, calls.entries = some entries ∧ entries ≠ [] ∧
    calls.supported = some supported ∧
    parse float (document (version calls.clock) entries supported) = .ok overlay
  stored : (putCall calls tenant overlay stores.matrices).isSome = true

/-- What the request reads is the ledger, in some order, and the supported devices. -/
structure Reads (ledger : LedgerDb) (supported : List SupportedDevice) (tenant : Uuid) (calls : Calls) : Prop where
  entries : ∀ entries, calls.entries = some entries → entries.Perm (ledger.entries tenant)
  supported : ∀ devices, calls.supported = some devices → devices = supported

/-- What the tenant has stored. -/
def storedVersion (tenant : Uuid) (stores : Stores) : Option (String × String) :=
  (stores.matrices.find tenant).map fun row => (row.version, row.sha256)

/-- The second publish stores the version and the digest of the first, has its key for
every device, and adds no command for a device that the first has one for. -/
structure NoOp (tenant : Uuid) (overlay overlay' : Overlay) (after middle last : Stores) : Prop where
  stored : storedVersion tenant last = storedVersion tenant after
  keys : ∀ device, publishKey overlay' device = publishKey overlay device
  rows : ∀ row ∈ last.commands.commands, row ∉ middle.commands.commands →
    ¬ KeyTaken after.commands tenant (publishKey overlay row.deviceId)

section Requests

variable {world : World} {float : FloatFormat} {ledger : LedgerDb} {supported : List SupportedDevice}
  {tenant : Uuid} {calls first second : Calls} {stores : Stores} {overlay overlay' : Overlay}

theorem publishLedger_eq (h : Publishes float calls tenant stores overlay) :
    ∃ matrices, CapabilityMatrix.put tenant overlay stores.matrices = .ok matrices ∧
      (publishLedger world float calls (some tenant) stores).1.matrices = matrices ∧
      (publishLedger world float calls (some tenant) stores).1.commands =
        calls.devices.elim stores.commands fun devices =>
          (sendAll world tenant overlay devices 0 stores.commands).1 := by
  obtain ⟨entries, supported, listed, filled, catalogue, parsed⟩ := h.rendered
  obtain ⟨matrices, stored⟩ := Option.isSome_iff_exists.mp h.stored
  have written : CapabilityMatrix.put tenant overlay stores.matrices = .ok matrices := by
    unfold putCall at stored
    split at stored
    · cases done : CapabilityMatrix.put tenant overlay stores.matrices with
      | error err =>
        rw [done] at stored
        cases stored
      | ok other =>
        rw [done] at stored
        cases stored
        rfl
    · cases stored
  refine ⟨matrices, written, ?_⟩
  cases entries with
  | nil => exact absurd rfl filled
  | cons entry rest =>
    simp only [publishLedger, listed, catalogue, parsed, publishOverlay, stored]
    cases calls.devices with
    | none => exact ⟨rfl, rfl⟩
    | some devices => exact ⟨rfl, rfl⟩

/-- Whether `Put` goes through is up to the overlay. -/
theorem put_elsewhere {db db' stored : MatrixDb} (h : CapabilityMatrix.put tenant overlay db = .ok stored) :
    ∃ stored', CapabilityMatrix.put tenant overlay db' = .ok stored' := by
  unfold CapabilityMatrix.put at h ⊢
  split at h
  · cases h
  · next unbroken =>
    rw [if_neg unbroken]
    split at h
    · cases h
    · split at h
      · cases h
      · next object =>
        rw [if_neg object]
        split at h
        · cases h
        · next digest =>
          rw [if_neg digest]
          split at h
          · cases h
          · next named =>
            rw [if_neg named]
            exact ⟨_, rfl⟩

theorem Publishes.elsewhere {stores' : Stores} (h : Publishes float calls tenant stores overlay) :
    Publishes float calls tenant stores' overlay := by
  refine ⟨h.rendered, ?_⟩
  obtain ⟨matrices, written, _⟩ := @publishLedger_eq plainWorld _ _ _ _ _ h
  obtain ⟨matrices', written'⟩ := @put_elsewhere _ _ _ stores'.matrices _ written
  have reaches : calls.put = true := by
    by_contra lost
    have stored := h.stored
    unfold putCall at stored
    rw [if_neg lost] at stored
    cases stored
  unfold putCall
  rw [if_pos reaches, written']
  rfl

theorem publishLedger_stored (h : Publishes float calls tenant stores overlay) :
    storedVersion tenant (publishLedger world float calls (some tenant) stores).1 =
      some (overlay.version, overlay.sha256) := by
  obtain ⟨matrices, written, same, _⟩ := @publishLedger_eq world _ _ _ _ _ h
  obtain ⟨value, _, found, _⟩ := put_ok written
  unfold storedVersion
  rw [same, found]
  rfl

theorem publishLedger_added (h : Publishes float calls tenant stores overlay) {row : CommandRow}
    (member : row ∈ (publishLedger world float calls (some tenant) stores).1.commands.commands)
    (new : row ∉ stores.commands.commands) : Added tenant overlay stores.commands row := by
  obtain ⟨_, _, _, commands⟩ := @publishLedger_eq world _ _ _ _ _ h
  rw [commands] at member
  cases listed : calls.devices with
  | none =>
    rw [listed] at member
    exact absurd member new
  | some devices =>
    rw [listed] at member
    exact (sendAll_added member).resolve_left new

/-- What a request publishes is a function of the ledger, the supported devices and the
version. -/
theorem rendered_eq {stores' : Stores} (reads : Reads ledger supported tenant first)
    (reads' : Reads ledger supported tenant second) (h : Publishes float first tenant stores overlay)
    (h' : Publishes float second tenant stores' overlay') (same : version first.clock = version second.clock) :
    overlay = overlay' := by
  obtain ⟨entries, devices, listed, _, catalogue, parsed⟩ := h.rendered
  obtain ⟨entries', devices', listed', _, catalogue', parsed'⟩ := h'.rendered
  rw [reads.supported devices catalogue, same,
    document_perm (reads.entries entries listed) (reads'.entries entries' listed')] at parsed
  rw [reads'.supported devices' catalogue'] at parsed'
  exact Except.ok.inj (parsed.symm.trans parsed')

theorem version_of_publishes (h : Publishes float calls tenant stores overlay) :
    overlay.version = version calls.clock := by
  obtain ⟨_, _, _, _, _, parsed⟩ := h.rendered
  exact parse_version parsed

/-- No write of the command lifecycle gives a key back. -/
theorem keys_kept {calendar : Calendar} {op : CommandOp} {db db' : CommandDb} (h : op.apply calendar db = .ok db')
    {key : String} (taken : KeyTaken db tenant key) : KeyTaken db' tenant key := by
  obtain ⟨row, member, owner, named⟩ := taken
  rcases apply_rewrites h with ⟨_, _, _, _, _, _, queued, _, done⟩ | rewritten
  · rcases enqueueCommand_cases done with ⟨rfl, _⟩ | ⟨_, _, _, members⟩
    · exact ⟨row, member, owner, named⟩
    · exact ⟨row, (members row).mpr (Or.inl member), owner, named⟩
  · obtain ⟨after, inAfter, touched⟩ := rewritten.onward row member
    obtain ⟨_, tenants, _, _, _, keys, _⟩ := touched.fields
    exact ⟨after, inAfter, tenants.trans owner, keys.trans named⟩

theorem run_keys_kept {calendar : Calendar} {ops : List CommandOp} {db : CommandDb} {key : String}
    (taken : KeyTaken db tenant key) : KeyTaken (run (CommandOp.apply calendar) db ops) tenant key :=
  run_invariant (fun _ _ _ held committed => keys_kept committed held) db taken ops

/-- The listing order does not matter, and a publish that follows a publish of the same
ledger, after any writes to the commands and any other matrices, is a no-op exactly if
the two fall in one second. -/
theorem republish_noop_iff {matrices : MatrixDb} {ops : List CommandOp} {middle : Stores}
    (reads : Reads ledger supported tenant first) (reads' : Reads ledger supported tenant second)
    (h : Publishes float first tenant stores overlay)
    (between : middle = ⟨matrices, run (CommandOp.apply world.calendar)
      (publishLedger world float first (some tenant) stores).1.commands ops⟩)
    (h' : Publishes float second tenant middle overlay') :
    (∀ listed listed' version, listed.Perm (ledger.entries tenant) → listed'.Perm (ledger.entries tenant) →
      document version listed supported = document version listed' supported) ∧
    (NoOp tenant overlay overlay' (publishLedger world float first (some tenant) stores).1 middle
        (publishLedger world float second (some tenant) middle).1 ↔
      first.clock / Schedule.second = second.clock / Schedule.second) := by
  refine ⟨fun _ _ version listed listed' => document_perm listed listed' version supported, ?_⟩
  rw [← version_eq_iff]
  constructor
  · intro noOp
    have versions := noOp.stored
    rw [publishLedger_stored h, publishLedger_stored h', Option.some.injEq, Prod.mk.injEq,
      version_of_publishes h, version_of_publishes h'] at versions
    exact versions.1.symm
  · intro same
    cases rendered_eq reads reads' h h' same
    refine ⟨(publishLedger_stored h').trans (publishLedger_stored h).symm, fun _ => rfl, ?_⟩
    intro row member new taken
    have added := publishLedger_added h' member new
    have still := @run_keys_kept _ world.calendar ops _ _ taken
    rw [← added.key] at still
    rw [between] at added
    exact added.free still

end Requests

/-- An answer with a version comes past `Put`. -/
theorem publishes_of_answer {float : FloatFormat} {calls : Calls} {tenant : Uuid} {stores : Stores}
    {world : World} {version : String} {rules devices : Nat}
    (answer : (publishLedger world float calls (some tenant) stores).2 = .published version rules devices) :
    ∃ overlay, Publishes float calls tenant stores overlay := by
  unfold publishLedger at answer
  dsimp only at answer
  cases listed : calls.entries with
  | none =>
    rw [listed] at answer
    cases answer
  | some entries =>
    cases entries with
    | nil =>
      rw [listed] at answer
      cases answer
    | cons entry rest =>
      cases catalogue : calls.supported with
      | none =>
        rw [listed, catalogue] at answer
        cases answer
      | some supported =>
        cases parsed : parse float (document (LedgerPublish.version calls.clock) (entry :: rest) supported) with
        | error err =>
          rw [listed, catalogue] at answer
          dsimp only at answer
          rw [parsed] at answer
          cases answer
        | ok overlay =>
          rw [listed, catalogue] at answer
          dsimp only at answer
          rw [parsed] at answer
          refine ⟨overlay, ⟨entry :: rest, supported, listed, List.cons_ne_nil _ _, catalogue, parsed⟩, ?_⟩
          unfold publishOverlay at answer
          cases stored : putCall calls tenant overlay stores.matrices with
          | none =>
            simp only [stored, reduceCtorEq] at answer
          | some matrices => rfl

/-! ## One ledger, twice -/

/-- Tenant 1 has measured one pairing. -/
def measuredLedger : LedgerDb := ⟨[⟨1, ledgerEntry (some "supported")⟩], List.nodup_singleton _⟩

/-- A publish of it for device 7. -/
def publishAt (clock : Schedule.GoTime) (id : Nat) : Calls :=
  ⟨some [ledgerEntry (some "supported")], clock, some [], true, some [⟨7, true, ⟨id, id, 10, 10, []⟩⟩]⟩

def noStores : Stores := ⟨.empty, .empty⟩

def publishAnswer (clock : Schedule.GoTime) (id : Nat) (stores : Stores) : Stores × Answer :=
  publishLedger plainWorld integerFloat (publishAt clock id) (some 1) stores

theorem publishAt_reads (clock : Schedule.GoTime) (id : Nat) : Reads measuredLedger [] 1 (publishAt clock id) := by
  refine ⟨fun entries listed => ?_, fun devices listed => ?_⟩
  · cases listed
    exact List.Perm.refl _
  · cases listed
    rfl

theorem first_published :
    (publishAnswer 0 1 noStores).2 = .published "1970-01-01T00:00:00Z" 1 1 := by decide +kernel

/-- Half a second later the publish is a no-op. -/
theorem same_second_noop :
    ∃ overlay overlay', NoOp 1 overlay overlay' (publishAnswer 0 1 noStores).1 (publishAnswer 0 1 noStores).1
      (publishAnswer 500000000 2 (publishAnswer 0 1 noStores).1).1 := by
  have second : (publishAnswer 500000000 2 noStores).2 = .published "1970-01-01T00:00:00Z" 1 1 := by
    decide +kernel
  obtain ⟨overlay, published⟩ := publishes_of_answer first_published
  obtain ⟨overlay', published'⟩ := publishes_of_answer second
  refine ⟨overlay, overlay', ?_⟩
  have seconds : (publishAt 0 1).clock / Schedule.second = (publishAt 500000000 2).clock / Schedule.second := by
    decide
  have between (stores : Stores) : stores =
      ⟨stores.matrices, run (CommandOp.apply plainWorld.calendar) stores.commands []⟩ := rfl
  exact (@republish_noop_iff plainWorld integerFloat measuredLedger [] 1 (publishAt 0 1)
    (publishAt 500000000 2) noStores overlay overlay' _ [] _ (publishAt_reads 0 1)
    (publishAt_reads 500000000 2) published (between _) published'.elsewhere).2.mpr seconds

/-- One second later it stores another version and digest, and orders the device a second
command. -/
theorem next_second_published_again :
    ∃ overlay overlay', Publishes integerFloat (publishAt 0 1) 1 noStores overlay ∧
      Publishes integerFloat (publishAt 1000000000 2) 1 (publishAnswer 0 1 noStores).1 overlay' ∧
      (publishAnswer 1000000000 2 (publishAnswer 0 1 noStores).1).1.commands.commands.rows.length = 2 ∧
      ¬ NoOp 1 overlay overlay' (publishAnswer 0 1 noStores).1 (publishAnswer 0 1 noStores).1
        (publishAnswer 1000000000 2 (publishAnswer 0 1 noStores).1).1 := by
  obtain ⟨second, differ, commands⟩ : (publishAnswer 1000000000 2 (publishAnswer 0 1 noStores).1).2 =
        .published "1970-01-01T00:00:01Z" 1 1 ∧
      storedVersion 1 (publishAnswer 1000000000 2 (publishAnswer 0 1 noStores).1).1 ≠
        storedVersion 1 (publishAnswer 0 1 noStores).1 ∧
      (publishAnswer 1000000000 2 (publishAnswer 0 1 noStores).1).1.commands.commands.rows.length = 2 := by
    decide +kernel
  obtain ⟨overlay, published⟩ := publishes_of_answer first_published
  obtain ⟨overlay', published'⟩ := publishes_of_answer second
  exact ⟨overlay, overlay', published, published', commands, fun noOp => differ noOp.stored⟩

end VodogeCloud.Guarantees.RepeatedPublishes
