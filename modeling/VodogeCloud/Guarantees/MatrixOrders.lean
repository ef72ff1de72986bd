import VodogeCloud.Guarantees.MatrixDigests
import VodogeCloud.Guarantees.PolicyCommands
import VodogeCloud.Source.MatrixDelivery

/-!
# One matrix, one command

A publish and a reconnect key the command by a hash of its bytes, and a put by the
version of the document. On one path the key is a function of the device and of the
payload as jsonb, so a document is queued once; a publish hashes the keys in byte order
and a reconnect in the order of the jsonb column, so the two agree only on documents
whose keys are in one order in both.
-/

set_option autoImplicit false

namespace VodogeCloud.Guarantees.MatrixOrders

open VodogeCloud.Lib VodogeCloud.Lib.Transactions VodogeCloud.Source VodogeCloud.Source.Postgres
open VodogeCloud.Source.CommandTables VodogeCloud.Source.CommandLifecycle
open VodogeCloud.Source.GoJson VodogeCloud.Source.JsonText VodogeCloud.Source.CapabilityMatrix
open VodogeCloud.Source.CardDelivery (World Draw)
open VodogeCloud.Source.MatrixDelivery
open VodogeCloud.Guarantees.CanonicalTexts VodogeCloud.Guarantees.CommandOrders
open VodogeCloud.Guarantees.EnqueuedCommands VodogeCloud.Guarantees.MatrixDigests
open VodogeCloud.Guarantees.PolicyCommands (plainWorld)

/-! ## A ledger has no numbers -/

section Numberless

variable {p : Int → Option Int → Prop}

theorem numberless_items {items : List Json} (clean : ∀ item ∈ items, AllNumbers p item) :
    AllNumbers p (.arr items) := by
  unfold AllNumbers
  induction items with
  | nil => exact trivial
  | cons item rest ih =>
    exact ⟨clean item List.mem_cons_self, ih fun other member => clean other (List.mem_cons_of_mem _ member)⟩

theorem numberless_object {fields : List (String × Json)} (clean : ∀ field ∈ fields, AllNumbers p field.2) :
    AllNumbers p (object fields) := by
  unfold object AllNumbers
  induction fields with
  | nil => exact trivial
  | cons field rest ih =>
    exact ⟨clean field List.mem_cons_self, ih fun other member => clean other (List.mem_cons_of_mem _ member)⟩

theorem numberless_text (value : String) : AllNumbers p (text value) := trivial

theorem supportShape_numberless (value bearer : String) (reason : Option String) :
    AllNumbers p (supportShape value bearer reason) := by
  have shape : ∀ fields : List (String × Json), (∀ field ∈ fields, ∃ value, field.2 = text value) →
      AllNumbers p (object fields) := by
    intro fields texts
    refine numberless_object fun field member => ?_
    obtain ⟨value, same⟩ := texts field member
    rw [same]
    exact numberless_text value
  unfold supportShape
  by_cases supported : value = "supported"
  · rw [if_pos supported]
    exact shape _ (by simp)
  · rw [if_neg supported]
    by_cases unsupported : value = "unsupported"
    · rw [if_pos unsupported]
      refine shape _ ?_
      cases nonEmpty reason <;> simp
    · rw [if_neg unsupported]
      exact shape _ (by simp)

theorem operation_numberless {name : String} {value : Option String} {entry : Entry}
    {field : String × Json} (member : field ∈ operation name value entry) : AllNumbers p field.2 := by
  unfold operation at member
  cases value with
  | none => cases member
  | some value =>
    rw [List.mem_singleton.mp member]
    exact supportShape_numberless value entry.bearer entry.reason

theorem rule_numberless (entry : Entry) : AllNumbers p (rule entry) := by
  refine numberless_object fun field member => ?_
  simp only [List.mem_append] at member
  rcases member with (((named | smsMo) | smsMt) | data) | voice
  · simp only [List.mem_cons, List.not_mem_nil, or_false] at named
    rcases named with rfl | rfl <;> exact trivial
  · exact operation_numberless smsMo
  · exact operation_numberless smsMt
  · exact operation_numberless data
  · exact operation_numberless voice

theorem deviceShape_numberless (device : SupportedDevice) : AllNumbers p (deviceShape device) := by
  refine numberless_object fun field member => ?_
  rcases List.mem_append.mp member with known | noted
  · simp only [List.mem_cons, List.not_mem_nil, or_false] at known
    rcases known with rfl | rfl | rfl <;> exact trivial
  · cases note : nonEmpty device.note with
    | none =>
      rw [note] at noted
      cases noted
    | some note_ =>
      rw [note] at noted
      rw [List.mem_singleton.mp noted]
      exact trivial

theorem document_numberless (version : String) (entries : List Entry) (devices : List SupportedDevice) :
    AllNumbers p (document version entries devices) := by
  have rules : AllNumbers p (.arr ((entries.insertionSort fun a b => entryLe a b).map rule)) := by
    refine numberless_items fun item member => ?_
    obtain ⟨entry, _, rfl⟩ := List.mem_map.mp member
    exact rule_numberless entry
  refine numberless_object fun field member => ?_
  rcases List.mem_append.mp member with known | listed
  · simp only [List.mem_cons, List.not_mem_nil, or_false] at known
    rcases known with rfl | rfl
    · exact trivial
    · exact rules
  · cases devices with
    | nil => cases listed
    | cons device rest =>
      rw [List.mem_singleton.mp listed]
      refine numberless_items fun item inside => ?_
      obtain ⟨device, _, rfl⟩ := List.mem_map.mp inside
      exact deviceShape_numberless device

end Numberless

/-! ## Orders -/

inductive Path where
  | publish
  | put
  | reconcile
  deriving DecidableEq, Repr

/-- A matrix ordered for a device. -/
structure Order where
  path : Path
  tenant : Uuid
  device : Uuid
  overlay : Overlay

def Order.key (order : Order) : String :=
  match order.path with
  | .put => "matrix:" ++ order.overlay.version ++ ":" ++ uuidOut order.device
  | _ => matrixKey (uuidOut order.device) order.overlay.version (payloadText order.overlay)

/-- The order the next statement of a handler makes. -/
def nextOrder : Handler → Option Order
  | .publishing tenant overlay (device :: _) => some ⟨.publish, tenant, device, overlay⟩
  | .putting tenant overlay _ (device :: _) => some ⟨.put, tenant, device, overlay⟩
  | .resuming tenant device overlay => some ⟨.reconcile, tenant, device, overlay⟩
  | _ => none

def ordered (state : Delivery) : Event → Option Order
  | .advance index _ => state.handlers[index]?.bind nextOrder
  | _ => none

/-- The orders of a run. -/
def orders (world : World) (float : FloatFormat) : Delivery → List Event → List Order
  | _, [] => []
  | state, event :: rest => (ordered state event).toList ++ orders world float (step world float state event) rest

/-- The state after a run. -/
def reached (world : World) (float : FloatFormat) (events : List Event) : Delivery :=
  events.foldl (step world float) Delivery.start

/-- The row is what the order asked for. -/
structure Order.Made (order : Order) (row : CommandRow) : Prop where
  tenant : row.tenantId = order.tenant
  device : row.deviceId = order.device
  payload : commandPayload order.overlay = .ok row.payload
  key : row.idempotencyKey = order.key

/-- The bytes a path has of its document. -/
def Origin : Path → Overlay → Prop
  | .publish, overlay => ∃ value, Canonical value ∧ overlay.document = .written value
  | .put, _ => True
  | .reconcile, overlay => ∃ value, overlay.document = .column value

/-! ## The key of one path -/

theorem payloadObject_inj {version version' sha256 sha256' : String} {value value' : Jsonb}
    (same : payloadObject version sha256 value = payloadObject version' sha256' value') :
    version = version' ∧ sha256 = sha256' ∧ value = value' := by
  obtain ⟨versions, digests, documents⟩ := payloadObject_get version sha256 value
  obtain ⟨versions', digests', documents'⟩ := payloadObject_get version' sha256' value'
  rw [same] at versions digests documents
  rw [versions', Option.some.injEq, Jsonb.str.injEq] at versions
  rw [digests', Option.some.injEq, Jsonb.str.injEq] at digests
  rw [documents', Option.some.injEq] at documents
  exact ⟨versions.symm, digests.symm, documents.symm⟩

theorem commandPayload_ok {overlay : Overlay} {payload : Jsonb} (h : commandPayload overlay = .ok payload) :
    ∃ value, overlay.document.value = .ok value ∧
      payload = payloadObject overlay.version overlay.sha256 value := by
  obtain ⟨value, cast, same⟩ := map_success h
  exact ⟨value, cast, same.symm⟩

/-- Bytes of one path are a function of the document as jsonb. -/
theorem documentText_eq {path : Path} (keyed : path ≠ .put) {a b : Overlay} (originA : Origin path a)
    (originB : Origin path b) {value : Jsonb} (castA : a.document.value = .ok value)
    (castB : b.document.value = .ok value) : a.document.text = b.document.text := by
  cases path with
  | put => exact absurd rfl keyed
  | publish =>
    obtain ⟨writtenA, canonicalA, sourceA⟩ := originA
    obtain ⟨writtenB, canonicalB, sourceB⟩ := originB
    rw [sourceA] at castA ⊢
    rw [sourceB] at castB ⊢
    exact (goText_of_jsonbIn canonicalA castA).trans (goText_of_jsonbIn canonicalB castB).symm
  | reconcile =>
    obtain ⟨columnA, sourceA⟩ := originA
    obtain ⟨columnB, sourceB⟩ := originB
    rw [sourceA] at castA ⊢
    rw [sourceB] at castB ⊢
    cases castA
    cases castB
    rfl

/-- Where the keys are in byte order, either path has the canonical bytes. -/
theorem documentText_inByteOrder {path : Path} (keyed : path ≠ .put) {overlay : Overlay}
    (origin : Origin path overlay) {value : Jsonb} (cast : overlay.document.value = .ok value)
    (alike : InByteOrder value) : overlay.document.text = orderedText goEscape value := by
  cases path with
  | put => exact absurd rfl keyed
  | publish =>
    obtain ⟨written, canonical, source⟩ := origin
    rw [source] at cast ⊢
    exact goText_of_jsonbIn canonical cast
  | reconcile =>
    obtain ⟨column, source⟩ := origin
    rw [source] at cast ⊢
    cases cast
    exact compactText_inByteOrder alike

/-- The orders carry one document for one device. -/
def SameDocument (a b : Order) : Prop :=
  a.tenant = b.tenant ∧ a.device = b.device ∧
    ∃ payload, commandPayload a.overlay = .ok payload ∧ commandPayload b.overlay = .ok payload

/-- The orders are made on one path, or by a publish and a reconnect of a document whose keys both
encoders put in one order. -/
def Agree (a b : Order) : Prop :=
  a.path = b.path ∨ (a.path ≠ .put ∧ b.path ≠ .put ∧
    ∃ value, a.overlay.document.value = .ok value ∧ InByteOrder value)

theorem key_keyed {order : Order} (keyed : order.path ≠ .put) :
    order.key = matrixKey (uuidOut order.device) order.overlay.version (payloadText order.overlay) := by
  unfold Order.key
  split
  · next put => exact absurd put keyed
  · rfl

/-- The same bytes have one fingerprint. -/
theorem key_of_text {a b : Order} (keyedA : a.path ≠ .put) (keyedB : b.path ≠ .put) (device : a.device = b.device)
    (version : a.overlay.version = b.overlay.version) (digest : a.overlay.sha256 = b.overlay.sha256)
    (texts : a.overlay.document.text = b.overlay.document.text) : a.key = b.key := by
  rw [key_keyed keyedA, key_keyed keyedB, device, version]
  unfold payloadText
  rw [version, digest, texts]

theorem key_eq {a b : Order} (originA : Origin a.path a.overlay) (originB : Origin b.path b.overlay)
    (same : SameDocument a b) (agree : Agree a b) : a.key = b.key := by
  obtain ⟨_, device, payload, builtA, builtB⟩ := same
  obtain ⟨value, castA, formA⟩ := commandPayload_ok builtA
  obtain ⟨valueB, castB, formB⟩ := commandPayload_ok builtB
  obtain ⟨version, digest, rfl⟩ := payloadObject_inj (formA.symm.trans formB)
  rcases agree with path | ⟨keyedA, keyedB, shown, castShown, alike⟩
  · by_cases put : a.path = .put
    · unfold Order.key
      rw [← path, put, version, device]
    · have keyedB : b.path ≠ .put := by rwa [← path]
      rw [← path] at originB
      exact key_of_text put keyedB device version digest (documentText_eq put originA originB castA castB)
  · cases castA.symm.trans castShown
    exact key_of_text keyedA keyedB device version digest
      ((documentText_inByteOrder keyedA originA castA alike).trans
        (documentText_inByteOrder keyedB originB castB alike).symm)

/-! ## What a step does -/

section Steps

variable {world : World} {float : FloatFormat} {draw : Draw} {commands : CommandDb}
  {history : List Order} {state : Delivery}

theorem enqueue_ok {tenant : Uuid} {overlay : Overlay} {args : Jsonb → EnqueueArgs} {after : CommandDb}
    (h : enqueue world tenant overlay args draw commands = .ok after) :
    ∃ payload row, commandPayload overlay = .ok payload ∧ enqueueCommand world.registered (some tenant)
      (args payload) draw.commandId draw.outboxId draw.database commands = .ok (after, row) := by
  obtain ⟨payload, built, h⟩ := bind_success h
  obtain ⟨⟨written, row⟩, queued, h⟩ := bind_success h
  cases h
  exact ⟨payload, row, built, queued⟩

theorem mem_enqueue {tenant : Uuid} {overlay : Overlay} {args : Jsonb → EnqueueArgs} {after : CommandDb}
    (h : enqueue world tenant overlay args draw commands = .ok after) {row : CommandRow}
    (member : row ∈ after.commands) :
    row ∈ commands.commands ∨ ∃ payload, commandPayload overlay = .ok payload ∧
      row = (args payload).command draw.commandId draw.database := by
  obtain ⟨payload, _, built, queued⟩ := enqueue_ok h
  rcases enqueueCommand_cases queued with ⟨rfl, _⟩ | ⟨rfl, _, _, members⟩
  · exact Or.inl member
  · rcases (members row).mp member with old | rfl
    · exact Or.inl old
    · exact Or.inr ⟨payload, built, rfl⟩

/-- Whether or not an enqueue went through, what it leaves is what was there and the row of its
order. -/
theorem mem_attempt {order : Order} {args : Jsonb → EnqueueArgs} {left : CommandDb}
    (failed : ∀ err, enqueue world order.tenant order.overlay args draw commands = .error err → left = commands)
    (done : ∀ after, enqueue world order.tenant order.overlay args draw commands = .ok after → left = after)
    (made : ∀ payload, commandPayload order.overlay = .ok payload →
      order.Made ((args payload).command draw.commandId draw.database))
    {row : CommandRow} (member : row ∈ left.commands) : row ∈ commands.commands ∨ order.Made row := by
  cases asked : enqueue world order.tenant order.overlay args draw commands with
  | error err =>
    rw [failed err asked] at member
    exact Or.inl member
  | ok after =>
    rw [done after asked] at member
    rcases mem_enqueue asked member with old | ⟨payload, built, rfl⟩
    · exact Or.inl old
    · exact Or.inr (made payload built)

theorem mem_advance (handler : Handler) {row : CommandRow}
    (member : row ∈ (advance world draw commands handler).1.commands) :
    row ∈ commands.commands ∨ ∃ order, nextOrder handler = some order ∧ order.Made row := by
  cases handler with
  | published => exact Or.inl member
  | stored => exact Or.inl member
  | publishing tenant overlay devices =>
    cases devices with
    | nil => exact Or.inl member
    | cons device rest =>
      refine (@mem_attempt world draw commands ⟨.publish, tenant, device, overlay⟩
        (matrixArgs tenant device overlay draw.gateway) _ ?_ ?_ ?_ row member).imp_right fun made => ⟨_, rfl, made⟩
      · intro err failed
        rw [advance, failed]
      · intro after done
        rw [advance, done]
      · exact fun payload built => ⟨rfl, rfl, built, rfl⟩
  | putting tenant overlay expires devices =>
    cases devices with
    | nil => exact Or.inl member
    | cons device rest =>
      refine (@mem_attempt world draw commands ⟨.put, tenant, device, overlay⟩
        (putArgs tenant device overlay expires) _ ?_ ?_ ?_ row member).imp_right fun made => ⟨_, rfl, made⟩
      · intro err failed
        rw [advance, failed]
      · intro after done
        rw [advance, done]
      · exact fun payload built => ⟨rfl, rfl, built, rfl⟩
  | resuming tenant device overlay =>
    refine (@mem_attempt world draw commands ⟨.reconcile, tenant, device, overlay⟩
      (matrixArgs tenant device overlay draw.gateway) _ ?_ ?_ ?_ row member).imp_right fun made => ⟨_, rfl, made⟩
    · intro err failed
      rw [advance, failed]
    · intro after done
      rw [advance, done]
    · exact fun payload built => ⟨rfl, rfl, built, rfl⟩

/-- The handler carries the bytes of its path. -/
def Sound : Handler → Prop
  | .published _ overlay => Origin .publish overlay
  | .publishing _ overlay _ => Origin .publish overlay
  | .stored _ overlay => Origin .put overlay
  | .putting _ overlay _ _ => Origin .put overlay
  | .resuming _ _ overlay => Origin .reconcile overlay

theorem nextOrder_origin {handler : Handler} (sound : Sound handler) {order : Order}
    (next : nextOrder handler = some order) : Origin order.path order.overlay := by
  cases handler with
  | published => cases next
  | stored => cases next
  | publishing tenant overlay devices =>
    cases devices with
    | nil => cases next
    | cons device rest =>
      cases next
      exact sound
  | putting tenant overlay expires devices =>
    cases devices with
    | nil => cases next
    | cons device rest =>
      cases next
      exact sound
  | resuming tenant device overlay =>
    cases next
    exact sound

theorem advance_sound {handler left : Handler} (sound : Sound handler)
    (next : (advance world draw commands handler).2 = some left) : Sound left := by
  cases handler with
  | published tenant overlay =>
    cases next
    exact sound
  | stored tenant overlay =>
    cases next
    exact sound
  | publishing tenant overlay devices =>
    cases devices with
    | nil => cases next
    | cons device rest =>
      rw [advance] at next
      cases done : enqueue world tenant overlay (matrixArgs tenant device overlay draw.gateway) draw commands <;>
        rw [done] at next <;> cases next <;> exact sound
  | putting tenant overlay expires devices =>
    cases devices with
    | nil => cases next
    | cons device rest =>
      rw [advance] at next
      cases done : enqueue world tenant overlay (putArgs tenant device overlay expires) draw commands with
      | error =>
        rw [done] at next
        cases next
      | ok after =>
        rw [done] at next
        cases next
        exact sound
  | resuming tenant device overlay =>
    rw [advance] at next
    cases done : enqueue world tenant overlay (matrixArgs tenant device overlay draw.gateway) draw commands <;>
      rw [done] at next <;> cases next

/-- Every matrix command was ordered, and every order carries the bytes of its path. -/
structure Traced (history : List Order) (state : Delivery) : Prop where
  rows : ∀ row ∈ state.commands.commands, row.kind = .updateCapabilityMatrix →
    ∃ order ∈ history, order.Made row
  handlers : ∀ handler ∈ state.handlers, Sound handler
  origins : ∀ order ∈ history, Origin order.path order.overlay

theorem traced_start : Traced [] Delivery.start :=
  ⟨fun _ member => absurd member List.not_mem_nil, fun _ member => absurd member List.not_mem_nil,
    fun _ member => absurd member List.not_mem_nil⟩

theorem store_traced {tenant : Uuid} {raw : Json} {next : Overlay → Handler}
    (sound : ∀ overlay, parse float raw = .ok overlay → Sound (next overlay)) (traced : Traced history state) :
    Traced history (store float tenant raw next state) := by
  unfold store
  cases read : parse float raw with
  | error => exact traced
  | ok overlay =>
    dsimp only
    cases written : CapabilityMatrix.put tenant overlay state.matrices with
    | error => exact traced
    | ok matrices =>
      refine ⟨traced.rows, fun handler member => ?_, traced.origins⟩
      rcases List.mem_append.mp member with old | new
      · exact traced.handlers handler old
      · rw [List.mem_singleton.mp new]
        exact sound overlay read

/-- A published ledger is written without numbers, so as its value alone says. -/
theorem published_origin {version : String} {entries : List Entry} {supported : List SupportedDevice}
    {overlay : Overlay} (h : parse float (document version entries supported) = .ok overlay) :
    Origin .publish overlay := by
  obtain ⟨value, encoded, source, _⟩ := parse_ok h
  exact ⟨value, reencode_canonical (document_numberless version entries supported) encoded, source⟩

theorem reconciliation_origin {tenant : Uuid} {held : String} {matrices : MatrixDb} {overlay : Overlay}
    (h : reconciliation tenant held matrices = some overlay) : Origin .reconcile overlay := by
  unfold reconciliation CapabilityMatrix.get at h
  cases found : matrices.find tenant with
  | none =>
    rw [found] at h
    cases h
  | some row =>
    rw [found] at h
    by_cases skipped : row.version = "" ∨ held = row.version
    · simp [skipped] at h
    · simp [skipped] at h
      exact ⟨row.document, by rw [← h]⟩

theorem lifecycle_traced {op : CommandOp} {after : CommandDb} (other : ordersMatrix op = false)
    (done : op.apply world.calendar state.commands = .ok after) (traced : Traced history state) :
    Traced history { state with commands := after } := by
  refine ⟨fun row member matrix => ?_, traced.handlers, traced.origins⟩
  obtain ⟨_, back⟩ := @apply_keeps_kind _ _ _ .updateCapabilityMatrix _ (by
    rintro registered context args id outboxId now rfl same
    simp [ordersMatrix, same] at other) done
  obtain ⟨old, inOld, touched⟩ := back row member matrix
  obtain ⟨_, tenant, device, kind, payload, key, _⟩ := touched.fields
  obtain ⟨order, inHistory, made⟩ := traced.rows old inOld (kind.symm.trans matrix)
  refine ⟨order, inHistory, ⟨tenant.trans made.tenant, device.trans made.device, ?_, key.trans made.key⟩⟩
  rw [payload]
  exact made.payload

theorem step_traced (event : Event) (traced : Traced history state) :
    Traced (history ++ (ordered state event).toList) (step world float state event) := by
  cases event with
  | publish tenant version entries supported =>
    show Traced (history ++ []) _
    rw [List.append_nil, step]
    by_cases empty : entries.isEmpty = true
    · rw [if_pos empty]
      exact traced
    · rw [if_neg empty]
      exact store_traced (fun overlay read => published_origin read) traced
  | put tenant matrix =>
    show Traced (history ++ []) _
    rw [List.append_nil, step]
    exact store_traced (fun _ _ => trivial) traced
  | resume tenant device held =>
    show Traced (history ++ []) _
    rw [List.append_nil, step]
    cases wanted : reconciliation tenant held state.matrices with
    | none => exact traced
    | some overlay =>
      refine ⟨traced.rows, fun handler member => ?_, traced.origins⟩
      rcases List.mem_append.mp member with old | new
      · exact traced.handlers handler old
      · rw [List.mem_singleton.mp new]
        exact reconciliation_origin wanted
  | drop index =>
    show Traced (history ++ []) _
    rw [List.append_nil, step]
    refine ⟨traced.rows, fun handler member => ?_, traced.origins⟩
    rcases List.mem_append.mp member with early | late
    · exact traced.handlers handler (List.mem_of_mem_take early)
    · exact traced.handlers handler (List.mem_of_mem_drop late)
  | lifecycle op =>
    show Traced (history ++ []) _
    rw [List.append_nil, step]
    by_cases matrix : ordersMatrix op = true
    · rw [if_pos matrix]
      exact traced
    · rw [if_neg matrix]
      cases done : op.apply world.calendar state.commands with
      | error => exact traced
      | ok after => exact lifecycle_traced (by simpa using matrix) done traced
  | advance index draw =>
    rw [ordered, step]
    cases found : state.handlers[index]? with
    | none =>
      rw [Option.bind_none, Option.toList_none, List.append_nil]
      exact traced
    | some handler =>
      have sound := traced.handlers handler (List.mem_of_getElem? found)
      refine ⟨fun row member matrix => ?_, fun other member => ?_, fun order member => ?_⟩
      · rcases mem_advance handler member with old | ⟨order, next, made⟩
        · obtain ⟨order, inHistory, made⟩ := traced.rows row old matrix
          exact ⟨order, List.mem_append_left _ inHistory, made⟩
        · refine ⟨order, List.mem_append_right _ ?_, made⟩
          rw [Option.bind_some, next]
          exact List.mem_singleton_self order
      · rcases List.mem_append.mp member with before | late
        · rcases List.mem_append.mp before with early | left
          · exact traced.handlers other (List.mem_of_mem_take early)
          · exact advance_sound sound (Option.mem_toList.mp left)
        · exact traced.handlers other (List.mem_of_mem_drop late)
      · rcases List.mem_append.mp member with old | new
        · exact traced.origins order old
        · exact nextOrder_origin sound (Option.mem_toList.mp new)

theorem run_traced (events : List Event) (traced : Traced history state) :
    Traced (history ++ orders world float state events) (events.foldl (step world float) state) := by
  induction events generalizing history state with
  | nil =>
    rw [orders, List.append_nil]
    exact traced
  | cons event rest ih =>
    rw [orders, ← List.append_assoc, List.foldl_cons]
    exact ih (step_traced event traced)

end Steps

/-! ## One command -/

/-- Two orders of one document for one device agree, in the whole run. -/
def OneKey (orders : List Order) : Prop := ∀ a ∈ orders, ∀ b ∈ orders, SameDocument a b → Agree a b

/-- The matrix commands of a device with a payload. -/
def copies (tenant device : Uuid) (payload : Jsonb) (db : CommandDb) : List CommandRow :=
  db.commands.rows.filter fun row =>
    row.tenantId = tenant && row.deviceId = device && row.kind = .updateCapabilityMatrix &&
      row.payload = payload

theorem length_le_one {α : Type} {items : List α} (distinct : items.Nodup)
    (alike : ∀ a ∈ items, ∀ b ∈ items, a = b) : items.length ≤ 1 := by
  cases items with
  | nil => exact Nat.zero_le _
  | cons first rest =>
    cases rest with
    | nil => exact le_refl _
    | cons second others =>
      have same := alike first List.mem_cons_self second (by simp)
      rw [same] at distinct
      simp at distinct

/-- A run whose orders agree queues a document at most once for a device. -/
theorem one_command_per_document (world : World) (float : FloatFormat) (events : List Event)
    (agree : OneKey (orders world float Delivery.start events)) (tenant device : Uuid) (payload : Jsonb) :
    (copies tenant device payload (reached world float events).commands).length ≤ 1 := by
  have traced := @run_traced world float [] Delivery.start events traced_start
  rw [List.nil_append] at traced
  refine length_le_one ((List.Nodup.of_map _ (reached world float events).commands.commands.unique).filter _) ?_
  intro a inA b inB
  obtain ⟨memberA, factsA⟩ := List.mem_filter.mp inA
  obtain ⟨memberB, factsB⟩ := List.mem_filter.mp inB
  simp only [Bool.and_eq_true, decide_eq_true_eq] at factsA factsB
  obtain ⟨⟨⟨tenantA, deviceA⟩, kindA⟩, payloadA⟩ := factsA
  obtain ⟨⟨⟨tenantB, deviceB⟩, kindB⟩, payloadB⟩ := factsB
  obtain ⟨orderA, inOrdersA, madeA⟩ := traced.rows a memberA kindA
  obtain ⟨orderB, inOrdersB, madeB⟩ := traced.rows b memberB kindB
  have same : SameDocument orderA orderB := by
    refine ⟨?_, ?_, payload, ?_, ?_⟩
    · rw [← madeA.tenant, ← madeB.tenant, tenantA, tenantB]
    · rw [← madeA.device, ← madeB.device, deviceA, deviceB]
    · rw [← payloadA]
      exact madeA.payload
    · rw [← payloadB]
      exact madeB.payload
  have keys := key_eq (traced.origins orderA inOrdersA) (traced.origins orderB inOrdersB) same
    (agree orderA inOrdersA orderB inOrdersB same)
  refine (reached world float events).commands.valid.idempotencyKey a memberA b memberB ?_ ?_
  · rw [tenantA, tenantB]
  · rw [madeA.key, madeB.key, keys]

/-! ## Two ledgers -/

/-- A modem of which at most the data service was measured. -/
def ledgerEntry (data : Option String) : Entry := ⟨"EC20", "CN-Mobile", none, none, data, none, "lte", none⟩

/-- A ledger with the data service measured, published twice for one device. -/
def publishTwice : List Event :=
  [.publish 1 "1" [ledgerEntry (some "supported")] [], .advance 0 ⟨1, 1, 10, 10, [7]⟩, .advance 0 ⟨1, 1, 10, 10, []⟩,
    .publish 1 "1" [ledgerEntry (some "supported")] [], .advance 1 ⟨2, 2, 20, 20, [7]⟩, .advance 1 ⟨2, 2, 20, 20, []⟩]

theorem published_once :
    (orders plainWorld integerFloat Delivery.start publishTwice).length = 2 ∧
    ∀ payload, (copies 1 7 payload (reached plainWorld integerFloat publishTwice).commands).length ≤ 1 := by
  have paths : (orders plainWorld integerFloat Delivery.start publishTwice).map Order.path = [.publish, .publish] := by
    decide +kernel
  have published : ∀ order ∈ orders plainWorld integerFloat Delivery.start publishTwice, order.path = .publish := by
    intro order member
    have path := List.mem_map_of_mem (f := Order.path) member
    rw [paths] at path
    simpa using path
  refine ⟨by simpa using congrArg List.length paths, fun payload => ?_⟩
  exact one_command_per_document plainWorld integerFloat publishTwice
    (fun a inA b inB _ => Or.inl ((published a inA).trans (published b inB).symm)) 1 7 payload

/-- A publish with one device, and then the device connects with no version. -/
def publishAndResume : List Event :=
  [.publish 1 "1" [ledgerEntry (some "supported")] [], .advance 0 ⟨1, 1, 10, 10, [7]⟩, .advance 0 ⟨1, 1, 10, 10, []⟩,
    .resume 1 7 "", .advance 1 ⟨2, 2, 20, 20, []⟩]

theorem measured_twice :
    ∃ payload, (copies 1 7 payload
      (reached plainWorld integerFloat publishAndResume).commands).length = 2 :=
  ⟨(reached plainWorld integerFloat publishAndResume).commands.commands.rows.head?.elim
    .null CommandRow.payload, by decide +kernel⟩

end VodogeCloud.Guarantees.MatrixOrders
