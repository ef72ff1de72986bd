import VodogeCloud.Guarantees.TrimmedTexts
import VodogeCloud.Lib.Transactions
import VodogeCloud.Source.ScheduleValidation

/-!
# A task that was accepted can run

`Validate` builds the payload of a task once, with an IMEI of fifteen zeros in place of
the module's. No builder but that of `create_modem` looks at the IMEI, so a payload that
was built for the stand-in is built for every module with an IMEI of fifteen digits. A
task that names its device has the IMEI of its selector, which `Validate` does not look
at: there the task fails on every run.
-/

set_option autoImplicit false

namespace VodogeCloud.Guarantees.RunnableSchedules

open VodogeCloud.Lib.Transactions VodogeCloud.Source.Postgres VodogeCloud.Source.CommandCatalogue
open VodogeCloud.Source.ServeDevice (trimSpace)
open VodogeCloud.Source.Schedule (Selector Target)
open VodogeCloud.Source.ScheduleValidation
open VodogeCloud.Source.CommandLifecycle (jsonbObject)
open VodogeCloud.Guarantees.TrimmedTexts

/-! ## The builders -/

/-- The request for another target. -/
def retarget (request : Request) (deviceId modemImei : String) : Request :=
  { request with deviceId := deviceId, modemImei := modemImei }

/-- Whether a document was built, or why not. -/
def outcome (result : Except String Fields) : Except String Unit := result.map fun _ => ()

theorem outcome_bind {α : Type} (step : Except String α) (next : α → Except String Fields) :
    outcome (step >>= next) = step >>= fun value => outcome (next value) := by
  cases step <;> rfl

theorem outcome_ok (fields : Fields) : outcome (.ok fields) = .ok () := rfl

theorem outcome_pure (fields : Fields) : outcome (pure fields) = .ok () := rfl

/-- No document holds the device. -/
theorem build_device : ∀ spec ∈ catalogue, ∀ (request : Request) (deviceId deviceId' modemImei : String),
    spec.build (retarget request deviceId modemImei) = spec.build (retarget request deviceId' modemImei) := by
  simp only [catalogue, List.forall_mem_cons]
  repeat' apply And.intro
  all_goals first | exact fun _ _ _ _ => rfl | exact List.forall_mem_nil _

/-- Whether a document is built is not up to the IMEI. -/
def Blind (spec : Spec) : Prop :=
  ∀ (request : Request) (deviceId modemImei modemImei' : String),
    outcome (spec.build (retarget request deviceId modemImei)) =
      outcome (spec.build (retarget request deviceId modemImei'))

/-- Only `create_modem` looks at the IMEI. -/
theorem catalogue_blind :
    ∀ spec ∈ catalogue, spec = createModem ∨ (spec.kind ≠ "create_modem" ∧ Blind spec) := by
  simp only [catalogue, List.forall_mem_cons]
  repeat' apply And.intro
  all_goals first
    | exact List.forall_mem_nil _
    | refine Or.inr ⟨by decide, fun request deviceId modemImei modemImei' => ?_⟩
      simp only [sendSms, restartModem, runAtCommand, sendUssd, setRadio, configureApn, scanOperators,
        selectOperator, modemReport, resetModemUsb, setDataNetwork, setUsbnetMode, reregisterNetwork,
        refreshModems, renameEsimProfile, disableEsimProfile, deleteEsimProfile, claimModemCandidate,
        revokeModemCandidate, registerModem, unregisterModem, updateModem, reconfirmModem, readLogs,
        listEsimProfiles, readEsimInfo, retrieveEsimNotification, initiateEsimAuthentication,
        downloadEsimProfile, selfUpdate, rotateIp, switchEsimProfile, modemCommand, profileCommand,
        switchCommand, candidateCommand, retarget, outcome_bind, outcome_pure, outcome_ok]
    | exact Or.inl trivial

theorem createModem_outcome (request : Request) (deviceId modemImei : String) :
    outcome (createModem.build (retarget request deviceId modemImei)) =
      if imeiPattern (trimSpace modemImei) = true then
        outcome (createModem.build (retarget request deviceId placeholderImei))
      else .error "modem_imei must be 15 digits" := by
  have standIn : imeiPattern (trimSpace placeholderImei) = true := by decide
  by_cases matched : imeiPattern (trimSpace modemImei) = true
  · rw [if_pos matched]
    simp only [createModem, retarget, outcome_bind, outcome_pure, matched, standIn]
  · rw [if_neg matched, createModem, retarget, outcome_bind, require, if_neg matched]
    rfl

theorem outcome_ok_iff {result : Except String Fields} : outcome result = .ok () ↔ ∃ fields, result = .ok fields := by
  cases result with
  | error reason =>
    refine iff_of_false (by simp [outcome, Except.map]) ?_
    rintro ⟨fields, impossible⟩
    cases impossible
  | ok fields => exact iff_of_true rfl ⟨fields, rfl⟩

/-- What was built for the stand-in is built for every module, for `create_modem` if the
IMEI has fifteen digits. -/
theorem build_iff {spec : Spec} (member : spec ∈ catalogue) {request : Request} {deviceId deviceId' modemImei : String}
    (tried : ∃ fields, spec.build (retarget request deviceId' placeholderImei) = .ok fields) :
    (∃ fields, spec.build (retarget request deviceId modemImei) = .ok fields) ↔
      (spec.kind = "create_modem" → imeiPattern (trimSpace modemImei) = true) := by
  rw [build_device spec member request deviceId' deviceId, ← outcome_ok_iff] at tried
  rw [← outcome_ok_iff]
  rcases catalogue_blind spec member with rfl | ⟨other, blind⟩
  · rw [createModem_outcome, tried]
    by_cases matched : imeiPattern (trimSpace modemImei) = true
    · rw [if_pos matched]
      exact iff_of_true rfl fun _ => matched
    · rw [if_neg matched]
      exact iff_of_false (by simp) fun needed => matched (needed rfl)
  · rw [blind request deviceId modemImei placeholderImei]
    exact iff_of_true tried fun same => absurd same other

/-! ## A task -/

section Tasks

variable {quote : String → String} {task accepted : Task} {spec : Spec} {request : Request} {target : Target}

theorem lookup_some {kind : String} (found : lookup kind = some spec) :
    spec ∈ catalogue ∧ spec.kind = kind ∧ kind ≠ "" := by
  obtain ⟨member, named⟩ := lookup_ok found
  refine ⟨member, named, ?_⟩
  rintro rfl
  have none_ : lookup "" = none := by decide
  rw [none_] at found
  cases found

theorem buildPayload_found (found : lookup (requestKind request) = some spec) {deviceId modemImei : String}
    (device : deviceId ≠ "") :
    buildPayload quote (retarget request deviceId modemImei) = (do
      require (!spec.needsModem || imeiPattern modemImei) "modem_imei must be 15 digits"
      let fields ← spec.build (retarget request deviceId modemImei)
      return (spec, jsonbObject fields)) := by
  have kind : requestKind (retarget request deviceId modemImei) = requestKind request := rfl
  have given_ : require ((retarget request deviceId modemImei).deviceId ≠ "") "device_id is required" = .ok () :=
    require_iff.mpr (decide_eq_true device)
  unfold buildPayload
  rw [kind, found]
  dsimp only
  rw [given_, ok_bind]
  rfl

/-- The request of a task with its kind. -/
def kinded (task : Task) (request : Request) : Request := { request with kind := task.commandKind }

theorem buildRequest_eq (read : task.request.request = .ok request) :
    buildRequest quote task target =
      (buildPayload quote (retarget (kinded task request) target.deviceId target.modemImei)).map Prod.snd := by
  unfold buildRequest
  rw [read, ok_bind]
  cases built : buildPayload quote (retarget (kinded task request) target.deviceId target.modemImei) with
  | error reason =>
    show (buildPayload quote (retarget (kinded task request) target.deviceId target.modemImei) >>= _) = _
    rw [built]
    rfl
  | ok value =>
    show (buildPayload quote (retarget (kinded task request) target.deviceId target.modemImei) >>= _) = _
    rw [built]
    rfl

/-- A request is built for a target that has what its kind needs. -/
theorem buildRequest_iff (read : task.request.request = .ok request) (found : lookup task.commandKind = some spec)
    (device : target.deviceId ≠ "") :
    (∃ payload, buildRequest quote task target = .ok payload) ↔
      (spec.needsModem = true → imeiPattern target.modemImei = true) ∧
        ∃ fields, spec.build (retarget (kinded task request) target.deviceId target.modemImei) = .ok fields := by
  obtain ⟨_, _, named⟩ := lookup_some found
  have kind : requestKind (kinded task request) = task.commandKind := if_neg named
  rw [buildRequest_eq read, buildPayload_found (by rw [kind]; exact found) device]
  constructor
  · rintro ⟨payload, h⟩
    obtain ⟨_, h, _⟩ := map_success h
    obtain ⟨_, modem, h⟩ := bind_success h
    obtain ⟨fields, h, _⟩ := bind_success h
    have modem := require_iff.mp modem
    rw [Bool.or_eq_true, Bool.not_eq_true'] at modem
    exact ⟨fun needed => modem.resolve_left (by simp [needed]), fields, h⟩
  · rintro ⟨modem, fields, h⟩
    have allowed : require (!spec.needsModem || imeiPattern target.modemImei) "modem_imei must be 15 digits" =
        .ok () := by
      rw [require_iff]
      cases needed : spec.needsModem with
      | false => rfl
      | true => simpa using modem needed
    rw [allowed, ok_bind, h, ok_bind]
    exact ⟨_, rfl⟩

/-- No document holds the device or the card of a target. -/
theorem buildRequest_module {target' : Target} (device : target.deviceId ≠ "") (device' : target'.deviceId ≠ "")
    (same : target.modemImei = target'.modemImei) :
    buildRequest quote task target = buildRequest quote task target' := by
  cases read : task.request.request with
  | error reason =>
    unfold buildRequest
    rw [read]
    rfl
  | ok request =>
    rw [buildRequest_eq read, buildRequest_eq read, ← same]
    cases found : lookup (requestKind (kinded task request)) with
    | none =>
      have kind (deviceId : String) : requestKind (retarget (kinded task request) deviceId target.modemImei) =
        requestKind (kinded task request) := rfl
      unfold buildPayload
      rw [kind, kind, found]
    | some spec =>
      rw [buildPayload_found found device, buildPayload_found found device',
        build_device spec (List.mem_of_find?_eq_some found) _ target.deviceId target'.deviceId]

/-- What `Validate` has seen of a task that sends a command. -/
structure Tried (quote : String → String) (task : Task) (spec : Spec) : Prop where
  found : lookup task.commandKind = some spec
  mode : task.selector.mode = "card" ∨ task.selector.mode = "device"
  built : ∃ payload, buildRequest quote task ⟨placeholderDeviceId, placeholderImei, ""⟩ = .ok payload

theorem validate_tried (valid : validate quote task = .ok accepted) (command : task.action = "command") :
    accepted.action = "command" ∧ ∃ spec, Tried quote accepted spec := by
  obtain ⟨_, _, valid⟩ := bind_success valid
  obtain ⟨_, _, valid⟩ := bind_success valid
  obtain ⟨_, selector, valid⟩ := bind_success valid
  rw [if_neg (by simp [command]), if_pos command] at valid
  obtain ⟨_, rule, valid⟩ := bind_success valid
  cases valid
  refine ⟨command, ?_⟩
  unfold commandRule at rule
  dsimp only at rule
  cases found : lookup task.commandKind with
  | none =>
    rw [found] at rule
    cases rule
  | some spec =>
    rw [found] at rule
    obtain ⟨_, _, rule⟩ := bind_success rule
    obtain ⟨payload, built, _⟩ := bind_success rule
    refine ⟨spec, found, ?_, payload, built⟩
    unfold selectorRule at selector
    split at selector
    · next card => exact Or.inl card
    · split at selector
      · next device => exact Or.inr device
      · cases selector

end Tasks

/-! ## Every run -/

/-- The catalogue gives the kind a modem, or its builder asks for one. -/
def needsImei (kind : String) : Bool :=
  (lookup kind).any fun spec => spec.needsModem || spec.kind = "create_modem"

/-- The payload is built for every target the selector resolves to, a card in a module
without an IMEI of fifteen digits apart. -/
def Runs (quote : String → String) (task : Task) : Prop :=
  ∀ inventory target, resolve inventory task.selector = .ok target →
    (task.selector.mode = "card" → imeiPattern target.modemImei = true) →
    ∃ payload, buildRequest quote task target = .ok payload

/-- A selector that can name a device names a module where the kind needs one. -/
def Supplied (task : Task) : Prop :=
  task.selector.mode = "device" → (∃ device, uuidIn (trimSpace task.selector.deviceId) = .ok device) →
    needsImei task.commandKind = true → imeiPattern (trimSpace task.selector.modemImei) = true

section Runs

variable {quote : String → String} {task accepted : Task} {spec : Spec} {target : Target}
  {inventory : Inventory} {selector : Selector}

theorem uuidOut_filled (value : Uuid) : uuidOut value ≠ "" := by
  intro empty
  have length := uuidOut_length value
  rw [empty] at length
  cases length

/-- Either mode gives a device, and a named device the IMEI of the selector. -/
theorem resolve_ok (h : resolve inventory selector = .ok target) :
    target.deviceId ≠ "" ∧ (selector.mode = "device" → target.modemImei = trimSpace selector.modemImei ∧
      ∃ device, uuidIn (trimSpace selector.deviceId) = .ok device) := by
  unfold resolve at h
  by_cases card : selector.mode = "card"
  · rw [if_pos card] at h
    refine ⟨?_, fun device => ?_⟩
    · split at h
      · cases h
      · split at h
        · cases h
        · cases h
          exact uuidOut_filled _
      · cases h
    · rw [card] at device
      exact absurd device (by decide)
  · rw [if_neg card] at h
    split at h
    · split at h
      · cases h
      · next device named =>
        split at h
        · cases h
          exact ⟨uuidOut_filled device, fun _ => ⟨rfl, device, named⟩⟩
        · cases h
    · cases h

/-- A tried task builds for a target exactly if that has the IMEI its kind needs. -/
theorem tried_builds_iff (tried : Tried quote task spec) (device : target.deviceId ≠ "")
    (trimmed : trimSpace target.modemImei = target.modemImei) :
    (∃ payload, buildRequest quote task target = .ok payload) ↔
      (needsImei task.commandKind = true → imeiPattern target.modemImei = true) := by
  obtain ⟨member, kind, _⟩ := lookup_some tried.found
  obtain ⟨standIn, built⟩ := tried.built
  obtain ⟨request, read, _⟩ := bind_success built
  have before := (buildRequest_iff read tried.found
    (show placeholderDeviceId ≠ "" by decide)).mp ⟨standIn, built⟩
  have needs : needsImei task.commandKind = true ↔ spec.needsModem = true ∨ spec.kind = "create_modem" := by
    unfold needsImei
    rw [tried.found]
    simp
  rw [buildRequest_iff read tried.found device, build_iff member before.2, trimmed, needs]
  exact ⟨fun both needed => needed.elim both.1 both.2,
    fun either => ⟨fun modem => either (Or.inl modem), fun create => either (Or.inr create)⟩⟩

theorem runs_iff (tried : Tried quote task spec) : Runs quote task ↔ Supplied task := by
  constructor
  · rintro runs mode ⟨device, named⟩ needed
    obtain ⟨target, resolved⟩ : ∃ target, resolve ⟨[device], []⟩ task.selector = .ok target := by
      have other : ¬ task.selector.mode = "card" := by simp [mode]
      unfold resolve
      rw [if_neg other, if_pos mode, named]
      exact ⟨_, if_pos (by simp)⟩
    obtain ⟨filled, known⟩ := resolve_ok resolved
    obtain ⟨imei, _⟩ := known mode
    have built := runs _ _ resolved fun card => absurd (card.symm.trans mode) (by decide)
    have exact_ := (tried_builds_iff tried filled (by rw [imei]; exact trimSpace_trimSpace _)).mp built needed
    rwa [imei] at exact_
  · intro supplied inventory target resolved module
    obtain ⟨device, named⟩ := resolve_ok resolved
    rcases tried.mode with card | mode
    · have digits := module card
      have plain := digits
      unfold imeiPattern at plain
      rw [Bool.and_eq_true] at plain
      exact (tried_builds_iff tried device (trimSpace_digits plain.2)).mpr fun _ => digits
    · obtain ⟨imei, known⟩ := named mode
      refine (tried_builds_iff tried device (by rw [imei]; exact trimSpace_trimSpace _)).mpr fun needed => ?_
      rw [imei]
      exact supplied mode known needed

/-- An accepted task builds its payload on every run exactly if its selector, where it
names a device, names a module with an IMEI of fifteen digits or the kind needs none; and
its payload is a function of the module. -/
theorem accepted_task_runs_iff (valid : validate quote task = .ok accepted) (command : task.action = "command") :
    (Runs quote accepted ↔ Supplied accepted) ∧
    ∀ inventory inventory' target target', resolve inventory accepted.selector = .ok target →
      resolve inventory' accepted.selector = .ok target' → target.modemImei = target'.modemImei →
      buildRequest quote accepted target = buildRequest quote accepted target' := by
  obtain ⟨_, spec, tried⟩ := validate_tried valid command
  refine ⟨runs_iff tried, fun _ _ target target' resolved resolved' same => ?_⟩
  exact buildRequest_module (resolve_ok resolved).1 (resolve_ok resolved').1 same

end Runs

/-! ## One digit short -/

/-- A task that restarts a module of a device by its IMEI. -/
def restartTask (modemImei : String) : Task where
  name := "restart"
  action := "command"
  commandKind := "restart_modem"
  selector := ⟨"device", placeholderDeviceId, "", modemImei⟩
  request := .text (.obj [])
  intervalSeconds := 3600

/-- Any IMEI is accepted that is not blank. -/
theorem restart_accepted (modemImei : String) (filled : trimSpace modemImei ≠ "") :
    validate id (restartTask modemImei) = .ok (restartTask modemImei) := by
  have rule : commandRule id (restartTask modemImei) = .ok () := by
    have named : (!(restartModem.needsModem && (restartTask modemImei).selector.mode = "device" &&
        trimSpace (restartTask modemImei).selector.modemImei = "")) = true := by
      have other : decide (trimSpace (restartTask modemImei).selector.modemImei = "") = false := decide_eq_false filled
      rw [other, Bool.and_false]
      rfl
    have known : lookup (restartTask modemImei).commandKind = some restartModem := rfl
    unfold commandRule
    rw [known]
    dsimp only
    obtain ⟨request, read⟩ : ∃ request, (restartTask modemImei).request.request = .ok request := ⟨_, rfl⟩
    obtain ⟨payload, built⟩ := (@buildRequest_iff id (restartTask modemImei) restartModem request
      ⟨placeholderDeviceId, placeholderImei, ""⟩ read known (by decide)).mpr ⟨fun _ => by decide, _, rfl⟩
    rw [require_iff.mpr named, ok_bind, built]
    rfl
  have name : trimSpace "restart" = "restart" := by decide
  have device : selectorRule (restartTask modemImei).selector = .ok () := by
    have filled : trimSpace placeholderDeviceId ≠ "" := by decide
    have mode : (restartTask modemImei).selector.mode = "device" := rfl
    unfold selectorRule
    rw [mode, if_neg (by decide), if_pos rfl]
    exact require_iff.mpr (decide_eq_true filled)
  unfold validate
  rw [device]
  simp only [restartTask, name, RawMessage.orObject] at rule ⊢
  rw [rule]
  rfl

theorem fifteen_digits_run : Runs id (restartTask "867929068986654") :=
  (accepted_task_runs_iff (restart_accepted "867929068986654" (by decide)) rfl).1.mpr fun _ _ _ => by decide

/-- The task is accepted, and with whatever devices and modules there are it is never
built. -/
theorem fourteen_digits_never_run :
    validate id (restartTask "86792906898665") = .ok (restartTask "86792906898665") ∧
    ¬ Runs id (restartTask "86792906898665") ∧
    ∀ inventory target, resolve inventory (restartTask "86792906898665").selector = .ok target →
      buildRequest id (restartTask "86792906898665") target = .error "modem_imei must be 15 digits" := by
  have read : ∃ request, (restartTask "86792906898665").request.request = .ok request := ⟨_, rfl⟩
  have standing : ∀ inventory target, resolve inventory (restartTask "86792906898665").selector = .ok target →
      buildRequest id (restartTask "86792906898665") target = .error "modem_imei must be 15 digits" := by
    intro inventory target resolved
    obtain ⟨request, read⟩ := read
    obtain ⟨filled, known⟩ := resolve_ok resolved
    obtain ⟨imei, _⟩ := known rfl
    have short : imeiPattern target.modemImei = false := by
      rw [imei]
      decide
    have named : lookup (requestKind (kinded (restartTask "86792906898665") request)) = some restartModem := rfl
    rw [buildRequest_eq read, buildPayload_found named filled, short]
    rfl
  refine ⟨restart_accepted "86792906898665" (by decide), fun runs => ?_, standing⟩
  have device : uuidIn (trimSpace placeholderDeviceId) = .ok 0x00000000000040008000000000000000 := by decide
  obtain ⟨target, resolved⟩ : ∃ target, resolve ⟨[0x00000000000040008000000000000000], []⟩
      (restartTask "86792906898665").selector = .ok target := by
    have mode : (restartTask "86792906898665").selector.mode = "device" := rfl
    have named : (restartTask "86792906898665").selector.deviceId = placeholderDeviceId := rfl
    unfold resolve
    rw [mode, named, device]
    exact ⟨_, rfl⟩
  obtain ⟨payload, built⟩ := runs _ _ resolved fun card => absurd card (by decide)
  rw [standing _ _ resolved] at built
  cases built

end VodogeCloud.Guarantees.RunnableSchedules
