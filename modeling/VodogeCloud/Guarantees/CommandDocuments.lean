import Mathlib.Data.String.Basic
import VodogeCloud.Guarantees.CardRenderings
import VodogeCloud.Lib.Transactions
import VodogeCloud.Source.CommandContract

/-!
# Commands the edge can parse

What `BuildPayload` accepts against the definitions of the contract. The builders check the
shape of a request and most of its lengths; some lengths they do not check. A document is
valid exactly when the fields whose length the builder of its kind leaves open are within
the bounds of the contract.
-/

set_option autoImplicit false

namespace VodogeCloud.Guarantees.CommandDocuments

open VodogeCloud.Lib.Transactions VodogeCloud.Source.Postgres VodogeCloud.Source.CommandLifecycle
open VodogeCloud.Source.CommandCatalogue VodogeCloud.Source.CommandContract
open VodogeCloud.Source.ServeDevice (trimSpace isSpace)
open VodogeCloud.Source.ProxyConfig (splitOn)
open VodogeCloud.Guarantees.CardRenderings

/-! ## Documents and their fields -/

def read (fields : Fields) (name : String) : Option Jsonb :=
  (fields.find? fun field => field.1 = name).map Prod.snd

@[simp] theorem read_nil (name : String) : read [] name = none := by
  simp [read]

@[simp] theorem read_cons (key name : String) (value : Jsonb) (rest : Fields) :
    read ((key, value) :: rest) name = if key = name then some value else read rest name := by
  unfold read
  by_cases same : key = name
  · simp [same]
  · simp [same]

@[simp] theorem read_append (a b : Fields) (name : String) : read (a ++ b) name = (read a name).or (read b name) := by
  unfold read
  rw [List.find?_append]
  cases a.find? fun field => field.1 = name <;> rfl

/-- `admits`, on the fields as the builder wrote them. -/
def admitsFields (definition : Definition) (fields : Fields) : Bool :=
  read fields "kind" = some (.str definition.kind) &&
    definition.required.all (fun name => (read fields name).isSome) &&
    fields.all (fun field => field.1 = "kind" || definition.properties.any fun property => property.1 = field.1) &&
    definition.properties.all (fun property => (read fields property.1).all property.2) &&
    definition.combines (read fields)

theorem admitsFields_plain {kind : String} {required : List String} {properties : List (String × (Jsonb → Bool))}
    {fields : Fields} : admitsFields (plain kind required properties) fields =
      (read fields "kind" = some (.str kind) && required.all (fun name => (read fields name).isSome) &&
        fields.all (fun field => field.1 = "kind" || properties.any fun property => property.1 = field.1) &&
        properties.all fun property => (read fields property.1).all property.2) :=
  Bool.and_true _

theorem mem_keys_iff (fields : Fields) (name : String) :
    name ∈ fields.map Prod.fst ↔ (read fields name).isSome = true := by
  unfold read
  rw [Option.isSome_map, List.find?_isSome]
  simp

/-- A document has the keys its builder wrote. -/
theorem keys_document {fields sorted : Fields} (distinct : (fields.map Prod.fst).Nodup)
    (document : jsonbObject fields = .obj sorted) (name : String) :
    name ∈ sorted.map Prod.fst ↔ name ∈ fields.map Prod.fst := by
  have same : read sorted name = read fields name := by
    have got := get_jsonbObject distinct name
    rw [document] at got
    exact got
  rw [mem_keys_iff, mem_keys_iff, same]

theorem all_of_keys {a b : Fields} (same : ∀ name, name ∈ a.map Prod.fst ↔ name ∈ b.map Prod.fst)
    (check : String → Bool) : (a.all fun field => check field.1) = b.all fun field => check field.1 := by
  have through : ∀ fields : Fields, (fields.all fun field => check field.1) = (fields.map Prod.fst).all check := by
    intro fields
    rw [List.all_map]
    rfl
  rw [through, through, Bool.eq_iff_iff, List.all_eq_true, List.all_eq_true]
  exact ⟨fun every name member => every name ((same name).mpr member),
    fun every name member => every name ((same name).mp member)⟩

theorem admits_document {definition : Definition} {fields : Fields} (distinct : (fields.map Prod.fst).Nodup) :
    definition.admits (jsonbObject fields) = admitsFields definition fields := by
  cases document : jsonbObject fields with
  | obj sorted =>
    have got : (Jsonb.obj sorted).get = read fields := by
      funext name
      rw [← document]
      exact get_jsonbObject distinct name
    have keys := all_of_keys (keys_document distinct document) fun name =>
      name = "kind" || definition.properties.any fun property => property.1 = name
    unfold Definition.admits admitsFields
    simp only [got, keys]
  | _ => cases document

/-! ## The definition of a kind -/

theorem countP_of_kind {p : Definition → Bool} {list : List Definition} {definition : Definition}
    (distinct : (list.map Definition.kind).Nodup) (member : definition ∈ list)
    (only : ∀ other ∈ list, p other = true → other.kind = definition.kind) :
    list.countP p = 1 ↔ p definition = true := by
  induction list with
  | nil => cases member
  | cons head rest ih =>
    rw [List.map_cons, List.nodup_cons] at distinct
    rw [List.countP_cons]
    rcases List.mem_cons.mp member with rfl | later
    · -- the rest is of other kinds
      have none_ : rest.countP p = 0 := by
        rw [List.countP_eq_zero]
        intro other inRest passes
        exact distinct.1 (List.mem_map.mpr ⟨other, inRest, only other (List.mem_cons_of_mem _ inRest) passes⟩)
      rw [none_]
      by_cases passes : p definition = true
      · simp [passes]
      · simp [passes]
    · have fails : ¬ p head = true := by
        intro passes
        have same := only head List.mem_cons_self passes
        exact distinct.1 (List.mem_map.mpr ⟨definition, later, same.symm⟩)
      rw [if_neg fails]
      exact ih distinct.2 later fun other inRest => only other (List.mem_cons_of_mem _ inRest)

def contractKinds : List String :=
  ["SendSms", "RestartModem", "SwitchEsimProfile", "ListEsimProfiles", "ReadEsimInfo", "RetrieveEsimNotification",
    "InitiateEsimAuthentication", "DownloadEsimProfile", "RunAtCommand", "SendUssd", "SetRadio", "ScanOperators",
    "SelectOperator", "ModemReport", "ResetModemUsb", "SetDataNetwork", "ConfigureApn", "SetUsbnetMode",
    "ReregisterNetwork", "RefreshModems", "ReadLogs", "ClaimModemCandidate", "RevokeModemCandidate", "RegisterModem",
    "CreateModem", "UnregisterModem", "ReconfirmModem", "UpdateModem", "RenameEsimProfile", "DisableEsimProfile",
    "DeleteEsimProfile", "ConfigureProxy", "ProxyLifecycle", "ProbeUpstreamProxy", "RotateIp", "UpdateCardPolicy",
    "UpdateCapabilityMatrix", "SelfUpdate"]

variable {nested : String → Jsonb → Bool}

theorem kinds_distinct : ((definitions nested).map Definition.kind).Nodup := by
  have kinds : (definitions nested).map Definition.kind = contractKinds := rfl
  rw [kinds]
  decide

/-- A document that names the kind of a definition is judged by it alone. -/
theorem validates_document {definition : Definition} {fields : Fields} (distinct : (fields.map Prod.fst).Nodup)
    (member : definition ∈ definitions nested) (named : read fields "kind" = some (.str definition.kind)) :
    validates nested (jsonbObject fields) = true ↔ admitsFields definition fields = true := by
  unfold validates
  rw [decide_eq_true_eq, countP_of_kind kinds_distinct member ?_, admits_document distinct]
  intro other _ passes
  rw [admits_document distinct] at passes
  simp only [admitsFields, Bool.and_eq_true, decide_eq_true_eq] at passes
  have same := named.symm.trans passes.1.1.1.1
  simpa using same.symm

/-! ## Checks -/

theorem optional_ok {absent condition : Bool} {reason : String} {field : String × Jsonb} {fields : Fields}
    (h : Source.CommandCatalogue.optional absent condition reason field = .ok fields) :
    (absent = true ∧ fields = []) ∨ (absent = false ∧ condition = true ∧ fields = [field]) := by
  unfold Source.CommandCatalogue.optional at h
  by_cases left : absent = true
  · rw [if_pos left] at h
    cases h
    exact .inl ⟨left, rfl⟩
  · rw [if_neg left] at h
    by_cases holds : condition = true
    · rw [if_pos holds] at h
      cases h
      exact .inr ⟨Bool.eq_false_iff.mpr left, holds, rfl⟩
    · rw [if_neg holds] at h
      cases h

/-! ## Lengths -/

theorem utf8Len_ge (chars : List Char) : chars.length ≤ String.utf8Len chars := by
  induction chars with
  | nil => exact Nat.le_refl 0
  | cons c rest ih =>
    rw [String.utf8Len_cons, List.length_cons]
    have := Char.utf8Size_pos c
    omega

/-- A text has at least as many bytes as code points. -/
theorem length_le_bytes (value : String) : value.length ≤ value.utf8ByteSize := by
  have bytes := String.utf8ByteSize_ofList value.toList
  rw [String.ofList_toList] at bytes
  rw [bytes, ← String.length_toList]
  exact utf8Len_ge value.toList

theorem length_pos_of_ne {value : String} (filled : value ≠ "") : 1 ≤ value.length := by
  rw [← String.length_toList]
  cases chars : value.toList with
  | nil => exact absurd (String.toList_eq_nil_iff.mp chars) filled
  | cons c rest => exact Nat.succ_le_succ (Nat.zero_le _)

theorem trimSpace_length_le (value : String) : (trimSpace value).length ≤ value.length := by
  unfold trimSpace
  rw [String.length_ofList, List.length_reverse, ← String.length_toList]
  have outer := List.Sublist.length_le (List.dropWhile_sublist isSpace (l := (value.toList.dropWhile isSpace).reverse))
  have inner := List.Sublist.length_le (List.dropWhile_sublist isSpace (l := value.toList))
  rw [List.length_reverse] at outer
  omega

theorem splitOn_lengths (separator : Char) (chars : List Char) :
    ((splitOn separator chars).map fun piece => piece.length + 1).sum = chars.length + 1 := by
  induction chars with
  | nil => rfl
  | cons c rest ih =>
    unfold splitOn
    by_cases cut : c = separator
    · rw [if_pos cut, List.map_cons, List.sum_cons, ih, List.length_cons, List.length_nil]
      omega
    · rw [if_neg cut]
      cases pieces : splitOn separator rest with
      | nil =>
        rw [pieces] at ih
        simp at ih
      | cons piece later =>
        rw [pieces] at ih
        simp only [List.map_cons, List.sum_cons, List.length_cons] at ih ⊢
        omega

/-! ## Values -/

theorem imei_of_pattern {value : String} (matched : imeiPattern value = true) : imei (.str value) = true := by
  simp only [imeiPattern, Bool.and_eq_true, decide_eq_true_eq] at matched
  simp [imei, text, matched.1, matched.2]

theorem integerBetween_of {value least most : Int} (low : least ≤ value) (high : value ≤ most) :
    integerBetween least (some most) (.num value) = true := by
  simp [integerBetween, low, high]

/-- A text that fits in bytes fits in code points. -/
theorem textBetween_of_bytes {value : String} {most : Nat} (fits : value.utf8ByteSize ≤ most) :
    textBetween 0 most (.str value) = true := by
  have := length_le_bytes value
  simp only [textBetween, text, Bool.and_eq_true, decide_eq_true_eq]
  omega

theorem codePart_ok {least most : Nat} {part : List Char} (matched : codePart least most part = true) :
    least ≤ part.length ∧ part.length ≤ most := by
  simp only [codePart, Bool.and_eq_true, decide_eq_true_eq] at matched
  exact matched.1

/-- The fields of an activation code add up to between 8 and 642 characters. -/
theorem activationCode_fields {code : List Char}
    (matched : (match splitOn '$' code with
      | [['1'], address, matching] => codePart 4 253 address && codePart 1 128 matching
      | [['1'], address, matching, third] =>
        codePart 4 253 address && codePart 1 128 matching && codePart 0 255 third
      | [['1'], address, matching, third, ['1']] =>
        codePart 4 253 address && codePart 1 128 matching && codePart 0 255 third
      | _ => false) = true) : 8 ≤ code.length ∧ code.length ≤ 642 := by
  have lengths := splitOn_lengths '$' code
  split at matched
  · next address matching pieces =>
    rw [pieces] at lengths
    simp only [Bool.and_eq_true] at matched
    have := codePart_ok matched.1
    have := codePart_ok matched.2
    simp at lengths
    omega
  · next address matching third pieces =>
    rw [pieces] at lengths
    simp only [Bool.and_eq_true] at matched
    have := codePart_ok matched.1.1
    have := codePart_ok matched.1.2
    have := codePart_ok matched.2
    simp at lengths
    omega
  · next address matching third pieces =>
    rw [pieces] at lengths
    simp only [Bool.and_eq_true] at matched
    have := codePart_ok matched.1.1
    have := codePart_ok matched.1.2
    have := codePart_ok matched.2
    simp at lengths
    omega
  · cases matched

theorem activationCode_of_pattern {value : String} (matched : activationCodePattern value = true) :
    activationCode (.str value) = true := by
  have bounds : 8 ≤ value.length ∧ value.length ≤ 646 := by
    rw [← String.length_toList]
    unfold activationCodePattern at matched
    split at matched
    · next rest chars =>
      have := activationCode_fields matched
      rw [chars]
      simp only [List.length_cons]
      omega
    · have := activationCode_fields matched
      omega
  simp only [activationCode, textBetween, text, Bool.and_eq_true, decide_eq_true_eq]
  omega

theorem startsWithAT_length {command : String} (matched : startsWithAT command = true) : 2 ≤ command.length := by
  simp only [startsWithAT, decide_eq_true_eq] at matched
  have := congrArg List.length matched
  rw [List.length_map, List.length_take, String.length_toList] at this
  simp at this
  omega

/-! ## One command at a time -/

/-- The bounds of the contract that the builder of a kind does not check. -/
def Within (kind : String) (request : Request) : Prop :=
  match kind with
  | "send_sms" => request.body.length ≤ 16384
  | "run_at_command" => (trimSpace request.command).length ≤ 1024
  | "send_ussd" => 1 ≤ request.code.length ∧ request.code.length ≤ 182
  | "configure_apn" =>
    request.apn.length ≤ 128 ∧ (∀ username ∈ request.username, username.length ≤ 64) ∧
      ∀ password ∈ request.password, password.length ≤ 64
  | "initiate_esim_authentication" =>
    trimSpace request.smdpAddress = "" ∨
      (4 ≤ (trimSpace request.smdpAddress).length ∧ (trimSpace request.smdpAddress).length ≤ 253)
  | "self_update" =>
    request.version.length ≤ 128 ∧ request.url.length ≤ 2048 ∧
      16 ≤ request.signature.length ∧ request.signature.length ≤ 1024
  | _ => True

/-- What a command builds is valid exactly when a condition holds of the request. -/
def Judged (nested : String → Jsonb → Bool) (spec : Spec) (condition : Request → Prop) : Prop :=
  ∀ request fields, (spec.needsModem = true → imeiPattern request.modemImei = true) →
    spec.build request = .ok fields → (validates nested (jsonbObject fields) = true ↔ condition request)

theorem modemCommand_judged {kind contractKind : String} {mutating : Bool}
    (member : onModem contractKind ∈ definitions nested) :
    Judged nested (modemCommand kind contractKind mutating) fun _ => True := by
  intro request fields modem built
  cases built
  rw [validates_document (by simp) member rfl]
  simp [onModem, admitsFields_plain, imei_of_pattern (modem rfl)]

theorem profileCommand_judged {kind contractKind : String} (member : onProfile contractKind ∈ definitions nested) :
    Judged nested (profileCommand kind contractKind) fun _ => True := by
  intro request fields modem built
  obtain ⟨_, profile, built⟩ := bind_success built
  cases built
  rw [validates_document (by simp) member rfl]
  simp [onProfile, admitsFields_plain, imei_of_pattern (modem rfl), iccid, text, require_iff.mp profile]

theorem switchCommand_judged {kind contractKind : String} (member : onSwitch contractKind ∈ definitions nested) :
    Judged nested (switchCommand kind contractKind) fun _ => True := by
  intro request fields modem built
  obtain ⟨enabled, _, built⟩ := bind_success built
  cases built
  rw [validates_document (by simp) member rfl]
  simp [onSwitch, admitsFields_plain, imei_of_pattern (modem rfl), isBool]

theorem candidateCommand_judged {kind contractKind : String}
    (member : onCandidate contractKind ∈ definitions nested) :
    Judged nested (candidateCommand kind contractKind) fun _ => True := by
  intro request fields _ built
  obtain ⟨key, keyed, built⟩ := bind_success built
  cases built
  obtain ⟨_, _, keyed⟩ := bind_success keyed
  obtain ⟨_, short, keyed⟩ := bind_success keyed
  cases keyed
  have fits := textBetween_of_bytes (of_decide_eq_true (require_iff.mp short))
  rw [validates_document (by simp) member rfl]
  simp [onCandidate, admitsFields_plain, fits]

theorem sendSms_judged : Judged nested sendSms (Within "send_sms") := by
  intro request fields modem built
  obtain ⟨_, phone, built⟩ := bind_success built
  obtain ⟨_, body, built⟩ := bind_success built
  cases built
  have filled := length_pos_of_ne (of_decide_eq_true (require_iff.mp body))
  rw [validates_document (by simp) List.mem_cons_self rfl]
  simp [admitsFields, Definition.combines, text, textBetween, imei_of_pattern (modem rfl), require_iff.mp phone, filled, Within]

theorem runAtCommand_judged : Judged nested runAtCommand (Within "run_at_command") := by
  intro request fields modem built
  obtain ⟨_, command, built⟩ := bind_success built
  obtain ⟨timeout, timed, built⟩ := bind_success built
  cases built
  have prefixed := require_iff.mp command
  rw [Bool.and_eq_true] at prefixed
  have long := startsWithAT_length prefixed.2
  have member : (definitions nested)[8]? = some _ := rfl
  have forced : isBool (.bool true) = true := rfl
  rcases optional_ok timed with ⟨_, rfl⟩ | ⟨_, within, rfl⟩
  · by_cases force : request.force = true
    · rw [if_pos force, validates_document (by simp) (List.mem_of_getElem? member) rfl]
      simp [admitsFields_plain, text, textBetween, imei_of_pattern (modem rfl), long, forced, Within]
    · rw [if_neg force, validates_document (by simp) (List.mem_of_getElem? member) rfl]
      simp [admitsFields_plain, text, textBetween, imei_of_pattern (modem rfl), long, Within]
  · simp only [Bool.and_eq_true, decide_eq_true_eq] at within
    have timely := integerBetween_of within.1 within.2
    by_cases force : request.force = true
    · rw [if_pos force, validates_document (by simp) (List.mem_of_getElem? member) rfl]
      simp [admitsFields_plain, text, textBetween, imei_of_pattern (modem rfl), long, forced, timely, Within]
    · rw [if_neg force, validates_document (by simp) (List.mem_of_getElem? member) rfl]
      simp [admitsFields_plain, text, textBetween, imei_of_pattern (modem rfl), long, timely, Within]

theorem sendUssd_judged : Judged nested sendUssd (Within "send_ussd") := by
  intro request fields modem built
  obtain ⟨_, stage, built⟩ := bind_success built
  obtain ⟨_, _, built⟩ := bind_success built
  cases built
  have staged := require_iff.mp stage
  have member : (definitions nested)[9]? = some _ := rfl
  rw [validates_document (by simp) (List.mem_of_getElem? member) rfl]
  simp only [List.contains_iff_mem, List.mem_cons, List.not_mem_nil, or_false] at staged
  simp [admitsFields_plain, text, textBetween, oneOf, imei_of_pattern (modem rfl), Within, staged]

/-! ### Fields that may be left out -/

def entry (name : String) (value : Option Jsonb) : Fields := (value.map fun inner => (name, inner)).toList

theorem entry_of_optional {absent condition : Bool} {reason name : String} {value : Jsonb} {fields : Fields}
    (check : Jsonb → Bool) (h : Source.CommandCatalogue.optional absent condition reason (name, value) = .ok fields)
    (fits : condition = true → check value = true) :
    ∃ written, fields = entry name written ∧ written.all check = true := by
  rcases optional_ok h with ⟨_, rfl⟩ | ⟨_, holds, rfl⟩
  · exact ⟨none, rfl, rfl⟩
  · exact ⟨some value, rfl, fits holds⟩

@[simp] theorem read_entry (name other : String) (value : Option Jsonb) :
    read (entry name value) other = if name = other then value else none := by
  unfold read entry
  cases value with
  | none => simp
  | some inner =>
    by_cases same : name = other
    · simp [same]
    · simp [same]

@[simp] theorem all_entry (name : String) (value : Option Jsonb) (check : String × Jsonb → Bool) :
    (entry name value).all check = value.all fun inner => check (name, inner) := by
  cases value with
  | none => rfl
  | some inner => simp [entry]

theorem keys_entry_sublist (name : String) (value : Option Jsonb) :
    ((entry name value).map Prod.fst).Sublist [name] := by
  cases value with
  | none => exact List.nil_sublist _
  | some inner => exact List.Sublist.refl _

theorem keys_nodup (head : Fields) (entries : List (String × Option Jsonb))
    (distinct : (head.map Prod.fst ++ entries.map Prod.fst).Nodup) :
    ((head ++ entries.flatMap fun item => entry item.1 item.2).map Prod.fst).Nodup := by
  refine distinct.sublist ?_
  rw [List.map_append]
  refine (List.Sublist.refl _).append ?_
  induction entries with
  | nil => exact List.nil_sublist _
  | cons item rest ih =>
    rw [List.flatMap_cons, List.map_append, List.map_cons]
    exact (keys_entry_sublist item.1 item.2).append (ih (by grind))

theorem toList_entry (name : String) (value : Option String) :
    (value.map fun inner => (name, Jsonb.str inner)).toList = entry name (value.map Jsonb.str) := by
  cases value <;> rfl

theorem textBetween_str (least most : Nat) (value : String) :
    textBetween least most (.str value) = (decide (least ≤ value.length) && decide (value.length ≤ most)) := rfl

theorem all_text (value : Option String) (most : Nat) :
    (value.map Jsonb.str).all (textBetween 0 most) = true ↔ ∀ inner ∈ value, inner.length ≤ most := by
  cases value with
  | none => simp
  | some inner => simp [textBetween, text]

theorem configureApn_judged : Judged nested configureApn (Within "configure_apn") := by
  intro request fields modem built
  obtain ⟨cid, _, built⟩ := bind_success built
  obtain ⟨_, between, built⟩ := bind_success built
  obtain ⟨pdpType, typed, built⟩ := bind_success built
  obtain ⟨auth, authed, built⟩ := bind_success built
  cases built
  have bounds := require_iff.mp between
  simp only [Bool.and_eq_true, decide_eq_true_eq] at bounds
  have numbered := integerBetween_of bounds.1 bounds.2
  obtain ⟨pdp, rfl, pdpFits⟩ := entry_of_optional (oneOf ["IP", "IPV6", "IPV4V6"]) typed id
  obtain ⟨method, rfl, authFits⟩ := entry_of_optional (oneOf ["none", "pap", "chap", "pap_or_chap"]) authed id
  rw [toList_entry, toList_entry]
  have member : (definitions nested)[16]? = some _ := rfl
  rw [validates_document ?_ (List.mem_of_getElem? member) rfl]
  · simp [admitsFields_plain, imei_of_pattern (modem rfl), numbered, pdpFits, authFits, textBetween_str, Within, all_text]
  · simpa using keys_nodup
      [("kind", .str "ConfigureApn"), ("modem_imei", .str request.modemImei), ("cid", .num cid), ("apn", .str request.apn)]
      [("pdp_type", pdp), ("auth", method), ("username", request.username.map Jsonb.str),
        ("password", request.password.map Jsonb.str)] (by simp)

theorem selectOperator_judged : Judged nested selectOperator fun _ => True := by
  intro request fields modem built
  obtain ⟨_, mode, built⟩ := bind_success built
  obtain ⟨plmn, named, built⟩ := bind_success built
  cases built
  have known := require_iff.mp mode
  have member : (definitions nested)[12]? = some _ := rfl
  -- the plmn is left out only where the mode is not manual
  rcases optional_ok named with ⟨absent, rfl⟩ | ⟨_, matched, rfl⟩
  · have chosen := of_decide_eq_true absent
    rw [validates_document (by simp) (List.mem_of_getElem? member) rfl]
    simpa [admitsFields, Definition.combines, text, oneOf, imei_of_pattern (modem rfl), chosen] using known
  · rw [validates_document (by simp) (List.mem_of_getElem? member) rfl]
    simpa [admitsFields, Definition.combines, text, oneOf, imei_of_pattern (modem rfl), Source.CommandContract.plmn,
      matched] using known

theorem setUsbnetMode_judged : Judged nested setUsbnetMode fun _ => True := by
  intro request fields modem built
  obtain ⟨_, mode, built⟩ := bind_success built
  cases built
  have known := require_iff.mp mode
  have member : (definitions nested)[17]? = some _ := rfl
  rw [validates_document (by simp) (List.mem_of_getElem? member) rfl]
  simpa [admitsFields_plain, text, oneOf, imei_of_pattern (modem rfl), usbnetModes] using known

theorem refreshModems_judged : Judged nested refreshModems fun _ => True := by
  intro request fields _ built
  cases built
  have member : (definitions nested)[19]? = some _ := rfl
  rw [validates_document (by simp) (List.mem_of_getElem? member) rfl]
  simp [admitsFields_plain]

theorem renameEsimProfile_judged : Judged nested renameEsimProfile fun _ => True := by
  intro request fields modem built
  obtain ⟨_, profile, built⟩ := bind_success built
  obtain ⟨nickname, _, built⟩ := bind_success built
  obtain ⟨_, short, built⟩ := bind_success built
  cases built
  have fits := textBetween_of_bytes (of_decide_eq_true (require_iff.mp short))
  have member : (definitions nested)[28]? = some _ := rfl
  rw [validates_document (by simp) (List.mem_of_getElem? member) rfl]
  simp [admitsFields_plain, imei_of_pattern (modem rfl), iccid, text, require_iff.mp profile, fits]

/-- A note is left out, or fits. -/
theorem noteField_ok {note : String} {fields : Fields} (h : noteField note = .ok fields) :
    fields = [] ∨ ∃ value, textBetween 0 256 (.str value) = true ∧ fields = [("note", .str value)] := by
  rcases optional_ok h with ⟨_, rfl⟩ | ⟨_, short, rfl⟩
  · exact .inl rfl
  · exact .inr ⟨trimSpace note, textBetween_of_bytes (of_decide_eq_true short), rfl⟩

theorem textOrNull_str {most : Nat} {value : String} :
    textOrNull most (.str value) = textBetween 0 most (.str value) := rfl

theorem registerModem_judged : Judged nested registerModem fun _ => True := by
  intro request fields modem built
  obtain ⟨note, noted, built⟩ := bind_success built
  cases built
  have member : (definitions nested)[23]? = some _ := rfl
  rcases noteField_ok noted with rfl | ⟨value, fits, rfl⟩
  · rw [validates_document (by simp) (List.mem_of_getElem? member) rfl]
    simp [admitsFields_plain, imei_of_pattern (modem rfl)]
  · rw [validates_document (by simp) (List.mem_of_getElem? member) rfl]
    simp [admitsFields_plain, imei_of_pattern (modem rfl), fits]

theorem createModem_judged : Judged nested createModem fun _ => True := by
  intro request fields _ built
  obtain ⟨_, imei, built⟩ := bind_success built
  obtain ⟨_, _, built⟩ := bind_success built
  obtain ⟨_, short, built⟩ := bind_success built
  obtain ⟨note, noted, built⟩ := bind_success built
  cases built
  have known := imei_of_pattern (require_iff.mp imei)
  have family := textBetween_of_bytes (of_decide_eq_true (require_iff.mp short))
  have member : (definitions nested)[24]? = some _ := rfl
  rcases noteField_ok noted with rfl | ⟨value, fits, rfl⟩
  · rw [validates_document (by simp) (List.mem_of_getElem? member) rfl]
    simp [admitsFields_plain, known, family]
  · rw [validates_document (by simp) (List.mem_of_getElem? member) rfl]
    simp [admitsFields_plain, known, family, textOrNull_str, fits]

theorem updateModem_judged : Judged nested updateModem fun _ => True := by
  intro request fields modem built
  obtain ⟨_, short, built⟩ := bind_success built
  cases built
  have fits := textBetween_of_bytes (of_decide_eq_true (require_iff.mp short))
  have member : (definitions nested)[27]? = some _ := rfl
  by_cases noted : trimSpace request.note ≠ ""
  · rw [if_pos noted, validates_document (by simp) (List.mem_of_getElem? member) rfl]
    simp [admitsFields_plain, imei_of_pattern (modem rfl), textOrNull_str, fits]
  · rw [if_neg noted, validates_document (by simp) (List.mem_of_getElem? member) rfl]
    simp [admitsFields_plain, imei_of_pattern (modem rfl)]

theorem readLogs_judged : Judged nested readLogs fun _ => True := by
  intro request fields _ built
  obtain ⟨limit, limited, built⟩ := bind_success built
  obtain ⟨contains, searched, built⟩ := bind_success built
  cases built
  obtain ⟨most, rfl, mostFits⟩ : ∃ most, limit = entry "limit" most ∧ most.all (integerBetween 1 (some 500)) = true := by
    cases asked : request.logLimit with
    | none =>
      rw [asked] at limited
      cases limited
      exact ⟨none, rfl, rfl⟩
    | some number =>
      rw [asked] at limited
      refine entry_of_optional _ limited fun within => ?_
      simp only [Option.all_some, Bool.and_eq_true, decide_eq_true_eq] at within
      exact integerBetween_of within.1 within.2
  obtain ⟨sought, rfl, soughtFits⟩ := entry_of_optional (textBetween 0 64) searched fun short =>
    textBetween_of_bytes (of_decide_eq_true short)
  obtain ⟨first, after, afterFits⟩ : ∃ first,
      (request.logAfter.map fun after : Nat => ("after", Jsonb.num (after : Rat))).toList = entry "after" first ∧
        first.all (integerBetween 0 none) = true := by
    cases request.logAfter with
    | none => exact ⟨none, rfl, rfl⟩
    | some after => exact ⟨some (.num after), rfl, by simp [integerBetween]⟩
  rw [after]
  have member : (definitions nested)[20]? = some _ := rfl
  rw [validates_document ?_ (List.mem_of_getElem? member) rfl]
  · simp [admitsFields_plain, mostFits, soughtFits, afterFits]
  · simpa using keys_nodup [("kind", .str "ReadLogs")]
      [("after", first), ("limit", most), ("contains", sought)] (by simp)

theorem retrieveEsimNotification_judged : Judged nested retrieveEsimNotification fun _ => True := by
  intro request fields modem built
  obtain ⟨number, _, built⟩ := bind_success built
  obtain ⟨_, between, built⟩ := bind_success built
  cases built
  have bounds := require_iff.mp between
  simp only [Bool.and_eq_true, decide_eq_true_eq] at bounds
  have numbered := integerBetween_of bounds.1 bounds.2
  have member : (definitions nested)[5]? = some _ := rfl
  rw [validates_document (by simp) (List.mem_of_getElem? member) rfl]
  simp [admitsFields_plain, imei_of_pattern (modem rfl), numbered]

theorem initiateEsimAuthentication_judged :
    Judged nested initiateEsimAuthentication (Within "initiate_esim_authentication") := by
  intro request fields modem built
  obtain ⟨address, addressed, built⟩ := bind_success built
  cases built
  have member : (definitions nested)[6]? = some _ := rfl
  rcases optional_ok addressed with ⟨absent, rfl⟩ | ⟨present, matched, rfl⟩
  · have absent := of_decide_eq_true absent
    rw [validates_document (by simp) (List.mem_of_getElem? member) rfl]
    simp [admitsFields_plain, imei_of_pattern (modem rfl), Within, absent]
  · have present := of_decide_eq_false present
    rw [validates_document (by simp) (List.mem_of_getElem? member) rfl]
    simp [admitsFields_plain, imei_of_pattern (modem rfl), smdpAddress, text, matched, Within, present]

theorem downloadEsimProfile_judged : Judged nested downloadEsimProfile fun _ => True := by
  intro request fields modem built
  obtain ⟨_, _, built⟩ := bind_success built
  obtain ⟨_, matched, built⟩ := bind_success built
  obtain ⟨confirmation, confirmed, built⟩ := bind_success built
  cases built
  have code := activationCode_of_pattern (require_iff.mp matched)
  have member : (definitions nested)[7]? = some _ := rfl
  rcases optional_ok confirmed with ⟨_, rfl⟩ | ⟨present, short, rfl⟩
  · rw [validates_document (by simp) (List.mem_of_getElem? member) rfl]
    simp [admitsFields_plain, imei_of_pattern (modem rfl), code]
  · have filled := length_pos_of_ne (of_decide_eq_false present)
    have bytes := length_le_bytes (trimSpace request.confirmationCode)
    have fits : confirmationCode (.str (trimSpace request.confirmationCode)) = true := by
      rw [confirmationCode, textBetween_str, Bool.and_eq_true, decide_eq_true_eq, decide_eq_true_eq]
      exact ⟨filled, Nat.le_trans bytes (of_decide_eq_true short)⟩
    rw [validates_document (by simp) (List.mem_of_getElem? member) rfl]
    simp [admitsFields_plain, imei_of_pattern (modem rfl), code, fits]

theorem selfUpdate_judged : Judged nested selfUpdate (Within "self_update") := by
  intro request fields _ built
  obtain ⟨_, version, built⟩ := bind_success built
  obtain ⟨_, url, built⟩ := bind_success built
  obtain ⟨_, digest, built⟩ := bind_success built
  obtain ⟨_, _, built⟩ := bind_success built
  cases built
  have trimmed := length_pos_of_ne (of_decide_eq_true (require_iff.mp version))
  have filled := Nat.le_trans trimmed (trimSpace_length_le request.version)
  have member : (definitions nested)[37]? = some _ := rfl
  rw [validates_document (by simp) (List.mem_of_getElem? member) rfl]
  simp [admitsFields_plain, textBetween, text, httpsUrl, sha256, require_iff.mp url, require_iff.mp digest, filled, Within]

theorem switchEsimProfile_judged : Judged nested switchEsimProfile fun _ => True := by
  intro request fields modem built
  obtain ⟨_, target, built⟩ := bind_success built
  cases built
  have member : (definitions nested)[2]? = some _ := rfl
  rw [validates_document (by simp) (List.mem_of_getElem? member) rfl]
  simp [admitsFields_plain, imei_of_pattern (modem rfl), iccid, text, require_iff.mp target]

theorem catalogue_judged : ∀ spec ∈ catalogue, Judged nested spec (Within spec.kind) := by
  have modem : ∀ {kind contractKind : String} {mutating : Bool} (i : Nat),
      (definitions nested)[i]? = some (onModem contractKind) →
      Judged nested (modemCommand kind contractKind mutating) fun _ => True :=
    fun i found => modemCommand_judged (List.mem_of_getElem? found)
  have profile : ∀ {kind contractKind : String} (i : Nat),
      (definitions nested)[i]? = some (onProfile contractKind) →
      Judged nested (profileCommand kind contractKind) fun _ => True :=
    fun i found => profileCommand_judged (List.mem_of_getElem? found)
  simp only [catalogue, List.forall_mem_cons]
  exact ⟨sendSms_judged, modem 1 rfl, runAtCommand_judged, sendUssd_judged,
    switchCommand_judged (List.mem_of_getElem? (i := 10) rfl), configureApn_judged, modem 11 rfl,
    selectOperator_judged, modem 13 rfl, modem 14 rfl, switchCommand_judged (List.mem_of_getElem? (i := 15) rfl),
    setUsbnetMode_judged, modem 18 rfl, refreshModems_judged, renameEsimProfile_judged, profile 29 rfl,
    profile 30 rfl, candidateCommand_judged (List.mem_of_getElem? (i := 21) rfl),
    candidateCommand_judged (List.mem_of_getElem? (i := 22) rfl), registerModem_judged, modem 25 rfl,
    createModem_judged, updateModem_judged, modem 26 rfl, readLogs_judged, modem 3 rfl, modem 4 rfl,
    retrieveEsimNotification_judged, initiateEsimAuthentication_judged, downloadEsimProfile_judged,
    selfUpdate_judged, modem 34 rfl, switchEsimProfile_judged, fun _ h => nomatch h⟩

/-! ## Every request -/

/-- The fields whose length the builder of the request's kind leaves open fit. -/
def InBounds (request : Request) : Prop := Within (requestKind request) request

theorem buildPayload_ok {quote : String → String} {request : Request} {spec : Spec} {payload : Jsonb}
    (built : buildPayload quote request = .ok (spec, payload)) :
    lookup (requestKind request) = some spec ∧ (spec.needsModem = true → imeiPattern request.modemImei = true) ∧
      ∃ fields, spec.build request = .ok fields ∧ payload = jsonbObject fields := by
  unfold buildPayload at built
  cases found : lookup (requestKind request) with
  | none =>
    rw [found] at built
    cases built
  | some known =>
    rw [found] at built
    obtain ⟨_, _, built⟩ := bind_success built
    obtain ⟨_, modem, built⟩ := bind_success built
    obtain ⟨fields, fielded, built⟩ := bind_success built
    cases built
    refine ⟨rfl, ?_, fields, fielded, rfl⟩
    intro needed
    have modem := require_iff.mp modem
    rw [needed] at modem
    exact modem

/-- What the catalogue accepts validates against the contract exactly when the lengths it
leaves open are within the contract's bounds. -/
theorem accepted_command_valid_iff {quote : String → String} {request : Request} {spec : Spec} {payload : Jsonb}
    (built : buildPayload quote request = .ok (spec, payload)) :
    validates nested payload = true ↔ InBounds request := by
  obtain ⟨found, modem, fields, fielded, rfl⟩ := buildPayload_ok built
  obtain ⟨member, kind⟩ := lookup_ok found
  have judged := @catalogue_judged nested spec member request fields modem fielded
  rw [kind] at judged
  exact judged

/-- A request with nothing but a kind, a device and a modem. -/
def bareRequest (kind : String) : Request where
  deviceId := "c7d0a2f4-58f5-4a0e-9f0e-2f2a9f3f6a11"
  kind := kind
  modemImei := "867929068986654"
  to_ := ""
  body := ""
  command := ""
  timeoutMs := 0
  force := false
  code := ""
  stage := ""
  enabled := none
  mode := ""
  plmn := ""
  profileIccid := ""
  nickname := none
  candidateKey := ""
  note := ""
  family := ""
  logAfter := none
  logLimit := none
  logContains := ""
  cid := none
  pdpType := ""
  apn := ""
  username := none
  password := none
  auth := ""
  usbnetMode := ""
  targetIccid := ""
  sequenceNumber := none
  smdpAddress := ""
  activationCode := ""
  confirmationCode := ""
  version := ""
  url := ""
  sha256 := ""
  signature := ""

def messageRequest : Request := { bareRequest "" with to_ := "+8613800138000", body := "hello" }

/-- A USSD session that is cancelled. -/
def cancelRequest : Request := { bareRequest "send_ussd" with stage := "cancel" }

theorem text_message_valid : ∃ spec payload, buildPayload id messageRequest = .ok (spec, payload) ∧
    validates (fun _ _ => true) payload = true := by
  have short : InBounds messageRequest := by
    show messageRequest.body.length ≤ 16384
    decide
  have built : buildPayload id messageRequest = .ok (sendSms, jsonbObject [("kind", .str "SendSms"),
      ("to", .str "+8613800138000"), ("body", .str "hello"), ("modem_imei", .str "867929068986654")]) := rfl
  exact ⟨sendSms, _, built, (accepted_command_valid_iff built).mpr short⟩

/-- Cancelling a session is accepted, with a code the contract does not allow. -/
theorem cancelled_session_not_valid :
    (buildPayload id cancelRequest).toOption.map (fun built => validates (fun _ _ => true) built.2) = some false := by
  decide

end VodogeCloud.Guarantees.CommandDocuments
