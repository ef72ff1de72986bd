import VodogeCloud.Source.CardDelivery

/-!
# What a card policy command carries

A push encodes the rows of the tenant through the contract type; a redelivery decodes
a stored payload into that type and encodes it again. Both commands read the same: the
version and, for each row, its rendering.
-/

set_option autoImplicit false

namespace VodogeCloud.Guarantees.CardRenderings

open VodogeCloud.Lib VodogeCloud.Source.Postgres VodogeCloud.Source.CommandLifecycle
open VodogeCloud.Source.CardPolicies VodogeCloud.Source.CardDelivery

/-! ## Fields of an object -/

theorem keys_jsonbObject (fields : List (String × Jsonb)) {key : String}
    (member : key ∈ (fields.foldr (fun field rest => insertField field.1 field.2 rest) []).map Prod.fst) :
    key ∈ fields.map Prod.fst := by
  induction fields with
  | nil => exact member
  | cons field rest ih =>
    rcases keys_insertField member with rfl | later
    · exact List.mem_cons_self
    · exact List.mem_cons_of_mem _ (ih later)

/-- An object made of distinct fields has each of them and no other. -/
theorem get_jsonbObject {fields : List (String × Jsonb)} (distinct : (fields.map Prod.fst).Nodup)
    (key : String) :
    (jsonbObject fields).get key = (fields.find? (fun field => field.1 = key)).map Prod.snd := by
  show (List.find? _ (fields.foldr (fun field rest => insertField field.1 field.2 rest) [])).map _ = _
  congr 1
  induction fields with
  | nil => rfl
  | cons field rest ih =>
    rw [List.map_cons, List.nodup_cons] at distinct
    rw [List.foldr_cons]
    by_cases own : field.1 = key
    · subst own
      rw [find_insertField_self fun member => distinct.1 (keys_jsonbObject rest member)]
      simp
    · rw [find_insertField_of_ne (Ne.symm own), ih distinct.2, List.find?_cons_of_neg (by simpa using own)]

/-! ## Encoding and decoding -/

/-- A part of a capability once it was decoded: null is no value. -/
def decodedPart (part : Option Jsonb) : Option Jsonb := part.filter (· ≠ .null)

def decodedCapability (capability : SubscriptionCapability) : SubscriptionCapability :=
  ⟨decodedPart capability.smsSend, decodedPart capability.smsReceive, decodedPart capability.data,
    decodedPart capability.voice⟩

def decodedPolicy (policy : CardPolicy) : CardPolicy :=
  { policy with capability := policy.capability.map decodedCapability }

/-- A part as a push makes them: absent, null or a boolean. -/
def PlainPart (part : Option Jsonb) : Prop := ∀ value ∈ part, value = .null ∨ ∃ flag, value = .bool flag

def PlainCapability (capability : SubscriptionCapability) : Prop :=
  PlainPart capability.smsSend ∧ PlainPart capability.smsReceive ∧ PlainPart capability.data ∧
    PlainPart capability.voice

def PlainPolicy (policy : CardPolicy) : Prop := ∀ capability ∈ policy.capability, PlainCapability capability

variable {number : Rat → Option Rat}

theorem readPart {part : Option Jsonb} (plain : PlainPart part) :
    readField none (fun value => (anyOf number value).map some) part = some (decodedPart part) := by
  cases part with
  | none => rfl
  | some value =>
    rcases plain value rfl with rfl | ⟨flag, rfl⟩
    · rfl
    · rfl

theorem capabilityFields_distinct (capability : SubscriptionCapability) :
    ((capabilityFields capability).map Prod.fst).Nodup := by
  rcases capability with ⟨_ | _, _ | _, _ | _, _ | _⟩ <;> simp [capabilityFields]

theorem readCapability_fields {capability : SubscriptionCapability} (plain : PlainCapability capability) :
    readCapability number (some (jsonbObject (capabilityFields capability))) =
      some (some (decodedCapability capability)) := by
  have send : (jsonbObject (capabilityFields capability)).get "sms_send" = capability.smsSend := by
    rw [get_jsonbObject (capabilityFields_distinct capability)]
    rcases capability with ⟨_ | _, _ | _, _ | _, _ | _⟩ <;> simp [capabilityFields]
  have receive : (jsonbObject (capabilityFields capability)).get "sms_receive" =
      capability.smsReceive := by
    rw [get_jsonbObject (capabilityFields_distinct capability)]
    rcases capability with ⟨_ | _, _ | _, _ | _, _ | _⟩ <;> simp [capabilityFields]
  have data : (jsonbObject (capabilityFields capability)).get "data" = capability.data := by
    rw [get_jsonbObject (capabilityFields_distinct capability)]
    rcases capability with ⟨_ | _, _ | _, _ | _, _ | _⟩ <;> simp [capabilityFields]
  have voice : (jsonbObject (capabilityFields capability)).get "voice" = capability.voice := by
    rw [get_jsonbObject (capabilityFields_distinct capability)]
    rcases capability with ⟨_ | _, _ | _, _ | _, _ | _⟩ <;> simp [capabilityFields]
  obtain ⟨plainSend, plainReceive, plainData, plainVoice⟩ := plain
  show (do
    let smsSend ← readField none (fun value => (anyOf number value).map some)
      ((jsonbObject (capabilityFields capability)).get "sms_send")
    let smsReceive ← readField none (fun value => (anyOf number value).map some)
      ((jsonbObject (capabilityFields capability)).get "sms_receive")
    let data ← readField none (fun value => (anyOf number value).map some)
      ((jsonbObject (capabilityFields capability)).get "data")
    let voice ← readField none (fun value => (anyOf number value).map some)
      ((jsonbObject (capabilityFields capability)).get "voice")
    return some (⟨smsSend, smsReceive, data, voice⟩ : SubscriptionCapability)) = _
  rw [send, receive, data, voice, readPart plainSend, readPart plainReceive, readPart plainData,
    readPart plainVoice]
  rfl

theorem policyFields_distinct (policy : CardPolicy) : ((policyFields policy).map Prod.fst).Nodup := by
  rcases policy with ⟨_, _, _, _ | _, _ | _⟩ <;> simp [policyFields]

theorem readPolicy_fields {policy : CardPolicy} (plain : PlainPolicy policy) :
    readPolicy number (jsonbObject (policyFields policy)) = some (decodedPolicy policy) := by
  have iccid : (jsonbObject (policyFields policy)).get "iccid" = some (.str policy.iccid) := by
    rw [get_jsonbObject (policyFields_distinct policy)]
    simp [policyFields]
  have enabled : (jsonbObject (policyFields policy)).get "cellular_enabled" =
      some (.bool policy.cellularEnabled) := by
    rw [get_jsonbObject (policyFields_distinct policy)]
    simp [policyFields]
  have vertical : (jsonbObject (policyFields policy)).get "vertical" = some (.str policy.vertical) := by
    rw [get_jsonbObject (policyFields_distinct policy)]
    simp [policyFields]
  have apn : (jsonbObject (policyFields policy)).get "apn" = policy.apn.map .str := by
    rw [get_jsonbObject (policyFields_distinct policy)]
    rcases policy with ⟨_, _, _, _ | _, _ | _⟩ <;> simp [policyFields]
  have capability : (jsonbObject (policyFields policy)).get "capability" =
      policy.capability.map fun capability => jsonbObject (capabilityFields capability) := by
    rw [get_jsonbObject (policyFields_distinct policy)]
    rcases policy with ⟨_, _, _, _ | _, _ | _⟩ <;> simp [policyFields]
  have readApn : readField none (fun value => (readString (some value)).map some)
      (policy.apn.map Jsonb.str) = some policy.apn := by
    cases policy.apn <;> rfl
  have readParts : readCapability number (policy.capability.map fun capability =>
      jsonbObject (capabilityFields capability)) = some (policy.capability.map decodedCapability) := by
    cases held : policy.capability with
    | none => rfl
    | some capability => exact readCapability_fields (plain capability held)
  show (do
    let iccid ← readString ((jsonbObject (policyFields policy)).get "iccid")
    let cellularEnabled ← readBool ((jsonbObject (policyFields policy)).get "cellular_enabled")
    let vertical ← readString ((jsonbObject (policyFields policy)).get "vertical")
    let apn ← readField none (fun value => (readString (some value)).map some)
      ((jsonbObject (policyFields policy)).get "apn")
    let capability ← readCapability number ((jsonbObject (policyFields policy)).get "capability")
    return (⟨iccid, cellularEnabled, vertical, apn, capability⟩ : CardPolicy)) = _
  rw [iccid, enabled, vertical, apn, capability, readApn, readParts]
  rfl

theorem readField_object {α : Type} {zero : α} {read : Jsonb → Option α} {value : Jsonb}
    (object : value.isObject = true) : readField zero read (some value) = read value := by
  cases value with
  | null => cases object
  | _ => rfl

/-- A command of plain policies reads as what was encoded. -/
theorem readCommand_commandJsonb {command : UpdateCardPolicyCommand}
    (plain : ∀ policy ∈ command.policies, PlainPolicy policy) :
    readCommand number (commandJsonb command) =
      some { command with policies := command.policies.map decodedPolicy } := by
  have distinct : ([("kind", Jsonb.str command.kind), ("policy_version", .str command.policyVersion),
      ("policies", .arr (command.policies.map fun policy => jsonbObject (policyFields policy)))].map
      Prod.fst).Nodup := by simp
  have items : (command.policies.map fun policy => jsonbObject (policyFields policy)).mapM
      (readPolicy number) = some (command.policies.map decodedPolicy) := by
    generalize command.policies = policies at plain
    induction policies with
    | nil => rfl
    | cons policy rest ih =>
      rw [List.map_cons, List.mapM_cons, readPolicy_fields (plain policy List.mem_cons_self),
        ih fun other member => plain other (List.mem_cons_of_mem _ member)]
      rfl
  have object : (commandJsonb command).isObject = true := rfl
  rw [readCommand, readField_object object, if_pos object, commandJsonb, get_jsonbObject distinct,
    get_jsonbObject distinct, get_jsonbObject distinct]
  simp [readString, readField, items]

/-! ## What a payload carries -/

/-- A row as a reader of the command gets it. -/
def rendered (row : PolicyRow) : CardPolicy := decodedPolicy (contractPolicy row)

/-- The payload reads as the rows under the version. -/
def Carries (number : Rat → Option Rat) (payload : Jsonb) (version : String) (rows : List PolicyRow) :
    Prop :=
  readCommand number payload = some ⟨"UpdateCardPolicy", version, rows.map rendered⟩

theorem plain_contractPolicy (row : PolicyRow) : PlainPolicy (contractPolicy row) := by
  have pointers : ∀ value : Option Bool, PlainPart (some (pointer value)) := by
    intro value part held
    cases held
    cases value with
    | none => exact Or.inl rfl
    | some flag => exact Or.inr ⟨flag, rfl⟩
  intro capability held
  unfold contractPolicy at held
  dsimp only at held
  split at held
  · cases held
    exact ⟨pointers _, pointers _, pointers _, pointers _⟩
  · cases held

theorem plain_decodedPart {part : Option Jsonb} (plain : PlainPart part) : PlainPart (decodedPart part) :=
  fun value held => plain value (Option.filter_eq_some_iff.mp held).1

theorem plain_decodedPolicy {policy : CardPolicy} (plain : PlainPolicy policy) :
    PlainPolicy (decodedPolicy policy) := by
  intro capability held
  obtain ⟨inner, member, rfl⟩ := Option.map_eq_some_iff.mp held
  obtain ⟨send, receive, data, voice⟩ := plain inner member
  exact ⟨plain_decodedPart send, plain_decodedPart receive, plain_decodedPart data,
    plain_decodedPart voice⟩

theorem decodedPolicy_idem (policy : CardPolicy) :
    decodedPolicy (decodedPolicy policy) = decodedPolicy policy := by
  rcases policy with ⟨_, _, _, _, _ | capability⟩
  · rfl
  · simp [decodedPolicy, decodedCapability, decodedPart, Option.filter_filter]

/-- A push carries the rows it was made of. -/
theorem carries_push (version : String) (rows : List PolicyRow) :
    Carries number (commandJsonb (commandOfRows version rows)) version rows := by
  unfold Carries
  rw [readCommand_commandJsonb]
  · simp [commandOfRows, rendered]
  · intro policy member
    obtain ⟨row, _, rfl⟩ := List.mem_map.mp member
    exact plain_contractPolicy row

/-- A redelivery carries what the payload it repeats carries. -/
theorem carries_repeat {stored payload : Jsonb} {version : String} {rows : List PolicyRow}
    (carried : Carries number stored version rows)
    (again : contractCardPolicyPayload number stored = some payload) :
    Carries number payload version rows := by
  unfold contractCardPolicyPayload at again
  rw [carried] at again
  dsimp only at again
  split at again
  · cases again
  · cases again
    unfold Carries
    rw [readCommand_commandJsonb]
    · simp [rendered, decodedPolicy_idem]
    · intro policy member
      obtain ⟨row, _, rfl⟩ := List.mem_map.mp member
      exact plain_decodedPolicy (plain_contractPolicy row)

end VodogeCloud.Guarantees.CardRenderings
