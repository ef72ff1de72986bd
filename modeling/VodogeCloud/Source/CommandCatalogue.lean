import Mathlib.Data.Char
import Mathlib.Data.List.Lex
import VodogeCloud.Source.ProxyConfig

/-!
# The command catalogue

`Request`, `catalogue`, `Kinds` and `BuildPayload`
(apps/gateway/internal/commands/catalogue.go): the commands the console can ask for, what
each of them checks and the document it builds. A document is a map, so the order in which
a builder writes its fields does not show.

`len` counts the bytes of a text. In the patterns `$` is the end of the text and `\s` is a
tab, a line feed, a form feed, a carriage return or a space.
-/

set_option autoImplicit false

namespace VodogeCloud.Source.CommandCatalogue

open VodogeCloud.Source.Postgres VodogeCloud.Source.CommandLifecycle
open VodogeCloud.Source.ServeDevice (trimSpace)
open VodogeCloud.Source.ProxyConfig (splitOn)

/-! ## The request -/

/-- One command before validation. A pointer of the source is an option. -/
structure Request where
  deviceId : String
  kind : String
  modemImei : String
  to_ : String
  body : String
  command : String
  timeoutMs : Int
  force : Bool
  code : String
  stage : String
  enabled : Option Bool
  mode : String
  plmn : String
  profileIccid : String
  nickname : Option String
  candidateKey : String
  note : String
  family : String
  logAfter : Option Nat
  logLimit : Option Int
  logContains : String
  cid : Option Int
  pdpType : String
  apn : String
  username : Option String
  password : Option String
  auth : String
  usbnetMode : String
  targetIccid : String
  sequenceNumber : Option Int
  smdpAddress : String
  activationCode : String
  confirmationCode : String
  version : String
  url : String
  sha256 : String
  signature : String
  deriving DecidableEq, Repr

/-- The struct tags: the JSON name of each field, and whether it is `sensitive`. -/
def requestTags : List (String × Bool) :=
  [("device_id", false), ("kind", false), ("modem_imei", false), ("to", false), ("body", false),
    ("command", false), ("timeout_ms", false), ("force", false), ("code", false), ("stage", false),
    ("enabled", false), ("mode", false), ("plmn", false), ("iccid", false), ("nickname", false),
    ("candidate_key", false), ("note", false), ("family", false), ("log_after", false), ("log_limit", false),
    ("log_contains", false), ("cid", false), ("pdp_type", false), ("apn", false), ("username", false),
    ("password", true), ("auth", false), ("usbnet_mode", false), ("target_iccid", false),
    ("sequence_number", false), ("smdp_address", false), ("activation_code", true), ("confirmation_code", true),
    ("version", false), ("url", false), ("sha256", false), ("signature", false)]

/-! ## Patterns -/

def digits (text : List Char) : Bool := text.all Char.isDigit

def imeiPattern (text : String) : Bool := text.length = 15 && digits text.toList

def iccidPattern (text : String) : Bool := 19 ≤ text.length && text.length ≤ 20 && digits text.toList

/-- `^\+?[0-9]` one to fifteen times. -/
def phonePattern (text : String) : Bool :=
  let number := match text.toList with
    | '+' :: rest => rest
    | other => other
  1 ≤ number.length && number.length ≤ 15 && digits number

/-- Three digits, a dash, and two or three digits. -/
def plmnPattern (text : String) : Bool :=
  match splitOn '-' text.toList with
  | [mcc, mnc] => mcc.length = 3 && digits mcc && 2 ≤ mnc.length && mnc.length ≤ 3 && digits mnc
  | _ => false

def lowerHex (c : Char) : Bool := c.isDigit || ('a' ≤ c && c ≤ 'f')

def sha256Pattern (text : String) : Bool := text.length = 64 && text.toList.all lowerHex

def alphanumeric (c : Char) : Bool := ('A' ≤ c && c ≤ 'Z') || ('a' ≤ c && c ≤ 'z') || ('0' ≤ c && c ≤ '9')

/-- Letters and digits, with dashes inside. -/
def hostLabel (label : List Char) : Bool :=
  label.all (fun c => alphanumeric c || c = '-') && label.head?.any alphanumeric && label.getLast?.any alphanumeric

def smdpAddressPattern (text : String) : Bool :=
  2 ≤ (splitOn '.' text.toList).length && (splitOn '.' text.toList).all hostLabel

/-- `[^$\s]`, between two counts; the text was split at the dollars. -/
def codePart (least most : Nat) (part : List Char) : Bool :=
  least ≤ part.length && part.length ≤ most && part.all fun c => !"\t\n\x0c\r ".toList.contains c

/-- `1$<SM-DP+ address>$<matching id>` and up to two more fields, the last of them 1. -/
def activationCodePattern (text : String) : Bool :=
  let code := match text.toList with
    | 'L' :: 'P' :: 'A' :: ':' :: rest => rest
    | other => other
  match splitOn '$' code with
  | [['1'], address, matching] => codePart 4 253 address && codePart 1 128 matching
  | [['1'], address, matching, third] =>
    codePart 4 253 address && codePart 1 128 matching && codePart 0 255 third
  | [['1'], address, matching, third, ['1']] =>
    codePart 4 253 address && codePart 1 128 matching && codePart 0 255 third
  | _ => false

/-- `strings.HasPrefix(strings.ToUpper(command), "AT")`; no other letter becomes an A or a T. -/
def startsWithAT (command : String) : Bool := (command.toList.take 2).map Char.toUpper = ['A', 'T']

/-- `strings.HasPrefix(url, "https://")`. -/
def startsWithHttps (url : String) : Bool := url.toList.take 8 = "https://".toList

/-! ## Checks -/

abbrev Fields := List (String × Jsonb)

/-- `return nil, ErrInvalid` unless the condition holds. -/
def require (condition : Bool) (reason : String) : Except String Unit :=
  if condition then .ok () else .error reason

theorem require_iff {condition : Bool} {reason : String} : require condition reason = .ok () ↔ condition = true := by
  unfold require
  cases condition <;> simp

/-- A value that has to be there. -/
def given {α : Type} (value : Option α) (reason : String) : Except String α :=
  match value with
  | some value => .ok value
  | none => .error reason

/-- A field that is left out, or checked and written. -/
def optional (absent condition : Bool) (reason : String) (field : String × Jsonb) : Except String Fields :=
  if absent then .ok []
  else if condition then .ok [field]
  else .error reason

def noteField (note : String) : Except String Fields :=
  optional (trimSpace note = "") ((trimSpace note).utf8ByteSize ≤ 256) "note must be 256 characters or fewer"
    ("note", .str (trimSpace note))

/-- `candidate_key` after the spaces are cut. -/
def candidateKey (raw : String) : Except String String := do
  require (trimSpace raw ≠ "") "candidate_key is required"
  require ((trimSpace raw).utf8ByteSize ≤ 128) "candidate_key must be 128 characters or fewer"
  return trimSpace raw

/-! ## The commands -/

structure Spec where
  kind : String
  contractKind : String
  needsModem : Bool
  mutating : Bool
  build : Request → Except String Fields

/-- A command that names a modem and nothing else. -/
def modemCommand (kind contractKind : String) (mutating : Bool) : Spec where
  kind := kind
  contractKind := contractKind
  needsModem := true
  mutating := mutating
  build request := .ok [("kind", .str contractKind), ("modem_imei", .str request.modemImei)]

/-- A command that acts on one profile of a card. -/
def profileCommand (kind contractKind : String) : Spec where
  kind := kind
  contractKind := contractKind
  needsModem := true
  mutating := true
  build request := do
    require (iccidPattern request.profileIccid) "iccid must be 19 or 20 digits"
    return [("kind", .str contractKind), ("modem_imei", .str request.modemImei),
      ("iccid", .str request.profileIccid)]

/-- A switch that has to be given explicitly. -/
def switchCommand (kind contractKind : String) : Spec where
  kind := kind
  contractKind := contractKind
  needsModem := true
  mutating := true
  build request := do
    let enabled ← given request.enabled "enabled must be given explicitly"
    return [("kind", .str contractKind), ("modem_imei", .str request.modemImei), ("enabled", .bool enabled)]

/-- A command about an endpoint that has no modem yet. -/
def candidateCommand (kind contractKind : String) : Spec where
  kind := kind
  contractKind := contractKind
  needsModem := false
  mutating := true
  build request := do
    let key ← candidateKey request.candidateKey
    return [("kind", .str contractKind), ("candidate_key", .str key)]

def sendSms : Spec where
  kind := "send_sms"
  contractKind := "SendSms"
  needsModem := true
  mutating := true
  build request := do
    require (phonePattern request.to_) "to must be a phone number, optionally with a leading +"
    require (request.body ≠ "") "body must not be empty"
    return [("kind", .str "SendSms"), ("to", .str request.to_), ("body", .str request.body),
      ("modem_imei", .str request.modemImei)]

def restartModem : Spec := modemCommand "restart_modem" "RestartModem" true

def runAtCommand : Spec where
  kind := "run_at_command"
  contractKind := "RunAtCommand"
  needsModem := true
  mutating := true
  build request := do
    let command := trimSpace request.command
    require (2 ≤ command.utf8ByteSize && startsWithAT command) "command must start with AT"
    let timeout ← optional (request.timeoutMs = 0) (100 ≤ request.timeoutMs && request.timeoutMs ≤ 300000)
      "timeout_ms must be between 100 and 300000" ("timeout_ms", .num request.timeoutMs)
    return [("kind", .str "RunAtCommand"), ("modem_imei", .str request.modemImei), ("command", .str command)] ++
      (if request.force then [("force", .bool true)] else []) ++ timeout

/-- The stage of a USSD session; none is the start. -/
def ussdStage (stage : String) : String := if stage = "" then "start" else stage

def sendUssd : Spec where
  kind := "send_ussd"
  contractKind := "SendUssd"
  needsModem := true
  mutating := true
  build request := do
    let stage := ussdStage request.stage
    require (["start", "continue", "cancel"].contains stage) "stage must be start, continue or cancel"
    require (stage = "cancel" || trimSpace request.code ≠ "") "code is required unless stage is cancel"
    return [("kind", .str "SendUssd"), ("modem_imei", .str request.modemImei), ("code", .str request.code),
      ("stage", .str stage)]

def setRadio : Spec := switchCommand "set_radio" "SetRadio"

def configureApn : Spec where
  kind := "configure_apn"
  contractKind := "ConfigureApn"
  needsModem := true
  mutating := true
  build request := do
    let cid ← given request.cid "cid is required"
    require (1 ≤ cid && cid ≤ 15) "cid must be between 1 and 15"
    let pdpType ← optional (request.pdpType = "") (["IP", "IPV6", "IPV4V6"].contains request.pdpType)
      "pdp_type must be IP, IPV6 or IPV4V6" ("pdp_type", .str request.pdpType)
    let auth ← optional (request.auth = "") (["none", "pap", "chap", "pap_or_chap"].contains request.auth)
      "auth must be none, pap, chap or pap_or_chap" ("auth", .str request.auth)
    return [("kind", .str "ConfigureApn"), ("modem_imei", .str request.modemImei), ("cid", .num cid),
        ("apn", .str request.apn)] ++ pdpType ++ auth ++
      (request.username.map fun username => ("username", Jsonb.str username)).toList ++
      (request.password.map fun password => ("password", Jsonb.str password)).toList

def scanOperators : Spec := modemCommand "scan_operators" "ScanOperators" true

def operatorMode (mode : String) : String := if mode = "" then "automatic" else mode

def selectOperator : Spec where
  kind := "select_operator"
  contractKind := "SelectOperator"
  needsModem := true
  mutating := true
  build request := do
    let mode := operatorMode request.mode
    require (["automatic", "manual"].contains mode) "mode must be automatic or manual"
    let plmn ← optional (mode ≠ "manual") (plmnPattern request.plmn) "manual selection needs a plmn like 460-01"
      ("plmn", .str request.plmn)
    return [("kind", .str "SelectOperator"), ("modem_imei", .str request.modemImei), ("mode", .str mode)] ++ plmn

def modemReport : Spec := modemCommand "modem_report" "ModemReport" false

def resetModemUsb : Spec := modemCommand "reset_modem_usb" "ResetModemUsb" true

def setDataNetwork : Spec := switchCommand "set_data_network" "SetDataNetwork"

def usbnetModes : List String := ["rmnet", "ecm", "mbim", "rndis"]

def setUsbnetMode : Spec where
  kind := "set_usbnet_mode"
  contractKind := "SetUsbnetMode"
  needsModem := true
  mutating := true
  build request := do
    require (usbnetModes.contains request.usbnetMode) "usbnet_mode must be one of rmnet, ecm, mbim, rndis"
    return [("kind", .str "SetUsbnetMode"), ("modem_imei", .str request.modemImei), ("mode", .str request.usbnetMode)]

def reregisterNetwork : Spec := modemCommand "reregister_network" "ReregisterNetwork" true

def refreshModems : Spec where
  kind := "refresh_modems"
  contractKind := "RefreshModems"
  needsModem := false
  mutating := false
  build _ := .ok [("kind", .str "RefreshModems")]

def renameEsimProfile : Spec where
  kind := "rename_esim_profile"
  contractKind := "RenameEsimProfile"
  needsModem := true
  mutating := true
  build request := do
    require (iccidPattern request.profileIccid) "iccid must be 19 or 20 digits"
    let nickname ← given request.nickname "nickname is required; send an empty string to clear it"
    require (nickname.utf8ByteSize ≤ 64) "nickname must be 64 bytes or fewer"
    return [("kind", .str "RenameEsimProfile"), ("modem_imei", .str request.modemImei),
      ("iccid", .str request.profileIccid), ("nickname", .str nickname)]

def disableEsimProfile : Spec := profileCommand "disable_esim_profile" "DisableEsimProfile"

def deleteEsimProfile : Spec := profileCommand "delete_esim_profile" "DeleteEsimProfile"

def claimModemCandidate : Spec := candidateCommand "claim_modem_candidate" "ClaimModemCandidate"

def revokeModemCandidate : Spec := candidateCommand "revoke_modem_candidate" "RevokeModemCandidate"

def registerModem : Spec where
  kind := "register_modem"
  contractKind := "RegisterModem"
  needsModem := true
  mutating := true
  build request := do
    let note ← noteField request.note
    return [("kind", .str "RegisterModem"), ("modem_imei", .str request.modemImei)] ++ note

def unregisterModem : Spec := modemCommand "unregister_modem" "UnregisterModem" true

def createModem : Spec where
  kind := "create_modem"
  contractKind := "CreateModem"
  needsModem := false
  mutating := true
  build request := do
    let imei := trimSpace request.modemImei
    let family := trimSpace request.family
    require (imeiPattern imei) "modem_imei must be 15 digits"
    require (family ≠ "") ("family is required: the gates look up rules by (family, carrier) " ++
      "and nothing can infer it for a module nobody has observed")
    require (family.utf8ByteSize ≤ 64) "family must be 64 characters or fewer"
    let note ← noteField request.note
    return [("kind", .str "CreateModem"), ("modem_imei", .str imei), ("family", .str family)] ++ note

/-- The length of the note is checked before it is left out. -/
def updateModem : Spec where
  kind := "update_modem"
  contractKind := "UpdateModem"
  needsModem := true
  mutating := true
  build request := do
    let note := trimSpace request.note
    require (note.utf8ByteSize ≤ 256) "note must be 256 characters or fewer"
    return [("kind", .str "UpdateModem"), ("modem_imei", .str request.modemImei)] ++
      (if note ≠ "" then [("note", .str note)] else [])

def reconfirmModem : Spec := modemCommand "reconfirm_modem" "ReconfirmModem" true

def readLogs : Spec where
  kind := "read_logs"
  contractKind := "ReadLogs"
  needsModem := false
  mutating := false
  build request := do
    let limit ← optional request.logLimit.isNone (request.logLimit.all fun limit => 1 ≤ limit && limit ≤ 500)
      "log_limit must be between 1 and 500" ("limit", .num (request.logLimit.getD 0))
    let contains ← optional (request.logContains = "") (request.logContains.utf8ByteSize ≤ 64)
      "log_contains must be 64 characters or fewer" ("contains", .str request.logContains)
    return [("kind", .str "ReadLogs")] ++
      (request.logAfter.map fun after : Nat => ("after", Jsonb.num (after : Rat))).toList ++ limit ++ contains

def listEsimProfiles : Spec := modemCommand "list_esim_profiles" "ListEsimProfiles" false

def readEsimInfo : Spec := modemCommand "read_esim_info" "ReadEsimInfo" false

def retrieveEsimNotification : Spec where
  kind := "retrieve_esim_notification"
  contractKind := "RetrieveEsimNotification"
  needsModem := true
  mutating := false
  build request := do
    let number ← given request.sequenceNumber "sequence_number is required"
    require (0 ≤ number && number ≤ 2147483647) "sequence_number must be between 0 and 2147483647"
    return [("kind", .str "RetrieveEsimNotification"), ("modem_imei", .str request.modemImei),
      ("sequence_number", .num number)]

def initiateEsimAuthentication : Spec where
  kind := "initiate_esim_authentication"
  contractKind := "InitiateEsimAuthentication"
  needsModem := true
  mutating := false
  build request := do
    let address ← optional (trimSpace request.smdpAddress = "") (smdpAddressPattern (trimSpace request.smdpAddress))
      "smdp_address must be a host name" ("smdp_address", .str (trimSpace request.smdpAddress))
    return [("kind", .str "InitiateEsimAuthentication"), ("modem_imei", .str request.modemImei)] ++ address

def downloadEsimProfile : Spec where
  kind := "download_esim_profile"
  contractKind := "DownloadEsimProfile"
  needsModem := true
  mutating := true
  build request := do
    let code := trimSpace request.activationCode
    require (code ≠ "") "activation_code is required"
    require (activationCodePattern code) "activation_code must look like 1$<SM-DP+ address>$<matching id>"
    let confirmation ← optional (trimSpace request.confirmationCode = "")
      ((trimSpace request.confirmationCode).utf8ByteSize ≤ 128) "confirmation_code is too long"
      ("confirmation_code", .str (trimSpace request.confirmationCode))
    return [("kind", .str "DownloadEsimProfile"), ("modem_imei", .str request.modemImei),
      ("activation_code", .str code)] ++ confirmation

def selfUpdate : Spec where
  kind := "self_update"
  contractKind := "SelfUpdate"
  needsModem := false
  mutating := true
  build request := do
    require (trimSpace request.version ≠ "") "version is required"
    require (startsWithHttps request.url) "url must be https"
    require (sha256Pattern request.sha256) "sha256 must be 64 hex characters"
    require (16 ≤ request.signature.utf8ByteSize) "signature is required"
    return [("kind", .str "SelfUpdate"), ("version", .str request.version), ("url", .str request.url),
      ("sha256", .str request.sha256), ("signature", .str request.signature)]

def rotateIp : Spec := modemCommand "rotate_ip" "RotateIp" true

def switchEsimProfile : Spec where
  kind := "switch_esim_profile"
  contractKind := "SwitchEsimProfile"
  needsModem := true
  mutating := true
  build request := do
    require (iccidPattern request.targetIccid) "target_iccid must be 19 or 20 digits"
    return [("kind", .str "SwitchEsimProfile"), ("modem_imei", .str request.modemImei),
      ("target_iccid", .str request.targetIccid)]

def catalogue : List Spec :=
  [sendSms, restartModem, runAtCommand, sendUssd, setRadio, configureApn, scanOperators, selectOperator, modemReport,
    resetModemUsb, setDataNetwork, setUsbnetMode, reregisterNetwork, refreshModems, renameEsimProfile,
    disableEsimProfile, deleteEsimProfile, claimModemCandidate, revokeModemCandidate, registerModem, unregisterModem,
    createModem, updateModem, reconfirmModem, readLogs, listEsimProfiles, readEsimInfo, retrieveEsimNotification,
    initiateEsimAuthentication, downloadEsimProfile, selfUpdate, rotateIp, switchEsimProfile]

/-! ## Building a payload -/

/-- `Kinds`. -/
def kinds : List String := (catalogue.map Spec.kind).insertionSort fun a b => a.toList ≤ b.toList

/-- A request without a kind sends a message. -/
def requestKind (request : Request) : String := if request.kind = "" then "send_sms" else request.kind

def lookup (kind : String) : Option Spec := catalogue.find? fun spec => spec.kind = kind

theorem lookup_ok {kind : String} {spec : Spec} (found : lookup kind = some spec) :
    spec ∈ catalogue ∧ spec.kind = kind := by
  have named := List.find?_some found
  exact ⟨List.mem_of_find?_eq_some found, of_decide_eq_true named⟩

/-- `BuildPayload`; `quote` is the `%q` of the message. -/
def buildPayload (quote : String → String) (request : Request) : Except String (Spec × Jsonb) :=
  match lookup (requestKind request) with
  | none => .error ("unsupported command kind " ++ quote (requestKind request) ++ ", expected one of " ++
      String.intercalate ", " kinds)
  | some spec => do
    require (request.deviceId ≠ "") "device_id is required"
    require (!spec.needsModem || imeiPattern request.modemImei) "modem_imei must be 15 digits"
    let fields ← spec.build request
    return (spec, jsonbObject fields)

end VodogeCloud.Source.CommandCatalogue
