import VodogeCloud.Source.CommandCatalogue

/-!
# The commands of the contract

`Command` of packages/contract/schema/edge-cloud.v1.schema.json (2284-2401): one of 38
definitions, told apart by the constant in `kind`. Every definition closes its properties.
Two have a combinator beside them: the `anyOf` of SendSms (2430-2441) and the `allOf` of
SelectOperator (2582-2600). A length counts code points. `format` and `contentEncoding` are
annotations and check nothing. The parts of a definition that describe nested values are the
argument `nested`, by the name of their definition: none of the commands the catalogue
builds has such a part.
-/

set_option autoImplicit false

namespace VodogeCloud.Source.CommandContract

open VodogeCloud.Source.Postgres
open VodogeCloud.Source.CommandCatalogue (digits iccidPattern phonePattern plmnPattern sha256Pattern smdpAddressPattern
  startsWithHttps)

/-! ## Values -/

def text (check : String → Bool) : Jsonb → Bool
  | .str value => check value
  | _ => false

def textBetween (least most : Nat) : Jsonb → Bool :=
  text fun value => least ≤ value.length && value.length ≤ most

def integerBetween (least : Int) (most : Option Int) : Jsonb → Bool
  | .num value => value.den = 1 && least ≤ value.num && most.all (value.num ≤ ·)
  | _ => false

def isBool : Jsonb → Bool
  | .bool _ => true
  | _ => false

def oneOf (labels : List String) : Jsonb → Bool := text labels.contains

/-- `["string", "null"]`. -/
def textOrNull (most : Nat) : Jsonb → Bool
  | .null => true
  | value => textBetween 0 most value

def imei : Jsonb → Bool :=
  text fun value => 14 ≤ value.length && value.length ≤ 16 && digits value.toList

def iccid : Jsonb → Bool := text iccidPattern

def plmn : Jsonb → Bool := text plmnPattern

def sha256 : Jsonb → Bool := text sha256Pattern

def smdpAddress : Jsonb → Bool :=
  text fun value => 4 ≤ value.length && value.length ≤ 253 && smdpAddressPattern value

def activationCode : Jsonb → Bool := textBetween 8 1024

def confirmationCode : Jsonb → Bool := textBetween 1 128

def httpsUrl : Jsonb → Bool :=
  text fun value => value.length ≤ 2048 && startsWithHttps value

/-! ## Definitions -/

/-- One definition of a command: its constant, its properties besides `kind`, and its
combinators. -/
structure Definition where
  kind : String
  required : List String
  properties : List (String × (Jsonb → Bool))
  /-- What each branch of `anyOf` requires; without branches there is no `anyOf`. -/
  anyOf : List (List String)
  /-- The branches of `allOf`: if the property is the constant, then these are required. -/
  allOf : List ((String × String) × List String)

/-- A definition without combinators. -/
def plain (kind : String) (required : List String) (properties : List (String × (Jsonb → Bool))) : Definition :=
  ⟨kind, required, properties, [], []⟩

/-- The combinators, given the value of each property. -/
def Definition.combines (definition : Definition) (get : String → Option Jsonb) : Bool :=
  let given := fun names : List String => names.all fun name => (get name).isSome
  (definition.anyOf.isEmpty || definition.anyOf.any given) &&
    definition.allOf.all fun branch => get branch.1.1 ≠ some (.str branch.1.2) || given branch.2

/-- The constant, the required properties, no other property, each as described, and the
combinators. -/
def Definition.admits (definition : Definition) (value : Jsonb) : Bool :=
  match value with
  | .obj fields =>
    value.get "kind" = some (.str definition.kind) &&
      definition.required.all (fun name => (value.get name).isSome) &&
      fields.all (fun field => field.1 = "kind" || definition.properties.any fun property => property.1 = field.1) &&
      definition.properties.all (fun property => (value.get property.1).all property.2) &&
      definition.combines value.get
  | _ => false

def onModem (kind : String) : Definition :=
  plain kind ["modem_imei"] [("modem_imei", imei)]

def onProfile (kind : String) : Definition :=
  plain kind ["modem_imei", "iccid"] [("modem_imei", imei), ("iccid", iccid)]

def onSwitch (kind : String) : Definition :=
  plain kind ["modem_imei", "enabled"] [("modem_imei", imei), ("enabled", isBool)]

def onCandidate (kind : String) : Definition :=
  plain kind ["candidate_key"] [("candidate_key", textBetween 0 128)]

/-- The `oneOf` of `Command`. -/
def definitions (nested : String → Jsonb → Bool) : List Definition :=
  [⟨"SendSms", ["to", "body"], [("to", text phonePattern), ("body", textBetween 1 16384), ("modem_imei", imei),
      ("iccid", iccid)], [["modem_imei"], ["iccid"]], []⟩,
    onModem "RestartModem",
    plain "SwitchEsimProfile" ["modem_imei", "target_iccid"] [("modem_imei", imei), ("target_iccid", iccid)],
    onModem "ListEsimProfiles",
    onModem "ReadEsimInfo",
    plain "RetrieveEsimNotification" ["modem_imei", "sequence_number"]
      [("modem_imei", imei), ("sequence_number", integerBetween 0 (some 2147483647))],
    plain "InitiateEsimAuthentication" ["modem_imei"] [("modem_imei", imei), ("smdp_address", smdpAddress)],
    plain "DownloadEsimProfile" ["modem_imei", "activation_code"]
      [("modem_imei", imei), ("activation_code", activationCode), ("confirmation_code", confirmationCode)],
    plain "RunAtCommand" ["modem_imei", "command"]
      [("modem_imei", imei), ("command", textBetween 2 1024), ("timeout_ms", integerBetween 100 (some 300000)),
        ("force", isBool)],
    plain "SendUssd" ["modem_imei", "code"]
      [("modem_imei", imei), ("code", textBetween 1 182), ("stage", oneOf ["start", "continue", "cancel"])],
    onSwitch "SetRadio",
    onModem "ScanOperators",
    ⟨"SelectOperator", ["modem_imei", "mode"],
      [("modem_imei", imei), ("mode", oneOf ["automatic", "manual"]), ("plmn", plmn)], [],
      [(("mode", "manual"), ["plmn"])]⟩,
    onModem "ModemReport",
    onModem "ResetModemUsb",
    onSwitch "SetDataNetwork",
    plain "ConfigureApn" ["modem_imei", "cid", "apn"]
      [("modem_imei", imei), ("cid", integerBetween 1 (some 15)), ("pdp_type", oneOf ["IP", "IPV6", "IPV4V6"]),
        ("apn", textBetween 0 128), ("username", textBetween 0 64), ("password", textBetween 0 64),
        ("auth", oneOf ["none", "pap", "chap", "pap_or_chap"])],
    plain "SetUsbnetMode" ["modem_imei", "mode"]
      [("modem_imei", imei), ("mode", oneOf ["rmnet", "ecm", "mbim", "rndis"])],
    onModem "ReregisterNetwork",
    plain "RefreshModems" [] [],
    plain "ReadLogs" []
      [("after", integerBetween 0 none), ("limit", integerBetween 1 (some 500)), ("contains", textBetween 0 64)],
    onCandidate "ClaimModemCandidate",
    onCandidate "RevokeModemCandidate",
    plain "RegisterModem" ["modem_imei"] [("modem_imei", imei), ("note", textBetween 0 256)],
    plain "CreateModem" ["modem_imei", "family"]
      [("modem_imei", imei), ("family", textBetween 0 64), ("note", textOrNull 256)],
    onModem "UnregisterModem",
    onModem "ReconfirmModem",
    plain "UpdateModem" ["modem_imei"] [("modem_imei", imei), ("note", textOrNull 256)],
    plain "RenameEsimProfile" ["modem_imei", "iccid"]
      [("modem_imei", imei), ("iccid", iccid), ("nickname", textBetween 0 64)],
    onProfile "DisableEsimProfile",
    onProfile "DeleteEsimProfile",
    plain "ConfigureProxy" ["instances", "upstreams"]
      [("instances", nested "ConfigureProxyCommand.instances"), ("upstreams", nested "ConfigureProxyCommand.upstreams")],
    plain "ProxyLifecycle" ["instance_id", "action"]
      [("instance_id", nested "Uuid"), ("action", oneOf ["start", "stop", "restart"])],
    plain "ProbeUpstreamProxy" ["upstream_id"] [("upstream_id", nested "Uuid")],
    onModem "RotateIp",
    plain "UpdateCardPolicy" ["policy_version", "policies"]
      [("policy_version", textBetween 1 128), ("policies", nested "UpdateCardPolicyCommand.policies")],
    plain "UpdateCapabilityMatrix" ["matrix_version", "matrix_sha256", "matrix"]
      [("matrix_version", textBetween 1 128), ("matrix_sha256", sha256),
        ("matrix", nested "UpdateCapabilityMatrixCommand.matrix")],
    plain "SelfUpdate" ["version", "url", "sha256", "signature"]
      [("version", textBetween 1 128), ("url", httpsUrl), ("sha256", sha256), ("signature", textBetween 16 1024)]]

/-- `oneOf`: exactly one definition admits the document. -/
def validates (nested : String → Jsonb → Bool) (value : Jsonb) : Bool :=
  (definitions nested).countP (·.admits value) = 1

end VodogeCloud.Source.CommandContract
