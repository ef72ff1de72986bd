import VodogeCloud.Lib.NestedMaps
import VodogeCloud.Source.CommandRedaction
import VodogeCloud.Source.NetUrl
import VodogeCloud.Source.TelegramBot

/-!
# Settings documents

apps/gateway/internal/settings/settings.go: `Validate` with the checks of the four
sections (95-226, 350-416), `TelegramOperators` (258-348), and `Redact` and `Merge` with
the helpers that walk dotted paths (419-503).

A document is a decoded JSON object: a list of entries stands for a map, and the order of
the list says nothing. `Redact` is modelled twice. On documents it is a function. On a heap
it is what the source says: the document is encoded, decoded into new maps and slices, and
these are written to.
-/

set_option autoImplicit false

namespace VodogeCloud.Source.Settings

open VodogeCloud.Lib.NestedMaps
open VodogeCloud.Source.Postgres
open VodogeCloud.Source.CardDelivery (anyFields)
open VodogeCloud.Source.CommandRedaction
open VodogeCloud.Source.NetUrl (checkHTTPURL)
open VodogeCloud.Source.ProxyConfig (splitOn)
open VodogeCloud.Source.TelegramBot (cut)
open VodogeCloud.Source.TenantHost (Casing trimSpace)

/-- `map[string]any`, decoded from JSON. -/
abbrev Document := List (String × Jsonb)

/-- `value.(map[string]any)`. -/
def asMap : Jsonb → Option Document
  | .obj fields => some fields
  | _ => none

/-- Documents as maps inside maps. -/
def json : Nest String Jsonb where
  fields := asMap
  map := .obj
  fields_map _ := rfl
  map_fields := by
    intro value entries held
    cases value with
    | obj fields =>
      cases held
      rfl
    | _ => cases held

/-- `asString`; an absent value is the nil interface. -/
def asString : Option Jsonb → String
  | some (.str text) => text
  | _ => ""

/-- `value.(bool)`. -/
def asBool : Option Jsonb → Bool
  | some (.bool value) => value
  | _ => false

/-- `asInt` of a float64: a whole number that fits an int. -/
def asInt : Option Jsonb → Option Int
  | some (.num value) => if value.den = 1 ∧ -2 ^ 63 ≤ value.num ∧ value.num < 2 ^ 63 then some value.num else none
  | _ => none

/-- `stringList`. -/
def stringList : Option Jsonb → List String
  | some (.arr items) => (items.map fun item => asString (some item)).filter (· ≠ "")
  | _ => []

/-! ## Sections -/

def sectionNotifications : String := "notifications"
def sectionSMS : String := "sms"
def sectionSecurity : String := "security"
def sectionDevices : String := "devices"

/-- `Sections`. -/
def sections : List String := [sectionNotifications, sectionSMS, sectionSecurity, sectionDevices]

def notificationChannels : List String := ["webhook", "email", "bark", "telegram", "feishu", "wecom", "pushplus"]

/-- `secretFields`. -/
def secretFields (section_ : String) : Option (List String) :=
  if section_ = sectionNotifications then
    some ["webhook.secret", "email.password", "bark.token", "telegram.bot_token", "feishu.secret", "pushplus.token"]
  else none

/-! ## The bot of a channel -/

/-- `TelegramOperator`. -/
structure TelegramOperator where
  chatID : List Char
  email : List Char
  deriving DecidableEq, Repr

/-- `^-?[0-9]{1,20}$`. -/
def telegramChatPattern (text : List Char) : Bool :=
  let digits := if text.head? = some '-' then text.drop 1 else text
  digits.all Char.isDigit && 1 ≤ digits.length && digits.length ≤ 20

/-- `[^\s@]`. -/
def addressLetter (c : Char) : Bool := ['\t', '\n', '\x0c', '\r', ' ', '@'].contains c = false

/-- `^[^\s@]+@[^\s@]+$`. -/
def telegramEmailPattern (text : List Char) : Bool :=
  let (local_, domain, found) := cut '@' text
  found && local_ ≠ [] && local_.all addressLetter && domain ≠ [] && domain.all addressLetter

def telegramBotBlock (notifications : Document) : Option Document :=
  ((get "telegram" notifications).bind asMap).bind fun channel => (get "bot" channel).bind asMap

/-- What a section's checks take from outside: `unicode.ToLower`, and the `%q` of messages. -/
structure Texts where
  casing : Casing
  quote : String → String

variable (texts : Texts)

/-- The account by chat so far, and the operators in order. -/
structure Listed where
  seen : List (List Char × List Char)
  out : List TelegramOperator
  deriving DecidableEq, Repr

def operatorUnreadable (line : List Char) : String :=
  "telegram bot operator " ++ texts.quote (String.ofList line) ++ " must read \"<telegram id>=<account email>\""

def operatorClash (chatID : List Char) : String :=
  "telegram bot operator " ++ String.ofList chatID ++ " is mapped to two accounts"

/-- One turn of the loop of `TelegramOperators`. -/
def addOperator (listed : Listed) (item : Jsonb) : Except String Listed :=
  let line := trimSpace (asString (some item)).toList
  if line = [] then .ok listed
  else
    let (chatID, email, found) := cut '=' line
    let chatID := trimSpace chatID
    let email := texts.casing.lower (trimSpace email)
    if found = false ∨ telegramChatPattern chatID = false ∨ telegramEmailPattern email = false then
      .error (operatorUnreadable texts line)
    else
      match get chatID listed.seen with
      | some previous => if previous ≠ email then .error (operatorClash chatID) else .ok listed
      | none => .ok ⟨put chatID email listed.seen, listed.out ++ [⟨chatID, email⟩]⟩

def operatorsNoList : String :=
  "telegram bot operators must be a list of \"<telegram id>=<account email>\" lines"

/-- `TelegramOperators`. -/
def telegramOperators (notifications : Document) : Except String (List TelegramOperator) :=
  match telegramBotBlock notifications with
  | none => .ok []
  | some bot =>
    match get "operators" bot with
    | none => .ok []
    | some .null => .ok []
    | some (.arr items) => (items.foldlM (addOperator texts) ⟨[], []⟩).map Listed.out
    | some _ => .error operatorsNoList

/-- `TelegramBotEnabled`. -/
def telegramBotEnabled (notifications : Document) : Bool :=
  match telegramBotBlock notifications with
  | none => false
  | some bot => asBool (get "enabled" bot)

/-- `TelegramBotToken`. -/
def telegramBotToken (notifications : Document) : String :=
  match (get "telegram" notifications).bind asMap with
  | none => ""
  | some channel => asString (get "bot_token" channel)

/-- `TelegramAPIBase`. -/
def telegramAPIBase (notifications : Document) : String :=
  match (get "telegram" notifications).bind asMap with
  | none => ""
  | some channel => asString (get "api_base" channel)

/-- `validateTelegramBot`. -/
def validateTelegramBot (document : Document) : Except String Unit :=
  match (get "telegram" document).bind asMap with
  | none => .ok ()
  | some channel =>
    match telegramBotBlock document with
    | none => if (get "bot" channel).getD .null ≠ .null then .error "telegram bot must be an object" else .ok ()
    | some bot => do
      let operators ← telegramOperators texts document
      if asBool (get "enabled" bot) = false then return ()
      if operators = [] then throw "telegram bot is enabled but has no operators"
      if telegramBotToken document = "" then throw "telegram bot is enabled but has no bot_token"

/-! ## The checks -/

/-- The checks that the two channels with one webhook share. -/
def validateWebhookURL (channel : String) (config : Document) : Except String Unit :=
  let raw := asString (get "webhook_url" config)
  if raw = "" then .error (channel ++ " is enabled but has no webhook_url")
  else checkHTTPURL texts.quote channel "webhook_url" raw

/-- `validateEnabledChannel`. -/
def validateEnabledChannel (channel : String) (config : Document) : Except String Unit :=
  if channel = "webhook" then do
    let urls := stringList (get "urls" config)
    if urls = [] then throw "webhook is enabled but has no urls"
    urls.forM (checkHTTPURL texts.quote "webhook" "url")
  else if channel = "email" then do
    if asString (get "smtp_host" config) = "" then throw "email is enabled but has no smtp_host"
    if stringList (get "to_addresses" config) = [] then throw "email is enabled but has no recipients"
    match asInt (get "smtp_port" config) with
    | none => throw "smtp_port must be between 1 and 65535"
    | some port => if port ≤ 0 ∨ 65535 < port then throw "smtp_port must be between 1 and 65535"
  else if channel = "bark" then
    if stringList (get "urls" config) = [] then .error "bark is enabled but has no urls" else .ok ()
  else if channel = "telegram" then
    if asString (get "chat_id" config) = "" then .error "telegram is enabled but has no chat_id"
    else if asString (get "bot_token" config) = "" then .error "telegram is enabled but has no bot_token"
    else .ok ()
  else if channel = "feishu" then validateWebhookURL texts "feishu" config
  else if channel = "wecom" then validateWebhookURL texts "wecom" config
  else if channel = "pushplus" then
    if asString (get "token" config) = "" then .error "pushplus is enabled but has no token" else .ok ()
  else .ok ()

/-- One turn of the loop of `validateNotifications`. -/
def validateChannel (document : Document) (channel : String) : Except String Unit :=
  match get channel document with
  | none => .ok ()
  | some raw =>
    match asMap raw with
    | none => .error (channel ++ " must be an object")
    | some config =>
      -- what is switched off is a draft
      if asBool (get "enabled" config) = false then .ok () else validateEnabledChannel texts channel config

/-- `validateNotifications`. -/
def validateNotifications (document : Document) : Except String Document := do
  validateTelegramBot texts document
  notificationChannels.forM (validateChannel texts document)
  return document

/-- `validateSMS`. -/
def validateSMS (document : Document) : Except String Document :=
  match get "hourly_limit" document with
  | none => .ok document
  | some raw =>
    match asInt (some raw) with
    | none => .error "hourly_limit must be zero or more, where zero means no limit"
    | some limit =>
      if limit < 0 then .error "hourly_limit must be zero or more, where zero means no limit"
      else .ok (put "hourly_limit" (.num limit) document)

/-- `validateSecurity`. -/
def validateSecurity (document : Document) : Except String Document :=
  match get "session_ttl_hours" document with
  | none => .ok document
  | some raw =>
    match asInt (some raw) with
    | none => .error "session_ttl_hours must be between 1 and 720"
    | some hours =>
      if hours < 1 ∨ 720 < hours then .error "session_ttl_hours must be between 1 and 720"
      else .ok (put "session_ttl_hours" (.num hours) document)

/-- `validateDevices`. -/
def validateDevices (document : Document) : Except String Document :=
  match get "device_quota" document with
  | none => .ok (erase "device_quota" document)
  | some .null => .ok (erase "device_quota" document)
  | some (.num value) =>
    if value.den ≠ 1 then .error "device_quota must be a whole number"
    else if value < 1 then .error "device_quota must be at least 1; remove it for unlimited"
    else if 100000 < value then .error "device_quota must be 100000 or fewer"
    else .ok (put "device_quota" (.num value) document)
  | some _ => .error "device_quota must be a number, or absent for unlimited"

/-- `Validate`. -/
def validate (section_ : String) (document : Document) : Except String Document :=
  if section_ = sectionNotifications then validateNotifications texts document
  else if section_ = sectionSMS then validateSMS document
  else if section_ = sectionSecurity then validateSecurity document
  else if section_ = sectionDevices then validateDevices document
  else .error ("unknown section " ++ texts.quote section_ ++ ", expected one of " ++ String.intercalate ", " sections)

/-! ## Secrets out of sight -/

/-- `strings.Split(path, ".")`. -/
def keysOf (path : String) : List String := (splitOn '.' path.toList).map String.ofList

def lookup (document : Document) (path : String) : Option Jsonb := json.lookup (keysOf path) document

def set (document : Document) (path : String) (value : Jsonb) : Document := json.set (keysOf path) value document

def unset (document : Document) (path : String) : Document := json.unset (keysOf path) document

/-- `deepCopy`; `number` is the way of a number through a float64. -/
def deepCopy (number : Rat → Option Rat) (document : Document) : Document :=
  (anyFields number document).getD document

/-- One turn of the loop of `Redact`. -/
def redactPath (clone : Document) (path : String) : Document :=
  match lookup clone path with
  | some value => if asString (some value) ≠ "" then set clone path (.str redacted) else clone
  | none => clone

/-- `Redact`. -/
def redact (number : Rat → Option Rat) (section_ : String) (document : Document) : Document :=
  match secretFields section_ with
  | none => document
  | some paths => paths.foldl redactPath (deepCopy number document)

/-- One turn of the loop of `Merge`. -/
def mergePath (stored incoming : Document) (path : String) : Document :=
  match lookup incoming path with
  | none => incoming
  | some value =>
    if asString (some value) ≠ redacted then incoming
    else
      match lookup stored path with
      | some previous => set incoming path previous
      -- nothing was stored, so the placeholder means nothing
      | none => unset incoming path

/-- `Merge`. -/
def merge (section_ : String) (incoming stored : Document) : Document :=
  match secretFields section_ with
  | none => incoming
  | some paths => paths.foldl (mergePath stored) incoming

/-- A float64 between the decoder and the encoder: what came out of one is written so that
it is read as the same. -/
structure Floats where
  number : Rat → Option Rat
  stable : ∀ {read value : Rat}, number read = some value → number value = some value

/-! ## Redacting on the heap -/

/-- `json.Marshal`; the fuel bounds the depth of the value. -/
def encode : Nat → Heap → GoValue → Option Jsonb
  | 0, _, _ => none
  | _ + 1, _, .plain value => some value
  | fuel + 1, heap, .map ref =>
    match heap[ref]? with
    | some (.map fields) => (fields.mapM fun field => (encode fuel heap field.2).map (Prod.mk field.1)).map .obj
    | _ => none
  | fuel + 1, heap, .slice ref =>
    match heap[ref]? with
    | some (.slice items) => (items.mapM (encode fuel heap)).map .arr
    | _ => none

mutual

/-- `json.Unmarshal` of what was encoded, where each key of a map stands once. The new map
or slice is listed after what it holds. -/
def decode (number : Rat → Option Rat) (heap : Heap) : Jsonb → Option (Heap × GoValue)
  | .null => some (heap, .plain .null)
  | .bool value => some (heap, .plain (.bool value))
  | .num value => (number value).map fun read => (heap, .plain (.num read))
  | .str text => some (heap, .plain (.str text))
  | .arr items => do
    let (heap, values) ← decodeItems number heap items
    return (heap ++ [.slice values], .slice heap.length)
  | .obj fields => do
    let (heap, values) ← decodeFields number heap fields
    return (heap ++ [.map values], .map heap.length)

def decodeItems (number : Rat → Option Rat) (heap : Heap) : List Jsonb → Option (Heap × List GoValue)
  | [] => some (heap, [])
  | item :: rest => do
    let (heap, value) ← decode number heap item
    let (heap, values) ← decodeItems number heap rest
    return (heap, value :: values)

def decodeFields (number : Rat → Option Rat) (heap : Heap) :
    List (String × Jsonb) → Option (Heap × List (String × GoValue))
  | [] => some (heap, [])
  | (key, item) :: rest => do
    let (heap, value) ← decode number heap item
    let (heap, values) ← decodeFields number heap rest
    return (heap, (key, value) :: values)

end

/-- What a reference to a map reads. -/
def entriesAt (heap : Heap) (ref : Nat) : List (String × GoValue) :=
  match heap[ref]? with
  | some (.map fields) => fields
  | _ => []

def lookupAt (heap : Heap) : List String → Nat → Option GoValue
  | [], _ => none
  | [key], cursor => get key (entriesAt heap cursor)
  | key :: next :: rest, cursor =>
    match get key (entriesAt heap cursor) with
    | some (.map inner) => lookupAt heap (next :: rest) inner
    | _ => none

def setAt : List String → Heap → Nat → GoValue → Heap
  | [], heap, _, _ => heap
  | [key], heap, cursor, value => setKey heap cursor key value
  | key :: next :: rest, heap, cursor, value =>
    match get key (entriesAt heap cursor) with
    | some (.map inner) => setAt (next :: rest) heap inner value
    | _ => setAt (next :: rest) (setKey (heap ++ [.map []]) cursor key (.map heap.length)) heap.length value

/-- `deepCopy`; the document itself where it cannot be read back. -/
def deepCopyAt (number : Rat → Option Rat) (fuel : Nat) (heap : Heap) (ref : Nat) : Option (Heap × Nat) :=
  match encode fuel heap (.map ref) with
  | none => none
  | some encoded =>
    match decode number heap encoded with
    | some (heap, .map clone) => some (heap, clone)
    | _ => some (heap, ref)

/-- `asString` of a value on the heap. -/
def textOf : GoValue → String
  | .plain (.str text) => text
  | _ => ""

def redactPathAt (clone : Nat) (heap : Heap) (path : String) : Heap :=
  match lookupAt heap (keysOf path) clone with
  | some value => if textOf value ≠ "" then setAt (keysOf path) heap clone (.plain (.str redacted)) else heap
  | none => heap

/-- `Redact`. -/
def redactAt (number : Rat → Option Rat) (fuel : Nat) (section_ : String) (heap : Heap) (ref : Nat) : Option (Heap × Nat) :=
  match secretFields section_ with
  | none => some (heap, ref)
  | some paths => (deepCopyAt number fuel heap ref).map fun copy => (paths.foldl (redactPathAt copy.2) copy.1, copy.2)

end VodogeCloud.Source.Settings
