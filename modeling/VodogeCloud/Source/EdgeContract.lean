import VodogeCloud.Source.Postgres

/-!
# What the contract admits from a device

The part of packages/contract/schema/edge-cloud.v1.schema.json that concerns frames
from edge to cloud: the message catalog (44-130), the definitions of values, and the
payloads of the kinds the session itself decodes or does not expect. Of the payloads
that only go to the journal it is kept that they are objects, so `Conforms` admits
more of them than the schema does.

An object of the schema is a map: a document that names a property twice is not one.
`integer` is a number without a fraction, however it is written.
-/

set_option autoImplicit false

namespace VodogeCloud.Source.EdgeContract

open VodogeCloud.Lib.NetAddress (hexDigit)
open VodogeCloud.Source.Postgres

abbrev Fields := List (List JsonChar × Json)

/-! ## The catalog -/

/-- Those of them with `sequenced` true. -/
def sequenced : List String :=
  ["SmsReceived", "SmsStatusReport", "DeviceState", "CommandResult", "EsimInventory", "Alert",
    "ProxyTraffic"]

/-! ## Objects -/

/-- `additionalProperties: false` and `required`. -/
def shaped (required optional : List String) (fields : Fields) : Bool :=
  decide (fields.map Prod.fst).Nodup &&
    fields.all (fun field => (required ++ optional).any fun name => field.1 = chars name) &&
    required.all (fun name => fields.any fun field => field.1 = chars name)

/-- The value of a property. -/
def property (fields : Fields) (name : String) : Option Json :=
  (fields.find? (fun field => field.1 = chars name)).map Prod.snd

/-- A property that is there has a value as described. -/
def property? (fields : Fields) (name : String) (value : Json → Bool) : Bool :=
  (property fields name).all value

/-! ## Values -/

def hex (c : Char) : Bool := (hexDigit c).isSome

def plainChar : JsonChar → Option Char
  | .scalar c => some c
  | .loneSurrogate _ => none

/-- The characters of a string without surrogates. -/
def plainText (text : List JsonChar) : Option (List Char) := text.mapM plainChar

/-- Groups of 8, 4, 4, 4 and 12 hex digits; the third starts with 1 to 8 and the
fourth with 8, 9, a or b. -/
def uuidPattern (text : List Char) : Bool :=
  text.length = 36 &&
    [(0, 8), (9, 4), (14, 4), (19, 4), (24, 12)].all (fun group =>
      ((text.drop group.1).take group.2).all hex) &&
    [8, 13, 18, 23].all (fun place => text[place]? = some '-') &&
    text[14]?.any (fun c => '1' ≤ c && c ≤ '8') && text[19]?.any ("89abAB".toList.contains ·)

def isUuid : Json → Bool
  | .str text => (plainText text).any uuidPattern
  | _ => false

/-- The value of a number that has no fraction. -/
def integerValue : Json → Option Int
  | .num mantissa none => some mantissa
  | .num mantissa (some (.ofNat up)) => some (mantissa * 10 ^ up)
  | .num mantissa (some (.negSucc down)) =>
    if (10 : Int) ^ (down + 1) ∣ mantissa then some (mantissa / 10 ^ (down + 1)) else none
  | _ => none

def integerBetween (least most : Int) (value : Json) : Bool :=
  (integerValue value).any fun value => least ≤ value && value ≤ most

def isEpochMillis : Json → Bool := integerBetween 0 253402300799999

def oneOf (labels : List String) : Json → Bool
  | .str text => labels.any fun label => text = chars label
  | _ => false

def stringBetween (shortest longest : Nat) : Json → Bool
  | .str text => shortest ≤ text.length && text.length ≤ longest
  | _ => false

def isNullableString : Json → Bool
  | .null => true
  | value => stringBetween 0 1024 value

mutual

def isContextValue : Json → Bool
  | .null => true
  | .bool _ => true
  | .num _ _ => true
  | .str text => text.length ≤ 4096
  | .arr items => items.length ≤ 64 && areContextValues items
  | .obj fields =>
    fields.length ≤ 64 && decide (fields.map Prod.fst).Nodup && areContextFields fields

def areContextValues : List Json → Bool
  | [] => true
  | item :: rest => isContextValue item && areContextValues rest

def areContextFields : Fields → Bool
  | [] => true
  | (_, value) :: rest => isContextValue value && areContextFields rest

end

def arrayOf (least most : Nat) (item : Json → Bool) : Json → Bool
  | .arr items => least ≤ items.length && items.length ≤ most && items.all item
  | _ => false

/-! ## Payloads -/

def pingPayload (fields : Fields) : Bool :=
  shaped ["connection_id", "sent_at"] [] fields && property? fields "connection_id" isUuid &&
  property? fields "sent_at" isEpochMillis

def commandReceiptPayload (fields : Fields) : Bool :=
  shaped ["cmd_id", "delivery_id", "status", "received_at"] ["retry_after_ms", "reason_code"] fields &&
  property? fields "cmd_id" isUuid && property? fields "delivery_id" isUuid &&
  property? fields "status" (oneOf ["accepted", "duplicate", "retry_later"]) &&
  property? fields "received_at" isEpochMillis &&
  property? fields "retry_after_ms" (integerBetween 1 86400000) &&
  property? fields "reason_code" isNullableString &&
  -- a receipt that puts the command off says for how long
  (!property? fields "status" (oneOf ["retry_later"]) || (property fields "retry_after_ms").isSome)

def commandResultPayload (fields : Fields) : Bool :=
  shaped ["cmd_id", "status", "completed_at", "attempts"] ["reason_code", "reason", "details"] fields &&
  property? fields "cmd_id" isUuid &&
  property? fields "status" (oneOf ["succeeded", "failed", "unknown", "expired", "cancelled"]) &&
  property? fields "completed_at" isEpochMillis &&
  property? fields "attempts" (integerBetween 0 1000000) &&
  property? fields "reason_code" isNullableString && property? fields "reason" isNullableString &&
  property? fields "details" isContextValue

end VodogeCloud.Source.EdgeContract
