import VodogeCloud.Source.NotifyDispatch
import VodogeCloud.Source.Settings

/-!
# The channels

`Configured` of the seven channels of `Registry`
(apps/gateway/internal/notify/channels.go:36-543) over the readers of notify.go:133-177.
What a channel sends, and to whom, is left out.
-/

set_option autoImplicit false

namespace VodogeCloud.Source.NotifyChannels

open VodogeCloud.Lib.NestedMaps (get)
open VodogeCloud.Source.Postgres (Jsonb)
open VodogeCloud.Source.NotifyDispatch (Channel)
open VodogeCloud.Source.ServeDevice (trimSpace)
open VodogeCloud.Source.Settings (Document)

/-! ## Readers -/

/-- `asString`. -/
def asString (config : Document) (key : String) : String :=
  match get key config with
  | some (.str value) => trimSpace value
  | _ => ""

/-- `asBool`. -/
def asBool (config : Document) (key : String) : Bool :=
  match get key config with
  | some (.bool value) => value
  | _ => false

/-- `int(typed)` of a float64; one that no int holds becomes the least int. -/
def toInt (value : Rat) : Int :=
  let whole := value.num.tdiv value.den
  if -2 ^ 63 ≤ whole ∧ whole < 2 ^ 63 then whole else -2 ^ 63

/-- `asInt`. -/
def asInt (config : Document) (key : String) : Int :=
  match get key config with
  | some (.num value) => toInt value
  | _ => 0

/-- One turn of the loop of `asStrings`. -/
def solidText : Jsonb → Option String
  | .str text => if trimSpace text ≠ "" then some (trimSpace text) else none
  | _ => none

/-- `asStrings`. -/
def asStrings (config : Document) (key : String) : List String :=
  match get key config with
  | some (.arr items) => items.filterMap solidText
  | _ => []

/-! ## Registry -/

def webhook : Channel where
  name := "webhook"
  configured config := asBool config "enabled" && 0 < (asStrings config "urls").length
  plain := by decide +kernel

def bark : Channel where
  name := "bark"
  configured config := asBool config "enabled" && 0 < (asStrings config "urls").length
  plain := by decide +kernel

def email : Channel where
  name := "email"
  configured config := asBool config "enabled" && asString config "smtp_host" ≠ "" && 0 < asInt config "smtp_port" &&
    0 < (asStrings config "to_addresses").length
  plain := by decide +kernel

def telegram : Channel where
  name := "telegram"
  configured config := asBool config "enabled" && asString config "bot_token" ≠ "" && asString config "chat_id" ≠ ""
  plain := by decide +kernel

def feishu : Channel where
  name := "feishu"
  configured config := asBool config "enabled" && asString config "webhook_url" ≠ ""
  plain := by decide +kernel

def weCom : Channel where
  name := "wecom"
  configured config := asBool config "enabled" && asString config "webhook_url" ≠ ""
  plain := by decide +kernel

def pushplus : Channel where
  name := "pushplus"
  configured config := asBool config "enabled" && asString config "token" ≠ ""
  plain := by decide +kernel

/-- `Registry`. -/
def registry : List Channel := [webhook, bark, email, telegram, feishu, weCom, pushplus]

end VodogeCloud.Source.NotifyChannels
