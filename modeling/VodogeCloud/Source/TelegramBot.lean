import Mathlib.Data.Nat.Digits.Defs
import VodogeCloud.Lib.Table
import VodogeCloud.Source.CommandCatalogue
import VodogeCloud.Source.Schedule
import VodogeCloud.Source.TenantHost

/-!
# The Telegram bot

The confirmations of apps/gateway/internal/telegram/bot.go: `HandleUpdate` with its two
branches (535-588, 787-835), `propose` (632-668), `remember` to `cancelAll` (720-785),
`perform` and `dropOne` (837-887), and the parsing of commands (1172-1270).

Updates may be handled at the same time. A handler stops wherever it takes the mutex of the
pending map or calls out; between two stops of one handler any other may move. What comes
from outside, whether an account can be minted and where a modem is found, is an answer of
the step. Texts sent to the chat are left out, the quote of an action apart, and with them
the times at which strangers were last answered.
-/

set_option autoImplicit false

namespace VodogeCloud.Source.TelegramBot

open VodogeCloud.Lib VodogeCloud.Source.ClientAddress VodogeCloud.Source.CommandCatalogue
open VodogeCloud.Source.Schedule (GoTime)
open VodogeCloud.Source.TenantHost (Casing trimSpace)

/-! ## Updates -/

/-- The accounts by the decimal text of a sender's id. -/
structure Config where
  accounts : String → Option String

/-- `Config.Account`. -/
def Config.account (config : Config) (sender : Int) : Option String := config.accounts (toString sender)

structure Message where
  text : List Char
  sender : Option Int
  chat : Option Int

structure CallbackQuery where
  data : List Char
  sender : Option Int
  /-- The chat of the message the button stands under. -/
  chat : Option Int

inductive Update
  | callbackQuery (query : CallbackQuery)
  | message (message : Message)
  | other

/-! ## Actions -/

structure Action where
  command : String
  method : String
  path : String
  body : List (String × String)
  quote : String

/-- `strings.Cut`. -/
def cut (separator : Char) (text : List Char) : List Char × List Char × Bool :=
  match indexOf separator text with
  | some index => (text.take index, text.drop (index + 1), true)
  | none => (text, [], false)

theorem cut_eq {separator : Char} {before after : List Char} (free : separator ∉ before) :
    cut separator (before ++ separator :: after) = (before, after, true) := by
  have place : indexOf separator (before ++ separator :: after) = some before.length := by
    unfold indexOf
    rw [List.findIdx?_append, List.findIdx?_eq_none_iff.mpr, Option.none_or, List.findIdx?_cons]
    · simp
    · intro c member
      rw [decide_eq_false_iff_not]
      rintro rfl
      exact free member
  have dropped : (before ++ separator :: after).drop (before.length + 1) = after := by
    rw [← List.drop_drop, List.drop_left, List.drop_succ_cons, List.drop_zero]
  unfold cut
  rw [place]
  dsimp only
  rw [List.take_left, dropped]

theorem cut_absent {separator : Char} {text : List Char} (free : separator ∉ text) :
    cut separator text = (text, [], false) := by
  have nowhere : indexOf separator text = none := by
    unfold indexOf
    rw [List.findIdx?_eq_none_iff]
    intro c member
    rw [decide_eq_false_iff_not]
    rintro rfl
    exact free member
  unfold cut
  rw [nowhere]

theorem cut_found {separator : Char} {text before after : List Char}
    (found : cut separator text = (before, after, true)) : text = before ++ separator :: after := by
  unfold cut at found
  cases index : indexOf separator text with
  | none =>
    rw [index] at found
    cases found
  | some place =>
    rw [index] at found
    cases found
    obtain ⟨inside, here, _⟩ := List.findIdx?_eq_some_iff_getElem.mp index
    have there : text[place] = separator := of_decide_eq_true here
    rw [← there, ← List.drop_eq_getElem_cons, List.take_append_drop]

/-- The longest beginning of a text that fits in so many bytes. -/
def takeBytes : Nat → List Char → List Char
  | _, [] => []
  | limit, c :: rest => if c.utf8Size ≤ limit then c :: takeBytes (limit - c.utf8Size) rest else []

def clip (text : String) (limit : Nat) : String :=
  if text.utf8ByteSize ≤ limit then text
  else String.ofList (takeBytes (limit - "…".utf8ByteSize) text.toList) ++ "…"

def splitCommand (casing : Casing) (text : List Char) : String × List Char :=
  let (verb, rest, _) := cut ' ' text
  let verb := casing.lower (trimSpace verb)
  (String.ofList (cut '@' verb).1, trimSpace rest)

def usage : String := "用法：/sms <15 位 IMEI> <号码> <正文>"

def smsAction (rest : List Char) : Except String Action :=
  let (imei, remainder, _) := cut ' ' rest
  let (to_, body, found) := cut ' ' (trimSpace remainder)
  let imei := String.ofList (trimSpace imei)
  let to_ := String.ofList (trimSpace to_)
  let body := String.ofList (trimSpace body)
  if imeiPattern imei = false then .error usage
  else if phonePattern to_ = false then .error ("号码不合法。" ++ usage)
  else if found = false ∨ body = "" then .error ("正文不能为空。" ++ usage)
  else .ok {
    command := "send_sms"
    method := "POST"
    path := "/v1/commands"
    body := [("kind", "send_sms"), ("modem_imei", imei), ("to", to_), ("body", body)]
    quote := "要发送短信吗？\n\n模组 " ++ imei ++ "\n收件 " ++ to_ ++ "\n正文 " ++ clip body 400 ++
      "\n\n确认后立即入队。" }

def switchAction (rest : List Char) : Except String Action :=
  let (imei, iccid, _) := cut ' ' rest
  let imei := String.ofList (trimSpace imei)
  let iccid := String.ofList (trimSpace iccid)
  if imeiPattern imei = false ∨ iccidPattern iccid = false then
    .error "用法：/switch <15 位 IMEI> <19-20 位 ICCID>"
  else .ok {
    command := "switch_esim_profile"
    method := "POST"
    path := "/v1/commands"
    body := [("kind", "switch_esim_profile"), ("modem_imei", imei), ("target_iccid", iccid)]
    quote := "要切换 eSIM profile 吗？\n\n模组 " ++ imei ++ "\n目标 ICCID " ++ iccid ++
      "\n\n切换会让模组重新附着网络，期间该模组不可用；若目标 profile 注册不上，模组会失去连接。" }

def resetAction (rest : List Char) : Except String Action :=
  let imei := String.ofList (trimSpace rest)
  if imeiPattern imei = false then .error "用法：/reset <15 位 IMEI>"
  else .ok {
    command := "reset_modem_usb"
    method := "POST"
    path := "/v1/commands"
    body := [("kind", "reset_modem_usb"), ("modem_imei", imei)]
    quote := "要重置模组 USB 吗？\n\n模组 " ++ imei ++
      "\n\n这会真的让 USB 重新枚举：模组会短暂从机队消失，回来之前控制台够不到它。" }

def buildAction (verb : String) (rest : List Char) : Except String Action :=
  if verb = "/sms" then smsAction rest
  else if verb = "/switch" then switchAction rest
  else if verb = "/reset" then resetAction rest
  else .error "不认识这条指令。"

/-! ## Confirmations -/

/-- Three minutes. -/
def confirmationTTL : Int := 3 * 60 * 1000000000

structure Confirmation where
  senderID : Int
  chatID : Int
  action : Action
  expires : GoTime

/-- An entry of the pending map. -/
structure Entry where
  nonce : List Char
  item : Confirmation

abbrev Pending := Table Entry.nonce

def digit36 (value : Nat) : Char := Char.ofNat (if value < 10 then 48 + value else 87 + value)

/-- `strconv.FormatUint` in base 36. -/
def formatUint (value : Nat) : List Char :=
  if value = 0 then ['0'] else ((Nat.digits 36 value).map digit36).reverse

/-- `strconv.FormatInt` in base 36. -/
def formatInt (value : Int) : List Char :=
  if value < 0 then '-' :: formatUint value.natAbs else formatUint value.natAbs

/-- The nonce of a sequence number and a reading of the clock. -/
def nonceOf (sequence : Nat) (now : GoTime) : List Char :=
  formatUint sequence ++ '-' :: formatInt (now.tmod 1000000007)

/-- What is at or past its expiry. -/
def lapsed (now : GoTime) (entry : Entry) : Bool := entry.item.expires ≤ now

def expireLocked (pending : Pending) (now : GoTime) : Pending := pending.delete (lapsed now)

/-- An assignment to the map. -/
def assign (pending : Pending) (entry : Entry) : Pending :=
  (pending.delete fun other => other.nonce = entry.nonce).insert entry fun _ member =>
    of_decide_eq_false (Table.mem_delete.mp member).2

inductive Refusal
  | absent
  | another
  | lapsed

/-- `redeem`: the map it leaves, and the confirmation or the reason there is none. -/
def redeem (pending : Pending) (nonce : List Char) (senderID : Int) (now : GoTime) :
    Pending × Except Refusal Confirmation :=
  match pending.find nonce with
  | none => (pending, .error .absent)
  | some entry =>
    -- Checked before deleting: a button that somebody else presses stays where it is.
    if entry.item.senderID ≠ senderID then (pending, .error .another)
    else
      let pending := pending.delete fun other => other.nonce = nonce
      if entry.item.expires ≤ now then (pending, .error .lapsed) else (pending, .ok entry.item)

def cancelAll (pending : Pending) (senderID : Int) : Pending :=
  pending.delete fun entry => entry.item.senderID = senderID

def dropOne (pending : Pending) (nonce : List Char) (senderID : Int) : Pending :=
  match pending.find nonce with
  | some entry => if entry.item.senderID = senderID then pending.delete fun other => other.nonce = nonce else pending
  | none => pending

/-! ## Handlers -/

/-- What a handler does next. -/
inductive Handler
  | proposing (sender chat : Int) (action : Action)
  | cancelling (sender : Int)
  | dropping (nonce : List Char) (sender : Int)
  | redeeming (config : Config) (query : CallbackQuery) (sender chat : Int) (email : String) (nonce : List Char)
  | performing (nonce : List Char) (chat : Int) (email : String) (action : Action)
  | finished

/-- `handleMessage` up to its first stop. -/
def handleMessage (casing : Casing) (config : Config) (message : Message) : Handler :=
  match message.sender, message.chat with
  | some sender, some chat =>
    match config.account sender with
    | none => .finished
    | some _ =>
      let text := trimSpace message.text
      if text = [] then .finished
      else
        let (verb, rest) := splitCommand casing text
        if verb = "/sms" ∨ verb = "/switch" ∨ verb = "/reset" then
          match buildAction verb rest with
          | .ok action => .proposing sender chat action
          | .error _ => .finished
        else if verb = "/cancel" then .cancelling sender
        else .finished
  | _, _ => .finished

/-- `handleCallback` up to its first stop. -/
def handleCallback (config : Config) (query : CallbackQuery) : Handler :=
  match query.sender with
  | none => .finished
  | some sender =>
    match config.account sender with
    | none => .finished
    | some email =>
      let (verdict, nonce, found) := cut ':' query.data
      if found = false then .finished
      else if verdict = "no".toList then .dropping nonce sender
      else if verdict = "ok".toList then .redeeming config query sender (query.chat.getD sender) email nonce
      else .finished

def handleUpdate (casing : Casing) (config : Config) : Update → Handler
  | .callbackQuery query => handleCallback config query
  | .message message => handleMessage casing config message
  | .other => .finished

/-! ## Steps -/

structure Bot where
  pending : Pending
  sequence : Nat
  handlers : List Handler

def Bot.initial : Bot := ⟨Table.empty, 0, []⟩

structure Target where
  id : String
  name : String

/-- An update arrives, a handler moves from one stop to the next, or the pending
confirmations are counted. `remember` reads the clock three times. -/
inductive Step
  | update (config : Config) (update : Update)
  | remember (index : Nat) (target : Option Target) (named expiring swept : GoTime)
  | cancel (index : Nat)
  | drop (index : Nat)
  | redeem (index : Nat) (now : GoTime)
  | perform (index : Nat) (credential : Option String)
  | count (now : GoTime)

/-- What a run is judged by. -/
inductive Event
  | proposed (entry : Entry)
  | cancelled (sender : Int)
  | declined (nonce : List Char) (sender : Int)
  | redeemed (config : Config) (query : CallbackQuery) (nonce : List Char) (now : GoTime)
  | performed (nonce : List Char) (email : String) (action : Action) (credential : Option String)

/-- `propose` from the answers of `Mint` and `locate` on, and `remember`. -/
def Bot.remember (bot : Bot) (sender chat : Int) (action : Action) (target : Target) (named expiring swept : GoTime) :
    Bot × Entry :=
  let action := { action with
    body := action.body ++ [("device_id", target.id)]
    quote := action.quote ++ "\n\n设备 " ++ target.name }
  -- A counter of 64 bits.
  let sequence := (bot.sequence + 1) % 2 ^ 64
  let entry : Entry := ⟨nonceOf sequence named, ⟨sender, chat, action, expiring + confirmationTTL⟩⟩
  ({ bot with pending := expireLocked (assign bot.pending entry) swept, sequence }, entry)

def Bot.move (bot : Bot) (index : Nat) (handler : Handler) : Bot :=
  { bot with handlers := bot.handlers.set index handler }

/-- One step and what it shows; nothing when no handler stands where the step wants one. -/
def Bot.step (casing : Casing) (bot : Bot) : Step → Option (Bot × Option Event)
  | .update config update =>
    some ({ bot with handlers := bot.handlers ++ [handleUpdate casing config update] }, none)
  | .remember index target named expiring swept =>
    match bot.handlers[index]?, target with
    | some (.proposing sender chat action), some target =>
      let (bot, entry) := bot.remember sender chat action target named expiring swept
      some (bot.move index .finished, some (.proposed entry))
    | some (.proposing _ _ _), none => some (bot.move index .finished, none)
    | _, _ => none
  | .cancel index =>
    match bot.handlers[index]? with
    | some (.cancelling sender) =>
      some ({ bot with pending := cancelAll bot.pending sender }.move index .finished, some (.cancelled sender))
    | _ => none
  | .drop index =>
    match bot.handlers[index]? with
    | some (.dropping nonce sender) =>
      some ({ bot with pending := dropOne bot.pending nonce sender }.move index .finished,
        some (.declined nonce sender))
    | _ => none
  | .redeem index now =>
    match bot.handlers[index]? with
    | some (.redeeming config query sender chat email nonce) =>
      match TelegramBot.redeem bot.pending nonce sender now with
      | (pending, .ok item) =>
        some ({ bot with pending }.move index (.performing nonce chat email item.action),
          some (.redeemed config query nonce now))
      | (pending, .error _) => some ({ bot with pending }.move index .finished, none)
    | _ => none
  | .perform index credential =>
    match bot.handlers[index]? with
    | some (.performing nonce _ email action) =>
      some (bot.move index .finished, some (.performed nonce email action credential))
    | _ => none
  | .count now => some ({ bot with pending := expireLocked bot.pending now }, none)

/-- The steps taken one after the other, and all they show. -/
def Bot.run (casing : Casing) (bot : Bot) : List Step → Option (Bot × List Event)
  | [] => some (bot, [])
  | step :: steps =>
    match bot.step casing step with
    | none => none
    | some (next, event) =>
      match next.run casing steps with
      | none => none
      | some (last, events) => some (last, event.toList ++ events)

end VodogeCloud.Source.TelegramBot
