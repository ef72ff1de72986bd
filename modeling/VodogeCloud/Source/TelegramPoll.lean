import Mathlib.Logic.Relation
import VodogeCloud.Source.ScheduleMemory
import VodogeCloud.Source.TelegramBot

/-!
# The poll loop of the Telegram bot

`Run` and `fetch` (apps/gateway/internal/telegram/bot.go:1320-1400). The settings are read
again before every poll, so each poll may use another token. A poll that fails may have
reached Telegram before it did, and a process may end at any point; the next one starts
with offset 0. Polls that do not reach Telegram, unreadable settings and a bot that is
switched off change nothing but the log and are left out.

Telegram is a parameter, with what its documentation says of `getUpdates`: an update is
held until a call names a higher offset, ids go up, and a call answers with the earliest
updates that are held. `allowed_updates` is the same in every call.
-/

set_option autoImplicit false

namespace VodogeCloud.Source.TelegramPoll

open VodogeCloud.Source.ScheduleMemory (wrap)

/-- An update with its id. -/
structure Numbered where
  updateId : Int
  update : TelegramBot.Update

/-- The updates of one bot at Telegram. The laws leave out that Telegram keeps an update for 24 hours
only, and that it numbers at random after a week without one. -/
structure BotApi (σ : Type) where
  pending : σ → List Numbered
  /-- The highest id given so far. -/
  last : σ → Int
  getUpdates : σ → Option Int → σ → List Numbered → Prop
  arrives : σ → Numbered → σ → Prop
  ascending : ∀ bot, (pending bot).Pairwise fun a b => a.updateId < b.updateId
  positive : ∀ bot, ∀ update ∈ pending bot, 0 < update.updateId
  given : ∀ bot, ∀ update ∈ pending bot, update.updateId ≤ last bot
  representable : ∀ bot, last bot < 2 ^ 63 - 1
  confirms : ∀ {bot offset after answer}, getUpdates bot offset after answer →
    pending after = (pending bot).filter fun update => decide (∀ from_ ∈ offset, from_ ≤ update.updateId)
  answers : ∀ {bot offset after answer}, getUpdates bot offset after answer → answer <+: pending after
  asked : ∀ {bot offset after answer}, getUpdates bot offset after answer → last after = last bot
  appended : ∀ {bot update after}, arrives bot update after → pending after = pending bot ++ [update]
  numbered : ∀ {bot update after}, arrives bot update after →
    last bot < update.updateId ∧ last after = update.updateId

/-- The variables of `Run`. -/
structure Poller where
  offset : Int
  /-- The token of the configuration the last answer was fetched with. -/
  token : String
  /-- What the `range` over the answer has not reached. -/
  updates : List Numbered
  /-- The update `HandleUpdate` was called with and has not returned from. -/
  handling : Option Numbered

/-- `Run` at its start. -/
def Poller.start : Poller := ⟨0, "", [], none⟩

/-- `if update.UpdateID >= offset { offset = update.UpdateID + 1 }`. -/
def nextOffset (offset : Int) (update : Numbered) : Int :=
  if offset ≤ update.updateId then wrap (update.updateId + 1) else offset

/-- The offset in the body of `fetch`. -/
def requestedOffset (offset : Int) : Option Int := if 0 < offset then some offset else none

/-- A gateway that polls, one process after another, and the bots it may poll. The last
four fields are the history: what Telegram took in, which process polled which bot, which
process called `HandleUpdate` with which update, and the calls that returned. -/
structure World (σ : Type) where
  bots : String → σ
  poller : Poller
  process : Nat
  arrived : String → List Numbered
  polls : List (Nat × String)
  started : List (Nat × String × Numbered)
  finished : List (String × Numbered)

variable {σ : Type}

/-- Telegram holds some updates, and the first process starts. -/
def World.start (api : BotApi σ) (bots : String → σ) : World σ where
  bots := bots
  poller := .start
  process := 0
  arrived token := api.pending (bots token)
  polls := []
  started := []
  finished := []

/-- The loop is at its top. -/
def Poller.atTop (poller : Poller) : Prop := poller.updates = [] ∧ poller.handling = none

inductive Step (api : BotApi σ) : World σ → World σ → Prop
  /-- A chat sends something to a bot. -/
  | arrive {world : World σ} {token : String} {update : Numbered} {bot : σ} :
      api.arrives (world.bots token) update bot →
      Step api world { world with
        bots := Function.update world.bots token bot
        arrived := Function.update world.arrived token (world.arrived token ++ [update]) }
  /-- `fetch` returns updates. -/
  | fetch {world : World σ} {token : String} {bot : σ} {answer : List Numbered} :
      world.poller.atTop →
      api.getUpdates (world.bots token) (requestedOffset world.poller.offset) bot answer →
      Step api world { world with
        bots := Function.update world.bots token bot
        poller := ⟨world.poller.offset, token, answer, none⟩
        polls := world.polls ++ [(world.process, token)] }
  /-- Telegram answers and `fetch` fails. -/
  | fetchLost {world : World σ} {token : String} {bot : σ} {answer : List Numbered} :
      world.poller.atTop →
      api.getUpdates (world.bots token) (requestedOffset world.poller.offset) bot answer →
      Step api world { world with
        bots := Function.update world.bots token bot
        polls := world.polls ++ [(world.process, token)] }
  /-- The next turn of the `range`: the offset moves and `HandleUpdate` is called. -/
  | handle {world : World σ} {update : Numbered} {rest : List Numbered} :
      world.poller.updates = update :: rest → world.poller.handling = none →
      Step api world { world with
        poller := ⟨nextOffset world.poller.offset update, world.poller.token, rest, some update⟩
        started := world.started ++ [(world.process, world.poller.token, update)] }
  /-- `HandleUpdate` returns. -/
  | handled {world : World σ} {update : Numbered} :
      world.poller.handling = some update →
      Step api world { world with
        poller := { world.poller with handling := none }
        finished := world.finished ++ [(world.poller.token, update)] }
  /-- The process ends, and another one starts. -/
  | restart {world : World σ} :
      Step api world { world with poller := .start, process := world.process + 1 }

/-- Everything that can follow. -/
def Leads (api : BotApi σ) : World σ → World σ → Prop := Relation.ReflTransGen (Step api)

end VodogeCloud.Source.TelegramPoll
