import VodogeCloud.Source.Settings

/-!
# Who the bot knows

`Config` and `ReadConfig` (apps/gateway/internal/telegram/bot.go:88-152) over a tenant's
notification settings.
-/

set_option autoImplicit false

namespace VodogeCloud.Source.BotConfig

open VodogeCloud.Lib.NestedMaps (get put)
open VodogeCloud.Source.Settings
open VodogeCloud.Source.TenantHost (trimSpace)

/-- `DefaultAPIBase`. -/
def defaultAPIBase : List Char := "https://api.telegram.org".toList

/-- `Config`; the accounts by the text of a sender's id. -/
structure Config where
  enabled : Bool
  token : String
  apiBase : List Char
  accounts : List (List Char × List Char)
  deriving DecidableEq, Repr

/-- `Config{}`. -/
def Config.zero : Config := ⟨false, "", [], []⟩

/-- `strings.TrimRight(text, "/")`. -/
def trimSlashes (text : List Char) : List Char := (text.reverse.dropWhile (· = '/')).reverse

/-- `ReadConfig`. -/
def readConfig (texts : Texts) (notifications : Document) : Config :=
  match telegramOperators texts notifications with
  | .error _ => Config.zero
  | .ok operators =>
    let accounts := operators.foldl (fun accounts operator => put operator.chatID operator.email accounts) []
    let base := trimSlashes (trimSpace (telegramAPIBase notifications).toList)
    let token := telegramBotToken notifications
    { enabled := telegramBotEnabled notifications && token ≠ "" && 0 < accounts.length
      token := token
      apiBase := if base = [] then defaultAPIBase else base
      accounts := accounts }

/-- `Account`. -/
def Config.account (config : Config) (senderID : Int) : Option (List Char) :=
  get (toString senderID).toList config.accounts

/-- `Operators`. -/
def Config.operators (config : Config) : Nat := config.accounts.length

end VodogeCloud.Source.BotConfig
