import VodogeCloud.Guarantees.TenantHosts
import VodogeCloud.Guarantees.TrimmedTexts
import VodogeCloud.Lib.Transactions
import VodogeCloud.Source.NotifyChannels

/-!
# A channel that was saved as enabled

`validateNotifications` (apps/gateway/internal/settings/settings.go:138-226) against
`Configured` of the channels. The checks compare texts with the empty text, the channels
trim them first: a required text of white space passes the one and fails the other. An
address that must be a URL has a scheme, so it is no such text.
-/

set_option autoImplicit false

namespace VodogeCloud.Guarantees.EnabledChannels

open VodogeCloud.Lib.NestedMaps VodogeCloud.Lib.Transactions
open VodogeCloud.Source.Postgres (Jsonb)
open VodogeCloud.Source.NotifyDispatch (Channel sectionOf)
open VodogeCloud.Source.NetUrl (parse parseBody getScheme checkHTTPURL isLetter isSchemeMark before after)
open VodogeCloud.Source.ServeDevice (trimSpace isSpace)
open VodogeCloud.Source.Settings (Document Texts asMap stringList validateNotifications validateChannel
  validateEnabledChannel validateWebhookURL notificationChannels)
open VodogeCloud.Source.NotifyChannels
open VodogeCloud.Guarantees.TenantHosts (asciiCasing)
open VodogeCloud.Guarantees.TrimmedTexts

/-! ## Texts that are not white space alone -/

def Solid (text : String) : Prop := ∃ c ∈ text.toList, isSpace c = false

instance (text : String) : Decidable (Solid text) :=
  decidable_of_iff ((text.toList.any fun c => isSpace c = false) = true) (by simp [Solid])

theorem trimSpace_ne_empty_iff {text : String} : trimSpace text ≠ "" ↔ Solid text := by
  rw [ne_eq, trimSpace_eq_empty_iff]
  constructor
  · intro some_
    by_contra none_
    refine some_ fun c member => ?_
    by_contra solid
    exact none_ ⟨c, member, Bool.eq_false_iff.mpr solid⟩
  · rintro ⟨c, member, solid⟩ all
    rw [all c member] at solid
    cases solid

theorem asString_eq (config : Document) (key : String) :
    asString config key = trimSpace (Source.Settings.asString (get key config)) := by
  unfold asString
  cases get key config with
  | none => exact trimSpace_empty.symm
  | some value =>
    cases value with
    | str text => rfl
    | _ => exact trimSpace_empty.symm

theorem asString_ne_empty_iff (config : Document) (key : String) :
    asString config key ≠ "" ↔ Solid (Source.Settings.asString (get key config)) := by
  rw [asString_eq, trimSpace_ne_empty_iff]

theorem solid_ne_empty {text : String} (solid : Solid text) : text ≠ "" := by
  rintro rfl
  obtain ⟨c, member, _⟩ := solid
  simp at member

theorem not_solid_empty : ¬ Solid "" := fun solid => solid_ne_empty solid rfl

theorem solidText_isSome_iff (item : Jsonb) :
    (solidText item).isSome = true ↔ Solid (Source.Settings.asString (some item)) := by
  cases item with
  | str text =>
    rw [← trimSpace_ne_empty_iff]
    show (if trimSpace text ≠ "" then some (trimSpace text) else none).isSome = true ↔ trimSpace text ≠ ""
    split
    · next some_ => exact iff_of_true rfl some_
    · next none_ => exact iff_of_false (by decide) none_
  | _ => exact iff_of_false Bool.false_ne_true not_solid_empty

theorem mem_stringList {value : Option Jsonb} {text : String} :
    text ∈ stringList value ↔
      ∃ items, value = some (.arr items) ∧ text ≠ "" ∧ ∃ item ∈ items, Source.Settings.asString (some item) = text := by
  unfold stringList
  split
  · next items =>
    rw [List.mem_filter, List.mem_map, decide_eq_true_eq]
    constructor
    · rintro ⟨found, some_⟩
      exact ⟨items, rfl, some_, found⟩
    · rintro ⟨_, same, some_, found⟩
      cases same
      exact ⟨found, some_⟩
  · next other =>
    refine iff_of_false List.not_mem_nil ?_
    rintro ⟨items, same, _⟩
    exact other items same

/-- A list has an entry for its channel where it has one that is not white space. -/
theorem asStrings_some_iff (config : Document) (key : String) :
    0 < (asStrings config key).length ↔ ∃ text ∈ stringList (get key config), Solid text := by
  unfold asStrings
  cases held : get key config with
  | none =>
    refine iff_of_false (Nat.lt_irrefl 0) ?_
    rintro ⟨text, member, _⟩
    cases member
  | some value =>
    cases value with
    | arr items =>
      dsimp only
      rw [List.length_pos_iff_exists_mem]
      constructor
      · rintro ⟨text, member⟩
        obtain ⟨item, inItems, made⟩ := List.mem_filterMap.mp member
        have solid := (solidText_isSome_iff item).mp (by rw [made]; rfl)
        exact ⟨_, mem_stringList.mpr ⟨items, rfl, solid_ne_empty solid, item, inItems, rfl⟩, solid⟩
      · rintro ⟨text, member, solid⟩
        obtain ⟨_, same, _, item, inItems, rfl⟩ := mem_stringList.mp member
        cases same
        obtain ⟨made, found⟩ := Option.isSome_iff_exists.mp ((solidText_isSome_iff item).mpr solid)
        exact ⟨made, List.mem_filterMap.mpr ⟨item, inItems, found⟩⟩
    | _ =>
      refine iff_of_false (Nat.lt_irrefl 0) ?_
      rintro ⟨text, member, _⟩
      cases member

/-! ## URLs -/

theorem getScheme_some {text scheme rest : List Char} (parsed : getScheme text = some (scheme, rest)) :
    scheme = [] ∨ ∃ first, text.head? = some first ∧ isLetter first = true := by
  unfold getScheme at parsed
  dsimp only at parsed
  split at parsed
  · split at parsed
    · cases parsed
    · next first others heads =>
      split at parsed
      · next letter =>
        refine Or.inr ⟨first, ?_, letter⟩
        cases text with
        | nil => cases heads
        | cons c text =>
          rw [List.takeWhile_cons] at heads
          split at heads
          · rw [List.cons.injEq] at heads
            rw [List.head?_cons, heads.1]
          · cases heads
      · cases parsed
        exact Or.inl rfl
  · cases parsed
    exact Or.inl rfl

theorem parseBody_scheme {text : List Char} {url : Source.NetUrl.Url} (parsed : parseBody text = some url) :
    url.scheme = [] ∨ ∃ first, text.head? = some first ∧ isLetter first = true := by
  unfold parseBody at parsed
  split at parsed
  · cases parsed
  split at parsed
  · cases parsed
    exact Or.inl rfl
  obtain ⟨⟨scheme, rest⟩, found, parsed⟩ := Option.bind_eq_some_iff.mp parsed
  have named : url.scheme = scheme.map Char.toLower := by
    dsimp only at parsed
    split at parsed
    · cases parsed
      rfl
    · split at parsed
      · cases parsed
      · split at parsed
        · obtain ⟨_, _, parsed⟩ := Option.bind_eq_some_iff.mp parsed
          obtain ⟨_, _, parsed⟩ := Option.bind_eq_some_iff.mp parsed
          cases parsed
          rfl
        · obtain ⟨_, _, parsed⟩ := Option.bind_eq_some_iff.mp parsed
          cases parsed
          rfl
  rcases getScheme_some found with rfl | letter
  · exact Or.inl named
  · exact Or.inr letter

theorem letter_not_space {c : Char} (letter : isLetter c = true) : isSpace c = false := by
  have narrow : c ≤ 'z' := by
    unfold isLetter at letter
    simp only [Bool.or_eq_true, Bool.and_eq_true, decide_eq_true_eq] at letter
    rcases letter with ⟨_, high⟩ | ⟨_, high⟩
    · exact high
    · exact le_trans high (by decide)
  exact not_space_of_narrow letter narrow rfl

/-- What passes for an address is no white space. -/
theorem solid_of_checkHTTPURL {quote : String → String} {channel field raw : String}
    (passed : checkHTTPURL quote channel field raw = .ok ()) : Solid raw := by
  unfold checkHTTPURL at passed
  cases found : parse raw.toList with
  | none =>
    rw [found] at passed
    cases passed
  | some url =>
    obtain ⟨body, split, rest⟩ := Option.bind_eq_some_iff.mp found
    obtain ⟨_, _, same⟩ := Option.bind_eq_some_iff.mp rest
    cases same
    rcases parseBody_scheme split with blank | ⟨first, heads, letter⟩
    · rw [found] at passed
      dsimp only at passed
      rw [blank, if_pos (by decide)] at passed
      cases passed
    · refine ⟨first, ?_, letter_not_space letter⟩
      unfold before at heads
      have inFront := List.mem_of_mem_head? heads
      exact (List.takeWhile_prefix _).subset inFront

/-! ## What was checked -/

theorem sectionOf_eq (settings : Document) (name : String) :
    sectionOf settings name = ((get name settings).bind asMap).getD [] := by
  have reads : settings.lookup name = get name settings := by
    induction settings with
    | nil => rfl
    | cons entry rest ih =>
      obtain ⟨key, value⟩ := entry
      rw [List.lookup_cons, get_cons, ih]
      by_cases same : key = name
      · simp [same]
      · rw [if_neg same, beq_eq_false_iff_ne.mpr (Ne.symm same)]
  unfold sectionOf
  rw [reads]
  cases get name settings with
  | none => rfl
  | some value =>
    cases value with
    | obj _ => rfl
    | _ => rfl

variable {texts : Texts} {document after_ : Document}

/-- The check of the document and the channel read a switch alike. -/
theorem asBool_eq (config : Document) (key : String) : asBool config key = Source.Settings.asBool (get key config) := by
  unfold asBool Source.Settings.asBool
  cases get key config with
  | none => rfl
  | some value =>
    cases value with
    | bool _ => rfl
    | _ => rfl

/-- A channel that is switched on in an accepted document passed its check. -/
theorem checked_of_enabled (accepted : validateNotifications texts document = .ok after_) {name : String}
    (listed : name ∈ notificationChannels) (enabled : asBool (sectionOf document name) "enabled" = true) :
    validateEnabledChannel texts name (sectionOf document name) = .ok () := by
  unfold validateNotifications at accepted
  obtain ⟨_, _, accepted⟩ := bind_success accepted
  obtain ⟨_, every, _⟩ := bind_success accepted
  have checked := forM_success every name listed
  have on : Source.Settings.asBool (get "enabled" (sectionOf document name)) = true := by
    rw [← asBool_eq]
    exact enabled
  rw [sectionOf_eq] at on ⊢
  unfold validateChannel at checked
  cases held : get name document with
  | none =>
    rw [held] at on
    cases on
  | some raw =>
    rw [held, Option.bind_some] at on
    rw [Option.bind_some]
    rw [held] at checked
    dsimp only at checked
    cases shape : asMap raw with
    | none =>
      rw [shape] at on
      cases on
    | some config =>
      rw [shape, Option.getD_some] at on
      rw [shape] at checked
      rw [Option.getD_some]
      dsimp only at checked
      rwa [if_neg (by rw [on]; exact Bool.noConfusion)] at checked

/-! ## The channels one by one -/

/-- The texts a channel needs besides addresses. -/
def requiredTexts (channel : String) : List String :=
  if channel = "email" then ["smtp_host"]
  else if channel = "telegram" then ["bot_token", "chat_id"]
  else if channel = "pushplus" then ["token"]
  else []

/-- The lists a channel needs an entry of, besides lists of addresses. -/
def requiredLists (channel : String) : List String :=
  if channel = "email" then ["to_addresses"] else if channel = "bark" then ["urls"] else []

/-- No required text is white space only, and no required list has nothing else. -/
def Filled (channel : String) (config : Document) : Prop :=
  (∀ key ∈ requiredTexts channel, Solid (Source.Settings.asString (get key config))) ∧
    ∀ key ∈ requiredLists channel, ∃ text ∈ stringList (get key config), Solid text

instance (channel : String) (config : Document) : Decidable (Filled channel config) :=
  inferInstanceAs (Decidable (_ ∧ _))

variable {config : Document}

/-- A number that passed is whole and fits an int. -/
theorem asInt_some {field : Option Jsonb} {port : Int} (read : Source.Settings.asInt field = some port) :
    ∃ value : Rat, field = some (.num value) ∧ value.den = 1 ∧ (-2 ^ 63 ≤ port ∧ port < 2 ^ 63) ∧ value.num = port := by
  cases field with
  | none => cases read
  | some held =>
    cases held with
    | num value =>
      change (if value.den = 1 ∧ -2 ^ 63 ≤ value.num ∧ value.num < 2 ^ 63 then some value.num else none) = some port at read
      by_cases fits : value.den = 1 ∧ -2 ^ 63 ≤ value.num ∧ value.num < 2 ^ 63
      · rw [if_pos fits] at read
        cases read
        exact ⟨value, rfl, fits.1, fits.2, rfl⟩
      · rw [if_neg fits] at read
        cases read
    | _ => cases read

theorem asInt_positive {key : String} {port : Int} (read : Source.Settings.asInt (get key config) = some port)
    (positive : 0 < port) : 0 < asInt config key := by
  obtain ⟨value, held, den, fits, rfl⟩ := asInt_some read
  have whole : value.num.tdiv value.den = value.num := by rw [den, Nat.cast_one, Int.tdiv_one]
  unfold asInt
  rw [held]
  dsimp only
  unfold toInt
  dsimp only
  rw [whole, if_pos fits]
  exact positive

theorem webhook_configured (on : asBool config "enabled" = true)
    (checked : validateEnabledChannel texts "webhook" config = .ok ()) : webhook.configured config = true := by
  have some_ : 0 < (asStrings config "urls").length := by
    rw [asStrings_some_iff]
    unfold validateEnabledChannel at checked
    rw [if_pos rfl] at checked
    dsimp only at checked
    cases urls : stringList (get "urls" config) with
    | nil =>
      rw [urls] at checked
      cases checked
    | cons url rest =>
      rw [urls, if_neg (List.cons_ne_nil _ _)] at checked
      exact ⟨url, List.mem_cons_self, solid_of_checkHTTPURL (forM_success checked url List.mem_cons_self)⟩
  simp only [webhook, on, some_, decide_true, Bool.and_self]

theorem webhookURL_solid {channel : String} (checked : validateWebhookURL texts channel config = .ok ()) :
    asString config "webhook_url" ≠ "" := by
  unfold validateWebhookURL at checked
  dsimp only at checked
  split at checked
  · cases checked
  · exact (asString_ne_empty_iff config "webhook_url").mpr (solid_of_checkHTTPURL checked)

theorem feishu_configured (on : asBool config "enabled" = true)
    (checked : validateEnabledChannel texts "feishu" config = .ok ()) : feishu.configured config = true := by
  have some_ := webhookURL_solid (show validateWebhookURL texts "feishu" config = .ok () from checked)
  simp only [feishu, on, ne_eq, some_, not_false_eq_true, decide_true, Bool.and_self]

theorem weCom_configured (on : asBool config "enabled" = true)
    (checked : validateEnabledChannel texts "wecom" config = .ok ()) : weCom.configured config = true := by
  have some_ := webhookURL_solid (show validateWebhookURL texts "wecom" config = .ok () from checked)
  simp only [weCom, on, ne_eq, some_, not_false_eq_true, decide_true, Bool.and_self]

theorem bark_configured_iff (on : asBool config "enabled" = true) : bark.configured config = true ↔ Filled "bark" config := by
  have filled : Filled "bark" config ↔ ∃ text ∈ stringList (get "urls" config), Solid text := by
    simp [Filled, requiredTexts, requiredLists]
  rw [filled, ← asStrings_some_iff]
  simp only [bark, on, Bool.true_and, decide_eq_true_eq]

theorem telegram_configured_iff (on : asBool config "enabled" = true) :
    telegram.configured config = true ↔ Filled "telegram" config := by
  have filled : Filled "telegram" config ↔ Solid (Source.Settings.asString (get "bot_token" config)) ∧
      Solid (Source.Settings.asString (get "chat_id" config)) := by
    simp [Filled, requiredTexts, requiredLists]
  rw [filled, ← asString_ne_empty_iff, ← asString_ne_empty_iff]
  simp only [telegram, on, Bool.true_and, Bool.and_eq_true, decide_eq_true_eq]

theorem pushplus_configured_iff (on : asBool config "enabled" = true) :
    pushplus.configured config = true ↔ Filled "pushplus" config := by
  have filled : Filled "pushplus" config ↔ Solid (Source.Settings.asString (get "token" config)) := by
    simp [Filled, requiredTexts, requiredLists]
  rw [filled, ← asString_ne_empty_iff]
  simp only [pushplus, on, Bool.true_and, decide_eq_true_eq]

theorem email_configured_iff (on : asBool config "enabled" = true)
    (checked : validateEnabledChannel texts "email" config = .ok ()) :
    email.configured config = true ↔ Filled "email" config := by
  have filled : Filled "email" config ↔ Solid (Source.Settings.asString (get "smtp_host" config)) ∧
      ∃ text ∈ stringList (get "to_addresses" config), Solid text := by
    simp [Filled, requiredTexts, requiredLists]
  have port : 0 < asInt config "smtp_port" := by
    unfold validateEnabledChannel at checked
    rw [if_neg (by decide), if_pos rfl] at checked
    dsimp only at checked
    split at checked
    · cases checked
    split at checked
    · cases checked
    split at checked
    · cases checked
    · next port read =>
      split at checked
      · cases checked
      · next bounds =>
        rw [not_or, not_le] at bounds
        exact asInt_positive read bounds.1
  rw [filled, ← asString_ne_empty_iff, ← asStrings_some_iff]
  simp only [email, on, port, Bool.true_and, Bool.and_true, Bool.and_eq_true, decide_eq_true_eq, decide_true]

theorem unrequired_filled {channel : String} (texts_ : requiredTexts channel = []) (lists : requiredLists channel = []) :
    Filled channel config := by
  unfold Filled
  rw [texts_, lists]
  exact ⟨fun _ member => absurd member List.not_mem_nil, fun _ member => absurd member List.not_mem_nil⟩

/-! ## All of them -/

/-- Of an accepted document, every channel that is switched on can send exactly where none of
those needs a text, or the entry of a list, and has white space only. -/
theorem enabled_configured_iff (texts : Texts) (document after_ : Document)
    (accepted : validateNotifications texts document = .ok after_) :
    (∀ channel ∈ registry, asBool (sectionOf document channel.name) "enabled" = true →
      channel.configured (sectionOf document channel.name) = true) ↔
    ∀ channel ∈ registry, asBool (sectionOf document channel.name) "enabled" = true →
      Filled channel.name (sectionOf document channel.name) := by
  have each : ∀ channel ∈ registry, asBool (sectionOf document channel.name) "enabled" = true →
      (channel.configured (sectionOf document channel.name) = true ↔
        Filled channel.name (sectionOf document channel.name)) := by
    intro channel member on
    have listed : channel.name ∈ notificationChannels := by
      simp only [registry, List.mem_cons, List.not_mem_nil, or_false] at member
      rcases member with rfl | rfl | rfl | rfl | rfl | rfl | rfl <;> decide
    have checked := checked_of_enabled accepted listed on
    simp only [registry, List.mem_cons, List.not_mem_nil, or_false] at member
    rcases member with rfl | rfl | rfl | rfl | rfl | rfl | rfl
    · exact iff_of_true (webhook_configured on checked) (unrequired_filled rfl rfl)
    · exact bark_configured_iff on
    · exact email_configured_iff on checked
    · exact telegram_configured_iff on
    · exact iff_of_true (feishu_configured on checked) (unrequired_filled rfl rfl)
    · exact iff_of_true (weCom_configured on checked) (unrequired_filled rfl rfl)
    · exact pushplus_configured_iff on
  exact forall₂_congr fun channel member => forall_congr' fun on => each channel member on

/-- A bark channel that is switched on, with one address. -/
def barkDocument (url : String) : Document :=
  [("bark", .obj [("enabled", .bool true), ("urls", .arr [.str url])])]

theorem bark_can_send :
    validateNotifications ⟨asciiCasing, id⟩ (barkDocument "https://api.day.app/k") =
        .ok (barkDocument "https://api.day.app/k") ∧
      ∀ channel ∈ registry,
        asBool (sectionOf (barkDocument "https://api.day.app/k") channel.name) "enabled" = true →
          channel.configured (sectionOf (barkDocument "https://api.day.app/k") channel.name) = true :=
  ⟨rfl, (enabled_configured_iff ⟨asciiCasing, id⟩ (barkDocument "https://api.day.app/k")
    (barkDocument "https://api.day.app/k") rfl).mpr (by decide)⟩

/-- An address that is a space is accepted, and its channel is skipped. -/
theorem blank_address_skipped :
    validateNotifications ⟨asciiCasing, id⟩ (barkDocument " ") = .ok (barkDocument " ") ∧
      ¬ (∀ channel ∈ registry, asBool (sectionOf (barkDocument " ") channel.name) "enabled" = true →
        channel.configured (sectionOf (barkDocument " ") channel.name) = true) :=
  ⟨rfl, by decide⟩

end VodogeCloud.Guarantees.EnabledChannels
