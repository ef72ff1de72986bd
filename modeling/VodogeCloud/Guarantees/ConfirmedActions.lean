import VodogeCloud.Lib.Calls
import VodogeCloud.Guarantees.TenantHosts
import VodogeCloud.Source.TelegramBot

/-!
# Actions run once, and by their own sender

A proposed action moves from the map to one handler, and from there to its one
performance: for every nonce the three together never outnumber the proposals. What a
handler performs was taken from the map by a callback of the sender who proposed it.
-/

set_option autoImplicit false

namespace VodogeCloud.Guarantees.ConfirmedActions

open VodogeCloud.Lib VodogeCloud.Source.ClientAddress VodogeCloud.Source.TelegramBot
open VodogeCloud.Source.TenantHost (Casing)
open VodogeCloud.Source.Schedule (GoTime)

variable {casing : Casing} {bot next : Bot} {step : Step} {event : Option Event}

/-! ## The map -/

theorem mem_assign {pending : Pending} {entry other : Entry} :
    other ∈ assign pending entry ↔ (other ∈ pending ∧ other.nonce ≠ entry.nonce) ∨ other = entry := by
  simp [assign]

/-- A confirmation is taken from the map by its own sender, and in time. -/
theorem redeem_ok {pending left : Pending} {nonce : List Char} {sender : Int} {now : GoTime} {item : Confirmation}
    (taken : redeem pending nonce sender now = (left, .ok item)) :
    ∃ entry ∈ pending, entry.nonce = nonce ∧ entry.item = item ∧ item.senderID = sender ∧ now < item.expires ∧
      left = pending.delete fun other => other.nonce = nonce := by
  unfold redeem at taken
  cases found : pending.find nonce with
  | none =>
    rw [found] at taken
    cases taken
  | some entry =>
    obtain ⟨member, named⟩ := Table.find_eq_some_iff.mp found
    simp only [found] at taken
    by_cases another : entry.item.senderID ≠ sender
    · rw [if_pos another] at taken
      cases taken
    · rw [if_neg another] at taken
      by_cases lapsed : entry.item.expires ≤ now
      · rw [if_pos lapsed] at taken
        cases taken
      · rw [if_neg lapsed] at taken
        cases taken
        exact ⟨entry, member, named, rfl, not_not.mp another, Int.not_le.mp lapsed, rfl⟩

/-- A refused callback removes nothing but a lapsed confirmation of its own sender. -/
theorem redeem_error {pending left : Pending} {nonce : List Char} {sender : Int} {now : GoTime} {reason : Refusal}
    (refused : redeem pending nonce sender now = (left, .error reason)) :
    left = pending ∨ left = pending.delete fun other => other.nonce = nonce := by
  unfold redeem at refused
  cases found : pending.find nonce with
  | none =>
    rw [found] at refused
    cases refused
    exact .inl rfl
  | some entry =>
    simp only [found] at refused
    by_cases another : entry.item.senderID ≠ sender
    · rw [if_pos another] at refused
      cases refused
      exact .inl rfl
    · rw [if_neg another] at refused
      by_cases lapsed : entry.item.expires ≤ now
      · rw [if_pos lapsed] at refused
        cases refused
        exact .inr rfl
      · rw [if_neg lapsed] at refused
        cases refused

/-- Who holds another's nonce cannot consume it. -/
theorem mem_redeem_of_another {pending : Pending} {entry : Entry} (member : entry ∈ pending) {nonce : List Char}
    {sender : Int} (another : sender ≠ entry.item.senderID) (now : GoTime) :
    entry ∈ (redeem pending nonce sender now).1 := by
  unfold redeem
  cases found : pending.find nonce with
  | none => exact member
  | some other =>
    obtain ⟨inTable, named⟩ := Table.find_eq_some_iff.mp found
    by_cases differs : other.item.senderID ≠ sender
    · simp only [if_pos differs]
      exact member
    · have kept : entry ∈ pending.delete fun row => row.nonce = nonce := by
        refine Table.mem_delete.mpr ⟨member, decide_eq_false fun same => another ?_⟩
        rw [Table.eq_of_key member inTable (same.trans named.symm)]
        exact (not_not.mp differs).symm
      simp only [if_neg differs]
      by_cases lapsed : other.item.expires ≤ now
      · rw [if_pos lapsed]
        exact kept
      · rw [if_neg lapsed]
        exact kept

theorem mem_dropOne_of_another {pending : Pending} {entry : Entry} (member : entry ∈ pending) {nonce : List Char}
    {sender : Int} (another : sender ≠ entry.item.senderID) : entry ∈ dropOne pending nonce sender := by
  unfold dropOne
  cases found : pending.find nonce with
  | none => exact member
  | some other =>
    obtain ⟨inTable, named⟩ := Table.find_eq_some_iff.mp found
    by_cases own : other.item.senderID = sender
    · simp only [if_pos own]
      refine Table.mem_delete.mpr ⟨member, decide_eq_false fun same => another ?_⟩
      rw [Table.eq_of_key member inTable (same.trans named.symm)]
      exact own.symm
    · simp only [if_neg own]
      exact member

theorem redeem_of_mem {pending : Pending} {entry : Entry} (member : entry ∈ pending) {now : GoTime}
    (live : now < entry.item.expires) :
    (redeem pending entry.nonce entry.item.senderID now).2 = .ok entry.item := by
  unfold redeem
  rw [Table.find_eq_some_iff.mpr ⟨member, rfl⟩]
  simp only [ne_eq, not_true_eq_false, if_false, if_neg (Int.not_le.mpr live)]

/-- What a sender's `no` leaves is not that sender's entry of this nonce. -/
theorem dropOne_own {pending : Pending} {entry : Entry} {nonce : List Char} {sender : Int}
    (member : entry ∈ dropOne pending nonce sender) :
    entry ∈ pending ∧ ¬(entry.nonce = nonce ∧ entry.item.senderID = sender) := by
  unfold dropOne at member
  cases found : pending.find nonce with
  | none =>
    rw [found] at member
    exact ⟨member, fun own => Table.find_eq_none_iff.mp found entry member own.1⟩
  | some other =>
    simp only [found] at member
    by_cases own : other.item.senderID = sender
    · rw [if_pos own] at member
      obtain ⟨inTable, kept⟩ := Table.mem_delete.mp member
      exact ⟨inTable, fun both => of_decide_eq_false kept both.1⟩
    · rw [if_neg own] at member
      obtain ⟨inTable, named⟩ := Table.find_eq_some_iff.mp found
      refine ⟨member, fun both => own ?_⟩
      rw [← Table.eq_of_key member inTable (both.1.trans named.symm)]
      exact both.2

/-! ## What a step does -/

/-- The steps a bot can take, with the state each of them leaves. -/
inductive Move (casing : Casing) (bot : Bot) : Step → Bot → Option Event → Prop
  | update (config : Config) (update : Update) :
    Move casing bot (.update config update)
      { bot with handlers := bot.handlers ++ [handleUpdate casing config update] } none
  | remember {index : Nat} {sender chat : Int} {action : Action} (target : Target) (named expiring swept : GoTime)
    (stands : bot.handlers[index]? = some (.proposing sender chat action)) :
    Move casing bot (.remember index (some target) named expiring swept)
      ((bot.remember sender chat action target named expiring swept).1.move index .finished)
      (some (.proposed (bot.remember sender chat action target named expiring swept).2))
  | abandon {index : Nat} {sender chat : Int} {action : Action} (named expiring swept : GoTime)
    (stands : bot.handlers[index]? = some (.proposing sender chat action)) :
    Move casing bot (.remember index none named expiring swept) (bot.move index .finished) none
  | cancel {index : Nat} {sender : Int} (stands : bot.handlers[index]? = some (.cancelling sender)) :
    Move casing bot (.cancel index) ({ bot with pending := cancelAll bot.pending sender }.move index .finished)
      (some (.cancelled sender))
  | drop {index : Nat} {nonce : List Char} {sender : Int} (stands : bot.handlers[index]? = some (.dropping nonce sender)) :
    Move casing bot (.drop index) ({ bot with pending := dropOne bot.pending nonce sender }.move index .finished)
      (some (.declined nonce sender))
  | take {index : Nat} {config : Config} {query : CallbackQuery} {sender chat : Int} {email : String}
    {nonce : List Char} {now : GoTime} {left : Pending} {item : Confirmation}
    (stands : bot.handlers[index]? = some (.redeeming config query sender chat email nonce))
    (taken : redeem bot.pending nonce sender now = (left, .ok item)) :
    Move casing bot (.redeem index now)
      ({ bot with pending := left }.move index (.performing nonce chat email item.action))
      (some (.redeemed config query nonce now))
  | refuse {index : Nat} {config : Config} {query : CallbackQuery} {sender chat : Int} {email : String}
    {nonce : List Char} {now : GoTime} {left : Pending} {reason : Refusal}
    (stands : bot.handlers[index]? = some (.redeeming config query sender chat email nonce))
    (refused : redeem bot.pending nonce sender now = (left, .error reason)) :
    Move casing bot (.redeem index now) ({ bot with pending := left }.move index .finished) none
  | perform {index : Nat} {nonce : List Char} {chat : Int} {email : String} {action : Action} (credential : Option String)
    (stands : bot.handlers[index]? = some (.performing nonce chat email action)) :
    Move casing bot (.perform index credential) (bot.move index .finished)
      (some (.performed nonce email action credential))
  | count (now : GoTime) :
    Move casing bot (.count now) { bot with pending := expireLocked bot.pending now } none

theorem move_of_step (stepped : bot.step casing step = some (next, event)) : Move casing bot step next event := by
  cases step with
  | update config update =>
    cases stepped
    exact .update config update
  | remember index target named expiring swept =>
    simp only [Bot.step] at stepped
    split at stepped
    · next stands =>
      cases stepped
      exact .remember _ named expiring swept stands
    · next stands =>
      cases stepped
      exact .abandon named expiring swept stands
    · cases stepped
  | cancel index =>
    simp only [Bot.step] at stepped
    split at stepped
    · next stands =>
      cases stepped
      exact .cancel stands
    · cases stepped
  | drop index =>
    simp only [Bot.step] at stepped
    split at stepped
    · next stands =>
      cases stepped
      exact .drop stands
    · cases stepped
  | redeem index now =>
    simp only [Bot.step] at stepped
    split at stepped
    · next stands =>
      split at stepped
      · next taken =>
        cases stepped
        exact .take stands taken
      · next refused =>
        cases stepped
        exact .refuse stands refused
    · cases stepped
  | perform index credential =>
    simp only [Bot.step] at stepped
    split at stepped
    · next stands =>
      cases stepped
      exact .perform credential stands
    · cases stepped
  | count now =>
    cases stepped
    exact .count now

/-! ## Proposals, entries and performances by nonce -/

def proposes (nonce : List Char) : Event → Bool
  | .proposed entry => entry.nonce = nonce
  | _ => false

def performs (nonce : List Char) : Event → Bool
  | .performed named _ _ _ => named = nonce
  | _ => false

def performing (nonce : List Char) : Handler → Bool
  | .performing named _ _ _ => named = nonce
  | _ => false

/-- The entries under a nonce and the handlers about to perform what they took under it. -/
def held (bot : Bot) (nonce : List Char) : Nat :=
  bot.pending.rows.countP (fun entry => entry.nonce = nonce) + bot.handlers.countP (performing nonce)

theorem countP_delete_le (pending : Pending) (hit : Entry → Bool) (p : Entry → Bool) :
    (pending.delete hit).rows.countP p ≤ pending.rows.countP p :=
  List.Sublist.countP_le List.filter_sublist

theorem countP_delete_nonce (pending : Pending) (nonce : List Char) :
    (pending.delete fun entry => entry.nonce = nonce).rows.countP (fun entry => entry.nonce = nonce) = 0 := by
  refine List.countP_eq_zero.mpr fun entry member => ?_
  exact ne_true_of_eq_false (Table.mem_delete.mp member).2

theorem held_moved {left : Bot} {index : Nat} {old : Handler} (stands : left.handlers[index]? = some old)
    (new : Handler) (nonce : List Char) :
    held (left.move index new) nonce + (if performing nonce old then 1 else 0) =
      held left nonce + (if performing nonce new then 1 else 0) := by
  have moved := Calls.countP_modify (performing nonce) (fun _ => new) left.handlers index
  rw [stands] at moved
  have set : (left.move index new).handlers = left.handlers.modify index fun _ => new := List.set_eq_modify _ _ _
  have same : (left.move index new).pending = left.pending := rfl
  unfold held
  rw [set, same]
  simp only [Option.elim_some] at moved
  omega

theorem countP_assign_le (pending : Pending) (entry : Entry) (nonce : List Char) :
    (assign pending entry).rows.countP (fun other => other.nonce = nonce) ≤
      pending.rows.countP (fun other => other.nonce = nonce) + (if proposes nonce (.proposed entry) then 1 else 0) := by
  have rows : (assign pending entry).rows = (pending.delete fun other => other.nonce = entry.nonce).rows ++ [entry] := rfl
  rw [rows, List.countP_append, List.countP_singleton]
  exact Nat.add_le_add (countP_delete_le _ _ _) (Nat.le_refl _)

theorem countP_dropOne_le (pending : Pending) (nonce : List Char) (sender : Int) (p : Entry → Bool) :
    (dropOne pending nonce sender).rows.countP p ≤ pending.rows.countP p := by
  unfold dropOne
  cases pending.find nonce with
  | none => exact Nat.le_refl _
  | some entry =>
    by_cases own : entry.item.senderID = sender
    · simp only [if_pos own]
      exact countP_delete_le _ _ _
    · simp only [if_neg own]
      exact Nat.le_refl _

/-- With fewer entries and the same handlers no more is held. -/
theorem held_le {left : Bot} (handlers : left.handlers = bot.handlers) {nonce : List Char} {extra : Nat}
    (pending : left.pending.rows.countP (fun entry => entry.nonce = nonce) ≤
      bot.pending.rows.countP (fun entry => entry.nonce = nonce) + extra) : held left nonce ≤ held bot nonce + extra := by
  unfold held
  rw [handlers]
  omega

theorem performing_handleUpdate (config : Config) (update : Update) (nonce : List Char) :
    performing nonce (handleUpdate casing config update) = false := by
  cases update with
  | other => rfl
  | callbackQuery query =>
    simp only [handleUpdate, handleCallback]
    repeat' split
    all_goals rfl
  | message message =>
    simp only [handleUpdate, handleMessage]
    repeat' split
    all_goals rfl

/-- A step adds to what is held under a nonce by proposing alone, and performing takes away from it. -/
theorem held_step (moved : Move casing bot step next event) (nonce : List Char) :
    held next nonce + event.toList.countP (performs nonce) ≤ held bot nonce + event.toList.countP (proposes nonce) := by
  cases moved with
  | update config update =>
    simp [held, List.countP_append, performing_handleUpdate]
  | @remember _ sender chat action target named expiring swept stands =>
    have after := @held_moved (bot.remember sender chat action target named expiring swept).1 _ _ stands .finished nonce
    have assigned := countP_assign_le bot.pending (bot.remember sender chat action target named expiring swept).2 nonce
    have pending := Nat.le_trans (countP_delete_le _ (lapsed swept) _) assigned
    have fewer := @held_le bot (bot.remember sender chat action target named expiring swept).1 rfl nonce _ pending
    simp only [performing, Bool.false_eq_true, if_false] at after
    simp only [Option.toList_some, List.countP_singleton, performs, Bool.false_eq_true, if_false]
    omega
  | abandon _ _ _ stands =>
    have after := held_moved stands .finished nonce
    simp only [performing, Bool.false_eq_true, if_false] at after
    simp only [Option.toList_none, List.countP_nil]
    omega
  | @cancel _ sender stands =>
    have after := @held_moved { bot with pending := cancelAll bot.pending sender } _ _ stands .finished nonce
    have fewer := @held_le bot { bot with pending := cancelAll bot.pending sender } rfl nonce 0 (countP_delete_le _ _ _)
    simp only [performing, Bool.false_eq_true, if_false] at after
    simp only [Option.toList_some, List.countP_singleton, performs, proposes, Bool.false_eq_true, if_false]
    omega
  | @drop _ dropped sender stands =>
    have after := @held_moved { bot with pending := dropOne bot.pending dropped sender } _ _ stands .finished nonce
    have fewer := @held_le bot { bot with pending := dropOne bot.pending dropped sender } rfl nonce 0 (countP_dropOne_le _ _ _ _)
    simp only [performing, Bool.false_eq_true, if_false] at after
    simp only [Option.toList_some, List.countP_singleton, performs, proposes, Bool.false_eq_true, if_false]
    omega
  | @take _ config query sender chat email named now left item stands taken =>
    obtain ⟨entry, member, rfl, _, _, _, rfl⟩ := redeem_ok taken
    have after := @held_moved { bot with pending := bot.pending.delete fun other => other.nonce = entry.nonce } _ _ stands
      (.performing entry.nonce chat email item.action) nonce
    simp only [performing, Bool.false_eq_true, if_false, decide_eq_true_eq] at after
    simp only [Option.toList_some, List.countP_singleton, performs, proposes, Bool.false_eq_true, if_false]
    by_cases same : entry.nonce = nonce
    · -- The entry that is taken was counted, and no other under its nonce stays.
      subst same
      have counted : 0 < bot.pending.rows.countP fun other => other.nonce = entry.nonce :=
        List.countP_pos_iff.mpr ⟨entry, member, decide_eq_true rfl⟩
      have none_ := countP_delete_nonce bot.pending entry.nonce
      simp only [held, none_, if_true] at after ⊢
      omega
    · have fewer := @held_le bot { bot with pending := bot.pending.delete fun other => other.nonce = entry.nonce } rfl
        nonce 0 (countP_delete_le _ _ _)
      rw [if_neg same] at after
      omega
  | @refuse _ config query sender chat email named now left reason stands refused =>
    have after := @held_moved { bot with pending := left } _ _ stands .finished nonce
    have pending : left.rows.countP (fun entry => entry.nonce = nonce) ≤
        bot.pending.rows.countP fun entry => entry.nonce = nonce := by
      rcases redeem_error refused with rfl | rfl
      · exact Nat.le_refl _
      · exact countP_delete_le _ _ _
    have fewer := @held_le bot { bot with pending := left } rfl nonce 0 pending
    simp only [performing, Bool.false_eq_true, if_false] at after
    simp only [Option.toList_none, List.countP_nil]
    omega
  | @perform _ named chat email action credential stands =>
    have after := held_moved stands .finished nonce
    simp only [performing, Bool.false_eq_true, if_false, decide_eq_true_eq] at after
    simp only [Option.toList_some, List.countP_singleton, performs, proposes, Bool.false_eq_true, if_false,
      decide_eq_true_eq]
    omega
  | count now =>
    have fewer := @held_le bot { bot with pending := expireLocked bot.pending now } rfl nonce 0 (countP_delete_le _ _ _)
    simpa using fewer

/-! ## Who confirmed what -/

/-- Proposed, and since then neither cancelled by its sender nor declined. -/
def Open (past : List Event) (entry : Entry) : Prop :=
  ∃ start rest, past = start ++ .proposed entry :: rest ∧ Event.cancelled entry.item.senderID ∉ rest ∧
    Event.declined entry.nonce entry.item.senderID ∉ rest

/-- The action was proposed, and taken by `ok:` and its nonce in a callback of the sender who
proposed it, an operator of the configuration at that moment; before its expiry, and without
a cancellation or a `no` of that sender handled in between. -/
def Confirmed (past : List Event) (nonce : List Char) (email : String) (action : Action) : Prop :=
  ∃ (entry : Entry) (config : Config) (query : CallbackQuery) (now : GoTime) (start middle rest : List Event),
    past = start ++ .proposed entry :: middle ++ .redeemed config query nonce now :: rest ∧
    entry.nonce = nonce ∧ entry.item.action = action ∧
    query.sender = some entry.item.senderID ∧ query.data = "ok:".toList ++ nonce ∧
    config.account entry.item.senderID = some email ∧ now < entry.item.expires ∧
    Event.cancelled entry.item.senderID ∉ middle ∧ Event.declined nonce entry.item.senderID ∉ middle

theorem Open.append {past more : List Event} {entry : Entry} (open_ : Open past entry)
    (cancelled : Event.cancelled entry.item.senderID ∉ more)
    (declined : Event.declined entry.nonce entry.item.senderID ∉ more) : Open (past ++ more) entry := by
  obtain ⟨start, rest, rfl, kept, kept'⟩ := open_
  exact ⟨start, rest ++ more, by simp, List.not_mem_append kept cancelled, List.not_mem_append kept' declined⟩

theorem Confirmed.append {past : List Event} {nonce : List Char} {email : String} {action : Action}
    (confirmed : Confirmed past nonce email action) (more : List Event) : Confirmed (past ++ more) nonce email action := by
  obtain ⟨entry, config, query, now, start, middle, rest, rfl, facts⟩ := confirmed
  exact ⟨entry, config, query, now, start, middle, rest ++ more, by simp, facts⟩

/-- What holds of a bot after the events `past`. -/
structure Sound (bot : Bot) (past : List Event) : Prop where
  entries : ∀ entry ∈ bot.pending, Open past entry
  redeeming : ∀ {config : Config} {query : CallbackQuery} {sender chat : Int} {email : String} {nonce : List Char},
    Handler.redeeming config query sender chat email nonce ∈ bot.handlers →
      query.sender = some sender ∧ query.data = "ok:".toList ++ nonce ∧ config.account sender = some email
  performing : ∀ {nonce : List Char} {chat : Int} {email : String} {action : Action},
    Handler.performing nonce chat email action ∈ bot.handlers → Confirmed past nonce email action
  performed : ∀ {start rest : List Event} {nonce : List Char} {email : String} {action : Action}
    {credential : Option String}, past = start ++ .performed nonce email action credential :: rest →
      Confirmed start nonce email action

theorem sound_initial : Sound Bot.initial [] where
  entries entry member := absurd member List.not_mem_nil
  redeeming member := absurd member List.not_mem_nil
  performing member := absurd member List.not_mem_nil
  performed shape := by simp at shape

/-- Only a callback of an operator reaches `redeem`, with the nonce after `ok:`. -/
theorem redeeming_handleUpdate {config config' : Config} {update : Update} {query : CallbackQuery} {sender chat : Int}
    {email : String} {nonce : List Char}
    (reached : handleUpdate casing config update = .redeeming config' query sender chat email nonce) :
    query.sender = some sender ∧ query.data = "ok:".toList ++ nonce ∧ config'.account sender = some email := by
  cases update with
  | other => cases reached
  | message message =>
    simp only [handleUpdate, handleMessage] at reached
    repeat' split at reached
    all_goals cases reached
  | callbackQuery arrived =>
    simp only [handleUpdate, handleCallback] at reached
    split at reached
    · cases reached
    · next sent =>
      split at reached
      · cases reached
      · next authorised =>
        by_cases found : (cut ':' arrived.data).2.2 = false
        · rw [if_pos found] at reached
          cases reached
        · rw [if_neg found] at reached
          by_cases declines : (cut ':' arrived.data).1 = "no".toList
          · rw [if_pos declines] at reached
            cases reached
          · rw [if_neg declines] at reached
            by_cases confirms : (cut ':' arrived.data).1 = "ok".toList
            · rw [if_pos confirms] at reached
              have pieces : cut ':' arrived.data = ("ok".toList, (cut ':' arrived.data).2.1, true) := by
                rw [← confirms, ← (Bool.not_eq_false _).mp found]
              cases reached
              exact ⟨sent, cut_found pieces, authorised⟩
            · rw [if_neg confirms] at reached
              cases reached

theorem not_performing_handleUpdate {config : Config} {update : Update} {nonce : List Char} {chat : Int} {email : String}
    {action : Action} : handleUpdate casing config update ≠ .performing nonce chat email action := by
  intro same
  have quiet := @performing_handleUpdate casing config update nonce
  rw [same] at quiet
  simp [performing] at quiet

/-- The last event of a history is the new one, or the decomposition is of the old history. -/
theorem split_append {past start rest : List Event} {event : Option Event} {shown : Event}
    (shape : past ++ event.toList = start ++ shown :: rest) :
    (∃ rest', past = start ++ shown :: rest') ∨ (event = some shown ∧ start = past) := by
  cases event with
  | none => exact .inl ⟨rest, by simpa using shape⟩
  | some last =>
    rcases List.eq_nil_or_concat rest with rfl | ⟨front, final, rfl⟩
    · obtain ⟨rfl, same⟩ := List.append_inj' (show past ++ [last] = start ++ [shown] from shape) rfl
      exact .inr ⟨congrArg some (List.cons.inj same).1, rfl⟩
    · obtain ⟨same, _⟩ := List.append_inj'
        (show past ++ [last] = (start ++ shown :: front) ++ [final] by rw [Option.toList_some] at shape; rw [shape]; simp) rfl
      exact .inl ⟨front, same⟩

theorem Sound.performed_append {past : List Event} (sound : Sound bot past)
    (new : ∀ {nonce : List Char} {email : String} {action : Action} {credential : Option String},
      event = some (.performed nonce email action credential) → Confirmed past nonce email action)
    {start rest : List Event} {nonce : List Char} {email : String} {action : Action} {credential : Option String}
    (shape : past ++ event.toList = start ++ .performed nonce email action credential :: rest) :
    Confirmed start nonce email action := by
  rcases split_append shape with ⟨_, old⟩ | ⟨last, rfl⟩
  · exact sound.performed old
  · exact new last

/-- A step that moves one handler, to a place where its own past stands for it, keeps a bot sound. -/
theorem Sound.moved {past : List Event} (sound : Sound bot past) {left : Bot} (handlers : left.handlers = bot.handlers)
    {index : Nat} {handler : Handler} (redeeming : ∀ {config query sender chat email nonce},
      handler ≠ .redeeming config query sender chat email nonce)
    (performing : ∀ {nonce chat email action}, handler = .performing nonce chat email action →
      Confirmed (past ++ event.toList) nonce email action)
    (entries : ∀ entry ∈ left.pending, Open (past ++ event.toList) entry)
    (performed : ∀ {nonce : List Char} {email : String} {action : Action} {credential : Option String},
      event = some (.performed nonce email action credential) → Confirmed past nonce email action) :
    Sound (left.move index handler) (past ++ event.toList) where
  entries := entries
  redeeming member := by
    rcases List.mem_or_eq_of_mem_set member with old | same
    · exact sound.redeeming (handlers ▸ old)
    · exact absurd same.symm redeeming
  performing member := by
    rcases List.mem_or_eq_of_mem_set member with old | same
    · exact (sound.performing (handlers ▸ old)).append _
    · exact performing same.symm
  performed := sound.performed_append performed

theorem sound_step {past : List Event} (sound : Sound bot past) (moved : Move casing bot step next event) :
    Sound next (past ++ event.toList) := by
  cases moved with
  | update config update =>
    rw [Option.toList_none, List.append_nil]
    refine ⟨sound.entries, fun member => ?_, fun member => ?_, sound.performed⟩
    · rcases List.mem_append.mp member with old | new
      · exact sound.redeeming old
      · exact redeeming_handleUpdate (List.mem_singleton.mp new).symm
    · rcases List.mem_append.mp member with old | new
      · exact sound.performing old
      · exact absurd (List.mem_singleton.mp new).symm not_performing_handleUpdate
  | @remember _ sender chat action target named expiring swept stands =>
    refine @Sound.moved _ _ _ sound (bot.remember sender chat action target named expiring swept).1 rfl _ _
      Handler.noConfusion Handler.noConfusion (fun entry member => ?_) (fun same => by cases same)
    rcases mem_assign.mp (Table.mem_delete.mp member).1 with ⟨old, _⟩ | rfl
    · exact (sound.entries entry old).append (by simp) (by simp)
    · exact ⟨past, [], rfl, List.not_mem_nil, List.not_mem_nil⟩
  | abandon _ _ _ stands =>
    refine sound.moved rfl Handler.noConfusion Handler.noConfusion (fun entry member => ?_) (fun same => by cases same)
    exact (sound.entries entry member).append (by simp) (by simp)
  | @cancel _ sender stands =>
    refine @Sound.moved _ _ _ sound { bot with pending := cancelAll bot.pending sender } rfl _ _ Handler.noConfusion
      Handler.noConfusion (fun entry member => ?_) (fun same => by cases same)
    obtain ⟨old, kept⟩ := Table.mem_delete.mp member
    exact (sound.entries entry old).append (by simpa using of_decide_eq_false kept) (by simp)
  | @drop _ nonce sender stands =>
    refine @Sound.moved _ _ _ sound { bot with pending := dropOne bot.pending nonce sender } rfl _ _ Handler.noConfusion
      Handler.noConfusion (fun entry member => ?_) (fun same => by cases same)
    obtain ⟨old, kept⟩ := dropOne_own member
    exact (sound.entries entry old).append (by simp) (by simpa using kept)
  | @take _ config query sender chat email nonce now left item stands taken =>
    obtain ⟨entry, inTable, rfl, rfl, own, live, rfl⟩ := redeem_ok taken
    obtain ⟨start, middle, shape, cancelled, declined⟩ := sound.entries entry inTable
    obtain ⟨sent, data, authorised⟩ := sound.redeeming (List.mem_of_getElem? stands)
    have confirmed : Confirmed (past ++ [.redeemed config query entry.nonce now]) entry.nonce email entry.item.action :=
      ⟨entry, config, query, now, start, middle, [], by rw [shape], rfl, rfl, own ▸ sent, data, own ▸ authorised, live,
        cancelled, declined⟩
    refine @Sound.moved _ _ _ sound { bot with pending := bot.pending.delete fun other => other.nonce = entry.nonce } rfl
      _ _ Handler.noConfusion (fun same => by cases same; exact confirmed) (fun other member => ?_)
      (fun same => by cases same)
    exact (sound.entries other (Table.mem_delete.mp member).1).append (by simp) (by simp)
  | @refuse _ config query sender chat email nonce now left reason stands refused =>
    refine @Sound.moved _ _ _ sound { bot with pending := left } rfl _ _ Handler.noConfusion
      Handler.noConfusion (fun entry member => ?_) (fun same => by cases same)
    rcases redeem_error refused with rfl | rfl
    · exact (sound.entries entry member).append (by simp) (by simp)
    · exact (sound.entries entry (Table.mem_delete.mp member).1).append (by simp) (by simp)
  | @perform _ nonce chat email action credential stands =>
    refine sound.moved rfl Handler.noConfusion Handler.noConfusion (fun entry member => ?_) (fun same => ?_)
    · exact (sound.entries entry member).append (by simp) (by simp)
    · cases same
      exact sound.performing (List.mem_of_getElem? stands)
  | count now =>
    rw [Option.toList_none, List.append_nil]
    exact ⟨fun entry member => sound.entries entry (Table.mem_delete.mp member).1, sound.redeeming, sound.performing,
      sound.performed⟩

/-! ## Runs -/

theorem run_cons {steps : List Step} {events : List Event} {last : Bot}
    (ran : bot.run casing (step :: steps) = some (last, events)) :
    ∃ middle event later, Move casing bot step middle event ∧ middle.run casing steps = some (last, later) ∧
      events = event.toList ++ later := by
  rw [Bot.run] at ran
  cases stepped : bot.step casing step with
  | none =>
    rw [stepped] at ran
    cases ran
  | some reached =>
    obtain ⟨middle, event⟩ := reached
    simp only [stepped] at ran
    cases rest : middle.run casing steps with
    | none =>
      rw [rest] at ran
      cases ran
    | some done =>
      obtain ⟨final, later⟩ := done
      simp only [rest, Option.some.injEq, Prod.mk.injEq] at ran
      obtain ⟨rfl, rfl⟩ := ran
      exact ⟨middle, event, later, move_of_step stepped, rest, rfl⟩

theorem sound_run {steps : List Step} : ∀ {bot last : Bot} {past events : List Event}, Sound bot past →
    bot.run casing steps = some (last, events) → Sound last (past ++ events) := by
  induction steps with
  | nil =>
    intro bot last past events sound ran
    cases ran
    rwa [List.append_nil]
  | cons step steps ih =>
    intro bot last past events sound ran
    obtain ⟨middle, event, later, moved, rest, rfl⟩ := run_cons ran
    rw [← List.append_assoc]
    exact ih (sound_step sound moved) rest

theorem held_run {steps : List Step} (nonce : List Char) : ∀ {bot last : Bot} {events : List Event},
    bot.run casing steps = some (last, events) →
      held last nonce + events.countP (performs nonce) ≤ held bot nonce + events.countP (proposes nonce) := by
  induction steps with
  | nil =>
    intro bot last events ran
    cases ran
    exact Nat.le_refl _
  | cons step steps ih =>
    intro bot last events ran
    obtain ⟨middle, event, later, moved, rest, rfl⟩ := run_cons ran
    have first := held_step moved nonce
    have later := ih rest
    rw [List.countP_append, List.countP_append]
    omega

def proposedNonce : Event → Option (List Char)
  | .proposed entry => some entry.nonce
  | _ => none

theorem countP_proposes_le {events : List Event} (distinct : (events.filterMap proposedNonce).Nodup) (nonce : List Char) :
    events.countP (proposes nonce) ≤ 1 := by
  have counted : events.countP (proposes nonce) = (events.filterMap proposedNonce).count nonce := by
    rw [List.count_filterMap]
    refine List.countP_congr fun event _ => ?_
    cases event with
    | proposed entry => simp [proposes, proposedNonce]
    | _ => simp [proposes, proposedNonce]
  rw [counted]
  exact List.nodup_iff_count_le_one.mp distinct nonce

/-! ## Nonces -/

/-- The value of a digit in base 36. -/
def digitValue (c : Char) : Nat := if c.toNat < 87 then c.toNat - 48 else c.toNat - 87

theorem digitValue_digit36 {value : Nat} (small : value < 36) : digitValue (digit36 value) = value := by
  have each : ∀ value < 36, digitValue (digit36 value) = value := by decide
  exact each value small

theorem dash_not_mem_digits {values : List Nat} (small : ∀ value ∈ values, value < 36) : '-' ∉ values.map digit36 := by
  intro member
  obtain ⟨value, inside, dash⟩ := List.mem_map.mp member
  have each : ∀ value < 36, digit36 value ≠ '-' := by decide
  exact each value (small value inside) dash

/-- The digits of a number, the last one first. -/
theorem formatUint_digits (value : Nat) : ∃ values : List Nat, (∀ digit ∈ values, digit < 36) ∧
    Nat.ofDigits 36 values = value ∧ formatUint value = (values.map digit36).reverse := by
  by_cases zero : value = 0
  · subst zero
    exact ⟨[0], by simp, rfl, rfl⟩
  · exact ⟨Nat.digits 36 value, fun digit member => Nat.digits_lt_base (by decide) member, Nat.ofDigits_digits 36 value,
      if_neg zero⟩

theorem formatUint_inj {a b : Nat} (same : formatUint a = formatUint b) : a = b := by
  obtain ⟨left, small, rfl, text⟩ := formatUint_digits a
  obtain ⟨right, small', rfl, text'⟩ := formatUint_digits b
  have values : ∀ {l : List Nat}, (∀ digit ∈ l, digit < 36) → (l.map digit36).map digitValue = l := by
    intro l small
    rw [List.map_map]
    exact (List.map_congr_left fun digit member => digitValue_digit36 (small digit member)).trans (List.map_id _)
  have digits := List.reverse_injective (text.symm.trans (same.trans text'))
  have := congrArg (List.map digitValue) digits
  rw [values small, values small'] at this
  rw [this]

theorem dash_not_mem_formatUint (value : Nat) : '-' ∉ formatUint value := by
  obtain ⟨values, small, _, text⟩ := formatUint_digits value
  rw [text, List.mem_reverse]
  exact dash_not_mem_digits small

theorem nonceOf_sequence {a b : Nat} {s t : GoTime} (same : nonceOf a s = nonceOf b t) : a = b := by
  have cut (value : Nat) (rest : List Char) : (formatUint value ++ '-' :: rest).takeWhile (· ≠ '-') = formatUint value := by
    have free : ∀ c ∈ formatUint value, decide (c ≠ '-') = true := by
      intro c member
      refine decide_eq_true fun dash => ?_
      rw [dash] at member
      exact dash_not_mem_formatUint value member
    rw [List.takeWhile_append_of_pos free]
    simp
  have fronts := congrArg (List.takeWhile (· ≠ '-')) same
  rw [nonceOf, nonceOf, cut, cut] at fronts
  exact formatUint_inj fronts

def isProposal : Event → Bool
  | .proposed _ => true
  | _ => false

theorem sequence_step (moved : Move casing bot step next event) :
    (event.all (!isProposal ·) ∧ next.sequence = bot.sequence) ∨
      ∃ entry named, event = some (.proposed entry) ∧ entry.nonce = nonceOf ((bot.sequence + 1) % 2 ^ 64) named ∧
        next.sequence = (bot.sequence + 1) % 2 ^ 64 := by
  cases moved with
  | @remember _ sender chat action target named expiring swept stands => exact .inr ⟨_, named, rfl, rfl, rfl⟩
  | _ => exact .inl ⟨rfl, rfl⟩

/-- In fewer than `2 ^ 64` proposals no nonce comes up twice. -/
theorem nonces_run {steps : List Step} : ∀ {bot last : Bot} {events : List Event},
    bot.run casing steps = some (last, events) → bot.sequence + events.countP isProposal < 2 ^ 64 →
      (events.filterMap proposedNonce).Nodup ∧
        ∀ nonce ∈ events.filterMap proposedNonce, ∃ sequence now, bot.sequence < sequence ∧ nonce = nonceOf sequence now := by
  induction steps with
  | nil =>
    intro bot last events ran _
    cases ran
    exact ⟨List.nodup_nil, fun nonce member => absurd member List.not_mem_nil⟩
  | cons step steps ih =>
    intro bot last events ran few
    obtain ⟨middle, event, later, moved, rest, rfl⟩ := run_cons ran
    rw [List.countP_append] at few
    rcases sequence_step moved with ⟨quiet, same⟩ | ⟨entry, named, rfl, nonce, counted⟩
    · have none_ : event.toList.filterMap proposedNonce = [] := by
        cases event with
        | none => rfl
        | some shown => cases shown <;> first | rfl | cases quiet
      rw [List.filterMap_append, none_, List.nil_append, ← same]
      exact ih rest (by omega)
    · simp only [Option.toList_some, List.countP_singleton, isProposal, if_true] at few
      rw [Nat.mod_eq_of_lt (by omega)] at nonce counted
      obtain ⟨distinct, above⟩ := ih rest (by omega)
      rw [counted] at above
      have shown : (Option.toList (some (Event.proposed entry)) ++ later).filterMap proposedNonce =
          entry.nonce :: later.filterMap proposedNonce := List.filterMap_cons_some rfl
      rw [shown]
      refine ⟨List.nodup_cons.mpr ⟨fun member => ?_, distinct⟩, fun other member => ?_⟩
      · obtain ⟨sequence, now, over_, same⟩ := above entry.nonce member
        have := nonceOf_sequence (nonce.symm.trans same)
        omega
      · rcases List.mem_cons.mp member with rfl | inLater
        · exact ⟨bot.sequence + 1, named, Nat.lt_succ_self _, nonce⟩
        · obtain ⟨sequence, now, over_, same⟩ := above other inLater
          exact ⟨sequence, now, by omega, same⟩

/-- A bot shows every nonce once until its counter comes round: no two proposals share a button. -/
theorem nonces_distinct {steps : List Step} {last : Bot} {events : List Event}
    (ran : Bot.initial.run casing steps = some (last, events)) (few : events.countP isProposal < 2 ^ 64) :
    (events.filterMap proposedNonce).Nodup :=
  (nonces_run ran ((Nat.zero_add _).trans_lt few)).1

/-! ## Confirmations -/

/-- The sender whose callback a step carries on with. -/
def callbackSender (bot : Bot) : Step → Option Int
  | .redeem index _ =>
    match bot.handlers[index]? with
    | some (.redeeming _ _ sender _ _ _) => some sender
    | _ => none
  | .drop index =>
    match bot.handlers[index]? with
    | some (.dropping _ sender) => some sender
    | _ => none
  | _ => none

theorem callback_of_another {sender : Int} {entry : Entry} (moved : Move casing bot step next event)
    (callback : callbackSender bot step = some sender) (another : sender ≠ entry.item.senderID)
    (member : entry ∈ bot.pending) : entry ∈ next.pending := by
  cases moved with
  | drop stands =>
    simp only [callbackSender, stands, Option.some.injEq] at callback
    subst callback
    exact mem_dropOne_of_another member another
  | @take _ _ _ _ _ _ nonce now _ _ stands taken =>
    simp only [callbackSender, stands, Option.some.injEq] at callback
    subst callback
    have kept := @mem_redeem_of_another _ _ member nonce _ another now
    rwa [taken] at kept
  | @refuse _ _ _ _ _ _ nonce now _ _ stands refused =>
    simp only [callbackSender, stands, Option.some.injEq] at callback
    subst callback
    have kept := @mem_redeem_of_another _ _ member nonce _ another now
    rwa [refused] at kept
  | _ => cases callback

/-- Every proposal is performed at most once, and only after its own sender confirmed it in
time; a callback of anybody else leaves it to be redeemed. -/
theorem actions_confirmed_once {steps : List Step} {events : List Event}
    (ran : Bot.initial.run casing steps = some (bot, events)) (distinct : (events.filterMap proposedNonce).Nodup) :
    (∀ nonce, events.countP (performs nonce) ≤ 1) ∧
    (∀ start rest nonce email action credential,
      events = start ++ .performed nonce email action credential :: rest → Confirmed start nonce email action) ∧
    ∀ step next event sender, bot.step casing step = some (next, event) → callbackSender bot step = some sender →
      ∀ entry ∈ bot.pending, sender ≠ entry.item.senderID →
        entry ∈ next.pending ∧ ∀ now < entry.item.expires,
          (redeem next.pending entry.nonce entry.item.senderID now).2 = .ok entry.item := by
  refine ⟨fun nonce => ?_, fun start rest nonce email action credential shape => ?_,
    fun step next event sender stepped callback entry member another => ?_⟩
  · have kept := held_run nonce ran
    have none_ : held Bot.initial nonce = 0 := rfl
    have once := countP_proposes_le distinct nonce
    omega
  · have sound := sound_run sound_initial ran
    rw [List.nil_append] at sound
    exact sound.performed shape
  · have kept := callback_of_another (move_of_step stepped) callback another member
    exact ⟨kept, fun now live => redeem_of_mem kept live⟩

/-- Two operators of one group chat. -/
def operators : Config :=
  ⟨fun sender => if sender = "1" then some "one@example.com" else if sender = "2" then some "two@example.com" else none⟩

/-- The first one proposes a reset, the second one presses the button, and then the first one does. -/
def groupChat : List Step :=
  [.update operators (.message ⟨"/reset 123456789012345".toList, some 1, some 7⟩),
    .remember 0 (some ⟨"device", "gateway"⟩) 1000000008 1000000009 1000000010,
    .update operators (.callbackQuery ⟨"ok:1-1".toList, some 2, some 7⟩),
    .update operators (.callbackQuery ⟨"ok:1-1".toList, some 1, some 7⟩),
    .redeem 1 1000000011,
    .redeem 2 1000000012,
    .perform 2 (some "token"),
    .update operators (.callbackQuery ⟨"ok:1-1".toList, some 1, some 7⟩),
    .redeem 3 1000000013]

theorem groupChat_confirmed_once : ∃ bot events, Bot.initial.run TenantHosts.asciiCasing groupChat = some (bot, events) ∧
    events.countP (performs "1-1".toList) = 1 ∧ ∀ nonce, events.countP (performs nonce) ≤ 1 := by
  have shown : (Bot.initial.run TenantHosts.asciiCasing groupChat).map (fun done =>
      (done.2.filterMap proposedNonce, done.2.countP (performs "1-1".toList))) = some (["1-1".toList], 1) := by
    decide
  cases ran : Bot.initial.run TenantHosts.asciiCasing groupChat with
  | none =>
    rw [ran] at shown
    cases shown
  | some done =>
    obtain ⟨bot, events⟩ := done
    rw [ran, Option.map_some, Option.some.injEq, Prod.mk.injEq] at shown
    refine ⟨bot, events, rfl, shown.2, (actions_confirmed_once ran ?_).1⟩
    rw [shown.1]
    exact List.nodup_singleton _

theorem groupChat_nonces_distinct : ∃ bot events, Bot.initial.run TenantHosts.asciiCasing groupChat = some (bot, events) ∧
    events.countP isProposal = 1 ∧ (events.filterMap proposedNonce).Nodup := by
  have shown : (Bot.initial.run TenantHosts.asciiCasing groupChat).map (fun done => done.2.countP isProposal) = some 1 := by
    decide
  obtain ⟨⟨bot, events⟩, ran, counted⟩ := Option.map_eq_some_iff.mp shown
  exact ⟨bot, events, ran, counted, nonces_distinct ran (by rw [counted]; decide)⟩

end VodogeCloud.Guarantees.ConfirmedActions
