import VodogeCloud.Source.TelegramPoll

/-!
# What the bot does with an update

Whatever fails and whenever a process ends, no process calls `HandleUpdate` twice with one
update, and an update that Telegram no longer holds is not taken up again. As long as no
process polls two bots, every update that was sent is held by Telegram until a call of
`HandleUpdate` with it has returned. A process that goes on with the token of another bot
asks for the updates after the last one of the first bot, and the earlier ones are lost.
-/

set_option autoImplicit false

namespace VodogeCloud.Guarantees.PolledUpdates

open VodogeCloud.Source.TelegramPoll
open VodogeCloud.Source.ScheduleMemory (wrap)

variable {σ : Type} {api : BotApi σ} {bots : String → σ} {world after : World σ}

/-! ## Ascending ids -/

theorem wrap_of_range {value : Int} (low : 0 ≤ value) (high : value < 2 ^ 63) : wrap value = value := by
  unfold wrap
  omega

theorem nextOffset_eq {offset : Int} {update : Numbered} (from_ : offset ≤ update.updateId)
    (positive : 0 < update.updateId) (high : update.updateId < 2 ^ 63 - 1) :
    nextOffset offset update = update.updateId + 1 := by
  unfold nextOffset
  rw [if_pos from_, wrap_of_range] <;> omega

/-- The updates from an id on. -/
def fromId (offset : Int) (updates : List Numbered) : List Numbered :=
  updates.filter fun update => decide (offset ≤ update.updateId)

theorem mem_fromId {offset : Int} {updates : List Numbered} {update : Numbered} :
    update ∈ fromId offset updates ↔ update ∈ updates ∧ offset ≤ update.updateId := by
  simp [fromId]

theorem fromId_append (offset : Int) (updates more : List Numbered) :
    fromId offset (updates ++ more) = fromId offset updates ++ fromId offset more := List.filter_append ..

/-- Behind the first update from an offset on come the updates from the next one on. -/
theorem fromId_succ {updates rest : List Numbered} {offset : Int} {update : Numbered}
    (ascending : updates.Pairwise fun a b => a.updateId < b.updateId)
    (first : fromId offset updates = update :: rest) : fromId (update.updateId + 1) updates = rest := by
  have from_ : update ∈ updates ∧ offset ≤ update.updateId :=
    mem_fromId.mp (by rw [first]; exact List.mem_cons_self)
  have sorted : (update :: rest).Pairwise fun a b => a.updateId < b.updateId :=
    first ▸ ascending.sublist List.filter_sublist
  have again : fromId (update.updateId + 1) updates = fromId (update.updateId + 1) (fromId offset updates) := by
    unfold fromId
    rw [List.filter_filter]
    apply List.filter_congr
    intro other _
    rw [← Bool.decide_and, decide_eq_decide]
    omega
  rw [again, first]
  unfold fromId
  rw [List.filter_cons_of_neg (by simp), List.filter_eq_self]
  intro other member
  have above := (List.pairwise_cons.mp sorted).1 other member
  rw [decide_eq_true_eq]
  omega

/-! ## What holds whatever the tokens are -/

structure Sound (api : BotApi σ) (world : World σ) : Prop where
  offset : 0 ≤ world.poller.offset
  ahead : world.poller.updates <+:
    fromId world.poller.offset (api.pending (world.bots world.poller.token))
  held : ∀ update ∈ world.poller.handling,
    update ∈ api.pending (world.bots world.poller.token) ∧ update.updateId < world.poller.offset
  sent : ∀ token, ∀ update ∈ api.pending (world.bots token), update ∈ world.arrived token
  known : ∀ token, ∀ update ∈ world.arrived token,
    0 < update.updateId ∧ update.updateId ≤ api.last (world.bots token)
  lives : ∀ call ∈ world.started, call.1 ≤ world.process
  below : ∀ call ∈ world.started, call.1 = world.process → call.2.2.updateId < world.poller.offset
  once : world.started.Nodup

theorem start_sound (api : BotApi σ) (bots : String → σ) : Sound api (World.start api bots) where
  offset := le_refl _
  ahead := List.nil_prefix
  held update := by simp [World.start, Poller.start]
  sent token update member := member
  known token update member := ⟨api.positive _ update member, api.given _ update member⟩
  lives call := by simp [World.start]
  below call := by simp [World.start]
  once := List.nodup_nil

theorem pending_sub {bot next : σ} {offset : Option Int} {answer : List Numbered}
    (asked : api.getUpdates bot offset next answer) : ∀ update ∈ api.pending next, update ∈ api.pending bot := by
  intro update member
  rw [api.confirms asked] at member
  exact (List.mem_filter.mp member).1

/-- The updates that Telegram holds after a call are those from the offset on. -/
theorem pending_asked {bot next : σ} {offset : Int} {answer : List Numbered} (low : 0 ≤ offset)
    (asked : api.getUpdates bot (requestedOffset offset) next answer) :
    api.pending next = fromId offset (api.pending bot) := by
  rw [api.confirms asked]
  apply List.filter_congr
  intro update member
  have positive := api.positive bot update member
  unfold requestedOffset
  split
  · simp
  · simp
    omega

theorem fromId_pending {bot next : σ} {offset : Int} {answer : List Numbered} (low : 0 ≤ offset)
    (asked : api.getUpdates bot (requestedOffset offset) next answer) :
    fromId offset (api.pending next) = api.pending next := by
  rw [pending_asked low asked]
  unfold fromId
  rw [List.filter_filter]
  simp

theorem arrive_sound {token : String} {update : Numbered} {bot : σ} (sound : Sound api world)
    (arrives : api.arrives (world.bots token) update bot) :
    Sound api { world with
      bots := Function.update world.bots token bot
      arrived := Function.update world.arrived token (world.arrived token ++ [update]) } := by
  obtain ⟨above, latest⟩ := api.numbered arrives
  have appended := api.appended arrives
  refine { sound with ahead := ?_, held := ?_, sent := ?_, known := ?_ }
  · by_cases same : world.poller.token = token
    · subst same
      simp only [Function.update_self]
      rw [appended, fromId_append]
      exact sound.ahead.trans (List.prefix_append _ _)
    · simpa only [Function.update_of_ne same] using sound.ahead
  · intro other inHand
    obtain ⟨member, past⟩ := sound.held other inHand
    refine ⟨?_, past⟩
    by_cases same : world.poller.token = token
    · subst same
      simp [appended, member]
    · simpa only [Function.update_of_ne same] using member
  · intro other item member
    by_cases same : other = token
    · subst same
      simp only [Function.update_self] at member ⊢
      rw [appended] at member
      rcases List.mem_append.mp member with old | new
      · exact List.mem_append_left _ (sound.sent other item old)
      · exact List.mem_append_right _ new
    · simp only [Function.update_of_ne same] at member ⊢
      exact sound.sent other item member
  · intro other item member
    by_cases same : other = token
    · subst same
      simp only [Function.update_self] at member ⊢
      rcases List.mem_append.mp member with old | new
      · have := sound.known other item old
        omega
      · obtain rfl := List.mem_singleton.mp new
        have newest : item ∈ api.pending bot := by simp [appended]
        exact ⟨api.positive bot item newest, latest.ge⟩
    · simp only [Function.update_of_ne same] at member ⊢
      exact sound.known other item member

/-- A call of `getUpdates` at the top of the loop, with the answer or with none. -/
theorem fetch_sound {token : String} {bot : σ} {answer updates : List Numbered} {poller : Poller}
    (sound : Sound api world)
    (asked : api.getUpdates (world.bots token) (requestedOffset world.poller.offset) bot answer)
    (kept : poller.offset = world.poller.offset) (idle : poller.handling = none)
    (taken : poller.updates = updates) (choice : updates = [] ∨ poller.token = token ∧ updates = answer) :
    Sound api { world with
      bots := Function.update world.bots token bot
      poller := poller
      polls := world.polls ++ [(world.process, token)] } := by
  refine { sound with
    offset := kept ▸ sound.offset, ahead := ?_, held := ?_, sent := ?_, known := ?_, below := ?_ }
  · rw [taken]
    rcases choice with rfl | ⟨same, rfl⟩
    · exact List.nil_prefix
    · rw [same, kept]
      simp only [Function.update_self]
      rw [fromId_pending sound.offset asked]
      exact api.answers asked
  · simp [idle]
  · intro other item member
    by_cases same : other = token
    · subst same
      simp only [Function.update_self] at member
      exact sound.sent other item (pending_sub asked item member)
    · simp only [Function.update_of_ne same] at member
      exact sound.sent other item member
  · intro other item member
    have known := sound.known other item member
    by_cases same : other = token
    · subst same
      simpa [api.asked asked] using known
    · simpa [Function.update_of_ne same] using known
  · simpa only [kept] using sound.below

theorem handle_sound {update : Numbered} {rest : List Numbered} (sound : Sound api world)
    (ahead : world.poller.updates = update :: rest) :
    nextOffset world.poller.offset update = update.updateId + 1 ∧
      Sound api { world with
        poller := ⟨nextOffset world.poller.offset update, world.poller.token, rest, some update⟩
        started := world.started ++ [(world.process, world.poller.token, update)] } := by
  obtain ⟨tail, whole⟩ := ahead ▸ sound.ahead
  rw [List.cons_append] at whole
  obtain ⟨pending, from_⟩ := mem_fromId.mp (whole ▸ List.mem_cons_self : update ∈ fromId _ _)
  have known := sound.known _ update (sound.sent _ update pending)
  have representable := api.representable (world.bots world.poller.token)
  have next : nextOffset world.poller.offset update = update.updateId + 1 :=
    nextOffset_eq from_ known.1 (by omega)
  refine ⟨next, ?_⟩
  rw [next]
  refine { sound with offset := ?_, ahead := ?_, held := ?_, lives := ?_, below := ?_, once := ?_ }
  · change 0 ≤ update.updateId + 1
    omega
  · change rest <+: fromId (update.updateId + 1) (api.pending (world.bots world.poller.token))
    rw [fromId_succ (api.ascending _) whole.symm]
    exact List.prefix_append _ _
  · rintro other ⟨⟩
    exact ⟨pending, Int.lt_succ _⟩
  · intro call member
    rcases List.mem_append.mp member with old | new
    · exact sound.lives call old
    · obtain rfl := List.mem_singleton.mp new
      exact le_refl _
  · intro call member same
    change call.2.2.updateId < update.updateId + 1
    rcases List.mem_append.mp member with old | new
    · have := sound.below call old same
      omega
    · obtain rfl := List.mem_singleton.mp new
      exact Int.lt_succ _
  · change (world.started ++ [(world.process, world.poller.token, update)]).Nodup
    rw [List.nodup_append]
    refine ⟨sound.once, List.nodup_singleton _, ?_⟩
    rintro call old _ new rfl
    obtain rfl := List.mem_singleton.mp new
    have := sound.below _ old rfl
    dsimp only at this
    omega

theorem step_sound (sound : Sound api world) (step : Step api world after) : Sound api after := by
  cases step with
  | arrive arrives => exact arrive_sound sound arrives
  | fetch top asked => exact fetch_sound sound asked rfl rfl rfl (Or.inr ⟨rfl, rfl⟩)
  | fetchLost top asked => exact fetch_sound sound asked rfl top.2 top.1 (Or.inl rfl)
  | handle ahead idle => exact (handle_sound sound ahead).2
  | handled inHand => exact { sound with held := fun update held => by cases held }
  | restart =>
    refine { sound with offset := le_refl _, ahead := List.nil_prefix, held := ?_, lives := ?_, below := ?_ }
    · simp [Poller.start]
    · exact fun call member => Nat.le_succ_of_le (sound.lives call member)
    · intro call member same
      have := sound.lives call member
      dsimp only at same
      omega

theorem leads_sound (sound : Sound api world) (leads : Leads api world after) : Sound api after := by
  induction leads with
  | refl => exact sound
  | tail _ step ih => exact step_sound ih step

/-- No process calls `HandleUpdate` twice with one update of one bot. -/
theorem handled_once (leads : Leads api (World.start api bots) world) : world.started.Nodup :=
  (leads_sound (start_sound api bots) leads).once

/-! ## What Telegram no longer holds -/

theorem step_settled {token : String} {update : Numbered} (sound : Sound api world)
    (sent : update ∈ world.arrived token) (dropped : update ∉ api.pending (world.bots token))
    (step : Step api world after) :
    (update ∈ after.arrived token ∧ update ∉ api.pending (after.bots token)) ∧
      ∀ process, (process, token, update) ∈ after.started → (process, token, update) ∈ world.started := by
  cases step with
  | @arrive other item bot arrives =>
    refine ⟨?_, fun _ call => call⟩
    by_cases same : token = other
    · subst same
      have known := sound.known _ update sent
      have above := (api.numbered arrives).1
      simp only [Function.update_self]
      refine ⟨List.mem_append_left _ sent, fun member => ?_⟩
      rw [api.appended arrives] at member
      rcases List.mem_append.mp member with old | new
      · exact dropped old
      · obtain rfl := List.mem_singleton.mp new
        omega
    · simpa only [Function.update_of_ne same] using And.intro sent dropped
  | @fetch other bot answer top asked | @fetchLost other bot answer top asked =>
    refine ⟨⟨sent, fun member => ?_⟩, fun _ call => call⟩
    by_cases same : token = other
    · subst same
      simp only [Function.update_self] at member
      exact dropped (pending_sub asked update member)
    · simp only [Function.update_of_ne same] at member
      exact dropped member
  | @handle item rest ahead idle =>
    refine ⟨⟨sent, dropped⟩, fun process call => ?_⟩
    rcases List.mem_append.mp call with old | new
    · exact old
    · cases List.mem_singleton.mp new
      have first : update ∈ world.poller.updates := by simp [ahead]
      exact absurd (mem_fromId.mp (sound.ahead.subset first)).1 dropped
  | handled inHand => exact ⟨⟨sent, dropped⟩, fun _ call => call⟩
  | restart => exact ⟨⟨sent, dropped⟩, fun _ call => call⟩

/-- No process takes up an update that Telegram no longer holds. -/
theorem dropped_not_handled {token : String} {update : Numbered} {process : Nat}
    (reached : Leads api (World.start api bots) world) (sent : update ∈ world.arrived token)
    (dropped : update ∉ api.pending (world.bots token)) (leads : Leads api world after)
    (absent : (process, token, update) ∉ world.started) : (process, token, update) ∉ after.started := by
  have sound := leads_sound (start_sound api bots) reached
  have settled : (update ∈ after.arrived token ∧ update ∉ api.pending (after.bots token)) ∧
      ∀ process, (process, token, update) ∈ after.started → (process, token, update) ∈ world.started := by
    induction leads with
    | refl => exact ⟨⟨sent, dropped⟩, fun _ call => call⟩
    | tail before step ih =>
      obtain ⟨⟨stillSent, stillDropped⟩, calls⟩ := ih
      obtain ⟨stays, next⟩ := step_settled (leads_sound sound before) stillSent stillDropped step
      exact ⟨stays, fun process call => calls process (next process call)⟩
  exact fun call => absent (settled.2 process call)

/-! ## What is kept while a process polls one bot -/

/-- No process polled two bots. -/
def OneToken (world : World σ) : Prop :=
  ∀ process token other, (process, token) ∈ world.polls → (process, other) ∈ world.polls → token = other

/-- Telegram holds the update, or a call of `HandleUpdate` with it returned. -/
def Accounted (api : BotApi σ) (world : World σ) (token : String) (update : Numbered) : Prop :=
  update ∈ api.pending (world.bots token) ∨ (token, update) ∈ world.finished

/-- Every update below the offset was handled, or is being handled now. -/
structure Kept (api : BotApi σ) (world : World σ) : Prop where
  sound : Sound api world
  polled : 0 < world.poller.offset ∨ world.poller.updates ≠ [] →
    (world.process, world.poller.token) ∈ world.polls
  lives : ∀ poll ∈ world.polls, poll.1 ≤ world.process
  reach : 0 < world.poller.offset →
    world.poller.offset ≤ api.last (world.bots world.poller.token) + 1
  behind : ∀ update ∈ world.arrived world.poller.token, update.updateId < world.poller.offset →
    (world.poller.token, update) ∈ world.finished ∨ world.poller.handling = some update
  accounted : ∀ token, ∀ update ∈ world.arrived token, Accounted api world token update

theorem start_kept (api : BotApi σ) (bots : String → σ) : Kept api (World.start api bots) where
  sound := start_sound api bots
  polled moved := by simp [World.start, Poller.start] at moved
  lives poll := by simp [World.start]
  reach moved := by simp [World.start, Poller.start] at moved
  behind update member below := by
    have := api.positive _ update member
    simp only [World.start, Poller.start] at below
    omega
  accounted token update member := Or.inl member

theorem arrive_kept {token : String} {update : Numbered} {bot : σ} (kept : Kept api world)
    (arrives : api.arrives (world.bots token) update bot) :
    Kept api { world with
      bots := Function.update world.bots token bot
      arrived := Function.update world.arrived token (world.arrived token ++ [update]) } := by
  obtain ⟨above, latest⟩ := api.numbered arrives
  refine { kept with
    sound := arrive_sound kept.sound arrives, reach := ?_, behind := ?_, accounted := ?_ }
  · intro moved
    have reach := kept.reach moved
    by_cases same : world.poller.token = token
    · subst same
      simp only [Function.update_self]
      omega
    · simpa only [Function.update_of_ne same] using reach
  · intro item member below
    by_cases same : world.poller.token = token
    · subst same
      simp only [Function.update_self] at member
      rcases List.mem_append.mp member with old | new
      · exact kept.behind item old below
      · obtain rfl := List.mem_singleton.mp new
        have newest : item ∈ api.pending bot := by simp [api.appended arrives]
        have positive := api.positive bot item newest
        dsimp only at below
        have reach := kept.reach (by omega)
        omega
    · simp only [Function.update_of_ne same] at member
      exact kept.behind item member below
  · intro other item member
    unfold Accounted
    by_cases same : other = token
    · subst same
      simp only [Function.update_self] at member ⊢
      rw [api.appended arrives]
      rcases List.mem_append.mp member with old | new
      · exact (kept.accounted other item old).imp_left (List.mem_append_left _)
      · exact Or.inl (List.mem_append_right _ new)
    · simp only [Function.update_of_ne same] at member ⊢
      exact kept.accounted other item member

/-- A call of `getUpdates` makes Telegram drop only what was handled. -/
theorem fetch_kept {token : String} {bot : σ} {answer : List Numbered} {poller : Poller}
    (kept : Kept api world) (top : world.poller.atTop)
    (one : OneToken { world with polls := world.polls ++ [(world.process, token)] })
    (asked : api.getUpdates (world.bots token) (requestedOffset world.poller.offset) bot answer)
    (same : poller.offset = world.poller.offset) (idle : poller.handling = none)
    (choice : poller = world.poller ∨ poller.token = token)
    (sound : Sound api { world with
      bots := Function.update world.bots token bot
      poller := poller
      polls := world.polls ++ [(world.process, token)] }) :
    Kept api { world with
      bots := Function.update world.bots token bot
      poller := poller
      polls := world.polls ++ [(world.process, token)] } := by
  have sameToken : 0 < world.poller.offset → world.poller.token = token := fun moved =>
    one world.process _ _ (List.mem_append_left _ (kept.polled (Or.inl moved))) (by simp)
  have keptToken : 0 < world.poller.offset → poller.token = world.poller.token := by
    intro moved
    rcases choice with rfl | now
    · rfl
    · rw [now, sameToken moved]
  refine { sound := sound, polled := ?_, lives := ?_, reach := ?_, behind := ?_, accounted := ?_ }
  · intro moved
    rcases choice with rfl | rfl
    · exact List.mem_append_left _ (kept.polled moved)
    · simp
  · intro poll member
    rcases List.mem_append.mp member with old | new
    · exact kept.lives poll old
    · obtain rfl := List.mem_singleton.mp new
      exact le_refl _
  · intro moved
    dsimp only at moved ⊢
    rw [same] at moved ⊢
    rw [keptToken moved, sameToken moved, Function.update_self, api.asked asked, ← sameToken moved]
    exact kept.reach moved
  · intro update member below
    dsimp only at member below ⊢
    have positive := kept.sound.known _ update member
    rw [same] at below
    rw [keptToken (by omega)] at member ⊢
    rcases kept.behind update member below with done | inHand
    · exact Or.inl done
    · rw [top.2] at inHand
      cases inHand
  · intro other update member
    unfold Accounted
    dsimp only
    rcases kept.accounted other update member with held | done
    · by_cases here : other = token
      · subst here
        rw [Function.update_self, pending_asked kept.sound.offset asked, mem_fromId]
        by_cases ahead : world.poller.offset ≤ update.updateId
        · exact Or.inl ⟨held, ahead⟩
        · -- what is dropped is below the offset, and no call is open at the top of the loop
          rw [not_le] at ahead
          have positive := kept.sound.known other update member
          obtain rfl := sameToken (by omega)
          rcases kept.behind update member ahead with done | inHand
          · exact Or.inr done
          · rw [top.2] at inHand
            cases inHand
      · rw [Function.update_of_ne here]
        exact Or.inl held
    · exact Or.inr done

theorem handle_kept {update : Numbered} {rest : List Numbered} (kept : Kept api world)
    (ahead : world.poller.updates = update :: rest) (idle : world.poller.handling = none) :
    Kept api { world with
      poller := ⟨nextOffset world.poller.offset update, world.poller.token, rest, some update⟩
      started := world.started ++ [(world.process, world.poller.token, update)] } := by
  obtain ⟨next, sound⟩ := handle_sound kept.sound ahead
  obtain ⟨tail, whole⟩ := ahead ▸ kept.sound.ahead
  rw [List.cons_append] at whole
  have pending := (mem_fromId.mp (whole ▸ List.mem_cons_self : update ∈ fromId _ _)).1
  have known := kept.sound.known _ update (kept.sound.sent _ update pending)
  refine { kept with sound := sound, polled := ?_, reach := ?_, behind := ?_ }
  · intro _
    exact kept.polled (Or.inr (by simp [ahead]))
  · intro _
    rw [next]
    dsimp only
    omega
  · intro item member below
    rw [next] at below
    dsimp only at member below ⊢
    by_cases before : item.updateId < world.poller.offset
    · refine Or.inl ((kept.behind item member before).resolve_right ?_)
      simp [idle]
    · rcases kept.accounted _ item member with held | done
      · -- the first update from the offset on is the only one up to its id
        have listed : item ∈ update :: (rest ++ tail) := whole ▸ mem_fromId.mpr ⟨held, by omega⟩
        have sorted : (update :: (rest ++ tail)).Pairwise fun a b => a.updateId < b.updateId :=
          whole ▸ (api.ascending _).sublist List.filter_sublist
        rcases List.mem_cons.mp listed with rfl | later
        · exact Or.inr rfl
        · have := (List.pairwise_cons.mp sorted).1 item later
          omega
      · exact Or.inl done

theorem step_kept (kept : Kept api world) (one : OneToken after) (step : Step api world after) :
    Kept api after := by
  have sound := step_sound kept.sound step
  cases step with
  | arrive arrives => exact arrive_kept kept arrives
  | fetch top asked => exact fetch_kept kept top one asked rfl rfl (Or.inr rfl) sound
  | fetchLost top asked => exact fetch_kept kept top one asked rfl top.2 (Or.inl rfl) sound
  | handle ahead idle => exact handle_kept kept ahead idle
  | @handled update inHand =>
    refine { kept with sound := sound, behind := ?_, accounted := ?_ }
    · intro item member below
      rcases kept.behind item member below with done | now
      · exact Or.inl (List.mem_append_left _ done)
      · rw [inHand] at now
        cases now
        exact Or.inl (by simp)
    · intro token item member
      exact (kept.accounted token item member).imp_right (List.mem_append_left _)
  | restart =>
    refine { kept with sound := sound, polled := ?_, lives := ?_, reach := ?_, behind := ?_ }
    · simp [Poller.start]
    · exact fun poll member => Nat.le_succ_of_le (kept.lives poll member)
    · simp [Poller.start]
    · intro item member below
      have positive := kept.sound.known _ item member
      simp only [Poller.start] at below
      omega

theorem OneToken.earlier (one : OneToken after) (step : Step api world after) : OneToken world := by
  cases step with
  | fetch top asked | fetchLost top asked =>
    exact fun process token other first second =>
      one process token other (List.mem_append_left _ first) (List.mem_append_left _ second)
  | arrive arrives => exact one
  | handle ahead idle => exact one
  | handled inHand => exact one
  | restart => exact one

theorem leads_kept (kept : Kept api world) (leads : Leads api world after) (one : OneToken after) :
    Kept api after := by
  induction leads with
  | refl => exact kept
  | tail _ step ih => exact step_kept (ih (one.earlier step)) one step

/-- While no process polls two bots, Telegram holds every update until `HandleUpdate` returned. -/
theorem sent_update_accounted (leads : Leads api (World.start api bots) world) (one : OneToken world)
    {token : String} {update : Numbered} (sent : update ∈ world.arrived token) :
    Accounted api world token update :=
  (leads_kept (start_kept api bots) leads one).accounted token update sent

/-! ## A queue of updates -/

/-- What Telegram knows of one bot. -/
structure Queue where
  last : Int
  pending : List Numbered
  ascending : pending.Pairwise fun a b => a.updateId < b.updateId
  positive : ∀ update ∈ pending, 0 < update.updateId
  given : ∀ update ∈ pending, update.updateId ≤ last
  representable : last < 2 ^ 63 - 1

/-- A call answers with a hundred updates at most. -/
def queueApi : BotApi Queue where
  pending := Queue.pending
  last := Queue.last
  getUpdates bot offset after answer := after.last = bot.last ∧
    after.pending = (bot.pending.filter fun update => decide (∀ from_ ∈ offset, from_ ≤ update.updateId)) ∧
    answer = after.pending.take 100
  arrives bot update after := bot.last < update.updateId ∧ after.last = update.updateId ∧
    after.pending = bot.pending ++ [update]
  ascending := Queue.ascending
  positive := Queue.positive
  given := Queue.given
  representable := Queue.representable
  confirms asked := asked.2.1
  answers asked := asked.2.2 ▸ List.take_prefix _ _
  asked asked := asked.1
  appended arrives := arrives.2.2
  numbered arrives := ⟨arrives.1, arrives.2.1⟩

def ping : Numbered := ⟨7, .other⟩

def waiting : Queue := ⟨7, [ping], by decide, by decide, by decide, by decide⟩

def drained : Queue := ⟨7, [], by decide, by decide, by decide, by decide⟩

def fetched : World Queue := { World.start queueApi fun _ => waiting with
  bots := Function.update (fun _ => waiting) "a" waiting
  poller := ⟨0, "a", [ping], none⟩
  polls := [(0, "a")] }

def answered : World Queue := { fetched with
  poller := ⟨8, "a", [], none⟩
  started := [(0, "a", ping)]
  finished := [("a", ping)] }

def confirmed : World Queue := { answered with
  bots := Function.update answered.bots "a" drained
  polls := [(0, "a"), (0, "a")] }

theorem leads_answered : Leads queueApi (World.start queueApi fun _ => waiting) answered := by
  have polled : Step queueApi (World.start queueApi fun _ => waiting) fetched :=
    @Step.fetch _ _ _ "a" waiting [ping] ⟨rfl, rfl⟩ ⟨rfl, rfl, rfl⟩
  have called : Step queueApi fetched
      { fetched with poller := ⟨8, "a", [], some ping⟩, started := [(0, "a", ping)] } :=
    @Step.handle _ _ _ ping [] rfl rfl
  exact Relation.ReflTransGen.single polled |>.tail called |>.tail (@Step.handled _ _ _ ping rfl)

theorem leads_confirmed : Leads queueApi (World.start queueApi fun _ => waiting) confirmed :=
  leads_answered.tail (@Step.fetchLost _ _ _ "a" drained [] ⟨rfl, rfl⟩ ⟨rfl, rfl, rfl⟩)

theorem ping_once : answered.started.Nodup := handled_once leads_answered

theorem ping_accounted : Accounted queueApi confirmed "a" ping := by
  refine sent_update_accounted leads_confirmed ?_ (List.mem_singleton.mpr rfl)
  intro process token other first second
  simp only [confirmed, List.mem_cons, Prod.mk.injEq, List.not_mem_nil, or_false, or_self] at first second
  rw [first.2, second.2]

theorem ping_not_again :
    (1, "a", ping) ∉ { confirmed with poller := Poller.start, process := 1 : World Queue }.started := by
  refine dropped_not_handled leads_confirmed (List.mem_singleton.mpr rfl) ?_
    (Relation.ReflTransGen.single Step.restart) ?_
  · simp [confirmed, drained, queueApi]
  · simp [confirmed, answered]

/-- A process that went on with the token of another bot after update 7 of the first has
Telegram drop the other bot's update 7. -/
example : ∃ world, Leads queueApi answered world ∧ ¬ Accounted queueApi world "b" ping := by
  refine ⟨_, .single (@Step.fetch _ _ _ "b" drained [] ⟨rfl, rfl⟩ ⟨rfl, rfl, rfl⟩), ?_⟩
  simp [Accounted, queueApi, drained, answered]

end VodogeCloud.Guarantees.PolledUpdates
