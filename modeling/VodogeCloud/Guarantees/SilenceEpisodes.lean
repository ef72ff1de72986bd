import VodogeCloud.Source.SilenceAlerts

/-!
# One alert per silence

Between two advances of a device's liveness at most one `agent_silent` alert is inserted, and
one once a tick has seen the silence, in every run that keeps ticks of the device apart and
moves its liveness past the alerts it already has.
-/

set_option autoImplicit false

namespace VodogeCloud.Guarantees.SilenceEpisodes

open VodogeCloud.Lib VodogeCloud.Source.Postgres VodogeCloud.Source.SilenceAlerts

variable {device : Uuid} {watchdog : Watchdog}

/-! ## What a run shows of one device -/

def lastSeen (device : Uuid) (watchdog : Watchdog) : Option Timestamp :=
  (watchdog.devices.find device).bind SeenRow.lastSeenAt

/-- The `agent_silent` rows of a device. -/
def silent (device : Uuid) (rows : List AlertRow) : List AlertRow :=
  rows.filter fun row => row.deviceId = device && row.code = "agent_silent"

def inserted (device : Uuid) (watchdog : Watchdog) : List AlertRow := silent device watchdog.alerts

/-- What open ticks are about to insert for it. -/
def pending (device : Uuid) (watchdog : Watchdog) : List AlertRow :=
  silent device (watchdog.inFlight.flatMap Prod.snd)

def isFresh (seen : Option Timestamp) (row : AlertRow) : Bool := seen.any fun seen => seen < row.occurredAt

/-- The alerts that count against the next announcement. -/
def fresh (device : Uuid) (watchdog : Watchdog) : List AlertRow :=
  (inserted device watchdog).filter (isFresh (lastSeen device watchdog))

def stale (device : Uuid) (watchdog : Watchdog) : List AlertRow :=
  (inserted device watchdog).filter fun row => !isFresh (lastSeen device watchdog) row

theorem fresh_stale (device : Uuid) (watchdog : Watchdog) :
    (inserted device watchdog).length = (fresh device watchdog).length + (stale device watchdog).length :=
  (List.length_eq_length_filter_add _)

theorem silent_append (device : Uuid) (rows others : List AlertRow) :
    silent device (rows ++ others) = silent device rows ++ silent device others := List.filter_append ..

/-! ## The statement, for one device -/

theorem before_now {seen now seconds : Int} (quietEnough : seen < now - 1000000 * seconds) (whole : 0 ≤ seconds) :
    seen < now := by omega

theorem quiet_enough {seen now quiet seconds : Int} (whole : seconds * 1000000000 ≤ quiet)
    (older : seen * 1000 + quiet < now * 1000) : seen < now - 1000000 * seconds := by omega

theorem announce_facts {quiet : Int} (positive : 0 < quiet) {now : Timestamp} {alerts : List AlertRow} {row : SeenRow}
    {alert : AlertRow} (announced : announce quiet now alerts row = some alert) :
    (alert.deviceId = row.id ∧ alert.code = "agent_silent") ∧ isFresh row.lastSeenAt alert = true ∧
      (silent row.id alerts).filter (isFresh row.lastSeenAt) = [] := by
  unfold announce at announced
  cases held : row.lastSeenAt with
  | none =>
    rw [held] at announced
    cases announced
  | some seen =>
    rw [held] at announced
    dsimp only at announced
    split at announced
    case isFalse => cases announced
    case isTrue quietEnough =>
      cases announced
      have whole : 0 ≤ wholeSeconds quiet := Int.ediv_nonneg positive.le (by decide)
      have later : seen < now := before_now quietEnough.1 whole
      refine ⟨⟨rfl, rfl⟩, decide_eq_true later, List.filter_eq_nil_iff.mpr fun existing member after => ?_⟩
      obtain ⟨inAlerts, own⟩ := List.mem_filter.mp member
      rw [Bool.and_eq_true, decide_eq_true_iff, decide_eq_true_iff] at own
      exact quietEnough.2 ⟨existing, inAlerts, own.1, own.2, of_decide_eq_true after⟩

/-- A silence longer than `quiet` is announced unless an alert of it is there. -/
theorem announce_of_silent {quiet : Int} {now : Timestamp} {alerts : List AlertRow} {row : SeenRow} {seen : Timestamp}
    (held : row.lastSeenAt = some seen) (older : seen * 1000 + quiet < now * 1000)
    (none_ : (silent row.id alerts).filter (isFresh row.lastSeenAt) = []) :
    (announce quiet now alerts row).isSome := by
  unfold announce
  rw [held]
  dsimp only
  rw [if_pos]
  · rfl
  refine ⟨?_, ?_⟩
  · exact quiet_enough (Int.ediv_mul_le quiet (by decide)) older
  · rintro ⟨existing, inAlerts, own, code, after⟩
    refine List.filter_eq_nil_iff.mp none_ existing (List.mem_filter.mpr ⟨inAlerts, ?_⟩) ?_
    · rw [own, code]
      simp
    · rw [held]
      exact decide_eq_true after

theorem silent_filterMap {select : SeenRow → Option AlertRow}
    (keyed : ∀ row alert, select row = some alert → alert.deviceId = row.id ∧ alert.code = "agent_silent")
    {rows : List SeenRow} (unique : (rows.map SeenRow.id).Nodup) (device : Uuid) :
    silent device (rows.filterMap select) = ((rows.find? fun row => row.id = device).bind select).toList := by
  have own : ∀ row, silent device ((select row).toList) = if row.id = device then (select row).toList else [] := by
    intro row
    cases selected : select row with
    | none => split <;> rfl
    | some alert =>
      obtain ⟨id, code⟩ := keyed row alert selected
      unfold silent
      split
      case isTrue same => simp [id, code, same]
      case isFalse other => simp [id, other]
  induction rows with
  | nil => rfl
  | cons row rest ih =>
    rw [List.map_cons, List.nodup_cons] at unique
    have split_ : (row :: rest).filterMap select = (select row).toList ++ rest.filterMap select := by
      rw [List.filterMap_cons]
      cases select row <;> rfl
    rw [split_, silent_append, own, ih unique.2, List.find?_cons]
    by_cases same : row.id = device
    · have absent : rest.find? (fun row => row.id = device) = none := by
        rw [List.find?_eq_none]
        intro other member
        simp only [decide_eq_true_eq]
        exact fun equal => unique.1 (List.mem_map.mpr ⟨other, member, equal.trans same.symm⟩)
      rw [if_pos same, absent, decide_eq_true same]
      simp
    · rw [if_neg same, decide_eq_false same]
      rfl

/-- The rows for a device are what its own row selects. -/
theorem silent_raise {quiet : Int} (positive : 0 < quiet) (now : Timestamp) (devices : Table SeenRow.id)
    (alerts : List AlertRow) (device : Uuid) :
    silent device (raiseSilenceAlerts quiet now devices alerts) =
      ((devices.find device).bind (announce quiet now alerts)).toList := by
  unfold raiseSilenceAlerts
  rw [if_neg (not_le.mpr positive)]
  exact silent_filterMap (fun row alert selected => (announce_facts positive selected).1) devices.unique device

/-! ## What a step does -/

/-- What a commit of a gateway inserts for the device, and what stays open. -/
theorem silent_split (device : Uuid) (gateway : Nat) (inFlight : List (Nat × List AlertRow)) :
    (silent device ((inFlight.filter fun open_ => open_.1 = gateway).flatMap Prod.snd)).length +
        (silent device ((inFlight.filter fun open_ => open_.1 ≠ gateway).flatMap Prod.snd)).length =
      (silent device (inFlight.flatMap Prod.snd)).length := by
  induction inFlight with
  | nil => rfl
  | cons open_ rest ih =>
    rw [List.flatMap_cons, silent_append, List.length_append, ← ih]
    by_cases own : open_.1 = gateway
    · rw [List.filter_cons_of_pos (by simpa using own), List.filter_cons_of_neg (by simpa using own),
        List.flatMap_cons, silent_append, List.length_append, Nat.add_assoc]
    · rw [List.filter_cons_of_neg (by simpa using own), List.filter_cons_of_pos (by simpa using own),
        List.flatMap_cons, silent_append, List.length_append]
      omega

theorem mem_committed {inFlight : List (Nat × List AlertRow)} {keep : Nat × List AlertRow → Bool}
    {row : AlertRow} (member : row ∈ silent device ((inFlight.filter keep).flatMap Prod.snd)) :
    row ∈ silent device (inFlight.flatMap Prod.snd) := by
  obtain ⟨inside, own⟩ := List.mem_filter.mp member
  obtain ⟨open_, memberOpen, inRows⟩ := List.mem_flatMap.mp inside
  exact List.mem_filter.mpr ⟨List.mem_flatMap.mpr ⟨open_, (List.mem_filter.mp memberOpen).1, inRows⟩, own⟩

/-- Alerts of the present silence, inserted or about to be. -/
def activity (device : Uuid) (watchdog : Watchdog) : Nat :=
  (fresh device watchdog).length + (pending device watchdog).length

/-- At most one alert of the present silence, and what is about to be inserted is of it. -/
structure Single (device : Uuid) (watchdog : Watchdog) : Prop where
  one : activity device watchdog ≤ 1
  flying : ∀ row ∈ pending device watchdog, isFresh (lastSeen device watchdog) row = true

/-- A commit makes fresh alerts of what was pending. -/
theorem commit_facts (gateway : Nat) (single : ∀ row ∈ pending device watchdog, isFresh (lastSeen device watchdog) row = true) :
    activity device (step watchdog (.commit gateway)) = activity device watchdog ∧
      stale device (step watchdog (.commit gateway)) = stale device watchdog := by
  have committed : inserted device (step watchdog (.commit gateway)) = inserted device watchdog ++
      silent device ((watchdog.inFlight.filter fun open_ => open_.1 = gateway).flatMap Prod.snd) := silent_append ..
  have all : ∀ row ∈ silent device ((watchdog.inFlight.filter fun open_ => open_.1 = gateway).flatMap Prod.snd),
      isFresh (lastSeen device watchdog) row = true :=
    fun row member => single row (mem_committed member)
  have same : lastSeen device (step watchdog (.commit gateway)) = lastSeen device watchdog := rfl
  constructor
  · unfold activity fresh
    rw [committed, same, List.filter_append, List.filter_eq_self.mpr all, List.length_append, Nat.add_assoc]
    exact congrArg _ (silent_split device gateway watchdog.inFlight)
  · have none_ : (silent device ((watchdog.inFlight.filter fun open_ => open_.1 = gateway).flatMap Prod.snd)).filter
        (fun row => !isFresh (lastSeen device watchdog) row) = [] := by
      rw [List.filter_eq_nil_iff]
      intro row member
      rw [all row member]
      exact Bool.false_ne_true
    unfold stale
    rw [committed, same, List.filter_append, none_, List.append_nil]

theorem read_busy {gateway : Nat} (busy : watchdog.busy gateway = true) (quiet : Int) (now : Timestamp) :
    step watchdog (.read gateway quiet now) = watchdog := if_pos busy

theorem read_free {gateway : Nat} (free : watchdog.busy gateway = false) (quiet : Int) (now : Timestamp) :
    step watchdog (.read gateway quiet now) =
      { watchdog with
        inFlight := (gateway, raiseSilenceAlerts quiet now watchdog.devices watchdog.alerts) :: watchdog.inFlight } :=
  if_neg (Bool.not_eq_true _ ▸ free)

/-- What a tick that finds its gateway free is about to insert for the device. -/
theorem pending_read {gateway : Nat} {quiet : Int} (free : watchdog.busy gateway = false) (positive : 0 < quiet)
    (now : Timestamp) :
    pending device (step watchdog (.read gateway quiet now)) =
      ((watchdog.devices.find device).bind (announce quiet now watchdog.alerts)).toList ++ pending device watchdog := by
  rw [read_free free]
  show silent device (raiseSilenceAlerts quiet now watchdog.devices watchdog.alerts ++ _) = _
  rw [silent_append, silent_raise positive]
  rfl

theorem read_same (watchdog : Watchdog) (gateway : Nat) (quiet : Int) (now : Timestamp) :
    (step watchdog (.read gateway quiet now)).devices = watchdog.devices ∧
      (step watchdog (.read gateway quiet now)).alerts = watchdog.alerts := by
  cases busy : watchdog.busy gateway with
  | true => rw [read_busy busy]; exact ⟨rfl, rfl⟩
  | false => rw [read_free busy]; exact ⟨rfl, rfl⟩

theorem fresh_of_same {other : Watchdog} (devices : other.devices = watchdog.devices) (alerts : other.alerts = watchdog.alerts) :
    fresh device other = fresh device watchdog ∧ stale device other = stale device watchdog ∧
      lastSeen device other = lastSeen device watchdog := by
  unfold fresh stale inserted lastSeen
  rw [devices, alerts]
  exact ⟨rfl, rfl, rfl⟩

/-- An accepted record writes no alert, and moves no other device. -/
theorem accept_same (id : Uuid) (received observed : Timestamp)
    (still : lastSeen device (step watchdog (.accept id received observed)) = lastSeen device watchdog) :
    fresh device (step watchdog (.accept id received observed)) = fresh device watchdog ∧
      stale device (step watchdog (.accept id received observed)) = stale device watchdog := by
  unfold fresh stale
  rw [still]
  exact ⟨rfl, rfl⟩

/-- Nothing is lost while the liveness stands still. -/
theorem activity_step {next : Step} (single : Single device watchdog)
    (still : lastSeen device (step watchdog next) = lastSeen device watchdog) :
    activity device watchdog ≤ activity device (step watchdog next) ∧
      stale device (step watchdog next) = stale device watchdog := by
  cases next with
  | accept id received observed =>
    obtain ⟨fresh_, stale_⟩ := accept_same id received observed still
    unfold activity
    rw [fresh_]
    exact ⟨Nat.le_refl _, stale_⟩
  | read gateway quiet now =>
    obtain ⟨devices, alerts⟩ := read_same watchdog gateway quiet now
    obtain ⟨fresh_, stale_, _⟩ := @fresh_of_same device _ _ devices alerts
    refine ⟨?_, stale_⟩
    unfold activity
    rw [fresh_]
    refine Nat.add_le_add_left ?_ _
    cases busy : watchdog.busy gateway with
    | true => rw [read_busy busy]
    | false =>
      rw [read_free busy]
      show _ ≤ (silent device (_ ++ _)).length
      rw [silent_append, List.length_append]
      exact Nat.le_add_left _ _
  | commit gateway =>
    obtain ⟨count, stale_⟩ := commit_facts gateway single.flying
    exact ⟨count.ge, stale_⟩

/-! ## Runs whose steps keep apart -/

/-- The record moves the device's liveness. -/
def Advances (device : Uuid) (watchdog : Watchdog) (next : Step) : Prop :=
  lastSeen device (step watchdog next) ≠ lastSeen device watchdog

/-- A tick begins, and a record that moves the liveness arrives, while no tick is about to announce
the device; the record moves the liveness to the last alert or past it. -/
def Calm (device : Uuid) (watchdog : Watchdog) (next : Step) : Prop :=
  match next with
  | .accept _ _ _ => Advances device watchdog next → pending device watchdog = [] ∧
      ∀ alert ∈ inserted device watchdog, ∀ seen ∈ lastSeen device (step watchdog next), alert.occurredAt ≤ seen
  | .read _ quiet _ => 0 < quiet ∧ pending device watchdog = []
  | .commit _ => True

def CalmRun (device : Uuid) (watchdog : Watchdog) : List Step → Prop
  | [] => True
  | next :: rest => Calm device watchdog next ∧ CalmRun device (step watchdog next) rest

theorem fresh_of_past (past : ∀ alert ∈ inserted device watchdog, ∀ seen ∈ lastSeen device watchdog, alert.occurredAt ≤ seen) :
    fresh device watchdog = [] := by
  refine List.filter_eq_nil_iff.mpr fun alert member after => ?_
  unfold isFresh at after
  obtain ⟨seen, held, later⟩ := (Option.any_eq_true _ _).mp after
  exact absurd (past alert member seen held) (not_le.mpr (of_decide_eq_true later))

theorem single_read {gateway : Nat} {quiet : Int} {now : Timestamp} (single : Single device watchdog)
    (positive : 0 < quiet) (none_ : pending device watchdog = []) :
    Single device (step watchdog (.read gateway quiet now)) := by
  cases busy : watchdog.busy gateway with
  | true =>
    rw [read_busy busy]
    exact single
  | false =>
    obtain ⟨devices, alerts⟩ := read_same watchdog gateway quiet now
    obtain ⟨fresh_, _, seen⟩ := @fresh_of_same device _ _ devices alerts
    have added := @pending_read device _ _ _ busy positive now
    rw [none_, List.append_nil] at added
    have one := single.one
    unfold activity at one
    rw [none_] at one
    cases found : watchdog.devices.find device with
    | none =>
      rw [found] at added
      refine ⟨?_, fun row member => by rw [added] at member; cases member⟩
      unfold activity
      rw [fresh_, added]
      exact one
    | some row =>
      obtain ⟨_, rfl⟩ := Table.find_eq_some_iff.mp found
      rw [found, Option.bind_some] at added
      cases announced : announce quiet now watchdog.alerts row with
      | none =>
        rw [announced] at added
        refine ⟨?_, fun row member => by rw [added] at member; cases member⟩
        unfold activity
        rw [fresh_, added]
        exact one
      | some alert =>
        rw [announced] at added
        have held : lastSeen row.id watchdog = row.lastSeenAt := by
          unfold lastSeen
          rw [found]
          rfl
        obtain ⟨_, after, nothing⟩ := announce_facts positive announced
        refine ⟨?_, fun other member => ?_⟩
        · have empty : fresh row.id watchdog = [] := by
            unfold fresh
            rw [held]
            exact nothing
          unfold activity
          rw [fresh_, empty, added]
          exact Nat.le_refl 1
        · rw [added] at member
          rw [seen, held, List.mem_singleton.mp member]
          exact after

theorem single_step {next : Step} (single : Single device watchdog) (calm : Calm device watchdog next) :
    Single device (step watchdog next) := by
  cases next with
  | accept id received observed =>
    by_cases still : lastSeen device (step watchdog (.accept id received observed)) = lastSeen device watchdog
    · refine ⟨?_, ?_⟩
      · unfold activity
        rw [(accept_same id received observed still).1]
        exact single.one
      · rw [still]
        exact single.flying
    · obtain ⟨none_, past⟩ := calm still
      have empty : fresh device (step watchdog (.accept id received observed)) = [] := fresh_of_past past
      have nothing : pending device (step watchdog (.accept id received observed)) = [] := none_
      refine ⟨?_, fun row member => by rw [nothing] at member; cases member⟩
      unfold activity
      rw [empty, nothing]
      exact Nat.zero_le 1
  | read gateway quiet now => exact single_read single calm.1 calm.2
  | commit gateway =>
    refine ⟨(commit_facts gateway single.flying).1.symm ▸ single.one, fun row member => ?_⟩
    exact single.flying row (mem_committed member)

/-! ## A stretch in which the liveness stands still -/

/-- No step moves the device's liveness. -/
def Still (device : Uuid) (watchdog : Watchdog) : List Step → Prop
  | [] => True
  | next :: rest => ¬ Advances device watchdog next ∧ Still device (step watchdog next) rest

theorem single_run {steps : List Step} (single : Single device watchdog) (calm : CalmRun device watchdog steps) :
    Single device (run watchdog steps) := by
  induction steps generalizing watchdog with
  | nil => exact single
  | cons next rest ih => exact ih (single_step single calm.1) calm.2

theorem activity_run {steps : List Step} (single : Single device watchdog) (calm : CalmRun device watchdog steps)
    (still : Still device watchdog steps) :
    activity device watchdog ≤ activity device (run watchdog steps) ∧
      stale device (run watchdog steps) = stale device watchdog := by
  induction steps generalizing watchdog with
  | nil => exact ⟨Nat.le_refl _, rfl⟩
  | cons next rest ih =>
    obtain ⟨count, stale_⟩ := activity_step single (not_not.mp still.1)
    obtain ⟨later, staleLater⟩ := ih (single_step single calm.1) calm.2 still.2
    exact ⟨count.trans later, staleLater.trans stale_⟩

theorem run_append (watchdog : Watchdog) (steps later : List Step) :
    run watchdog (steps ++ later) = run (run watchdog steps) later := List.foldl_append

theorem calm_append {steps later : List Step} (calm : CalmRun device watchdog (steps ++ later)) :
    CalmRun device watchdog steps ∧ CalmRun device (run watchdog steps) later := by
  induction steps generalizing watchdog with
  | nil => exact ⟨trivial, calm⟩
  | cons next rest ih =>
    obtain ⟨first, second⟩ := ih calm.2
    exact ⟨⟨calm.1, first⟩, second⟩

theorem still_append {steps later : List Step} (still : Still device watchdog (steps ++ later)) :
    Still device watchdog steps ∧ Still device (run watchdog steps) later := by
  induction steps generalizing watchdog with
  | nil => exact ⟨trivial, still⟩
  | cons next rest ih =>
    obtain ⟨first, second⟩ := ih still.2
    exact ⟨⟨still.1, first⟩, second⟩

/-! ## One alert per silence -/

/-- The run stands at its start or has just moved the device's liveness. -/
def Opens (device : Uuid) (watchdog : Watchdog) (before : List Step) : Prop :=
  before = [] ∨ ∃ earlier last, before = earlier ++ [last] ∧ Advances device (run watchdog earlier) last

/-- The tick sees a silence longer than `quiet`, which is in nanoseconds. -/
def SeesSilence (device : Uuid) (watchdog : Watchdog) (quiet : Int) (now : Timestamp) : Prop :=
  ∃ seen ∈ lastSeen device watchdog, seen * 1000 + quiet < now * 1000

/-- What a stretch in which the liveness stands still inserts. -/
structure OncePerSilence (device : Uuid) (devices : Table SeenRow.id) (before during : List Step) : Prop where
  once : (inserted device (run (.start devices) (before ++ during))).length ≤
    (inserted device (run (.start devices) before)).length + 1
  /-- Once a tick has seen the silence and has committed. -/
  told : ∀ earlier gateway quiet now later, during = earlier ++ .read gateway quiet now :: later →
    (run (.start devices) (before ++ earlier)).busy gateway = false →
      SeesSilence device (run (.start devices) (before ++ earlier)) quiet now →
        pending device (run (.start devices) (before ++ during)) = [] →
          (inserted device (run (.start devices) before)).length <
            (inserted device (run (.start devices) (before ++ during))).length

theorem single_start (device : Uuid) (devices : Table SeenRow.id) : Single device (.start devices) :=
  ⟨Nat.zero_le 1, fun _ member => nomatch member⟩

/-- A silence begins without an alert of its own. -/
theorem opened {devices : Table SeenRow.id} {before : List Step} (opens : Opens device (.start devices) before)
    (calm : CalmRun device (.start devices) before) : activity device (run (.start devices) before) = 0 := by
  rcases opens with rfl | ⟨earlier, last, rfl, advances⟩
  · rfl
  obtain ⟨calmLast, _⟩ := (calm_append calm).2
  rw [run_append]
  show activity device (step (run (.start devices) earlier) last) = 0
  cases last with
  | accept id received observed =>
    obtain ⟨none_, past⟩ := calmLast advances
    have empty : fresh device (step (run (.start devices) earlier) (.accept id received observed)) = [] :=
      fresh_of_past past
    have nothing : pending device (step (run (.start devices) earlier) (.accept id received observed)) = [] := none_
    unfold activity
    rw [empty, nothing]
    rfl
  | read gateway quiet now =>
    obtain ⟨devices_, alerts⟩ := read_same (run (.start devices) earlier) gateway quiet now
    exact absurd (@fresh_of_same device _ _ devices_ alerts).2.2 advances
  | commit gateway => exact absurd rfl advances

/-- A tick that sees a silence finds an alert of it, or is about to insert one. -/
theorem activity_of_silence {gateway : Nat} {quiet : Int} {now : Timestamp} (free : watchdog.busy gateway = false)
    (positive : 0 < quiet) (sees : SeesSilence device watchdog quiet now) :
    1 ≤ activity device (step watchdog (.read gateway quiet now)) := by
  obtain ⟨devices, alerts⟩ := read_same watchdog gateway quiet now
  obtain ⟨fresh_, _, _⟩ := @fresh_of_same device _ _ devices alerts
  unfold activity
  rw [fresh_, pending_read free positive, List.length_append]
  cases held : fresh device watchdog with
  | cons alert rest => exact Nat.le_add_right_of_le (Nat.le_add_left 1 rest.length)
  | nil =>
    obtain ⟨seen, member, older⟩ := sees
    obtain ⟨row, found, seenAt_⟩ := Option.bind_eq_some_iff.mp member
    obtain ⟨_, rfl⟩ := Table.find_eq_some_iff.mp found
    have nothing : (silent row.id watchdog.alerts).filter (isFresh row.lastSeenAt) = [] := by
      unfold fresh lastSeen at held
      rw [found] at held
      exact held
    obtain ⟨alert, announced⟩ := Option.isSome_iff_exists.mp (announce_of_silent seenAt_ older nothing)
    rw [found, Option.bind_some, announced]
    exact Nat.le_add_left_of_le (Nat.le_add_right 1 _)

/-- In a run whose steps keep apart, one alert is inserted for each silence a tick sees. -/
theorem one_alert_per_silence (device : Uuid) (devices : Table SeenRow.id) (before during : List Step)
    (calm : CalmRun device (.start devices) (before ++ during)) (opens : Opens device (.start devices) before)
    (still : Still device (run (.start devices) before) during) : OncePerSilence device devices before during := by
  obtain ⟨calmBefore, calmDuring⟩ := calm_append calm
  have singleBefore := single_run (single_start device devices) calmBefore
  have single := single_run singleBefore calmDuring
  obtain ⟨_, stale_⟩ := activity_run singleBefore calmDuring still
  have atStart := opened opens calmBefore
  have countBefore := fresh_stale device (run (.start devices) before)
  have countAfter := fresh_stale device (run (run (.start devices) before) during)
  rw [stale_] at countAfter
  have one := single.one
  unfold activity at atStart one
  refine ⟨?_, ?_⟩
  · rw [run_append]
    omega
  · rintro earlier gateway quiet now later rfl free sees committed
    obtain ⟨calmEarlier, calmLater⟩ := calm_append calmDuring
    obtain ⟨stillEarlier, stillLater⟩ := still_append still
    rw [run_append] at free sees
    have singleTick := single_run singleBefore calmEarlier
    have told := @activity_of_silence device _ _ _ _ free calmLater.1.1 sees
    have kept := (activity_run (single_step singleTick calmLater.1) calmLater.2 stillLater.2).1
    have whole : run (run (.start devices) before) (earlier ++ .read gateway quiet now :: later) =
        run (step (run (run (.start devices) before) earlier) (.read gateway quiet now)) later := by
      rw [run_append]
      rfl
    rw [run_append] at committed ⊢
    rw [← whole] at kept
    have active := told.trans kept
    unfold activity at active
    rw [committed, List.length_nil] at active
    omega

/-! ## Two runs -/

def oneDevice : Table SeenRow.id := ⟨[⟨7, none⟩], by decide⟩

/-- The device reported at 0, and a tick comes ten minutes later. -/
theorem tick_announces_silence : OncePerSilence 7 oneDevice [.accept 7 0 0]
    [.read 1 300000000000 600000000, .commit 1] :=
  one_alert_per_silence 7 oneDevice [.accept 7 0 0] [.read 1 300000000000 600000000, .commit 1]
    ⟨fun _ => ⟨rfl, fun _ member => nomatch member⟩, ⟨by decide, rfl⟩, trivial, trivial⟩
    (.inr ⟨[], .accept 7 0 0, rfl, by unfold Advances; decide⟩)
    ⟨fun advances => advances rfl, fun advances => advances rfl, trivial⟩

/-- Two gateways read before either commits, and the silence is announced twice. -/
theorem two_ticks_announce_twice :
    ¬ ∀ (device : Uuid) (devices : Table SeenRow.id) (before during : List Step),
      Opens device (.start devices) before → Still device (run (.start devices) before) during →
        OncePerSilence device devices before during := by
  intro claimed
  have single := claimed 7 oneDevice [.accept 7 0 0]
    [.read 1 300000000000 600000000, .read 2 300000000000 600000000, .commit 1, .commit 2]
    (.inr ⟨[], .accept 7 0 0, rfl, by unfold Advances; decide⟩)
    ⟨fun advances => advances rfl, fun advances => advances rfl, fun advances => advances rfl,
      fun advances => advances rfl, trivial⟩
  exact absurd single.once (by decide)

end VodogeCloud.Guarantees.SilenceEpisodes
