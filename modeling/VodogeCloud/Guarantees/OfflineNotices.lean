import VodogeCloud.Source.AbsentDevices

/-!
# When a device is announced offline

An absence is measured from the first `Left` since a turn of `Report` last found the device
bound, through any reconnects that no turn saw.
-/

set_option autoImplicit false

namespace VodogeCloud.Guarantees.OfflineNotices

open VodogeCloud.Source.Postgres VodogeCloud.Source.ServeDevice VodogeCloud.Source.AbsentDevices

variable {device : String}

def isBound (device : String) (watch : Watch) : Bool := (watch.hub.lookup device).isSome

/-! ## What has happened since the device was found bound -/

/-- The step is a turn that finds the device bound. -/
def finds (device : String) (watch : Watch) : Step → Bool
  | .turn other _ => other = device && isBound device watch
  | _ => false

/-- The steps of a run since a turn last found the device bound, with the states before them. -/
def sinceFound (device : String) (steps : List Step) : List (Watch × Step) :=
  (steps.foldl (fun (state : Watch × List (Watch × Step)) next =>
    ((step state.1 next).1, if finds device state.1 next then [] else state.2 ++ [(state.1, next)]))
    (Watch.start, [])).2

def leftOf (device : String) : Step → Option (Uuid × Timestamp)
  | .left other now => if other.commonName = device then some (other.tenantId, now) else none
  | _ => none

/-- The first `Left` since a turn last found the device bound. -/
def firstLeft (device : String) (steps : List Step) : Option (Uuid × Timestamp) :=
  (sinceFound device steps).findSome? fun entry => leftOf device entry.2

/-- The device has been announced since a turn last found it bound. -/
def announcedSince (device : String) (steps : List Step) : Bool :=
  (sinceFound device steps).any fun entry => (raisedFor device entry.1 entry.2).isSome

theorem run_snoc (watch : Watch) (steps : List Step) (next : Step) :
    run watch (steps ++ [next]) = (step (run watch steps) next).1 := by
  unfold run
  rw [List.foldl_append]
  rfl

theorem run_append (watch : Watch) (steps later : List Step) :
    run watch (steps ++ later) = run (run watch steps) later := by
  unfold run
  exact List.foldl_append

theorem sinceFound_snoc (device : String) (steps : List Step) (next : Step) :
    sinceFound device (steps ++ [next]) =
      if finds device (run Watch.start steps) next then []
      else sinceFound device steps ++ [(run Watch.start steps, next)] := by
  have states : ∀ state : Watch × List (Watch × Step),
      (steps.foldl (fun (state : Watch × List (Watch × Step)) next =>
        ((step state.1 next).1, if finds device state.1 next then [] else state.2 ++ [(state.1, next)])) state).1 =
          run state.1 steps := by
    induction steps with
    | nil => exact fun _ => rfl
    | cons first rest ih => exact fun state => ih _
  unfold sinceFound
  rw [List.foldl_append, List.foldl_cons, List.foldl_nil, states]

theorem firstLeft_snoc (device : String) (steps : List Step) (next : Step) :
    firstLeft device (steps ++ [next]) =
      if finds device (run Watch.start steps) next then none
      else (firstLeft device steps).or (leftOf device next) := by
  unfold firstLeft
  rw [sinceFound_snoc]
  split
  · rfl
  · rw [List.findSome?_append, List.findSome?_singleton]

theorem announcedSince_snoc (device : String) (steps : List Step) (next : Step) :
    announcedSince device (steps ++ [next]) =
      (!finds device (run Watch.start steps) next &&
        (announcedSince device steps || (raisedFor device (run Watch.start steps) next).isSome)) := by
  unfold announcedSince
  rw [sinceFound_snoc]
  cases finds device (run Watch.start steps) next with
  | true => rfl
  | false => simp [List.any_append]

/-! ## What a step does to the entry of a device -/

variable {watch : Watch} {now : Timestamp}

theorem turn_other {other : String} (distinct : other ≠ device) (now : Timestamp) (watch : Watch) :
    (turn other now watch).1.away device = watch.away device := by
  have elsewhere : ∀ value, Function.update watch.away other value device = watch.away device :=
    fun value => Function.update_of_ne (Ne.symm distinct) value watch.away
  unfold turn
  split
  · rfl
  split
  · exact elsewhere none
  split
  · rfl
  · exact elsewhere _

theorem turn_bound (bound : isBound device watch = true) :
    (turn device now watch).1.away device = none ∧ (turn device now watch).2 = none := by
  unfold isBound at bound
  unfold turn
  cases held : watch.away device with
  | none => exact ⟨held, rfl⟩
  | some absence =>
    dsimp only
    rw [if_pos bound]
    exact ⟨Function.update_self .., rfl⟩

/-- The turn announces the absence. -/
def due (absence : Absence) (now : Timestamp) : Bool := !absence.told && decide (absence.since + offlineGrace ≤ now)

theorem turn_unbound {absence : Absence} (unbound : isBound device watch = false)
    (held : watch.away device = some absence) :
    (turn device now watch).2 = (if due absence now then some (offlineNotice device absence now) else none) ∧
      (turn device now watch).1.away device = some { absence with told := absence.told || due absence now } := by
  have early : (absence.told || decide (now - absence.since < offlineGrace)) = !due absence now := by
    unfold due
    rw [Bool.not_and, Bool.not_not, ← decide_not]
    exact congrArg _ (decide_eq_decide.mpr (by rw [not_le]; exact sub_lt_iff_lt_add'))
  unfold isBound at unbound
  unfold turn
  rw [held]
  dsimp only
  rw [if_neg (Bool.not_eq_true _ ▸ unbound)]
  cases isDue : due absence now with
  | true =>
    rw [isDue] at early
    rw [if_neg (by simpa using early)]
    refine ⟨rfl, ?_⟩
    rw [Bool.or_true]
    exact Function.update_self ..
  | false =>
    rw [isDue] at early
    rw [if_pos (by simpa using early), Bool.or_false]
    exact ⟨rfl, held⟩

theorem raisedFor_turn (device : String) (now : Timestamp) (watch : Watch) :
    raisedFor device watch (.turn device now) = (turn device now watch).2 := if_pos rfl

theorem raisedFor_other {other : String} (distinct : other ≠ device) (now : Timestamp) (watch : Watch) :
    raisedFor device watch (.turn other now) = none := if_neg distinct

theorem raisedFor_none (absent : watch.away device = none) (next : Step) : raisedFor device watch next = none := by
  cases next with
  | hub | left => rfl
  | turn other now =>
    by_cases same : other = device
    · subst same
      rw [raisedFor_turn]
      unfold turn
      rw [absent]
    · exact raisedFor_other same now watch

/-- A step that is no turn for the device, and no `Left` of it, keeps the entry. -/
theorem step_away_kept {next : Step} (notLeft : leftOf device next = none)
    (notTurn : ∀ now, next ≠ .turn device now) : (step watch next).1.away device = watch.away device := by
  cases next with
  | hub call => rfl
  | left other now =>
    have distinct : other.commonName ≠ device := fun same =>
      absurd ((if_pos same).symm.trans notLeft) (Option.some_ne_none (other.tenantId, now))
    show left other now watch.away device = watch.away device
    unfold left
    split
    · rfl
    · exact Function.update_of_ne (Ne.symm distinct) _ _
  | turn other now => exact turn_other (fun same => notTurn now (congrArg (Step.turn · now) same)) now watch

theorem step_away_left (other : Device) (now : Timestamp) (watch : Watch) :
    (step watch (.left other now)).1.away other.commonName =
      (watch.away other.commonName).or (some ⟨other.tenantId, now, false⟩) := by
  show left other now watch.away other.commonName = _
  unfold left
  cases held : watch.away other.commonName with
  | none => exact Function.update_self ..
  | some absence => exact held

/-! ## The map follows it -/

/-- What the map holds for a device is what has happened since it was found bound. -/
structure Follows (device : String) (steps : List Step) : Prop where
  entry : (run Watch.start steps).away device =
    (firstLeft device steps).map fun left => ⟨left.1, left.2, announcedSince device steps⟩
  announced : firstLeft device steps = none → announcedSince device steps = false

theorem follows_left {steps : List Step} {other : Device} {now : Timestamp} (same : other.commonName = device)
    (follows : Follows device steps) : Follows device (steps ++ [.left other now]) := by
  have notFound : finds device (run Watch.start steps) (.left other now) = false := rfl
  have none_ : raisedFor device (run Watch.start steps) (.left other now) = none := rfl
  have own : leftOf device (.left other now) = some (other.tenantId, now) := if_pos same
  have first := firstLeft_snoc device steps (.left other now)
  have told := announcedSince_snoc device steps (.left other now)
  rw [notFound, own] at first
  rw [notFound, none_] at told
  simp only [Bool.false_eq_true, if_false, Bool.not_false, Bool.true_and, Option.isSome_none, Bool.or_false] at first told
  subst same
  refine ⟨?_, fun nothing => ?_⟩
  · rw [run_snoc, step_away_left, follows.entry, first, told]
    cases held : firstLeft other.commonName steps with
    | none => rw [follows.announced held]; rfl
    | some left => rfl
  · rw [first] at nothing
    cases held : firstLeft other.commonName steps with
    | none => rw [held] at nothing; cases nothing
    | some left => rw [held] at nothing; cases nothing

theorem follows_turn {steps : List Step} {now : Timestamp} (follows : Follows device steps) :
    Follows device (steps ++ [.turn device now]) := by
  have first := firstLeft_snoc device steps (.turn device now)
  have told := announcedSince_snoc device steps (.turn device now)
  have found : finds device (run Watch.start steps) (.turn device now) = isBound device (run Watch.start steps) := by
    simp [finds]
  have own : leftOf device (.turn device now) = none := rfl
  rw [found, own, Option.or_none] at first
  rw [found, raisedFor_turn] at told
  cases bound : isBound device (run Watch.start steps) with
  | true =>
    rw [bound, if_pos rfl] at first
    rw [bound, Bool.not_true, Bool.false_and] at told
    exact ⟨by rw [run_snoc, first]; exact (turn_bound bound).1, fun _ => told⟩
  | false =>
    rw [bound, if_neg Bool.false_ne_true] at first
    rw [bound, Bool.not_false, Bool.true_and] at told
    have entry := follows.entry
    cases held : firstLeft device steps with
    | none =>
      rw [held, Option.map_none] at entry
      have none_ := raisedFor_none entry (.turn device now)
      rw [raisedFor_turn] at none_
      rw [none_, follows.announced held] at told
      refine ⟨?_, fun _ => told⟩
      rw [run_snoc, first, held, Option.map_none]
      show (turn device now (run Watch.start steps)).1.away device = none
      unfold turn
      rw [entry]
      exact entry
    | some left =>
      rw [held, Option.map_some] at entry
      obtain ⟨raised, kept⟩ := @turn_unbound device (run Watch.start steps) now _ bound entry
      refine ⟨?_, fun nothing => by rw [first, held] at nothing; cases nothing⟩
      rw [run_snoc, first, held, told, raised]
      refine kept.trans ?_
      cases due ⟨left.1, left.2, announcedSince device steps⟩ now <;> rfl

theorem follows_other {steps : List Step} {next : Step} (notLeft : leftOf device next = none)
    (notTurn : ∀ now, next ≠ .turn device now) (follows : Follows device steps) :
    Follows device (steps ++ [next]) := by
  have notFound : finds device (run Watch.start steps) next = false := by
    cases next with
    | hub | left => rfl
    | turn other now =>
      have distinct : other ≠ device := fun same => notTurn now (congrArg (Step.turn · now) same)
      exact Bool.and_eq_false_iff.mpr (.inl (decide_eq_false distinct))
  have none_ : raisedFor device (run Watch.start steps) next = none := by
    cases next with
    | hub | left => rfl
    | turn other now => exact raisedFor_other (fun same => notTurn now (congrArg (Step.turn · now) same)) now _
  have first := firstLeft_snoc device steps next
  have told := announcedSince_snoc device steps next
  rw [notFound, if_neg Bool.false_ne_true, notLeft, Option.or_none] at first
  rw [notFound, none_, Bool.not_false, Bool.true_and, Option.isSome_none, Bool.or_false] at told
  refine ⟨?_, fun nothing => ?_⟩
  · rw [run_snoc, step_away_kept notLeft notTurn, first, told]
    exact follows.entry
  · rw [told]
    exact follows.announced (first ▸ nothing)

theorem follows_step {steps : List Step} (follows : Follows device steps) (next : Step) :
    Follows device (steps ++ [next]) := by
  cases next with
  | hub call => exact follows_other rfl (fun _ same => by cases same) follows
  | left other now =>
    by_cases same : other.commonName = device
    · exact follows_left same follows
    · exact follows_other (if_neg same) (fun _ same => by cases same) follows
  | turn other now =>
    by_cases same : other = device
    · exact same ▸ follows_turn (same ▸ follows)
    · exact follows_other rfl (fun _ equal => same (by cases equal; rfl)) follows

theorem follows_run (device : String) (steps : List Step) : Follows device steps := by
  induction steps using List.reverseRecOn with
  | nil => exact ⟨rfl, fun _ => rfl⟩
  | append_singleton steps next ih => exact follows_step ih next

/-! ## A stretch without a session -/

/-- The device has no bound session before, between and after the steps. -/
def unboundThroughout (device : String) (watch : Watch) : List Step → Bool
  | [] => !isBound device watch
  | next :: rest => !isBound device watch && unboundThroughout device (step watch next).1 rest

theorem unbound_cons {next : Step} {rest : List Step} (unbound : unboundThroughout device watch (next :: rest) = true) :
    isBound device watch = false ∧ unboundThroughout device (step watch next).1 rest = true := by
  unfold unboundThroughout at unbound
  rwa [Bool.and_eq_true, Bool.not_eq_true'] at unbound

theorem unbound_append {steps later : List Step} (unbound : unboundThroughout device watch (steps ++ later) = true) :
    unboundThroughout device watch steps = true ∧ unboundThroughout device (run watch steps) later = true := by
  induction steps generalizing watch with
  | nil =>
    refine ⟨?_, unbound⟩
    cases later with
    | nil => exact unbound
    | cons next rest =>
      unfold unboundThroughout
      rw [(unbound_cons unbound).1]
      rfl
  | cons next rest ih =>
    obtain ⟨now_, after⟩ := unbound_cons unbound
    obtain ⟨through, end_⟩ := ih after
    refine ⟨?_, end_⟩
    unfold unboundThroughout
    rw [now_, through]
    rfl

/-- Who has been told is not told again while the device stays away. -/
theorem told_kept {absence : Absence} {next : Step} (unbound : isBound device watch = false)
    (held : watch.away device = some absence) (told : absence.told = true) :
    raisedFor device watch next = none ∧ (step watch next).1.away device = some absence := by
  cases next with
  | hub call => exact ⟨rfl, held⟩
  | left other now =>
    refine ⟨rfl, ?_⟩
    by_cases same : other.commonName = device
    · subst same
      rw [step_away_left, held]
      rfl
    · have kept : (step watch (.left other now)).1.away device = watch.away device :=
        step_away_kept (if_neg same) fun _ equal => by cases equal
      rw [kept, held]
  | turn other now =>
    by_cases same : other = device
    · subst same
      have notDue : due absence now = false := by
        unfold due
        rw [told]
        rfl
      obtain ⟨raised, kept⟩ := @turn_unbound other watch now _ unbound held
      rw [notDue] at raised kept
      refine ⟨raisedFor_turn other now watch ▸ raised, kept.trans ?_⟩
      rw [Bool.or_false]
    · exact ⟨raisedFor_other same now watch, (turn_other same now watch).trans held⟩

theorem announcements_told {absence : Absence} {steps : List Step} (unbound : unboundThroughout device watch steps = true)
    (held : watch.away device = some absence) (told : absence.told = true) : announcements device watch steps = [] := by
  induction steps generalizing watch with
  | nil => rfl
  | cons next rest ih =>
    obtain ⟨here, after⟩ := unbound_cons unbound
    obtain ⟨none_, kept⟩ := @told_kept device watch _ next here held told
    unfold announcements
    rw [none_, ih after kept]
    rfl

/-- Only a turn that leaves the entry told raises anything. -/
theorem told_of_raised {next : Step} {notice : Notice} (unbound : isBound device watch = false)
    (raised : raisedFor device watch next = some notice) :
    ∃ absence, (step watch next).1.away device = some absence ∧ absence.told = true := by
  cases next with
  | hub | left => cases raised
  | turn other now =>
    by_cases same : other = device
    · subst same
      rw [raisedFor_turn] at raised
      cases held : watch.away other with
      | none =>
        unfold turn at raised
        rw [held] at raised
        cases raised
      | some absence =>
        obtain ⟨value, kept⟩ := @turn_unbound other watch now _ unbound held
        rw [raised] at value
        refine ⟨_, kept, ?_⟩
        cases isDue : due absence now with
        | true => exact Bool.or_true _
        | false => rw [isDue] at value; cases value
    · rw [raisedFor_other same] at raised
      cases raised

theorem announcements_le_one {steps : List Step} (unbound : unboundThroughout device watch steps = true) :
    (announcements device watch steps).length ≤ 1 := by
  induction steps generalizing watch with
  | nil => exact Nat.zero_le 1
  | cons next rest ih =>
    obtain ⟨here, after⟩ := unbound_cons unbound
    unfold announcements
    cases raised : raisedFor device watch next with
    | none => exact ih after
    | some notice =>
      obtain ⟨absence, held, told⟩ := told_of_raised here raised
      rw [announcements_told after held told]
      exact Nat.le_refl 1

theorem announcements_append (steps later : List Step) :
    announcements device watch (steps ++ later) =
      announcements device watch steps ++ announcements device (run watch steps) later := by
  induction steps generalizing watch with
  | nil => rfl
  | cons next rest ih =>
    show _ ++ announcements device (step watch next).1 (rest ++ later) = (_ ++ _) ++ _
    rw [ih, List.append_assoc]
    rfl

/-- In a stretch without a session nothing is forgotten. -/
theorem announcedSince_append {before during : List Step}
    (unbound : unboundThroughout device (run Watch.start before) during = true) :
    announcedSince device (before ++ during) =
      (announcedSince device before || !(announcements device (run Watch.start before) during).isEmpty) := by
  induction during generalizing before with
  | nil =>
    rw [List.append_nil]
    exact (Bool.or_false _).symm
  | cons next rest ih =>
    obtain ⟨here, after⟩ := unbound_cons unbound
    rw [← run_snoc] at after
    have notFound : finds device (run Watch.start before) next = false := by
      cases next with
      | hub | left => rfl
      | turn other now =>
        unfold finds
        dsimp only
        rw [here, Bool.and_false]
    have first : announcements device (run Watch.start before) (next :: rest) =
        (raisedFor device (run Watch.start before) next).toList ++
          announcements device (step (run Watch.start before) next).1 rest := rfl
    rw [List.append_cons, ih after, announcedSince_snoc, notFound, run_snoc, first]
    cases raisedFor device (run Watch.start before) next <;> simp

/-- A turn for a device without a session announces it once the grace has run out, unless it has
been announced since it was found bound. -/
theorem raised_iff {steps : List Step} (unbound : isBound device (run Watch.start steps) = false) :
    (raisedFor device (run Watch.start steps) (.turn device now)).isSome ↔
      announcedSince device steps = false ∧ ∃ left ∈ firstLeft device steps, left.2 + offlineGrace ≤ now := by
  have entry := (follows_run device steps).entry
  cases held : firstLeft device steps with
  | none =>
    rw [held, Option.map_none] at entry
    rw [raisedFor_none entry]
    exact iff_of_false Bool.false_ne_true fun both => nomatch both.2
  | some left =>
    rw [held, Option.map_some] at entry
    have value := (@turn_unbound _ _ now _ unbound entry).1
    have isDue : due ⟨left.1, left.2, announcedSince device steps⟩ now = true ↔
        announcedSince device steps = false ∧ left.2 + offlineGrace ≤ now := by
      unfold due
      rw [Bool.and_eq_true, Bool.not_eq_true', decide_eq_true_iff]
    rw [raisedFor_turn, value, Option.isSome_ite, isDue]
    exact and_congr_right fun _ => ⟨fun late => ⟨left, rfl, late⟩, fun ⟨_, same, late⟩ => Option.some.inj same ▸ late⟩

/-- What a run raises in a stretch without a session of the device. -/
structure AnnouncedOnce (device : String) (before during : List Step) : Prop where
  /-- Never twice. -/
  once : (announcements device (run Watch.start before) during).length ≤ 1
  /-- Never before the grace has run out from the first `Left` since the device was found bound. -/
  late : ∀ earlier now later, during = earlier ++ .turn device now :: later →
    (raisedFor device (run Watch.start (before ++ earlier)) (.turn device now)).isSome →
      ∃ left ∈ firstLeft device (before ++ earlier), left.2 + offlineGrace ≤ now
  /-- Once, when a turn comes that late and the device has not been announced since it was found bound. -/
  told : announcedSince device before = false → ∀ earlier now later, during = earlier ++ .turn device now :: later →
    (∃ left ∈ firstLeft device (before ++ earlier), left.2 + offlineGrace ≤ now) →
      (announcements device (run Watch.start before) during).length = 1

/-- In every stretch of a run in which a device has no bound session it is announced at most once,
not before the grace has run out, and once when a turn of `Report` comes after that. -/
theorem absence_announced (device : String) (before during : List Step)
    (unbound : unboundThroughout device (run Watch.start before) during = true) :
    AnnouncedOnce device before during := by
  refine ⟨announcements_le_one unbound, ?_, ?_⟩
  · rintro earlier now later rfl raised
    have here := (unbound_append unbound).2
    rw [← run_append] at here
    exact ((raised_iff (unbound_cons here).1).mp raised).2
  · rintro fresh earlier now later rfl late
    obtain ⟨through, here⟩ := unbound_append unbound
    rw [← run_append] at here
    refine Nat.le_antisymm (announcements_le_one unbound) (List.length_pos_iff.mpr fun nothing => ?_)
    rw [announcements_append, List.append_eq_nil_iff] at nothing
    obtain ⟨before_, after⟩ := nothing
    have stillFresh := announcedSince_append through
    rw [fresh, before_, List.isEmpty_nil, Bool.not_true, Bool.or_false] at stillFresh
    have raised := (raised_iff (unbound_cons here).1).mpr ⟨stillFresh, late⟩
    have first : announcements device (run Watch.start (before ++ earlier)) (.turn device now :: later) =
        (raisedFor device (run Watch.start (before ++ earlier)) (.turn device now)).toList ++
          announcements device (step (run Watch.start (before ++ earlier)) (.turn device now)).1 later := rfl
    rw [← run_append, first, List.append_eq_nil_iff] at after
    rw [Option.toList_eq_nil_iff.mp after.1] at raised
    cases raised

/-! ## Two runs -/

def kiosk : Device := ⟨1, 2, "device-1"⟩

/-- Gone at 0 and not back by the turn at 90 s. -/
theorem absence_announced_once : AnnouncedOnce "device-1" [] [.left kiosk 0, .turn "device-1" 90000000] :=
  absence_announced "device-1" [] [.left kiosk 0, .turn "device-1" 90000000] (by decide)

/-- Gone at 0, back at 30 s, gone again at 60 s, and no turn before 90 s. -/
def flapped : List Step :=
  [.hub (.bind ⟨"first", kiosk, 0⟩), .hub (.unbind "first"), .left kiosk 0,
    .hub (.bind ⟨"second", kiosk, 30000000⟩), .hub (.unbind "second")]

/-- An absence of forty seconds is announced after thirty. -/
theorem short_absence_announced :
    ¬ ∀ (device : Device) (before rest : List Step) (began : Timestamp) (next : Connection), next.device = device →
      unboundThroughout device.commonName (run Watch.start before) (.left device began :: rest) = true →
        next.lastPacketAt - began < offlineGrace →
          announcements device.commonName (run Watch.start before) (.left device began :: rest) = [] := by
  intro claimed
  have silent := claimed kiosk flapped [.turn "device-1" 90000000] 60000000 ⟨"third", kiosk, 100000000⟩ rfl
    (by decide) (by decide)
  exact absurd (congrArg List.length silent) (by decide)

end VodogeCloud.Guarantees.OfflineNotices
