import Mathlib.Data.Finset.Image
import VodogeCloud.Lib.Calls
import VodogeCloud.Source.Uptime

/-!
# What the table of reachable minutes says

A bit is set by a call of `Seen` in its own minute, hour and device, and a count is a number
of such bits, so no row says more than was seen, whatever fails, expires or is counted twice.
The first `Close` of an hour finds every bit of it, and where that count is saved the row says
exactly what was seen.
-/

set_option autoImplicit false

namespace VodogeCloud.Guarantees.UptimeCounts

open VodogeCloud.Lib VodogeCloud.Lib.CivilTime VodogeCloud.Source.Postgres VodogeCloud.Source.Uptime
open VodogeCloud.Source.NetUrl (before after before_append after_append)

/-! ## Keys -/

theorem stamp_injective {a b : Int} (same : stamp a = stamp b) : a = b := by
  have month := ofDays_bounds (a / 24)
  have month' := ofDays_bounds (b / 24)
  have hours : (padded 2 (a % 24).toNat).length = (padded 2 (b % 24).toNat).length := by
    rw [length_padded (by omega), length_padded (by omega)]
  have days : (padded 2 (Date.ofDays (a / 24)).day.toNat).length = (padded 2 (Date.ofDays (b / 24)).day.toNat).length := by
    rw [length_padded (by omega), length_padded (by omega)]
  have months : (padded 2 (Date.ofDays (a / 24)).month.toNat).length =
      (padded 2 (Date.ofDays (b / 24)).month.toNat).length := by
    rw [length_padded (by omega), length_padded (by omega)]
  unfold stamp at same
  dsimp only at same
  obtain ⟨year, same⟩ := List.append_inj' same (by
    rw [List.length_append, List.length_append, List.length_append, List.length_append, months, days, hours])
  obtain ⟨month_, same⟩ := List.append_inj same months
  obtain ⟨day_, hour_⟩ := List.append_inj same days
  have dates : Date.ofDays (a / 24) = Date.ofDays (b / 24) := by
    have year_ := yearText_injective year
    have sameMonth := padded_injective month_
    have sameDay := padded_injective day_
    rw [Date.mk.injEq]
    exact ⟨year_, by omega, by omega⟩
  have numbers := congrArg Date.toDays dates
  rw [toDays_ofDays, toDays_ofDays] at numbers
  have sameHour := padded_injective hour_
  omega

theorem stamp_colonless (hour : Int) : ':' ∉ stamp hour := by
  have digits : ∀ width n, ':' ∉ padded width n := fun width n member =>
    absurd (padded_digits width n ':' member) (by decide)
  intro member
  unfold stamp at member
  dsimp only at member
  rcases List.mem_append.mp member with inYear | member
  · unfold yearText at inYear
    split at inYear
    · rcases List.mem_cons.mp inYear with same | member
      · cases same
      · exact digits _ _ member
    · exact digits _ _ inYear
  · rcases List.mem_append.mp member with inMonth | member
    · exact digits _ _ inMonth
    · rcases List.mem_append.mp member with inDay | inHour
      · exact digits _ _ inDay
      · exact digits _ _ inHour

/-- Two texts are cut alike at the last mark. -/
theorem last_mark_inj {mark : Char} {a b rest rest' : List Char} (free : mark ∉ rest) (free' : mark ∉ rest')
    (same : a ++ mark :: rest = b ++ mark :: rest') : a = b ∧ rest = rest' := by
  rcases List.append_eq_append_iff.mp same with ⟨more, rfl, tail⟩ | ⟨more, rfl, tail⟩
  · cases more with
    | nil => exact ⟨(List.append_nil _).symm, (List.cons.inj tail).2⟩
    | cons c more =>
      rw [(List.cons.inj tail).2] at free
      exact absurd (List.mem_append_right _ List.mem_cons_self) free
  · cases more with
    | nil => exact ⟨List.append_nil _, (List.cons.inj tail).2.symm⟩
    | cons c more =>
      rw [(List.cons.inj tail).2] at free'
      exact absurd (List.mem_append_right _ List.mem_cons_self) free'

/-- A bitmap is of one device and one hour. -/
theorem bitmapKey_injective {device device' : String} {hour hour' : Int}
    (same : bitmapKey device hour = bitmapKey device' hour') : device = device' ∧ hour = hour' := by
  have lists := String.ofList_inj.mp same
  obtain ⟨devices, stamps⟩ := last_mark_inj (stamp_colonless hour) (stamp_colonless hour') (List.append_cancel_left lists)
  exact ⟨String.toList_inj.mp devices, stamp_injective stamps⟩

theorem hourKey_injective {hour hour' : Int} (same : hourKey hour = hourKey hour') : hour = hour' :=
  stamp_injective (List.append_cancel_left (String.ofList_inj.mp same))

theorem bitmapKey_ne_hourKey (device : String) (hour hour' : Int) : bitmapKey device hour ≠ hourKey hour' := by
  intro same
  have heads := (List.append_inj (String.ofList_inj.mp same) (by decide)).1
  exact absurd heads (by decide)

/-! ## Rows -/

/-- No row is lost or says less. -/
def Grown (rows later : Rows) : Prop := ∀ key n, rows key = some n → ∃ m, later key = some m ∧ n ≤ m

theorem Grown.refl (rows : Rows) : Grown rows rows := fun _ n held => ⟨n, held, Nat.le_refl n⟩

theorem Grown.trans {rows middle later : Rows} (first : Grown rows middle) (second : Grown middle later) :
    Grown rows later := by
  intro key n held
  obtain ⟨m, held, more⟩ := first key n held
  obtain ⟨k, held, most⟩ := second key m held
  exact ⟨k, held, more.trans most⟩

section

variable {tenant : Uuid} {rows later : Rows} {bucket : Bucket} {group : List Bucket}

theorem upsert_some (upserted : upsert tenant rows bucket = some later) :
    ∃ device, (uuidIn bucket.deviceId).toOption = some device ∧
      later = Function.update rows (tenant, device, bucket.hour)
        (some ((rows (tenant, device, bucket.hour)).elim bucket.minutes fun old => max old bucket.minutes)) := by
  unfold upsert at upserted
  cases read : (uuidIn bucket.deviceId).toOption with
  | none =>
    rw [read] at upserted
    cases upserted
  | some device =>
    rw [read] at upserted
    cases upserted
    exact ⟨device, rfl, rfl⟩

/-- What one bucket does to the rows. -/
theorem upsert_rows (upserted : upsert tenant rows bucket = some later) :
    ∃ device, (uuidIn bucket.deviceId).toOption = some device ∧ Grown rows later ∧
      (∃ m, later (tenant, device, bucket.hour) = some m ∧ bucket.minutes ≤ m) ∧
      ∀ key n, later key = some n →
        rows key = some n ∨ (key = (tenant, device, bucket.hour) ∧ n = bucket.minutes) := by
  obtain ⟨device, read, rfl⟩ := upsert_some upserted
  have here : ∃ m, (rows (tenant, device, bucket.hour)).elim bucket.minutes (fun old => max old bucket.minutes) = m ∧
      bucket.minutes ≤ m ∧ (∀ old, rows (tenant, device, bucket.hour) = some old → old ≤ m) ∧
      (rows (tenant, device, bucket.hour) = some m ∨ m = bucket.minutes) := by
    cases held : rows (tenant, device, bucket.hour) with
    | none => exact ⟨_, rfl, Nat.le_refl _, fun _ none_ => (by cases none_), Or.inr rfl⟩
    | some old =>
      refine ⟨_, rfl, le_max_right _ _, fun _ same => ?_, ?_⟩
      · rw [← Option.some.inj same]
        exact le_max_left _ _
      · rcases max_choice old bucket.minutes with stays | new
        · exact Or.inl (by rw [Option.elim_some, stays])
        · exact Or.inr new
  obtain ⟨m, value, least, above, origin⟩ := here
  rw [value]
  refine ⟨device, read, ?_, ⟨m, Function.update_self _ _ _, least⟩, ?_⟩
  · intro key n held
    by_cases same : key = (tenant, device, bucket.hour)
    · rw [same] at held ⊢
      exact ⟨m, Function.update_self _ _ _, above n held⟩
    · exact ⟨n, by rw [Function.update_of_ne same, held], Nat.le_refl n⟩
  · intro key n held
    by_cases same : key = (tenant, device, bucket.hour)
    · rw [same, Function.update_self, Option.some.injEq] at held
      rw [same, ← held]
      exact origin.imp_right fun new => ⟨rfl, new⟩
    · rw [Function.update_of_ne same] at held
      exact Or.inl held

/-- What a saved group does to the rows: each bucket is in its row, and what is new is one of
the buckets. -/
theorem foldlM_rows (saved : group.foldlM (upsert tenant) rows = some later) :
    Grown rows later ∧
      (∀ bucket ∈ group, ∃ device, (uuidIn bucket.deviceId).toOption = some device ∧
        ∃ m, later (tenant, device, bucket.hour) = some m ∧ bucket.minutes ≤ m) ∧
      ∀ key n, later key = some n → rows key = some n ∨
        ∃ bucket ∈ group, ∃ device, (uuidIn bucket.deviceId).toOption = some device ∧
          key = (tenant, device, bucket.hour) ∧ n = bucket.minutes := by
  induction group generalizing rows with
  | nil =>
    cases saved
    exact ⟨Grown.refl _, fun _ member => (by cases member), fun _ _ held => Or.inl held⟩
  | cons bucket group ih =>
    rw [List.foldlM_cons] at saved
    cases upserted : upsert tenant rows bucket with
    | none =>
      rw [upserted] at saved
      cases saved
    | some middle =>
      rw [upserted] at saved
      obtain ⟨device, read, grown, ⟨m, here, least⟩, origin⟩ := upsert_rows upserted
      obtain ⟨grownRest, inRest, originRest⟩ := ih saved
      refine ⟨grown.trans grownRest, fun other member => ?_, fun key n held => ?_⟩
      · rcases List.mem_cons.mp member with rfl | inGroup
        · obtain ⟨k, there, more⟩ := grownRest _ m here
          exact ⟨device, read, k, there, least.trans more⟩
        · exact inRest other inGroup
      · rcases originRest key n held with before_ | ⟨other, inGroup, rest⟩
        · rcases origin key n before_ with old | ⟨same, new⟩
          · exact Or.inl old
          · exact Or.inr ⟨bucket, List.mem_cons_self, device, read, same, new⟩
        · exact Or.inr ⟨other, List.mem_cons_of_mem _ inGroup, rest⟩

theorem save_some {tenantId : String} (saved : save tenantId group rows = some later) :
    ∃ tenant, (uuidIn tenantId).toOption = some tenant ∧ group.foldlM (upsert tenant) rows = some later := by
  unfold save at saved
  cases read : (uuidIn tenantId).toOption with
  | none =>
    rw [read] at saved
    cases saved
  | some tenant =>
    rw [read] at saved
    exact ⟨tenant, rfl, saved⟩

end

/-! ## Steps of a sweep -/

/-- What one step of `Flush` can be. -/
inductive Sweeps (flush : Flush) (broker : Broker) (rows : Rows) : Reply → Flush → Broker → Rows → Prop
  | unread (before_ : flush.stage = .members) : Sweeps flush broker rows (.members none) flush.next broker rows
  | listed (members : List String) (before_ : flush.stage = .members)
      (all : members.toFinset = broker.sets (hourKey flush.hour)) :
      Sweeps flush broker rows (.members (some members))
        { flush with stage := continueCounting flush.hour [] [] members } broker rows
  | counted (tenantId deviceId : String) (left keys : List String) (buckets : List Bucket)
      (before_ : flush.stage = .counting tenantId deviceId left keys buckets) :
      Sweeps flush broker rows (.counted true)
        { flush with
          stage := continueCounting flush.hour keys
            (buckets ++ bucketOf tenantId deviceId flush.hour (broker.bitCount (bitmapKey deviceId flush.hour))) left }
        broker rows
  | uncounted (tenantId deviceId : String) (left keys : List String) (buckets : List Bucket)
      (before_ : flush.stage = .counting tenantId deviceId left keys buckets) :
      Sweeps flush broker rows (.counted false) flush.next broker rows
  | cleared (outcome : Outcome) (order keys : List String) (buckets : List Bucket)
      (before_ : flush.stage = .clearing keys buckets) (all : order.Perm (buckets.map Bucket.tenantId).dedup) :
      Sweeps flush broker rows (.cleared outcome order) (flush.continueSaving (groupBy order buckets))
        (if outcome.applied then broker.del keys else broker) rows
  | saved (outcome : Outcome) (tenantId : String) (group : List Bucket) (groups : List (String × List Bucket))
      (later : Rows) (before_ : flush.stage = .saving ((tenantId, group) :: groups))
      (written : save tenantId group rows = some later) :
      Sweeps flush broker rows (.saved outcome) (flush.continueSaving groups) broker
        (if outcome.applied then later else rows)
  | unsaved (outcome : Outcome) (tenantId : String) (group : List Bucket) (groups : List (String × List Bucket))
      (before_ : flush.stage = .saving ((tenantId, group) :: groups)) (failed : outcome ≠ .ok) :
      Sweeps flush broker rows (.saved outcome) (flush.continueSaving groups) broker rows

theorem sweeps_of_step {flush flush' : Flush} {broker broker' : Broker} {rows rows' : Rows} {reply : Reply}
    (stepped : flush.step broker rows reply = some (flush', broker', rows')) :
    Sweeps flush broker rows reply flush' broker' rows' := by
  unfold Flush.step at stepped
  cases reply with
  | members found =>
    dsimp only at stepped
    by_cases before_ : flush.stage = .members
    · rw [if_pos before_] at stepped
      cases found with
      | none =>
        cases stepped
        exact .unread before_
      | some members =>
        dsimp only at stepped
        by_cases all : members.Nodup ∧ members.toFinset = broker.sets (hourKey flush.hour)
        · rw [if_pos all] at stepped
          cases stepped
          exact .listed members before_ all.2
        · rw [if_neg all] at stepped
          cases stepped
    · rw [if_neg before_] at stepped
      cases stepped
  | counted ok =>
    dsimp only at stepped
    split at stepped
    · next tenantId deviceId left keys buckets before_ =>
      cases ok with
      | true =>
        cases stepped
        exact .counted tenantId deviceId left keys buckets before_
      | false =>
        cases stepped
        exact .uncounted tenantId deviceId left keys buckets before_
    · cases stepped
  | cleared outcome order =>
    dsimp only at stepped
    split at stepped
    · next keys buckets before_ =>
      by_cases all : order.Perm (buckets.map Bucket.tenantId).dedup
      · rw [if_pos all] at stepped
        cases stepped
        exact .cleared outcome order keys buckets before_ all
      · rw [if_neg all] at stepped
        cases stepped
    · cases stepped
  | saved outcome =>
    dsimp only at stepped
    split at stepped
    · next tenantId group groups before_ =>
      cases written : save tenantId group rows with
      | some later =>
        rw [written] at stepped
        cases stepped
        exact .saved outcome tenantId group groups later before_ written
      | none =>
        rw [written] at stepped
        by_cases fine : outcome = .ok
        · dsimp only at stepped
          rw [if_pos fine] at stepped
          cases stepped
        · dsimp only at stepped
          rw [if_neg fine] at stepped
          cases stepped
          exact .unsaved outcome tenantId group groups before_ fine
    · cases stepped

/-! ## What was seen -/

/-- The minutes of an hour that `Seen` was called in with a text. -/
def textMinutes (calls : List Sighting) (deviceId : String) (hour : Int) : Finset Nat :=
  ((calls.filter fun call => call.deviceId = deviceId ∧ call.hour = hour).map Sighting.minute).toFinset

/-- The minutes of an hour that `Seen` was called in for a device. -/
def passed (calls : List Sighting) (device : Uuid) (hour : Int) : Finset Nat :=
  ((calls.filter fun call => (uuidIn call.deviceId).toOption = some device ∧ call.hour = hour).map
    Sighting.minute).toFinset

section

variable {calls later : List Sighting} {deviceId : String} {device : Uuid} {hour : Int} {minute : Nat}

theorem mem_textMinutes : minute ∈ textMinutes calls deviceId hour ↔
    ∃ call ∈ calls, call.deviceId = deviceId ∧ call.hour = hour ∧ call.minute = minute := by
  unfold textMinutes
  rw [List.mem_toFinset, List.mem_map]
  refine exists_congr fun call => ?_
  rw [List.mem_filter, decide_eq_true_eq, and_assoc, and_assoc]

theorem mem_passed : minute ∈ passed calls device hour ↔
    ∃ call ∈ calls, (uuidIn call.deviceId).toOption = some device ∧ call.hour = hour ∧ call.minute = minute := by
  unfold passed
  rw [List.mem_toFinset, List.mem_map]
  refine exists_congr fun call => ?_
  rw [List.mem_filter, decide_eq_true_eq, and_assoc, and_assoc]

theorem textMinutes_mono (more : calls ⊆ later) :
    textMinutes calls deviceId hour ⊆ textMinutes later deviceId hour := by
  intro minute member
  obtain ⟨call, inside, same⟩ := mem_textMinutes.mp member
  exact mem_textMinutes.mpr ⟨call, more inside, same⟩

theorem passed_mono (more : calls ⊆ later) : passed calls device hour ⊆ passed later device hour := by
  intro minute member
  obtain ⟨call, inside, same⟩ := mem_passed.mp member
  exact mem_passed.mpr ⟨call, more inside, same⟩

/-- A text of a device says no more than the device. -/
theorem textMinutes_subset (read : (uuidIn deviceId).toOption = some device) :
    textMinutes calls deviceId hour ⊆ passed calls device hour := by
  intro minute member
  obtain ⟨call, inside, text, same⟩ := mem_textMinutes.mp member
  exact mem_passed.mpr ⟨call, inside, by rw [text, read], same⟩

end

/-- The calls of `Seen` so far. -/
def callsOf (recorder : Recorder) : List Sighting := recorder.sightings.map Prod.fst

/-- The calls of `Seen` an event makes. -/
def sightingsOf : Event → List Sighting
  | .seen sighting => [sighting]
  | _ => []

section

variable {recorder later : Recorder} {event : Event}

theorem map_afterRequest (outcome : Outcome) (sightings : List (Sighting × SeenStage)) (index : Nat) :
    (sightings.modify index (afterRequest outcome)).map Prod.fst = sightings.map Prod.fst := by
  refine List.ext_getElem? fun place => ?_
  rw [List.getElem?_map, List.getElem?_map, List.getElem?_modify]
  cases sightings[place]? with
  | none => rfl
  | some call =>
    simp only [Option.map_eq_map, Option.map_some]
    by_cases same : index = place
    · rw [if_pos same]
      rfl
    · rw [if_neg same]

/-- Only a call of `Seen` adds to the calls. -/
theorem calls_step (stepped : recorder.step event = some later) :
    callsOf later = callsOf recorder ++ sightingsOf event := by
  cases event with
  | seen sighting =>
    cases stepped
    exact List.map_append
  | request index outcome =>
    unfold Recorder.step at stepped
    dsimp only at stepped
    split at stepped
    · cases stepped
    · next sighting stage found =>
      split at stepped
      · cases stepped
      · cases stepped
        exact (map_afterRequest outcome _ index).trans (List.append_nil _).symm
  | flush now lookback =>
    cases stepped
    exact (List.append_nil _).symm
  | sweep index reply =>
    unfold Recorder.step at stepped
    dsimp only at stepped
    split at stepped
    · cases stepped
    · next flush found =>
      obtain ⟨swept, _, rfl⟩ := Option.map_eq_some_iff.mp stepped
      exact (List.append_nil _).symm
  | expire key =>
    cases stepped
    exact (List.append_nil _).symm

theorem calls_run {events : List Event} (ran : recorder.run events = some later) :
    callsOf later = callsOf recorder ++ events.flatMap sightingsOf := by
  induction events generalizing recorder with
  | nil =>
    cases ran
    exact (List.append_nil _).symm
  | cons event events ih =>
    obtain ⟨middle, stepped, rest⟩ := Option.bind_eq_some_iff.mp ran
    rw [ih rest, calls_step stepped, List.append_assoc, List.flatMap_cons]

/-- A step of `Flush` in a run. -/
theorem sweep_step {index : Nat} {reply : Reply} (stepped : recorder.step (.sweep index reply) = some later) :
    ∃ flush flush' broker rows, recorder.flushes[index]? = some flush ∧
      Sweeps flush recorder.broker recorder.rows reply flush' broker rows ∧
      later = { recorder with broker := broker, rows := rows, flushes := recorder.flushes.set index flush' } := by
  unfold Recorder.step at stepped
  dsimp only at stepped
  split at stepped
  · cases stepped
  · next flush found =>
    obtain ⟨⟨flush', broker, rows⟩, swept, rfl⟩ := Option.map_eq_some_iff.mp stepped
    exact ⟨flush, flush', broker, rows, found, sweeps_of_step swept, rfl⟩

/-- A request of `Seen` in a run. -/
theorem request_step {index : Nat} {outcome : Outcome} (stepped : recorder.step (.request index outcome) = some later) :
    ∃ sighting stage, recorder.sightings[index]? = some (sighting, stage) ∧ stage ≠ .done ∧
      later = { recorder with
        broker := if outcome.applied then sighting.request recorder.broker stage else recorder.broker
        sightings := recorder.sightings.modify index (afterRequest outcome) } := by
  unfold Recorder.step at stepped
  dsimp only at stepped
  split at stepped
  · cases stepped
  · next sighting stage found =>
    split at stepped
    · cases stepped
    · next open_ =>
      cases stepped
      exact ⟨sighting, stage, found, open_, rfl⟩

end

/-! ## No more than was seen -/

/-- The buckets a sweep holds. -/
def FlushStage.buckets : FlushStage → List Bucket
  | .counting _ _ _ _ buckets => buckets
  | .clearing _ buckets => buckets
  | .saving groups => groups.flatMap Prod.snd
  | _ => []

/-- A bucket that counts no more than was seen of its device. -/
def Within (calls : List Sighting) (bucket : Bucket) : Prop :=
  bucket.minutes ≤ (textMinutes calls bucket.deviceId bucket.hour).card

/-- Bits, buckets and rows say no more than was seen. -/
structure Sound (recorder : Recorder) : Prop where
  bits : ∀ key, ∀ minute ∈ recorder.broker.bits key,
    ∃ call ∈ callsOf recorder, bitmapKey call.deviceId call.hour = key ∧ call.minute = minute
  buckets : ∀ flush ∈ recorder.flushes, ∀ bucket ∈ FlushStage.buckets flush.stage, Within (callsOf recorder) bucket
  rows : ∀ tenant device hour n, recorder.rows (tenant, device, hour) = some n →
    n ≤ (passed (callsOf recorder) device hour).card

section

variable {recorder later : Recorder} {calls : List Sighting} {flush flush' : Flush} {broker broker' : Broker}
  {rows rows' : Rows} {reply : Reply} {hour : Int} {buckets : List Bucket}

theorem Within.mono {calls later : List Sighting} (more : calls ⊆ later) {bucket : Bucket} (within : Within calls bucket) :
    Within later bucket := within.trans (Finset.card_le_card (textMinutes_mono more))

theorem buckets_continueCounting (keys : List String) (left : List String) :
    FlushStage.buckets (continueCounting hour keys buckets left) = buckets := by
  induction left with
  | nil => rfl
  | cons member left ih =>
    unfold continueCounting
    split
    · exact ih
    · rfl

theorem buckets_next : FlushStage.buckets flush.next.stage = [] := by
  unfold Flush.next
  cases flush.left with
  | nil => rfl
  | cons hour left => rfl

theorem buckets_continueSaving {groups : List (String × List Bucket)} {bucket : Bucket}
    (member : bucket ∈ FlushStage.buckets (flush.continueSaving groups).stage) : bucket ∈ groups.flatMap Prod.snd := by
  cases groups with
  | nil =>
    rw [Flush.continueSaving, buckets_next] at member
    cases member
  | cons group groups => exact member

theorem mem_groupBy {order : List String} {tenantId : String} {group : List Bucket}
    (member : (tenantId, group) ∈ groupBy order buckets) :
    tenantId ∈ order ∧ group = buckets.filter fun bucket => bucket.tenantId = tenantId := by
  obtain ⟨other, inOrder, same⟩ := List.mem_map.mp member
  obtain ⟨rfl, rfl⟩ := Prod.mk.inj same
  exact ⟨inOrder, rfl⟩

theorem bitCount_le (bits : ∀ key, ∀ minute ∈ broker.bits key,
      ∃ call ∈ calls, bitmapKey call.deviceId call.hour = key ∧ call.minute = minute) (deviceId : String) :
    broker.bitCount (bitmapKey deviceId hour) ≤ (textMinutes calls deviceId hour).card := by
  refine Finset.card_le_card fun minute member => ?_
  obtain ⟨call, inside, key, same⟩ := bits _ minute member
  obtain ⟨text, hours⟩ := bitmapKey_injective key
  exact mem_textMinutes.mpr ⟨call, inside, text, hours, same⟩

theorem within_bucketOf {tenantId deviceId : String} {count : Nat} {bucket : Bucket}
    (counted : count ≤ (textMinutes calls deviceId hour).card)
    (member : bucket ∈ bucketOf tenantId deviceId hour count) : Within calls bucket := by
  unfold bucketOf at member
  split at member
  · cases member
  · rw [List.mem_singleton.mp member]
    exact (min_le_left _ _).trans counted

/-- What a sweep keeps: its buckets are within what was seen. -/
theorem Sweeps.within (swept : Sweeps flush broker rows reply flush' broker' rows')
    (bits : ∀ key, ∀ minute ∈ broker.bits key,
      ∃ call ∈ calls, bitmapKey call.deviceId call.hour = key ∧ call.minute = minute)
    (within : ∀ bucket ∈ FlushStage.buckets flush.stage, Within calls bucket) :
    ∀ bucket ∈ FlushStage.buckets flush'.stage, Within calls bucket := by
  intro bucket member
  cases swept with
  | unread before_ =>
    rw [buckets_next] at member
    cases member
  | listed members before_ all =>
    rw [buckets_continueCounting] at member
    cases member
  | counted tenantId deviceId left keys buckets before_ =>
    rw [before_] at within
    rw [buckets_continueCounting] at member
    rcases List.mem_append.mp member with old | new
    · exact within bucket old
    · exact within_bucketOf (bitCount_le bits deviceId) new
  | uncounted tenantId deviceId left keys buckets before_ =>
    rw [buckets_next] at member
    cases member
  | cleared outcome order keys buckets before_ all =>
    rw [before_] at within
    obtain ⟨pair, inGroups, inGroup⟩ := List.mem_flatMap.mp (buckets_continueSaving member)
    rw [(mem_groupBy inGroups).2] at inGroup
    exact within bucket (List.mem_of_mem_filter inGroup)
  | saved outcome tenantId group groups later before_ written =>
    rw [before_] at within
    exact within bucket (List.mem_append_right _ (buckets_continueSaving member))
  | unsaved outcome tenantId group groups before_ failed =>
    rw [before_] at within
    exact within bucket (List.mem_append_right _ (buckets_continueSaving member))

/-- A sweep sets no bit. -/
theorem Sweeps.bits_subset (swept : Sweeps flush broker rows reply flush' broker' rows') (key : String) :
    broker'.bits key ⊆ broker.bits key := by
  cases swept with
  | cleared outcome order keys buckets before_ all =>
    split
    · show (if key ∈ keys then ∅ else broker.bits key) ⊆ broker.bits key
      split
      · exact Finset.empty_subset _
      · exact Finset.Subset.refl _
    · exact Finset.Subset.refl _
  | _ => exact Finset.Subset.refl _

/-- A sweep loses no row. -/
theorem Sweeps.grown (swept : Sweeps flush broker rows reply flush' broker' rows') : Grown rows rows' := by
  cases swept with
  | saved outcome tenantId group groups later before_ written =>
    split
    · obtain ⟨_, _, folded⟩ := save_some written
      exact (foldlM_rows folded).1
    · exact Grown.refl rows
  | _ => exact Grown.refl _

/-- What a sweep writes is in a bucket it holds, and so within what was seen. -/
theorem Sweeps.rows_le (swept : Sweeps flush broker rows reply flush' broker' rows')
    (within : ∀ bucket ∈ FlushStage.buckets flush.stage, Within calls bucket)
    (sound : ∀ tenant device hour n, rows (tenant, device, hour) = some n → n ≤ (passed calls device hour).card) :
    ∀ tenant device hour n, rows' (tenant, device, hour) = some n → n ≤ (passed calls device hour).card := by
  intro tenant device hour n held
  cases swept with
  | saved outcome tenantId group groups later before_ written =>
    rw [before_] at within
    split at held
    · obtain ⟨owner, _, folded⟩ := save_some written
      rcases (foldlM_rows folded).2.2 _ n held with old | ⟨bucket, inGroup, named, read, same, rfl⟩
      · exact sound tenant device hour n old
      · rw [Prod.mk.injEq, Prod.mk.injEq] at same
        rw [same.2.1, same.2.2]
        exact (within bucket (List.mem_append_left _ inGroup)).trans (Finset.card_le_card (textMinutes_subset read))
    · exact sound tenant device hour n held
  | _ => exact sound tenant device hour n held

theorem sound_start : Sound Recorder.start where
  bits := fun _ _ member => by cases member
  buckets := fun _ member => by cases member
  rows := fun _ _ _ _ held => by cases held

theorem del_bits (keys : List String) (key : String) : (broker.del keys).bits key ⊆ broker.bits key := by
  show (if key ∈ keys then ∅ else broker.bits key) ⊆ broker.bits key
  split
  · exact Finset.empty_subset _
  · exact Finset.Subset.refl _

/-- A request of `Seen` sets the bit of its minute. -/
theorem request_bits {sighting : Sighting} {stage : SeenStage} {key : String} {minute : Nat}
    (member : minute ∈ (sighting.request broker stage).bits key) :
    minute ∈ broker.bits key ∨ (bitmapKey sighting.deviceId sighting.hour = key ∧ sighting.minute = minute) := by
  cases stage with
  | setBit =>
    have shape : minute ∈ Function.update broker.bits (bitmapKey sighting.deviceId sighting.hour)
      (insert sighting.minute (broker.bits (bitmapKey sighting.deviceId sighting.hour))) key := member
    by_cases same : key = bitmapKey sighting.deviceId sighting.hour
    · rw [same, Function.update_self, Finset.mem_insert] at shape
      rw [same]
      exact shape.symm.imp_right fun equal => ⟨rfl, equal.symm⟩
    · rw [Function.update_of_ne same] at shape
      exact Or.inl shape
  | _ => exact Or.inl member

theorem Sound.step (sound : Sound recorder) {event : Event} (stepped : recorder.step event = some later) :
    Sound later := by
  have more : callsOf recorder ⊆ callsOf later := by
    rw [calls_step stepped]
    exact List.subset_append_left _ _
  have bits : ∀ key, ∀ minute ∈ recorder.broker.bits key,
      ∃ call ∈ callsOf later, bitmapKey call.deviceId call.hour = key ∧ call.minute = minute := by
    intro key minute member
    obtain ⟨call, inside, same⟩ := sound.bits key minute member
    exact ⟨call, more inside, same⟩
  have buckets : ∀ flush ∈ recorder.flushes, ∀ bucket ∈ FlushStage.buckets flush.stage, Within (callsOf later) bucket :=
    fun flush inside bucket member => (sound.buckets flush inside bucket member).mono more
  have rows : ∀ tenant device hour n, recorder.rows (tenant, device, hour) = some n →
      n ≤ (passed (callsOf later) device hour).card := fun tenant device hour n held =>
    (sound.rows tenant device hour n held).trans (Finset.card_le_card (passed_mono more))
  cases event with
  | seen sighting =>
    cases stepped
    exact ⟨bits, buckets, rows⟩
  | request index outcome =>
    obtain ⟨sighting, stage, found, _, rfl⟩ := request_step stepped
    refine ⟨fun key minute member => ?_, buckets, rows⟩
    dsimp only at member
    split at member
    · rcases request_bits member with old | same
      · exact bits key minute old
      · have inside : sighting ∈ callsOf recorder :=
          List.mem_map.mpr ⟨(sighting, stage), List.mem_of_getElem? found, rfl⟩
        exact ⟨sighting, more inside, same⟩
    · exact bits key minute member
  | flush now lookback =>
    cases stepped
    refine ⟨bits, fun flush inside bucket member => ?_, rows⟩
    rcases List.mem_append.mp inside with old | new
    · exact buckets flush old bucket member
    · rw [List.mem_singleton.mp new] at member
      cases member
  | sweep index reply =>
    obtain ⟨flush, flush', broker, rows', found, swept, rfl⟩ := sweep_step stepped
    have held := buckets flush (List.mem_of_getElem? found)
    refine ⟨fun key minute member => bits key minute (swept.bits_subset key member),
      fun other inside bucket member => ?_, swept.rows_le held rows⟩
    rcases List.mem_or_eq_of_mem_set inside with old | rfl
    · exact buckets other old bucket member
    · exact swept.within bits held bucket member
  | expire key =>
    cases stepped
    exact ⟨fun key' minute member => bits key' minute (del_bits _ _ member), buckets, rows⟩

theorem Sound.run (sound : Sound recorder) {events : List Event} (ran : recorder.run events = some later) :
    Sound later := by
  induction events generalizing recorder with
  | nil =>
    cases ran
    exact sound
  | cons event events ih =>
    obtain ⟨middle, stepped, rest⟩ := Option.bind_eq_some_iff.mp ran
    exact ih (sound.step stepped) rest

theorem grown_step {event : Event} (stepped : recorder.step event = some later) : Grown recorder.rows later.rows := by
  cases event with
  | sweep index reply =>
    obtain ⟨_, _, _, _, _, swept, rfl⟩ := sweep_step stepped
    exact swept.grown
  | request index outcome =>
    obtain ⟨_, _, _, _, rfl⟩ := request_step stepped
    exact Grown.refl _
  | _ =>
    cases stepped
    exact Grown.refl _

theorem grown_run {events : List Event} (ran : recorder.run events = some later) : Grown recorder.rows later.rows := by
  induction events generalizing recorder with
  | nil =>
    cases ran
    exact Grown.refl _
  | cons event events ih =>
    obtain ⟨middle, stepped, rest⟩ := Option.bind_eq_some_iff.mp ran
    exact (grown_step stepped).trans (ih rest)

end

/-! ## Up to the first close of an hour -/

/-- The keys a sweep is going to clear. -/
def FlushStage.keys : FlushStage → List String
  | .counting _ _ _ keys _ => keys
  | .clearing keys _ => keys
  | _ => []

/-- A key of an hour: of its set or of a bitmap. -/
def KeyOf (hour : Int) (key : String) : Prop := key = hourKey hour ∨ ∃ deviceId, key = bitmapKey deviceId hour

/-- A sweep holds keys of its hour, and goes back in time. -/
structure Orderly (flush : Flush) : Prop where
  keys : ∀ key ∈ FlushStage.keys flush.stage, KeyOf flush.hour key
  descends : (flush.hour :: flush.left).Pairwise (· > ·)

/-- No request to Redis failed, and no key expired. -/
def Clean : Event → Prop
  | .request _ outcome => outcome = .ok
  | .sweep _ (.members found) => found ≠ none
  | .sweep _ (.counted ok) => ok = true
  | .sweep _ (.cleared outcome _) => outcome = .ok
  | .expire _ => False
  | _ => True

/-- The event is the first request of a `Close` of the hour. -/
def Closes (hour : Int) (recorder : Recorder) (event : Event) : Prop :=
  ∃ index found flush, event = .sweep index (.members found) ∧ recorder.flushes[index]? = some flush ∧ flush.hour = hour

/-- An hour nobody has closed yet: what the calls of `Seen` asked for is there. -/
structure Recorded (hour : Int) (recorder : Recorder) : Prop where
  bits : ∀ call ∈ recorder.sightings, call.1.hour = hour → call.2 ≠ .setBit →
    call.1.minute ∈ recorder.broker.bits (bitmapKey call.1.deviceId hour)
  members : ∀ call ∈ recorder.sightings, call.1.hour = hour → (call.2 = .expireMembers ∨ call.2 = .done) →
    memberText call.1.tenantId call.1.deviceId ∈ recorder.broker.sets (hourKey hour)
  unread : ∀ flush ∈ recorder.flushes, flush.hour = hour → flush.stage = .members ∨ flush.stage = .done
  orderly : ∀ flush ∈ recorder.flushes, Orderly flush

section

variable {recorder later : Recorder} {flush flush' : Flush} {broker broker' : Broker} {rows rows' : Rows}
  {reply : Reply} {hour : Int}

theorem start_orderly (now : Int) (lookback : Int) : Orderly (Flush.start now lookback) where
  keys := fun _ member => by cases member
  descends := by
    unfold Flush.start
    rw [List.pairwise_cons, List.pairwise_map]
    constructor
    · intro other member
      obtain ⟨step, _, rfl⟩ := List.mem_map.mp member
      show hourOf now - (step + 2 : Int) < hourOf now - 1
      omega
    · refine List.pairwise_lt_range.imp fun {a b} less => ?_
      have less : (a : Int) < b := by exact_mod_cast less
      show hourOf now - (b + 2 : Int) < hourOf now - (a + 2)
      omega

theorem next_cases : (flush.next.stage = .done ∧ flush.next.hour = flush.hour ∧ flush.next.left = flush.left) ∨
    (flush.next.stage = .members ∧ flush.left = flush.next.hour :: flush.next.left) := by
  unfold Flush.next
  cases flush.left with
  | nil => exact Or.inl ⟨rfl, rfl, rfl⟩
  | cons hour left => exact Or.inr ⟨rfl, rfl⟩

theorem Orderly.next (orderly : Orderly flush) : Orderly flush.next := by
  rcases @next_cases flush with ⟨stage, hour, left⟩ | ⟨stage, left⟩
  · refine ⟨fun key member => ?_, ?_⟩
    · rw [stage] at member
      cases member
    · rw [hour, left]
      exact orderly.descends
  · refine ⟨fun key member => ?_, ?_⟩
    · rw [stage] at member
      cases member
    · have descends := orderly.descends
      rw [left] at descends
      exact (List.pairwise_cons.mp descends).2

theorem next_le (orderly : Orderly flush) : flush.next.hour ≤ flush.hour := by
  rcases @next_cases flush with ⟨_, hour, _⟩ | ⟨_, left⟩
  · exact le_of_eq hour
  · have descends := orderly.descends
    rw [left] at descends
    exact ((List.pairwise_cons.mp descends).1 _ List.mem_cons_self).le

theorem keys_continueCounting {keys : List String} {buckets : List Bucket} (own : ∀ key ∈ keys, KeyOf hour key)
    (left : List String) :
    ∀ key ∈ FlushStage.keys (continueCounting hour keys buckets left), KeyOf hour key := by
  induction left with
  | nil =>
    intro key member
    rcases List.mem_append.mp member with inKeys | last
    · exact own key inKeys
    · exact Or.inl (List.mem_singleton.mp last)
  | cons member left ih =>
    unfold continueCounting
    split
    · exact ih
    · next tenantId deviceId _ =>
      intro key inside
      rcases List.mem_append.mp inside with inKeys | last
      · exact own key inKeys
      · exact Or.inr ⟨deviceId, List.mem_singleton.mp last⟩

theorem Orderly.continueSaving (orderly : Orderly flush) (groups : List (String × List Bucket)) :
    Orderly (flush.continueSaving groups) := by
  cases groups with
  | nil => exact orderly.next
  | cons group groups => exact ⟨fun _ member => (by cases member), orderly.descends⟩

theorem Sweeps.orderly (swept : Sweeps flush broker rows reply flush' broker' rows') (orderly : Orderly flush) :
    Orderly flush' := by
  cases swept with
  | unread before_ => exact orderly.next
  | listed members before_ all =>
    exact ⟨keys_continueCounting (fun _ member => (by cases member)) members, orderly.descends⟩
  | counted tenantId deviceId left keys buckets before_ =>
    have own := orderly.keys
    rw [before_] at own
    exact ⟨keys_continueCounting own left, orderly.descends⟩
  | uncounted tenantId deviceId left keys buckets before_ => exact orderly.next
  | cleared outcome order keys buckets before_ all => exact orderly.continueSaving _
  | saved outcome tenantId group groups later before_ written => exact orderly.continueSaving _
  | unsaved outcome tenantId group groups before_ failed => exact orderly.continueSaving _

/-- The keys of an hour are not those of another. -/
theorem KeyOf.hour_eq {key : String} {other : Int} (one : KeyOf hour key) (two : KeyOf other key) : hour = other := by
  rcases one with rfl | ⟨device, rfl⟩
  · rcases two with same | ⟨device, same⟩
    · exact hourKey_injective same
    · exact absurd same.symm (bitmapKey_ne_hourKey _ _ _)
  · rcases two with same | ⟨device', same⟩
    · exact absurd same (bitmapKey_ne_hourKey _ _ _)
    · exact (bitmapKey_injective same).2

theorem del_other {keys : List String} {other : Int} (own : ∀ key ∈ keys, KeyOf other key) (apart : other ≠ hour)
    {key : String} (here : KeyOf hour key) :
    (broker.del keys).bits key = broker.bits key ∧ (broker.del keys).sets key = broker.sets key := by
  have absent : key ∉ keys := fun member => apart ((own key member).hour_eq here)
  exact ⟨if_neg absent, if_neg absent⟩

/-- The sweep of another hour leaves the keys of this one. -/
theorem Sweeps.frame (swept : Sweeps flush broker rows reply flush' broker' rows') (orderly : Orderly flush)
    (apart : flush.hour ≠ hour) {key : String} (here : KeyOf hour key) :
    broker'.bits key = broker.bits key ∧ broker'.sets key = broker.sets key := by
  cases swept with
  | cleared outcome order keys buckets before_ all =>
    have own := orderly.keys
    rw [before_] at own
    split
    · exact del_other own apart here
    · exact ⟨rfl, rfl⟩
  | _ => exact ⟨rfl, rfl⟩

/-- A sweep stays in its hour or goes on to the next. -/
theorem Sweeps.hour_cases (swept : Sweeps flush broker rows reply flush' broker' rows') :
    flush'.hour = flush.hour ∧ flush'.left = flush.left ∨ flush' = flush.next := by
  have saving : ∀ groups, (flush.continueSaving groups).hour = flush.hour ∧
      (flush.continueSaving groups).left = flush.left ∨ flush.continueSaving groups = flush.next := by
    intro groups
    cases groups with
    | nil => exact Or.inr rfl
    | cons group groups => exact Or.inl ⟨rfl, rfl⟩
  cases swept with
  | unread before_ => exact Or.inr rfl
  | listed members before_ all => exact Or.inl ⟨rfl, rfl⟩
  | counted tenantId deviceId left keys buckets before_ => exact Or.inl ⟨rfl, rfl⟩
  | uncounted tenantId deviceId left keys buckets before_ => exact Or.inr rfl
  | cleared outcome order keys buckets before_ all => exact saving _
  | saved outcome tenantId group groups later before_ written => exact saving _
  | unsaved outcome tenantId group groups before_ failed => exact saving _

theorem Sweeps.not_done (swept : Sweeps flush broker rows reply flush' broker' rows') : flush.stage ≠ .done := by
  intro done
  cases swept with
  | unread before_ => rw [before_] at done; cases done
  | listed members before_ all => rw [before_] at done; cases done
  | counted tenantId deviceId left keys buckets before_ => rw [before_] at done; cases done
  | uncounted tenantId deviceId left keys buckets before_ => rw [before_] at done; cases done
  | cleared outcome order keys buckets before_ all => rw [before_] at done; cases done
  | saved outcome tenantId group groups later before_ written => rw [before_] at done; cases done
  | unsaved outcome tenantId group groups before_ failed => rw [before_] at done; cases done

/-- Before it has read its hour, a sweep asks for the members. -/
theorem Sweeps.reads (swept : Sweeps flush broker rows reply flush' broker' rows') (unread : flush.stage = .members) :
    ∃ found, reply = .members found := by
  cases swept with
  | unread before_ => exact ⟨none, rfl⟩
  | listed members before_ all => exact ⟨some members, rfl⟩
  | counted tenantId deviceId left keys buckets before_ => rw [before_] at unread; cases unread
  | uncounted tenantId deviceId left keys buckets before_ => rw [before_] at unread; cases unread
  | cleared outcome order keys buckets before_ all => rw [before_] at unread; cases unread
  | saved outcome tenantId group groups later before_ written => rw [before_] at unread; cases unread
  | unsaved outcome tenantId group groups before_ failed => rw [before_] at unread; cases unread

/-- A request of `Seen` only adds. -/
theorem request_mono (sighting : Sighting) (stage : SeenStage) (key : String) :
    broker.bits key ⊆ (sighting.request broker stage).bits key ∧
      broker.sets key ⊆ (sighting.request broker stage).sets key := by
  have update_mono : ∀ {α : Type} [DecidableEq α] (f : String → Finset α) (place : String) (x : α),
      f key ⊆ Function.update f place (insert x (f place)) key := by
    intro α _ f place x
    by_cases same : key = place
    · rw [same, Function.update_self]
      exact Finset.subset_insert _ _
    · rw [Function.update_of_ne same]
  cases stage with
  | setBit => exact ⟨update_mono _ _ _, Finset.Subset.refl _⟩
  | sAdd => exact ⟨Finset.Subset.refl _, update_mono _ _ _⟩
  | _ => exact ⟨Finset.Subset.refl _, Finset.Subset.refl _⟩

theorem mem_setBit {key : String} {minute : Nat} : minute ∈ (broker.setBit key minute).bits key := by
  unfold Broker.setBit
  dsimp only
  rw [Function.update_self]
  exact Finset.mem_insert_self _ _

theorem mem_sAdd {key member : String} : member ∈ (broker.sAdd key member).sets key := by
  unfold Broker.sAdd
  dsimp only
  rw [Function.update_self]
  exact Finset.mem_insert_self _ _

theorem recorded_start : Recorded hour Recorder.start where
  bits := fun _ member => by cases member
  members := fun _ member => by cases member
  unread := fun _ member => by cases member
  orderly := fun _ member => by cases member

/-- What a request that succeeded adds. -/
theorem Recorded.request {index : Nat} {sighting : Sighting} {stage : SeenStage} (recorded : Recorded hour recorder)
    (found : recorder.sightings[index]? = some (sighting, stage)) :
    Recorded hour { recorder with
      broker := sighting.request recorder.broker stage
      sightings := recorder.sightings.modify index (afterRequest .ok) } where
  unread := recorded.unread
  orderly := recorded.orderly
  bits := by
    intro call member here passed_
    rcases Calls.mem_moved member with ⟨place, _, old⟩ | ⟨old, held, rfl⟩
    · exact (request_mono sighting stage _).1 (recorded.bits call (List.mem_of_getElem? old) here passed_)
    · rw [found, Option.some.injEq] at held
      subst held
      by_cases first : stage = .setBit
      · rw [first]
        have here : sighting.hour = hour := here
        exact here ▸ mem_setBit
      · exact (request_mono sighting stage _).1 (recorded.bits (sighting, stage) (List.mem_of_getElem? found) here first)
  members := by
    intro call member here passed_
    rcases Calls.mem_moved member with ⟨place, _, old⟩ | ⟨old, held, rfl⟩
    · exact (request_mono sighting stage _).2 (recorded.members call (List.mem_of_getElem? old) here passed_)
    · rw [found, Option.some.injEq] at held
      subst held
      have here : sighting.hour = hour := here
      have advanced : stage.next = .expireMembers ∨ stage.next = .done := passed_
      by_cases adding : stage = .sAdd
      · rw [adding]
        exact here ▸ mem_sAdd
      · have behind : stage = .expireMembers ∨ stage = .done := by
          cases stage with
          | setBit => rcases advanced with same | same <;> cases same
          | expireBitmap => rcases advanced with same | same <;> cases same
          | sAdd => exact absurd rfl adding
          | expireMembers => exact Or.inl rfl
          | done => exact Or.inr rfl
        exact (request_mono sighting stage _).2 (recorded.members (sighting, stage) (List.mem_of_getElem? found) here behind)

theorem Recorded.step (recorded : Recorded hour recorder) {event : Event} (clean : Clean event)
    (first : ¬ Closes hour recorder event) (stepped : recorder.step event = some later) : Recorded hour later := by
  cases event with
  | seen sighting =>
    cases stepped
    refine ⟨fun call member here passed_ => ?_, fun call member here passed_ => ?_, recorded.unread, recorded.orderly⟩
    · rcases List.mem_append.mp member with old | new
      · exact recorded.bits call old here passed_
      · rw [List.mem_singleton.mp new] at passed_
        exact absurd rfl passed_
    · rcases List.mem_append.mp member with old | new
      · exact recorded.members call old here passed_
      · rw [List.mem_singleton.mp new] at passed_
        rcases passed_ with same | same <;> cases same
  | request index outcome =>
    obtain rfl : outcome = .ok := clean
    obtain ⟨sighting, stage, found, _, rfl⟩ := request_step stepped
    exact recorded.request found
  | flush now lookback =>
    cases stepped
    refine ⟨recorded.bits, recorded.members, fun flush inside here => ?_, fun flush inside => ?_⟩
    · rcases List.mem_append.mp inside with old | new
      · exact recorded.unread flush old here
      · rw [List.mem_singleton.mp new]
        exact Or.inl rfl
    · rcases List.mem_append.mp inside with old | new
      · exact recorded.orderly flush old
      · rw [List.mem_singleton.mp new]
        exact start_orderly now lookback
  | sweep index reply =>
    obtain ⟨flush, flush', broker, rows, found, swept, rfl⟩ := sweep_step stepped
    have inside := List.mem_of_getElem? found
    have apart : flush.hour ≠ hour := by
      intro here
      have unread := (recorded.unread flush inside here).resolve_right swept.not_done
      obtain ⟨members, rfl⟩ := swept.reads unread
      exact first ⟨index, members, flush, rfl, found, here⟩
    have frame := fun key here => @Sweeps.frame flush flush' recorder.broker broker recorder.rows rows reply hour swept
      (recorded.orderly flush inside) apart key here
    refine ⟨fun call member here passed_ => ?_, fun call member here passed_ => ?_, fun other member here => ?_,
      fun other member => ?_⟩
    · rw [(frame _ (Or.inr ⟨_, rfl⟩)).1]
      exact recorded.bits call member here passed_
    · rw [(frame _ (Or.inl rfl)).2]
      exact recorded.members call member here passed_
    · rcases List.mem_or_eq_of_mem_set member with old | rfl
      · exact recorded.unread other old here
      · rcases swept.hour_cases with ⟨stays, _⟩ | rfl
        · exact absurd (stays.symm.trans here) apart
        · rcases @next_cases flush with ⟨done, _, _⟩ | ⟨unread, _⟩
          · exact Or.inr done
          · exact Or.inl unread
    · rcases List.mem_or_eq_of_mem_set member with old | rfl
      · exact recorded.orderly other old
      · exact swept.orderly (recorded.orderly flush inside)
  | expire key => exact clean.elim

/-- Until an hour is closed for the first time, everything is there. -/
theorem Recorded.run (recorded : Recorded hour recorder) {events : List Event} (clean : ∀ event ∈ events, Clean event)
    (first : ∀ earlier event rest middle, events = earlier ++ event :: rest → recorder.run earlier = some middle →
      ¬ Closes hour middle event) (ran : recorder.run events = some later) : Recorded hour later := by
  induction events generalizing recorder with
  | nil =>
    cases ran
    exact recorded
  | cons event events ih =>
    obtain ⟨middle, stepped, rest⟩ := Option.bind_eq_some_iff.mp ran
    have next := recorded.step (clean event List.mem_cons_self) (first [] event events recorder rfl rfl) stepped
    refine ih next (fun other member => clean other (List.mem_cons_of_mem _ member)) ?_ rest
    intro earlier other later_ reached shape reaches
    refine first (event :: earlier) other later_ reached (by rw [shape]; rfl) ?_
    exact Option.bind_eq_some_iff.mpr ⟨middle, stepped, reaches⟩

end

/-! ## The first close of an hour -/

/-- A call names its tenant and its device as a certificate does. -/
def Certified (call : Sighting) : Prop :=
  ∃ tenant device : Uuid, call.tenantId = uuidOut tenant ∧ call.deviceId = uuidOut device

/-- A bucket has all that was seen of the device of a call. -/
def Covered (calls : List Sighting) (hour : Int) (buckets : List Bucket) (call : Sighting) : Prop :=
  ∃ bucket ∈ buckets, bucket.tenantId = call.tenantId ∧ bucket.deviceId = call.deviceId ∧ bucket.hour = hour ∧
    (textMinutes calls call.deviceId hour).card ≤ bucket.minutes

/-- A sweep of an hour has counted, or is going to count, all that was seen in it. -/
def Covers (calls : List Sighting) (hour : Int) (broker : Broker) : FlushStage → Prop
  | .counting tenantId deviceId left _ buckets =>
    (∀ call ∈ calls, call.hour = hour → call.minute ∈ broker.bits (bitmapKey call.deviceId hour)) ∧
      ∀ call ∈ calls, call.hour = hour → (call.tenantId = tenantId ∧ call.deviceId = deviceId) ∨
        memberText call.tenantId call.deviceId ∈ left ∨ Covered calls hour buckets call
  | .clearing _ buckets => ∀ call ∈ calls, call.hour = hour → Covered calls hour buckets call
  | .saving groups => ∀ pair ∈ groups, ∀ call ∈ calls, call.hour = hour → call.tenantId = pair.1 →
      Covered calls hour pair.2 call
  | _ => False

/-- The sweep at the index is past an hour, or has all that was seen in it; no other runs. -/
structure Closing (calls : List Sighting) (hour : Int) (index : Nat) (recorder : Recorder) : Prop where
  alone : ∀ place flush, recorder.flushes[place]? = some flush → place ≠ index → flush.stage = .done
  sweep : ∀ flush, recorder.flushes[index]? = some flush → Orderly flush ∧
    (flush.hour < hour ∨ flush.stage = .done ∨ (flush.hour = hour ∧ Covers calls hour recorder.broker flush.stage))

section

variable {calls : List Sighting} {hour : Int} {broker broker' : Broker} {buckets : List Bucket} {rows rows' : Rows}
  {flush flush' : Flush} {reply : Reply} {recorder later : Recorder} {index : Nat}

theorem barless (value : Uuid) : '|' ∉ (uuidOut value).toList := by
  rw [uuidOut_toList]
  intro member
  have other : ∀ x : Fin 16, Nat.digitChar x ≠ '|' := by decide
  have nibbles : ∀ place, '|' ≠ nibble value.toNat place := fun place same =>
    other ⟨value.toNat / 16 ^ place % 16, Nat.mod_lt _ (by decide)⟩ same.symm
  simp only [List.mem_cons, List.not_mem_nil, or_false, nibbles, false_or] at member
  revert member
  decide

theorem uuidOut_filled (value : Uuid) : (uuidOut value).toList ≠ [] := by
  intro empty
  have long := uuidOut_length value
  rw [empty] at long
  cases long

/-- The member of a certified call reads back. -/
theorem readMember_certified {call : Sighting} (certified : Certified call) :
    readMember (memberText call.tenantId call.deviceId) = some (call.tenantId, call.deviceId) := by
  obtain ⟨tenant, device, first, second⟩ := certified
  have shape : (memberText call.tenantId call.deviceId).toList = call.tenantId.toList ++ '|' :: call.deviceId.toList := by
    unfold memberText
    rw [String.toList_append, String.toList_append, List.append_assoc]
    rfl
  have free : '|' ∉ call.tenantId.toList := by
    rw [first]
    exact barless tenant
  unfold readMember
  rw [shape, before_append free, after_append free, if_pos]
  · rw [String.ofList_toList, String.ofList_toList]
  · refine ⟨List.mem_append_right _ List.mem_cons_self, ?_, ?_⟩
    · rw [first]
      exact uuidOut_filled tenant
    · rw [second]
      exact uuidOut_filled device

theorem Covered.more {call : Sighting} (covered : Covered calls hour buckets call) (extra : List Bucket) :
    Covered calls hour (buckets ++ extra) call := by
  obtain ⟨bucket, member, rest⟩ := covered
  exact ⟨bucket, List.mem_append_left _ member, rest⟩

/-- Counting goes on where a member is left, and clears where none is. -/
theorem covers_continueCounting (certified : ∀ call ∈ calls, call.hour = hour → Certified call)
    (bits : ∀ call ∈ calls, call.hour = hour → call.minute ∈ broker.bits (bitmapKey call.deviceId hour))
    (keys : List String) {left : List String}
    (all : ∀ call ∈ calls, call.hour = hour →
      memberText call.tenantId call.deviceId ∈ left ∨ Covered calls hour buckets call) :
    Covers calls hour broker (continueCounting hour keys buckets left) := by
  induction left with
  | nil =>
    intro call member here
    rcases all call member here with absent | covered
    · cases absent
    · exact covered
  | cons member left ih =>
    unfold continueCounting
    split
    · next unreadable =>
      refine ih fun call inside here => ?_
      rcases all call inside here with inMembers | covered
      · rcases List.mem_cons.mp inMembers with rfl | inLeft
        · rw [readMember_certified (certified call inside here)] at unreadable
          cases unreadable
        · exact Or.inl inLeft
      · exact Or.inr covered
    · next tenantId deviceId read =>
      refine ⟨bits, fun call inside here => ?_⟩
      rcases all call inside here with inMembers | covered
      · rcases List.mem_cons.mp inMembers with rfl | inLeft
        · rw [readMember_certified (certified call inside here), Option.some.injEq, Prod.mk.injEq] at read
          exact Or.inl read
        · exact Or.inr (Or.inl inLeft)
      · exact Or.inr (Or.inr covered)

theorem minute_lt (call : Sighting) : call.minute < 60 := by
  unfold Sighting.minute minuteOf
  omega

/-- A count of all bits covers the calls of the device. -/
theorem covered_count {tenantId deviceId : String} {call : Sighting} (member : call ∈ calls) (here : call.hour = hour)
    (bits : ∀ call ∈ calls, call.hour = hour → call.minute ∈ broker.bits (bitmapKey call.deviceId hour))
    (same : call.tenantId = tenantId ∧ call.deviceId = deviceId) (earlier : List Bucket) :
    Covered calls hour
      (earlier ++ bucketOf tenantId deviceId hour (broker.bitCount (bitmapKey deviceId hour))) call := by
  obtain ⟨rfl, rfl⟩ := same
  have inside : textMinutes calls call.deviceId hour ⊆ broker.bits (bitmapKey call.deviceId hour) := by
    intro minute held
    obtain ⟨other, there, text, hours, rfl⟩ := mem_textMinutes.mp held
    rw [← text]
    exact bits other there hours
  have counted : (textMinutes calls call.deviceId hour).card ≤ broker.bitCount (bitmapKey call.deviceId hour) :=
    Finset.card_le_card inside
  have short : (textMinutes calls call.deviceId hour).card ≤ minutesPerHour := by
    have range : textMinutes calls call.deviceId hour ⊆ Finset.range 60 := by
      intro minute held
      obtain ⟨other, _, _, _, rfl⟩ := mem_textMinutes.mp held
      exact Finset.mem_range.mpr (minute_lt other)
    exact (Finset.card_le_card range).trans (le_of_eq (Finset.card_range 60))
  have some_ : 0 < (textMinutes calls call.deviceId hour).card :=
    Finset.card_pos.mpr ⟨call.minute, mem_textMinutes.mpr ⟨call, member, rfl, here, rfl⟩⟩
  refine ⟨⟨call.tenantId, call.deviceId, hour, min (broker.bitCount (bitmapKey call.deviceId hour)) minutesPerHour⟩,
    List.mem_append_right _ ?_, rfl, rfl, rfl, le_min counted short⟩
  unfold bucketOf
  rw [if_neg (by omega)]
  exact List.mem_singleton_self _

/-- A group has what its tenant's buckets have. -/
theorem covers_groupBy {order : List String} (all : ∀ call ∈ calls, call.hour = hour → Covered calls hour buckets call) :
    ∀ pair ∈ groupBy order buckets, ∀ call ∈ calls, call.hour = hour → call.tenantId = pair.1 →
      Covered calls hour pair.2 call := by
  intro pair member call inside here owner
  obtain ⟨bucket, held, tenants, rest⟩ := all call inside here
  rw [(mem_groupBy (show (pair.1, pair.2) ∈ groupBy order buckets from member)).2]
  refine ⟨bucket, List.mem_filter.mpr ⟨held, ?_⟩, tenants, rest⟩
  rw [decide_eq_true_eq, tenants, owner]

/-- Where a sweep stands after its hour was counted. -/
theorem continueSaving_cases {groups : List (String × List Bucket)} (orderly : Orderly flush) (here : flush.hour = hour)
    (all : ∀ pair ∈ groups, ∀ call ∈ calls, call.hour = hour → call.tenantId = pair.1 → Covered calls hour pair.2 call) :
    (flush.continueSaving groups).hour < hour ∨ (flush.continueSaving groups).stage = .done ∨
      ((flush.continueSaving groups).hour = hour ∧ Covers calls hour broker (flush.continueSaving groups).stage) := by
  cases groups with
  | nil =>
    rcases @next_cases flush with ⟨done, _, _⟩ | ⟨_, left⟩
    · exact Or.inr (Or.inl done)
    · have descends := orderly.descends
      rw [left, here] at descends
      exact Or.inl ((List.pairwise_cons.mp descends).1 _ List.mem_cons_self)
  | cons group groups => exact Or.inr (Or.inr ⟨here, all⟩)

/-- The sweep of the hour goes on covering it. -/
theorem Sweeps.covers (swept : Sweeps flush broker rows reply flush' broker' rows') (orderly : Orderly flush)
    (clean : Clean (.sweep index reply)) (certified : ∀ call ∈ calls, call.hour = hour → Certified call)
    (here : flush.hour = hour) (covers : Covers calls hour broker flush.stage) :
    flush'.hour < hour ∨ flush'.stage = .done ∨ (flush'.hour = hour ∧ Covers calls hour broker' flush'.stage) := by
  cases swept with
  | unread before_ => exact absurd rfl clean
  | listed members before_ all =>
    rw [before_] at covers
    exact covers.elim
  | counted tenantId deviceId left keys buckets before_ =>
    rw [before_] at covers
    obtain ⟨bits, all⟩ := covers
    refine Or.inr (Or.inr ⟨here, ?_⟩)
    rw [here]
    refine covers_continueCounting certified bits keys fun call inside same => ?_
    rcases all call inside same with current | inLeft | covered
    · exact Or.inr (covered_count inside same bits current _)
    · exact Or.inl inLeft
    · exact Or.inr (covered.more _)
  | uncounted tenantId deviceId left keys buckets before_ => cases clean
  | cleared outcome order keys buckets before_ all =>
    rw [before_] at covers
    exact continueSaving_cases orderly here (covers_groupBy covers)
  | saved outcome tenantId group groups later before_ written =>
    rw [before_] at covers
    exact continueSaving_cases orderly here fun pair member => covers pair (List.mem_cons_of_mem _ member)
  | unsaved outcome tenantId group groups before_ failed =>
    rw [before_] at covers
    exact continueSaving_cases orderly here fun pair member => covers pair (List.mem_cons_of_mem _ member)

/-- More bits cover no less. -/
theorem Covers.mono {stage : FlushStage} (covers : Covers calls hour broker stage)
    (more : ∀ key, broker.bits key ⊆ broker'.bits key) : Covers calls hour broker' stage := by
  cases stage with
  | counting tenantId deviceId left keys buckets =>
    exact ⟨fun call inside here => more _ (covers.1 call inside here), covers.2⟩
  | _ => exact covers

theorem Closing.step (closing : Closing calls hour index recorder) {event : Event} (clean : Clean event)
    (certified : ∀ call ∈ calls, call.hour = hour → Certified call) (other : ∀ now lookback, event ≠ .flush now lookback)
    (stepped : recorder.step event = some later) : Closing calls hour index later := by
  cases event with
  | seen sighting =>
    cases stepped
    exact ⟨closing.alone, closing.sweep⟩
  | request place outcome =>
    obtain ⟨sighting, stage, _, _, rfl⟩ := request_step stepped
    refine ⟨closing.alone, fun flush found => ?_⟩
    obtain ⟨orderly, where_⟩ := closing.sweep flush found
    refine ⟨orderly, where_.imp_right (Or.imp_right (And.imp_right fun covers => covers.mono fun key => ?_))⟩
    dsimp only
    split
    · exact (request_mono sighting stage key).1
    · exact Finset.Subset.refl _
  | flush now lookback => exact absurd rfl (other now lookback)
  | sweep place reply =>
    obtain ⟨flush, flush', broker, rows, found, swept, rfl⟩ := sweep_step stepped
    obtain rfl : place = index := by
      by_contra apart
      exact swept.not_done (closing.alone place flush found apart)
    obtain ⟨orderly, where_⟩ := closing.sweep flush found
    have bound : place < recorder.flushes.length := (List.getElem?_eq_some_iff.mp found).1
    refine ⟨fun other flush_ held apart => ?_, fun flush_ held => ?_⟩
    · rw [List.getElem?_set_ne (Ne.symm apart)] at held
      exact closing.alone other flush_ held apart
    · rw [List.getElem?_set_self bound, Option.some.injEq] at held
      subst held
      refine ⟨swept.orderly orderly, ?_⟩
      rcases where_ with past | done | ⟨here, covers⟩
      · refine Or.inl ?_
        rcases swept.hour_cases with ⟨stays, _⟩ | rfl
        · rw [stays]
          exact past
        · exact (next_le orderly).trans_lt past
      · exact absurd done swept.not_done
      · exact swept.covers orderly clean certified here covers
  | expire key => exact clean.elim

theorem Closing.run (closing : Closing calls hour index recorder) {events : List Event}
    (clean : ∀ event ∈ events, Clean event) (certified : ∀ call ∈ calls, call.hour = hour → Certified call)
    (other : ∀ now lookback, Event.flush now lookback ∉ events) (ran : recorder.run events = some later) :
    Closing calls hour index later := by
  induction events generalizing recorder with
  | nil =>
    cases ran
    exact closing
  | cons event events ih =>
    obtain ⟨middle, stepped, rest⟩ := Option.bind_eq_some_iff.mp ran
    refine ih (closing.step (clean event List.mem_cons_self) certified (fun now lookback same => ?_) stepped)
      (fun other_ member => clean other_ (List.mem_cons_of_mem _ member))
      (fun now lookback member => other now lookback (List.mem_cons_of_mem _ member)) rest
    exact other now lookback (by rw [same]; exact List.mem_cons_self)

end

/-! ## What the table says -/

/-- A run up to the first `Close` of an hour, from there to the `Save` of a tenant in the same
`Flush`, and the calls of `Seen` of the hour: all were over before. `Flush` runs on one
goroutine, so no other runs meanwhile. -/
structure FirstClose (hour : Int) (tenantId : String) (earlier during after : List Event) (index : Nat)
    (members : List String) (opened counted : Recorder) : Prop where
  reached : Recorder.start.run earlier = some opened
  first : ∀ front event rest middle, earlier = front ++ event :: rest → Recorder.start.run front = some middle →
    ¬ Closes hour middle event
  closes : Closes hour opened (.sweep index (.members (some members)))
  finished : ∀ call ∈ opened.sightings, call.1.hour = hour → call.2 = .done
  nothing : ∀ sighting, .seen sighting ∈ during ++ after → sighting.hour ≠ hour
  alone : ∀ place flush, opened.flushes[place]? = some flush → place ≠ index → flush.stage = .done
  onlyOne : ∀ now lookback, Event.flush now lookback ∉ during
  swept : opened.run (.sweep index (.members (some members)) :: during) = some counted
  saves : ∃ flush group groups, counted.flushes[index]? = some flush ∧ flush.hour = hour ∧
    flush.stage = .saving ((tenantId, group) :: groups)

section

variable {hour : Int} {tenantId : String} {earlier during after : List Event} {index : Nat} {members : List String}
  {opened counted saved : Recorder}

theorem run_append (recorder : Recorder) (front rest : List Event) :
    recorder.run (front ++ rest) = (recorder.run front).bind fun middle => middle.run rest := List.foldlM_append

theorem seen_mem_iff {events : List Event} {sighting : Sighting} :
    sighting ∈ events.flatMap sightingsOf ↔ .seen sighting ∈ events := by
  rw [List.mem_flatMap]
  constructor
  · rintro ⟨event, member, held⟩
    cases event with
    | seen other =>
      obtain rfl := List.mem_singleton.mp held
      exact member
    | _ => cases held
  · exact fun member => ⟨.seen sighting, member, List.mem_singleton_self sighting⟩

/-- The close finds all that was seen. -/
theorem FirstClose.closing (close : FirstClose hour tenantId earlier during after index members opened counted)
    (clean : ∀ event ∈ earlier ++ .sweep index (.members (some members)) :: during, Clean event)
    (certified : ∀ call ∈ callsOf opened, call.hour = hour → Certified call) :
    Closing (callsOf opened) hour index counted := by
  obtain ⟨next, stepped, rest⟩ := Option.bind_eq_some_iff.mp close.swept
  have recorded := (@recorded_start hour).run (fun event member => clean event (List.mem_append_left _ member))
    close.first close.reached
  obtain ⟨flush, flush', broker, rows, found, swept, rfl⟩ := sweep_step stepped
  obtain ⟨_, _, other, same, held, here⟩ := close.closes
  obtain ⟨rfl, _⟩ := Event.sweep.inj same
  obtain rfl : flush = other := Option.some.inj (found.symm.trans held)
  have bits : ∀ call ∈ callsOf opened, call.hour = hour →
      call.minute ∈ opened.broker.bits (bitmapKey call.deviceId hour) := by
    intro call member same
    obtain ⟨pair, inside, rfl⟩ := List.mem_map.mp member
    exact recorded.bits pair inside same (by rw [close.finished pair inside same]; exact SeenStage.noConfusion)
  refine Closing.run ?_ (fun event member => clean event (List.mem_append_right _ (List.mem_cons_of_mem _ member)))
    certified close.onlyOne rest
  cases swept with
  | listed _ before_ all =>
    have bound : index < opened.flushes.length := (List.getElem?_eq_some_iff.mp found).1
    refine ⟨fun place flush_ held_ apart => ?_, fun flush_ held_ => ?_⟩
    · rw [List.getElem?_set_ne (Ne.symm apart)] at held_
      exact close.alone place flush_ held_ apart
    · rw [List.getElem?_set_self bound, Option.some.injEq] at held_
      subst held_
      have orderly := recorded.orderly flush (List.mem_of_getElem? found)
      refine ⟨⟨keys_continueCounting (fun _ member => (by cases member)) members, orderly.descends⟩, ?_⟩
      refine Or.inr (Or.inr ⟨here, ?_⟩)
      rw [here]
      refine covers_continueCounting certified bits [] fun call member same => Or.inl ?_
      obtain ⟨pair, inside, rfl⟩ := List.mem_map.mp member
      have listed := recorded.members pair inside same (Or.inr (close.finished pair inside same))
      rw [← here, ← all, List.mem_toFinset] at listed
      exact listed

/-- The saved row has at least what was seen. -/
theorem FirstClose.row_saved (close : FirstClose hour tenantId earlier during after index members opened counted)
    (clean : ∀ event ∈ earlier ++ .sweep index (.members (some members)) :: during, Clean event)
    (certified : ∀ call ∈ callsOf opened, call.hour = hour → Certified call) {tenant device : Uuid}
    (owner : tenantId = uuidOut tenant) {call : Sighting} (member : call ∈ callsOf opened) (here : call.hour = hour)
    (tenants : call.tenantId = tenantId) (devices : call.deviceId = uuidOut device)
    (stepped : counted.step (.sweep index (.saved .ok)) = some saved) :
    ∃ n, saved.rows (tenant, device, hour) = some n ∧ (textMinutes (callsOf opened) (uuidOut device) hour).card ≤ n := by
  have closing := close.closing clean certified
  obtain ⟨flush, group, groups, found, hours, stage⟩ := close.saves
  obtain ⟨_, where_⟩ := closing.sweep flush found
  have covers : Covers (callsOf opened) hour counted.broker flush.stage := by
    rcases where_ with past | done | ⟨_, covers⟩
    · exact absurd hours past.ne
    · rw [stage] at done
      cases done
    · exact covers
  rw [stage] at covers
  obtain ⟨bucket, inGroup, _, text, bucketHour, least⟩ := covers _ List.mem_cons_self call member here tenants
  obtain ⟨other, flush', broker, rows, held, swept, rfl⟩ := sweep_step stepped
  obtain rfl : other = flush := Option.some.inj (held.symm.trans found)
  cases swept with
  | saved _ owner_ group_ groups_ later before_ written =>
    rw [stage] at before_
    obtain ⟨first, _⟩ := List.cons.inj (FlushStage.saving.inj before_)
    obtain ⟨rfl, rfl⟩ := Prod.mk.inj first
    obtain ⟨tenant_, read, folded⟩ := save_some written
    obtain ⟨device_, reads, n, row, most⟩ := (foldlM_rows folded).2.1 bucket inGroup
    rw [owner, uuidIn_uuidOut] at read
    rw [text, devices, uuidIn_uuidOut] at reads
    cases read
    cases reads
    rw [bucketHour] at row
    rw [devices] at least
    exact ⟨n, row, least.trans most⟩
  | unsaved _ _ _ _ before_ failed => exact absurd rfl failed

end

/-- What a device was seen in is what was seen with its text, where calls are certified. -/
theorem passed_subset_textMinutes {calls : List Sighting} {hour : Int} {device : Uuid}
    (certified : ∀ call ∈ calls, call.hour = hour → Certified call) :
    passed calls device hour ⊆ textMinutes calls (uuidOut device) hour := by
  intro minute member
  obtain ⟨call, inside, read, here, same⟩ := mem_passed.mp member
  obtain ⟨_, other, _, text⟩ := certified call inside here
  rw [text, uuidIn_uuidOut] at read
  cases read
  exact mem_textMinutes.mpr ⟨call, inside, text, here, same⟩

/-- Calls of another hour do not count. -/
theorem passed_append {calls more : List Sighting} {hour : Int} {device : Uuid}
    (other : ∀ call ∈ more, call.hour ≠ hour) : passed (calls ++ more) device hour = passed calls device hour := by
  refine Finset.Subset.antisymm (fun minute member => ?_) (passed_mono (List.subset_append_left _ _))
  obtain ⟨call, inside, read, here, same⟩ := mem_passed.mp member
  rcases List.mem_append.mp inside with first | last
  · exact mem_passed.mpr ⟨call, first, read, here, same⟩
  · exact absurd here (other call last)

/-- `Seen` and `Flush` in any interleaving, whatever fails and expires: no row says more minutes
than `Seen` was called in for that device in that hour, and no row ever says less than before.
Where nothing failed and nothing expired up to the first `Close` of an hour and from there to
the `Save`, and `Seen` was over by then, the row says exactly those minutes. -/
theorem uptime_counts {events : List Event} {recorder : Recorder} (ran : Recorder.start.run events = some recorder) :
    (∀ tenant device hour n, recorder.rows (tenant, device, hour) = some n →
      n ≤ (passed (events.flatMap sightingsOf) device hour).card) ∧
    (∀ more later, recorder.run more = some later → Grown recorder.rows later.rows) ∧
    ∀ (tenant device : Uuid) (hour : Int) (earlier during after : List Event) (index : Nat) (members : List String)
      (opened counted : Recorder),
      events = earlier ++ .sweep index (.members (some members)) :: (during ++ .sweep index (.saved .ok) :: after) →
      (∀ event ∈ earlier ++ .sweep index (.members (some members)) :: during, Clean event) →
      (∀ call, .seen call ∈ earlier → call.hour = hour → Certified call) →
      FirstClose hour (uuidOut tenant) earlier during after index members opened counted →
      (∃ call, .seen call ∈ earlier ∧ call.hour = hour ∧ call.tenantId = uuidOut tenant ∧
        call.deviceId = uuidOut device) →
      recorder.rows (tenant, device, hour) = some (passed (events.flatMap sightingsOf) device hour).card := by
  have calls := calls_run ran
  rw [show callsOf Recorder.start = [] from rfl, List.nil_append] at calls
  have bound := (sound_start.run ran).rows
  rw [calls] at bound
  refine ⟨bound, fun more later => grown_run, ?_⟩
  intro tenant device hour earlier during after index members opened counted shape clean certified close some_
  have openedCalls := calls_run close.reached
  rw [show callsOf Recorder.start = [] from rfl, List.nil_append] at openedCalls
  have certifiedCalls : ∀ call ∈ callsOf opened, call.hour = hour → Certified call := by
    intro call member
    rw [openedCalls, seen_mem_iff] at member
    exact certified call member
  have rest : opened.run (.sweep index (.members (some members)) :: (during ++ .sweep index (.saved .ok) :: after)) =
      some recorder := by
    rw [shape, run_append, close.reached] at ran
    exact ran
  rw [← List.cons_append, run_append, close.swept, Option.bind_some] at rest
  obtain ⟨written, stepped, last⟩ := Option.bind_eq_some_iff.mp rest
  obtain ⟨call, member, here, owner, text⟩ := some_
  rw [← seen_mem_iff, ← openedCalls] at member
  obtain ⟨n, row, least⟩ := close.row_saved clean certifiedCalls rfl member here owner text stepped
  obtain ⟨m, stored, more⟩ := grown_run last _ _ row
  have all : passed (events.flatMap sightingsOf) device hour = passed (callsOf opened) device hour := by
    rw [shape, List.flatMap_append, ← openedCalls]
    refine passed_append fun other inside => ?_
    rw [seen_mem_iff] at inside
    refine close.nothing other ?_
    simp only [List.mem_cons, List.mem_append, reduceCtorEq, false_or] at inside
    exact List.mem_append.mpr inside
  have most := bound tenant device hour m stored
  have enough : (passed (events.flatMap sightingsOf) device hour).card ≤ m := by
    rw [all]
    exact ((Finset.card_le_card (passed_subset_textMinutes certifiedCalls)).trans least).trans more
  rw [stored, Nat.le_antisymm most enough]

/-- One device is seen once, and the hour ends. -/
def oneMinute : List Event :=
  [.seen ⟨uuidOut 1, uuidOut 2, 300000000000⟩, .request 0 .ok, .request 0 .ok, .request 0 .ok, .request 0 .ok,
    .flush 3600000000000 1]

def oneMember : List String := [memberText (uuidOut 1) (uuidOut 2)]

def oneCount : List Event := [.sweep 0 (.counted true), .sweep 0 (.cleared .ok [uuidOut 1])]

/-- The minute, and the `Flush` that counts and saves it. -/
def oneHour : List Event :=
  oneMinute ++ .sweep 0 (.members (some oneMember)) :: (oneCount ++ [.sweep 0 (.saved .ok)])

/-- The call of `Flush` before it saves. -/
def oneSave : Flush := ⟨0, [], .saving [(uuidOut 1, [⟨uuidOut 1, uuidOut 2, 0, 1⟩])]⟩

theorem oneMinute_closes :
    ∃ opened counted, FirstClose 0 (uuidOut 1) oneMinute oneCount [] 0 oneMember opened counted := by
  have opens : (Recorder.start.run oneMinute).map (fun recorder => (recorder.flushes, recorder.sightings)) =
      some ([Flush.start 3600000000000 1], [(⟨uuidOut 1, uuidOut 2, 300000000000⟩, .done)]) := by decide +kernel
  have saves : (Recorder.start.run (oneMinute ++ .sweep 0 (.members (some oneMember)) :: oneCount)).map
      Recorder.flushes = some [oneSave] := by decide +kernel
  obtain ⟨opened, reached, shape⟩ := Option.map_eq_some_iff.mp opens
  obtain ⟨flushes, sightings⟩ := Prod.mk.inj shape
  obtain ⟨counted, swept, save⟩ := Option.map_eq_some_iff.mp saves
  rw [run_append, reached, Option.bind_some] at swept
  refine ⟨opened, counted, reached, ?_, ?_, ?_, ?_, ?_, ?_, swept, ?_⟩
  · rintro front event rest middle shape _ ⟨index, found, flush, rfl, _⟩
    have member : Event.sweep index (.members found) ∈ oneMinute := by
      rw [shape]
      exact List.mem_append_right _ List.mem_cons_self
    simp [oneMinute] at member
  · exact ⟨0, _, Flush.start 3600000000000 1, rfl, by rw [flushes]; rfl, by decide +kernel⟩
  · rw [sightings]
    intro call member _
    rw [List.mem_singleton.mp member]
  · intro sighting member
    simp [oneCount] at member
  · intro place flush found apart
    rw [flushes, List.getElem?_singleton, if_neg apart] at found
    cases found
  · intro now lookback member
    simp [oneCount] at member
  · exact ⟨oneSave, _, _, by rw [save]; rfl, rfl, rfl⟩

theorem uptime_counts_one_minute :
    ∃ recorder, Recorder.start.run oneHour = some recorder ∧ recorder.rows (1, 2, 0) = some 1 := by
  obtain ⟨opened, counted, close⟩ := oneMinute_closes
  have ends : (Recorder.start.run oneHour).isSome = true := by decide +kernel
  have counts : (passed (oneHour.flatMap sightingsOf) 2 0).card = 1 := by decide +kernel
  obtain ⟨recorder, ran⟩ := Option.isSome_iff_exists.mp ends
  refine ⟨recorder, ran, ?_⟩
  rw [(uptime_counts ran).2.2 1 2 0 oneMinute oneCount [] 0 oneMember opened counted rfl ?_ ?_ close ?_, counts]
  · intro event member
    simp only [oneMinute, oneCount, List.mem_append, List.mem_cons, List.not_mem_nil, or_false] at member
    rcases member with (rfl | rfl | rfl | rfl | rfl | rfl) | rfl | rfl | rfl
    · exact trivial
    · rfl
    · rfl
    · rfl
    · rfl
    · exact trivial
    · exact Option.some_ne_none _
    · rfl
    · rfl
  · intro call member _
    simp only [oneMinute, List.mem_cons, Event.seen.injEq, reduceCtorEq, List.not_mem_nil, or_false] at member
    exact ⟨1, 2, by rw [member], by rw [member]⟩
  · exact ⟨_, List.mem_cons_self, by decide +kernel, rfl, rfl⟩

end VodogeCloud.Guarantees.UptimeCounts
