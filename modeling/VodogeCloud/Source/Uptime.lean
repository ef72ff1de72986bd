import Mathlib.Data.Finset.Basic
import Mathlib.Data.Finset.Card
import Mathlib.Data.List.Dedup
import VodogeCloud.Lib.CivilTime
import VodogeCloud.Source.NetUrl
import VodogeCloud.Source.Schedule

/-!
# The minutes a device was reachable

`Seen`, `Close`, `BitmapKey`, `HourKey` and `stamp` (apps/gateway/internal/uptime/uptime.go:58-159)
and `Save` and `Flush` (apps/gateway/internal/uptime/store.go:23-94), over the bitmaps and
sets of Redis and `app.device_uptime` (0048_device_uptime.sql:27-41).

A call stops at every request to Redis and at every transaction, and between two stops any
other call may move. A request can fail, before or after it took effect, and a key can expire
at any time, so the times to live are left out. A bitmap is the set of its bits. A hour is
counted from the epoch.
-/

set_option autoImplicit false

namespace VodogeCloud.Source.Uptime

open VodogeCloud.Lib.CivilTime VodogeCloud.Source.Postgres
open VodogeCloud.Source.NetUrl (before after)
open VodogeCloud.Source.Schedule (GoTime)

/-! ## Keys -/

def minutesPerHour : Nat := 60

/-- The hour a moment is in. -/
def hourOf (at_ : GoTime) : Int := at_ / 3600000000000

/-- The minute of its hour. -/
def minuteOf (at_ : GoTime) : Nat := (at_ / 60000000000 % 60).toNat

/-- `stamp`: the hour as `2006010215`. -/
def stamp (hour : Int) : List Char :=
  let date := Date.ofDays (hour / 24)
  yearText date.year ++ (padded 2 date.month.toNat ++ (padded 2 date.day.toNat ++ padded 2 (hour % 24).toNat))

/-- `BitmapKey`. -/
def bitmapKey (deviceId : String) (hour : Int) : String :=
  String.ofList ("uptime:m:".toList ++ (deviceId.toList ++ ':' :: stamp hour))

/-- `HourKey`. -/
def hourKey (hour : Int) : String := String.ofList ("uptime:h:".toList ++ stamp hour)

/-- The member of the set of an hour. -/
def memberText (tenantId deviceId : String) : String := tenantId ++ "|" ++ deviceId

/-- A member cut at its first bar; neither part may be empty. -/
def readMember (member : String) : Option (String × String) :=
  if '|' ∈ member.toList ∧ before '|' member.toList ≠ [] ∧ after '|' member.toList ≠ [] then
    some (String.ofList (before '|' member.toList), String.ofList (after '|' member.toList))
  else none

/-! ## Redis -/

structure Broker where
  bits : String → Finset Nat
  sets : String → Finset String

def Broker.empty : Broker := ⟨fun _ => ∅, fun _ => ∅⟩

def Broker.setBit (broker : Broker) (key : String) (offset : Nat) : Broker :=
  { broker with bits := Function.update broker.bits key (insert offset (broker.bits key)) }

def Broker.bitCount (broker : Broker) (key : String) : Nat := (broker.bits key).card

def Broker.sAdd (broker : Broker) (key member : String) : Broker :=
  { broker with sets := Function.update broker.sets key (insert member (broker.sets key)) }

def Broker.del (broker : Broker) (keys : List String) : Broker where
  bits key := if key ∈ keys then ∅ else broker.bits key
  sets key := if key ∈ keys then ∅ else broker.sets key

/-- How a request or a transaction ends; a failed one may have taken effect. -/
inductive Outcome where
  | ok
  | failed (applied : Bool)
  deriving DecidableEq, Repr

def Outcome.applied : Outcome → Bool
  | .ok => true
  | .failed applied => applied

/-! ## Seen -/

/-- A call of `Seen`. -/
structure Sighting where
  tenantId : String
  deviceId : String
  at_ : GoTime
  deriving DecidableEq, Repr

def Sighting.hour (sighting : Sighting) : Int := hourOf sighting.at_

def Sighting.minute (sighting : Sighting) : Nat := minuteOf sighting.at_

/-- The request `Seen` makes next. -/
inductive SeenStage where
  | setBit | expireBitmap | sAdd | expireMembers | done
  deriving DecidableEq, Repr

def SeenStage.next : SeenStage → SeenStage
  | .setBit => .expireBitmap
  | .expireBitmap => .sAdd
  | .sAdd => .expireMembers
  | .expireMembers => .done
  | .done => .done

/-- What the request of a stage does to Redis. -/
def Sighting.request (sighting : Sighting) (broker : Broker) : SeenStage → Broker
  | .setBit => broker.setBit (bitmapKey sighting.deviceId sighting.hour) sighting.minute
  | .sAdd => broker.sAdd (hourKey sighting.hour) (memberText sighting.tenantId sighting.deviceId)
  | _ => broker

/-! ## The table -/

/-- `minutes_online` by tenant, device and hour. -/
abbrev Rows := Uuid × Uuid × Int → Option Nat

structure Bucket where
  tenantId : String
  deviceId : String
  hour : Int
  minutes : Nat
  deriving DecidableEq, Repr

/-- The insert of one bucket; the larger number stays. -/
def upsert (tenant : Uuid) (rows : Rows) (bucket : Bucket) : Option Rows := do
  let device ← (uuidIn bucket.deviceId).toOption
  let key := (tenant, device, bucket.hour)
  return Function.update rows key (some ((rows key).elim bucket.minutes fun old => max old bucket.minutes))

/-- The transaction of `Save`; none where the server refuses a text as uuid. A reference to a
tenant or a device that is not there is one of the ways a transaction fails. -/
def save (tenantId : String) (buckets : List Bucket) (rows : Rows) : Option Rows := do
  let tenant ← (uuidIn tenantId).toOption
  buckets.foldlM (upsert tenant) rows

/-! ## Flush -/

/-- Where `Flush` stands in the hour it sweeps. -/
inductive FlushStage where
  /-- Before `SMembers`. -/
  | members
  /-- Before `BitCount` of a device, with the members and the keys beside it. -/
  | counting (tenantId deviceId : String) (left keys : List String) (buckets : List Bucket)
  /-- Before `Del`. -/
  | clearing (keys : List String) (buckets : List Bucket)
  /-- Before `Save` of the first tenant. -/
  | saving (groups : List (String × List Bucket))
  | done
  deriving DecidableEq, Repr

/-- A call of `Flush`: the hour it sweeps and those still to sweep. -/
structure Flush where
  hour : Int
  left : List Int
  stage : FlushStage
  deriving DecidableEq, Repr

/-- The next hour. -/
def Flush.next (flush : Flush) : Flush :=
  match flush.left with
  | [] => { flush with stage := .done }
  | hour :: left => ⟨hour, left, .members⟩

/-- `Flush` at its start: at least one hour is swept. -/
def Flush.start (now : GoTime) (lookback : Int) : Flush :=
  ⟨hourOf now - 1, (List.range ((max lookback 1).toNat - 1)).map fun (step : Nat) => hourOf now - ((step : Int) + 2), .members⟩

/-- The next member that is one, or the request that clears the hour. -/
def continueCounting (hour : Int) (keys : List String) (buckets : List Bucket) : List String → FlushStage
  | [] => .clearing (keys ++ [hourKey hour]) buckets
  | member :: left =>
    match readMember member with
    | none => continueCounting hour keys buckets left
    | some (tenantId, deviceId) => .counting tenantId deviceId left (keys ++ [bitmapKey deviceId hour]) buckets

/-- The bucket of a count, if there is one. -/
def bucketOf (tenantId deviceId : String) (hour : Int) (count : Nat) : List Bucket :=
  if count = 0 then [] else [⟨tenantId, deviceId, hour, min count minutesPerHour⟩]

/-- The groups of the tenants in an order. -/
def groupBy (order : List String) (buckets : List Bucket) : List (String × List Bucket) :=
  order.map fun tenantId => (tenantId, buckets.filter fun bucket => bucket.tenantId = tenantId)

/-- The next group, or the next hour. -/
def Flush.continueSaving (flush : Flush) : List (String × List Bucket) → Flush
  | [] => flush.next
  | groups => { flush with stage := .saving groups }

/-- What comes back to `Flush`. -/
inductive Reply where
  /-- The members in some order; none where the request failed. -/
  | members (found : Option (List String))
  /-- Whether `BitCount` succeeded. -/
  | counted (ok : Bool)
  /-- The end of `Del`, and the order in which the tenants are gone through. -/
  | cleared (outcome : Outcome) (order : List String)
  | saved (outcome : Outcome)
  deriving DecidableEq, Repr

/-- One step of `Flush` with Redis and the table; none where the reply is not to its request. -/
def Flush.step (flush : Flush) (broker : Broker) (rows : Rows) : Reply → Option (Flush × Broker × Rows)
  | .members found =>
    if flush.stage = .members then
      match found with
      | none => some (flush.next, broker, rows)
      | some members =>
        if members.Nodup ∧ members.toFinset = broker.sets (hourKey flush.hour) then
          some ({ flush with stage := continueCounting flush.hour [] [] members }, broker, rows)
        else none
    else none
  | .counted ok =>
    match flush.stage with
    | .counting tenantId deviceId left keys buckets =>
      if ok then
        let count := broker.bitCount (bitmapKey deviceId flush.hour)
        some ({ flush with
          stage := continueCounting flush.hour keys (buckets ++ bucketOf tenantId deviceId flush.hour count) left },
          broker, rows)
      else some (flush.next, broker, rows)
    | _ => none
  | .cleared outcome order =>
    match flush.stage with
    | .clearing keys buckets =>
      if order.Perm (buckets.map Bucket.tenantId).dedup then
        some (flush.continueSaving (groupBy order buckets), if outcome.applied then broker.del keys else broker, rows)
      else none
    | _ => none
  | .saved outcome =>
    match flush.stage with
    | .saving ((tenantId, group) :: groups) =>
      let flush := flush.continueSaving groups
      match save tenantId group rows with
      | some after => some (flush, broker, if outcome.applied then after else rows)
      | none => if outcome = .ok then none else some (flush, broker, rows)
    | _ => none

/-! ## Runs -/

/-- Redis, the table, and the calls so far with where they stand. -/
structure Recorder where
  broker : Broker
  rows : Rows
  sightings : List (Sighting × SeenStage)
  flushes : List Flush

def Recorder.start : Recorder := ⟨Broker.empty, fun _ => none, [], []⟩

inductive Event where
  /-- `Seen` is called. -/
  | seen (sighting : Sighting)
  /-- The next request of the call of `Seen` at the index. -/
  | request (index : Nat) (outcome : Outcome)
  /-- `Flush` is called. -/
  | flush (now : GoTime) (lookback : Int)
  /-- The next step of the call of `Flush` at the index. -/
  | sweep (index : Nat) (reply : Reply)
  | expire (key : String)

/-- A call of `Seen` after a request: a failure ends it. -/
def afterRequest (outcome : Outcome) (call : Sighting × SeenStage) : Sighting × SeenStage :=
  (call.1, if outcome = .ok then call.2.next else .done)

def Recorder.step (recorder : Recorder) : Event → Option Recorder
  | .seen sighting => some { recorder with sightings := recorder.sightings ++ [(sighting, .setBit)] }
  | .request index outcome =>
    match recorder.sightings[index]? with
    | none => none
    | some (sighting, stage) =>
      if stage = .done then none
      else
        some { recorder with
          broker := if outcome.applied then sighting.request recorder.broker stage else recorder.broker
          sightings := recorder.sightings.modify index (afterRequest outcome) }
  | .flush now lookback => some { recorder with flushes := recorder.flushes ++ [Flush.start now lookback] }
  | .sweep index reply =>
    match recorder.flushes[index]? with
    | none => none
    | some flush =>
      (flush.step recorder.broker recorder.rows reply).map fun (flush, broker, rows) =>
        { recorder with broker := broker, rows := rows, flushes := recorder.flushes.set index flush }
  | .expire key => some { recorder with broker := recorder.broker.del [key] }

def Recorder.run (recorder : Recorder) (events : List Event) : Option Recorder := events.foldlM Recorder.step recorder

end VodogeCloud.Source.Uptime
