import Mathlib
import VodogeCloud.Guarantees.AcceptedRecords
import VodogeCloud.Lib.LatestWins

/-!
# A modem row is a register of its observations

For one IMEI the upsert of `app.accept_ingress` is a register stamped with the time
of observation: what is offered to it are the entries of the accepted records that
name the IMEI, in the order of acceptance. Everything the row shows follows from
that: the live columns are those of the newest record, and a column of the card
is never older than the card.
-/

set_option autoImplicit false

namespace VodogeCloud.Guarantees.ModemObservations

open VodogeCloud.Lib VodogeCloud.Lib.Transactions VodogeCloud.Lib.LatestWins
open VodogeCloud.Source.Postgres VodogeCloud.Source.IngressWindow VodogeCloud.Source.IngressWrites
open VodogeCloud.Source.DeviceProjection VodogeCloud.Guarantees.AcceptedRecords

/-- The time of an observation; none is before all others. -/
def stamp (seen : Observation) : WithBot Timestamp :=
  match seen.lastSeenAt with
  | some at_ => (at_ : WithBot Timestamp)
  | none => ⊥

theorem notOlder_iff {old new : Observation} {at_ : Timestamp} (timed : new.lastSeenAt = some at_) :
    notOlder old new = true ↔ stamp old ≤ stamp new := by
  cases before : old.lastSeenAt with
  | none => simp [notOlder, stamp, timed, before]
  | some earlier => simp [notOlder, stamp, timed, before]

theorem stamp_merge {old new : Observation} {at_ : Timestamp} (timed : new.lastSeenAt = some at_)
    (later : stamp old ≤ stamp new) : stamp (mergeObservation old new) = stamp new := by
  cases before : old.lastSeenAt with
  | none => simp [mergeObservation, stamp, timed, before, greatest]
  | some earlier =>
    simp only [stamp, timed, before, WithBot.coe_le_coe] at later
    simp [mergeObservation, stamp, timed, before, greatest, later]

/-- The modem rows as registers. -/
def register (modems : Table ModemRow.key) (tenant device : Uuid) (imei : String) :
    Option Observation :=
  (modems.find (tenant, device, imei)).map ModemRow.seen

theorem register_of_mem {modems : Table ModemRow.key} {tenant device : Uuid} {modem : ModemRow}
    (member : modem ∈ modems) (own : modem.of tenant device = true) :
    register modems tenant device modem.imei = some modem.seen := by
  simp only [ModemRow.of, Bool.and_eq_true, decide_eq_true_eq] at own
  have key : modem.key = (tenant, device, modem.imei) := by simp [ModemRow.key, own.1, own.2]
  simp [register, Table.find_eq_some_iff.mpr ⟨member, key⟩]

/-! ## What is offered -/

/-- The entries of a payload that name the IMEI. -/
def entriesFor (casts : Casts) (imei : String) (entries : List Jsonb) : List Jsonb :=
  entries.filter fun entry => nullif (casts.field entry "modem_imei") = some imei

/-- The observations an accepted record offers to the IMEI's row. -/
def offers (casts : Casts) (imei : String) (record : IngressRow) : List Observation :=
  match casts.instant record.payload "observed_at", elementsAt record.payload "modems" with
  | .ok observed, .ok entries =>
    (entriesFor casts imei entries).filterMap fun entry => (readModem casts observed entry).toOption
  | _, _ => []

theorem readModem_timed {casts : Casts} {observed : Timestamp} {entry : Jsonb} {seen : Observation}
    (h : readModem casts observed entry = .ok seen) : seen.lastSeenAt = some observed := by
  obtain ⟨_, _, h⟩ := bind_success h
  obtain ⟨_, _, h⟩ := bind_success h
  obtain ⟨_, _, h⟩ := bind_success h
  obtain ⟨_, _, h⟩ := bind_success h
  obtain ⟨_, _, h⟩ := bind_success h
  obtain ⟨_, _, h⟩ := bind_success h
  obtain ⟨_, _, h⟩ := bind_success h
  dsimp only at h
  split at h
  · cases h
  · split at h
    · cases h
    · cases h
      rfl

section Upsert

variable {casts : Casts} {record : IngressRow} {observed : Timestamp} {modems modems' : Table ModemRow.key}
  {imei : String}

/-- One entry: offered to the row it names, and to no other. -/
theorem projectModem_register {entry : Jsonb}
    (h : projectModem casts record observed modems entry = .ok modems') :
    if nullif (casts.field entry "modem_imei") = some imei then
      ∃ seen, readModem casts observed entry = .ok seen ∧
        register modems' record.tenantId record.deviceId imei =
          write stamp mergeObservation (register modems record.tenantId record.deviceId imei) seen
    else register modems' record.tenantId record.deviceId imei =
      register modems record.tenantId record.deviceId imei := by
  unfold projectModem at h
  cases named : nullif (casts.field entry "modem_imei") with
  | none =>
    rw [named] at h
    cases h
    simp
  | some other =>
    rw [named] at h
    obtain ⟨seen, read, h⟩ := bind_success h
    cases h
    split
    · next same =>
      cases same
      refine ⟨seen, read, ?_⟩
      have timed := readModem_timed read
      have found := @Table.find_upsert_self _ _ _ _ modems
        ⟨record.tenantId, record.deviceId, imei, seen, true⟩ (observeModem seen) (observeModem_key seen)
      simp only [ModemRow.key] at found
      unfold register
      rw [found]
      cases stored : modems.find (record.tenantId, record.deviceId, imei) with
      | none => rfl
      | some row =>
        simp only [Option.map_some, Option.getD_some, write, observeModem]
        by_cases later : stamp row.seen ≤ stamp seen
        · rw [if_pos ((notOlder_iff timed).mpr later), if_pos later]
        · rw [if_neg (fun passes => later ((notOlder_iff timed).mp passes)), if_neg later]
    · next differs =>
      unfold register
      rw [Table.find_upsert_of_ne]
      intro same
      simp only [ModemRow.key, Prod.mk.injEq, true_and] at same
      exact differs (by rw [same])

theorem foldlM_register {entries : List Jsonb}
    (h : entries.foldlM (projectModem casts record observed) modems = .ok modems') :
    register modems' record.tenantId record.deviceId imei =
      ((entriesFor casts imei entries).filterMap fun entry =>
        (readModem casts observed entry).toOption).foldl (write stamp mergeObservation)
          (register modems record.tenantId record.deviceId imei) ∧
    ∀ entry ∈ entriesFor casts imei entries, ∃ seen, readModem casts observed entry = .ok seen := by
  induction entries generalizing modems with
  | nil =>
    cases h
    exact ⟨rfl, by simp [entriesFor]⟩
  | cons entry rest ih =>
    rw [List.foldlM_cons] at h
    obtain ⟨middle, first, h⟩ := bind_success h
    obtain ⟨folded, read⟩ := ih h
    have one := @projectModem_register casts record observed modems middle imei entry first
    unfold entriesFor at folded read ⊢
    split at one
    · next named =>
      obtain ⟨seen, readEntry, wrote⟩ := one
      simp only [List.filter_cons, named, decide_true, if_true, List.filterMap_cons, readEntry,
        Except.toOption, List.foldl_cons, List.mem_cons]
      refine ⟨by rw [← wrote]; exact folded, ?_⟩
      rintro other (rfl | inRest)
      · exact ⟨seen, readEntry⟩
      · exact read other inRest
    · next unnamed =>
      simp only [List.filter_cons, unnamed, decide_false, Bool.false_eq_true, if_false]
      exact ⟨by rw [folded, one], read⟩

/-- A record of another device does not reach the row. -/
theorem foldlM_foreign {entries : List Jsonb} {tenant device : Uuid}
    (other : ¬ (record.tenantId = tenant ∧ record.deviceId = device))
    (h : entries.foldlM (projectModem casts record observed) modems = .ok modems') :
    modems'.find (tenant, device, imei) = modems.find (tenant, device, imei) := by
  refine foldlM_keeps (fun table => table.find (tenant, device, imei))
    (fun before entry after turn => ?_) h
  unfold projectModem at turn
  split at turn
  · cases turn
    rfl
  · obtain ⟨seen, _, turn⟩ := bind_success turn
    cases turn
    apply Table.find_upsert_of_ne
    intro same
    simp only [ModemRow.key, Prod.mk.injEq] at same
    exact other ⟨same.1.symm, same.2.1.symm⟩

/-- The managed flag is not part of the register. -/
theorem projectManagedModems_register (tenant device : Uuid) :
    register (projectManagedModems casts record modems) tenant device imei =
      register modems tenant device imei := by
  unfold projectManagedModems
  split
  · rfl
  · unfold register
    rw [Table.find_update, Option.map_map]
    congr 1
    funext row
    simp only [Function.comp_apply]
    split
    · rfl
    · rfl

end Upsert

/-! ## Runs -/

section Run

variable {τ : Type} {casts : Casts} {others : DeviceTables → τ → IngressRow → Except PgError τ}
  {tenant device : Uuid}

/-- A record that could be accepted as far as the IMEI is concerned. -/
structure Readable (casts : Casts) (imei : String) (record : IngressRow) (observed : Timestamp)
    (entries : List Jsonb) : Prop where
  timed : casts.instant record.payload "observed_at" = .ok observed
  listed : elementsAt record.payload "modems" = .ok entries
  read : ∀ entry ∈ entriesFor casts imei entries, ∃ seen, readModem casts observed entry = .ok seen

theorem Readable.offers {imei : String} {record : IngressRow} {observed : Timestamp}
    {entries : List Jsonb} (readable : Readable casts imei record observed entries) :
    offers casts imei record = (entriesFor casts imei entries).filterMap fun entry =>
      (readModem casts observed entry).toOption := by
  simp only [ModemObservations.offers, readable.timed, readable.listed]

/-- The row of an IMEI is the register of what the accepted records offered. -/
def Registered (casts : Casts) (tenant device : Uuid) (imei : String) (states : List IngressRow)
    (tables : DeviceTables) : Prop :=
  register tables.modems tenant device imei =
    writes stamp mergeObservation (states.flatMap (offers casts imei)) ∧
  ∀ record ∈ states, ∃ observed entries, Readable casts imei record observed entries

theorem Registered.own {imei : String} {states journal : List IngressRow} {record : IngressRow}
    {tables tables' : DeviceTables} (isOwn : isState tenant device record = true)
    (before : Registered casts tenant device imei states tables)
    (h : projectDeviceState casts journal record tables = .ok tables') :
    Registered casts tenant device imei (states ++ [record]) tables' := by
  obtain ⟨rfl, rfl, _⟩ := isState_iff.mp isOwn
  obtain ⟨observed, timed, h⟩ := bind_success h
  obtain ⟨_, _, h⟩ := bind_success h
  obtain ⟨modems, projected, h⟩ := bind_success h
  obtain ⟨_, _, h⟩ := bind_success h
  cases h
  obtain ⟨entries, listed, projected⟩ := bind_success projected
  obtain ⟨folded, read⟩ := @foldlM_register _ _ _ _ _ imei _ projected
  have readable : Readable casts imei record observed entries := ⟨timed, listed, read⟩
  refine ⟨?_, ?_⟩
  · show register modems _ _ imei = _
    rw [folded, projectManagedModems_register, before.1, List.flatMap_append]
    simp [writes, List.foldl_append, readable.offers]
  · intro other member
    rcases List.mem_append.mp member with old | new
    · exact before.2 other old
    · rw [List.mem_singleton.mp new]
      exact ⟨observed, entries, readable⟩

theorem Registered.foreign {imei : String} {states journal : List IngressRow} {record : IngressRow}
    {tables tables' : DeviceTables}
    (other : ¬ (record.tenantId = tenant ∧ record.deviceId = device))
    (before : Registered casts tenant device imei states tables)
    (h : projectDeviceState casts journal record tables = .ok tables') :
    Registered casts tenant device imei states tables' := by
  obtain ⟨_, _, h⟩ := bind_success h
  obtain ⟨_, _, h⟩ := bind_success h
  obtain ⟨modems, projected, h⟩ := bind_success h
  obtain ⟨_, _, h⟩ := bind_success h
  cases h
  obtain ⟨_, _, projected⟩ := bind_success projected
  refine ⟨?_, before.2⟩
  show register modems _ _ imei = _
  rw [register, foldlM_foreign other projected]
  exact (projectManagedModems_register tenant device).trans before.1

theorem run_registered {start : Intake τ}
    (noStates : ∀ row ∈ start.journal.ingress, row.deviceId = device → row.kind ≠ "DeviceState")
    (noModems : ∀ row ∈ start.tables.modems, row.of tenant device = false) (imei : String)
    (ops : List AcceptOp) :
    Registered casts tenant device imei (acceptedStates casts others start tenant device ops)
      (run (acceptRecord casts others) start ops).tables := by
  have absent : start.tables.modems.find (tenant, device, imei) = none := by
    refine Table.find_eq_none_iff.mpr fun row member same => ?_
    simp only [ModemRow.key, Prod.mk.injEq] at same
    have foreign := noModems row member
    simp [ModemRow.of, same.1, same.2.1] at foreign
  have init : Registered casts tenant device imei [] start.tables :=
    ⟨by simp [register, absent, writes], nofun⟩
  exact run_states noStates init
    (fun _ _ _ _ _ isOwn _ before projected => before.own isOwn projected)
    (fun _ _ _ _ _ other before projected => before.foreign other projected)
    (fun _ _ _ before => before) ops

/-! ## The newest observation -/

/-- Where an element of a concatenation stands. -/
theorem flatMap_split {α β : Type} {f : α → List β} {items : List α} {before after : List β} {x : β}
    (cut : items.flatMap f = before ++ x :: after) :
    ∃ item ∈ items, ∃ front back, f item = front ++ x :: back ∧ (∀ y ∈ back, y ∈ after) := by
  induction items generalizing before with
  | nil => simp at cut
  | cons item rest ih =>
    rw [List.flatMap_cons] at cut
    rcases List.append_eq_append_iff.mp cut with ⟨gap, rfl, right⟩ | ⟨gap, left, right⟩
    · obtain ⟨other, member, front, back, inside, within⟩ := ih right
      exact ⟨other, List.mem_cons_of_mem _ member, front, back, inside, within⟩
    · cases gap with
      | nil =>
        obtain ⟨other, member, front, back, inside, within⟩ := @ih [] right.symm
        exact ⟨other, List.mem_cons_of_mem _ member, front, back, inside, within⟩
      | cons head gap =>
        rw [List.cons_append] at right
        cases right
        exact ⟨item, List.mem_cons_self, before, gap, left, fun y member => List.mem_append_left _ member⟩

theorem mem_offers {imei : String} {record : IngressRow} {observed : Timestamp} {entries : List Jsonb}
    {seen : Observation} (readable : Readable casts imei record observed entries) :
    seen ∈ offers casts imei record ↔
      ∃ entry ∈ entriesFor casts imei entries, readModem casts observed entry = .ok seen := by
  rw [readable.offers, List.mem_filterMap]
  refine exists_congr fun entry => and_congr_right fun _ => ?_
  cases readModem casts observed entry with
  | ok value => simp [Except.toOption]
  | error err => simp [Except.toOption]

theorem stamp_offer {imei : String} {record : IngressRow} {observed : Timestamp}
    {entries : List Jsonb} {seen : Observation} (readable : Readable casts imei record observed entries)
    (member : seen ∈ offers casts imei record) :
    seen.lastSeenAt = some observed ∧ stamp seen = (observed : WithBot Timestamp) := by
  obtain ⟨entry, _, read⟩ := (mem_offers readable).mp member
  have timed := readModem_timed read
  exact ⟨timed, by simp [stamp, timed]⟩

/-- The last offer of a record is what its last entry says. -/
theorem getLast_offers {imei : String} {record : IngressRow} {observed : Timestamp}
    {entries : List Jsonb} {front : List Observation} {winner : Observation}
    (readable : Readable casts imei record observed entries)
    (within : offers casts imei record = front ++ [winner]) :
    ∃ entry, (entriesFor casts imei entries).getLast? = some entry ∧
      readModem casts observed entry = .ok winner := by
  rw [readable.offers] at within
  rcases (entriesFor casts imei entries).eq_nil_or_concat with none_ | ⟨rest, entry, ends⟩
  · rw [none_] at within
    simp at within
  · obtain ⟨seen, read⟩ := readable.read entry (by simp [ends])
    rw [List.concat_eq_append] at ends
    rw [ends, List.filterMap_append, List.filterMap_cons, List.filterMap_nil, read] at within
    obtain ⟨_, same⟩ := List.append_inj' within rfl
    cases same
    exact ⟨entry, by simp [ends], read⟩

/-- What a record says about an IMEI: its last entry that names it. -/
def Says (casts : Casts) (imei : String) (record : IngressRow) (observed : Timestamp)
    (seen : Observation) : Prop :=
  ∃ entries entry, casts.instant record.payload "observed_at" = .ok observed ∧
    elementsAt record.payload "modems" = .ok entries ∧
    (entriesFor casts imei entries).getLast? = some entry ∧ readModem casts observed entry = .ok seen

/-- The record lists the IMEI. -/
def Lists (casts : Casts) (imei : String) (record : IngressRow) : Prop :=
  ∃ entries, elementsAt record.payload "modems" = .ok entries ∧ entriesFor casts imei entries ≠ []

/-- The row of a modem shows one of the newest of the records that list it. -/
theorem modem_shows_record {start : Intake τ}
    (noStates : ∀ row ∈ start.journal.ingress, row.deviceId = device → row.kind ≠ "DeviceState")
    (noModems : ∀ row ∈ start.tables.modems, row.of tenant device = false) (ops : List AcceptOp)
    {modem : ModemRow} (member : modem ∈ (run (acceptRecord casts others) start ops).tables.modems)
    (own : modem.of tenant device = true) :
    ∃ newest ∈ acceptedStates casts others start tenant device ops, ∃ observed seen,
      Says casts modem.imei newest observed seen ∧
      (∀ other ∈ acceptedStates casts others start tenant device ops, Lists casts modem.imei other →
        ∀ at_, casts.instant other.payload "observed_at" = .ok at_ → at_ ≤ observed) ∧
      modem.seen.lastSeenAt = some observed ∧ modem.seen.live = seen.live := by
  obtain ⟨holds, readable⟩ := @run_registered τ casts others tenant device start noStates noModems
    modem.imei ops
  generalize acceptedStates casts others start tenant device ops = states at *
  rw [register_of_mem member own] at holds
  have some_ : states.flatMap (offers casts modem.imei) ≠ [] := by
    intro none_
    rw [none_] at holds
    cases holds
  have timedOffers : ∀ offered ∈ states.flatMap (offers casts modem.imei), ∃ at_,
      offered.lastSeenAt = some at_ := by
    intro offered inAll
    obtain ⟨record, inStates, inOffers⟩ := List.mem_flatMap.mp inAll
    obtain ⟨observed, entries, reads⟩ := readable record inStates
    exact ⟨observed, (stamp_offer reads inOffers).1⟩
  obtain ⟨before, winner, after, final, cut, wrote, stamped, viewed, low, high⟩ :=
    @writes_latest _ _ _ stamp mergeObservation _ Observation.live _ some_
      (fun old offered inAll later => by
        obtain ⟨at_, timed⟩ := timedOffers offered inAll
        exact ⟨stamp_merge timed later, rfl⟩)
  rw [wrote] at holds
  cases holds
  obtain ⟨newest, inStates, front, back, within, later⟩ := flatMap_split cut
  obtain ⟨observed, entries, reads⟩ := readable newest inStates
  have inOffers : winner ∈ offers casts modem.imei newest := by simp [within]
  obtain ⟨_, winnerStamp⟩ := stamp_offer reads inOffers
  -- no entry of the winning record comes after the winner
  have last : back = [] := by
    cases back with
    | nil => rfl
    | cons next rest =>
      have below := high next (later next List.mem_cons_self)
      have inNext : next ∈ offers casts modem.imei newest := by simp [within]
      rw [winnerStamp, (stamp_offer reads inNext).2] at below
      exact absurd below (lt_irrefl _)
  subst last
  refine ⟨newest, inStates, observed, winner, ?_, ?_, ?_, viewed⟩
  · obtain ⟨entry, isLast, read⟩ := getLast_offers reads within
    exact ⟨entries, entry, reads.timed, reads.listed, isLast, read⟩
  · rintro other inStates' ⟨entries', listed', named⟩ at_ timed'
    obtain ⟨observed', entries'', reads'⟩ := readable other inStates'
    rw [reads'.timed] at timed'
    cases timed'
    rw [reads'.listed] at listed'
    cases listed'
    obtain ⟨entry, inEntries⟩ := List.exists_mem_of_ne_nil _ named
    obtain ⟨seen, read⟩ := reads'.read entry inEntries
    have offered := (mem_offers reads').mpr ⟨entry, inEntries, read⟩
    have inAll : seen ∈ before ++ winner :: after := by
      rw [← cut]
      exact List.mem_flatMap.mpr ⟨other, inStates', offered⟩
    have bound : stamp seen ≤ stamp winner := by
      rcases List.mem_append.mp inAll with inBefore | inRest
      · exact low seen inBefore
      · rcases List.mem_cons.mp inRest with rfl | inAfter
        · exact le_refl _
        · exact (high seen inAfter).le
    rw [(stamp_offer reads' offered).2, winnerStamp] at bound
    exact WithBot.coe_le_coe.mp bound
  · rw [winnerStamp] at stamped
    unfold stamp at stamped
    split at stamped
    · next at_ timed => rw [timed, WithBot.coe_inj.mp stamped]
    · cases stamped

/-- The row dates from the largest time of the records that list its IMEI, and its
live columns are what the record of that time says. -/
def ShowsNewest (casts : Casts) (states : List IngressRow) (modem : ModemRow) : Prop :=
  ∃ observed, modem.seen.lastSeenAt = some observed ∧
    (∃ record ∈ states, Lists casts modem.imei record ∧
      casts.instant record.payload "observed_at" = .ok observed) ∧
    (∀ record ∈ states, Lists casts modem.imei record →
      ∀ at_, casts.instant record.payload "observed_at" = .ok at_ → at_ ≤ observed) ∧
    ∀ record ∈ states, casts.instant record.payload "observed_at" = .ok observed →
      ∃ seen, Says casts modem.imei record observed seen ∧ modem.seen.live = seen.live

/-- After any run, in whatever order the records came, the row of a modem dates
from the largest time of the records that list it and shows what the record of
that time says. -/
theorem modem_shows_newest {start : Intake τ}
    (noStates : ∀ row ∈ start.journal.ingress, row.deviceId = device → row.kind ≠ "DeviceState")
    (noModems : ∀ row ∈ start.tables.modems, row.of tenant device = false) (ops : List AcceptOp)
    (distinct : ∀ a ∈ acceptedStates casts others start tenant device ops,
      ∀ b ∈ acceptedStates casts others start tenant device ops,
        casts.instant a.payload "observed_at" = casts.instant b.payload "observed_at" → a = b)
    {modem : ModemRow} (member : modem ∈ (run (acceptRecord casts others) start ops).tables.modems)
    (own : modem.of tenant device = true) :
    ShowsNewest casts (acceptedStates casts others start tenant device ops) modem := by
  obtain ⟨newest, inStates, observed, seen, told, bound, lastSeen, live⟩ :=
    modem_shows_record noStates noModems ops member own
  have newestTimed : casts.instant newest.payload "observed_at" = .ok observed := by
    obtain ⟨_, _, timed, _⟩ := told
    exact timed
  refine ⟨observed, lastSeen, ⟨newest, inStates, ?_, newestTimed⟩, bound, ?_⟩
  · obtain ⟨entries, entry, _, listed, isLast, _⟩ := told
    refine ⟨entries, listed, fun none_ => ?_⟩
    rw [none_] at isLast
    cases isLast
  · intro record inStates' timed
    rw [distinct record inStates' newest inStates (timed.trans newestTimed.symm)]
    exact ⟨seen, told, live⟩

/-- A record with one module: its IMEI is 86, and the rest is as given. -/
def moduleState (observed : Nat) (fields : List (String × Jsonb)) : List (String × Jsonb) :=
  [("modems", .arr [.obj (fields ++ [("modem_imei", .str "86")])]), ("observed_at", .num observed)]

/-- The newer record first, the older one after it. -/
def lateOlder : List AcceptOp :=
  [stateOp secondSeq (moduleState 20 [("rsrp", .num (-90))]),
    stateOp firstSeq (moduleState 10 [("rsrp", .num (-50))])]

theorem late_record_not_shown :
    (afterStates lateOlder).tables.modems.rows.map (fun modem => modem.seen.live.rsrp) = [some (-90)] ∧
    ∀ modem ∈ (afterStates lateOlder).tables.modems, modem.of 1 2 = true →
      ShowsNewest plainCasts (acceptedStates plainCasts noOthers silentDevice 1 2 lateOlder) modem := by
  refine ⟨by decide, fun modem member own => ?_⟩
  exact modem_shows_newest (by decide) (by decide) lateOlder (by decide)
    member own

/-! ## The card -/

/-- The columns that must not outlive the card. -/
def cardColumns : List (Card → Option String) :=
  [Card.imsi, Card.homePlmn, Card.msisdn, Card.msisdnIccid]

theorem merge_column {column : Card → Option String} (isCard : column ∈ cardColumns)
    (old new : Observation) :
    column (mergeObservation old new).card = carried old.card new.card column := by
  simp only [cardColumns, List.mem_cons, List.not_mem_nil, or_false] at isCard
  rcases isCard with rfl | rfl | rfl | rfl
  · rfl
  · rfl
  · rfl
  · rfl

section Columns

variable {column : Card → Option String} (isCard : column ∈ cardColumns) (old new : Observation)

include isCard

theorem column_brought {value : String} (reported : column new.card = some value) :
    column (mergeObservation old new).card = some value := by
  rw [merge_column isCard, carried, if_pos (by simp [reported]), reported]

theorem column_kept (absent : column new.card = none)
    (same : (mergeObservation old new).card.iccid = old.card.iccid) :
    column (mergeObservation old new).card = column old.card := by
  rw [merge_column isCard, carried, if_neg (by simp [absent])]
  exact if_pos same.symm

theorem column_dropped (absent : column new.card = none)
    (changed : (mergeObservation old new).card.iccid ≠ old.card.iccid) :
    column (mergeObservation old new).card = none := by
  rw [merge_column isCard, carried, if_neg (by simp [absent])]
  exact if_neg fun same => changed same.symm

end Columns

/-- Everything the accepted records offered to the row of an IMEI, in order. -/
def history (casts : Casts) (others : DeviceTables → τ → IngressRow → Except PgError τ)
    (start : Intake τ) (tenant device : Uuid) (ops : List AcceptOp) (imei : String) :
    List Observation :=
  (acceptedStates casts others start tenant device ops).flatMap (offers casts imei)

/-- The observation is what the offers leave in the row, and for each card column
that is not NULL: an applied offer reported it and no offer applied after that one
changed the stored iccid; and if some applied offer changed the stored iccid, that
offer or one applied later reported it. -/
def CardReported (offered : List Observation) (seen : Observation) : Prop :=
  writes stamp mergeObservation offered = some seen ∧
  ∀ column ∈ cardColumns, ∀ value, column seen.card = some value →
    (∃ before source after, offered = before ++ source :: after ∧
      Applies stamp (writes stamp mergeObservation before) source ∧
      column source.card = some value ∧
      Steady stamp mergeObservation (fun seen => seen.card.iccid) (before ++ [source]) after) ∧
    ∀ before changer after old, offered = before ++ changer :: after →
      writes stamp mergeObservation before = some old → stamp old ≤ stamp changer →
      (mergeObservation old changer).card.iccid ≠ old.card.iccid →
      column changer.card = some value ∨
        ∃ middle later rest, after = middle ++ later :: rest ∧
          Applies stamp (writes stamp mergeObservation (before ++ changer :: middle)) later ∧
          column later.card = some value

/-- After any run, a card column that is not NULL was reported by an applied
observation after which no applied one changed the stored iccid; and from an
observation that changed it on, the column is what that observation or a later
applied one reported, or NULL. -/
theorem card_not_outlived {start : Intake τ}
    (noStates : ∀ row ∈ start.journal.ingress, row.deviceId = device → row.kind ≠ "DeviceState")
    (noModems : ∀ row ∈ start.tables.modems, row.of tenant device = false) (ops : List AcceptOp)
    {modem : ModemRow} (member : modem ∈ (run (acceptRecord casts others) start ops).tables.modems)
    (own : modem.of tenant device = true) :
    CardReported (history casts others start tenant device ops modem.imei) modem.seen := by
  have stored : writes stamp mergeObservation
      (history casts others start tenant device ops modem.imei) = some modem.seen := by
    have holds := (@run_registered τ casts others tenant device start noStates noModems modem.imei
      ops).1
    rw [register_of_mem member own] at holds
    exact holds.symm
  refine ⟨stored, fun column isCard value held => ⟨?_, ?_⟩⟩
  · exact writes_carried (fun old new value => column_brought isCard old new)
      (column_kept isCard) (column_dropped isCard) _ stored held
  · intro before changer after old cut earlier applied changed
    rw [cut] at stored
    exact @writes_since_change _ _ _ stamp mergeObservation _ _ (fun seen => seen.card.iccid)
      (fun seen => column seen.card) (fun old new value => column_brought isCard old new)
      (column_kept isCard) (column_dropped isCard) _ _ _ _ _ _ earlier applied changed stored held

end Run

/-- A module reports its card and number, then another card whose number it could
not read. -/
def swappedCard : List AcceptOp :=
  [stateOp firstSeq (moduleState 10 [("imsi", .str "262"), ("iccid", .str "8949")]),
    stateOp secondSeq (moduleState 20 [("iccid", .str "8943")])]

theorem swapped_card_forgotten :
    (afterStates swappedCard).tables.modems.rows.map (fun modem => modem.seen.card.imsi) = [none] ∧
    ∀ modem ∈ (afterStates swappedCard).tables.modems, modem.of 1 2 = true →
      CardReported (history plainCasts noOthers silentDevice 1 2 swappedCard modem.imei) modem.seen := by
  refine ⟨by decide, fun modem member own => ?_⟩
  exact card_not_outlived (by decide) (by decide) swappedCard member own

end VodogeCloud.Guarantees.ModemObservations
