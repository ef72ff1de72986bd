import Mathlib.Data.Finset.Max
import VodogeCloud.Guarantees.AcceptedRecords
import VodogeCloud.Lib.LatestWins
import VodogeCloud.Source.EsimInventory

/-!
# The eSIM inventory and the order of arrival

For one ICCID of a chip an inventory is a reading: a time, a modem, and the state
it lists the profile with, if it lists it. A reading that lists nothing marks a row
that is there, but leaves no trace where there is none yet. So the readings before
the first that lists the profile do not count, and the row ends with the newest of
the others and with the modem of the last listing that was in time.
-/

set_option autoImplicit false

namespace VodogeCloud.Guarantees.InventoryOrder

open VodogeCloud.Lib VodogeCloud.Lib.Transactions VodogeCloud.Lib.LatestWins
open VodogeCloud.Source.Postgres VodogeCloud.Source.DeviceProjection VodogeCloud.Source.EsimInventory
open VodogeCloud.Guarantees.AcceptedRecords (plainCasts)

/-- What is compared of a row. -/
structure Mark where
  state : ProfileState
  collectedAt : Timestamp
  modemImei : Option String
  deriving DecidableEq, Repr

/-- What an inventory says of one ICCID. -/
structure Reading where
  collectedAt : Timestamp
  modemImei : Option String
  said : Option ProfileState
  deriving DecidableEq, Repr

def Reading.lists (reading : Reading) : Bool := reading.said.isSome

/-- A listing, offered to the row. -/
def offerMark (stored : Option Mark) (new : Mark) : Option Mark :=
  match stored with
  | none => some new
  | some old => if old.collectedAt ≤ new.collectedAt then some new else some old

/-- One reading. -/
def markStep (stored : Option Mark) (reading : Reading) : Option Mark :=
  match reading.said with
  | some state => offerMark stored ⟨state, reading.collectedAt, reading.modemImei⟩
  | none => stored.map fun old =>
      if old.collectedAt < reading.collectedAt then
        { old with state := .deleted, collectedAt := reading.collectedAt }
      else old

/-! ## Readings of one profile -/

section Readings

variable {readings : List Reading}

/-- The readings from the first that lists the profile on. -/
def sinceListing (readings : List Reading) : List Reading :=
  readings.dropWhile fun reading => !reading.lists

theorem sinceListing_concat (readings : List Reading) (last : Reading) :
    sinceListing (readings ++ [last]) =
      if sinceListing readings = [] then (if last.lists then [last] else [])
      else sinceListing readings ++ [last] := by
  induction readings with
  | nil =>
    cases listed : last.lists with
    | true => simp [sinceListing, listed]
    | false => simp [sinceListing, listed]
  | cons first rest ih =>
    unfold sinceListing at ih ⊢
    cases listed : first.lists with
    | true => simp [listed]
    | false =>
      simp only [List.cons_append, List.dropWhile_cons, listed, Bool.not_false, if_true]
      exact ih

theorem mem_of_sinceListing {reading : Reading} (member : reading ∈ sinceListing readings) :
    reading ∈ readings := (List.dropWhile_sublist _).mem member

/-- A reading that lists the profile is never dropped. -/
theorem mem_sinceListing {reading : Reading} (member : reading ∈ readings)
    (listed : reading.lists = true) : reading ∈ sinceListing readings := by
  induction readings with
  | nil => cases member
  | cons first rest ih =>
    unfold sinceListing at ih ⊢
    rw [List.dropWhile_cons]
    split
    · next unlisted =>
      rcases List.mem_cons.mp member with rfl | inRest
      · simp [listed] at unlisted
      · exact ih inRest
    · exact member

/-- No reading of the list is newer. -/
def Newest (readings : List Reading) (newest : Reading) : Prop :=
  newest ∈ readings ∧ ∀ other ∈ readings, other.collectedAt ≤ newest.collectedAt

/-- The row shows the newest reading since the first listing, and the modem of the
last listing that was in time. -/
def Marks (readings : List Reading) (mark : Mark) : Prop :=
  (∃ newest, Newest (sinceListing readings) newest ∧ mark.collectedAt = newest.collectedAt ∧
    mark.state = newest.said.getD .deleted) ∧
  ∃ reporter, lastInTime Reading.collectedAt Reading.lists [] (sinceListing readings) = some reporter ∧
    mark.modemImei = reporter.modemImei

/-- A newer reading takes over the row. -/
theorem Marks.newer {mark : Mark} {last : Reading} (marks : Marks readings mark)
    (newer : mark.collectedAt < last.collectedAt) :
    ∃ next, markStep (some mark) last = some next ∧ Marks (readings ++ [last]) next := by
  obtain ⟨⟨newest, ⟨inSince, largest⟩, at_, _⟩, reporter, timely, imei⟩ := marks
  have started : sinceListing readings ≠ [] := List.ne_nil_of_mem inSince
  have highest : ∀ other ∈ sinceListing readings, other.collectedAt ≤ last.collectedAt := by
    intro other member
    rw [at_] at newer
    exact (largest other member).trans newer.le
  have newestLast : Newest (sinceListing readings ++ [last]) last := by
    refine ⟨by simp, fun other member => ?_⟩
    rcases List.mem_append.mp member with old | new
    · exact highest other old
    · rw [List.mem_singleton.mp new]
  have alone : inTime Reading.collectedAt Reading.lists (sinceListing readings) last = last.lists := by
    have none_ : (sinceListing readings).any
        (fun other => last.collectedAt < other.collectedAt) = false := by
      rw [List.any_eq_false]
      intro other member
      simpa using highest other member
    simp [inTime, none_]
  unfold Marks
  rw [sinceListing_concat, if_neg started]
  cases said : last.said with
  | some state =>
    refine ⟨⟨state, last.collectedAt, last.modemImei⟩, ?_, ⟨last, newestLast, rfl, by simp [said]⟩, last, ?_, rfl⟩
    · simp [markStep, said, offerMark, newer.le]
    · rw [lastInTime_concat, List.nil_append, alone, Reading.lists, said]
      rfl
  | none =>
    refine ⟨{ mark with state := .deleted, collectedAt := last.collectedAt }, ?_,
      ⟨last, newestLast, rfl, by simp [said]⟩, reporter, ?_, imei⟩
    · simp [markStep, said, newer]
    · rw [lastInTime_concat, List.nil_append, alone, Reading.lists, said]
      exact timely

/-- An older reading changes nothing. -/
theorem Marks.older {mark : Mark} {last : Reading} (marks : Marks readings mark)
    (older : last.collectedAt < mark.collectedAt) :
    markStep (some mark) last = some mark ∧ Marks (readings ++ [last]) mark := by
  obtain ⟨⟨newest, ⟨inSince, largest⟩, at_, state⟩, reporter, timely, imei⟩ := marks
  have started : sinceListing readings ≠ [] := List.ne_nil_of_mem inSince
  refine ⟨?_, ?_⟩
  · unfold markStep offerMark
    cases last.said with
    | some state => simp [not_le.mpr older]
    | none => simp [not_lt.mpr older.le]
  · unfold Marks
    rw [sinceListing_concat, if_neg started]
    refine ⟨⟨newest, ⟨List.mem_append_left _ inSince, fun other member => ?_⟩, at_, state⟩, reporter, ?_, imei⟩
    · rcases List.mem_append.mp member with old | new
      · exact largest other old
      · rw [List.mem_singleton.mp new]
        exact (older.trans_eq at_).le
    · have late : inTime Reading.collectedAt Reading.lists (sinceListing readings) last = false := by
        have above : (sinceListing readings).any
            (fun other => last.collectedAt < other.collectedAt) = true :=
          List.any_eq_true.mpr ⟨newest, inSince, decide_eq_true (older.trans_eq at_)⟩
        simp [inTime, above]
      rw [lastInTime_concat, List.nil_append, late]
      exact timely

/-- The row after readings of different times. -/
theorem foldl_markStep (distinct : (readings.map Reading.collectedAt).Nodup) :
    match readings.foldl markStep none with
    | none => sinceListing readings = []
    | some mark => Marks readings mark := by
  induction readings using List.reverseRecOn with
  | nil => rfl
  | append_singleton readings last ih =>
    rw [List.map_append, List.nodup_append] at distinct
    have before := ih distinct.1
    rw [List.foldl_append, List.foldl_cons, List.foldl_nil]
    cases stored : readings.foldl markStep none with
    | none =>
      rw [stored] at before
      have before : sinceListing readings = [] := before
      cases said : last.said with
      | none =>
        simp only [markStep, said, Option.map_none]
        rw [sinceListing_concat, if_pos before]
        simp [Reading.lists, said]
      | some state =>
        have listed : last.lists = true := by simp [Reading.lists, said]
        simp only [markStep, said, offerMark, Marks]
        rw [sinceListing_concat, if_pos before, if_pos listed]
        refine ⟨⟨last, ⟨by simp, fun other member => ?_⟩, rfl, by simp [said]⟩, last, ?_, rfl⟩
        · rw [List.mem_singleton.mp member]
        · simp [lastInTime, inTime, listed]
    | some mark =>
      rw [stored] at before
      have marks : Marks readings mark := before
      obtain ⟨⟨newest, ⟨inSince, _⟩, at_, _⟩, _⟩ := before
      have differs : mark.collectedAt ≠ last.collectedAt := by
        rw [at_]
        exact distinct.2.2 _ (List.mem_map.mpr ⟨newest, mem_of_sinceListing inSince, rfl⟩) _ (by simp)
      rcases lt_or_gt_of_ne differs with newer | older
      · obtain ⟨next, step, holds⟩ := marks.newer newer
        rw [step]
        exact holds
      · obtain ⟨step, holds⟩ := marks.older older
        rw [step]
        exact holds

/-- A profile that no reading lists gets no row. -/
theorem foldl_markStep_silent (silent : ∀ reading ∈ readings, reading.lists = false) :
    readings.foldl markStep none = none := by
  induction readings with
  | nil => rfl
  | cons first rest ih =>
    have unlisted := silent first List.mem_cons_self
    simp only [Reading.lists, Option.isSome_eq_false_iff, Option.isNone_iff_eq_none] at unlisted
    rw [List.foldl_cons, markStep, unlisted]
    exact ih fun reading member => silent reading (List.mem_cons_of_mem _ member)

/-- Readings in increasing order leave the newest one and the newest modem. -/
theorem marks_increasing {sorted : List Reading} {mark : Mark} {newest reporter : Reading}
    (increasing : sorted.Pairwise fun a b => a.collectedAt < b.collectedAt)
    (marks : Marks sorted mark) (isNewest : Newest sorted newest)
    (isReporter : Highest Reading.collectedAt Reading.lists sorted reporter) :
    mark = ⟨newest.said.getD .deleted, newest.collectedAt, reporter.modemImei⟩ := by
  have distinct : (sorted.map Reading.collectedAt).Nodup := by
    rw [List.Nodup, List.pairwise_map]
    exact increasing.imp fun below => ne_of_lt below
  have same : ∀ a ∈ sorted, ∀ b ∈ sorted, a.collectedAt = b.collectedAt → a = b :=
    List.inj_on_of_nodup_map distinct
  obtain ⟨⟨top, ⟨inSince, largest⟩, at_, state⟩, last, timely, imei⟩ := marks
  have cut : sorted.takeWhile (fun reading => !reading.lists) ++ sinceListing sorted = sorted :=
    List.takeWhile_append_dropWhile
  have ordered := increasing
  rw [← cut, List.pairwise_append] at ordered
  -- the newest reading is not among those dropped: something newer was kept
  have kept : newest ∈ sinceListing sorted := by
    have member := isNewest.1
    rw [← cut] at member
    rcases List.mem_append.mp member with dropped | kept
    · have below := ordered.2.2 newest dropped top inSince
      exact absurd (isNewest.2 top (mem_of_sinceListing inSince)) (not_le.mpr below)
    · exact kept
  have topNewest : top = newest :=
    same top (mem_of_sinceListing inSince) newest isNewest.1
      (le_antisymm (isNewest.2 top (mem_of_sinceListing inSince)) (largest newest kept))
  have lastReporter : last = reporter := by
    have inKept := mem_sinceListing isReporter.1 isReporter.2.1
    obtain ⟨before, after, splits⟩ := List.append_of_mem inKept
    have orderedKept := ordered.2.1
    have distinctKept : ((sinceListing sorted).map Reading.collectedAt).Nodup :=
      ((List.dropWhile_sublist _).map _).nodup distinct
    have highest : Highest Reading.collectedAt Reading.lists (sinceListing sorted) reporter :=
      ⟨inKept, isReporter.2.1, fun other member => isReporter.2.2 other (mem_of_sinceListing member)⟩
    rw [splits] at timely orderedKept distinctKept highest
    rw [lastInTime_highest distinctKept highest fun newer inBefore => ?_] at timely
    · exact (Option.some.inj timely).symm
    · rw [List.pairwise_append] at orderedKept
      exact not_lt.mpr (orderedKept.2.2 newer inBefore reporter List.mem_cons_self).le
  subst topNewest lastReporter
  cases mark
  simp only [Mark.mk.injEq]
  exact ⟨state, at_, imei⟩

/-- The condition on the order of arrival: the newest reading is not before every
listing, and the last listing in time names the modem of the newest listing. -/
def OrderSafe (readings : List Reading) : Prop :=
  ∀ newest ∈ readings, Newest readings newest →
    ∀ reporter ∈ readings, Highest Reading.collectedAt Reading.lists readings reporter →
      newest ∈ sinceListing readings ∧
      ∀ last ∈ lastInTime Reading.collectedAt Reading.lists [] (sinceListing readings),
        last.modemImei = reporter.modemImei

theorem exists_highest {p : Reading → Bool} (some_ : ∃ reading ∈ readings, p reading = true) :
    ∃ highest, Highest Reading.collectedAt p readings highest := by
  obtain ⟨reading, member, holds⟩ := some_
  obtain ⟨highest, inFilter, largest⟩ := (readings.filter p).toFinset.exists_max_image
    Reading.collectedAt ⟨reading, List.mem_toFinset.mpr (List.mem_filter.mpr ⟨member, holds⟩)⟩
  obtain ⟨inside, carrier⟩ := List.mem_filter.mp (List.mem_toFinset.mp inFilter)
  refine ⟨highest, inside, carrier, fun other inReadings carries => ?_⟩
  exact largest other (List.mem_toFinset.mpr (List.mem_filter.mpr ⟨inReadings, carries⟩))

/-- The readings leave what they leave in increasing order exactly when the order
is safe. -/
theorem foldl_markStep_eq_iff {sorted : List Reading} (perm : sorted.Perm readings)
    (increasing : sorted.Pairwise fun a b => a.collectedAt < b.collectedAt) :
    readings.foldl markStep none = sorted.foldl markStep none ↔ OrderSafe readings := by
  have distinctSorted : (sorted.map Reading.collectedAt).Nodup := by
    rw [List.Nodup, List.pairwise_map]
    exact increasing.imp fun below => ne_of_lt below
  have distinct : (readings.map Reading.collectedAt).Nodup := (perm.map _).nodup_iff.mp distinctSorted
  have same : ∀ a ∈ readings, ∀ b ∈ readings, a.collectedAt = b.collectedAt → a = b :=
    List.inj_on_of_nodup_map distinct
  have here := foldl_markStep distinct
  have there := foldl_markStep distinctSorted
  by_cases listed : ∃ reading ∈ readings, reading.lists = true
  · obtain ⟨reporter, isReporter⟩ := exists_highest listed
    obtain ⟨reading, member, lists_⟩ := listed
    obtain ⟨newest, inReadings, _, top⟩ := @exists_highest readings (fun _ => true) ⟨reading, member, rfl⟩
    have isNewest : Newest readings newest :=
      ⟨inReadings, fun other inside => top other inside rfl⟩
    have started : sinceListing readings ≠ [] := List.ne_nil_of_mem (mem_sinceListing member lists_)
    have startedSorted : sinceListing sorted ≠ [] :=
      List.ne_nil_of_mem (mem_sinceListing (perm.mem_iff.mpr member) lists_)
    cases stored : readings.foldl markStep none with
    | none =>
      rw [stored] at here
      exact absurd here started
    | some mark =>
      cases storedSorted : sorted.foldl markStep none with
      | none =>
        rw [storedSorted] at there
        exact absurd there startedSorted
      | some final =>
        rw [stored] at here
        rw [storedSorted] at there
        have newestSorted : Newest sorted newest :=
          ⟨perm.mem_iff.mpr isNewest.1, fun other inside => isNewest.2 other (perm.mem_iff.mp inside)⟩
        have reporterSorted : Highest Reading.collectedAt Reading.lists sorted reporter :=
          ⟨perm.mem_iff.mpr isReporter.1, isReporter.2.1,
            fun other inside => isReporter.2.2 other (perm.mem_iff.mp inside)⟩
        rw [marks_increasing increasing there newestSorted reporterSorted, Option.some.injEq]
        obtain ⟨⟨top', ⟨inSince, largest⟩, at_, state⟩, last, timely, imei⟩ := here
        have inTop := mem_of_sinceListing inSince
        constructor
        · intro equal newest' _ isNewest' reporter' _ isReporter'
          have oneNewest : newest' = newest := same newest' isNewest'.1 newest isNewest.1
            (le_antisymm (isNewest.2 _ isNewest'.1) (isNewest'.2 _ isNewest.1))
          have oneReporter : reporter' = reporter := same reporter' isReporter'.1 reporter isReporter.1
            (le_antisymm (isReporter.2.2 _ isReporter'.1 isReporter'.2.1)
              (isReporter'.2.2 _ isReporter.1 isReporter.2.1))
          subst oneNewest oneReporter
          rw [equal] at at_ imei
          refine ⟨?_, fun last' isLast => ?_⟩
          · rw [same newest' isNewest'.1 top' inTop at_]
            exact inSince
          · rw [Option.mem_def.mp isLast] at timely
            cases timely
            exact imei.symm
        · intro safe
          obtain ⟨kept, names⟩ := safe newest isNewest.1 isNewest reporter isReporter.1 isReporter
          have oneTop : top' = newest := same top' inTop newest isNewest.1
            (le_antisymm (isNewest.2 top' inTop) (largest newest kept))
          subst oneTop
          cases mark
          simp only [Mark.mk.injEq]
          exact ⟨state, at_, imei.trans (names last timely)⟩
  · have silent : ∀ reading ∈ readings, reading.lists = false := by
      intro reading member
      by_contra lists_
      exact listed ⟨reading, member, by simpa using lists_⟩
    rw [foldl_markStep_silent silent,
      foldl_markStep_silent fun reading inside => silent reading (perm.mem_iff.mp inside)]
    refine ⟨fun _ _ _ _ reporter _ isReporter => ?_, fun _ => rfl⟩
    exact absurd isReporter.2.1 (by simp [silent reporter isReporter.1])

/-- In a safe order the row has the state of the newest reading. -/
theorem OrderSafe.state {stored : Mark} {newest : Reading} (safe : OrderSafe readings)
    (distinct : (readings.map Reading.collectedAt).Nodup) (isNewest : Newest readings newest)
    (left : readings.foldl markStep none = some stored) :
    stored.state = newest.said.getD .deleted := by
  have marks := foldl_markStep distinct
  rw [left] at marks
  have listed : ∃ reading ∈ readings, reading.lists = true := by
    by_contra silent
    rw [foldl_markStep_silent] at left
    · cases left
    · intro reading member
      by_contra lists_
      exact silent ⟨reading, member, by simpa using lists_⟩
  obtain ⟨reporter, isReporter⟩ := exists_highest listed
  obtain ⟨kept, _⟩ := safe newest isNewest.1 isNewest reporter isReporter.1 isReporter
  obtain ⟨⟨top, ⟨inSince, largest⟩, _, state⟩, _⟩ := marks
  have inTop := mem_of_sinceListing inSince
  have same : top = newest := List.inj_on_of_nodup_map distinct inTop isNewest.1
    (le_antisymm (isNewest.2 top inTop) (largest newest kept))
  rw [state, same]

end Readings

/-! ## An inventory is a reading of every profile -/

def markOf (row : ProfileRow) : Mark := ⟨row.state, row.collectedAt, row.modemImei⟩

/-- What the table says of a profile of the chip. -/
def mark (table : Table ProfileRow.key) (tenant : Uuid) (eid iccid : String) : Option Mark :=
  (table.find (tenant, eid, iccid)).map markOf

/-- The entry that counts for an ICCID: the last one that names it. -/
def lastProfile (casts : Casts) (profiles : List Jsonb) (iccid : String) : Option Jsonb :=
  (profiles.filter fun profile => nullif (casts.field profile "iccid") = some iccid).getLast?

theorem lastProfile_cons (casts : Casts) (profile : Jsonb) (rest : List Jsonb) (iccid : String) :
    lastProfile casts (profile :: rest) iccid = (lastProfile casts rest iccid).or
      (if nullif (casts.field profile "iccid") = some iccid then some profile else none) := by
  simp [lastProfile]

/-- The state an entry lists its profile with. -/
def listedState (casts : Casts) (profile : Jsonb) : Option ProfileState :=
  profileState ((casts.field profile "state").getD "unknown")

/-- What the inventory says of an ICCID. -/
def reading (casts : Casts) (iccid : String) (args : InventoryArgs) : Reading where
  collectedAt := match casts.instant args.payload "collected_at" with
    | .ok at_ => at_
    | .error _ => 0
  modemImei := casts.field args.payload "modem_imei"
  said := match elementsAt args.payload "profiles" with
    | .ok profiles => (lastProfile casts profiles iccid).bind (listedState casts)
    | .error _ => none

section Inventory

variable {casts : Casts} {args : InventoryArgs} {eid iccid : String} {at_ : Timestamp}
  {table table' : Table ProfileRow.key}

theorem offerMark_twice (stored : Option Mark) {first second : Mark}
    (same : first.collectedAt = second.collectedAt) :
    offerMark (offerMark stored first) second = offerMark stored second := by
  cases stored with
  | none => simp [offerMark, same]
  | some old =>
    by_cases later : old.collectedAt ≤ second.collectedAt
    · simp [offerMark, same, later]
    · simp [offerMark, same, later]

theorem proposeProfile_ok {profile : Jsonb} {row : ProfileRow}
    (h : proposeProfile casts args eid iccid at_ profile = .ok row) :
    row.key = (args.tenantId, eid, iccid) ∧ ∃ state, listedState casts profile = some state ∧
      markOf row = ⟨state, at_, casts.field args.payload "modem_imei"⟩ := by
  unfold proposeProfile at h
  split at h
  · cases h
  · split at h
    · cases h
    · split at h
      · cases h
      · next state known =>
        cases h
        exact ⟨rfl, state, known, rfl⟩

/-- One entry is offered to the row it names. -/
theorem projectProfile_mark {profile : Jsonb}
    (h : projectProfile casts args eid at_ table profile = .ok table') :
    if nullif (casts.field profile "iccid") = some iccid then
      ∃ state, listedState casts profile = some state ∧
        mark table' args.tenantId eid iccid = offerMark (mark table args.tenantId eid iccid)
          ⟨state, at_, casts.field args.payload "modem_imei"⟩
    else mark table' args.tenantId eid iccid = mark table args.tenantId eid iccid := by
  unfold projectProfile at h
  cases named : nullif (casts.field profile "iccid") with
  | none =>
    rw [named] at h
    cases h
    simp
  | some other =>
    rw [named] at h
    obtain ⟨row, proposed, h⟩ := bind_success h
    cases h
    obtain ⟨key, state, known, offered⟩ := proposeProfile_ok proposed
    split
    · next same =>
      cases same
      refine ⟨state, known, ?_⟩
      have found := @Table.find_upsert_self _ _ _ _ table row (replaceProfile row) (replaceProfile_key row)
      rw [key] at found
      unfold mark
      rw [found, ← offered]
      cases table.find (args.tenantId, eid, iccid) with
      | none => rfl
      | some old =>
        simp only [Option.map_some, Option.getD_some, offerMark, replaceProfile]
        by_cases later : old.collectedAt ≤ row.collectedAt
        · rw [if_pos later, if_pos (show (markOf old).collectedAt ≤ (markOf row).collectedAt from later)]
          rfl
        · rw [if_neg later,
            if_neg (show ¬ (markOf old).collectedAt ≤ (markOf row).collectedAt from later)]
    · next differs =>
      unfold mark
      rw [Table.find_upsert_of_ne]
      rw [key]
      intro same
      simp only [Prod.mk.injEq, true_and] at same
      exact differs (by rw [same])

/-- The loop offers what the last entry of the profile says. -/
theorem foldlM_mark {profiles : List Jsonb}
    (h : profiles.foldlM (projectProfile casts args eid at_) table = .ok table') :
    match lastProfile casts profiles iccid with
    | none => mark table' args.tenantId eid iccid = mark table args.tenantId eid iccid
    | some profile => ∃ state, listedState casts profile = some state ∧
        mark table' args.tenantId eid iccid = offerMark (mark table args.tenantId eid iccid)
          ⟨state, at_, casts.field args.payload "modem_imei"⟩ := by
  induction profiles generalizing table with
  | nil =>
    cases h
    rfl
  | cons profile rest ih =>
    rw [List.foldlM_cons] at h
    obtain ⟨middle, first, h⟩ := bind_success h
    have one := @projectProfile_mark casts args eid iccid at_ table middle profile first
    have later := ih h
    rw [lastProfile_cons]
    cases inRest : lastProfile casts rest iccid with
    | some last =>
      rw [inRest] at later
      obtain ⟨state, known, offered⟩ := later
      refine ⟨state, known, ?_⟩
      split at one
      · obtain ⟨_, _, offeredFirst⟩ := one
        rw [offered, offeredFirst]
        exact offerMark_twice _ rfl
      · rw [offered, one]
    | none =>
      rw [inRest] at later
      have kept : mark table' args.tenantId eid iccid = mark middle args.tenantId eid iccid := later
      split at one
      · next named =>
        rw [if_pos named]
        obtain ⟨state, known, offered⟩ := one
        exact ⟨state, known, kept.trans offered⟩
      · next unnamed =>
        rw [if_neg unnamed]
        exact kept.trans one

theorem mem_listedIccids {profiles : List Jsonb} :
    (listedIccids casts profiles).contains iccid = (lastProfile casts profiles iccid).isSome := by
  induction profiles with
  | nil => rfl
  | cons profile rest ih =>
    rw [lastProfile_cons, Option.isSome_or, ← ih]
    unfold listedIccids
    rw [List.filterMap_cons]
    cases nullif (casts.field profile "iccid") with
    | none => simp
    | some named =>
      by_cases same : named = iccid
      · simp [same]
      · simp [same, Ne.symm same]

/-- The whole inventory is one reading. -/
theorem projectEsimInventory_mark (chip : nullif (casts.field args.payload "eid") = some eid)
    (h : projectEsimInventory casts args table = .ok table') :
    mark table' args.tenantId eid iccid =
      markStep (mark table args.tenantId eid iccid) (reading casts iccid args) := by
  obtain ⟨collected, timed, h⟩ := bind_success h
  rw [chip] at h
  obtain ⟨profiles, elements, h⟩ := bind_success h
  have loop := @foldlM_mark casts args eid iccid _ _ _ _ h
  have marked : mark (table.update (unlistedHit casts args.tenantId eid collected profiles)
      (markDeleted collected) (markDeleted_key collected)) args.tenantId eid iccid =
      if (lastProfile casts profiles iccid).isSome then mark table args.tenantId eid iccid
      else (mark table args.tenantId eid iccid).map fun old =>
        if old.collectedAt < collected then
          { old with state := .deleted, collectedAt := collected } else old := by
    unfold mark
    rw [Table.find_update]
    cases found : table.find (args.tenantId, eid, iccid) with
    | none => simp
    | some row =>
      have key := (Table.find_eq_some_iff.mp found).2
      simp only [ProfileRow.key, Prod.mk.injEq] at key
      have hit : unlistedHit casts args.tenantId eid collected profiles row =
          (decide (row.collectedAt < collected) && !(lastProfile casts profiles iccid).isSome) := by
        simp only [unlistedHit, key.1, key.2.1, key.2.2, decide_true, Bool.true_and, mem_listedIccids]
      simp only [Option.map_some, hit]
      by_cases listed : (lastProfile casts profiles iccid).isSome = true
      · simp [listed]
      · by_cases older : row.collectedAt < collected
        · simp [listed, older, markDeleted, markOf]
        · simp [listed, older, markOf]
  unfold markStep reading
  simp only [timed, elements]
  cases last : lastProfile casts profiles iccid with
  | none =>
    rw [last] at loop marked
    have loop : mark table' args.tenantId eid iccid = _ := loop
    rw [loop, marked]
    rfl
  | some profile =>
    rw [last] at loop marked
    obtain ⟨state, known, offered⟩ := loop
    rw [offered, marked]
    simp [known]

/-- The inventory of the chip can be projected, whatever the table holds. -/
def Projectable (casts : Casts) (eid : String) (args : InventoryArgs) : Prop :=
  ∃ at_ profiles, casts.instant args.payload "collected_at" = .ok at_ ∧
    elementsAt args.payload "profiles" = .ok profiles ∧
    ∀ profile ∈ profiles, ∀ iccid, nullif (casts.field profile "iccid") = some iccid →
      ∃ row, proposeProfile casts args eid iccid at_ profile = .ok row

theorem foldlM_projectProfile_ok {profiles : List Jsonb} :
    (∃ stored, profiles.foldlM (projectProfile casts args eid at_) table = .ok stored) ↔
      ∀ profile ∈ profiles, ∀ iccid, nullif (casts.field profile "iccid") = some iccid →
        ∃ row, proposeProfile casts args eid iccid at_ profile = .ok row := by
  induction profiles generalizing table with
  | nil => simp [pure, Except.pure]
  | cons profile rest ih =>
    rw [List.foldlM_cons]
    constructor
    · rintro ⟨stored, h⟩
      obtain ⟨middle, first, h⟩ := bind_success h
      intro other member named isNamed
      rcases List.mem_cons.mp member with rfl | inRest
      · unfold projectProfile at first
        rw [isNamed] at first
        obtain ⟨row, proposed, _⟩ := bind_success first
        exact ⟨row, proposed⟩
      · exact ih.mp ⟨stored, h⟩ other inRest named isNamed
    · intro all
      have turn : ∃ middle, projectProfile casts args eid at_ table profile = .ok middle := by
        unfold projectProfile
        cases named : nullif (casts.field profile "iccid") with
        | none => exact ⟨table, rfl⟩
        | some other =>
          obtain ⟨row, proposed⟩ := all profile List.mem_cons_self other named
          dsimp only
          rw [proposed]
          exact ⟨_, rfl⟩
      obtain ⟨middle, first⟩ := turn
      obtain ⟨stored, later⟩ := (@ih middle).mpr fun other member =>
        all other (List.mem_cons_of_mem _ member)
      exact ⟨stored, by rw [first]; exact later⟩

theorem projectEsimInventory_ok_iff (chip : nullif (casts.field args.payload "eid") = some eid) :
    (∃ stored, projectEsimInventory casts args table = .ok stored) ↔ Projectable casts eid args := by
  unfold projectEsimInventory Projectable
  cases timed : casts.instant args.payload "collected_at" with
  | error err => simp [bind, Except.bind]
  | ok at_ =>
    rw [ok_bind]
    cases elements : elementsAt args.payload "profiles" with
    | error err => simp [chip, bind, Except.bind]
    | ok profiles =>
      simp only [chip, ok_bind]
      rw [foldlM_projectProfile_ok]
      simp

end Inventory

/-! ## Runs -/

section Run

variable {casts : Casts} {tenant : Uuid} {eid : String} {records sorted : List InventoryArgs}
  {table final : Table ProfileRow.key}

/-- The inventories applied one after another. -/
def applyAll (casts : Casts) (records : List InventoryArgs) (table : Table ProfileRow.key) :
    Except PgError (Table ProfileRow.key) :=
  records.foldlM (fun table args => projectEsimInventory casts args table) table

/-- The record is an inventory of the chip. -/
def OfChip (casts : Casts) (tenant : Uuid) (eid : String) (args : InventoryArgs) : Prop :=
  args.tenantId = tenant ∧ nullif (casts.field args.payload "eid") = some eid

/-- The first inventory was collected before the second. -/
def collectedBefore (casts : Casts) (a b : InventoryArgs) : Bool :=
  match casts.instant a.payload "collected_at", casts.instant b.payload "collected_at" with
  | .ok atA, .ok atB => atA < atB
  | _, _ => false

theorem collectedBefore_readings (iccid : String) {a b : InventoryArgs}
    (before : collectedBefore casts a b = true) :
    (reading casts iccid a).collectedAt < (reading casts iccid b).collectedAt := by
  unfold collectedBefore at before
  unfold reading
  split at before
  · next timedA timedB =>
    simp only [timedA, timedB]
    simpa using before
  · cases before

theorem applyAll_mark (chip : ∀ args ∈ records, OfChip casts tenant eid args)
    (h : applyAll casts records table = .ok final) (iccid : String) :
    mark final tenant eid iccid =
      (records.map (reading casts iccid)).foldl markStep (mark table tenant eid iccid) := by
  induction records generalizing table with
  | nil =>
    cases h
    rfl
  | cons args rest ih =>
    unfold applyAll at h
    rw [List.foldlM_cons] at h
    obtain ⟨middle, first, h⟩ := bind_success h
    obtain ⟨rfl, named⟩ := chip args List.mem_cons_self
    rw [ih (fun other member => chip other (List.mem_cons_of_mem _ member)) h,
      projectEsimInventory_mark named first]
    rfl

theorem applyAll_ok_iff (chip : ∀ args ∈ records, OfChip casts tenant eid args) :
    (∃ stored, applyAll casts records table = .ok stored) ↔
      ∀ args ∈ records, Projectable casts eid args := by
  induction records generalizing table with
  | nil => simp [applyAll, pure, Except.pure]
  | cons args rest ih =>
    have named := (chip args List.mem_cons_self).2
    have chipRest : ∀ other ∈ rest, OfChip casts tenant eid other :=
      fun other member => chip other (List.mem_cons_of_mem _ member)
    unfold applyAll at ih ⊢
    rw [List.foldlM_cons, List.forall_mem_cons]
    constructor
    · rintro ⟨stored, h⟩
      obtain ⟨middle, first, h⟩ := bind_success h
      exact ⟨(projectEsimInventory_ok_iff named).mp ⟨middle, first⟩, (ih chipRest).mp ⟨stored, h⟩⟩
    · rintro ⟨projectable, later⟩
      obtain ⟨middle, first⟩ := (@projectEsimInventory_ok_iff casts args eid table named).mpr projectable
      obtain ⟨stored, rest_⟩ := (@ih middle chipRest).mpr later
      exact ⟨stored, by rw [first]; exact rest_⟩

/-- The rows of the chip are those of the sorted inventories, and a profile the
newest inventory does not list is neither enabled nor disabled. -/
def OrderFree (casts : Casts) (tenant : Uuid) (eid : String) (records : List InventoryArgs)
    (final inOrder : Table ProfileRow.key) : Prop :=
  (∀ iccid, mark final tenant eid iccid = mark inOrder tenant eid iccid) ∧
  ∀ newest ∈ records, (∀ other ∈ records, collectedBefore casts newest other = false) →
    ∀ iccid, (reading casts iccid newest).said = none →
      ∀ row, mark final tenant eid iccid = some row → row.state ≠ .enabled ∧ row.state ≠ .disabled

/-- Inventories of one chip, collected at different times and applied in any order:
the rows are those of the increasing order exactly when the order is safe for
every profile. -/
theorem inventory_order_free (chip : ∀ args ∈ records, OfChip casts tenant eid args)
    (fresh : ∀ row ∈ table, ¬ (row.tenantId = tenant ∧ row.eid = eid))
    (perm : sorted.Perm records)
    (increasing : sorted.Pairwise fun a b => collectedBefore casts a b = true)
    (applied : applyAll casts records table = .ok final) :
    ∃ inOrder, applyAll casts sorted table = .ok inOrder ∧
      (OrderFree casts tenant eid records final inOrder ↔
        ∀ iccid, OrderSafe (records.map (reading casts iccid))) := by
  have chipSorted : ∀ args ∈ sorted, OfChip casts tenant eid args :=
    fun args member => chip args (perm.mem_iff.mp member)
  have projectable := (applyAll_ok_iff chip).mp ⟨final, applied⟩
  obtain ⟨inOrder, appliedSorted⟩ := (@applyAll_ok_iff casts tenant eid sorted table chipSorted).mpr
    fun args member => projectable args (perm.mem_iff.mp member)
  refine ⟨inOrder, appliedSorted, ?_⟩
  have absent : ∀ iccid, mark table tenant eid iccid = none := by
    intro iccid
    have none_ : table.find (tenant, eid, iccid) = none := by
      refine Table.find_eq_none_iff.mpr fun row member same => ?_
      simp only [ProfileRow.key, Prod.mk.injEq] at same
      exact fresh row member ⟨same.1, same.2.1⟩
    simp [mark, none_]
  have here : ∀ iccid, mark final tenant eid iccid =
      (records.map (reading casts iccid)).foldl markStep none :=
    fun iccid => by rw [applyAll_mark chip applied, absent]
  have there : ∀ iccid, mark inOrder tenant eid iccid =
      (sorted.map (reading casts iccid)).foldl markStep none :=
    fun iccid => by rw [applyAll_mark chipSorted appliedSorted, absent]
  have ordered : ∀ iccid, (sorted.map (reading casts iccid)).Pairwise
      fun a b => a.collectedAt < b.collectedAt := by
    intro iccid
    rw [List.pairwise_map]
    exact increasing.imp fun before => collectedBefore_readings iccid before
  have same : ∀ iccid, mark final tenant eid iccid = mark inOrder tenant eid iccid ↔
      OrderSafe (records.map (reading casts iccid)) := by
    intro iccid
    rw [here, there]
    exact foldl_markStep_eq_iff (perm.map _) (ordered iccid)
  constructor
  · exact fun free iccid => (same iccid).mp (free.1 iccid)
  · intro safe
    refine ⟨fun iccid => (same iccid).mpr (safe iccid), ?_⟩
    intro newest member top iccid unlisted row stored
    rw [here] at stored
    have distinct : ((records.map (reading casts iccid)).map Reading.collectedAt).Nodup := by
      refine ((perm.map _).map _).nodup_iff.mp ?_
      rw [List.Nodup, List.pairwise_map]
      exact (ordered iccid).imp fun below => ne_of_lt below
    have isNewest : Newest (records.map (reading casts iccid)) (reading casts iccid newest) := by
      refine ⟨List.mem_map.mpr ⟨newest, member, rfl⟩, fun other inReadings => ?_⟩
      obtain ⟨args, inRecords, rfl⟩ := List.mem_map.mp inReadings
      obtain ⟨at_, _, timed, _⟩ := projectable args inRecords
      obtain ⟨atNewest, _, timedNewest, _⟩ := projectable newest member
      have notLater := top args inRecords
      simp only [collectedBefore, timed, timedNewest, decide_eq_false_iff_not, not_lt] at notLater
      simpa [reading, timed, timedNewest] using notLater
    rw [(safe iccid).state distinct isNewest stored, unlisted]
    exact ⟨by decide, by decide⟩

end Run

/-! ## Two inventories of one chip -/

def sampleEid : String := "89049032000000000000000000000001"

def sampleIccid : String := "8949020000000000001"

/-- The chip's inventory with the given profiles. -/
def inventory (collected : Nat) (profiles : List Jsonb) : InventoryArgs :=
  ⟨1, 2, .obj [("eid", .str sampleEid), ("profiles", .arr profiles), ("modem_imei", .str "86"),
    ("collected_at", .num collected)]⟩

/-- One profile is there and enabled. -/
def oneProfile : InventoryArgs :=
  inventory 1 [.obj [("iccid", .str sampleIccid), ("state", .str "enabled")]]

/-- The chip is empty. -/
def noProfile : InventoryArgs := inventory 2 []

/-- The table after some inventories. -/
def chipAfter (records : List InventoryArgs) : Table ProfileRow.key :=
  match applyAll plainCasts records Table.empty with
  | .ok table => table
  | .error _ => Table.empty

theorem deleted_in_order :
    mark (chipAfter [oneProfile, noProfile]) 1 sampleEid sampleIccid = some ⟨.deleted, 2000, some "86"⟩ ∧
    ∃ inOrder, applyAll plainCasts [oneProfile, noProfile] Table.empty = .ok inOrder ∧
      OrderFree plainCasts 1 sampleEid [oneProfile, noProfile] (chipAfter [oneProfile, noProfile])
        inOrder := by
  refine ⟨by decide, ?_⟩
  have increasing : [oneProfile, noProfile].Pairwise fun a b => collectedBefore plainCasts a b = true := by
    decide
  obtain ⟨inOrder, applied, free⟩ := @inventory_order_free plainCasts 1 sampleEid
    [oneProfile, noProfile] [oneProfile, noProfile] Table.empty (chipAfter [oneProfile, noProfile])
    (by unfold OfChip; decide) (by decide) (List.Perm.refl _) increasing
    (by decide)
  refine ⟨inOrder, applied, free.mpr fun iccid => ?_⟩
  refine (foldl_markStep_eq_iff (List.Perm.refl _) ?_).mp rfl
  rw [List.pairwise_map]
  exact increasing.imp fun before => collectedBefore_readings iccid before

/-- The older inventory arrives last and brings back a profile the chip no longer
has. -/
theorem late_inventory_revives :
    applyAll plainCasts [noProfile, oneProfile] Table.empty = .ok (chipAfter [noProfile, oneProfile]) ∧
    applyAll plainCasts [oneProfile, noProfile] Table.empty = .ok (chipAfter [oneProfile, noProfile]) ∧
    mark (chipAfter [noProfile, oneProfile]) 1 sampleEid sampleIccid =
      some ⟨.enabled, 1000, some "86"⟩ ∧
    ¬ OrderFree plainCasts 1 sampleEid [noProfile, oneProfile] (chipAfter [noProfile, oneProfile])
      (chipAfter [oneProfile, noProfile]) := by
  refine ⟨by decide, by decide, by decide, fun free => ?_⟩
  have same := free.1 sampleIccid
  revert same
  decide

end VodogeCloud.Guarantees.InventoryOrder
