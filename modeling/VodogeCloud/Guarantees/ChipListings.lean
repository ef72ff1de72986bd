import VodogeCloud.Source.EsimReads

/-!
# Which chip a profile listing is filed under

A listing without an EID borrows that of the last reading that names its module, after the
readings have been reduced to one per chip and sorted by EID. So what it borrows is the chip
whose EID sorts last, not the chip that was read last.
-/

set_option autoImplicit false

namespace VodogeCloud.Guarantees.ChipListings

open VodogeCloud.Source.Postgres VodogeCloud.Source.EsimReads VodogeCloud.Lib.LatestPerKey

variable {collate : String → String → Bool} {rows other : List EsimCommandRow}

/-! ## What is to be shown -/

/-- Different rows have different completion times. -/
def DistinctTimes (rows : List EsimCommandRow) : Prop :=
  ∀ a ∈ rows, ∀ b ∈ rows, a.at = b.at → a = b

/-- No reading that names the same module is newer. -/
def NewestOfModule (rows : List EsimCommandRow) (reading : EsimChipReading) : Prop :=
  Highest EsimChipReading.imei EsimChipReading.at (readings rows) reading

/-- No reading of the same chip is newer. -/
def NewestOfChip (rows : List EsimCommandRow) (reading : EsimChipReading) : Prop :=
  Highest EsimChipReading.eid EsimChipReading.at (readings rows) reading

/-- The chip that is in a module, as far as the readings say. -/
def ChipIn (rows : List EsimCommandRow) (imei : String) : Option String → Prop
  | none => ∀ reading ∈ readings rows, reading.imei ≠ imei
  | some eid => ∃ reading, NewestOfModule rows reading ∧ reading.imei = imei ∧ reading.eid = eid

instance (rows : List EsimCommandRow) : Decidable (DistinctTimes rows) :=
  inferInstanceAs (Decidable (∀ a ∈ rows, ∀ b ∈ rows, a.at = b.at → a = b))

/-- The successful listings with the EID they carry themselves. -/
def ownListings (rows : List EsimCommandRow) : List EsimProfileListing :=
  rows.filterMap (profileListing fun _ => none)

/-- No listing of the same module is newer. -/
def NewestListing (rows : List EsimCommandRow) (listing : EsimProfileListing) : Prop :=
  Highest EsimProfileListing.modemImei EsimProfileListing.collectedAt (ownListings rows) listing

def filed (listing : EsimProfileListing) (chip : Option String) : EsimProfileListing :=
  { listing with eid := listing.eid.or chip }

/-- The newest listing of a module, under its own EID or under the chip in the module. -/
def FiledUnderChip (rows : List EsimCommandRow) (shown : EsimProfileListing) : Prop :=
  ∃ listing, NewestListing rows listing ∧ ∃ chip, ChipIn rows listing.modemImei chip ∧ shown = filed listing chip

/-- One listing for each module, filed under the chip that is in it. -/
structure ShowsChips (collate : String → String → Bool) (rows : List EsimCommandRow) : Prop where
  once : ((latestEsimProfileListings collate rows).map EsimProfileListing.modemImei).Nodup
  shown : ∀ listing, listing ∈ latestEsimProfileListings collate rows ↔ FiledUnderChip rows listing

/-- The same rows, in any order and any number of times. -/
def SameRows (rows other : List EsimCommandRow) : Prop := ∀ row, row ∈ other ↔ row ∈ rows

/-- Where a module's newest listing has no EID, no module has given a newer reading of the chip that
was read last in it, and every other chip whose newest reading names the module sorts before it. -/
def LastReadSortsLast (collate : String → String → Bool) (rows : List EsimCommandRow) : Prop :=
  ∀ listing, NewestListing rows listing → listing.eid = none →
    ∀ last, NewestOfModule rows last → last.imei = listing.modemImei →
      NewestOfChip rows last ∧
      ∀ earlier, NewestOfChip rows earlier → earlier.imei = last.imei → earlier.eid ≠ last.eid →
        collate last.eid earlier.eid = false

/-! ## The same rows -/

theorem mem_filterMap_same {β : Type} (same : SameRows rows other) (f : EsimCommandRow → Option β) (b : β) :
    b ∈ other.filterMap f ↔ b ∈ rows.filterMap f := by
  simp only [List.mem_filterMap, same _]

theorem highest_congr {α κ : Type} {key : α → κ} {stamp : α → Int} {items others : List α}
    (same : ∀ item, item ∈ others ↔ item ∈ items) (item : α) :
    Highest key stamp others item ↔ Highest key stamp items item := by
  simp only [Highest, same]

theorem newestListing_same (same : SameRows rows other) (listing : EsimProfileListing) :
    NewestListing other listing ↔ NewestListing rows listing :=
  highest_congr (mem_filterMap_same same _) listing

theorem newestOfModule_same (same : SameRows rows other) (reading : EsimChipReading) :
    NewestOfModule other reading ↔ NewestOfModule rows reading :=
  highest_congr (mem_filterMap_same same _) reading

theorem newestOfChip_same (same : SameRows rows other) (reading : EsimChipReading) :
    NewestOfChip other reading ↔ NewestOfChip rows reading :=
  highest_congr (mem_filterMap_same same _) reading

theorem DistinctTimes.same (distinct : DistinctTimes rows) (same : SameRows rows other) :
    DistinctTimes other :=
  fun a inA b inB => distinct a ((same a).mp inA) b ((same b).mp inB)

theorem chipReading_at {row : EsimCommandRow} {reading : EsimChipReading}
    (read : chipReading row = some reading) : reading.at = row.at := by
  unfold chipReading at read
  split at read
  · cases read
  · obtain ⟨info, _, rfl⟩ := Option.map_eq_some_iff.mp read
    rfl

theorem profileListing_at {borrowed : String → Option String} {row : EsimCommandRow}
    {listing : EsimProfileListing} (read : profileListing borrowed row = some listing) :
    listing.collectedAt = row.at := by
  unfold profileListing at read
  split at read
  · cases read
  split at read
  · cases read
  · split at read
    · cases read
    · obtain ⟨imei, _, rfl⟩ := Option.map_eq_some_iff.mp read
      rfl

theorem reading_of_at (distinct : DistinctTimes rows) {a b : EsimChipReading} (inA : a ∈ readings rows)
    (inB : b ∈ readings rows) (same : a.at = b.at) : a = b := by
  obtain ⟨rowA, memberA, readA⟩ := List.mem_filterMap.mp inA
  obtain ⟨rowB, memberB, readB⟩ := List.mem_filterMap.mp inB
  rw [chipReading_at readA, chipReading_at readB] at same
  obtain rfl := distinct rowA memberA rowB memberB same
  rw [readA] at readB
  exact Option.some.inj readB

theorem listing_of_at (distinct : DistinctTimes rows) {borrowed : String → Option String}
    {a b : EsimProfileListing} (inA : a ∈ rows.filterMap (profileListing borrowed))
    (inB : b ∈ rows.filterMap (profileListing borrowed)) (same : a.collectedAt = b.collectedAt) : a = b := by
  obtain ⟨rowA, memberA, readA⟩ := List.mem_filterMap.mp inA
  obtain ⟨rowB, memberB, readB⟩ := List.mem_filterMap.mp inB
  rw [profileListing_at readA, profileListing_at readB] at same
  obtain rfl := distinct rowA memberA rowB memberB same
  rw [readA] at readB
  exact Option.some.inj readB

/-! ## What is borrowed -/

/-- What is borrowed only fills in the EID. -/
theorem profileListing_eq (borrowed : String → Option String) (row : EsimCommandRow) :
    profileListing borrowed row =
      (profileListing (fun _ => none) row).map fun listing => filed listing (borrowed listing.modemImei) := by
  unfold profileListing
  split
  · rfl
  split
  · rfl
  · split
    · rfl
    · dsimp only
      rw [Option.map_map]
      congr 1
      funext imei
      unfold filed
      rw [Function.comp_apply, Option.or_none]

theorem listings_eq (borrowed : String → Option String) (rows : List EsimCommandRow) :
    rows.filterMap (profileListing borrowed) =
      (ownListings rows).map fun listing => filed listing (borrowed listing.modemImei) := by
  unfold ownListings
  rw [List.map_filterMap]
  congr 1
  funext row
  exact profileListing_eq borrowed row

/-- The listings that are shown are the newest ones with what they borrow. -/
theorem mem_listings (distinct : DistinctTimes rows) (listing : EsimProfileListing) :
    listing ∈ latestEsimProfileListings collate rows ↔
      ∃ own, NewestListing rows own ∧ listing = filed own (eidByImei collate rows own.modemImei) := by
  unfold latestEsimProfileListings
  rw [List.mem_insertionSort]
  have keeps := @latest_keeps _ _ _ _ EsimProfileListing.modemImei EsimProfileListing.collectedAt _
    (rows.filterMap (profileListing (eidByImei collate rows)))
  have whole := listings_eq (eidByImei collate rows) rows
  constructor
  · intro member
    have best := keeps.highest listing member
    rw [whole] at best
    obtain ⟨own, inOwn, rfl⟩ := List.mem_map.mp best.1
    refine ⟨own, ⟨inOwn, fun third inside same => ?_⟩, rfl⟩
    exact best.2 (filed third (eidByImei collate rows third.modemImei))
      (List.mem_map.mpr ⟨third, inside, rfl⟩) same
  · rintro ⟨own, best, rfl⟩
    apply keeps.mem_of_highest
    · exact fun a inA b inB _ => listing_of_at distinct inA inB
    · rw [whole]
      refine ⟨List.mem_map.mpr ⟨own, best.1, rfl⟩, fun third inside same => ?_⟩
      obtain ⟨thirdOwn, inOwn, rfl⟩ := List.mem_map.mp inside
      exact best.2 thirdOwn inOwn same

theorem listings_once (collate : String → String → Bool) (rows : List EsimCommandRow) :
    ((latestEsimProfileListings collate rows).map EsimProfileListing.modemImei).Nodup :=
  ((List.perm_insertionSort _ _).map _).nodup_iff.mpr (latest_keeps _).once

/-- The readings that are kept are those of which their chip has no newer one. -/
theorem mem_kept (distinct : DistinctTimes rows) (reading : EsimChipReading) :
    reading ∈ latest EsimChipReading.eid EsimChipReading.at (readings rows) ↔ NewestOfChip rows reading := by
  have keeps := @latest_keeps _ _ _ _ EsimChipReading.eid EsimChipReading.at _ (readings rows)
  exact ⟨keeps.highest reading, keeps.mem_of_highest fun a inA b inB _ => reading_of_at distinct inA inB⟩

theorem kept_nodup (rows : List EsimCommandRow) :
    (latest EsimChipReading.eid EsimChipReading.at (readings rows)).Nodup :=
  List.Nodup.of_map _ (latest_keeps _).once

/-- Two kept readings of one chip are one. -/
theorem kept_unique (distinct : DistinctTimes rows) {a b : EsimChipReading} (inA : NewestOfChip rows a)
    (inB : NewestOfChip rows b) (same : a.eid = b.eid) : a = b :=
  List.inj_on_of_nodup_map (latest_keeps _).once ((mem_kept distinct a).mpr inA)
    ((mem_kept distinct b).mpr inB) same

/-- What a module's listings borrow is the chip of a kept reading that names the module. -/
theorem borrowed_some (distinct : DistinctTimes rows) {imei eid : String}
    (borrowed : eidByImei collate rows imei = some eid) :
    ∃ reading, NewestOfChip rows reading ∧ reading.imei = imei ∧ reading.eid = eid := by
  obtain ⟨reading, last, rfl⟩ := Option.map_eq_some_iff.mp borrowed
  obtain ⟨inside, named⟩ := List.mem_filter.mp (List.mem_of_getLast? last)
  rw [decide_eq_true_eq] at named
  exact ⟨reading, (mem_kept distinct reading).mp ((List.mem_insertionSort _).mp inside), named, rfl⟩

theorem borrowed_none {imei : String} (unread : ∀ reading ∈ readings rows, reading.imei ≠ imei) :
    eidByImei collate rows imei = none := by
  unfold eidByImei
  rw [Option.map_eq_none_iff, List.getLast?_eq_none_iff, List.filter_eq_nil_iff]
  intro reading member named
  rw [decide_eq_true_eq] at named
  exact unread reading
    ((latest_keeps (readings rows)).highest reading ((List.mem_insertionSort _).mp member)).1 named

section Sorted

variable [Std.Total fun a b => collate a b = true] [IsTrans String fun a b => collate a b = true]

instance eidOrder_total : Std.Total (EidOrder collate) where
  total a b := Std.Total.total (r := fun a b => collate a b = true) a.eid b.eid

instance eidOrder_trans : IsTrans EsimChipReading (EidOrder collate) where
  trans a b c := IsTrans.trans (r := fun a b => collate a b = true) a.eid b.eid c.eid

/-- The kept reading that every other one of the module sorts before is borrowed. -/
theorem borrowed_last (distinct : DistinctTimes rows) {last : EsimChipReading} (kept : NewestOfChip rows last)
    (after : ∀ earlier, NewestOfChip rows earlier → earlier.imei = last.imei → earlier.eid ≠ last.eid →
      collate last.eid earlier.eid = false) :
    eidByImei collate rows last.imei = some last.eid := by
  unfold eidByImei latestEsimChipReads
  rw [last_of_sorted (kept_nodup rows) ((mem_kept distinct last).mpr kept) (decide_eq_true rfl)]
  · rfl
  · intro earlier member named different before
    rw [decide_eq_true_eq] at named
    have earlierKept := (mem_kept distinct earlier).mp member
    have sorts := after earlier earlierKept named fun same =>
      different (kept_unique distinct earlierKept kept same)
    exact absurd (before.symm.trans sorts) (by decide)

omit [Std.Total fun a b => collate a b = true] [IsTrans String fun a b => collate a b = true] in
/-- Rows that begin with a reading that does not sort after another one of the module do not give its
chip to the module. -/
theorem borrowed_other {row : EsimCommandRow} (distinct : DistinctTimes rows)
    (member : row ∈ rows) {last earlier : EsimChipReading} (read : chipReading row = some last)
    (kept : NewestOfChip rows last) (earlierKept : NewestOfChip rows earlier)
    (named : earlier.imei = last.imei) (different : earlier.eid ≠ last.eid)
    (before : collate last.eid earlier.eid = true) :
    eidByImei collate (row :: rows) last.imei ≠ some last.eid := by
  have same : SameRows rows (row :: rows) := by
    intro third
    rw [List.mem_cons, or_iff_right_iff_imp]
    rintro rfl
    exact member
  have distinct' := distinct.same same
  have keptThere := (mem_kept distinct' last).mpr ((newestOfChip_same same last).mpr kept)
  have earlierThere := (mem_kept distinct' earlier).mpr ((newestOfChip_same same earlier).mpr earlierKept)
  have front : readings (row :: rows) = last :: readings rows := List.filterMap_cons_some read
  obtain ⟨others, keys⟩ := @latest_head _ _ _ _ EsimChipReading.eid EsimChipReading.at _ last (readings rows)
  rw [← front] at keys
  obtain ⟨head, tail, whole, headKey, -⟩ := List.map_eq_cons_iff.mp keys
  have headLast : head = last := by
    refine kept_unique distinct' ((mem_kept distinct' head).mp ?_)
      ((newestOfChip_same same last).mpr kept) headKey
    rw [whole]
    exact List.mem_cons_self
  subst headLast
  have inTail : earlier ∈ tail := by
    rw [whole] at earlierThere
    exact (List.mem_cons.mp earlierThere).resolve_left fun same => different (congrArg _ same)
  have pair : [head, earlier].Sublist
      (latest EsimChipReading.eid EsimChipReading.at (readings (row :: rows))) := by
    rw [whole]
    exact (List.singleton_sublist.mpr inTail).cons_cons head
  have notLast := not_last_of_sorted (r := EidOrder collate)
    (p := fun reading => decide (reading.imei = head.imei)) (kept_nodup _) pair
    ⟨decide_eq_true rfl, decide_eq_true named⟩ before
  intro borrowed
  obtain ⟨reading, found, sameEid⟩ := Option.map_eq_some_iff.mp borrowed
  have inside := (List.mem_insertionSort _).mp (List.mem_filter.mp (List.mem_of_getLast? found)).1
  have isHead : reading = head := by
    refine List.inj_on_of_nodup_map (latest_keeps _).once inside ?_ sameEid
    rw [whole]
    exact List.mem_cons_self
  exact notLast (isHead ▸ found)

end Sorted

/-! ## The listings -/

/-- A module has one newest reading at most. -/
theorem newestOfModule_unique (distinct : DistinctTimes rows) {a b : EsimChipReading}
    (newestA : NewestOfModule rows a) (newestB : NewestOfModule rows b) (same : a.imei = b.imei) : a = b :=
  reading_of_at distinct newestA.1 newestB.1
    (le_antisymm (newestB.2 a newestA.1 same) (newestA.2 b newestB.1 same.symm))

theorem chipIn_unique (distinct : DistinctTimes rows) {imei : String} {a b : Option String}
    (inA : ChipIn rows imei a) (inB : ChipIn rows imei b) : a = b := by
  cases a with
  | none =>
    cases b with
    | none => rfl
    | some eid =>
      obtain ⟨reading, newest, named, _⟩ := inB
      exact absurd named (inA reading newest.1)
  | some eid =>
    obtain ⟨reading, newest, named, rfl⟩ := inA
    cases b with
    | none => exact absurd named (inB reading newest.1)
    | some other =>
      obtain ⟨second, newest', named', rfl⟩ := inB
      rw [newestOfModule_unique distinct newest newest' (named.trans named'.symm)]

/-- Some chip is in the module, or none was ever read in it. -/
theorem exists_chipIn (rows : List EsimCommandRow) (imei : String) : ∃ chip, ChipIn rows imei chip := by
  by_cases unread : ∀ reading ∈ readings rows, reading.imei ≠ imei
  · exact ⟨none, unread⟩
  · push Not at unread
    obtain ⟨first, member, named⟩ := unread
    have keeps := @latest_keeps _ _ _ _ EsimChipReading.imei EsimChipReading.at _ (readings rows)
    obtain ⟨last, inside, same⟩ := List.mem_map.mp (keeps.every first member)
    exact ⟨some last.eid, last, keeps.highest last inside, same.trans named, rfl⟩

section Sorted

variable [Std.Total fun a b => collate a b = true] [IsTrans String fun a b => collate a b = true]

/-- What a module's listings borrow is the chip that is in it. -/
theorem borrowed_chip (distinct : DistinctTimes rows) (sorts : LastReadSortsLast collate rows)
    {listing : EsimProfileListing} (newest : NewestListing rows listing) (bare : listing.eid = none) :
    ChipIn rows listing.modemImei (eidByImei collate rows listing.modemImei) := by
  obtain ⟨chip, inside⟩ := exists_chipIn rows listing.modemImei
  cases chip with
  | none =>
    rw [borrowed_none inside]
    exact inside
  | some eid =>
    obtain ⟨last, newestRead, named, rfl⟩ := inside
    obtain ⟨kept, after⟩ := sorts listing newest bare last newestRead named
    rw [← named, borrowed_last distinct kept after]
    exact ⟨last, newestRead, rfl, rfl⟩

theorem filed_of_own {listing : EsimProfileListing} {eid : String} (own : listing.eid = some eid)
    (chip : Option String) : filed listing chip = listing := by
  unfold filed
  rw [own, Option.some_or, ← own]

theorem filed_of_bare {listing : EsimProfileListing} (bare : listing.eid = none) (chip : Option String) :
    (filed listing chip).eid = chip := by
  unfold filed
  rw [bare, Option.none_or]

theorem showsChips_of_sorted (distinct : DistinctTimes rows) (sorts : LastReadSortsLast collate rows) :
    ShowsChips collate rows where
  once := listings_once collate rows
  shown listing := by
    rw [mem_listings distinct]
    constructor
    · rintro ⟨own, newest, rfl⟩
      obtain ⟨chip, inside⟩ := exists_chipIn rows own.modemImei
      refine ⟨own, newest, chip, inside, ?_⟩
      cases bare : own.eid with
      | some eid => rw [filed_of_own bare, filed_of_own bare]
      | none => rw [chipIn_unique distinct inside (borrowed_chip distinct sorts newest bare)]
    · rintro ⟨own, newest, chip, inside, rfl⟩
      refine ⟨own, newest, ?_⟩
      cases bare : own.eid with
      | some eid => rw [filed_of_own bare, filed_of_own bare]
      | none => rw [chipIn_unique distinct inside (borrowed_chip distinct sorts newest bare)]

omit [Std.Total fun a b => collate a b = true] [IsTrans String fun a b => collate a b = true] in
theorem LastReadSortsLast.same (sorts : LastReadSortsLast collate rows) (same : SameRows rows other) :
    LastReadSortsLast collate other := by
  intro listing newest bare last newestRead named
  obtain ⟨kept, after⟩ := sorts listing ((newestListing_same same listing).mp newest) bare last
    ((newestOfModule_same same last).mp newestRead) named
  exact ⟨(newestOfChip_same same last).mpr kept,
    fun earlier earlierKept => after earlier ((newestOfChip_same same earlier).mp earlierKept)⟩

omit [Std.Total fun a b => collate a b = true] [IsTrans String fun a b => collate a b = true] in
/-- A newest listing without an EID shows what is borrowed. -/
theorem borrowed_of_shows (distinct : DistinctTimes rows) (shows_ : ShowsChips collate rows)
    {listing : EsimProfileListing} (newest : NewestListing rows listing) (bare : listing.eid = none) :
    ChipIn rows listing.modemImei (eidByImei collate rows listing.modemImei) := by
  have member := (@mem_listings collate _ distinct
    (filed listing (eidByImei collate rows listing.modemImei))).mpr ⟨listing, newest, rfl⟩
  obtain ⟨other, newest', chip, inside, same⟩ := (shows_.shown _).mp member
  have at_ : (filed listing (eidByImei collate rows listing.modemImei)).collectedAt =
      (filed other chip).collectedAt := congrArg EsimProfileListing.collectedAt same
  obtain rfl := listing_of_at distinct newest.1 newest'.1 at_
  have eid := congrArg EsimProfileListing.eid same
  rw [filed_of_bare bare, filed_of_bare bare] at eid
  rwa [eid]

/-- The listings are filed under the chips that are in the modules, for the rows in any order and
number, exactly when the chip that was read last in a module is the one whose EID sorts last. -/
theorem listings_filed_iff (distinct : DistinctTimes rows) :
    (∀ other, SameRows rows other → ShowsChips collate other) ↔ LastReadSortsLast collate rows := by
  constructor
  · intro always listing newest bare last newestRead named
    -- the chip read last in the module is what the listing shows in every order of the rows
    have borrows : ∀ other, SameRows rows other → eidByImei collate other last.imei = some last.eid := by
      intro other same
      have inside := borrowed_of_shows (distinct.same same) (always other same)
        ((newestListing_same same listing).mpr newest) bare
      rw [← named] at inside
      exact chipIn_unique (distinct.same same) inside
        ⟨last, (newestOfModule_same same last).mpr newestRead, rfl, rfl⟩
    obtain ⟨reading, kept, sameModule, sameEid⟩ :=
      borrowed_some distinct (borrows rows fun _ => Iff.rfl)
    have isLast : reading = last := by
      apply reading_of_at distinct kept.1 newestRead.1
      exact le_antisymm (newestRead.2 reading kept.1 sameModule) (kept.2 last newestRead.1 sameEid.symm)
    subst isLast
    refine ⟨kept, fun earlier earlierKept sameImei different => ?_⟩
    by_contra before
    rw [Bool.not_eq_false] at before
    obtain ⟨row, member, read⟩ := List.mem_filterMap.mp kept.1
    apply borrowed_other distinct member read kept earlierKept sameImei different before
    apply borrows
    intro third
    rw [List.mem_cons, or_iff_right_iff_imp]
    rintro rfl
    exact member
  · intro sorts other same
    exact showsChips_of_sorted (distinct.same same) (sorts.same same)

end Sorted

/-! ## Two chips in a module -/

/-- The order of code points. -/
def codeOrder (a b : String) : Bool := decide (a ≤ b)

instance codeOrder_total : Std.Total fun a b => codeOrder a b = true where
  total a b := by simpa [codeOrder] using String.le_total a b

instance codeOrder_trans : IsTrans String fun a b => codeOrder a b = true where
  trans a b c := by simpa [codeOrder] using String.le_trans

def readRow (at_ : Int) (eid : String) : EsimCommandRow where
  kind := "read_esim_info"
  status := "succeeded"
  completedAt := some at_
  payload := none
  details := some (.obj [("eid", .str eid), ("imei", .str "867018069514820")])

def listRow (at_ : Int) : EsimCommandRow where
  kind := "list_esim_profiles"
  status := "succeeded"
  completedAt := some at_
  payload := none
  details := some (.obj [("imei", .str "867018069514820")])

/-- A module that was read with one chip and then with one whose EID sorts after it. -/
def twoChips : List EsimCommandRow := [listRow 3, readRow 2 "8986", readRow 1 "8904"]

theorem twoChips_filed :
    ShowsChips codeOrder [readRow 2 "8986", listRow 3, readRow 1 "8904", readRow 2 "8986"] := by
  have distinct : DistinctTimes twoChips := by decide
  have newest : ∀ a ∈ readings twoChips, NewestOfChip twoChips a := by
    unfold NewestOfChip Highest
    decide +kernel
  have later : ∀ a ∈ readings twoChips, ∀ b ∈ readings twoChips, b.at ≤ a.at → b.eid ≠ a.eid →
      codeOrder a.eid b.eid = false := by decide +kernel
  have sorts : LastReadSortsLast codeOrder twoChips := by
    refine fun listing _ _ last newestRead _ => ⟨newest last newestRead.1, ?_⟩
    intro earlier earlierKept named different
    exact later last newestRead.1 earlier earlierKept.1 (newestRead.2 earlier earlierKept.1 named) different
  refine (listings_filed_iff distinct).mpr sorts _ ?_
  intro row
  simp only [twoChips, List.mem_cons, List.not_mem_nil, or_false]
  tauto

/-- A module that was read with one chip and then with one whose EID sorts before it. -/
def changedChip : List EsimCommandRow := [listRow 3, readRow 2 "8904", readRow 1 "8986"]

/-- The listing is filed under the chip that is no longer in the module. -/
theorem changed_chip_misfiled : DistinctTimes changedChip ∧ ¬ ShowsChips codeOrder changedChip := by
  have distinct : DistinctTimes changedChip := by decide
  refine ⟨distinct, fun shows_ => ?_⟩
  have own : ownListings changedChip =
      [⟨"867018069514820", none, [], none, 3⟩, ⟨"867018069514820", some "8904", [], none, 2⟩,
        ⟨"867018069514820", some "8986", [], none, 1⟩] := by decide +kernel
  have newest : NewestListing changedChip ⟨"867018069514820", none, [], none, 3⟩ := by
    unfold NewestListing Highest
    rw [own]
    decide
  have inside := borrowed_of_shows distinct shows_ newest rfl
  have borrowed : eidByImei codeOrder changedChip "867018069514820" = some "8986" := by decide +kernel
  have inThere : ∃ reading ∈ readings changedChip, reading.imei = "867018069514820" ∧
      reading.eid = "8904" := by decide +kernel
  obtain ⟨later, member, named, laterEid⟩ := inThere
  rw [borrowed] at inside
  obtain ⟨reading, newestRead, sameImei, sameEid⟩ := inside
  have times : ∀ a ∈ readings changedChip, ∀ b ∈ readings changedChip, a.eid = "8904" → b.eid = "8986" →
      ¬ a.at ≤ b.at := by decide +kernel
  exact times later member reading newestRead.1 laterEid sameEid
    (newestRead.2 later member (named.trans sameImei.symm))

end VodogeCloud.Guarantees.ChipListings
