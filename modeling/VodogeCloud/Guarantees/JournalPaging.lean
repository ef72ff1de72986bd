import VodogeCloud.Lib.Decimal
import VodogeCloud.Lib.KeysetPages
import VodogeCloud.Source.EventPages

/-!
# Paging the journal

A cursor is the millisecond of the last row of a page, and the next page is what lies before
that millisecond. Rows of it that the page did not have are in no page, and where it is the
first one of the epoch the next page is the newest one again.
-/

set_option autoImplicit false

namespace VodogeCloud.Guarantees.JournalPaging

open VodogeCloud.Lib VodogeCloud.Lib.Decimal VodogeCloud.Lib.KeysetPages VodogeCloud.Source.Postgres
open VodogeCloud.Source.IngressWindow VodogeCloud.Source.EventPages
open VodogeCloud.Source.ServeDevice (timestampArg)

/-! ## Cursors -/

theorem digitsValue_natText (n : Nat) : digitsValue (toString n).toList = some n := by
  unfold digitsValue
  rw [if_pos ⟨natText_ne_nil n, List.all_eq_true.mpr fun c member => isDigit_of_mem_natText member⟩, value_natText]

/-- A text of digits has no sign. -/
theorem parseInt_digits {text : String} (digits : ∀ c ∈ text.toList, c.isDigit = true) :
    parseInt text = (digitsValue text.toList).bind fun n => inInt64 n := by
  unfold parseInt
  split
  · next same =>
    have minus := digits '-' (by rw [same]; exact List.mem_cons_self)
    exact absurd minus (by decide)
  · next same =>
    have plus := digits '+' (by rw [same]; exact List.mem_cons_self)
    exact absurd plus (by decide)
  · rfl

theorem parseInt_minus {text : String} {digits : List Char} (shape : text.toList = '-' :: digits) :
    parseInt text = (digitsValue digits).bind fun n => inInt64 (-n) := by
  unfold parseInt
  rw [shape]
  rfl

/-- A number that is passed back is the number. -/
theorem parseInt_intText {n : Int} (least : -9223372036854775808 ≤ n) (most : n < 9223372036854775808) :
    parseInt (toString n) = some n := by
  have held : inInt64 n = some n := if_pos ⟨least, most⟩
  cases n with
  | ofNat n =>
    have text : toString (Int.ofNat n) = toString n := rfl
    rw [text, parseInt_digits fun c member => isDigit_of_mem_natText member, digitsValue_natText, Option.bind_some]
    exact held
  | negSucc n =>
    have text : (toString (Int.negSucc n)).toList = '-' :: (toString (n + 1)).toList := by
      have parts : toString (Int.negSucc n) = "-" ++ toString (n + 1) := rfl
      rw [parts, String.toList_append]
      rfl
    rw [parseInt_minus text, digitsValue_natText, Option.bind_some]
    exact held

theorem unixMilli_range {at_ : Int} (least : -211813488000000000 ≤ at_ - 946684800000000)
    (most : at_ - 946684800000000 < 9223371331200000000) :
    -9223372036854775808 ≤ unixMilli at_ ∧ unixMilli at_ < 9223372036854775808 := by
  unfold unixMilli
  omega

/-- The millisecond of a row is a cursor the server takes. -/
theorem timestampArg_unixMilli {at_ : Int} (least : -211813488000000000 ≤ at_ - 946684800000000)
    (most : at_ - 946684800000000 < 9223371331200000000) (positive : 0 < unixMilli at_) :
    timestampArg (unixMilli at_) = .ok (unixMilli at_ * 1000) := by
  unfold unixMilli at positive ⊢
  unfold timestampArg
  have small : (at_ / 1000 * 1000 - 946684800000000).bmod (2 ^ 64) = at_ / 1000 * 1000 - 946684800000000 :=
    Int.bmod_eq_of_le (by omega) (by omega)
  dsimp only
  rw [small, if_pos (Or.inr (by omega)), Int.sub_add_cancel]

/-! ## Pages -/

/-- The rows a filter matches; none where the device is no uuid. -/
def matching (journal : Journal) (tenant : Uuid) (params : Params) : List IngressRow :=
  match deviceArg params.deviceId with
  | .error _ => []
  | .ok device => journal.ingress.rows.filter (selects tenant device params.kind)

/-- The bound of a request without a cursor. -/
def firstBound (now : Nat) : Timestamp := ((now : Int) + 60000000000) / 1000

/-- A page shows the first rows below a bound, in the order of the query. -/
structure Shows (rows : List IngressRow) (params : Params) (before : Timestamp) (order : List IngressRow)
    (page : Response) : Prop where
  perm : order.Perm (rows.filter fun row => row.receivedAt < before)
  ordered : order.Pairwise notBefore
  events : page.events = (order.take (pageSize (eventQuery params).limit)).map
    (eventRow (eventQuery params).withPayload)
  next : page.nextBefore = (page.events.getLast?.map EventRow.receivedAt).getD 0

section

variable {journal : Journal} {tenant : Uuid} {params : Params} {clock : Nat → Nat} {pages : Nat → Response}
  {before : Timestamp} {order : List IngressRow} {number : Nat} {last : IngressRow}

theorem pageSize_pos (limit : Int) : 0 < pageSize limit := by
  unfold pageSize
  split
  · decide
  · omega

theorem mem_matching {row : IngressRow} (member : row ∈ matching journal tenant params) : row ∈ journal.ingress := by
  unfold matching at member
  split at member
  · cases member
  · exact (List.mem_filter.mp member).1

theorem before_of_text {text : String} {n : Int} (read : parseInt text = some n) :
    (eventQuery { params with before := text }).before = n := by
  have filled : text ≠ "" := by
    intro empty
    rw [empty, show parseInt "" = none from by decide] at read
    cases read
  unfold eventQuery
  dsimp only
  rw [if_neg filled, read, Option.getD_some]

/-- A page that came back is the first rows below its bound. -/
theorem shows_of_answer {text : String} {now : Nat} {page : Response}
    (answered : listJournal journal tenant { params with before := text } now order = some (.ok page)) :
    ∃ before, beforeArg (eventQuery { params with before := text }).before now = .ok before ∧
      Shows (matching journal tenant params) params before order page := by
  obtain ⟨listed, rows, same⟩ := Option.map_eq_some_iff.mp answered
  cases listed with
  | error err => cases same
  | ok events =>
    obtain rfl := Except.ok.inj same
    unfold listEvents at rows
    cases found : journal.candidates tenant (eventQuery { params with before := text }) now with
    | error err =>
      rw [found] at rows
      cases rows
    | ok candidates =>
      rw [found] at rows
      dsimp only at rows
      by_cases all : order.Perm candidates ∧ order.Pairwise notBefore
      · rw [if_pos all] at rows
        cases rows
        unfold Journal.candidates at found
        cases device : deviceArg params.deviceId with
        | error err =>
          rw [show (eventQuery { params with before := text }).deviceId = params.deviceId from rfl, device] at found
          cases found
        | ok id =>
          rw [show (eventQuery { params with before := text }).deviceId = params.deviceId from rfl, device] at found
          cases bound : beforeArg (eventQuery { params with before := text }).before now with
          | error err =>
            rw [bound] at found
            cases found
          | ok before =>
            rw [bound] at found
            cases found
            refine ⟨before, rfl, ?_, all.2, rfl, rfl⟩
            unfold matching
            rw [device]
            exact all.1
      · rw [if_neg all] at rows
        cases rows

theorem first_page (paging : Paging journal tenant params clock pages) :
    ∃ order, Shows (matching journal tenant params) params (firstBound (clock 0)) order (pages 0) := by
  obtain ⟨order, answered⟩ := paging 0 fun _ earlier => absurd earlier (Nat.not_lt_zero _)
  obtain ⟨before, bound, shows_⟩ := shows_of_answer answered
  cases bound
  exact ⟨order, shows_⟩

/-- The page after one that ends at a row. -/
theorem next_page (paging : Paging journal tenant params clock pages)
    (some_ : ∀ earlier < number + 1, (pages earlier).events ≠ [])
    (shows_ : Shows (matching journal tenant params) params before order (pages number))
    (ends : (order.take (pageSize (eventQuery params).limit)).getLast? = some last) :
    ∃ order', Shows (matching journal tenant params) params
      (if 0 < unixMilli last.receivedAt then unixMilli last.receivedAt * 1000 else firstBound (clock (number + 1)))
      order' (pages (number + 1)) := by
  obtain ⟨order', answered⟩ := paging (number + 1) some_
  obtain ⟨bound, arg, next⟩ := shows_of_answer answered
  have cursor_ : (pages number).nextBefore = unixMilli last.receivedAt := by
    rw [shows_.next, shows_.events, List.getLast?_map, ends]
    rfl
  have inside : last ∈ matching journal tenant params := by
    have taken := List.mem_of_mem_take (List.mem_of_getLast? ends)
    exact List.mem_of_mem_filter (shows_.perm.mem_iff.mp taken)
  have range := journal.range last (mem_matching inside)
  have number_ : (eventQuery { params with before := cursor pages (number + 1) }).before =
      unixMilli last.receivedAt := by
    have passed : cursor pages (number + 1) = toString (unixMilli last.receivedAt) := congrArg toString cursor_
    obtain ⟨least, most⟩ := unixMilli_range range.1 range.2
    rw [passed]
    exact before_of_text (parseInt_intText least most)
  rw [number_] at arg
  unfold beforeArg at arg
  refine ⟨order', ?_⟩
  by_cases positive : 0 < unixMilli last.receivedAt
  · rw [if_pos positive, timestampArg_unixMilli range.1 range.2 positive] at arg
    cases arg
    rw [if_pos positive]
    exact next
  · rw [if_neg positive] at arg
    cases arg
    rw [if_neg positive]
    exact next

end

/-! ## All pages -/

/-- The key that pages go by. -/
def milli (row : IngressRow) : Int := unixMilli row.receivedAt

/-- A client that pages until a page is empty has had every matching row once. -/
def VisitsOnce (journal : Journal) (tenant : Uuid) (params : Params) (pages : Nat → Response) : Prop :=
  ∃ number, (pages number).events = [] ∧ (∀ earlier < number, (pages earlier).events ≠ []) ∧
    ((List.range number).flatMap fun page => (pages page).events).Perm
      ((matching journal tenant params).map (eventRow (eventQuery params).withPayload))

section

variable {journal : Journal} {tenant : Uuid} {params : Params} {clock : Nat → Nat} {pages : Nat → Response}
  {before : Timestamp} {order : List IngressRow} {number : Nat} {row : IngressRow}

theorem descends_of_notBefore (ordered : order.Pairwise notBefore) : Descends milli order := by
  refine List.Pairwise.imp (fun {a b} earlier => ?_) ordered
  unfold milli unixMilli
  refine Int.ediv_le_ediv (by decide) ?_
  rcases earlier with less | ⟨same, _⟩
  · exact le_of_lt less
  · exact le_of_eq same

/-- A page is empty where nothing lies below its bound. -/
theorem Shows.empty_iff (shows_ : Shows (matching journal tenant params) params before order (pages number)) :
    (pages number).events = [] ↔ order = [] := by
  rw [shows_.events, List.map_eq_nil_iff, List.take_eq_nil_iff, or_iff_right (Nat.ne_of_gt (pageSize_pos _))]

theorem Shows.ends (shows_ : Shows (matching journal tenant params) params before order (pages number))
    (some_ : (pages number).events ≠ []) :
    ∃ last, (order.take (pageSize (eventQuery params).limit)).getLast? = some last := by
  have filled : order.take (pageSize (eventQuery params).limit) ≠ [] := by
    intro empty
    rw [shows_.events, empty] at some_
    exact some_ rfl
  exact ⟨_, List.getLast?_eq_some_getLast filled⟩

theorem early {at_ : Int} (old : ¬ 0 < unixMilli at_) : at_ < 1000 := by
  unfold unixMilli at old
  omega

theorem firstBound_late (now : Nat) : 1000 ≤ firstBound now := by
  have bound : (1000 : Int) ≤ ((now : Int) + 60000000000) / 1000 := by omega
  exact bound

/-- With a row before the second millisecond of the epoch, paging does not end. -/
theorem paging_endless (paging : Paging journal tenant params clock pages)
    (member : row ∈ matching journal tenant params) (old : ¬ 0 < milli row) :
    ∀ number, (pages number).events ≠ [] := by
  have filled : ∀ {before order number}, 1000 ≤ before →
      Shows (matching journal tenant params) params before order (pages number) → (pages number).events ≠ [] := by
    intro before order number late shows_ empty
    have none_ := shows_.perm
    rw [shows_.empty_iff.mp empty] at none_
    have absent := List.filter_eq_nil_iff.mp none_.nil_eq.symm row member
    rw [decide_eq_true_eq] at absent
    exact absent (lt_of_lt_of_le (early old) late)
  have page : ∀ number, (∀ earlier < number, (pages earlier).events ≠ []) →
      ∃ before order, 1000 ≤ before ∧ Shows (matching journal tenant params) params before order (pages number) := by
    intro number
    induction number with
    | zero =>
      intro _
      obtain ⟨order, shows_⟩ := first_page paging
      exact ⟨_, order, firstBound_late _, shows_⟩
    | succ number ih =>
      intro some_
      obtain ⟨before, order, _, shows_⟩ := ih fun earlier less => some_ earlier (Nat.lt_succ_of_lt less)
      obtain ⟨last, ends⟩ := shows_.ends (some_ number (Nat.lt_succ_self number))
      obtain ⟨order', next⟩ := next_page paging some_ shows_ ends
      refine ⟨_, order', ?_, next⟩
      split
      · next positive =>
        have more : (1000 : Int) ≤ unixMilli last.receivedAt * 1000 := by omega
        exact more
      · exact firstBound_late _
  intro number
  induction number using Nat.strong_induction_on with
  | _ number ih =>
    obtain ⟨before, order, reach, shows_⟩ := page number ih
    exact filled reach shows_

theorem below_iff {at_ before_ : Int} {cut : Int} (inside : cut < before_) :
    at_ < unixMilli cut * 1000 ↔ unixMilli at_ < unixMilli cut ∧ at_ < before_ := by
  unfold unixMilli
  omega

/-- The rows below a cursor are those of a page's bound that lie in earlier milliseconds. -/
theorem below_cursor {rows : List IngressRow} {last : IngressRow} (inside : last.receivedAt < before) :
    (rows.filter fun row => row.receivedAt < unixMilli last.receivedAt * 1000) =
      (rows.filter fun row => row.receivedAt < before).filter fun row => milli row < milli last := by
  rw [List.filter_filter]
  refine List.filter_congr fun row _ => ?_
  rw [← Bool.decide_and, decide_eq_decide]
  exact below_iff inside

/-- Where every row is after the first millisecond of the epoch, the pages from one on are a
walk over the rows below its bound. -/
theorem pages_walk (paging : Paging journal tenant params clock pages)
    (new : ∀ row ∈ matching journal tenant params, 0 < milli row)
    (some_ : ∀ earlier < number, (pages earlier).events ≠ [])
    (shows_ : Shows (matching journal tenant params) params before order (pages number)) :
    ∃ walked, Walk milli (pageSize (eventQuery params).limit)
        ((matching journal tenant params).filter fun row => row.receivedAt < before) walked ∧
      (pages (number + walked.length)).events = [] ∧
      (∀ earlier < number + walked.length, (pages earlier).events ≠ []) ∧
      ((List.range walked.length).flatMap fun page => (pages (number + page)).events) =
        walked.flatten.map (eventRow (eventQuery params).withPayload) := by
  induction size : ((matching journal tenant params).filter fun row => row.receivedAt < before).length using
    Nat.strong_induction_on generalizing number before order with
  | _ length ih =>
    by_cases empty : (pages number).events = []
    · have none_ := shows_.perm
      rw [shows_.empty_iff.mp empty] at none_
      rw [none_.nil_eq.symm]
      exact ⟨[], .done, empty, some_, rfl⟩
    · obtain ⟨last, ends⟩ := shows_.ends empty
      have all : ∀ earlier < number + 1, (pages earlier).events ≠ [] := by
        intro earlier less
        rcases Nat.lt_succ_iff_lt_or_eq.mp less with before_ | rfl
        · exact some_ earlier before_
        · exact empty
      have inside := shows_.perm.mem_iff.mp (List.mem_of_mem_take (List.mem_of_getLast? ends))
      obtain ⟨member, below⟩ := List.mem_filter.mp inside
      obtain ⟨order', next⟩ := next_page paging all shows_ ends
      rw [if_pos (show 0 < unixMilli last.receivedAt from new last member)] at next
      have rows := @below_cursor _ (matching journal tenant params) _ (of_decide_eq_true below)
      have fewer : ((matching journal tenant params).filter fun row =>
          row.receivedAt < unixMilli last.receivedAt * 1000).length < length := by
        rw [rows, ← size, List.length_filter_lt_length_iff_exists]
        refine ⟨last, inside, ?_⟩
        rw [decide_eq_true_eq]
        exact lt_irrefl _
      obtain ⟨walked, walk, over_, shown, same⟩ := ih _ fewer all next rfl
      rw [rows] at walk
      refine ⟨_, .more shows_.perm (descends_of_notBefore shows_.ordered) ends walk, ?_, ?_, ?_⟩
      · rw [List.length_cons, show number + (walked.length + 1) = number + 1 + walked.length by omega]
        exact over_
      · intro earlier less
        rw [List.length_cons] at less
        exact shown earlier (by omega)
      · rw [List.length_cons, List.range_succ_eq_map, List.flatMap_cons, List.flatMap_map, List.flatten_cons,
          List.map_append, ← same, ← shows_.events]
        refine congrArg _ (List.flatMap_congr fun page _ => ?_)
        rw [Nat.succ_eq_add_one, show number + (page + 1) = number + 1 + page by omega]

/-- The first empty page is one. -/
theorem first_empty_unique {a b : Nat} (emptyA : (pages a).events = []) (emptyB : (pages b).events = [])
    (firstA : ∀ earlier < a, (pages earlier).events ≠ []) (firstB : ∀ earlier < b, (pages earlier).events ≠ []) :
    a = b := by
  rcases Nat.lt_trichotomy a b with less | same | more
  · exact absurd emptyA (firstB a less)
  · exact same
  · exact absurd emptyB (firstA b more)

/-- A client that pages has every matching row once exactly where all of them lie after the first
millisecond of the epoch and before the bound of the first request, and no page ends between
two rows of one millisecond. -/
theorem visits_once_iff (paging : Paging journal tenant params clock pages) :
    VisitsOnce journal tenant params pages ↔
      (∀ row ∈ matching journal tenant params, 0 < milli row ∧ row.receivedAt < firstBound (clock 0)) ∧
        Fits (pageSize (eventQuery params).limit) (keysOf milli (matching journal tenant params)) := by
  obtain ⟨order, shows_⟩ := first_page paging
  constructor
  · rintro ⟨number, empty, some_, visited⟩
    have new : ∀ row ∈ matching journal tenant params, 0 < milli row := by
      intro row member
      by_contra old
      exact paging_endless paging member old number empty
    obtain ⟨walked, walk, over_, shown, same⟩ :=
      pages_walk paging new (fun _ less => absurd less (Nat.not_lt_zero _)) shows_
    rw [Nat.zero_add] at over_ shown
    obtain rfl := first_empty_unique empty over_ some_ shown
    simp only [Nat.zero_add] at same
    rw [same] at visited
    have counted := visited.length_eq
    rw [List.length_map, List.length_map] at counted
    have read := (walk_subperm walk).length_le
    have fewer := List.length_filter_le (fun row : IngressRow => decide (row.receivedAt < firstBound (clock 0)))
      (matching journal tenant params)
    have below := List.length_filter_eq_length_iff.mp (Nat.le_antisymm fewer (counted ▸ read))
    have all : (matching journal tenant params).filter (fun row => decide (row.receivedAt < firstBound (clock 0))) =
        matching journal tenant params := List.filter_eq_self.mpr below
    rw [all] at walk
    refine ⟨fun row member => ⟨new row member, of_decide_eq_true (below row member)⟩, ?_⟩
    exact (walk_exact (pageSize_pos _) walk).mp ((walk_subperm walk).perm_of_length_le (le_of_eq counted.symm))
  · rintro ⟨inside, fits⟩
    obtain ⟨walked, walk, over_, shown, same⟩ := pages_walk paging (fun row member => (inside row member).1)
      (fun _ less => absurd less (Nat.not_lt_zero _)) shows_
    rw [List.filter_eq_self.mpr fun row member => decide_eq_true (inside row member).2] at walk
    rw [Nat.zero_add] at over_ shown
    simp only [Nat.zero_add] at same
    refine ⟨walked.length, over_, shown, ?_⟩
    rw [same]
    exact ((walk_exact (pageSize_pos _) walk).mpr fits).map _

end

/-! ## A burst -/

/-- A row of one device in one millisecond. -/
def burstRow (seq : Nat) (at_ : Timestamp) : IngressRow := ⟨2, seq, 1, BitVec.ofNat 128 seq, "DeviceState", .obj [], at_⟩

/-- Two rows that came in the same millisecond. -/
def burst : Journal where
  ingress := ⟨[burstRow 1 1700000000000100, burstRow 2 1700000000000500], by decide⟩
  range := by decide

def burstParams (limit : String) : Params := ⟨"", "", "", "", limit⟩

/-- What pages of one row show. -/
def narrowPages : Nat → Response
  | 0 => response [eventRow false (burstRow 2 1700000000000500)]
  | _ + 1 => response []

/-- What pages of two rows show. -/
def widePages : Nat → Response
  | 0 => response [eventRow false (burstRow 2 1700000000000500), eventRow false (burstRow 1 1700000000000100)]
  | _ + 1 => response []

theorem burst_narrow : Paging burst 1 (burstParams "1") (fun _ => 1700000000500000000) narrowPages := by
  intro page some_
  cases page with
  | zero => exact ⟨[burstRow 2 1700000000000500, burstRow 1 1700000000000100], by decide⟩
  | succ page =>
    cases page with
    | zero => exact ⟨[], by decide⟩
    | succ page => exact absurd rfl (some_ 1 (by omega))

theorem burst_wide : Paging burst 1 (burstParams "2") (fun _ => 1700000000500000000) widePages := by
  intro page some_
  cases page with
  | zero => exact ⟨[burstRow 2 1700000000000500, burstRow 1 1700000000000100], by decide⟩
  | succ page =>
    cases page with
    | zero => exact ⟨[], by decide⟩
    | succ page => exact absurd rfl (some_ 1 (by omega))

/-- With pages of one row the older of the two is on none. -/
theorem burst_skipped : Paging burst 1 (burstParams "1") (fun _ => 1700000000500000000) narrowPages ∧
    ¬ VisitsOnce burst 1 (burstParams "1") narrowPages := by
  refine ⟨burst_narrow, ?_⟩
  rintro ⟨number, empty, some_, visited⟩
  have number_ : number = 1 := by
    rcases Nat.lt_trichotomy number 1 with less | same | more
    · obtain rfl := Nat.lt_one_iff.mp less
      cases empty
    · exact same
    · exact absurd rfl (some_ 1 more)
  rw [number_] at visited
  exact absurd visited.length_eq (by decide)

theorem visits_once_wide : VisitsOnce burst 1 (burstParams "2") widePages := by
  refine (visits_once_iff burst_wide).mpr ⟨by decide, ?_⟩
  intro page a b some_ first second
  have keys : keysOf milli (matching burst 1 (burstParams "2")) = [1700000000000, 1700000000000] := by decide
  have size : pageSize (eventQuery (burstParams "2")).limit = 2 := by decide
  rw [keys, size, List.getElem?_eq_none (by exact Nat.le_mul_of_pos_left 2 some_)] at second
  cases second

end VodogeCloud.Guarantees.JournalPaging
