import Mathlib.Data.List.Sort
import Mathlib.Order.Bounds.Basic
import Mathlib.Order.Interval.Finset.Nat
import Mathlib.Tactic.Common

/-!
# Contiguous prefixes and maximal gaps of a set of sequence numbers

A receiver of numbered records holds some set `S` of numbers above a base. What
it can acknowledge is the end of the longest run that starts right after the
base; what it still has to ask for is the list of maximal runs of absent
numbers that some present number closes. Both notions are stated on the set
alone (`IsPrefixEnd`, `IsGap`, `GapList`), with no scan, index or order of
arrival, and the scans below (`prefixWalk`, `gapsFrom`) are shown to compute
them on a strictly ascending enumeration of the set.
-/

set_option autoImplicit false

namespace VodogeCloud.Lib.SequenceGaps

/-- `(base, c]` lies inside `S`. -/
def Covered (S : Set Nat) (base c : Nat) : Prop :=
  ∀ s, base < s → s ≤ c → s ∈ S

/-- The largest `c` at or above the base with `(base, c]` inside `S`. -/
def IsPrefixEnd (S : Set Nat) (base c : Nat) : Prop :=
  IsGreatest {c | base ≤ c ∧ Covered S base c} c

/-- An inclusive range of sequence numbers. -/
structure Gap where
  first : Nat
  last : Nat
  deriving DecidableEq, Repr

/-- A maximal run of numbers absent from `S` above `low`, closed by a present
number. -/
structure IsGap (S : Set Nat) (low : Nat) (gap : Gap) : Prop where
  above : low < gap.first
  nonempty : gap.first ≤ gap.last
  absent : ∀ s, gap.first ≤ s → s ≤ gap.last → s ∉ S
  opens : gap.first = low + 1 ∨ gap.first - 1 ∈ S
  closes : gap.last + 1 ∈ S

/-- The ascending list of all maximal gaps above `low`. -/
structure GapList (S : Set Nat) (low : Nat) (gaps : List Gap) : Prop where
  ascending : gaps.Pairwise (fun a b => a.last < b.first)
  complete : ∀ gap, gap ∈ gaps ↔ IsGap S low gap

theorem covered_mono {S T : Set Nat} {base c : Nat} (sub : S ⊆ T)
    (covered : Covered S base c) : Covered T base c :=
  fun s lower upper => sub (covered s lower upper)

/-- As many different numbers as the interval has places fill the interval. -/
theorem covered_of_count {S : Set Nat} {base c : Nat} {seqs : List Nat} (nodup : seqs.Nodup)
    (inside : ∀ s ∈ seqs, base < s ∧ s ≤ c ∧ s ∈ S) (count : seqs.length = c - base) :
    Covered S base c := by
  have sub : seqs.toFinset ⊆ Finset.Ioc base c := by
    intro s member
    have := inside s (List.mem_toFinset.mp member)
    exact Finset.mem_Ioc.mpr ⟨this.1, this.2.1⟩
  have full : seqs.toFinset = Finset.Ioc base c := by
    apply Finset.eq_of_subset_of_card_le sub
    rw [Nat.card_Ioc, List.toFinset_card_of_nodup nodup, count]
  intro s lower upper
  have member : s ∈ seqs.toFinset := full ▸ Finset.mem_Ioc.mpr ⟨lower, upper⟩
  exact (inside s (List.mem_toFinset.mp member)).2.2

/-- Two prefix ends of one set are the same number. -/
theorem IsPrefixEnd.unique {S : Set Nat} {base c d : Nat}
    (hc : IsPrefixEnd S base c) (hd : IsPrefixEnd S base d) : c = d :=
  IsGreatest.unique hc hd

/-- A number is the prefix end as soon as the run reaches it and stops there. -/
theorem isPrefixEnd_of_stop {S : Set Nat} {base c : Nat} (lower : base ≤ c)
    (covered : Covered S base c) (stop : c + 1 ∉ S) : IsPrefixEnd S base c := by
  refine ⟨⟨lower, covered⟩, ?_⟩
  rintro d ⟨_, coveredD⟩
  by_contra beyond
  exact stop (coveredD (c + 1) (by omega) (by omega))

theorem IsPrefixEnd.stop {S : Set Nat} {base c : Nat} (h : IsPrefixEnd S base c) :
    c + 1 ∉ S := by
  intro present
  have longer : c + 1 ∈ {c | base ≤ c ∧ Covered S base c} := by
    refine ⟨Nat.le_succ_of_le h.1.1, fun s lower upper => ?_⟩
    rcases Nat.lt_or_ge c s with beyond | within
    · have : s = c + 1 := by omega
      rwa [this]
    · exact h.1.2 s lower within
  have := h.2 longer
  omega

/-- More numbers never shorten the prefix. -/
theorem IsPrefixEnd.mono {S T : Set Nat} {base c d : Nat} (sub : S ⊆ T)
    (hc : IsPrefixEnd S base c) (hd : IsPrefixEnd T base d) : c ≤ d :=
  hd.2 ⟨hc.1.1, covered_mono sub hc.1.2⟩

/-- Moving the base up inside the prefix, and dropping numbers at or below the
new base, leaves the prefix end where it was. -/
theorem IsPrefixEnd.rebase {S T : Set Nat} {base base' c : Nat}
    (h : IsPrefixEnd S base c) (lower : base ≤ base') (upper : base' ≤ c)
    (same : ∀ s, base' < s → (s ∈ T ↔ s ∈ S)) : IsPrefixEnd T base' c := by
  apply isPrefixEnd_of_stop upper
  · intro s above below
    exact (same s above).mpr (h.1.2 s (by omega) below)
  · rw [same (c + 1) (by omega)]
    exact h.stop

/-- A gap list depends only on the numbers above `low`. -/
theorem GapList.congr {S T : Set Nat} {low : Nat} {gaps : List Gap}
    (same : ∀ s, low < s → (s ∈ S ↔ s ∈ T)) (h : GapList S low gaps) :
    GapList T low gaps := by
  have transfer : ∀ {A B : Set Nat}, (∀ s, low < s → (s ∈ A ↔ s ∈ B)) →
      ∀ gap, IsGap A low gap → IsGap B low gap := by
    intro A B agree gap isGap
    have above := isGap.above
    have nonempty := isGap.nonempty
    refine ⟨above, nonempty, ?_, ?_, ?_⟩
    · intro s lower upper
      rw [← agree s (by omega)]
      exact isGap.absent s lower upper
    · rcases isGap.opens with start | present
      · exact Or.inl start
      · rcases Nat.lt_or_ge low (gap.first - 1) with inside | edge
        · exact Or.inr ((agree _ inside).mp present)
        · exact Or.inl (by omega)
    · exact (agree _ (by omega)).mp isGap.closes
  refine ⟨h.ascending, fun gap => (h.complete gap).trans ⟨?_, ?_⟩⟩
  · exact transfer same gap
  · exact transfer (fun s lower => (same s lower).symm) gap

/-- Two gap lists of one set are the same list. -/
theorem GapList.unique {S : Set Nat} {low : Nat} {a b : List Gap}
    (ha : GapList S low a) (hb : GapList S low b) : a = b := by
  have distinct : ∀ {gaps : List Gap}, GapList S low gaps → gaps.Nodup := by
    intro gaps list
    refine List.nodup_iff_pairwise_ne.mpr ?_
    refine list.ascending.imp_of_mem fun {x y} memberX _ before same => ?_
    have := ((list.complete x).mp memberX).nonempty
    rw [same] at before this
    omega
  have perm : a.Perm b :=
    (List.perm_ext_iff_of_nodup (distinct ha) (distinct hb)).mpr
      (fun gap => (ha.complete gap).trans (hb.complete gap).symm)
  refine List.Perm.eq_of_pairwise ?_ ha.ascending hb.ascending perm
  intro x y memberX memberY before after
  have := ((ha.complete x).mp memberX).nonempty
  have := ((hb.complete y).mp memberY).nonempty
  omega

/-! ## Scans over a strictly ascending enumeration -/

/-- Walk the leading run of an ascending list. -/
def prefixWalk (base : Nat) : List Nat → Nat
  | [] => base
  | head :: tail => if head = base + 1 then prefixWalk (base + 1) tail else base

/-- The gaps an ascending list leaves above `low`. -/
def gapsFrom (low : Nat) : List Nat → List Gap
  | [] => []
  | head :: tail =>
    if low + 1 < head then ⟨low + 1, head - 1⟩ :: gapsFrom head tail else gapsFrom head tail

theorem prefixWalk_isPrefixEnd (base : Nat) (seqs : List Nat)
    (sorted : seqs.Pairwise (· < ·)) (above : ∀ s ∈ seqs, base < s) :
    IsPrefixEnd {s | s ∈ seqs} base (prefixWalk base seqs) := by
  induction seqs generalizing base with
  | nil =>
    simp only [prefixWalk]
    exact isPrefixEnd_of_stop (Nat.le_refl _) (fun s lower upper => by omega) (by simp)
  | cons head tail ih =>
    obtain ⟨headLt, tailSorted⟩ := List.pairwise_cons.mp sorted
    by_cases next : head = base + 1
    · have inner := ih (base + 1) tailSorted (fun s member => by
        have := headLt s member
        omega)
      simp only [prefixWalk, if_pos next]
      apply isPrefixEnd_of_stop (Nat.le_of_succ_le inner.1.1)
      · intro s lower upper
        rcases Nat.lt_or_ge (base + 1) s with beyond | within
        · exact List.mem_cons_of_mem _ (inner.1.2 s beyond upper)
        · have : s = head := by omega
          simp [this]
      · intro present
        rcases List.mem_cons.mp present with atHead | inTail
        · have := inner.1.1
          omega
        · exact inner.stop inTail
    · simp only [prefixWalk, if_neg next]
      apply isPrefixEnd_of_stop (Nat.le_refl _) (fun s lower upper => by omega)
      intro present
      rcases List.mem_cons.mp present with atHead | inTail
      · exact next atHead.symm
      · have := headLt _ inTail
        have := above head (by simp)
        omega

theorem le_first_of_mem_gapsFrom {low : Nat} {seqs : List Nat} {gap : Gap}
    (sorted : seqs.Pairwise (· < ·)) (above : ∀ s ∈ seqs, low < s)
    (member : gap ∈ gapsFrom low seqs) : low < gap.first := by
  induction seqs generalizing low with
  | nil => simp [gapsFrom] at member
  | cons head tail ih =>
    obtain ⟨headLt, tailSorted⟩ := List.pairwise_cons.mp sorted
    have lowLt := above head (by simp)
    unfold gapsFrom at member
    split at member
    · rcases List.mem_cons.mp member with rfl | inTail
      · exact Nat.lt_succ_self low
      · exact Nat.lt_trans lowLt (ih tailSorted headLt inTail)
    · exact Nat.lt_trans lowLt (ih tailSorted headLt member)

theorem gapsFrom_ascending (low : Nat) (seqs : List Nat)
    (sorted : seqs.Pairwise (· < ·)) (above : ∀ s ∈ seqs, low < s) :
    (gapsFrom low seqs).Pairwise (fun a b => a.last < b.first) := by
  induction seqs generalizing low with
  | nil => exact List.Pairwise.nil
  | cons head tail ih =>
    obtain ⟨headLt, tailSorted⟩ := List.pairwise_cons.mp sorted
    unfold gapsFrom
    split
    · refine List.pairwise_cons.mpr ⟨fun gap member => ?_, ih head tailSorted headLt⟩
      have := le_first_of_mem_gapsFrom tailSorted headLt member
      show head - 1 < gap.first
      omega
    · exact ih head tailSorted headLt

/-- Gaps above the head of the list do not see the numbers at or below it. -/
theorem isGap_cons_iff {low head : Nat} {tail : List Nat}
    (headLt : ∀ s ∈ tail, head < s) (lowLt : low < head) (gap : Gap) :
    IsGap {s | s ∈ head :: tail} low gap ↔
      (low + 1 < head ∧ gap = ⟨low + 1, head - 1⟩) ∨ IsGap {s | s ∈ tail} head gap := by
  constructor
  · intro isGap
    have headNotIn : ¬ (gap.first ≤ head ∧ head ≤ gap.last) := by
      rintro ⟨lower, upper⟩
      exact isGap.absent head lower upper (by simp)
    have above := isGap.above
    have nonempty := isGap.nonempty
    rcases Nat.lt_or_ge gap.last head with before | after
    · left
      have closesAt : gap.last + 1 = head := by
        rcases List.mem_cons.mp isGap.closes with equal | inTail
        · exact equal
        · have := headLt _ inTail
          omega
      have opensAt : gap.first = low + 1 := by
        rcases isGap.opens with equal | present
        · exact equal
        · rcases List.mem_cons.mp present with equal | inTail
          · omega
          · have := headLt _ inTail
            omega
      refine ⟨by omega, ?_⟩
      obtain ⟨first, last⟩ := gap
      simp only [Gap.mk.injEq] at *
      omega
    · right
      refine ⟨by omega, nonempty, ?_, ?_, ?_⟩
      · intro s lower upper inTail
        exact isGap.absent s lower upper (List.mem_cons_of_mem _ inTail)
      · rcases isGap.opens with equal | present
        · omega
        · rcases List.mem_cons.mp present with equal | inTail
          · left; omega
          · exact Or.inr inTail
      · rcases List.mem_cons.mp isGap.closes with equal | inTail
        · omega
        · exact inTail
  · rintro (⟨room, rfl⟩ | isGap)
    · refine ⟨Nat.lt_succ_self low, by show low + 1 ≤ head - 1; omega, ?_, Or.inl rfl, ?_⟩
      · intro s lower upper present
        have upper' : s ≤ head - 1 := upper
        rcases List.mem_cons.mp present with equal | inTail
        · omega
        · have := headLt _ inTail
          omega
      · show head - 1 + 1 ∈ head :: tail
        have : head - 1 + 1 = head := by omega
        simp [this]
    · have above := isGap.above
      refine ⟨by omega, isGap.nonempty, ?_, ?_, List.mem_cons_of_mem _ isGap.closes⟩
      · intro s lower upper present
        rcases List.mem_cons.mp present with equal | inTail
        · omega
        · exact isGap.absent s lower upper inTail
      · rcases isGap.opens with equal | present
        · right
          have : gap.first - 1 = head := by omega
          simp [this]
        · exact Or.inr (List.mem_cons_of_mem _ present)

theorem gapsFrom_gapList (low : Nat) (seqs : List Nat)
    (sorted : seqs.Pairwise (· < ·)) (above : ∀ s ∈ seqs, low < s) :
    GapList {s | s ∈ seqs} low (gapsFrom low seqs) := by
  refine ⟨gapsFrom_ascending low seqs sorted above, ?_⟩
  induction seqs generalizing low with
  | nil =>
    intro gap
    simp only [gapsFrom, List.not_mem_nil, false_iff]
    exact fun isGap => by simpa using isGap.closes
  | cons head tail ih =>
    obtain ⟨headLt, tailSorted⟩ := List.pairwise_cons.mp sorted
    have lowLt := above head (by simp)
    intro gap
    rw [isGap_cons_iff headLt lowLt gap, ← ih head tailSorted headLt gap, gapsFrom]
    split
    · next room => simp [room]
    · next room => simp [room]

end VodogeCloud.Lib.SequenceGaps
