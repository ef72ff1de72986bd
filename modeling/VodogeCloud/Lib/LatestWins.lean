import Mathlib.Data.List.Induction
import Mathlib.Order.Lattice

/-!
# A register that keeps its latest write

A register takes offers that carry a stamp. The first offer is stored; a later
one is merged into the stored value unless its stamp is older. Offers may come in
any order. Two facts hold of every sequence of offers: the register ends with the
stamp of the largest offer and whatever of the value a merge replaces, and a
field that a merge carries over only while a key stays the same never outlives
that key.
-/

set_option autoImplicit false

namespace VodogeCloud.Lib.LatestWins

variable {ρ T : Type} [LinearOrder T] (stamp : ρ → T) (merge : ρ → ρ → ρ)

/-- One offer. -/
def write (stored : Option ρ) (offered : ρ) : Option ρ :=
  match stored with
  | none => some offered
  | some old => if stamp old ≤ stamp offered then some (merge old offered) else some old

/-- The offer is stored or merged, not dropped. -/
def Applies (stored : Option ρ) (offered : ρ) : Prop :=
  ∀ old, stored = some old → stamp old ≤ stamp offered

/-- The register after a sequence of offers. -/
def writes (offers : List ρ) : Option ρ := offers.foldl (write stamp merge) none

variable {stamp merge}

theorem writes_concat (offers : List ρ) (offer : ρ) :
    writes stamp merge (offers ++ [offer]) = write stamp merge (writes stamp merge offers) offer := by
  simp [writes, List.foldl_append]

theorem write_some {old offered : ρ} (later : stamp old ≤ stamp offered) :
    write stamp merge (some old) offered = some (merge old offered) := by
  simp [write, later]

theorem write_older {old offered : ρ} (older : ¬ stamp old ≤ stamp offered) :
    write stamp merge (some old) offered = some old := by
  simp [write, older]

/-- The register holds the last of the largest offers: its stamp, and the part of
it that merging replaces. -/
theorem writes_latest {V : Type} {view : ρ → V} (offers : List ρ) (some_ : offers ≠ [])
    (replaces : ∀ old offered, offered ∈ offers → stamp old ≤ stamp offered →
      stamp (merge old offered) = stamp offered ∧ view (merge old offered) = view offered) :
    ∃ before winner after final, offers = before ++ winner :: after ∧
      writes stamp merge offers = some final ∧
      stamp final = stamp winner ∧ view final = view winner ∧
      (∀ offer ∈ before, stamp offer ≤ stamp winner) ∧
      ∀ offer ∈ after, stamp offer < stamp winner := by
  induction offers using List.reverseRecOn with
  | nil => exact absurd rfl some_
  | append_singleton offers last ih =>
    rw [writes_concat]
    rcases offers.eq_nil_or_concat with rfl | ⟨_, _, nonempty⟩
    · exact ⟨[], last, [], last, rfl, rfl, rfl, rfl, by simp, by simp⟩
    · obtain ⟨before, winner, after, final, split_, stored, stamped, viewed, low, high⟩ :=
        ih (by simp [nonempty])
          (fun old offered member => replaces old offered (List.mem_append_left _ member))
      rw [stored]
      by_cases later : stamp final ≤ stamp last
      · -- the last offer takes over, and nothing came after it
        rw [write_some later]
        obtain ⟨stamped', viewed'⟩ := replaces final last (by simp) later
        refine ⟨offers, last, [], _, rfl, rfl, stamped', viewed', fun offer member => ?_, by simp⟩
        have bound : stamp offer ≤ stamp winner := by
          rw [split_] at member
          rcases List.mem_append.mp member with inBefore | inRest
          · exact low offer inBefore
          · rcases List.mem_cons.mp inRest with rfl | inAfter
            · exact le_refl _
            · exact (high offer inAfter).le
        exact bound.trans (stamped ▸ later)
      · rw [write_older later]
        refine ⟨before, winner, after ++ [last], final, by simp [split_], rfl, stamped, viewed, low,
          fun offer member => ?_⟩
        rcases List.mem_append.mp member with inAfter | isLast
        · exact high offer inAfter
        · rw [List.mem_singleton.mp isLast]
          exact stamped ▸ not_le.mp later

variable (stamp merge) in
/-- No offer of `after` that is applied, once `before` is written, changes the
key. -/
def Steady {K : Type} (key : ρ → K) (before after : List ρ) : Prop :=
  ∀ middle later rest, after = middle ++ later :: rest →
    ∀ old, writes stamp merge (before ++ middle) = some old → stamp old ≤ stamp later →
      key (merge old later) = key old

theorem Steady.nil {K : Type} {key : ρ → K} {before : List ρ} : Steady stamp merge key before [] := by
  intro middle later rest cut
  simp at cut

theorem Steady.concat {K : Type} {key : ρ → K} {before after : List ρ} {last : ρ}
    (steady : Steady stamp merge key before after)
    (same : ∀ old, writes stamp merge (before ++ after) = some old → stamp old ≤ stamp last →
      key (merge old last) = key old) : Steady stamp merge key before (after ++ [last]) := by
  intro middle later rest cut
  rcases rest.eq_nil_or_concat with rfl | ⟨others, end_, rfl⟩
  · -- the later offer is the last one
    obtain ⟨rfl, isLast⟩ := List.append_inj' cut rfl
    cases isLast
    exact same
  · have shorter : after = middle ++ later :: others := by
      have cut' : after ++ [last] = (middle ++ later :: others) ++ [end_] := by simpa using cut
      exact (List.append_inj' cut' rfl).1
    exact steady middle later others shorter

/-- A field that is carried over while a key stays the same: if the register
holds a value, some applied offer brought it, and no offer applied after that
one changed the key. -/
theorem writes_carried {K V : Type} {key : ρ → K} {field : ρ → Option V}
    (brings : ∀ old offered value, field offered = some value →
      field (merge old offered) = some value)
    (keeps : ∀ old offered, field offered = none → key (merge old offered) = key old →
      field (merge old offered) = field old)
    (drops : ∀ old offered, field offered = none → key (merge old offered) ≠ key old →
      field (merge old offered) = none)
    (offers : List ρ) {final : ρ} {value : V} (stored : writes stamp merge offers = some final)
    (held : field final = some value) :
    ∃ before source after, offers = before ++ source :: after ∧
      Applies stamp (writes stamp merge before) source ∧ field source = some value ∧
      Steady stamp merge key (before ++ [source]) after := by
  induction offers using List.reverseRecOn generalizing final value with
  | nil => cases stored
  | append_singleton offers last ih =>
    rw [writes_concat] at stored
    cases earlier : writes stamp merge offers with
    | none =>
      rw [earlier] at stored
      cases stored
      exact ⟨offers, last, [], rfl, by simp [Applies, earlier], held, Steady.nil⟩
    | some old =>
      -- what came before the last offer, when the value is older than it
      have extend : field old = some value →
          (stamp old ≤ stamp last → key (merge old last) = key old) →
          ∃ before source after, offers ++ [last] = before ++ source :: after ∧
            Applies stamp (writes stamp merge before) source ∧ field source = some value ∧
            Steady stamp merge key (before ++ [source]) after := by
        intro heldBefore same
        obtain ⟨before, source, after, cut, applies, reported, steady⟩ := ih earlier heldBefore
        refine ⟨before, source, after ++ [last], by simp [cut], applies, reported, steady.concat ?_⟩
        intro other found
        have whole : before ++ [source] ++ after = offers := by simp [cut]
        rw [whole, earlier] at found
        cases found
        exact same
      rw [earlier] at stored
      by_cases applied : stamp old ≤ stamp last
      · rw [write_some applied] at stored
        cases stored
        cases offered : field last with
        | some brought =>
          rw [brings old last brought offered] at held
          exact ⟨offers, last, [], rfl, by simp [Applies, earlier, applied], by rw [offered, held],
            Steady.nil⟩
        | none =>
          by_cases same : key (merge old last) = key old
          · rw [keeps old last offered same] at held
            exact extend held fun _ => same
          · rw [drops old last offered same] at held
            cases held
      · rw [write_older applied] at stored
        cases stored
        exact extend held fun below => absurd below applied

/-- Once an offer has changed the key, the register holds what that offer or a
later applied one brought. -/
theorem writes_since_change {K V : Type} {key : ρ → K} {field : ρ → Option V}
    (brings : ∀ old offered value, field offered = some value →
      field (merge old offered) = some value)
    (keeps : ∀ old offered, field offered = none → key (merge old offered) = key old →
      field (merge old offered) = field old)
    (drops : ∀ old offered, field offered = none → key (merge old offered) ≠ key old →
      field (merge old offered) = none)
    {before after : List ρ} {changer old final : ρ} {value : V}
    (earlier : writes stamp merge before = some old) (applied : stamp old ≤ stamp changer)
    (changed : key (merge old changer) ≠ key old)
    (stored : writes stamp merge (before ++ changer :: after) = some final)
    (held : field final = some value) :
    field changer = some value ∨ ∃ middle later rest, after = middle ++ later :: rest ∧
      Applies stamp (writes stamp merge (before ++ changer :: middle)) later ∧
      field later = some value := by
  obtain ⟨front, source, back, cut, applies, reported, steady⟩ :=
    writes_carried brings keeps drops _ stored held
  rcases List.append_eq_append_iff.mp cut with ⟨gap, rfl, right⟩ | ⟨gap, rfl, right⟩
  · cases gap with
    | nil =>
      cases right
      exact Or.inl reported
    | cons head middle =>
      rw [List.cons_append] at right
      cases right
      exact Or.inr ⟨middle, source, back, rfl, applies, reported⟩
  · cases gap with
    | nil =>
      cases right
      exact Or.inl reported
    | cons head middle =>
      -- the value would have to be older than the change
      rw [List.cons_append] at right
      cases right
      have unchanged := steady middle changer after rfl old (by simpa using earlier) applied
      exact absurd unchanged changed

/-! ## The last item that was in time -/

section InTime

variable {α : Type} (stamp : α → T) (carries : α → Bool)

/-- The item carries something, and nothing that came before it is stamped
higher. -/
def inTime (before : List α) (item : α) : Bool :=
  carries item && !before.any fun newer => stamp item < stamp newer

/-- The last of the items that was in time, when `before` came first. -/
def lastInTime (before : List α) : List α → Option α
  | [] => none
  | item :: rest =>
    (lastInTime (before ++ [item]) rest).or (if inTime stamp carries before item then some item else none)

/-- The carrier with the highest stamp. -/
def Highest (items : List α) (item : α) : Prop :=
  item ∈ items ∧ carries item = true ∧ ∀ other ∈ items, carries other = true → stamp other ≤ stamp item

instance [DecidableEq α] {items : List α} : DecidablePred (Highest stamp carries items) :=
  fun item => inferInstanceAs (Decidable (item ∈ items ∧ carries item = true ∧ _))

variable {stamp carries}

theorem lastInTime_append (before front back : List α) :
    lastInTime stamp carries before (front ++ back) =
      (lastInTime stamp carries (before ++ front) back).or (lastInTime stamp carries before front) := by
  induction front generalizing before with
  | nil => simp [lastInTime]
  | cons item rest ih =>
    simp only [List.cons_append, lastInTime, ih]
    simp [Option.or_assoc]

theorem lastInTime_concat (before items : List α) (item : α) :
    lastInTime stamp carries before (items ++ [item]) =
      if inTime stamp carries (before ++ items) item then some item
      else lastInTime stamp carries before items := by
  rw [lastInTime_append]
  simp only [lastInTime, Option.none_or]
  split
  · rfl
  · rfl

/-- Nothing is in time after the highest carrier. -/
theorem lastInTime_after_highest {before rest : List α} {highest : α} (inBefore : highest ∈ before)
    (below : ∀ other ∈ rest, carries other = true → stamp other < stamp highest) :
    lastInTime stamp carries before rest = none := by
  induction rest generalizing before with
  | nil => rfl
  | cons item rest ih =>
    have late : inTime stamp carries before item = false := by
      cases carrier : carries item with
      | false => simp [inTime, carrier]
      | true =>
        have newer : before.any (fun newer => stamp item < stamp newer) = true :=
          List.any_eq_true.mpr
            ⟨highest, inBefore, decide_eq_true (below item List.mem_cons_self carrier)⟩
        simp [inTime, newer]
    simp only [lastInTime, late, Bool.false_eq_true, if_false, Option.or_none]
    exact ih (List.mem_append_left _ inBefore)
      fun other member => below other (List.mem_cons_of_mem _ member)

/-- The highest carrier is the last one in time if it was in time at all. -/
theorem lastInTime_highest {before after : List α} {highest : α}
    (distinct : ((before ++ highest :: after).map stamp).Nodup)
    (isHighest : Highest stamp carries (before ++ highest :: after) highest)
    (timely : ∀ newer ∈ before, ¬ stamp highest < stamp newer) :
    lastInTime stamp carries [] (before ++ highest :: after) = some highest := by
  have below : ∀ other ∈ after, carries other = true → stamp other < stamp highest := by
    intro other member carrier
    refine lt_of_le_of_ne (isHighest.2.2 other (by simp [member]) carrier) fun same => ?_
    rw [List.map_append, List.map_cons, List.nodup_append] at distinct
    exact (List.nodup_cons.mp distinct.2.1).1 (List.mem_map.mpr ⟨other, member, same⟩)
  have timelyHere : inTime stamp carries before highest = true := by
    simp only [inTime, isHighest.2.1, Bool.true_and, Bool.not_eq_true', List.any_eq_false,
      decide_eq_true_eq]
    exact timely
  rw [lastInTime_append]
  simp [lastInTime, lastInTime_after_highest (List.mem_append_right _ (List.mem_singleton.mpr rfl)) below,
    timelyHere]

end InTime

end VodogeCloud.Lib.LatestWins
