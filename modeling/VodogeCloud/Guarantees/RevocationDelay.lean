import VodogeCloud.Lib.Calls
import VodogeCloud.Lib.Transactions
import VodogeCloud.Source.Revocations

/-!
# How long a revoked certificate is still let in

A verdict is cached until one lifetime after the clock was read, and the clock is read
before the database is asked. So a verdict of "not revoked" that is taken from the
database before a revocation commits at `t` is dated at `t` or earlier, whenever it
reaches the cache, and no call that starts at `t` plus the lifetime or later finds it good.
-/

set_option autoImplicit false

namespace VodogeCloud.Guarantees.RevocationDelay

open VodogeCloud.Lib VodogeCloud.Lib.Transactions VodogeCloud.Source.Postgres
open VodogeCloud.Source.Revocations

theorem lifetime_pos (ttl : Int) : 0 < lifetime ttl := by
  unfold lifetime defaultRevocationTTL
  split <;> omega

section Runs

variable {tenantOf : String → Uuid} {ttl : Int} {state : State} {call : Call}

/-! ## What one statement does -/

/-- The statements of a call, with what they read. -/
inductive Moved (tenantOf : String → Uuid) (state : State) (call : Call) : Phase → Prop
  | read (started : call.phase = .started) : Moved tenantOf state call (.looking state.clock)
  | hit {now : Int} {revoked : Bool} (looking : call.phase = .looking now)
      (found : state.cache.hit call.fingerprint now = some revoked) :
      Moved tenantOf state call (.returned (some revoked))
  | miss {now : Int} (looking : call.phase = .looking now) : Moved tenantOf state call (.querying now)
  | failed {now : Int} (querying : call.phase = .querying now) : Moved tenantOf state call (.returned none)
  | queried {now : Int} (querying : call.phase = .querying now) : Moved tenantOf state call
      (.writing now (revokedIn state.rows (tenantOf call.fingerprint) call.fingerprint))
  | wrote {now : Int} {revoked : Bool} (writing : call.phase = .writing now revoked) :
      Moved tenantOf state call (.returned (some revoked))

theorem readClock_moved {phase : Phase} (taken : readClock state call = some phase) :
    Moved tenantOf state call phase := by
  unfold readClock at taken
  split at taken
  · next held =>
    cases taken
    exact .read held
  · cases taken

theorem lookUp_moved {phase : Phase} (taken : lookUp state call = some phase) :
    Moved tenantOf state call phase := by
  unfold lookUp at taken
  split at taken
  · next held =>
    split at taken
    · next found =>
      cases taken
      exact .hit held found
    · cases taken
      exact .miss held
  · cases taken

theorem query_moved {fails : Bool} {phase : Phase} (taken : query tenantOf fails state call = some phase) :
    Moved tenantOf state call phase := by
  unfold query at taken
  split at taken
  · next held =>
    cases fails with
    | true =>
      cases taken
      exact .failed held
    | false =>
      cases taken
      exact .queried held
  · cases taken

theorem answer_moved {phase : Phase} (taken : answer call = some phase) : Moved tenantOf state call phase := by
  unfold answer at taken
  split at taken
  · next held =>
    cases taken
    exact .wrote held
  · cases taken

/-- A statement of one call leaves the others as they are. -/
theorem mem_proceed {state : State} {index : Nat} {next : Call → Option Phase} {call : Call}
    (member : call ∈ (state.proceed index next).calls) :
    call ∈ state.calls ∨ ∃ old ∈ state.calls, ∃ phase, next old = some phase ∧ call = { old with phase := phase } := by
  rcases Calls.mem_moved member with ⟨place, _, kept⟩ | ⟨old, before, moved⟩
  · exact Or.inl (List.mem_of_getElem? kept)
  · have inCalls := List.mem_of_getElem? before
    cases taken : next old with
    | none =>
      rw [taken] at moved
      exact Or.inl (moved ▸ inCalls)
    | some phase =>
      rw [taken] at moved
      exact Or.inr ⟨old, inCalls, phase, taken, moved⟩

/-- Where a call of the next state comes from. -/
inductive Came (tenantOf : String → Uuid) (state : State) : Call → Prop
  | kept {call : Call} (member : call ∈ state.calls) : Came tenantOf state call
  | moved {old : Call} {phase : Phase} (member : old ∈ state.calls) (taken : Moved tenantOf state old phase) :
      Came tenantOf state { old with phase := phase }
  | began (fingerprint : String) : Came tenantOf state ⟨fingerprint, state.clock, .started⟩
  | refused (fingerprint : String) : Came tenantOf state ⟨fingerprint, state.clock, .returned none⟩

theorem came_of_proceed {index : Nat} {next : Call → Option Phase}
    (moved : ∀ old phase, next old = some phase → Moved tenantOf state old phase)
    (member : call ∈ (state.proceed index next).calls) : Came tenantOf state call := by
  rcases mem_proceed member with kept | ⟨old, inCalls, phase, taken, rfl⟩
  · exact .kept kept
  · exact .moved inCalls (moved old phase taken)

theorem step_calls (event : Event) (member : call ∈ (step tenantOf ttl state event).calls) :
    Came tenantOf state call := by
  cases event with
  | wait duration => exact .kept member
  | issue id fingerprint => exact .kept member
  | revoke tenant id => exact .kept member
  | call certificate =>
    cases certificate with
    | none =>
      rcases List.mem_append.mp member with kept | new
      · exact .kept kept
      · rw [List.mem_singleton.mp new]
        exact .refused ""
    | some fingerprint =>
      rcases List.mem_append.mp member with kept | new
      · exact .kept kept
      · rw [List.mem_singleton.mp new]
        exact .began fingerprint
  | readClock index => exact came_of_proceed (fun _ _ => readClock_moved) member
  | lookUp index => exact came_of_proceed (fun _ _ => lookUp_moved) member
  | query index fails => exact came_of_proceed (fun _ _ => query_moved) member
  | write index => exact came_of_proceed (fun _ _ => answer_moved) member

/-- Only a call that was about to write changes the cache. -/
theorem step_cache (event : Event) {fingerprint : String} {cached : CachedVerdict}
    (held : (step tenantOf ttl state event).cache fingerprint = some cached) :
    state.cache fingerprint = some cached ∨ ∃ call ∈ state.calls, ∃ now,
      call.fingerprint = fingerprint ∧ call.phase = .writing now cached.revoked ∧
      cached.until_ = now + lifetime ttl := by
  cases event with
  | write index =>
    have written : state.written ttl index fingerprint = some cached := held
    unfold State.written at written
    cases place : state.calls[index]? with
    | none =>
      rw [place] at written
      exact Or.inl written
    | some call =>
      rw [place] at written
      dsimp only at written
      cases phase : call.phase with
      | writing now revoked =>
        rw [pendingWrite, phase] at written
        dsimp only [Cache.store] at written
        by_cases own : fingerprint = call.fingerprint
        · rw [if_pos own] at written
          cases written
          exact Or.inr ⟨call, List.mem_of_getElem? place, now, own.symm, phase, rfl⟩
        · rw [if_neg own] at written
          exact Or.inl written
      | started => rw [pendingWrite, phase] at written; exact Or.inl written
      | looking now => rw [pendingWrite, phase] at written; exact Or.inl written
      | querying now => rw [pendingWrite, phase] at written; exact Or.inl written
      | returned verdict => rw [pendingWrite, phase] at written; exact Or.inl written
  | wait duration => exact Or.inl held
  | issue id other => exact Or.inl held
  | revoke tenant id => exact Or.inl held
  | call certificate => cases certificate <;> exact Or.inl held
  | readClock index => exact Or.inl held
  | lookUp index => exact Or.inl held
  | query index fails => exact Or.inl held

theorem step_clock (event : Event) : state.clock ≤ (step tenantOf ttl state event).clock := by
  cases event with
  | wait duration =>
    show state.clock ≤ state.clock + duration
    omega
  | call certificate => cases certificate <;> exact le_refl _
  | issue id fingerprint => exact le_refl _
  | revoke tenant id => exact le_refl _
  | readClock index => exact le_refl _
  | lookUp index => exact le_refl _
  | query index fails => exact le_refl _
  | write index => exact le_refl _

theorem mem_issue {row other : CertificateRow} {rows : Certificates} (member : other ∈ issue row rows) :
    other ∈ rows ∨ other = row := by
  unfold issue at member
  split at member
  · split at member
    · exact Table.mem_insert.mp member
    · exact Or.inl member
  · exact Or.inl member

theorem issue_keeps {row other : CertificateRow} {rows : Certificates} (member : other ∈ rows) :
    other ∈ issue row rows := by
  unfold issue
  split
  · split
    · exact Table.mem_insert.mpr (Or.inl member)
    · exact member
  · exact member

section Revoke

variable {tenant id : Uuid} {now : Int} {rows : Certificates} {row : CertificateRow}

theorem mem_revoke_iff (found : ∃ row ∈ rows, row.tenantId = tenant ∧ row.id = id) :
    row ∈ (revoke tenant id now rows).2 ↔ ∃ old ∈ rows,
      row = if old.tenantId = tenant ∧ old.id = id ∧ old.revokedAt = none then markRevoked now old else old := by
  unfold revoke
  rw [if_pos found]
  show row ∈ rows.update _ (markRevoked now) (markRevoked_id now) ↔ _
  rw [Table.mem_update]
  simp only [decide_eq_true_eq]

theorem revoke_of_absent (absent : ¬∃ row ∈ rows, row.tenantId = tenant ∧ row.id = id) :
    (revoke tenant id now rows).2 = rows := by
  unfold revoke
  rw [if_neg absent]

/-- A revocation changes only times of revocation. -/
theorem mem_revoke (member : row ∈ (revoke tenant id now rows).2) :
    ∃ old ∈ rows, row.tenantId = old.tenantId ∧ row.fingerprint = old.fingerprint := by
  by_cases found : ∃ row ∈ rows, row.tenantId = tenant ∧ row.id = id
  · obtain ⟨old, inRows, same⟩ := (mem_revoke_iff found).mp member
    refine ⟨old, inRows, ?_⟩
    rw [same]
    split <;> exact ⟨rfl, rfl⟩
  · rw [revoke_of_absent found] at member
    exact ⟨row, member, rfl, rfl⟩

/-- A revoked row stays. -/
theorem revoke_keeps (member : row ∈ rows) (revoked : row.revokedAt ≠ none) :
    row ∈ (revoke tenant id now rows).2 := by
  by_cases found : ∃ row ∈ rows, row.tenantId = tenant ∧ row.id = id
  · exact (mem_revoke_iff found).mpr ⟨row, member, (if_neg fun due => revoked due.2.2).symm⟩
  · rw [revoke_of_absent found]
    exact member

/-- The certificate that was found is revoked. -/
theorem revoke_revokes (now : Int) (member : row ∈ rows) (owner : row.tenantId = tenant) (named : row.id = id) :
    ∃ after ∈ (revoke tenant id now rows).2,
      after.tenantId = tenant ∧ after.fingerprint = row.fingerprint ∧ after.revokedAt ≠ none := by
  by_cases already : row.revokedAt = none
  · refine ⟨markRevoked now row, ?_, owner, rfl, by simp [markRevoked]⟩
    exact (mem_revoke_iff ⟨row, member, owner, named⟩).mpr
      ⟨row, member, (if_pos ⟨owner, named, already⟩).symm⟩
  · exact ⟨row, revoke_keeps member already, owner, rfl, already⟩

end Revoke

/-! ## Before the revocation -/

/-- What a call read from the clock and still uses. -/
def reading (call : Call) : Option Int :=
  match call.phase with
  | .looking now => some now
  | .querying now => some now
  | .writing now _ => some now
  | _ => none

/-- The call started in the past and read the clock since. -/
structure Timely (clock : Int) (call : Call) : Prop where
  started : call.startedAt ≤ clock
  read : ∀ now, reading call = some now → call.startedAt ≤ now ∧ now ≤ clock

theorem Timely.later {clock after : Int} (timely : Timely clock call) (passed : clock ≤ after) :
    Timely after call := by
  refine ⟨le_trans timely.started passed, fun now read => ?_⟩
  have bounds := timely.read now read
  omega

theorem Moved.timely {phase : Phase} (moved : Moved tenantOf state call phase)
    (timely : Timely state.clock call) : Timely state.clock { call with phase := phase } := by
  refine ⟨timely.started, fun now read => ?_⟩
  cases moved with
  | read started =>
    cases read
    exact ⟨timely.started, le_refl _⟩
  | hit looking found => cases read
  | miss looking =>
    cases read
    exact timely.read now (by rw [reading, looking])
  | failed querying => cases read
  | queried querying =>
    cases read
    exact timely.read now (by rw [reading, querying])
  | wrote writing => cases read

/-- Certificates belong to the tenant they name, and nothing is dated later than the clock. -/
structure Dated (tenantOf : String → Uuid) (ttl : Int) (state : State) : Prop where
  owned : ∀ row ∈ state.rows, row.tenantId = tenantOf row.fingerprint
  cached : ∀ fingerprint cached, state.cache fingerprint = some cached →
    cached.until_ ≤ state.clock + lifetime ttl
  timely : ∀ call ∈ state.calls, Timely state.clock call

theorem dated_initial (clock : Int) : Dated tenantOf ttl (State.initial clock) :=
  { owned := fun _ member => nomatch member
    cached := fun _ _ held => nomatch held
    timely := fun _ member => nomatch member }

theorem step_timely (event : Event) (dated : ∀ call ∈ state.calls, Timely state.clock call) :
    ∀ call ∈ (step tenantOf ttl state event).calls, Timely (step tenantOf ttl state event).clock call := by
  intro call member
  refine Timely.later ?_ (step_clock event)
  cases step_calls event member with
  | kept old => exact dated call old
  | moved old taken => exact taken.timely (dated _ old)
  | began fingerprint => exact ⟨le_refl _, fun _ read => nomatch read⟩
  | refused fingerprint => exact ⟨le_refl _, fun _ read => nomatch read⟩

theorem step_owned (event : Event) (owned : ∀ row ∈ state.rows, row.tenantId = tenantOf row.fingerprint) :
    ∀ row ∈ (step tenantOf ttl state event).rows, row.tenantId = tenantOf row.fingerprint := by
  intro row member
  cases event with
  | issue id fingerprint =>
    rcases mem_issue member with old | rfl
    · exact owned row old
    · rfl
  | revoke tenant id =>
    obtain ⟨old, inRows, sameOwner, sameText⟩ := mem_revoke member
    rw [sameOwner, sameText]
    exact owned old inRows
  | call certificate => cases certificate <;> exact owned row member
  | wait duration => exact owned row member
  | readClock index => exact owned row member
  | lookUp index => exact owned row member
  | query index fails => exact owned row member
  | write index => exact owned row member

theorem step_dated (state : State) (event : Event) (dated : Dated tenantOf ttl state) :
    Dated tenantOf ttl (step tenantOf ttl state event) := by
  have passed := @step_clock tenantOf ttl state event
  refine ⟨step_owned event dated.owned, fun fingerprint cached held => ?_, step_timely event dated.timely⟩
  rcases step_cache event held with old | ⟨call, inCalls, now, _, writing, expiry⟩
  · have bound := dated.cached fingerprint cached old
    omega
  · have bounds := (dated.timely call inCalls).read now (by rw [reading, writing])
    omega

/-! ## After the revocation -/

/-- A certificate revoked at `t`: what says otherwise is dated at `t` or earlier. -/
structure Withdrawn (tenantOf : String → Uuid) (ttl : Int) (fingerprint : String) (t : Int) (state : State) :
    Prop where
  row : ∃ row ∈ state.rows, row.tenantId = tenantOf fingerprint ∧ row.fingerprint = fingerprint ∧
    row.revokedAt ≠ none
  cached : ∀ cached, state.cache fingerprint = some cached → cached.revoked = false →
    cached.until_ ≤ t + lifetime ttl
  writing : ∀ call ∈ state.calls, call.fingerprint = fingerprint → ∀ now,
    call.phase = .writing now false → now ≤ t
  answered : ∀ call ∈ state.calls, call.fingerprint = fingerprint →
    call.phase = .returned (some false) → call.startedAt < t + lifetime ttl

theorem withdrawn_of_revoke {tenant id : Uuid} {row : CertificateRow} (dated : Dated tenantOf ttl state)
    (member : row ∈ state.rows) (owner : row.tenantId = tenant) (named : row.id = id) :
    Withdrawn tenantOf ttl row.fingerprint state.clock (step tenantOf ttl state (.revoke tenant id)) := by
  have positive := lifetime_pos ttl
  refine ⟨?_, fun cached held _ => dated.cached _ cached held, fun call inCalls _ now writing => ?_,
    fun call inCalls _ _ => ?_⟩
  · obtain ⟨after, inRows, sameOwner, rest⟩ := revoke_revokes state.clock member owner named
    exact ⟨after, inRows, sameOwner.trans (owner.symm.trans (dated.owned row member)), rest⟩
  · exact ((dated.timely call inCalls).read now (by rw [reading, writing])).2
  · have started := (dated.timely call inCalls).started
    omega

theorem step_row (event : Event) {fingerprint : String}
    (held : ∃ row ∈ state.rows, row.tenantId = tenantOf fingerprint ∧ row.fingerprint = fingerprint ∧
      row.revokedAt ≠ none) :
    ∃ row ∈ (step tenantOf ttl state event).rows, row.tenantId = tenantOf fingerprint ∧
      row.fingerprint = fingerprint ∧ row.revokedAt ≠ none := by
  obtain ⟨row, member, about⟩ := held
  cases event with
  | issue id other => exact ⟨row, issue_keeps member, about⟩
  | revoke tenant id => exact ⟨row, revoke_keeps member about.2.2, about⟩
  | call certificate => cases certificate <;> exact ⟨row, member, about⟩
  | wait duration => exact ⟨row, member, about⟩
  | readClock index => exact ⟨row, member, about⟩
  | lookUp index => exact ⟨row, member, about⟩
  | query index fails => exact ⟨row, member, about⟩
  | write index => exact ⟨row, member, about⟩

/-- The database does not answer "not revoked" any more. -/
theorem Withdrawn.revokedIn {fingerprint : String} {t : Int} (withdrawn : Withdrawn tenantOf ttl fingerprint t state) :
    revokedIn state.rows (tenantOf fingerprint) fingerprint = true :=
  decide_eq_true withdrawn.row

/-- A call that answers "not revoked" from the cache read the clock before that entry ran out. -/
theorem Withdrawn.hit {fingerprint : String} {t now : Int} (withdrawn : Withdrawn tenantOf ttl fingerprint t state)
    (found : state.cache.hit fingerprint now = some false) : now < t + lifetime ttl := by
  unfold Cache.hit at found
  obtain ⟨cached, good, verdict⟩ := Option.map_eq_some_iff.mp found
  obtain ⟨held, before⟩ := Option.filter_eq_some_iff.mp good
  have bound := withdrawn.cached cached held verdict
  have earlier : now < cached.until_ := by simpa using before
  omega

theorem step_withdrawn {fingerprint : String} {t : Int} (event : Event) (dated : Dated tenantOf ttl state)
    (withdrawn : Withdrawn tenantOf ttl fingerprint t state) :
    Withdrawn tenantOf ttl fingerprint t (step tenantOf ttl state event) := by
  refine ⟨step_row event withdrawn.row, fun cached held open_ => ?_, fun call member own now writing => ?_,
    fun call member own returned => ?_⟩
  · rcases step_cache event held with old | ⟨call, inCalls, now, own, writing, expiry⟩
    · exact withdrawn.cached cached old open_
    · rw [open_] at writing
      have early := withdrawn.writing call inCalls own now writing
      omega
  · cases step_calls event member with
    | kept old => exact withdrawn.writing call old own now writing
    | moved old taken =>
      cases taken with
      | queried querying =>
        subst own
        rw [withdrawn.revokedIn] at writing
        cases writing
      | read started => cases writing
      | hit looking found => cases writing
      | miss looking => cases writing
      | failed querying => cases writing
      | wrote writing_ => cases writing
    | began other => cases writing
    | refused other => cases writing
  · have positive := lifetime_pos ttl
    cases step_calls event member with
    | kept old => exact withdrawn.answered call old own returned
    | moved old taken =>
      have timely := dated.timely _ old
      cases taken with
      | hit looking found =>
        cases returned
        subst own
        have early := withdrawn.hit found
        have read := timely.read _ (by rw [reading, looking])
        exact lt_of_le_of_lt read.1 early
      | wrote writing =>
        cases returned
        have early := withdrawn.writing _ old own _ writing
        have read := timely.read _ (by rw [reading, writing])
        exact lt_of_le_of_lt read.1 (by omega)
      | read started => cases returned
      | miss looking => cases returned
      | failed querying => cases returned
      | queried querying => cases returned
    | began other => cases returned
    | refused other => cases returned

/-! ## Whole runs -/

def run (tenantOf : String → Uuid) (ttl : Int) (state : State) (events : List Event) : State :=
  events.foldl (step tenantOf ttl) state

theorem run_dated (clock : Int) (events : List Event) :
    Dated tenantOf ttl (run tenantOf ttl (State.initial clock) events) :=
  foldl_rel (R := fun before after => Dated tenantOf ttl before → Dated tenantOf ttl after)
    (fun _ dated => dated) (fun _ _ _ first second dated => second (first dated)) step_dated
    (State.initial clock) events (dated_initial clock)

theorem run_withdrawn {fingerprint : String} {t : Int} (dated : Dated tenantOf ttl state)
    (withdrawn : Withdrawn tenantOf ttl fingerprint t state) (events : List Event) :
    Withdrawn tenantOf ttl fingerprint t (run tenantOf ttl state events) := by
  induction events generalizing state with
  | nil => exact withdrawn
  | cons event rest ih => exact ih (step_dated state event dated) (step_withdrawn event dated withdrawn)

/-- Once a revocation commits at `t`, no call that starts a lifetime after `t` or later
answers "not revoked", and no verdict in the cache says so for longer than that. -/
theorem revoked_within_lifetime (tenantOf : String → Uuid) (ttl clock : Int) (early late : List Event)
    (tenant id : Uuid) (row : CertificateRow)
    (member : row ∈ (run tenantOf ttl (State.initial clock) early).rows)
    (owner : row.tenantId = tenant) (named : row.id = id) :
    let t := (run tenantOf ttl (State.initial clock) early).clock
    let last := run tenantOf ttl (State.initial clock) (early ++ .revoke tenant id :: late)
    (∀ call ∈ last.calls, call.fingerprint = row.fingerprint → t + lifetime ttl ≤ call.startedAt →
      ∀ verdict, call.phase = .returned (some verdict) → verdict = true) ∧
    (∀ cached, last.cache row.fingerprint = some cached → cached.revoked = false →
      cached.until_ ≤ t + lifetime ttl) := by
  intro t last
  have dated := @run_dated tenantOf ttl clock early
  have withdrawn : Withdrawn tenantOf ttl row.fingerprint t last := by
    have later := run_withdrawn (step_dated _ (.revoke tenant id) dated)
      (withdrawn_of_revoke dated member owner named) late
    rw [show last = run tenantOf ttl (step tenantOf ttl (run tenantOf ttl (State.initial clock) early)
      (.revoke tenant id)) late from List.foldl_append]
    exact later
  refine ⟨fun call inCalls own late_ verdict returned => ?_, withdrawn.cached⟩
  cases verdict with
  | true => rfl
  | false =>
    have early_ := withdrawn.answered call inCalls own returned
    omega

/-- A lookup that read "not revoked" is overtaken: the certificate is revoked and another
lookup has cached that, then the slow one writes what it read. -/
def overtaken : List Event :=
  [.call (some "f"), .readClock 0, .lookUp 0, .query 0 false]

def overtaking : List Event :=
  [.call (some "f"), .readClock 1, .lookUp 1, .query 1 false, .write 1, .write 0, .wait 60000000,
    .call (some "f"), .readClock 2, .lookUp 2, .query 2 false, .write 2]

theorem overtaken_lookup_runs_out :
    let last := run (fun _ => 1) 0 (State.initial 5) (.issue 2 "f" :: overtaken ++ .revoke 1 2 :: overtaking)
    last.calls.map Call.phase =
      [.returned (some false), .returned (some true), .returned (some true)] ∧
    (∀ call ∈ last.calls, call.fingerprint = "f" → 60000005 ≤ call.startedAt →
      ∀ verdict, call.phase = .returned (some verdict) → verdict = true) := by
  refine ⟨by decide, ?_⟩
  exact (revoked_within_lifetime (fun _ => 1) 0 5 (.issue 2 "f" :: overtaken) overtaking 1 2
    ⟨2, 1, "f", none⟩ (by decide) rfl rfl).1

end Runs

end VodogeCloud.Guarantees.RevocationDelay
