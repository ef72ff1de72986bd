import VodogeCloud.Guarantees.TenantHosts
import VodogeCloud.Lib.Calls
import VodogeCloud.Lib.Histories
import VodogeCloud.Source.AccessControl
import Mathlib.Data.List.Infix

/-!
# Who a request was let in for

Whatever goes on beside it, a request acts for a tenant only if after it arrived its token
was that of a live session of this tenant, and a request that changes something only if
then, too, the account of the session might write. The tenant is as the directory had it
at some time since the process started, which may be long ago: the cache never asks again.
-/

set_option autoImplicit false

namespace VodogeCloud.Guarantees.AdmittedRequests

open VodogeCloud.Lib VodogeCloud.Lib.Transactions VodogeCloud.Lib.Histories
open VodogeCloud.Source.Postgres VodogeCloud.Source.AccessControl
open VodogeCloud.Source.ConsoleAuth (User Session)
open VodogeCloud.Guarantees.TenantHosts (asciiCasing)

variable {gateway : Gateway} {state : State} {index : Nat} {call : Call} {request : Request}

/-! ## Sessions -/

/-- The session is there and has not expired. -/
def IsLive (state : State) (session : Session) : Prop :=
  session ∈ state.db.sessions ∧ state.clock < session.expiresAt

/-- Its account might write. -/
def MayWrite (state : State) (session : Session) : Prop :=
  ∃ user ∈ state.db.users, user.id = session.userId ∧ mayWrite user.role = true

theorem resolveSession_eq_some_iff {fingerprint : String} {live : Live} :
    resolveSession state.db state.clock fingerprint = some live ↔
      ∃ session user, IsLive state session ∧ session.tokenSha256 = fingerprint ∧
        user ∈ state.db.users ∧ user.id = session.userId ∧
        live = ⟨session.userId, session.tenantId, session.expiresAt, user.role⟩ := by
  unfold resolveSession
  simp only [Option.bind_eq_some_iff, Option.filter_eq_some_iff, Option.map_eq_some_iff,
    Table.find_eq_some_iff, decide_eq_true_eq]
  constructor
  · rintro ⟨session, ⟨⟨stored, same⟩, later⟩, user, ⟨known, owner⟩, rfl⟩
    exact ⟨session, user, ⟨stored, later⟩, same, known, owner, rfl⟩
  · rintro ⟨session, user, ⟨stored, later⟩, same, known, owner, rfl⟩
    exact ⟨session, ⟨⟨stored, same⟩, later⟩, user, ⟨known, owner⟩, rfl⟩

/-- A live session is found: its account is there. -/
theorem resolveSession_of_live {session : Session} (live : IsLive state session) :
    ∃ user ∈ state.db.users, user.id = session.userId ∧
      resolveSession state.db state.clock session.tokenSha256 =
        some ⟨session.userId, session.tenantId, session.expiresAt, user.role⟩ := by
  obtain ⟨user, known, owner⟩ := state.db.owned session live.1
  exact ⟨user, known, owner, resolveSession_eq_some_iff.mpr
    ⟨session, user, live, rfl, known, owner, rfl⟩⟩

/-- Under a token that requests already carry no session comes up. -/
theorem live_back {event : Event} {session : Session} (fresh : Fresh state event)
    (member : call ∈ state.calls) (same : carried call.request = session.tokenSha256)
    (live : IsLive (step gateway state event) session) : IsLive state session := by
  obtain ⟨stored, later⟩ := live
  cases event with
  | addUser user =>
    refine ⟨?_, later⟩
    simp only [step, State.write, addUser] at stored
    split at stored <;> exact stored
  | setRole id role => exact ⟨stored, later⟩
  | deleteUser id => exact ⟨(Table.mem_delete.mp stored).1, later⟩
  | addSession added =>
    refine ⟨?_, later⟩
    simp only [step, State.write, addSession] at stored
    split at stored
    · next free =>
      split at stored
      · rcases (@Table.mem_insert _ _ _ _ _ _ free).mp stored with old | rfl
        · exact old
        · exact absurd same (fresh call member)
      · exact stored
    · exact stored
  | deleteSession tokenSha256 => exact ⟨(Table.mem_delete.mp stored).1, later⟩
  | purgeExpired => exact ⟨(Table.mem_delete.mp stored).1, later⟩
  | setTenants tenants => exact ⟨stored, later⟩
  | tick elapsed =>
    have now : state.clock + elapsed < session.expiresAt := later
    exact ⟨stored, Int.lt_of_le_of_lt (Int.le_add_of_nonneg_right (Int.natCast_nonneg elapsed)) now⟩
  | arrive request => exact ⟨stored, later⟩
  | readOnly index fails => exact ⟨stored, later⟩
  | hostTenant index => exact ⟨stored, later⟩
  | lookupTenant index fails => exact ⟨stored, later⟩
  | storeEntry index => exact ⟨stored, later⟩
  | authenticate index fails now => exact ⟨stored, later⟩

/-! ## One statement of a request -/

/-- What a request's next statement makes of it. -/
inductive Taken (gateway : Gateway) (state : State) (request : Request) : Phase → Phase → Prop
  | unchecked (exempt : gateway.checked request = false) : Taken gateway state request .arrived .passed
  | checked (needed : gateway.checked request = true)
      (writes : ∀ live, resolveSession state.db state.clock (carried request) = some live →
        mayWrite live.role = true) : Taken gateway state request .arrived .passed
  | cached {slug : List Char} {entry : Entry} (addressed : gateway.slugOf request = some slug)
      (stored : state.cache slug = some entry) : Taken gateway state request .passed (.resolved entry)
  | missed {slug : List Char} (addressed : gateway.slugOf request = some slug) :
      Taken gateway state request .passed (.missed slug)
  | read {slug : List Char} {tenant : Tenant} (stored : tenant ∈ state.db.tenants) (same : tenant.slug = slug) :
      Taken gateway state request (.missed slug) (.read tenant.entry)
  | stored {entry : Entry} : Taken gateway state request (.read entry) (.resolved entry)
  | admitted {entry : Entry} {live : Live} (active : entry.status = "active")
      (found : resolveSession state.db state.clock (carried request) = some live)
      (tenant : live.tenantId = entry.tenantId) (given : bearerToken request.authorization ≠ [])
      (configured : gateway.configured = true) :
      Taken gateway state request (.resolved entry) (.acting entry)
  | refused {phase : Phase} {code : Nat} : Taken gateway state request phase (.refused code)

theorem readOnly_taken {fails : Bool} {phase : Phase} (taken : readOnly gateway state fails call = some phase) :
    Taken gateway state call.request call.phase phase := by
  obtain ⟨request, before⟩ := call
  cases before with
  | arrived =>
    simp only [readOnly] at taken
    by_cases exempt : gateway.checked request = false
    · rw [if_pos exempt] at taken
      cases taken
      exact .unchecked exempt
    · rw [if_neg exempt] at taken
      have needed : gateway.checked request = true := by simpa using exempt
      cases fails with
      | true => cases taken; exact .refused
      | false =>
        rw [if_neg (by decide)] at taken
        split at taken
        · next live found =>
          by_cases writes : mayWrite live.role = true
          · rw [if_pos writes] at taken
            cases taken
            refine .checked needed fun other same => ?_
            rw [found] at same
            cases same
            exact writes
          · rw [if_neg writes] at taken
            cases taken
            exact .refused
        · next absent =>
          cases taken
          refine .checked needed fun other same => ?_
          rw [absent] at same
          cases same
  | _ => cases taken

theorem hostTenant_taken {phase : Phase} (taken : hostTenant gateway state call = some phase) :
    Taken gateway state call.request call.phase phase := by
  obtain ⟨request, before⟩ := call
  cases before with
  | passed =>
    simp only [hostTenant] at taken
    split at taken
    · cases taken
      exact .refused
    · next slug addressed =>
      split at taken
      · next entry stored =>
        cases taken
        exact .cached addressed stored
      · cases taken
        exact .missed addressed
  | _ => cases taken

theorem lookupTenant_taken {fails : Bool} {phase : Phase} (taken : lookupTenant state fails call = some phase) :
    Taken gateway state call.request call.phase phase := by
  obtain ⟨request, before⟩ := call
  cases before with
  | missed slug =>
    simp only [lookupTenant] at taken
    cases fails with
    | true => cases taken; exact .refused
    | false =>
      rw [if_neg (by decide)] at taken
      split at taken
      · cases taken
        exact .refused
      · next entry found =>
        cases taken
        obtain ⟨tenant, located, rfl⟩ := Option.map_eq_some_iff.mp found
        obtain ⟨stored, rfl⟩ := Table.find_eq_some_iff.mp located
        exact .read stored rfl
  | _ => cases taken

theorem resolveRead_taken {phase : Phase} (taken : resolveRead call = some phase) :
    Taken gateway state call.request call.phase phase := by
  obtain ⟨request, before⟩ := call
  cases before with
  | read entry => cases taken; exact .stored
  | _ => cases taken

theorem authenticate_taken {fails : Bool} {now : Timestamp} {phase : Phase}
    (taken : authenticate gateway state fails now call = some phase) :
    Taken gateway state call.request call.phase phase := by
  obtain ⟨request, before⟩ := call
  cases before with
  | resolved entry =>
    simp only [authenticate] at taken
    split at taken
    · cases taken; exact .refused
    · next active =>
      split at taken
      · cases taken; exact .refused
      · next configured =>
        split at taken
        · cases taken; exact .refused
        · next given =>
          split at taken
          · cases taken; exact .refused
          · split at taken
            · cases taken; exact .refused
            · next live found =>
              split at taken
              · cases taken; exact .refused
              · split at taken
                · cases taken; exact .refused
                · next tenant =>
                  cases taken
                  exact .admitted (by simpa using active) found (by simpa using tenant) given
                    (by simpa using configured)
  | _ => cases taken

/-! ## One event -/

theorem getElem?_proceed {place : Nat} {next : Call → Option Phase} {after : Call}
    (found : (state.proceed place next).calls[index]? = some after) :
    state.calls[index]? = some after ∨
      ∃ call phase, state.calls[index]? = some call ∧ next call = some phase ∧ after = ⟨call.request, phase⟩ := by
  obtain ⟨call, old, ⟨_, rfl⟩ | ⟨_, rfl⟩⟩ := Calls.getElem?_moved found
  · exact Or.inl old
  · cases taken : next call with
    | none => exact Or.inl old
    | some phase => exact Or.inr ⟨call, phase, old, taken, rfl⟩

/-- What a statement makes of the requests. -/
theorem proceed_calls {place : Nat} {next : Call → Option Phase} {after : Call}
    (takes : ∀ {call phase}, next call = some phase → Taken gateway state call.request call.phase phase)
    (found : (state.proceed place next).calls[index]? = some after) :
    state.calls[index]? = some after ∨
      (after.phase = .arrived ∧ state.calls.length = index) ∨
      ∃ call, state.calls[index]? = some call ∧ after.request = call.request ∧
        Taken gateway state call.request call.phase after.phase := by
  rcases getElem?_proceed found with same | ⟨call, phase, old, taken, rfl⟩
  · exact Or.inl same
  · exact Or.inr (Or.inr ⟨call, old, rfl, takes taken⟩)

/-- After an event a request is as it was, has just arrived, or took its next statement. -/
theorem step_calls {event : Event} {after : Call} (found : (step gateway state event).calls[index]? = some after) :
    state.calls[index]? = some after ∨
      (after.phase = .arrived ∧ state.calls.length = index) ∨
      ∃ call, state.calls[index]? = some call ∧ after.request = call.request ∧
        Taken gateway state call.request call.phase after.phase := by
  cases event with
  | addUser user => exact Or.inl found
  | setRole id role => exact Or.inl found
  | deleteUser id => exact Or.inl found
  | addSession session => exact Or.inl found
  | deleteSession tokenSha256 => exact Or.inl found
  | purgeExpired => exact Or.inl found
  | setTenants tenants => exact Or.inl found
  | tick elapsed => exact Or.inl found
  | arrive request =>
    have appended : (state.calls ++ [⟨request, .arrived⟩])[index]? = some after := found
    rw [List.getElem?_append] at appended
    split at appended
    · exact Or.inl appended
    · next beyond =>
      obtain ⟨inside, rfl⟩ := List.getElem?_eq_some_iff.mp appended
      have last : index = state.calls.length := by
        simp only [List.length_singleton] at inside
        omega
      subst last
      exact Or.inr (Or.inl ⟨by simp, rfl⟩)
  | readOnly place fails => exact proceed_calls readOnly_taken found
  | hostTenant place => exact proceed_calls hostTenant_taken found
  | lookupTenant place fails => exact proceed_calls lookupTenant_taken found
  | storeEntry place => exact proceed_calls resolveRead_taken found
  | authenticate place fails now => exact proceed_calls authenticate_taken found

theorem storeEntry_eq (entry : Entry) (cache : List Char → Option Entry) :
    storeEntry entry cache = cache ∨
      storeEntry entry cache = Function.update cache entry.slug (some entry) := by
  unfold storeEntry
  split
  · split
    · exact Or.inl rfl
    · exact Or.inr rfl
  · exact Or.inr rfl

theorem storeEntry_cases {place : Nat} {slug : List Char} {entry added : Entry}
    (located : state.calls[place]? = some ⟨request, .read added⟩)
    (stored : storeEntry added state.cache slug = some entry) :
    state.cache slug = some entry ∨
      ∃ (place : Nat) (call : Call), state.calls[place]? = some call ∧ call.phase = .read entry ∧ entry.slug = slug := by
  rcases storeEntry_eq added state.cache with same | updated
  · rw [same] at stored
    exact Or.inl stored
  · rw [updated] at stored
    by_cases here : slug = added.slug
    · subst here
      rw [Function.update_self] at stored
      cases stored
      exact Or.inr ⟨place, _, located, rfl, rfl⟩
    · rw [Function.update_of_ne here] at stored
      exact Or.inl stored

/-- An entry in the cache was there before or has just been read. -/
theorem step_cache {event : Event} {slug : List Char} {entry : Entry}
    (stored : (step gateway state event).cache slug = some entry) :
    state.cache slug = some entry ∨
      ∃ (place : Nat) (call : Call), state.calls[place]? = some call ∧ call.phase = .read entry ∧ entry.slug = slug := by
  cases event with
  | storeEntry place =>
    cases located : state.calls[place]? with
    | none =>
      simp only [step, storeRead, located] at stored
      exact Or.inl stored
    | some call =>
      obtain ⟨request, phase⟩ := call
      simp only [step, storeRead, located] at stored
      cases phase with
      | read read_ => exact storeEntry_cases located stored
      | _ => exact Or.inl stored
  | _ => exact Or.inl stored

/-! ## Over a run -/

variable {db : Db} {clock : Timestamp} {past : List Event} {event : Event}

abbrev run (gateway : Gateway) (db : Db) (clock : Timestamp) (events : List Event) : State :=
  events.foldl (step gateway) (State.start db clock)

/-- At some time since the process started. -/
abbrev Was (gateway : Gateway) (db : Db) (clock : Timestamp) (events : List Event) (P : State → Prop) : Prop :=
  Passed (step gateway) (State.start db clock) events P

/-- The directory has the tenant. -/
def Listed (entry : Entry) (state : State) : Prop := ∃ tenant ∈ state.db.tenants, tenant.entry = entry

/-- The request is there and the session is live. -/
def Valid (index : Nat) (session : Session) (state : State) : Prop :=
  index < state.calls.length ∧ IsLive state session

/-- The request is there, the session is live and its account may write. -/
def Writing (index : Nat) (session : Session) (state : State) : Prop :=
  Valid index session state ∧ MayWrite state session

/-- What stands behind a request that acts for a tenant. -/
structure Admitted (gateway : Gateway) (db : Db) (clock : Timestamp) (events : List Event) (index : Nat)
    (request : Request) (entry : Entry) : Prop where
  active : entry.status = "active"
  addressed : gateway.slugOf request = some entry.slug
  listed : Was gateway db clock events (Listed entry)
  session : ∃ session : Session, session.tokenSha256 = carried request ∧
    session.tenantId = entry.tenantId ∧ Was gateway db clock events (Valid index session) ∧
    (changesState request.method = true → ownCredential request.path = false →
      Was gateway db clock events (Writing index session))

theorem Admitted.later {entry : Entry} (admitted : Admitted gateway db clock past index request entry)
    (event : Event) : Admitted gateway db clock (past ++ [event]) index request entry := by
  obtain ⟨session, carried, tenant, valid, writing⟩ := admitted.session
  exact ⟨admitted.active, admitted.addressed, admitted.listed.later [event], session, carried, tenant,
    valid.later [event], fun changes foreign => (writing changes foreign).later [event]⟩

/-- `readOnly` let the request through. -/
def handedOn : Phase → Bool
  | .arrived | .refused _ => false
  | _ => true

/-- The tenant a request has got so far. -/
def held : Phase → Option Entry
  | .read entry | .resolved entry | .acting entry => some entry
  | _ => none

structure CallKept (gateway : Gateway) (db : Db) (clock : Timestamp) (past : List Event) (index : Nat)
    (call : Call) : Prop where
  missed : ∀ slug, call.phase = .missed slug → gateway.slugOf call.request = some slug
  held : ∀ entry, held call.phase = some entry →
    gateway.slugOf call.request = some entry.slug ∧ Was gateway db clock past (Listed entry)
  cleared : handedOn call.phase = true → gateway.checked call.request = true →
    ∀ session : Session, carried call.request = session.tokenSha256 →
      IsLive (run gateway db clock past) session → Was gateway db clock past (Writing index session)
  admitted : ∀ entry, call.phase = .acting entry →
    Admitted gateway db clock past index call.request entry

/-- What a run keeps. -/
structure Kept (gateway : Gateway) (db : Db) (clock : Timestamp) (past : List Event) : Prop where
  cache : ∀ slug entry, (run gateway db clock past).cache slug = some entry →
    entry.slug = slug ∧ Was gateway db clock past (Listed entry)
  calls : ∀ (index : Nat) (call : Call), (run gateway db clock past).calls[index]? = some call →
    CallKept gateway db clock past index call

theorem run_append : run gateway db clock (past ++ [event]) = step gateway (run gateway db clock past) event := by
  simp [run]

/-- A request that waits. -/
theorem CallKept.later (kept : CallKept gateway db clock past index call)
    (fresh : Fresh (run gateway db clock past) event)
    (found : (run gateway db clock past).calls[index]? = some call) :
    CallKept gateway db clock (past ++ [event]) index call where
  missed := kept.missed
  held entry holds := ⟨(kept.held entry holds).1, (kept.held entry holds).2.later [event]⟩
  cleared on needed session carried live := by
    rw [run_append] at live
    have before := live_back fresh (List.mem_of_getElem? found) carried live
    exact (kept.cleared on needed session carried before).later [event]
  admitted entry acting := (kept.admitted entry acting).later event

/-- A request that `readOnly` has looked at. -/
theorem cleared_of_writes (fresh : Fresh (run gateway db clock past) event)
    (found : (run gateway db clock past).calls[index]? = some call)
    (writes : ∀ live, resolveSession (run gateway db clock past).db (run gateway db clock past).clock
      (carried call.request) = some live → mayWrite live.role = true) {session : Session}
    (same : carried call.request = session.tokenSha256)
    (live : IsLive (run gateway db clock (past ++ [event])) session) :
    Was gateway db clock (past ++ [event]) (Writing index session) := by
  rw [run_append] at live
  have before := live_back fresh (List.mem_of_getElem? found) same live
  obtain ⟨user, known, owner, resolved⟩ := resolveSession_of_live before
  have may : mayWrite user.role = true := writes _ (by rw [same]; exact resolved)
  have inside : index < (run gateway db clock past).calls.length := (List.getElem?_eq_some_iff.mp found).1
  have now : Writing index session (run gateway db clock past) := ⟨⟨inside, before⟩, user, known, owner, may⟩
  exact (Passed.of_now now).later [event]

/-- A request that takes its next statement. -/
theorem CallKept.taken {phase : Phase} (kept : Kept gateway db clock past)
    (fresh : Fresh (run gateway db clock past) event)
    (found : (run gateway db clock past).calls[index]? = some call)
    (taken : Taken gateway (run gateway db clock past) call.request call.phase phase) :
    CallKept gateway db clock (past ++ [event]) index ⟨call.request, phase⟩ := by
  have own : CallKept gateway db clock past index call := kept.calls index call found
  have later : CallKept gateway db clock (past ++ [event]) index call := own.later fresh found
  have inside : index < (run gateway db clock past).calls.length := (List.getElem?_eq_some_iff.mp found).1
  obtain ⟨request, before⟩ := call
  cases taken with
  | unchecked exempt =>
    refine ⟨by simp, by simp [AdmittedRequests.held], ?_, by simp⟩
    intro _ needed
    rw [exempt] at needed
    cases needed
  | checked needed writes =>
    refine ⟨by simp, by simp [AdmittedRequests.held], ?_, by simp⟩
    intro _ _ session carried live
    exact cleared_of_writes fresh found writes carried live
  | @cached slug entry addressed stored =>
    obtain ⟨rfl, listed⟩ := kept.cache slug entry stored
    refine ⟨by simp, ?_, fun _ => later.cleared rfl, by simp⟩
    intro other holds
    cases holds
    exact ⟨addressed, listed.later [event]⟩
  | @missed slug addressed =>
    refine ⟨?_, by simp [AdmittedRequests.held], fun _ => later.cleared rfl, by simp⟩
    intro other same
    cases same
    exact addressed
  | @read slug tenant stored same =>
    refine ⟨by simp, ?_, fun _ => later.cleared rfl, by simp⟩
    intro other holds
    cases holds
    have now : Listed tenant.entry (run gateway db clock past) := ⟨tenant, stored, rfl⟩
    refine ⟨?_, (Passed.of_now now).later [event]⟩
    rw [own.missed slug rfl, ← same]
    rfl
  | @stored entry =>
    exact ⟨by simp, fun other holds => later.held other holds, fun _ => later.cleared rfl, by simp⟩
  | @admitted entry live active resolved tenant given configured =>
    refine ⟨by simp, fun other holds => later.held other holds, fun _ => later.cleared rfl, ?_⟩
    intro other acting
    cases acting
    obtain ⟨session, user, valid, carried, known, owner, rfl⟩ := resolveSession_eq_some_iff.mp resolved
    obtain ⟨addressed, listed⟩ := later.held entry rfl
    have now : Valid index session (run gateway db clock past) := ⟨inside, valid⟩
    refine ⟨active, addressed, listed, session, carried, tenant, (Passed.of_now now).later [event], ?_⟩
    intro changes foreign
    have needed : gateway.checked request = true := by
      simp [Gateway.checked, changes, foreign, configured, given]
    exact (own.cleared rfl needed session carried.symm valid).later [event]
  | refused => exact ⟨by simp, by simp [AdmittedRequests.held], by simp [handedOn], by simp⟩

theorem kept_start : Kept gateway db clock [] where
  cache slug entry stored := by cases stored
  calls index call found := by simp [run, State.start] at found

theorem kept_step (kept : Kept gateway db clock past) (fresh : Fresh (run gateway db clock past) event) :
    Kept gateway db clock (past ++ [event]) where
  cache := by
    intro slug entry stored
    rw [run_append] at stored
    rcases step_cache stored with old | ⟨place, call, found, reading, same⟩
    · exact ⟨(kept.cache slug entry old).1, (kept.cache slug entry old).2.later [event]⟩
    · have listed := ((kept.calls place call found).held entry (by rw [reading]; rfl)).2
      exact ⟨same, listed.later [event]⟩
  calls := by
    intro index after found
    rw [run_append] at found
    rcases step_calls found with old | ⟨arrived, -⟩ | ⟨call, old, same, taken⟩
    · exact (kept.calls index after old).later fresh old
    · exact ⟨by simp [arrived], by simp [arrived, held], by simp [arrived, handedOn], by simp [arrived]⟩
    · have next := CallKept.taken kept fresh old taken
      rw [← same] at next
      exact next

theorem admitted_request {events : List Event}
    (fresh : Guarded (step gateway) Fresh (State.start db clock) events) {entry : Entry}
    (acting : (run gateway db clock events).calls[index]? = some ⟨request, .acting entry⟩) :
    Admitted gateway db clock events index request entry := by
  have kept : Kept gateway db clock events :=
    guarded_history kept_start (fun _ _ kept fresh => kept_step kept fresh) events fresh
  exact (kept.calls index _ acting).admitted entry rfl

/-- Over every run, whoever else comes and goes: a request that acts for a tenant came with
the token of a live session of it, and of one that might write if it changes anything. -/
theorem request_admitted (gateway : Gateway) (db : Db) (clock : Timestamp) (events : List Event)
    (fresh : Guarded (step gateway) Fresh (State.start db clock) events) {index : Nat}
    {request : Request} {entry : Entry}
    (acting : (run gateway db clock events).calls[index]? = some ⟨request, .acting entry⟩) :
    Admitted gateway db clock events index request entry :=
  admitted_request fresh acting

/-! ## Requests after a session ended or an account was demoted -/

theorem calls_grow (gateway : Gateway) (start : State) (events : List Event) :
    start.calls.length ≤ (events.foldl (step gateway) start).calls.length := by
  refine @foldl_rel _ _ (step gateway) (fun first last => first.calls.length ≤ last.calls.length)
    (fun _ => le_refl _) (fun _ _ _ => le_trans) ?_ start events
  intro state event
  cases event <;> simp [step, State.write, State.proceed]

/-- What held once a request was there held after those before it. -/
theorem passed_late {early late : List Event} {P : State → Prop}
    (was : Was gateway db clock (early ++ late) fun state => index < state.calls.length ∧ P state)
    (after : (run gateway db clock early).calls.length ≤ index) :
    ∃ mid, mid <+: late ∧ P (run gateway db clock (early ++ mid)) := by
  rcases passed_append.mp was with ⟨prior, ⟨rest, rfl⟩, there, -⟩ | ⟨mid, short, -, held⟩
  · have grown := calls_grow gateway (run gateway db clock prior) rest
    rw [← List.foldl_append] at grown
    exact absurd (there.trans_le (grown.trans after)) (lt_irrefl index)
  · refine ⟨mid, short, ?_⟩
    rw [run, List.foldl_append]
    exact held

variable {early late : List Event}

/-- Signing out, an expiry and the deletion of an account take effect on the next request: one
that arrives once no session with its token is live does not act while none comes up. -/
theorem ended_stays_out (fresh : Guarded (step gateway) Fresh (State.start db clock) (early ++ late))
    (after : (run gateway db clock early).calls.length ≤ index)
    (ended : ∀ mid, mid <+: late → ∀ session : Session, session.tokenSha256 = carried request →
      ¬ IsLive (run gateway db clock (early ++ mid)) session) (entry : Entry) :
    (run gateway db clock (early ++ late)).calls[index]? ≠ some ⟨request, .acting entry⟩ := by
  intro acting
  obtain ⟨session, token, -, valid, -⟩ := (admitted_request fresh acting).session
  obtain ⟨mid, short, live⟩ := passed_late valid after
  exact ended mid short session token live

/-- Taking the right to write from an account takes effect on the next request: as long as
it may not write, no request that arrives changes anything in its name. -/
theorem demoted_does_not_write (fresh : Guarded (step gateway) Fresh (State.start db clock) (early ++ late))
    (after : (run gateway db clock early).calls.length ≤ index)
    (changes : changesState request.method = true) (foreign : ownCredential request.path = false)
    (demoted : ∀ mid, mid <+: late → ∀ session : Session, session.tokenSha256 = carried request →
      IsLive (run gateway db clock (early ++ mid)) session →
        ¬ MayWrite (run gateway db clock (early ++ mid)) session) (entry : Entry) :
    (run gateway db clock (early ++ late)).calls[index]? ≠ some ⟨request, .acting entry⟩ := by
  intro acting
  obtain ⟨session, token, -, -, writing⟩ := (admitted_request fresh acting).session
  have was : Was gateway db clock (early ++ late) fun state =>
      index < state.calls.length ∧ IsLive state session ∧ MayWrite state session :=
    (writing changes foreign).imp fun _ held => ⟨held.1.1, held.1.2, held.2⟩
  obtain ⟨mid, short, live, may⟩ := passed_late was after
  exact demoted mid short session token live may

/-! ## An operator's write -/

def gatewayA : Gateway := ⟨asciiCasing, [], true⟩

def operator : User := ⟨7, 1, "op@example.com", "", "active", "admin"⟩

def dbA : Db := ⟨⟨[operator], by decide⟩, Table.empty, ⟨[⟨1, ['a'], "active", "intl"⟩], by decide⟩,
  fun session member => absurd member List.not_mem_nil⟩

def write : Request := ⟨"POST".toList, "/v1/devices", "Bearer k".toList, [], "a.vodoge.com".toList⟩

def token : String := carried write

/-- The account signs in, writes, is demoted and writes again. -/
def signedIn : List Event := [.addSession ⟨token, 7, 1, 50, 0⟩, .arrive write, .readOnly 0 false, .hostTenant 0,
  .lookupTenant 0 false, .storeEntry 0, .authenticate 0 false 0, .setRole 7 roleReadOnly]

def secondWrite : List Event := [.arrive write, .readOnly 1 false, .hostTenant 1, .authenticate 1 false 0]

def entryA : Entry := ⟨1, ['a'], "intl", "active"⟩

theorem operator_admitted : Admitted gatewayA dbA 0 signedIn 0 write entryA :=
  request_admitted gatewayA dbA 0 signedIn (by decide +kernel) (by decide +kernel)

theorem demoted_operator :
    (run gatewayA dbA 0 (signedIn ++ secondWrite)).calls[1]? ≠ some ⟨write, .acting entryA⟩ := by
  refine demoted_does_not_write (by decide +kernel) (by decide +kernel) (by decide) (by decide) ?_ entryA
  have readOnly_ : ∀ mid ∈ secondWrite.inits, ∀ session ∈ (run gatewayA dbA 0 (signedIn ++ mid)).db.sessions,
      ¬ ∃ user ∈ (run gatewayA dbA 0 (signedIn ++ mid)).db.users,
        user.id = session.userId ∧ mayWrite user.role = true := by decide +kernel
  intro mid short session _ live
  exact readOnly_ mid ((List.mem_inits mid secondWrite).mpr short) session live.1

/-- The account is deleted, and a request comes with its token. -/
theorem ended_operator :
    (run gatewayA dbA 0 ((signedIn ++ [.deleteUser 7]) ++ secondWrite)).calls[1]? ≠ some ⟨write, .acting entryA⟩ := by
  refine ended_stays_out (by decide +kernel) (by decide +kernel) ?_ entryA
  have gone : ∀ mid ∈ secondWrite.inits,
      (run gatewayA dbA 0 ((signedIn ++ [.deleteUser 7]) ++ mid)).db.sessions.rows = [] := by decide +kernel
  intro mid short session _ live
  have stored := live.1
  rw [← Table.mem_rows, gone mid ((List.mem_inits mid secondWrite).mpr short)] at stored
  cases stored

end VodogeCloud.Guarantees.AdmittedRequests
