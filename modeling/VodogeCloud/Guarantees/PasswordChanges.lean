import VodogeCloud.Lib.Calls
import VodogeCloud.Lib.Transactions
import VodogeCloud.Source.ConsoleAuth

/-!
# Sessions of a password that was changed

`SetPassword` ends the sessions it finds, and a sign-in looks at the hash long before it
inserts its session. A sign-in that compared the old hash and inserts after the DELETE of
`SetPassword` has run is not found, and its session outlives the change. Where every
sign-in of the account inserts its session while the hash it compared is still the stored
one and no change stands between its DELETE and its commit, no such session is left.
-/

set_option autoImplicit false

namespace VodogeCloud.Guarantees.PasswordChanges

open VodogeCloud.Lib VodogeCloud.Lib.Transactions VodogeCloud.Source.Postgres
open VodogeCloud.Source.ConsoleAuth

/-- A new password that the old hash refuses has a hash that refuses whatever the old one
takes: bcrypt tells two passwords apart under every salt or under none. -/
def Separating (hasher : Hasher) : Prop :=
  ∀ old salt next hash password, hasher.hash salt next = some hash → hasher.compare old next = false →
    hasher.compare old password = true → hasher.compare hash password = false

section Runs

variable {hasher : Hasher} {lower : String → String} {change : Change} {state : State}

/-! ## What one statement of a sign-in does -/

theorem getElem?_proceed {index place : Nat} {next : SignIn → Option SignInPhase} {call : SignIn}
    (found : (state.proceed index next).signIns[place]? = some call) :
    ∃ old, state.signIns[place]? = some old ∧ call.password = old.password ∧
      (call = old ∨ next old = some call.phase) := by
  obtain ⟨old, before, ⟨_, rfl⟩ | ⟨_, rfl⟩⟩ := Calls.getElem?_moved found
  · exact ⟨call, before, rfl, Or.inl rfl⟩
  · refine ⟨old, before, ?_⟩
    cases taken : next old with
    | none => exact ⟨rfl, Or.inl rfl⟩
    | some phase => exact ⟨rfl, Or.inr rfl⟩

theorem length_proceed {index : Nat} {next : SignIn → Option SignInPhase} :
    (state.proceed index next).signIns.length = state.signIns.length := by
  simp [State.proceed]

/-! ## The account -/

/-- There is such a user, with this tenant. -/
def Held (users : Users) (id tenant : Uuid) : Prop := ∃ stored ∈ users, stored.id = id ∧ stored.tenantId = tenant

theorem Held.tenant_eq {users : Users} {id a b : Uuid} (first : Held users id a) (second : Held users id b) :
    a = b := by
  obtain ⟨one, inOne, sameOne, rfl⟩ := first
  obtain ⟨two, inTwo, sameTwo, rfl⟩ := second
  rw [Table.eq_of_key inOne inTwo (sameOne.trans sameTwo.symm)]

theorem mem_setHash {hash : String} {users : Users} {user : User} :
    user ∈ setHash change hash users ↔ ∃ old ∈ users,
      user = if old.tenantId = change.tenantId ∧ old.id = change.userId then storeHash hash old else old := by
  unfold setHash
  rw [Table.mem_update]
  simp only [decide_eq_true_eq]

theorem Held.setHash {hash : String} {users : Users} {id tenant : Uuid} (held : Held users id tenant) :
    Held (setHash change hash users) id tenant := by
  obtain ⟨stored, member, same⟩ := held
  refine ⟨_, mem_setHash.mpr ⟨stored, member, rfl⟩, ?_⟩
  split <;> exact same

/-- A hash of the new password, which the old hash refused. -/
def Renewed (hasher : Hasher) (change : Change) (user : User) (hash : String) : Prop :=
  (∃ salt, hasher.hash salt change.next = some hash) ∧ hasher.compare user.passwordHash change.next = false

theorem decideChange_cases (salt : String) (read : Option User) :
    (∃ reason, decideChange hasher change salt read = .refused reason) ∨
      ∃ user hash, decideChange hasher change salt read = .hashed user hash ∧ read = some user ∧
        Renewed hasher change user hash := by
  unfold decideChange
  cases read with
  | none => exact Or.inl ⟨_, rfl⟩
  | some user =>
    dsimp only
    by_cases wrong : hasher.compare user.passwordHash change.current = false
    · rw [if_pos wrong]
      exact Or.inl ⟨_, rfl⟩
    · rw [if_neg wrong]
      by_cases short : change.next.utf8ByteSize < minPasswordLength
      · rw [if_pos short]
        exact Or.inl ⟨_, rfl⟩
      · rw [if_neg short]
        by_cases again : hasher.compare user.passwordHash change.next = true
        · rw [if_pos again]
          exact Or.inl ⟨_, rfl⟩
        · rw [if_neg again]
          cases drawn : hasher.hash salt change.next with
          | none => exact Or.inl ⟨_, rfl⟩
          | some hash => exact Or.inr ⟨user, hash, rfl, rfl, ⟨salt, drawn⟩, by simpa using again⟩

/-! ## The invariant -/

/-- The user a sign-in goes by. -/
def reader : SignInPhase → Option User
  | .read user => user
  | .granted user => some user
  | _ => none

structure CallSound (hasher : Hasher) (users : Users) (call : SignIn) : Prop where
  held : ∀ user, reader call.phase = some user → Held users user.id user.tenantId
  matched : ∀ user, call.phase = .granted user → hasher.compare user.passwordHash call.password = true

/-- A sign-in that goes by nobody. -/
theorem CallSound.of_none {users : Users} {call : SignIn} (nobody : reader call.phase = none) :
    CallSound hasher users call := by
  refine ⟨fun user read => ?_, fun user granted => ?_⟩
  · rw [nobody] at read
    cases read
  · rw [granted] at nobody
    cases nobody

/-- No session of the account but the caller's own comes from a password that the old hash takes. -/
def Ended (hasher : Hasher) (change : Change) (user : User) (state : State) : Prop :=
  ∀ session ∈ state.sessions, session.userId = change.userId → session.tokenSha256 ≠ change.keepFingerprint →
    ∀ call, state.signIns[session.createdBy]? = some call → hasher.compare user.passwordHash call.password = false

/-- What holds at each point of the change: once its DELETE ran it has every session of the
account, and once it committed no session of an old password is left. -/
def ChangeSound (hasher : Hasher) (change : Change) (state : State) : Prop :=
  match state.change with
  | .read (some _) => Held state.users change.userId change.tenantId
  | .hashed user hash => Held state.users change.userId change.tenantId ∧ Renewed hasher change user hash
  | .updated user hash => Held state.users change.userId change.tenantId ∧ Renewed hasher change user hash
  | .deleted user hash ended =>
    Held state.users change.userId change.tenantId ∧ Renewed hasher change user hash ∧
      ∀ session ∈ state.sessions, session.userId = change.userId →
        session.tokenSha256 ≠ change.keepFingerprint → session.tokenSha256 ∈ ended
  | .changed user =>
    Held state.users change.userId change.tenantId ∧
      (∀ stored ∈ state.users, stored.id = change.userId → Renewed hasher change user stored.passwordHash) ∧
      Ended hasher change user state
  | _ => True

structure Sound (hasher : Hasher) (change : Change) (state : State) : Prop where
  calls : ∀ (place : Nat) (call : SignIn), state.signIns[place]? = some call → CallSound hasher state.users call
  rows : ∀ session ∈ state.sessions,
    Held state.users session.userId session.tenantId ∧ session.createdBy < state.signIns.length
  change : ChangeSound hasher change state

/-- Sessions may go and sign-ins may go on: the change stays sound. -/
theorem ChangeSound.mono {after : State} (sound : ChangeSound hasher change state)
    (users : after.users = state.users) (same : after.change = state.change)
    (fewer : ∀ session ∈ after.sessions, session ∈ state.sessions)
    (kept : ∀ session ∈ after.sessions, ∀ call, after.signIns[session.createdBy]? = some call →
      ∃ old, state.signIns[session.createdBy]? = some old ∧ call.password = old.password) :
    ChangeSound hasher change after := by
  unfold ChangeSound at sound ⊢
  rw [users, same]
  cases phase : state.change with
  | started => trivial
  | read user =>
    rw [phase] at sound
    cases user with
    | none => trivial
    | some user => exact sound
  | hashed user hash =>
    rw [phase] at sound
    exact sound
  | updated user hash =>
    rw [phase] at sound
    exact sound
  | deleted user hash ended =>
    rw [phase] at sound
    exact ⟨sound.1, sound.2.1, fun session member => sound.2.2 session (fewer session member)⟩
  | refused reason => trivial
  | changed user =>
    rw [phase] at sound
    refine ⟨sound.1, sound.2.1, fun session member own other call found => ?_⟩
    obtain ⟨old, place, password⟩ := kept session member call found
    rw [password]
    exact sound.2.2 session (fewer session member) own other old place

/-- A statement of a sign-in that inserts nothing. -/
theorem Sound.proceed {index : Nat} {next : SignIn → Option SignInPhase} (sound : Sound hasher change state)
    (taken : ∀ call phase, CallSound hasher state.users call → next call = some phase →
      CallSound hasher state.users { call with phase := phase }) :
    Sound hasher change (state.proceed index next) := by
  refine ⟨fun place call found => ?_, fun session member => ?_, ?_⟩
  · obtain ⟨old, before, password, kept | moved⟩ := getElem?_proceed found
    · rw [kept]
      exact sound.calls place old before
    · have fits := taken old call.phase (sound.calls place old before) moved
      exact ⟨fits.held, fun user granted => password ▸ fits.matched user granted⟩
  · rw [length_proceed]
    exact sound.rows session member
  · refine sound.change.mono rfl rfl (fun _ member => member) fun session member call found => ?_
    obtain ⟨old, before, password, _⟩ := getElem?_proceed found
    exact ⟨old, before, password⟩

/-- Sessions that are deleted. -/
theorem Sound.delete (sound : Sound hasher change state) (hit : Session → Bool) :
    Sound hasher change { state with sessions := state.sessions.delete hit } :=
  ⟨sound.calls, fun session member => sound.rows session (Table.mem_delete.mp member).1,
    sound.change.mono rfl rfl (fun _ member => (Table.mem_delete.mp member).1) fun _ _ call found => ⟨call, found, rfl⟩⟩

theorem readUser_sound {fails : Bool} {call : SignIn} {phase : SignInPhase}
    (taken : readUser lower fails state call = some phase) :
    CallSound hasher state.users { call with phase := phase } := by
  unfold readUser at taken
  by_cases start : call.phase = .started
  · rw [if_pos start] at taken
    cases fails with
    | true =>
      cases taken
      exact .of_none rfl
    | false =>
      cases taken
      refine ⟨fun user read => ?_, fun _ granted => (nomatch granted)⟩
      exact ⟨user, List.mem_of_find?_eq_some read, rfl, rfl⟩
  · rw [if_neg start] at taken
    cases taken

theorem compareHash_sound {call : SignIn} {phase : SignInPhase} (sound : CallSound hasher state.users call)
    (taken : compareHash hasher call = some phase) : CallSound hasher state.users { call with phase := phase } := by
  unfold compareHash at taken
  split at taken
  · next read held =>
    cases taken
    unfold decideSignIn
    cases read with
    | none => exact .of_none rfl
    | some user =>
      dsimp only
      by_cases wrong : hasher.compare user.passwordHash call.password = false
      · rw [if_pos wrong]
        exact .of_none rfl
      · rw [if_neg wrong]
        by_cases inactive : user.active = false
        · rw [if_pos inactive]
          exact .of_none rfl
        · rw [if_neg inactive]
          refine ⟨fun other read => ?_, fun other granted => ?_⟩
          · cases read
            exact sound.held user (by rw [held]; rfl)
          · cases granted
            simpa using wrong
  · cases taken

/-! ## The insertion -/

/-- The user whose hash a sign-in compared, once it may create its session. -/
def compared (state : State) (index : Nat) : Option User :=
  state.signIns[index]?.bind fun call =>
    match call.phase with
    | .granted user => some user
    | _ => none

/-- The DELETE of the change ran and its commit is still to come. -/
def deleting (state : State) : Bool :=
  match state.change with
  | .deleted _ _ _ => true
  | _ => false

/-- A sign-in of the account creates its session while the hash it compared is stored, and
not between the DELETE and the commit of the change. -/
def Prompt (change : Change) (state : State) : Event → Prop
  | .create index _ _ => ∀ user ∈ compared state index, user.id = change.userId →
      (∃ stored ∈ state.users, stored.id = user.id ∧ stored.passwordHash = user.passwordHash) ∧
        deleting state = false
  | _ => True

theorem mem_createSession {session other : Session} {sessions after : Sessions}
    (h : createSession session sessions = some after) : other ∈ after ↔ other ∈ sessions ∨ other = session := by
  unfold createSession at h
  split at h
  · cases h
    exact Table.mem_insert
  · cases h

theorem pendingSession_some {index : Nat} {token : String} {call : SignIn} {user : User} {session : Session}
    (h : pendingSession index token call = some (user, session)) :
    call.phase = .granted user ∧ session = ⟨token, user.id, user.tenantId, call.expiresAt, index⟩ := by
  unfold pendingSession at h
  split at h
  · next other held =>
    cases h
    exact ⟨held, rfl⟩
  · cases h

/-- A new session of the account, where the sign-in was prompt. -/
theorem ChangeSound.insert (separating : Separating hasher) {index : Nat} {token : String} {call : SignIn}
    {user : User} {sessions : Sessions} (sound : Sound hasher change state)
    (place : state.signIns[index]? = some call) (granted : call.phase = .granted user)
    (prompt : user.id = change.userId →
      (∃ stored ∈ state.users, stored.id = user.id ∧ stored.passwordHash = user.passwordHash) ∧
        deleting state = false)
    (created : createSession ⟨token, user.id, user.tenantId, call.expiresAt, index⟩ state.sessions = some sessions) :
    ChangeSound hasher change { state with sessions := sessions } := by
  have changed := sound.change
  unfold ChangeSound at changed ⊢
  dsimp only
  cases phase : state.change with
  | started => trivial
  | read read =>
    rw [phase] at changed
    cases read with
    | none => trivial
    | some read => exact changed
  | hashed old hash =>
    rw [phase] at changed
    exact changed
  | updated old hash =>
    rw [phase] at changed
    exact changed
  | refused reason => trivial
  | deleted old hash ended =>
    rw [phase] at changed
    refine ⟨changed.1, changed.2.1, fun session member own other => ?_⟩
    rcases (mem_createSession created).mp member with kept | rfl
    · exact changed.2.2 session kept own other
    · have open_ := (prompt own).2
      rw [deleting, phase] at open_
      cases open_
  | changed old =>
    rw [phase] at changed
    refine ⟨changed.1, changed.2.1, fun session member own other later found => ?_⟩
    rcases (mem_createSession created).mp member with kept | rfl
    · exact changed.2.2 session kept own other later found
    · -- The hash it compared is the new one, which refuses what the old one took.
      have same : later = call := Option.some.inj (found.symm.trans place)
      subst same
      obtain ⟨stored, inUsers, sameId, sameHash⟩ := (prompt own).1
      obtain ⟨⟨salt, drawn⟩, refused⟩ := changed.2.1 stored inUsers (sameId.trans own)
      rw [sameHash] at drawn
      have takes := (sound.calls index later place).matched user granted
      by_contra takesOld
      have refuses := separating old.passwordHash salt change.next user.passwordHash later.password drawn refused
        (by simpa using takesOld)
      rw [takes] at refuses
      cases refuses

theorem create_sound (separating : Separating hasher) {index : Nat} {token : String} {fails : Bool}
    (sound : Sound hasher change state) (prompt : Prompt change state (.create index token fails)) :
    Sound hasher change (create state index token fails) := by
  unfold create
  cases pending : state.signIns[index]?.bind (pendingSession index token) with
  | none => exact sound
  | some pair =>
    obtain ⟨call, place, about⟩ := Option.bind_eq_some_iff.mp pending
    obtain ⟨user, session⟩ := pair
    obtain ⟨granted, rfl⟩ := pendingSession_some about
    dsimp only
    cases created : (if fails then none else
        createSession ⟨token, user.id, user.tenantId, call.expiresAt, index⟩ state.sessions) with
    | none => exact sound.proceed fun _ _ _ taken => by cases taken; exact .of_none rfl
    | some sessions =>
      have inserted : createSession ⟨token, user.id, user.tenantId, call.expiresAt, index⟩ state.sessions =
          some sessions := by
        cases fails with
        | true => cases created
        | false => exact created
      have here : compared state index = some user := by
        unfold compared
        rw [place, Option.bind_some, granted]
      have known := (sound.calls index call place).held user (by rw [granted]; rfl)
      have between : Sound hasher change { state with sessions := sessions } :=
        ⟨sound.calls, fun row member => by
          rcases (mem_createSession inserted).mp member with kept | rfl
          · exact sound.rows row kept
          · exact ⟨known, (List.getElem?_eq_some_iff.mp place).1⟩,
        .insert separating sound place granted (prompt user (by rw [here]; rfl)) inserted⟩
      exact between.proceed fun _ _ _ taken => by cases taken; exact .of_none rfl

/-! ## The statements of the change -/

/-- Steps that move only the change. -/
theorem Sound.moves (sound : Sound hasher change state) {phase : ChangePhase}
    (fits : ChangeSound hasher change { state with change := phase }) :
    Sound hasher change { state with change := phase } := ⟨sound.calls, sound.rows, fits⟩

theorem changeRead_sound {fails : Bool} (sound : Sound hasher change state) :
    Sound hasher change (changeRead change fails state) := by
  unfold changeRead
  split
  · refine sound.moves ?_
    cases fails with
    | true => trivial
    | false =>
      show ChangeSound hasher change { state with change := .read (userByID state.users change.tenantId change.userId) }
      cases found : userByID state.users change.tenantId change.userId with
      | none => trivial
      | some user =>
        obtain ⟨stored, tenant⟩ := Option.filter_eq_some_iff.mp found
        obtain ⟨member, same⟩ := Table.find_eq_some_iff.mp stored
        exact ⟨user, member, same, by simpa using tenant⟩
  · exact sound

theorem changeHash_sound {salt : String} (sound : Sound hasher change state) :
    Sound hasher change (changeHash hasher change salt state) := by
  unfold changeHash
  split
  · next read held =>
    refine sound.moves ?_
    have known := sound.change
    unfold ChangeSound at known
    rw [held] at known
    rcases @decideChange_cases hasher change salt read with ⟨reason, refused⟩ | ⟨user, hash, hashed, rfl, renewed⟩
    · rw [refused]
      trivial
    · rw [hashed]
      exact ⟨known, renewed⟩
  · exact sound

theorem changeUpdate_sound {fails : Bool} (sound : Sound hasher change state) :
    Sound hasher change (changeUpdate fails state) := by
  unfold changeUpdate
  split
  · next user hash held =>
    refine sound.moves ?_
    have known := sound.change
    unfold ChangeSound at known
    rw [held] at known
    cases fails with
    | true => trivial
    | false => exact known
  · exact sound

theorem changeDelete_sound {fails : Bool} (sound : Sound hasher change state) :
    Sound hasher change (changeDelete change fails state) := by
  unfold changeDelete
  split
  · next user hash held =>
    refine sound.moves ?_
    have known := sound.change
    unfold ChangeSound at known
    rw [held] at known
    cases fails with
    | true => trivial
    | false =>
      refine ⟨known.1, known.2, fun session member own other => ?_⟩
      have tenant : session.tenantId = change.tenantId := by
        have row := (sound.rows session member).1
        rw [own] at row
        exact row.tenant_eq known.1
      refine List.mem_map.mpr ⟨session, List.mem_filter.mpr ⟨member, ?_⟩, rfl⟩
      simp [tenant, own, other]
  · exact sound

theorem changeCommit_sound {fails : Bool} (sound : Sound hasher change state) :
    Sound hasher change (changeCommit change fails state) := by
  unfold changeCommit
  split
  · next user hash ended held =>
    cases fails with
    | true => exact sound.moves trivial
    | false =>
      have known := sound.change
      unfold ChangeSound at known
      rw [held] at known
      refine ⟨fun place call found => ?_, fun session member => ?_, known.1.setHash, ?_, ?_⟩
      · have fits := sound.calls place call found
        exact ⟨fun reading read => (fits.held reading read).setHash, fits.matched⟩
      · have row := sound.rows session (Table.mem_delete.mp member).1
        exact ⟨row.1.setHash, row.2⟩
      · intro stored member own
        obtain ⟨old, inUsers, same⟩ := mem_setHash.mp member
        have tenant : old.tenantId = change.tenantId := by
          have mine : Held state.users change.userId old.tenantId := by
            refine ⟨old, inUsers, ?_, rfl⟩
            rw [same] at own
            split at own <;> exact own
          exact mine.tenant_eq known.1
        have hit : old.tenantId = change.tenantId ∧ old.id = change.userId := by
          refine ⟨tenant, ?_⟩
          rw [same] at own
          split at own <;> exact own
        rw [same, if_pos hit]
        exact known.2.1
      · intro session member own other
        obtain ⟨inSessions, kept⟩ := Table.mem_delete.mp member
        have gone := known.2.2 session inSessions own other
        simp [gone] at kept
  · exact sound

/-! ## Whole runs -/

/-- Before anybody has signed in. -/
def initial (users : Users) : State := ⟨users, Table.empty, [], .started⟩

theorem initial_sound (users : Users) : Sound hasher change (initial users) :=
  { calls := fun _ _ found => by simp [initial] at found
    rows := fun _ member => nomatch member
    change := trivial }

theorem step_sound (separating : Separating hasher) (state : State) (event : Event)
    (sound : Sound hasher change state) (prompt : Prompt change state event) :
    Sound hasher change (step hasher lower change state event) := by
  cases event with
  | signIn tenant email password now ttl =>
    have inner : ∀ (place : Nat) (call : SignIn),
        (state.signIns ++ [SignIn.begin lower tenant email password now ttl])[place]? = some call →
        state.signIns[place]? = some call ∨ call = SignIn.begin lower tenant email password now ttl := by
      intro place call found
      rw [List.getElem?_append] at found
      split at found
      · exact Or.inl found
      · exact Or.inr (List.mem_singleton.mp (List.mem_of_getElem? found))
    refine ⟨fun place call found => ?_, fun session member => ?_, ?_⟩
    · rcases inner place call found with old | rfl
      · exact sound.calls place call old
      · refine .of_none ?_
        unfold SignIn.begin
        dsimp only
        split <;> rfl
    · have row := sound.rows session member
      refine ⟨row.1, ?_⟩
      show session.createdBy < (state.signIns ++ [_]).length
      rw [List.length_append]
      exact Nat.lt_add_right _ row.2
    · refine sound.change.mono rfl rfl (fun _ member => member) fun session member call found => ?_
      have row := sound.rows session member
      refine ⟨call, ?_, rfl⟩
      rw [← found]
      exact (List.getElem?_append_left row.2).symm
  | readUser index fails => exact sound.proceed fun _ _ _ taken => readUser_sound taken
  | compare index => exact sound.proceed fun _ _ fits taken => compareHash_sound fits taken
  | create index token fails => exact create_sound separating sound prompt
  | signOut token => exact sound.delete _
  | purgeExpired now => exact sound.delete _
  | changeRead fails => exact changeRead_sound sound
  | changeHash salt => exact changeHash_sound sound
  | changeUpdate fails => exact changeUpdate_sound sound
  | changeDelete fails => exact changeDelete_sound sound
  | changeCommit fails => exact changeCommit_sound sound

def run (hasher : Hasher) (lower : String → String) (change : Change) (users : Users) (events : List Event) : State :=
  events.foldl (step hasher lower change) (initial users)

/-- In every run whose sign-ins of the account are prompt, a change that has returned leaves
no session of the account that a password of the old hash created, the caller's own apart. -/
theorem changed_password_ends_sessions (hasher : Hasher) (separating : Separating hasher)
    (lower : String → String) (change : Change) (users : Users) (events : List Event)
    (prompt : Guarded (step hasher lower change) (Prompt change) (initial users) events) :
    ∀ user, (run hasher lower change users events).change = .changed user →
      Ended hasher change user (run hasher lower change users events) := by
  intro user returned
  have sound : Sound hasher change (run hasher lower change users events) :=
    foldl_guarded (step_sound separating) (initial users) (initial_sound users) events prompt
  have changed := sound.change
  unfold ChangeSound at changed
  rw [returned] at changed
  exact changed.2.2

end Runs

/-! ## A sign-in beside a change -/

instance (change : Change) (state : State) (event : Event) : Decidable (Prompt change state event) :=
  match event with
  | .create _ _ _ => inferInstanceAs (Decidable (∀ user ∈ compared state _, _ → _ ∧ _))
  | .signIn _ _ _ _ _ => .isTrue trivial
  | .readUser _ _ => .isTrue trivial
  | .compare _ => .isTrue trivial
  | .signOut _ => .isTrue trivial
  | .purgeExpired _ => .isTrue trivial
  | .changeRead _ => .isTrue trivial
  | .changeHash _ => .isTrue trivial
  | .changeUpdate _ => .isTrue trivial
  | .changeDelete _ => .isTrue trivial
  | .changeCommit _ => .isTrue trivial

/-- A hasher that shows the password it hashed. -/
def showing : Hasher := ⟨fun hash password => hash = "#" ++ password, fun _ password => some ("#" ++ password)⟩

theorem showing_separating : Separating showing := by
  intro old salt next hash password drawn refused taken
  simp only [showing, Option.some.injEq, decide_eq_false_iff_not, decide_eq_true_eq] at drawn refused taken ⊢
  rw [← drawn]
  intro same
  exact refused (taken.trans same.symm)

def operator : User := ⟨1, 2, "a", "#old password", "active", "admin"⟩

theorem no_operators : ∀ other ∈ (Table.empty : Users), other.id ≠ operator.id := fun _ member => nomatch member

def operators : Users := Table.empty.insert operator no_operators

def operatorChange : Change := ⟨2, 1, "old password", "a new password", "own"⟩

/-- From the first read of the change to its commit. -/
def changing : List Event :=
  [.changeRead false, .changeHash "salt", .changeUpdate false, .changeDelete false, .changeCommit false]

/-- The sign-in has returned. -/
def finished (call : SignIn) : Bool :=
  match call.phase with
  | .refused _ => true
  | .signedIn _ _ => true
  | _ => false

/-- One sign-in before the change and one after it. -/
def signInsApart : List Event :=
  [.signIn 2 "a" "old password" 0 0, .readUser 0 false, .compare 0, .create 0 "t" false] ++ changing ++
    [.signIn 2 "a" "old password" 0 0, .readUser 1 false, .compare 1, .create 1 "u" false]

theorem sign_ins_apart_ended :
    (run showing id operatorChange operators signInsApart).change = .changed operator ∧
    Ended showing operatorChange operator (run showing id operatorChange operators signInsApart) := by
  have facts : (run showing id operatorChange operators signInsApart).change = .changed operator ∧
      Guarded (step showing id operatorChange) (Prompt operatorChange) (initial operators) signInsApart := by
    decide
  exact ⟨facts.1, changed_password_ends_sessions showing showing_separating id operatorChange operators
    signInsApart facts.2 operator facts.1⟩

/-- A sign-in that compared the hash before the change and inserts its session after it. -/
def slowSignIn : List Event :=
  [.signIn 2 "a" "old password" 0 0, .readUser 0 false, .compare 0] ++ changing ++ [.create 0 "t" false]

theorem slow_sign_in_survives :
    (run showing id operatorChange operators slowSignIn).change = .changed operator ∧
    (∀ call ∈ (run showing id operatorChange operators slowSignIn).signIns, finished call = true) ∧
    ¬Ended showing operatorChange operator (run showing id operatorChange operators slowSignIn) := by
  have facts : (run showing id operatorChange operators slowSignIn).change = .changed operator ∧
      (∀ call ∈ (run showing id operatorChange operators slowSignIn).signIns, finished call = true) ∧
      (⟨"t", 1, 2, 43200000000, 0⟩ : Session) ∈ (run showing id operatorChange operators slowSignIn).sessions ∧
      (run showing id operatorChange operators slowSignIn).signIns[0]?.map SignIn.password = some "old password" := by
    decide
  refine ⟨facts.1, facts.2.1, fun ended => ?_⟩
  obtain ⟨call, place, password⟩ := Option.map_eq_some_iff.mp facts.2.2.2
  have refused := ended _ facts.2.2.1 rfl (by decide) call place
  rw [password] at refused
  revert refused
  decide

end VodogeCloud.Guarantees.PasswordChanges
