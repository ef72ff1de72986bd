import VodogeCloud.Guarantees.CardVersions
import VodogeCloud.Source.CardReads

/-!
# A saved card policy and the two reads

`List` gives `Scan` one target for each of the ten columns and shows every policy as it
was saved. `Get` selects the same columns and gives `Scan` six targets, so it fails on
every row it finds: a saved policy is never read back, and the route that saves one
answers with the request it was sent.
-/

set_option autoImplicit false

namespace VodogeCloud.Guarantees.ReadPolicies

open VodogeCloud.Lib VodogeCloud.Source.Postgres
open VodogeCloud.Source.CardPolicies VodogeCloud.Source.CardReads
open VodogeCloud.Guarantees.CardVersions

/-! ## One row -/

/-- The policy a row stands for. -/
def shown (row : PolicyRow) : StoredPolicy where
  iccid := row.iccid
  cellularEnabled := row.cellularEnabled
  smsSend := row.smsSend
  smsReceive := row.smsReceive
  data := row.data
  voice := row.voice
  vertical := row.vertical
  apn := row.apn
  note := row.note.getD ""
  updatedAt := milliseconds row.updatedAt

/-- The text of the error every `Get` of a row ends with. -/
def countMismatch : String := "sql: expected 10 destination arguments in Scan, not 6"

/-- Ten targets read the row whatever of its columns are NULL. -/
theorem readRow_list (row : PolicyRow) : readRow listTargets row = .ok (shown row) := by
  rcases row with ⟨_, _, _, _, apn, _, _, smsSend, smsReceive, data, voice⟩
  cases apn <;> cases smsSend <;> cases smsReceive <;> cases data <;> cases voice <;> rfl

theorem readRow_get (row : PolicyRow) : readRow getTargets row = .error countMismatch := by
  have differs : getTargets.length ≠ (columns row).length := by
    show (6 : Nat) ≠ 10
    decide
  have text : "sql: expected " ++ toString 10 ++ " destination arguments in Scan, not " ++ toString 6 =
      countMismatch := by decide
  unfold readRow scan
  rw [if_pos differs]
  exact congrArg Except.error text

theorem shown_newRow (tenant : Uuid) (policy : Policy) (now : Timestamp) :
    (shown (newRow tenant policy now)).toPolicy = policy := by
  rcases policy with ⟨_, _, _, _, _, _, _, _, note⟩
  by_cases empty : note = ""
  · subst empty
    rfl
  · unfold shown newRow
    rw [if_neg empty]
    rfl

/-! ## The reads -/

/-- What `List` shows for one ICCID. -/
def listed (tenant : Uuid) (iccid : String) (db : CardDb) : Except String (List StoredPolicy) :=
  (listPolicies tenant db).map fun policies => policies.filter (fun policy => policy.iccid = iccid)

section Reads

variable {tenant : Uuid} {iccid : String} {db after : CardDb} {policy : Policy} {now : Timestamp}

theorem listPolicies_eq : listPolicies tenant db = .ok ((db.list tenant).map shown) := by
  unfold listPolicies
  induction db.list tenant with
  | nil => rfl
  | cons row rows ih =>
    rw [List.mapM_cons, ih, readRow_list]
    rfl

/-- The rows of one ICCID are the row of its key. -/
theorem filter_list :
    (db.list tenant).filter (fun row => row.iccid = iccid) = (db.policies.find (tenant, iccid)).toList := by
  cases found : db.policies.find (tenant, iccid) with
  | none =>
    rw [Option.toList_none, List.filter_eq_nil_iff]
    intro row member
    obtain ⟨inTable, owned⟩ := mem_list.mp member
    intro same
    refine Table.find_eq_none_iff.mp found row inTable ?_
    rw [PolicyRow.key, owned, of_decide_eq_true same]
  | some row =>
    obtain ⟨inTable, key⟩ := Table.find_eq_some_iff.mp found
    rw [Option.toList_some, ← List.perm_singleton]
    refine (List.perm_ext_iff_of_nodup (list_nodup.filter _) (List.nodup_singleton row)).mpr fun other => ?_
    rw [List.mem_filter, mem_list, List.mem_singleton, decide_eq_true_iff]
    constructor
    · rintro ⟨⟨member, owned⟩, same⟩
      refine Table.eq_of_key member inTable ?_
      rw [key, PolicyRow.key, owned, same]
    · rintro rfl
      exact ⟨⟨inTable, congrArg Prod.fst key⟩, congrArg Prod.snd key⟩

theorem listed_eq :
    listed tenant iccid db = .ok ((db.policies.find (tenant, iccid)).toList.map shown) := by
  unfold listed
  rw [listPolicies_eq, ← filter_list, Except.map, List.filter_map]
  rfl

theorem getPolicy_found {row : PolicyRow} (plain : iccid.toList.contains '\x00' = false)
    (found : db.policies.find (tenant, iccid) = some row) :
    getPolicy tenant iccid db = .error countMismatch := by
  unfold getPolicy
  rw [plain, found, if_neg Bool.false_ne_true]
  show (readRow getTargets row).map some = _
  rw [readRow_get]
  rfl

theorem getPolicy_missing (plain : iccid.toList.contains '\x00' = false)
    (missing : db.policies.find (tenant, iccid) = none) : getPolicy tenant iccid db = .ok none := by
  unfold getPolicy
  rw [plain, missing, if_neg Bool.false_ne_true]

/-! ## Save and Delete -/

/-- The reads of one key agree in two states. -/
structure SameReads (tenant : Uuid) (iccid : String) (before after : CardDb) : Prop where
  got : getPolicy tenant iccid after = getPolicy tenant iccid before
  list : listed tenant iccid after = listed tenant iccid before

/-- A read depends on the row of its own key. -/
theorem sameReads_of_find
    (same : after.policies.find (tenant, iccid) = db.policies.find (tenant, iccid)) :
    SameReads tenant iccid db after where
  got := by
    unfold getPolicy
    rw [same]
  list := by rw [listed_eq, listed_eq, same]

theorem find_save_self (saved : db.save tenant policy now = .ok after) :
    after.policies.find (tenant, policy.iccid) = some (newRow tenant policy now) := by
  unfold CardDb.save at saved
  split at saved
  · cases saved
  · split at saved
    · cases saved
      refine Table.find_upsert_self.trans (congrArg some ?_)
      cases found : db.policies.find (newRow tenant policy now).key with
      | none => rfl
      | some old =>
        have key := (Table.find_eq_some_iff.mp found).2
        show replaceWith (newRow tenant policy now) old = newRow tenant policy now
        unfold replaceWith
        rw [show old.tenantId = tenant from congrArg Prod.fst key,
          show old.iccid = policy.iccid from congrArg Prod.snd key]
        rfl
    · cases saved

theorem find_save_other {key : Uuid × String} (saved : db.save tenant policy now = .ok after)
    (other : key ≠ (tenant, policy.iccid)) : after.policies.find key = db.policies.find key := by
  unfold CardDb.save at saved
  split at saved
  · cases saved
  · split at saved
    · cases saved
      exact Table.find_upsert_of_ne other
    · cases saved

theorem find_delete {key : Uuid × String} {cleared : CardDb}
    (deleted : db.delete tenant iccid = .ok cleared) :
    cleared.policies.find key = if key = (tenant, iccid) then none else db.policies.find key := by
  unfold CardDb.delete at deleted
  split at deleted
  · cases deleted
  · cases deleted
    rw [Table.find_delete]
    cases found : db.policies.find key with
    | none => rw [Option.filter_none, ite_self]
    | some row =>
      have same : (row.tenantId, row.iccid) = key := (Table.find_eq_some_iff.mp found).2
      have hits : (row.tenantId = tenant && row.iccid = iccid) = decide (key = (tenant, iccid)) := by
        rw [← same, ← Bool.decide_and]
        exact decide_eq_decide.mpr Prod.mk_inj.symm
      rw [Option.filter_some, hits]
      by_cases own : key = (tenant, iccid)
      · rw [if_pos own, decide_eq_true own]
        rfl
      · rw [if_neg own, decide_eq_false own]
        rfl

/-- An ICCID that passes `Validate` has no NUL. -/
theorem plain_of_isIccid (digits : isIccid iccid = true) : iccid.toList.contains '\x00' = false := by
  rw [isIccid, Bool.and_eq_true, List.all_eq_true] at digits
  rw [Bool.eq_false_iff]
  intro zero
  exact absurd (digits.1 _ (List.contains_iff_mem.mp zero)) (by decide)

theorem delete_succeeds (plain : iccid.toList.contains '\x00' = false) :
    ∃ cleared, db.delete tenant iccid = .ok cleared := by
  unfold CardDb.delete
  rw [plain]
  exact ⟨_, rfl⟩

theorem validate_isIccid {request : Policy} (valid : validate request = .ok policy) :
    isIccid policy.iccid = true := by
  unfold validate at valid
  split at valid
  · cases valid
  · next digits =>
    split at valid
    · cases valid
    · cases apn : validateAPN request.apn with
      | error reason =>
        rw [apn] at valid
        cases valid
      | ok kept =>
        rw [apn] at valid
        cases valid
        exact eq_true_of_ne_false digits

end Reads

/-! ## What is saved and what is read -/

/-- What is saved is what is read: `Get` finds the policy that `List` shows, a deletion
takes it away, and no other key is affected. -/
structure ReadsBack (tenant : Uuid) (policy : Policy) (before after : CardDb) : Prop where
  read : ∃ stored, getPolicy tenant policy.iccid after = .ok (some stored) ∧
    listed tenant policy.iccid after = .ok [stored] ∧ stored.toPolicy = policy
  deleted : ∃ cleared, after.delete tenant policy.iccid = .ok cleared ∧
    getPolicy tenant policy.iccid cleared = .ok none ∧
    ∀ owner iccid, (owner, iccid) ≠ (tenant, policy.iccid) → SameReads owner iccid after cleared
  others : ∀ owner iccid, (owner, iccid) ≠ (tenant, policy.iccid) → SameReads owner iccid before after

/-- A policy that was saved is in the list as it was saved, and is gone once it is
deleted, and no other key is affected. `Get` fails while the policy is there. -/
theorem saved_policy_unreadable {request policy : Policy} {tenant : Uuid} {now : Timestamp}
    {before after : CardDb} (valid : validate request = .ok policy)
    (saved : before.save tenant policy now = .ok after) :
    ¬ ReadsBack tenant policy before after ∧
      getPolicy tenant policy.iccid after = .error countMismatch ∧
      (∃ stored, listed tenant policy.iccid after = .ok [stored] ∧ stored.toPolicy = policy ∧
        stored.updatedAt = milliseconds now) ∧
      (∃ cleared, after.delete tenant policy.iccid = .ok cleared ∧
        getPolicy tenant policy.iccid cleared = .ok none ∧
        listed tenant policy.iccid cleared = .ok [] ∧
        ∀ owner iccid, (owner, iccid) ≠ (tenant, policy.iccid) → SameReads owner iccid after cleared) ∧
      ∀ owner iccid, (owner, iccid) ≠ (tenant, policy.iccid) → SameReads owner iccid before after := by
  have plain := plain_of_isIccid (validate_isIccid valid)
  have row := find_save_self saved
  have fails : getPolicy tenant policy.iccid after = .error countMismatch := getPolicy_found plain row
  obtain ⟨cleared, deleted⟩ : ∃ cleared, after.delete tenant policy.iccid = .ok cleared :=
    delete_succeeds plain
  have gone : cleared.policies.find (tenant, policy.iccid) = none := by
    rw [find_delete deleted, if_pos rfl]
  refine ⟨?_, fails, ?_, ⟨cleared, deleted, getPolicy_missing plain gone, ?_, ?_⟩, ?_⟩
  · rintro ⟨⟨stored, got, _⟩, _, _⟩
    rw [fails] at got
    cases got
  · exact ⟨shown (newRow tenant policy now), by rw [listed_eq, row]; rfl, shown_newRow tenant policy now, rfl⟩
  · rw [listed_eq, gone]
    rfl
  · intro owner iccid other
    exact sameReads_of_find (by rw [find_delete deleted, if_neg other])
  · intro owner iccid other
    exact sameReads_of_find (find_save_other saved other)

/-- The route answers a save with the change time of the request, not with the row's. -/
theorem writeCardPolicy_echoes {tenant : Uuid} {pathIccid : String} {body answer : StoredPolicy}
    {now : Timestamp} {before after : CardDb}
    (done : writeCardPolicy tenant pathIccid body now before = .ok (after, answer)) :
    answer.updatedAt = body.updatedAt ∧
      listed tenant answer.iccid after = .ok [{ answer with updatedAt := milliseconds now }] := by
  unfold writeCardPolicy at done
  split at done
  · cases done
  · next policy valid =>
    split at done
    · cases done
    · next state saved =>
      have fails := getPolicy_found (plain_of_isIccid (validate_isIccid valid)) (find_save_self saved)
      rw [fails] at done
      cases done
      have row : shown (newRow tenant policy now) = { toPolicy := policy, updatedAt := milliseconds now } := by
        conv_rhs => rw [← shown_newRow tenant policy now]
        rfl
      refine ⟨rfl, ?_⟩
      rw [listed_eq, find_save_self saved]
      exact congrArg (fun stored => Except.ok [stored]) row

/-! ## One card -/

/-- A policy that withholds sending and leaves the rest undeclared. -/
def oneCard : Policy where
  iccid := "8986001234567890123"
  cellularEnabled := true
  smsSend := some false
  smsReceive := none
  data := some true
  voice := none
  vertical := "cn"
  apn := some "cmnet"
  note := ""

def savedCard : CardDb := (CardDb.empty.save 1 oneCard 1700000000000000).toOption.getD CardDb.empty

theorem savedCard_eq : CardDb.empty.save 1 oneCard 1700000000000000 = .ok savedCard := by
  have succeeds : (CardDb.empty.save 1 oneCard 1700000000000000).toOption.isSome = true := by
    decide
  unfold savedCard
  cases done : CardDb.empty.save 1 oneCard 1700000000000000 with
  | error failure =>
    rw [done] at succeeds
    cases succeeds
  | ok after => rfl

theorem oneCard_valid : validate oneCard = .ok oneCard := by decide

theorem oneCard_not_read_back :
    validate oneCard = .ok oneCard ∧ CardDb.empty.save 1 oneCard 1700000000000000 = .ok savedCard ∧
      ¬ ReadsBack 1 oneCard CardDb.empty savedCard := by
  refine ⟨oneCard_valid, savedCard_eq, ?_⟩
  rintro ⟨⟨stored, got, _⟩, _, _⟩
  have fails : getPolicy 1 oneCard.iccid savedCard = .error countMismatch :=
    getPolicy_found (by decide) (find_save_self savedCard_eq)
  rw [fails] at got
  cases got

theorem oneCard_listed_and_deleted :
    listed 1 oneCard.iccid savedCard = .ok [{ toPolicy := oneCard, updatedAt := 1700000000000 }] ∧
      ¬ ReadsBack 1 oneCard CardDb.empty savedCard :=
  ⟨by decide, (saved_policy_unreadable oneCard_valid savedCard_eq).1⟩

end VodogeCloud.Guarantees.ReadPolicies
