import VodogeCloud.Lib.Table
import VodogeCloud.Source.Postgres

/-!
# Revoked certificates

`SQLRevocations.Revoked` (apps/gateway/internal/enroll/revocation.go:27-102) and
`SQLCertificates.Revoke` (certificates.go:66-101) over `app.device_certificates`
(0006_enrollment.sql).

A call of `Revoked` is its statements one by one: it reads the clock, looks into the
cache under the lock, asks the database for what is committed then, and writes the cache
under the lock. Any number of calls are under way and their statements interleave. The
identity of a device is read from the certificate itself, so its tenant is a function of
the fingerprint.
-/

set_option autoImplicit false

namespace VodogeCloud.Source.Revocations

open VodogeCloud.Lib VodogeCloud.Source.Postgres

/-! ## Certificates -/

/-- A row of `app.device_certificates`. -/
structure CertificateRow where
  id : Uuid
  tenantId : Uuid
  fingerprint : String
  revokedAt : Option Timestamp
  deriving DecidableEq, Repr

abbrev Certificates := Table CertificateRow.id

/-- The transaction of `Issue` around a certificate: the row is new and so is its
fingerprint. -/
def issue (row : CertificateRow) (rows : Certificates) : Certificates :=
  if fresh : ∀ other ∈ rows, other.id ≠ row.id then
    if ∀ other ∈ rows, other.fingerprint ≠ row.fingerprint then rows.insert row fresh else rows
  else rows

/-- `SET revoked_at = now()`. -/
def markRevoked (now : Timestamp) (row : CertificateRow) : CertificateRow := { row with revokedAt := some now }

theorem markRevoked_id (now : Timestamp) (row : CertificateRow) : (markRevoked now row).id = row.id := rfl

/-- `Revoke`: whether the certificate was there, and the rows after it. A second revocation
leaves the time of the first. -/
def revoke (tenant id : Uuid) (now : Timestamp) (rows : Certificates) : Bool × Certificates :=
  if ∃ row ∈ rows, row.tenantId = tenant ∧ row.id = id then
    (true, rows.update (fun row => row.tenantId = tenant ∧ row.id = id ∧ row.revokedAt = none)
      (markRevoked now) (markRevoked_id now))
  else (false, rows)

/-- The query of `Revoked`, which sees the rows of one tenant. -/
def revokedIn (rows : Certificates) (tenant : Uuid) (fingerprint : String) : Bool :=
  decide (∃ row ∈ rows, row.tenantId = tenant ∧ row.fingerprint = fingerprint ∧ row.revokedAt ≠ none)

/-! ## The cache -/

/-- `cachedVerdict`. -/
structure CachedVerdict where
  revoked : Bool
  until_ : Int
  deriving DecidableEq, Repr

abbrev Cache := String → Option CachedVerdict

/-- `defaultRevocationTTL`: one minute. -/
def defaultRevocationTTL : Int := 60000000

/-- What the first call makes of `TTL`. -/
def lifetime (ttl : Int) : Int := if ttl ≤ 0 then defaultRevocationTTL else ttl

/-- A verdict that is still good. -/
def Cache.hit (cache : Cache) (fingerprint : String) (now : Int) : Option Bool :=
  ((cache fingerprint).filter fun cached => now < cached.until_).map CachedVerdict.revoked

def Cache.store (cache : Cache) (fingerprint : String) (verdict : CachedVerdict) : Cache :=
  fun other => if other = fingerprint then some verdict else cache other

/-! ## Calls -/

/-- How far a call is. -/
inductive Phase where
  | started
  /-- The clock was read. -/
  | looking (now : Int)
  /-- The cache had no answer. -/
  | querying (now : Int)
  /-- The database answered. -/
  | writing (now : Int) (revoked : Bool)
  /-- `none` is an error. -/
  | returned (verdict : Option Bool)
  deriving DecidableEq, Repr

structure Call where
  fingerprint : String
  startedAt : Int
  phase : Phase
  deriving DecidableEq, Repr

structure State where
  clock : Int
  rows : Certificates
  cache : Cache
  calls : List Call

/-- A gateway that has just started. -/
def State.initial (clock : Int) : State := ⟨clock, Table.empty, fun _ => none, []⟩

inductive Event where
  /-- The clock does not go back. -/
  | wait (duration : Nat)
  | issue (id : Uuid) (fingerprint : String)
  | revoke (tenant id : Uuid)
  /-- A handshake; without a certificate it is refused at once. -/
  | call (certificate : Option String)
  | readClock (index : Nat)
  | lookUp (index : Nat)
  | query (index : Nat) (fails : Bool)
  | write (index : Nat)

section Steps

variable (tenantOf : String → Uuid) (ttl : Int)

/-- A call goes on where the statement is its next one. -/
def State.proceed (state : State) (index : Nat) (next : Call → Option Phase) : State :=
  { state with calls := state.calls.modify index fun call =>
      { call with phase := (next call).getD call.phase } }

def readClock (state : State) (call : Call) : Option Phase :=
  match call.phase with
  | .started => some (.looking state.clock)
  | _ => none

def lookUp (state : State) (call : Call) : Option Phase :=
  match call.phase with
  | .looking now =>
    match state.cache.hit call.fingerprint now with
    | some revoked => some (.returned (some revoked))
    | none => some (.querying now)
  | _ => none

/-- A failed query is not cached. -/
def query (fails : Bool) (state : State) (call : Call) : Option Phase :=
  match call.phase with
  | .querying now =>
    if fails then some (.returned none)
    else some (.writing now (revokedIn state.rows (tenantOf call.fingerprint) call.fingerprint))
  | _ => none

def answer (call : Call) : Option Phase :=
  match call.phase with
  | .writing _ revoked => some (.returned (some revoked))
  | _ => none

/-- What a call is about to write. -/
def pendingWrite (call : Call) : Option CachedVerdict :=
  match call.phase with
  | .writing now revoked => some ⟨revoked, now + lifetime ttl⟩
  | _ => none

/-- The cache after the call at an index wrote to it. -/
def State.written (state : State) (index : Nat) : Cache :=
  match state.calls[index]? with
  | none => state.cache
  | some call =>
    match pendingWrite ttl call with
    | none => state.cache
    | some verdict => state.cache.store call.fingerprint verdict

def step (state : State) : Event → State
  | .wait duration => { state with clock := state.clock + duration }
  | .issue id fingerprint => { state with rows := issue ⟨id, tenantOf fingerprint, fingerprint, none⟩ state.rows }
  | .revoke tenant id => { state with rows := (revoke tenant id state.clock state.rows).2 }
  | .call none => { state with calls := state.calls ++ [⟨"", state.clock, .returned none⟩] }
  | .call (some fingerprint) => { state with calls := state.calls ++ [⟨fingerprint, state.clock, .started⟩] }
  | .readClock index => state.proceed index (readClock state)
  | .lookUp index => state.proceed index (lookUp state)
  | .query index fails => state.proceed index (query tenantOf fails state)
  | .write index => { state.proceed index answer with cache := state.written ttl index }

end Steps

end VodogeCloud.Source.Revocations
