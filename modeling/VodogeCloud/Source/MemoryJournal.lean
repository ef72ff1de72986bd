import VodogeCloud.Lib.SequenceGaps
import VodogeCloud.Lib.Table

/-!
# The in-memory ingress journal

`apps/gateway/internal/ingress/journal.go:28-205`. Sequences are uint64 values,
so every increment is taken modulo 2^64, and the two unbounded loops (the cursor
of `Accept`, the hole scan of `window`) run on fuel: `none` means the loop had
not ended yet. The mutex makes each call atomic.
-/

set_option autoImplicit false

namespace VodogeCloud.Source.MemoryJournal

open VodogeCloud.Lib VodogeCloud.Lib.SequenceGaps

/-- A sequenced envelope; `β` is the type of its payload bytes. -/
structure Record (β : Type) where
  tenantId : String
  deviceId : String
  envelopeId : String
  seq : Nat
  kind : String
  payload : β
  deriving DecidableEq, Repr

inductive StoreError where
  | conflict (text : String)
  | invalidRecord (text : String)
  | malformed (text : String)
  | other (text : String)
  deriving DecidableEq, Repr

inductive Status where
  | inserted
  | duplicate
  deriving DecidableEq, Repr

structure Window where
  committedThrough : Nat
  missingRanges : List Gap
  moreMissing : Bool
  deriving DecidableEq, Repr

structure Result where
  status : Status
  window : Window
  deriving DecidableEq, Repr

variable {β : Type}

structure DeviceJournal (β : Type) where
  bySeq : Table (@Record.seq β)
  committed : Nat

def DeviceJournal.new : DeviceJournal β := ⟨Table.empty, 0⟩

/-- `journal.devices`; a missing key is a nil entry. -/
abbrev Journal (β : Type) := String → Option (DeviceJournal β)

def newJournal : Journal β := fun _ => none

/-- uint64 increment. -/
def inc (value : Nat) : Nat := (value + 1) % 2 ^ 64

def has (bySeq : Table (@Record.seq β)) (seq : Nat) : Bool := (bySeq.find seq).isSome

/-- The `for` loop of `Accept` that moves the cursor. -/
def advance (bySeq : Table (@Record.seq β)) : Nat → Nat → Option Nat
  | 0, _ => none
  | fuel + 1, committed =>
    let next := inc committed
    if has bySeq next then advance bySeq fuel next else some committed

/-- The variables of the hole scan. -/
structure Scan where
  ranges : List Gap
  more : Bool
  inHole : Bool
  first : Nat
  through : Nat
  deriving DecidableEq, Repr

/-- `MaxMissingRanges`. -/
def maxMissingRanges : Nat := 128

/-- `for seq := committed + 1; seq <= last; seq++` of `window`, with its `break`. -/
def scan (bySeq : Table (@Record.seq β)) (last : Nat) : Nat → Nat → Scan → Option Scan
  | 0, _, _ => none
  | fuel + 1, seq, state =>
    if seq ≤ last then
      if has bySeq seq then
        if state.inHole then
          scan bySeq last fuel (inc seq)
            { state with ranges := state.ranges ++ [⟨state.first, state.through⟩], inHole := false }
        else scan bySeq last fuel (inc seq) state
      else if state.inHole then scan bySeq last fuel (inc seq) { state with through := seq }
      else if state.ranges.length = maxMissingRanges then some { state with more := true }
      else scan bySeq last fuel (inc seq) { state with first := seq, inHole := true, through := seq }
    else some state

/-- The largest key of the map, 0 for an empty one. -/
def lastSeq (bySeq : Table (@Record.seq β)) : Nat :=
  (bySeq.rows.map Record.seq).foldl max 0

/-- `deviceJournal.window`. -/
def DeviceJournal.window (fuel : Nat) (device : DeviceJournal β) : Option Window := do
  let scanned ← scan device.bySeq (lastSeq device.bySeq) fuel (inc device.committed)
    ⟨[], false, false, 0, 0⟩
  let (ranges, more) :=
    if scanned.inHole then
      if scanned.ranges.length = maxMissingRanges then (scanned.ranges, true)
      else (scanned.ranges ++ [⟨scanned.first, scanned.through⟩], scanned.more)
    else (scanned.ranges, scanned.more)
  return ⟨device.committed, ranges, more⟩

variable [DecidableEq β]

def sameContent (a b : Record β) : Bool :=
  a.envelopeId = b.envelopeId && a.kind = b.kind && a.payload = b.payload

/-- `Journal.Accept`. The new journal is returned next to the answer: a device
entry is created even when the call then fails. -/
def accept (fuel : Nat) (journal : Journal β) (record : Record β) :
    Option (Journal β × Except StoreError Result) :=
  if record.deviceId = "" ∨ record.envelopeId = "" ∨ record.seq = 0 ∨ record.kind = "" then
    some (journal,
      .error (.invalidRecord "invalid ingress record: device, envelope, seq, and kind are required"))
  else
    let device := (journal record.deviceId).getD .new
    match found : device.bySeq.find record.seq with
    | some existing =>
      let journal := Function.update journal record.deviceId (some device)
      if sameContent existing record then do
        let window ← device.window fuel
        return (journal, .ok ⟨.duplicate, window⟩)
      else
        some (journal, .error (.conflict ("sequence conflict: device " ++ record.deviceId ++ " seq " ++
          toString record.seq)))
    | none => do
      let bySeq := device.bySeq.insert record (Table.find_eq_none_iff.mp found)
      let committed ← advance bySeq fuel device.committed
      let device := ⟨bySeq, committed⟩
      let window ← DeviceJournal.window fuel device
      return (Function.update journal record.deviceId (some device), .ok ⟨.inserted, window⟩)

/-- `Journal.Snapshot`; the tenant is not looked at. -/
def snapshot (fuel : Nat) (journal : Journal β) (deviceId : String) : Option Window :=
  match journal deviceId with
  | none => some ⟨0, [], false⟩
  | some device => device.window fuel

/-- Accept a list of records one after the other, with the answers. -/
def acceptAll (fuel : Nat) (journal : Journal β) :
    List (Record β) → Option (Journal β × List (Except StoreError Result))
  | [] => some (journal, [])
  | record :: rest => do
    let (journal, answer) ← accept fuel journal record
    let (journal, answers) ← acceptAll fuel journal rest
    return (journal, answer :: answers)

end VodogeCloud.Source.MemoryJournal
