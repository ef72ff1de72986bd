import Mathlib.Data.List.Basic

/-!
# The connection monitor

`apps/console/lib/pwa.ts:390-672`: what a tab knows of its connection, the view drawn from it, and the
monitor that wraps `fetch` once, listens to the browser and probes while the
connection is lost. The browser's URL parser is a parameter of the host. Times
are the milliseconds of the tab's clock at the moment a promise settles, which
the clock may put in any order.
-/

set_option autoImplicit false

namespace VodogeCloud.Source.ConnectionMonitor

abbrev Millis := Int

/-- Two, not one: a single failure is a blip. -/
def lostAfterFailures : Nat := 2

/-- What `new URL(…)` tells of an address. -/
structure Location where
  origin : String
  pathname : String
  deriving DecidableEq, Repr

/-- The two addresses a page parses: a base alone, and a target against it. -/
structure UrlParser where
  base : String → Option Location
  against : String → String → Option Location

def isWatchedRequest (parser : UrlParser) (url origin : String) : Bool :=
  if url = "" then false
  else
    match parser.base origin, parser.against url origin with
    | some base, some resolved =>
        if resolved.origin ≠ base.origin then false
        else
          "/v1/".toList.isPrefixOf resolved.pathname.toList ||
            "/api/".toList.isPrefixOf resolved.pathname.toList
    | _, _ => false

/-- What `fetch` was called with: a string, an object with the fields that are
strings, or anything else. -/
inductive FetchInput where
  | text (value : String)
  | object (url href : Option String)
  | other
  deriving DecidableEq, Repr

def requestUrl : FetchInput → String
  | .text value => value
  | .object (some url) _ => url
  | .object none (some href) => href
  | .object none none => ""
  | .other => ""

/-- An error is known by its `name`; one that has none is a failure too. -/
def isConnectionFailure (name : Option String) : Bool :=
  name ≠ some "AbortError"

structure ConnectionSnapshot where
  online : Bool
  failures : Nat
  lastOkAt : Option Millis
  loadedAt : Millis
  deriving DecidableEq, Repr

structure ConnectionView where
  lost : Bool
  dataAt : Millis
  deriving DecidableEq, Repr

def connectionView (snapshot : ConnectionSnapshot) : ConnectionView where
  dataAt :=
    match snapshot.lastOkAt with
    | some lastOkAt => if lastOkAt > snapshot.loadedAt then lastOkAt else snapshot.loadedAt
    | none => snapshot.loadedAt
  lost := !snapshot.online || decide (snapshot.failures ≥ lostAfterFailures)

/-! ## The monitor and its host -/

/-- A call of the browser's own `fetch` that has not settled yet. -/
inductive Call where
  | watched
  | unwatched
  | probe
  deriving DecidableEq, Repr

/-- What the browser keeps for the monitor. A timer is known by the order in
which it was set, and `cancelled` lists the cancellations in their order. -/
structure Host where
  origin : String
  fetches : Bool
  wrapped : Bool
  listening : Bool
  timersSet : Nat
  timers : List Nat
  cancelled : List Nat
  calls : List Call
  deriving DecidableEq, Repr

structure Monitor where
  host : Host
  loadedAt : Millis
  online : Bool
  failures : Nat
  lastOkAt : Option Millis
  stopped : Bool
  cancelProbes : Option Nat
  listeners : List Nat
  last : ConnectionView
  /-- What each listener was called with, in order. -/
  heard : List (Nat × ConnectionView)
  deriving DecidableEq, Repr

def Host.every (host : Host) : Host :=
  { host with timersSet := host.timersSet + 1, timers := host.timers ++ [host.timersSet] }

def Host.cancel (host : Host) (timer : Nat) : Host :=
  { host with timers := host.timers.erase timer, cancelled := host.cancelled ++ [timer] }

def Host.call (host : Host) (call : Call) : Host :=
  { host with calls := host.calls ++ [call] }

namespace Monitor

def snapshot (m : Monitor) : ConnectionSnapshot :=
  ⟨m.online, m.failures, m.lastOkAt, m.loadedAt⟩

/-- Poll only while disconnected. -/
def schedule (m : Monitor) : Monitor :=
  if m.stopped then m
  else
    match m.last.lost, m.cancelProbes with
    | true, none => { m with host := m.host.every, cancelProbes := some m.host.timersSet }
    | false, some timer => { m with host := m.host.cancel timer, cancelProbes := none }
    | _, _ => m

/-- Listeners are told only when the answer changed, after the polling was set. -/
def publish (m : Monitor) : Monitor :=
  let next := connectionView m.snapshot
  let changed := next.lost != m.last.lost || next.dataAt != m.last.dataAt
  let m := schedule { m with last := next }
  if changed then { m with heard := m.heard ++ m.listeners.map (·, next) } else m

/-- Evidence overrules `navigator.onLine`. -/
def noteReachable (m : Monitor) (now : Millis) : Monitor :=
  publish { m with lastOkAt := some now, failures := 0, online := true }

def noteUnreachable (m : Monitor) : Monitor :=
  publish { m with failures := m.failures + 1 }

/-- The call a probe makes; it settles as any other call does. -/
def probe (m : Monitor) : Monitor :=
  if !m.host.fetches || m.stopped then m
  else { m with host := m.host.call .probe }

/-- The page's `fetch`: the wrapper while it is installed, the browser's own
before and after. -/
def fetch (parser : UrlParser) (m : Monitor) (input : FetchInput) : Monitor :=
  if !m.host.fetches then m
  else if m.host.wrapped && isWatchedRequest parser (requestUrl input) m.host.origin then
    { m with host := m.host.call .watched }
  else { m with host := m.host.call .unwatched }

def settled (m : Monitor) (call : Nat) : Monitor :=
  { m with host := { m.host with calls := m.host.calls.eraseIdx call } }

/-- The call answered: any response counts, a 500 as well. -/
def resolve (m : Monitor) (call : Nat) (now : Millis) : Monitor :=
  match m.host.calls[call]? with
  | none => m
  | some .unwatched => m.settled call
  | some .watched => (m.settled call).noteReachable now
  | some .probe => (m.settled call).noteReachable now

def reject (m : Monitor) (call : Nat) (name : Option String) : Monitor :=
  match m.host.calls[call]? with
  | none => m
  | some .unwatched => m.settled call
  | some .watched =>
      if isConnectionFailure name then (m.settled call).noteUnreachable else m.settled call
  | some .probe =>
      if isConnectionFailure name then (m.settled call).noteUnreachable else m.settled call

def stop (m : Monitor) : Monitor :=
  let host := match m.cancelProbes with
    | some timer => m.host.cancel timer
    | none => m.host
  { m with
    stopped := true
    cancelProbes := none
    listeners := []
    host := { host with wrapped := false, listening := false } }

end Monitor

/-- `createConnectionMonitor` on a browser that has a `fetch` or none. -/
def createConnectionMonitor (origin : String) (fetches isOnline : Bool) (loadedAt : Millis) :
    Monitor :=
  Monitor.schedule
    { host := ⟨origin, fetches, fetches, true, 0, [], [], []⟩
      loadedAt := loadedAt
      online := isOnline
      failures := 0
      lastOkAt := none
      stopped := false
      cancelProbes := none
      listeners := []
      last := connectionView ⟨isOnline, 0, none, loadedAt⟩
      heard := [] }

/-! ## Runs -/

/-- What can happen to a monitor: the page fetches, a call settles, the browser
says it is offline or online, a timer fires, and the page's own calls. -/
inductive Event where
  | fetch (input : FetchInput)
  | resolve (call : Nat) (now : Millis)
  | reject (call : Nat) (name : Option String)
  | offline
  | online
  | timer (timer : Nat)
  | probe
  | subscribe (listener : Nat)
  | unsubscribe (listener : Nat)
  | stop
  deriving DecidableEq, Repr

def step (parser : UrlParser) (m : Monitor) : Event → Monitor
  | .fetch input => m.fetch parser input
  | .resolve call now => m.resolve call now
  | .reject call name => m.reject call name
  | .offline => if m.host.listening then { m with online := false }.publish else m
  | .online => if m.host.listening then m.probe else m
  | .timer timer => if timer ∈ m.host.timers then m.probe else m
  | .probe => m.probe
  | .subscribe listener =>
      if listener ∈ m.listeners then m else { m with listeners := m.listeners ++ [listener] }
  | .unsubscribe listener => { m with listeners := m.listeners.erase listener }
  | .stop => m.stop

def run (parser : UrlParser) (m : Monitor) (events : List Event) : Monitor :=
  events.foldl (step parser) m

@[simp] theorem run_nil (parser : UrlParser) (m : Monitor) : run parser m [] = m := rfl

@[simp] theorem run_cons (parser : UrlParser) (m : Monitor) (event : Event)
    (events : List Event) :
    run parser m (event :: events) = run parser (step parser m event) events := rfl

end VodogeCloud.Source.ConnectionMonitor
