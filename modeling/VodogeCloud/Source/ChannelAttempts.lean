import VodogeCloud.Source.NotifyChannels

/-!
# Offering one event to one channel

`Dispatcher.attempt` (apps/gateway/internal/notify/dispatch.go:369-404) over the two channels
that send to a list of URLs, `Webhook.Send` and `Bark.Send` (channels.go:46-93, 108-144).
What a request holds is the event and is left out. Its answer, the clock after an attempt and
whether a wait ran its time come from outside; a deadline that passes shows in the answers.
-/

set_option autoImplicit false

namespace VodogeCloud.Source.ChannelAttempts

open VodogeCloud.Source.Postgres (Timestamp)
open VodogeCloud.Source.Settings (Document)
open VodogeCloud.Source.NotifyChannels

/-! ## One send -/

/-- What came of a request: a status, or no answer at all. -/
inductive Answer where
  | status (code : Nat)
  | failed (reason : String)
  deriving DecidableEq, Repr

def Answer.accepted : Answer → Bool
  | .status code => code < 300
  | .failed _ => false

inductive UrlChannel where
  | webhook
  | bark
  deriving DecidableEq, Repr

def UrlChannel.configured (channel : UrlChannel) (config : Document) : Bool :=
  match channel with
  | .webhook => NotifyChannels.webhook.configured config
  | .bark => NotifyChannels.bark.configured config

def UrlChannel.name : UrlChannel → String
  | .webhook => "webhook"
  | .bark => "bark"

/-- The event offered to one URL of the list. -/
structure Offer where
  tries : Nat
  position : Nat
  url : String
  answer : Answer
  deriving DecidableEq, Repr

/-- What is appended to `failures`. A webhook says which URL it was. -/
def failureOf (channel : UrlChannel) (offer : Offer) : Option String :=
  let reason := match offer.answer with
    | .status code => if code < 300 then none else some ("HTTP " ++ toString code)
    | .failed reason => some reason
  match channel with
  | .webhook => reason.map fun reason => offer.url ++ ": " ++ reason
  | .bark => reason

inductive SendError where
  | notConfigured
  | failures (text : String)
  deriving DecidableEq, Repr

/-- The loop over `urls`: every URL is asked, whatever the ones before it answered. -/
def offersOf (tries : Nat) (urls : List String) (answers : Nat → Answer) : List Offer :=
  urls.zipIdx.map fun entry => ⟨tries, entry.2, entry.1, answers entry.2⟩

/-- `Send`. -/
def send (channel : UrlChannel) (config : Document) (tries : Nat) (answers : Nat → Answer) :
    List Offer × Except SendError Unit :=
  if !channel.configured config then ([], .error .notConfigured)
  else
    let offers := offersOf tries (asStrings config "urls") answers
    match offers.filterMap (failureOf channel) with
    | [] => (offers, .ok ())
    | first :: rest =>
      (offers, .error (.failures (channel.name ++ ": " ++ "; ".intercalate (first :: rest))))

/-! ## The attempts -/

/-- `retryPolicy`; `New` leaves at least one attempt. -/
structure RetryPolicy where
  attempts : Nat
  backoff : Int
  maxBackoff : Int
  window : Int
  positive : 0 < attempts

structure Surroundings where
  /-- The answers of an attempt, by the position in the list. -/
  answers : Nat → Nat → Answer
  /-- `dispatcher.now()` before the first attempt and after each that failed. -/
  clock : Nat → Timestamp
  /-- `wait` ran its time; it does not once the dispatcher stops. -/
  waited : Nat → Int → Bool

structure Attempted where
  offers : List Offer
  retries : Nat
  result : Except SendError Unit

/-- The loop from a try on, with as many as are left after it. -/
def attemptFrom (channel : UrlChannel) (config : Document) (policy : RetryPolicy) (around : Surroundings) :
    Nat → Nat → Int → Attempted
  | left, tries, delay =>
    match send channel config tries (around.answers tries) with
    | (offers, .ok ()) => ⟨offers, 0, .ok ()⟩
    | (offers, .error .notConfigured) => ⟨offers, 0, .error .notConfigured⟩
    | (offers, .error (.failures text)) =>
      match left with
      | 0 => ⟨offers, 0, .error (.failures text)⟩
      | left + 1 =>
        if around.clock 0 + policy.window ≤ around.clock tries then ⟨offers, 0, .error (.failures text)⟩
        else if !around.waited tries delay then ⟨offers, 0, .error (.failures text)⟩
        else
          let later := attemptFrom channel config policy around left (tries + 1) (min (delay * 2) policy.maxBackoff)
          ⟨offers ++ later.offers, later.retries + 1, later.result⟩

/-- `attempt`. -/
def attempt (channel : UrlChannel) (config : Document) (policy : RetryPolicy) (around : Surroundings) : Attempted :=
  attemptFrom channel config policy around (policy.attempts - 1) 1 policy.backoff

end VodogeCloud.Source.ChannelAttempts
