import Mathlib.Algebra.Order.Round
import Mathlib.Data.Rat.Floor
import Mathlib.Logic.Function.Basic
import VodogeCloud.Lib.TokenBucket

/-!
# The rate limiter

`New`, `Allow`, `RetryAfter` and `sweep` (apps/gateway/internal/ratelimit/ratelimit.go:24-105)
and the answer of `Guard` (apps/gateway/internal/ratelimit/http.go:38-50). A time is its
seconds as a rational number, and so are the floating-point numbers of the limiter; a
duration is its nanoseconds. Each function runs under the lock of the limiter, so a run is
one call after the other.
-/

set_option autoImplicit false

namespace VodogeCloud.Source.RateLimit

open VodogeCloud.Lib.TokenBucket (Bucket)

/-! ## Durations -/

/-- The longest duration, in seconds. -/
def maxDuration : ℚ := (2 ^ 63 - 1) / 10 ^ 9

/-- The shortest duration, in seconds. -/
def minDuration : ℚ := -2 ^ 63 / 10 ^ 9

/-- `now.Sub(earlier).Seconds()`: it stays in the range of a duration. -/
def sub (now earlier : ℚ) : ℚ := max minDuration (min (now - earlier) maxDuration)

/-- An integer type takes a number without its fraction. -/
def truncate (number : ℚ) : ℤ := if 0 ≤ number then ⌊number⌋ else ⌈number⌉

/-- `time.Duration(seconds * float64(time.Second))`. Infinite seconds are `none`; what is no
64-bit integer becomes what the machine makes of it. -/
def toDuration (machine : Option ℚ → ℤ) : Option ℚ → ℤ
  | none => machine none
  | some seconds =>
    if -2 ^ 63 ≤ truncate (seconds * 10 ^ 9) ∧ truncate (seconds * 10 ^ 9) < 2 ^ 63 then truncate (seconds * 10 ^ 9)
    else machine (some seconds)

/-! ## The limiter -/

structure Limiter where
  buckets : String → Option (Bucket ℚ)
  rate : ℚ
  burst : ℚ
  idle : ℚ

/-- `New`. -/
def new (rate : ℚ) (burst : ℤ) : Limiter where
  buckets := fun _ => none
  rate := rate
  burst := burst
  idle := 600

/-- `sweep`. -/
def Limiter.sweep (limiter : Limiter) (now : ℚ) : Limiter :=
  { limiter with
    buckets := fun key => (limiter.buckets key).filter fun current => ¬ limiter.idle < sub now current.seen }

/-- `limiter.buckets[key] = current`. -/
def Limiter.put (limiter : Limiter) (key : String) (current : Bucket ℚ) : Limiter :=
  { limiter with buckets := Function.update limiter.buckets key (some current) }

/-- The bucket of a key; a new key sweeps and starts full. -/
def Limiter.find (limiter : Limiter) (key : String) (now : ℚ) : Limiter × Bucket ℚ :=
  match limiter.buckets key with
  | some current => (limiter, current)
  | none => (limiter.sweep now, ⟨limiter.burst, now⟩)

/-- The bucket with the tokens that came in. -/
def Limiter.refill (limiter : Limiter) (now : ℚ) (current : Bucket ℚ) : Bucket ℚ where
  tokens :=
    if 0 < sub now current.seen then
      if limiter.burst < current.tokens + sub now current.seen * limiter.rate then limiter.burst
      else current.tokens + sub now current.seen * limiter.rate
    else current.tokens
  seen := now

/-- The bucket `Allow` takes a token from, if it can. -/
def Limiter.held (limiter : Limiter) (key : String) (now : ℚ) : Bucket ℚ :=
  limiter.refill now (limiter.find key now).2

/-- `Allow`. -/
def Limiter.allow (limiter : Limiter) (key : String) (now : ℚ) : Limiter × Bool :=
  let swept := (limiter.find key now).1
  let current := limiter.held key now
  if current.tokens < 1 then (swept.put key current, false)
  else (swept.put key { current with tokens := current.tokens - 1 }, true)

/-- `RetryAfter`, in nanoseconds. A division by zero is infinite. -/
def Limiter.retryAfter (machine : Option ℚ → ℤ) (limiter : Limiter) (key : String) : ℤ :=
  match limiter.buckets key with
  | none => 0
  | some current =>
    if 1 ≤ current.tokens then 0
    else toDuration machine (if limiter.rate = 0 then none else some ((1 - current.tokens) / limiter.rate))

/-- The `Retry-After` header of `Guard`, in seconds, once `Allow` refused. -/
def Limiter.retryHeader (machine : Option ℚ → ℤ) (limiter : Limiter) (key : String) : ℤ :=
  let wait := limiter.retryAfter machine key
  truncate ((if wait < 10 ^ 9 then 10 ^ 9 else wait : ℤ) / 10 ^ 9 + 1 / 2)

/-! ## Runs -/

/-- A call of `Allow`. -/
structure Call where
  key : String
  time : ℚ
  deriving DecidableEq

def Limiter.serve (limiter : Limiter) (call : Call) : Limiter := (limiter.allow call.key call.time).1

/-- The limiter once it was called. -/
def Limiter.run (limiter : Limiter) (calls : List Call) : Limiter := calls.foldl Limiter.serve limiter

/-- The calls that are allowed. -/
def Limiter.allowed : Limiter → List Call → List Call
  | _, [] => []
  | limiter, call :: calls =>
    (if (limiter.allow call.key call.time).2 then [call] else []) ++ (limiter.serve call).allowed calls

/-- The clock does not go back. -/
def Ordered (calls : List Call) : Prop := calls.Pairwise fun a b => a.time ≤ b.time

example : ((new (1 / 12) 2).allowed [⟨"a", 0⟩, ⟨"a", 0⟩, ⟨"a", 11⟩, ⟨"b", 11⟩, ⟨"a", 12⟩]).map Call.time = [0, 0, 11, 12] := by
  decide +kernel

end VodogeCloud.Source.RateLimit
