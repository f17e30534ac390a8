import IssuerGate.Counters
import IssuerGate.Job.Dispatcher

/-!
The limiter: it sweeps the counters now and then, lets them decide on each request and passes the
noteworthy decisions on.

A decision never waits for its receiver: `Receiver` gives back its next state and whether it took
the event, and an event that is not taken is logged.
-/

namespace IssuerGate

/-- A noteworthy decision. -/
inductive Event where
  | exceeded (issuer : Json) (tier : Tier) (route : Text) (timestamp limit : Int) (count : Nat)
  | upgrade (issuer : Json) (route : Text) (limit : Int) (count : Nat)
deriving Repr

/-- The job that tells a worker of an event. -/
def Event.job : Event → Job
  | exceeded issuer tier route timestamp limit count =>
    .exceeded issuer tier.name route timestamp limit count
  | upgrade issuer route limit count => .upgradeNotice issuer route limit count

/-- A receiver of events. The answer says whether the event was taken without failing. -/
class Receiver (ρ : Type) where
  receive : ρ → Event → Step ρ Bool

instance (σ : Type) [JobSink σ] : Receiver (Dispatcher σ) where
  receive d e :=
    let s := d.submit e.job
    ⟨s.state, s.log, true⟩

/-- What the caller learns of a decision. -/
structure Decision where
  allowed : Bool
  limit : Int
  remaining : Int
  resetAt : Int
deriving DecidableEq, Repr

/-- The quota, the counters under it, and when they were last swept. -/
structure Limiter where
  quota : Quota
  counters : Counters
  lastSweep : Int

namespace Limiter

/-- A limiter from a moment on. Given counters serve only if they hold a bucket; otherwise the
limiter opens counters with the window of its quota. -/
def start (q : Quota) (given : Option Counters) (now : Int) : Limiter where
  quota := q
  counters :=
    match given with
    | some c => if c.size = 0 then .ofWindow q.windowMs else c
    | none => .ofWindow q.windowMs
  lastSweep := now

/-- The window of the counters. -/
def window (l : Limiter) : Int := l.counters.window

/-- Sweeps if the last sweep is long enough ago. -/
def sweepIfDue (l : Limiter) (now : Int) : Step Limiter Unit :=
  if now - l.lastSweep < l.quota.sweepMs then ⟨l, [], ()⟩
  else
    let evicted := l.counters.expired now
    ⟨{ l with counters := l.counters.sweep now, lastSweep := now },
      if evicted = 0 then []
      else Log.debug ["Evicted ", Text.ofNat evicted, " expired usage buckets"], ()⟩

/-- Sweeps the counters without a look at the last sweep, and does not count as one. -/
def sweep (l : Limiter) (now : Int) : Limiter := { l with counters := l.counters.sweep now }

/-- The event that a verdict gives rise to. -/
def event? (now : Int) (issuer : Json) (tier : Tier) (route : Text) (v : Counters.Verdict) :
    Option Event :=
  if !v.allowed then some (.exceeded issuer tier route now v.limit v.bucket.count)
  else if v.nudge then some (.upgrade issuer route v.limit v.bucket.count)
  else none

/-- The answer to a verdict: a denied caller has nothing remaining. -/
def decision (window : Int) (v : Counters.Verdict) : Decision where
  allowed := v.allowed
  limit := v.limit
  remaining := if v.allowed then max (v.limit - v.bucket.count) 0 else 0
  resetAt := v.bucket.windowStart + window

/-- Hands an event to a receiver and logs a failure. -/
def deliver {ρ : Type} [Receiver ρ] (r : ρ) (e : Event) : Step ρ Unit :=
  let s := Receiver.receive r e
  ⟨s.state,
    s.log ++ (if s.answer then [] else Log.error ["Rate limit side effect dispatch failed"]), ()⟩

/-- What the limiter itself reports of an event. -/
def reported : Event → Log
  | .exceeded .. => []
  | .upgrade issuer route limit count =>
    Log.info
      ["Issuer ", issuer.display, " reached ", Text.ofNat count, "/", Text.ofInt limit,
        " requests on ", route]

/-- Decides on one request and passes the decision on if it is noteworthy. -/
def consume {ρ : Type} [Receiver ρ] (l : Limiter) (r : ρ) (now : Int) (issuer : Json) (tier : Tier)
    (route : Text) : Step (Limiter × ρ) (Except Binary64.Fault Decision) :=
  let swept := l.sweepIfDue now
  let l := swept.state
  let (counters, outcome) := l.counters.consume l.quota now issuer tier route
  let l := { l with counters := counters }
  match outcome with
  | .error e => ⟨(l, r), swept.log, .error e⟩
  | .ok v =>
    match event? now issuer tier route v with
    | none => ⟨(l, r), swept.log, .ok (decision l.window v)⟩
    | some e =>
      let delivered := deliver r e
      ⟨(l, delivered.state), swept.log ++ delivered.log ++ reported e, .ok (decision l.window v)⟩

/-- A line of the usage report. -/
structure UsageRow where
  issuer : Json
  route : Text
  tier : Tier
  count : Nat
  limit : Int
  resetAt : Int
deriving Repr

/-- The running windows, each with the limit of the tier that opened it. -/
def usage (l : Limiter) (now : Int) : List UsageRow :=
  (l.counters.snapshot now).map fun s =>
    ⟨s.issuer, s.route, s.bucket.tier, s.bucket.count, l.quota.limitFor s.bucket.tier,
      s.bucket.windowStart + l.window⟩

end Limiter

/-- A receiver for rehearsals: it keeps the events in order, or fails on each. -/
inductive Listener where
  | journal (events : List Event)
  | broken
  | dispatcher (d : Dispatcher Backend)

instance : Receiver Listener where
  receive
    | .journal es, e => ⟨.journal (es ++ [e]), [], true⟩
    | .broken, _ => ⟨.broken, [], false⟩
    | .dispatcher d, e =>
      let s := Receiver.receive d e
      ⟨.dispatcher s.state, s.log, s.answer⟩

end IssuerGate
