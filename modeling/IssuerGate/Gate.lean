import IssuerGate.Directory
import IssuerGate.Limiter
import IssuerGate.Refusal
import IssuerGate.UrlPath

/-!
The gate in front of every route: it resolves the caller's API key, charges the caller's quota and
writes the quota headers.

Requests without a key pass unmetered. While the directory does not answer, keyed requests pass
unmetered too if the gate fails open, and are turned away if it does not.
-/

namespace IssuerGate

/-- Arithmetic that fails on extreme settings: in the limiter, or in showing what it decided. -/
inductive Gate.Fault where
  | number (f : Binary64.Fault)
  | unwritable
  | retryTooLarge
deriving DecidableEq, Repr

def Gate.Fault.message : Gate.Fault → Text
  | number f => f.message
  | unwritable => Text.unwritableMessage
  | retryTooLarge => "integer division result too large for a float"

/-- The second in which a window ends. -/
def Decision.resetSecond (d : Decision) : Int := d.resetAt.fdiv 1000

/-- Do the numbers that are shown of a decision have few enough digits to be written? -/
def Decision.isWritable (d : Decision) : Bool :=
  [d.limit, d.remaining, d.resetSecond].all Text.isWritable

/-- The quota as response headers show it, times in seconds: numbers that can be written, and for a
denial when to come back. -/
structure QuotaHeaders where
  limit : Int
  remaining : Int
  reset : Int
  retryAfter : Option Int
  writable : [limit, remaining, reset].all Text.isWritable = true
deriving DecidableEq, Repr

namespace QuotaHeaders

/-- The whole seconds until a reset, at least one, from the quotient in doubles rounded up; beyond
the largest double there are none. -/
def retrySeconds? (resetAt now : Int) : Option Int :=
  (Binary64.divInt? (resetAt - now) 1000).map fun x => max (x.ceil?.getD 0) 1

/-- The headers of a decision that can be shown. -/
def ofWritable (d : Decision) (h : d.isWritable = true) (retryAfter : Option Int) :
    QuotaHeaders :=
  ⟨d.limit, d.remaining, d.resetSecond, retryAfter, h⟩

/-- The headers of a decision; only a denial says when to come back. What cannot be written is met
before a delay beyond all doubles. -/
def ofDecision (d : Decision) (now : Int) : Except Gate.Fault QuotaHeaders :=
  if h : d.isWritable = true then
    if d.allowed then .ok (ofWritable d h none)
    else
      match retrySeconds? d.resetAt now with
      | some s => .ok (ofWritable d h (some s))
      | none => .error .retryTooLarge
  else .error .unwritable

/-- The names and texts of the headers. -/
def pairs (h : QuotaHeaders) : List (Text × Text) :=
  [
    (("X-RateLimit-Limit" : Text), Text.ofInt h.limit),
    ("X-RateLimit-Remaining", Text.ofInt h.remaining),
    ("X-RateLimit-Reset", Text.ofInt h.reset)
  ] ++ (h.retryAfter.map fun s => (("Retry-After" : Text), Text.ofInt s)).toList

end QuotaHeaders

/-- The directory, the limiter, and what to do while the directory does not answer. -/
structure Gate where
  directory : Directory
  limiter : Limiter
  failOpen : Bool

namespace Gate

/-- What a request is charged under: the template of the matched route, or else the path of its
address. -/
def routeKey (template : Option Text) (path : Text) : Text :=
  (template.filter (· ≠ [])).getD (UrlPath.inAddress path)

/-- A request that passes; a metered one has all three. -/
structure Admission where
  issuer : Option Identity
  decision : Option Decision
  headers : Option QuotaHeaders

/-- An admission that was charged to nobody. -/
def unmetered : Admission := ⟨none, none, none⟩

/-- Why a request does not pass. -/
inductive Denial where
  | unavailable
  | unknownKey
  | exceeded (headers : QuotaHeaders)
  | fault (f : Fault)
deriving DecidableEq, Repr

/-- The answer to a denied request, unless a fault denied it. -/
def Denial.refusal? : Denial → Option Refusal
  | unavailable => some (.ofString 503 "Issuer directory unavailable")
  | unknownKey => some (.ofString 401 "Invalid API key")
  | exceeded h =>
    some
      { status := 429
        detail :=
          .obj
            [
              ("status_code", .int 429), ("message", .ofString "Rate limit exceeded"),
              ("retry_after_seconds", .int (h.retryAfter.getD 0))
            ]
        headers := h.pairs }
  | fault _ => none

/-- What a check leaves, and whether it began a lookup. -/
structure Check (ρ : Type) where
  gate : Gate
  receiver : ρ
  log : Log
  asked : Bool
  outcome : Except Denial Admission

/-- Charges a resolved issuer. -/
def charge {ρ : Type} [Receiver ρ] (g : Gate) (r : ρ) (now : Int) (issuer : Identity)
    (route : Text) : Step (Gate × ρ) (Except Denial Admission) :=
  let s := g.limiter.consume r now issuer.id issuer.tier route
  let state := ({ g with limiter := s.state.1 }, s.state.2)
  match s.answer with
  | .error e => ⟨state, s.log, .error (.fault (.number e))⟩
  | .ok d =>
    match QuotaHeaders.ofDecision d now with
    -- the charge stands, although nobody learns of it
    | .error f => ⟨state, s.log, .error (.fault f)⟩
    | .ok h =>
      -- the headers of a denial are shown too
      if d.allowed then ⟨state, s.log, .ok ⟨some issuer, some d, some h⟩⟩
      else ⟨state, s.log, .error (.exceeded h)⟩

/-- Admits an unanswered request or turns it away, as the gate is set, and reports it. -/
def unanswered (failOpen : Bool) (route : Text) : Log × Except Denial Admission :=
  if failOpen then
    (Log.error
      ["Issuer lookup unavailable; admitting ", route, " without rate limiting"], .ok unmetered)
  else
    (Log.error ["Issuer lookup unavailable; rejecting keyed request to ", route],
      .error .unavailable)

/-- Decides on one request. -/
def check {ρ : Type} [Receiver ρ] (g : Gate) (r : ρ) (now : Int) (find : Text → Lookup)
    (key : Option Text) (route : Text) : Check ρ :=
  match key.filter (· ≠ []) with
  | none => ⟨g, r, [], false, .ok unmetered⟩
  | some key =>
    let s := g.directory.resolve now find key
    let g := { g with directory := s.state }
    match s.answer.outcome with
    | .error (.number f) => ⟨g, r, s.log, s.answer.asked, .error (.fault (.number f))⟩
    | .error (.unanswered _) =>
      let (log, outcome) := unanswered g.failOpen route
      ⟨g, r, s.log ++ log, s.answer.asked, outcome⟩
    | .ok none => ⟨g, r, s.log, s.answer.asked, .error .unknownKey⟩
    | .ok (some issuer) =>
      let c := g.charge r now issuer route
      ⟨c.state.1, c.state.2, s.log ++ c.log, s.answer.asked, c.answer⟩

end Gate

end IssuerGate
