import IssuerGate.Text.Hex
import IssuerGate.Text.Utf8
import IssuerGate.UrlPath

/-!
The routes, and which of them a request meets.

The pages on which the application documents itself, `/docs`, `/docs/oauth2-redirect`, `/redoc` and
`/openapi.json`, are left out: nothing stands before or behind them, neither a gate nor a store, and
a request to one of them goes nowhere here.
-/

namespace IssuerGate.Http

/-- What the application can be asked. -/
inductive Route where
  | identity
  | ownUsage
  | usage
  | createIssuer
  | listIssuers
  | updateIssuer
  | health
deriving DecidableEq, Repr

/-- A part of a path between slashes: a given word, or any word. -/
inductive Segment where
  | word (t : Text)
  | issuerId
deriving DecidableEq, Repr

def Segment.template : Segment → Text
  | word t => t
  | issuerId => "\x7bissuer_id\x7d"

namespace Route

/-- All routes, in the order in which they are tried. -/
def all : List Route :=
  [identity, ownUsage, usage, createIssuer, listIssuers, updateIssuer, health]

def method : Route → Text
  | createIssuer => "POST"
  | updateIssuer => "PATCH"
  | _ => "GET"

/-- The path of a route in parts. -/
def segments : Route → List Segment
  | identity => [.word "api", .word "issuers", .word "me"]
  | ownUsage => [.word "api", .word "issuers", .issuerId, .word "usage"]
  | usage => [.word "api", .word "rate-limit", .word "usage"]
  | createIssuer | listIssuers => [.word "api", .word "admin", .word "issuers"]
  | updateIssuer => [.word "api", .word "admin", .word "issuers", .issuerId]
  | health => [.word "health"]

/-- The path of a route with its parameter by name. -/
def template (r : Route) : Text := r.segments.flatMap fun s => .scalar '/' :: s.template

/-- Does the route take a body? -/
def takesBody : Route → Bool
  | createIssuer | updateIssuer => true
  | _ => false

/-- A word of a path; a line feed may follow the last one. -/
def isWord (w : Text) (last : Bool) (t : Text) : Bool :=
  t == w || (last && t == w ++ [.scalar '\n'])

/-- The parameter that a path with these segments gives, empty if they name none. -/
def bind? : List Segment → List Text → Option Text
  | [], [] => some []
  | .word w :: ss, t :: ts => if isWord w ss.isEmpty t then bind? ss ts else none
  | .issuerId :: ss, t :: ts =>
    if t.isEmpty then none else (bind? ss ts).map fun rest => t ++ rest
  | _, _ => none

/-- The parameter that a path gives to the route, if it is a path of the route. -/
def param? (r : Route) (path : Text) : Option Text :=
  match path with
  | .scalar '/' :: rest => bind? r.segments (rest.splitOn (.scalar '/'))
  | _ => none

/-- Characters that a location keeps as they are. -/
def isPlain (c : CodePoint) : Bool :=
  match c with
  | .scalar c => c.isAlphanum || "_.-~:/%#?=@[]!$&()*+,;".toList.contains c || c.toNat == 39
  | .surrogate _ => false

/-- A location with all other characters as percent signs and hexadecimal bytes. -/
def quoteLocation (t : Text) : Text :=
  t.flatMap fun c =>
    if isPlain c then [c]
    else
      (Utf8.encodePoint c).flatMap fun b =>
        .scalar '%' :: (Text.hexDigits 2 b.toNat).map fun
          | .scalar d => .scalar d.toUpper
          | d => d

/-- Where a request goes. -/
inductive Target where
  | route (r : Route) (param : Text)
  | wrongMethod (allowed : Text)
  | moved (location : Text)
  | nowhere
deriving DecidableEq, Repr

/-- A path without the slashes at its end. -/
def withoutSlashes (t : Text) : Text := (t.reverse.dropWhile (· == .scalar '/')).reverse

/-- The first route of the method and the path; else the method of the first route of the path;
else, if slashes at the end are all that is wrong with the path, the path without them. -/
def find (method path query : Text) : Target :=
  match all.findSome? fun r => if r.method = method then (r.param? path).map (r, ·) else none with
  | some (r, param) => .route r param
  | none =>
    match all.find? fun r => (r.param? path).isSome with
    | some r => .wrongMethod r.method
    | none =>
      -- only a path that is wrong by nothing but its end is sent on
      let shorter := withoutSlashes path
      if shorter ≠ path ∧ all.any fun r => (r.param? shorter).isSome then
        .moved (quoteLocation
          (Text.ofString "http://test" ++ UrlPath.escape shorter
            ++ (if query.isEmpty then [] else .scalar '?' :: query)))
      else .nowhere

end Route

end IssuerGate.Http
