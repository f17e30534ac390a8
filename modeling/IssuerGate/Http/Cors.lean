import IssuerGate.Http.Message

/-!
Sharing with pages of other origins: every origin may call, without credentials, and may read the
quota headers.
-/

namespace IssuerGate.Http.Cors

/-- The methods that pages of other origins may use. -/
def methods : List Text :=
  ["DELETE", "GET", "HEAD", "OPTIONS", "PATCH", "POST", "PUT", "QUERY"]

/-- The headers that pages of other origins may read. -/
def exposed : List Text :=
  ["X-RateLimit-Limit", "X-RateLimit-Remaining", "X-RateLimit-Reset", "Retry-After"]

/-- What is wrong with a preflight request. -/
def faults (r : Request) (method : Text) : List Text :=
  let privateNetwork := (r.header? "access-control-request-private-network").isSome
  List.flatten
    [if methods.contains method then [] else ["method"],
      if privateNetwork then ["private-network"] else []]

/-- The request headers on which the answer to a preflight request depends. -/
def decisive : List Text :=
  ["Origin", "Access-Control-Request-Method", "Access-Control-Request-Headers",
    "Access-Control-Request-Private-Network"]

/-- What a preflight request is told; the headers it asks for are all allowed. -/
def preflightHeaders (r : Request) : Headers :=
  let asked : Headers :=
    match r.header? "access-control-request-headers" with
    | some v => [("access-control-allow-headers", v)]
    | none => []
  ("access-control-allow-origin", "*") :: ("access-control-allow-methods", Text.join ", " methods)
    :: ("access-control-max-age", "600") :: ("vary", Text.join ", " decisive) :: asked

/-- The answer to a preflight request, if the request is one. -/
def preflight? (r : Request) : Option Response :=
  match r.header? "origin", r.header? "access-control-request-method" with
  | some _, some method =>
    if r.method = "OPTIONS" then
      let faults := faults r method
      let answer :=
        if faults.isEmpty then Response.text 200 "OK"
        else .text 400 (Text.ofString "Disallowed CORS " ++ Text.join ", " faults)
      some (answer.withHeaders (preflightHeaders r))
    else none
  | _, _ => none

/-- The headers that every other answer gets. -/
def headers (r : Request) : Headers :=
  ("vary", "Origin") ::
    (if (r.header? "origin").isSome then
      [("access-control-allow-origin", "*"),
        ("access-control-expose-headers", Text.join ", " exposed)]
    else [])

end IssuerGate.Http.Cors
