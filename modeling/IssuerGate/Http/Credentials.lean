import IssuerGate.Admin.Access
import IssuerGate.Http.Message

/-!
Basic credentials in a request.
-/

namespace IssuerGate.Http

/-- Credentials of the Basic scheme that cannot be read. -/
def unreadableCredentials : Refusal :=
  { Refusal.ofString 401 "Not authenticated" with headers := [("WWW-Authenticate", "Basic")] }

/-- The name and the password in a header: ASCII text in Base64, cut at the first colon. -/
def readCredentials (encoded : Text) : Except Refusal Admin.Credentials :=
  match Base64.decode? encoded with
  | none => .error unreadableCredentials
  | some bs =>
    let t : Text := bs.map fun b => CodePoint.scalar (Char.ofNat b.toNat)
    match if t.isAscii then t.cut? (.scalar ':') else none with
    | some (name, password) => .ok ⟨name, password⟩
    | none => .error unreadableCredentials

/-- The credentials that a request brings. Other schemes count as none. -/
def Request.credentials? (r : Request) : Except Refusal (Option Admin.Credentials) :=
  let header := (r.header? "authorization").getD []
  let (scheme, encoded) := (Text.cut? (.scalar ' ') header).getD (header, [])
  if scheme.asciiLower = Text.ofString "basic" then (readCredentials encoded).map some else .ok none

end IssuerGate.Http
