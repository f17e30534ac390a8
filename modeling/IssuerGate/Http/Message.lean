import IssuerGate.Admin.Access
import IssuerGate.Gate
import IssuerGate.Issuer.Store

/-!
Requests and responses.
-/

namespace IssuerGate.Http

/-- Header names are in small letters. -/
abbrev Headers := List (Text × Text)

/-- The value of the first header with a name. -/
def Headers.get? (hs : Headers) (name : String) : Option Text :=
  (hs.find? (·.1 = Text.ofString name)).map (·.2)

/-- A request; its path is decoded. -/
structure Request where
  method : Text
  path : Text
  query : Text := []
  headers : Headers := []
  body : Bytes := []
deriving Repr

def Request.header? (r : Request) (name : String) : Option Text := r.headers.get? name

/-- Why a report cannot repeat what was given: it is no text, or no number, or no encoding can carry
it. -/
inductive EchoFault where
  | undecodable
  | notFinite
  | unencodable
deriving DecidableEq, Repr

/-- An error that no answer was foreseen for. -/
inductive Crash where
  | notStarted
  | badRecord
  | nestedRecord
  | unsendable
  | echo (f : EchoFault)
  | admin (f : Admin.Fault)
  | gate (f : Gate.Fault)
  | store (f : Issuer.Store.Fault)
deriving DecidableEq, Repr

/-- A body is a value or a plain text. -/
inductive Body where
  | json (v : Json)
  | text (t : Text)
deriving Repr

/-- A response, and the error behind it if it is a crash. -/
structure Response where
  status : Nat
  headers : Headers
  body : Body
  crash : Option Crash := none
deriving Repr

namespace Response

/-- A response with a value. -/
def json (status : Nat) (v : Json) : Response where
  status := status
  headers := [("content-type", "application/json")]
  body := .json v

/-- The form in which errors are reported. -/
def detail (status : Nat) (v : Json) : Response := json status (.obj [("detail", v)])

/-- A response with a plain text. -/
def text (status : Nat) (t : Text) : Response where
  status := status
  headers := [("content-type", "text/plain; charset=utf-8")]
  body := .text t

/-- A crash tells the client nothing. -/
def ofCrash (c : Crash) : Response := { text 500 "Internal Server Error" with crash := some c }

/-- The response with further headers. -/
def withHeaders (r : Response) (hs : Headers) : Response :=
  { r with headers := r.headers ++ hs.map fun (k, v) => (k.asciiLower, v) }

def ofRefusal (r : Refusal) : Response := (detail r.status r.detail).withHeaders r.headers

end Response

end IssuerGate.Http
