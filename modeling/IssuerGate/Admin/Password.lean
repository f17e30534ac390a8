import IssuerGate.Digest.Pbkdf2
import IssuerGate.Text.Base64
import IssuerGate.Text.Numeral
import IssuerGate.Text.Utf8.Strict
import IssuerGate.Word

/-!
Password hashes as text: the name of the scheme, the number of rounds, the salt and the derived key,
separated by dollar signs.
-/

namespace IssuerGate.Password

/-- The name of the only scheme. -/
def scheme : Text := "pbkdf2_sha256"

/-- The separator of the four fields. -/
def dollar : CodePoint := .scalar '$'

/-- The largest number of rounds. -/
def maxRounds : Int := 0x7FFFFFFF

/-- Why a number of rounds cannot be used. -/
inductive RoundsFault where
  | notPositive
  | tooMany
  | beyondWord
deriving DecidableEq, Repr

def RoundsFault.message : RoundsFault → Text
  | notPositive => "iteration value must be greater than 0."
  | tooMany => "iteration value is too great."
  | beyondWord => "Python int too large to convert to C long"

/-- The number of rounds, from one to `maxRounds`. -/
def checkRounds (rounds : Int) : Except RoundsFault Nat :=
  if !Word.fits rounds then .error .beyondWord
  else if rounds < 1 then .error .notPositive
  else if maxRounds < rounds then .error .tooMany
  else .ok rounds.toNat

/-- The text that keeps a salt, a number of rounds and a key derived with them. -/
def encode (rounds : Int) (salt key : Bytes) : Text :=
  Text.join [dollar] [scheme, Text.ofInt rounds, Base64.encode salt, Base64.encode key]

/-- The kinds of faults, by which a fault is caught. -/
inductive FaultKind where
  | value
  | range
  | type
deriving DecidableEq, Repr

/-- What is caught where a password is tried: faults of value and of range. -/
def FaultKind.isCaught : FaultKind → Bool
  | value | range => true
  | type => false

/-- What can be met where a password is kept or tried: a text that is no kept form, a password that
no encoding carries, or a number of rounds that cannot be used. -/
inductive Fault where
  | fields
  | numeral (f : Text.NumeralFault)
  | salt
  | key
  | unencodable (f : Utf8.Unencodable)
  | rounds (f : RoundsFault)
deriving DecidableEq, Repr

def RoundsFault.kind : RoundsFault → FaultKind
  | notPositive => .value
  | tooMany | beyondWord => .range

def Fault.kind : Fault → FaultKind
  | fields | numeral _ | salt | key | unencodable _ => .value
  | rounds f => f.kind

/-- The derived key of a password. The number of rounds is looked at last. -/
def derive (password : Text) (salt : Bytes) (rounds : Int) : Except Fault Bytes := do
  let bs ← (Utf8.encodeStrict password).mapError .unencodable
  let n ← (checkRounds rounds).mapError .rounds
  return Pbkdf2.derive bs salt n

/-- The kept form of a password. -/
def hash (password : Text) (salt : Bytes) (rounds : Int) : Except Fault Text :=
  (derive password salt rounds).map fun key => encode rounds salt key

/-- The four fields of a kept form. -/
structure Form where
  name : Text
  rounds : Int
  salt : Bytes
  key : Bytes
deriving DecidableEq, Repr

/-- Reads the fields of a kept form from left to right, whatever scheme it names. -/
def Form.read (encoded : Text) : Except Fault Form :=
  match encoded.splitAtMost dollar 3 with
  | [name, rounds, salt, key] => do
    let rounds ← (Text.readInt Text.isNumeralBlank CodePoint.decimalValue? rounds).mapError .numeral
    let salt ← (Base64.decode? salt).elim (.error .salt) .ok
    let key ← (Base64.decode? key).elim (.error .key) .ok
    return ⟨name, rounds, salt, key⟩
  | _ => .error .fields

/-- Does the password derive the kept key? -/
def Form.derives (form : Form) (password : Text) : Except Fault Bool :=
  if form.name ≠ scheme then .ok false
  else (derive password form.salt form.rounds).map fun key => key == form.key

/-- Tries a password against a text, which may be no kept form. -/
def examine (password encoded : Text) : Except Fault Bool :=
  (Form.read encoded).bind (·.derives password)

/-- Tries a password and rejects at a fault that is caught; any other fault goes through. -/
def attempt (password encoded : Text) : Except Fault Bool :=
  match examine password encoded with
  | .ok accepted => .ok accepted
  | .error f => if f.kind.isCaught then .ok false else .error f

/-- Does the password derive the kept key? A text that is no usable kept form rejects all. -/
def verify (password encoded : Text) : Bool := (attempt password encoded).toOption.getD false

end IssuerGate.Password
