import IssuerGate.Admin.Password
import IssuerGate.Refusal

/-!
Access to the admin routes: one account, configured by name and either a kept password hash or a
plain password.
-/

namespace IssuerGate.Admin

/-- The configured admin account. A missing name or password means that nobody is admin. -/
structure Account where
  username : Option Text := none
  passwordHash : Option Text := none
  passwordPlain : Option Text := none
deriving Repr

/-- The name and the password that a caller shows. -/
structure Credentials where
  username : Text
  password : Text
deriving DecidableEq, Repr

/-- A setting that is there and not empty. -/
def given (t : Option Text) : Option Text := t.filter (· ≠ [])

/-- The salt under which a plain password is kept; it is the same in every deployment. -/
def plainSalt : Bytes := (Sha256.digest (Utf8.encode "certapi-basic-salt")).take 16

/-- The number of rounds with which a plain password is kept. -/
def plainRounds : Nat := 200000

/-- The kept form of the configured password: the kept hash, or else that of the plain password,
which is made for each request. -/
def Account.keptHash (a : Account) : Except Password.Fault (Option Text) :=
  match given a.passwordHash, given a.passwordPlain with
  | some h, _ => .ok (some h)
  | none, some plain => (Password.hash plain plainSalt plainRounds).map some
  | none, none => .ok none

/-- Why it is not decided whether access is granted: the names are not compared, or the plain
password has no kept form. -/
inductive Fault where
  | incomparable
  | unkept (f : Password.Fault)
deriving DecidableEq, Repr

def incomparableMessage : Text := "comparing strings with non-ASCII characters is not supported"

/-- Why access is not granted. -/
inductive Denial where
  | required
  | failed
  | fault (f : Fault)
deriving DecidableEq, Repr

/-- The answer to a denied request, unless a fault denied it. -/
def Denial.refusal : Denial → Except Fault Refusal
  | required => .ok (.ofString 401 "Admin authentication required")
  | failed => .ok (.ofString 401 "Authentication failed")
  | fault f => .error f

/-- Does the password belong to the account? Without a kept form none does. -/
def Account.accepts (a : Account) (password : Text) : Except Password.Fault Bool :=
  a.keptHash.map fun kept => kept.any fun kept => Password.verify password kept

/-- The name of the admin whom the credentials show. Names are compared within ASCII only, and the
password is looked at last. -/
def Account.authenticate (a : Account) (credentials : Option Credentials) : Except Denial Text :=
  match credentials, given a.username with
  | some c, some name =>
    if !(c.username.isAscii && name.isAscii) then .error (.fault .incomparable)
    else if c.username ≠ name then .error .failed
    else
      match a.accepts c.password with
      | .ok true => .ok c.username
      | .ok false => .error .failed
      | .error f => .error (.fault (.unkept f))
  | _, _ => .error .required

/-- Who is let in, and what they may act as. -/
structure Principal where
  username : Text
  roles : List Text
deriving DecidableEq, Repr

/-- The admin of a name. -/
def Principal.admin (name : Text) : Principal := ⟨name, ["admin"]⟩

/-- Lets in the holder of the credentials as admin, or says why not. -/
def Account.principal (a : Account) (credentials : Option Credentials) : Except Denial Principal :=
  (a.authenticate credentials).map .admin

end IssuerGate.Admin
