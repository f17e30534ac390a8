import IssuerGate.Directory

/-!
A store in memory that can be told to fail: issuers by the hash of their key, some of them inactive.
-/

namespace IssuerGate

/-- An issuer under the hash of its key. -/
structure Roster.Member where
  keyHash : Text
  found : Found
  active : Bool
deriving Repr

/-- The members, and what befalls a lookup while the store does not answer. -/
structure Roster where
  members : List Roster.Member := []
  outage : Option Outage := none
deriving Repr

namespace Roster

/-- Adds a member in place of one with the same key hash. -/
def put (r : Roster) (m : Member) : Roster :=
  { r with members := r.members.filter (·.keyHash ≠ m.keyHash) ++ [m] }

def has (r : Roster) (keyHash : Text) : Bool := r.members.any (·.keyHash = keyHash)

def remove (r : Roster) (keyHash : Text) : Roster :=
  { r with members := r.members.filter (·.keyHash ≠ keyHash) }

/-- Fails from now on, or answers again. -/
def fail (r : Roster) (outage : Option Outage) : Roster := { r with outage := outage }

/-- Only active members are found. -/
def find (r : Roster) (keyHash : Text) : Lookup where
  log := []
  atOnce := true
  finding :=
    match r.outage with
    | some o => .error o
    | none =>
      .ok (((r.members.find? (·.keyHash = keyHash)).filter (·.active)).map (·.found))

end Roster

end IssuerGate
