import IssuerGate.Settings.Given

/-!
Settings from environment variables, whose names are compared without regard to case.
-/

namespace IssuerGate.Settings

/-- The name of a variable in small letters. The Kelvin sign is a capital letter too. -/
def lowerName (t : Text) : Text :=
  Text.asciiLower (t.map fun c => if c.val = 0x212A then .scalar 'k' else c)

/-- The variables, in order; a later one wins over earlier ones of its name. -/
abbrev Environment := List (Text × Text)

/-- The value of the last variable with a name. -/
def valueOf? (env : Environment) (name : Text) : Option Text :=
  (env.reverse.find? fun v => lowerName v.1 = name).map (·.2)

/-- Reads all settings. -/
def ofEnvironment (env : Environment) : Except (List FieldError) Settings :=
  ofValues fun name => (valueOf? env name).map .str

end IssuerGate.Settings
