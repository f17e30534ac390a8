import IssuerGate.Text.Quoted

/-!
Log levels by name, in any case.

A name that is no level means information. Two names of the logging vocabulary stand for something
else than a level, and are errors.
-/

namespace IssuerGate.Settings.LogLevel

/-- The letters beyond ASCII whose capitals are ASCII: two variants of letters, and ligatures. -/
def asciiCapitals : List (Nat × Text) :=
  [
    (0xDF, "SS"), (0x131, "I"), (0x17F, "S"), (0xFB00, "FF"), (0xFB01, "FI"), (0xFB02, "FL"),
    (0xFB03, "FFI"), (0xFB04, "FFL"), (0xFB05, "ST"), (0xFB06, "ST")
  ]

/-- A code point in capitals, as far as these are ASCII. -/
def upper (c : CodePoint) : Text :=
  match asciiCapitals.lookup c.val, c with
  | some t, _ => t
  | none, .scalar c => [.scalar c.toUpper]
  | none, c => [c]

/-- The names of the levels and their numbers. -/
def levels : List (Text × Nat) :=
  [
    ("CRITICAL", 50), ("FATAL", 50), ("ERROR", 40), ("WARNING", 30), ("WARN", 30), ("INFO", 20),
    ("DEBUG", 10), ("NOTSET", 0)
  ]

/-- Names that are taken by something else than a level. -/
inductive Fault where
  | recordFormat
  | styleTable
deriving DecidableEq, Repr

def basicFormat : Text := "%(levelname)s:%(name)s:%(message)s"

/-- An entry of the style table as a message shows it. -/
def styleEntry (mark : CodePoint) (formatter format : Text) : Text :=
  Text.quoted [mark] ++ Text.ofString ": (<class " ++ Text.quoted formatter ++ Text.ofString ">, "
    ++ Text.quoted format ++ Text.ofString ")"

def Fault.message : Fault → Text
  | recordFormat => Text.ofString "Unknown level: " ++ basicFormat.quoted
  | styleTable =>
    Text.ofString "Level not an integer or a valid string: \x7b"
      ++ Text.join ", "
        [
          styleEntry (.scalar '%') "logging.PercentStyle" basicFormat,
          styleEntry (.scalar '\x7b') "logging.StrFormatStyle"
            "\x7blevelname\x7d:\x7bname\x7d:\x7bmessage\x7d",
          styleEntry (.scalar '$') "logging.StringTemplateStyle"
            "$\x7blevelname\x7d:$\x7bname\x7d:$\x7bmessage\x7d"
        ]
      ++ [.scalar '\x7d']

/-- The number of a level given by name. -/
def ofName (name : Text) : Except Fault Nat :=
  let name := name.flatMap upper
  match levels.lookup name with
  | some n => .ok n
  | none =>
    if name = "BASIC_FORMAT" then .error .recordFormat
    else if name = "_STYLES" then .error .styleTable
    else .ok 20

/-- How records are laid out. -/
def format : Text := "%(asctime)s %(levelname)s %(name)s %(message)s"

end IssuerGate.Settings.LogLevel
