import IssuerGate.Calendar
import IssuerGate.Issuer.Record
import IssuerGate.Log

/-!
Issuers in a file of lines, one JSON object each.

Reading skips blank lines and reports and skips the lines that hold no record. A file that is not
UTF-8 is not read at all, and neither a record that UTF-8 cannot carry is written nor one that is
nested too deep: then the file stays as it was.
-/

namespace IssuerGate.Issuer

/-- The content of a file: text in UTF-8, or bytes that are none. -/
inductive Content where
  | text (chars : List Char)
  | undecodable (bytes : Bytes)
deriving DecidableEq, Repr

/-- Bytes as text if they are UTF-8. -/
def Content.ofBytes (bs : Bytes) : Content :=
  match Utf8.chars? bs with
  | some cs => text cs
  | none => undecodable bs

def Content.bytes : Content → Bytes
  | text cs => Utf8.encode (Text.ofChars cs)
  | undecodable bs => bs

/-- A file that may be absent. -/
structure File where
  path : Text
  content : Option Content
deriving Repr

namespace File

/-- The file with bytes added at its end. -/
def append (f : File) (bs : Bytes) : File :=
  { f with content := some (.ofBytes ((f.content.map (·.bytes)).getD [] ++ bs)) }

/-- The lines of a text. A line ends with a line feed, a carriage return or both. -/
def lines : List Char → List (List Char)
  | [] => []
  | '\r' :: '\n' :: rest => [] :: lines rest
  | c :: rest =>
    if c = '\n' ∨ c = '\r' then [] :: lines rest
    else
      match lines rest with
      | [] => [[c]]
      | l :: ls => (c :: l) :: ls

/-- How much nesting is borne where a file is read: arrays and objects inside each other; and where
it is written: room for what a field holds. Whoever has more to do around it bears less. -/
structure Bounds where
  depth : Nat
  room : Nat := 0
deriving DecidableEq, Repr

/-- Reading all that there is. -/
def Bounds.all : Bounds := ⟨989, 0⟩

/-- Looking for a record. -/
def Bounds.search : Bounds := ⟨988, 0⟩

/-- Looking for a record to change. -/
def Bounds.change : Bounds := ⟨988, 990⟩

/-- Adding a record. -/
def Bounds.add : Bounds := ⟨987, 989⟩

/-- What a line holds. -/
inductive Line where
  | blank
  | record (r : Record)
  | malformed
  | tooDeep (opening : CodePoint)

/-- A line holds what stands between the white space at its ends. -/
def readLine (depth : Nat) (createdAt : Text) (l : List Char) : Line :=
  let t := (Text.ofChars l).strip
  if t = [] then .blank
  else
    match Json.read depth t with
    | .error (.tooDeep c) => .tooDeep c
    | .error _ => .malformed
    | .ok v =>
      match Record.ofJson? createdAt v with
      | some r => .record r
      | none => .malformed

/-- Why a file is not read. -/
inductive Fault where
  | undecodable
  | tooDeep (opening : CodePoint)
deriving DecidableEq, Repr

/-- The report of a line that is skipped. -/
def skipped (path : Text) (number : Nat) : Log :=
  Log.warning
    ["Skipping malformed issuer record at ", path, ":", Text.ofNat number]

/-- Reads lines from a number on. -/
def readLines (depth : Nat) (path createdAt : Text) :
    Nat → List (List Char) → Log × Except Fault (List Record)
  | _, [] => ([], .ok [])
  | n, l :: ls =>
    match readLine depth createdAt l with
    | .tooDeep c => ([], .error (.tooDeep c))
    | .blank => readLines depth path createdAt (n + 1) ls
    | .malformed =>
      let (log, rs) := readLines depth path createdAt (n + 1) ls
      (skipped path n ++ log, rs)
    | .record r =>
      let (log, rs) := readLines depth path createdAt (n + 1) ls
      (log, rs.map (r :: ·))

/-- The size of the portions in which a file is decoded. -/
def portion : Nat := 8192

/-- The characters of the first `n` bytes that are whole in them. -/
def charsWithin : Nat → Text → List Char
  | _, [] => []
  | n, c :: rest =>
    let size := (Utf8.encodePoint c).length
    if n < size then [] else c.char?.toList ++ charsWithin (n - size) rest

/-- The lines without the last one, which is still open. A carriage return at the very end closes
nothing yet, for a line feed may follow. -/
def closedLines (cs : List Char) : List (List Char) :=
  let settled := if cs.getLast? = some '\r' then cs.dropLast else cs
  (lines (settled ++ ['.'])).dropLast

/-- The lines that are read before a fault is met. A byte that is out of place spoils the portion it
stands in, and a sequence that breaks off shows at the end only. -/
def linesBefore (bs : Bytes) : List (List Char) :=
  let d := Utf8.decode false bs
  match d.fault with
  | some (.invalid offset) => closedLines (charsWithin (offset / portion * portion) d.text)
  | _ => closedLines (d.text.filterMap CodePoint.char?)

/-- All records, in order. -/
def records (f : File) (b : Bounds) (now : Calendar.Instant) : Log × Except Fault (List Record) :=
  let createdAt := Calendar.textUtc now
  match f.content with
  | none => ([], .ok [])
  | some (.text cs) => readLines b.depth f.path createdAt 1 (lines cs)
  -- lines before the fault are still reported
  | some (.undecodable bs) =>
    match readLines b.depth f.path createdAt 1 (linesBefore bs) with
    | (log, .ok _) => (log, .error .undecodable)
    | (log, .error e) => (log, .error e)

/-- The text of records, if all of them can be written. -/
def contentOf (b : Bounds) (rs : List Record) : Except Record.WriteFault Content :=
  (rs.mapM (Record.lineChars b.room)).map fun ls => .text ls.flatten

/-- The file with these records instead of its content, if they can be written. -/
def write (f : File) (b : Bounds) (rs : List Record) : Except Record.WriteFault File :=
  (contentOf b rs).map fun c => { f with content := some c }

end File

end IssuerGate.Issuer
