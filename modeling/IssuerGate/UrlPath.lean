import IssuerGate.Text.CodePoint

/-!
Decoded paths, and how they stand in an address.
-/

namespace IssuerGate.UrlPath

/-- A code point of a path. One that would end the path or that may be taken for a slash is written
as a percent sign and its number. -/
def escapePoint (c : CodePoint) : Text :=
  if c = .scalar '?' then "%3F"
  else if c = .scalar '#' then "%23"
  else if c = .scalar '\\' then "%5C"
  else [c]

def escape (path : Text) : Text := path.flatMap escapePoint

/-- A path behind the name of a host starts with a slash, unless it is empty. -/
def rooted : Text → Text
  | [] => []
  | c :: rest => if c = .scalar '/' then c :: rest else .scalar '/' :: c :: rest

/-- Tabs and line breaks are passed over where an address is read. -/
def isPassedOver (c : CodePoint) : Bool :=
  c == .scalar '\t' || c == .scalar '\n' || c == .scalar '\r'

/-- The path that is found in the address of a decoded path. -/
def inAddress (path : Text) : Text := (rooted (escape path)).filter fun c => !isPassedOver c

end IssuerGate.UrlPath
