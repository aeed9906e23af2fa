/-!
# URIs

The target of a request is a path with a query, an absolute URI, or the name of a host. Only the
path and the query are kept; a fragment is dropped.

* `Uri`: path and query. A target that names a host alone has the empty path.
* `isPathChar`, `isQueryChar`, `isAuthorityChar`, `isSchemeChar`: what may stand where.
* `authorityEnd?`: the host of a target, with user and port, up to where the path begins.
* **`Uri.parse?`**: the URI of a text.
-/

namespace Folio.Http

/-- Path and query. -/
structure Uri where
  path : String
  query : Option String := none
  deriving DecidableEq, Inhabited, Repr

/-! ## Characters -/

/-- Characters that may stand in a path as they are. -/
def isPathChar (c : Char) : Bool :=
  let n := c.toNat
  n == 0x21 || n == 0x22 || (0x24 ≤ n && n ≤ 0x3B) || n == 0x3D || (0x40 ≤ n && n ≤ 0x5F) ||
    (0x61 ≤ n && n ≠ 0x7F)

/-- Characters that may stand in a query as they are. -/
def isQueryChar (c : Char) : Bool :=
  let n := c.toNat
  n == 0x21 || (0x24 ≤ n && n ≤ 0x3B) || n == 0x3D || (0x3F ≤ n && n ≠ 0x7F)

/-- Characters that may stand in the name of a host, its user or its port. -/
def isAuthorityChar (c : Char) : Bool :=
  c.isAlphanum || "!$&'()*+,-.:;=@[]_~".toList.contains c

/-- Characters that may stand in the name of a scheme. -/
def isSchemeChar (c : Char) : Bool :=
  c.isAlphanum || "+-.~".toList.contains c

/-! ## Path and query -/

/-- Does the character end a path? -/
def endsPath (c : Char) : Bool :=
  c == '?' || c == '#'

/-- The query after a path. -/
def readQuery? : List Char → Option (Option String)
  | '?' :: rest =>
    let query := rest.takeWhile (· != '#')
    if query.all isQueryChar then some (some (String.ofList query)) else none
  | _ => some none

/-- Path and query; the empty path is the root. -/
def readPath? (cs : List Char) : Option Uri :=
  let path := cs.takeWhile fun c => !endsPath c
  if path.all isPathChar then
    (readQuery? (cs.drop path.length)).map fun query =>
      { path := if path.isEmpty then "/" else String.ofList path, query := query }
  else none

/-! ## Hosts -/

/-- What has been seen of a host. -/
structure AuthorityScan where
  /-- Colons since the user or the bracketed address. -/
  colons : Nat := 0
  opened : Bool := false
  closed : Bool := false
  /-- A per cent sign since the user or the bracketed address. -/
  percent : Bool := false
  /-- The last character ended the user. -/
  atSign : Bool := false

/-- No host has more colons than this in a row. -/
def maxColons : Nat := 8

/-- One character of a host. -/
def AuthorityScan.step (scan : AuthorityScan) (c : Char) : Option AuthorityScan :=
  let scan := { scan with atSign := false }
  if c == ':' then
    if scan.colons ≥ maxColons then none else some { scan with colons := scan.colons + 1 }
  else if c == '[' then
    if scan.percent || scan.opened then none else some { scan with opened := true }
  else if c == ']' then
    if !scan.opened || scan.closed then none
    else some { scan with closed := true, colons := 0, percent := false }
  else if c == '@' then some { scan with colons := 0, percent := false, atSign := true }
  else if c == '%' then some { scan with percent := true }
  else if isAuthorityChar c then some scan
  else none

/-- Is the host well formed? -/
def AuthorityScan.accepts (scan : AuthorityScan) : Bool :=
  scan.opened == scan.closed && scan.colons ≤ 1 && !scan.atSign && !scan.percent

/-- Where the host at the beginning of a text ends. -/
def authorityEnd? (cs : List Char) : Option Nat :=
  let host := cs.takeWhile fun c => c != '/' && !endsPath c
  match host.foldlM AuthorityScan.step {} with
  | none => none
  | some scan => if scan.accepts then some host.length else none

/-! ## URIs -/

/-- A scheme has at most this many characters. -/
def maxScheme : Nat := 64

/-- A URI has at most this many bytes. -/
def maxUriBytes : Nat := 65534

/-- What follows a scheme; the text itself if it begins with none. The answer tells whether there is
one. -/
def dropScheme? (cs : List Char) : Option (Bool × List Char) :=
  let scheme := cs.takeWhile isSchemeChar
  match cs.drop scheme.length with
  | ':' :: '/' :: '/' :: rest => if scheme.length > maxScheme then none else some (true, rest)
  | _ => some (false, cs)

/-- **The URI of a text.** -/
def Uri.parse? (text : String) : Option Uri :=
  if text.utf8ByteSize > maxUriBytes then none
  else
    match text.toList with
    | [] => none
    | ['*'] => some { path := "*" }
    | '/' :: rest => readPath? ('/' :: rest)
    | cs =>
      match dropScheme? cs with
      | none => none
      | some (hasScheme, rest) =>
        match authorityEnd? rest with
        | none => none
        | some n =>
          if hasScheme then if n = 0 then none else readPath? (rest.drop n)
          else if n = rest.length then some { path := "" }
          else none

end Folio.Http
