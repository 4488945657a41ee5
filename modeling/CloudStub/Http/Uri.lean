import CloudStub.Text.Ascii
import CloudStub.Text.Cut

/-!
# Request targets

A request names its resource in one of four forms: a path with an optional query, an authority
alone, an asterisk, or all of scheme, authority, path and query.

## Main Definitions

- `Http.Authority`: the checks on an authority, and the host it names
- `Http.Uri`: a request target
- `Uri.ofText?`: reads a target
- `Uri.text`: the written form
- `Uri.within`: a target completed by a scheme and an authority

## Design Notes

A fragment is dropped without being looked at.  An empty path behind an authority stays empty in
the value and reads as `/` wherever it is shown or asked for.
-/

namespace CloudStub.Http

namespace Authority

/-- The characters of an authority, delimiters included, apart from the percent sign. -/
def isChar (c : Char) : Bool :=
  Unicode.isAsciiLetter c || Unicode.isAsciiDigit c ||
  ['!', '$', '&', '\x27', '(', ')', '*', '+', ',', '-', '.', ':', ';', '=', '@', '[', ']', '_',
    '~'].contains c

/-- What a check of an authority remembers. -/
structure Scan where
  /-- Colons since the last at sign or closing bracket. -/
  colons : Nat
  /-- Whether a bracket was opened. -/
  opened : Bool
  /-- Whether a bracket was closed. -/
  closed : Bool
  /-- Whether a percent sign stands since the last at sign or closing bracket. -/
  percent : Bool
  deriving DecidableEq, Repr

/-- The check of one more character. -/
def Scan.step (s : Scan) (c : Char) : Option Scan :=
  if c == ':' then if s.colons ≥ 8 then none else some { s with colons := s.colons + 1 }
  else if c == '[' then if s.percent || s.opened then none else some { s with opened := true }
  else if c == ']' then
    if !s.opened || s.closed then none
    else some { s with closed := true, colons := 0, percent := false }
  else if c == '@' then some { s with colons := 0, percent := false }
  else if c == '%' then some { s with percent := true }
  else if isChar c then some s
  else none

/-- Whether a text may be an authority: known characters, at most one pair of brackets, at most
one colon in the host with its port, no percent sign in the host, and something behind the
last at sign. -/
def isValid (cs : List Char) : Bool :=
  match cs.foldlM Scan.step ⟨0, false, false, false⟩ with
  | none => false
  | some s =>
    s.opened == s.closed && s.colons ≤ 1 && !s.percent && cs.getLast? != some '@'

/-- The characters that end an authority. -/
def isEnd (c : Char) : Bool := c == '/' || c == '?' || c == '#'

/-- The host of an authority: behind the last at sign, a bracketed literal with its brackets or
else everything up to the port. -/
def host (authority : List Char) : List Char :=
  let cs := Cut.afterLast '@' authority
  match cs with
  | '[' :: _ => cs.takeWhile (· != ']') ++ [']']
  | _ => cs.takeWhile (· != ':')

end Authority

/-- A request target. -/
structure Uri where
  /-- The scheme, `http` and `https` in lower case. -/
  scheme : Option String
  /-- The authority. -/
  authority : Option String
  /-- The path as written. -/
  rawPath : String
  /-- The query, without its question mark. -/
  query : Option String
  deriving DecidableEq, Repr

namespace Uri

/-- The path of the site's root. -/
def root : Uri := ⟨none, none, "/", none⟩

instance : Inhabited Uri := ⟨root⟩

/-- The characters of a path. -/
def isPathChar (c : Char) : Bool :=
  c.toNat ≥ 127 || (c.toNat > 32 && c != '<' && c != '>' && c != '#' && c != '?')

/-- The characters of a query. -/
def isQueryChar (c : Char) : Bool :=
  c.toNat ≥ 127 || (c.toNat > 32 && c != '"' && c != '#' && c != '<' && c != '>')

/-- Whether a character begins a query or a fragment. -/
def endsPath (c : Char) : Bool := c == '?' || c == '#'

/-- Reads a path with an optional query and an optional fragment. -/
def pathAndQuery? (cs : List Char) : Option (List Char × Option (List Char)) :=
  let path := cs.takeWhile fun c => !endsPath c
  if !path.all isPathChar then none
  else
    match cs.dropWhile fun c => !endsPath c with
    | '?' :: rest =>
      let query := rest.takeWhile (· != '#')
      if query.all isQueryChar then some (path, some query) else none
    | _ => some (path, none)

/-- The characters of a scheme. -/
def isSchemeChar (c : Char) : Bool :=
  Unicode.isAsciiLetter c || Unicode.isAsciiDigit c || c == '+' || c == '-' || c == '.' || c == '~'

/-- The scheme in front of a double slash, and what follows. -/
def scheme? (cs : List Char) : Option (List Char × List Char) :=
  match cs.dropWhile isSchemeChar with
  | ':' :: '/' :: '/' :: rest => some (cs.takeWhile isSchemeChar, rest)
  | _ => none

/-- The longest scheme that is read. -/
def schemeLimit : Nat := 64

/-- A scheme in the case in which it is kept. -/
def schemeName (cs : List Char) : String :=
  let lower := String.ofList (cs.map Ascii.lower)
  if lower == "http" || lower == "https" then lower else String.ofList cs

/-- An authority alone. -/
def authorityForm? (cs : List Char) : Option Uri :=
  if Authority.isValid cs then
    some ⟨none, some (String.ofList cs), "", none⟩
  else none

/-- A scheme and what follows its double slash. -/
def absoluteForm? (scheme rest : List Char) : Option Uri :=
  let authority := rest.takeWhile fun c => !Authority.isEnd c
  if scheme.length > schemeLimit || authority.isEmpty || !Authority.isValid authority then none
  else
    (pathAndQuery? (rest.dropWhile fun c => !Authority.isEnd c)).map fun pq =>
      ⟨some (schemeName scheme), some (String.ofList authority), String.ofList pq.1,
        pq.2.map String.ofList⟩

/-- A path with an optional query. -/
def originForm? (cs : List Char) : Option Uri :=
  (pathAndQuery? cs).map fun pq => ⟨none, none, String.ofList pq.1, pq.2.map String.ofList⟩

/-- The most bytes a target may have. -/
def sizeLimit : Nat := 65534

/-- Reads a target. -/
def ofText? (s : String) : Option Uri :=
  if s.utf8ByteSize > sizeLimit then none
  else
    match s.toList with
    | [] => none
    | ['*'] => some ⟨none, none, "*", none⟩
    | '/' :: rest => originForm? ('/' :: rest)
    | cs =>
      match scheme? cs with
      | some (scheme, rest) => absoluteForm? scheme rest
      | none => authorityForm? cs

/-- The path: empty for an authority alone, and never empty otherwise. -/
def path (u : Uri) : String :=
  if u.rawPath.isEmpty && u.scheme.isSome then "/" else u.rawPath

/-- The host that the authority names. -/
def host? (u : Uri) : Option String :=
  u.authority.map fun a => String.ofList (Authority.host a.toList)

/-- The path with the query, as far as the target has them. -/
def pathAndQuery (u : Uri) : String :=
  u.path ++ match u.query with
    | some q => "?" ++ q
    | none => ""

/-- The written form. -/
def text (u : Uri) : String :=
  (match u.scheme with
    | some s => s ++ "://"
    | none => "") ++ u.authority.getD "" ++ u.pathAndQuery

/-- Whether the target names both scheme and authority. -/
def isAbsolute (u : Uri) : Bool := u.scheme.isSome && u.authority.isSome

/-- A target completed by a scheme and an authority.  An authority alone has no path of its own,
so the path of the root stands in. -/
def within (u : Uri) (scheme authority : String) : Uri :=
  if u.authority.isSome && u.scheme.isNone then ⟨some scheme, some authority, "/", none⟩
  else ⟨some scheme, some authority, u.rawPath, u.query⟩

end Uri

end CloudStub.Http
