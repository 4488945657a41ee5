import CloudStub.Text.Ascii
import CloudStub.Text.Cut

/-!
# Network addresses

The textual forms of IP addresses and of addresses with a port, read strictly: decimal parts
without leading zeros, at most one gap of zeros, no blanks.

## Main Definitions

- `Http.IpAddress`: an address of either family
- `IpAddress.ofText?`, `IpAddress.text`, `IpAddress.bytes`: reading, writing, and the octets
- `Http.SocketAddress`: an address with a port
- `Http.readPort?`: a port number
-/

namespace CloudStub.Http

/-- The value of a nonempty sequence of decimal digits. -/
def decimal? (cs : List Char) : Option Nat :=
  if cs.isEmpty || !cs.all Char.isDigit then none
  else some (Ascii.decimalValue cs)

/-- A port number, which may be written with a plus sign. -/
def readPort? (cs : List Char) : Option Nat :=
  let digits :=
    match cs with
    | '+' :: rest => rest
    | cs => cs
  (decimal? digits).bind fun n => if n < 65536 then some n else none

/-- An IP address. -/
inductive IpAddress where
  /-- The four octets of a version 4 address. -/
  | v4 (a b c d : Nat)
  /-- The eight words of a version 6 address. -/
  | v6 (words : List Nat)
  deriving DecidableEq, Repr

namespace IpAddress

/-- One part of a version 4 address: up to three digits without a leading zero. -/
def octet? (cs : List Char) : Option Nat :=
  if cs.length > 3 || (cs.length > 1 && cs.head? == some '0') then none
  else (decimal? cs).bind fun n => if n < 256 then some n else none

/-- A version 4 address. -/
def v4? (cs : List Char) : Option IpAddress :=
  match (Cut.fields '.' cs).mapM octet? with
  | some [a, b, c, d] => some (.v4 a b c d)
  | _ => none

/-- One word of a version 6 address: one to four hexadecimal digits. -/
def word? (cs : List Char) : Option Nat :=
  if cs.isEmpty || cs.length > 4 then none
  else (cs.mapM Ascii.hexDigit?).map fun ds => ds.foldl (fun n d => n * 16 + d) 0

/-- The words of the parts between colons.  The last part may be a version 4 address, which counts
as two words. -/
def words? : List (List Char) → Option (List Nat)
  | [] => some []
  | [part] =>
    match word? part with
    | some w => some [w]
    | none =>
      match v4? part with
      | some (.v4 a b c d) => some [a * 256 + b, c * 256 + d]
      | _ => none
  | part :: rest => do
    let w ← word? part
    let ws ← words? rest
    some (w :: ws)

/-- The words of a colon-separated text; none for the empty text. -/
def side? (cs : List Char) : Option (List Nat) :=
  if cs.isEmpty then some [] else words? (Cut.fields ':' cs)

/-- The parts before and behind the first double colon. -/
def gap? : List Char → Option (List Char × List Char)
  | ':' :: ':' :: rest => some ([], rest)
  | c :: rest => (gap? rest).map fun p => (c :: p.1, p.2)
  | [] => none

/-- Whether a text contains a dot. -/
def hasDot (cs : List Char) : Bool := cs.contains '.'

/-- A version 6 address: eight words, or fewer around one gap of zeros. -/
def v6? (cs : List Char) : Option IpAddress :=
  match gap? cs with
  | none =>
    match side? cs with
    | some ws => if ws.length = 8 then some (.v6 ws) else none
    | none => none
  | some (front, back) => do
    let before ← if hasDot front then none else side? front
    let behind ← side? back
    let missing := 8 - (before.length + behind.length)
    if before.length + behind.length ≤ 7 then
      some (.v6 (before ++ List.replicate missing 0 ++ behind))
    else none

/-- An address of either family. -/
def ofText? (s : String) : Option IpAddress := v4? s.toList <|> v6? s.toList

/-- The octets of an address. -/
def bytes : IpAddress → List Nat
  | .v4 a b c d => [a, b, c, d]
  | .v6 words => words.flatMap fun w => [w / 256, w % 256]

/-- The text of a version 4 address. -/
def v4Text (a b c d : Nat) : String :=
  ".".intercalate [toString a, toString b, toString c, toString d]

/-- A word in hexadecimal. -/
def wordText (w : Nat) : String := String.ofList (Nat.toDigits 16 w)

/-- The start and the length of the first longest run of zeros. -/
def longestZeros (words : List Nat) : Nat × Nat :=
  let lengths := words.zipIdx.map fun p => (p.2, ((words.drop p.2).takeWhile (· == 0)).length)
  lengths.foldl (fun best p => if p.2 > best.2 then p else best) (0, 0)

/-- The text of a version 6 address: the first longest run of at least two zeros becomes a gap,
and an embedded version 4 address is written as such. -/
def v6Text (words : List Nat) : String :=
  match words with
  | [0, 0, 0, 0, 0, 0xFFFF, g, h] =>
    "::ffff:" ++ v4Text (g / 256) (g % 256) (h / 256) (h % 256)
  | _ =>
    let (start, len) := longestZeros words
    let join := fun ws => ":".intercalate (ws.map wordText)
    if len > 1 then join (words.take start) ++ "::" ++ join (words.drop (start + len))
    else join words

/-- The text of an address. -/
def text : IpAddress → String
  | .v4 a b c d => v4Text a b c d
  | .v6 words => v6Text words

end IpAddress

/-- An address with a port. -/
structure SocketAddress where
  /-- The address. -/
  ip : IpAddress
  /-- The scope of a version 6 address, zero when there is none. -/
  scope : Nat
  /-- The port. -/
  port : Nat
  deriving DecidableEq, Repr

namespace SocketAddress

/-- A port behind a colon, in digits alone. -/
def port? (cs : List Char) : Option Nat :=
  (decimal? cs).bind fun n => if n < 65536 then some n else none

/-- The inside of the brackets: an address with an optional scope. -/
def scoped? (cs : List Char) : Option (IpAddress × Nat) :=
  match Cut.first? '%' cs with
  | none => (IpAddress.v6? cs).map fun ip => (ip, 0)
  | some (front, scope) => do
    let ip ← IpAddress.v6? front
    let n ← decimal? scope
    if n < Nat.pow 2 32 then some (ip, n) else none

/-- Reads an address with a port; a version 6 address stands in brackets. -/
def ofText? (s : String) : Option SocketAddress :=
  match s.toList with
  | '[' :: rest =>
    match Cut.first? ']' rest with
    | some (inside, ':' :: port) => do
      let (ip, scope) ← scoped? inside
      let p ← port? port
      some ⟨ip, scope, p⟩
    | _ => none
  | cs =>
    match Cut.last? ':' cs with
    | some (front, port) => do
      let ip ← IpAddress.v4? front
      let p ← port? port
      some ⟨ip, 0, p⟩
    | none => none

/-- The text of an address with its port. -/
def text (a : SocketAddress) : String :=
  match a.ip with
  | .v4 .. => a.ip.text ++ ":" ++ toString a.port
  | .v6 _ =>
    let scope := if a.scope = 0 then "" else "%" ++ toString a.scope
    "[" ++ a.ip.text ++ scope ++ "]:" ++ toString a.port

end SocketAddress

end CloudStub.Http
