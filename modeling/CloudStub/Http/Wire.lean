import CloudStub.Http.Address
import CloudStub.Http.Stamp

/-!
# Messages on a connection

A connection carries requests and responses as bytes, one after another.  The head of a message
ends with an empty line.  The body of a request is as long as its fields say: a number of bytes,
or chunks that each begin with their size; without either there is none.

## Main Definitions

- `Wire.Front`: what the bytes at the front of a connection are
- `Wire.read`: reads the first request of some bytes
- `Wire.write`: the bytes of a response
- `Wire.staysOpen`: whether a connection goes on behind a response

## Design Notes

Bytes arrive in pieces, so that a request may still be incomplete.  Reading starts again at the
front when more have arrived.
-/

namespace CloudStub.Http.Wire

/-- A request with what the connection has to know about it. -/
structure Arrival where
  /-- The request. -/
  request : Request
  /-- Whether the client can take further responses on the connection. -/
  reusable : Bool
  /-- The bytes behind the request. -/
  rest : Bytes

/-- What the bytes at the front of a connection are. -/
inductive Front where
  /-- The beginning of a request. -/
  | incomplete
  /-- No request. -/
  | malformed
  /-- A request. -/
  | request (a : Arrival)

/-- The first line and what follows it. -/
def line? : Bytes → Option (Bytes × Bytes)
  | [] => none
  | 10 :: rest => some ([], rest)
  | 13 :: 10 :: rest => some ([], rest)
  | b :: rest => (line? rest).map fun p => (b :: p.1, p.2)

/-- The lines up to an empty one, and what follows that one, given the bytes of the open line
from its end. -/
def head? (line : Bytes) : Bytes → Option (List Bytes × Bytes)
  | [] => none
  | 10 :: rest => ended rest
  | 13 :: 10 :: rest => ended rest
  | b :: rest => head? (b :: line) rest
where
  /-- The line is at its end. -/
  ended (rest : Bytes) : Option (List Bytes × Bytes) :=
    if line.isEmpty then some ([], rest)
    else (head? [] rest).map fun p => (line.reverse :: p.1, p.2)

/-- A blank of a field. -/
def isBlank (b : UInt8) : Bool := b == 32 || b == 9

/-- Without the blanks at both ends. -/
def trim (bs : Bytes) : Bytes :=
  ((bs.dropWhile isBlank).reverse.dropWhile isBlank).reverse

/-- The field of a line. -/
def field? (line : Bytes) : Option (String × Bytes) := do
  let name ← fieldName? (line.takeWhile (· != 58))
  match line.dropWhile (· != 58) with
  | [] => none
  | _ :: value => if isFieldValue value then some (name, trim value) else none

/-- The first line of a request: the method, the target, and whether the version of the protocol
keeps connections open. -/
def start? (line : Bytes) : Option (Method × Uri × Bool) :=
  match Bytes.split 32 line with
  | [method, target, version] => do
    let method ← Method.ofBytes? method
    let uri ← (Utf8.decode? target).bind Uri.ofText?
    if version = Utf8.encode "HTTP/1.1" then some (method, uri, true)
    else if version = Utf8.encode "HTTP/1.0" then some (method, uri, false)
    else none
  | _ => none

/-- A field value in lower case. -/
def lowered (h : Headers Bytes) (name : String) : Option Bytes :=
  (h.first? name).map fun v => v.map Bytes.lower

/-- The size of a chunk, in front of any parameters. -/
def chunkSize? (line : Bytes) : Option Nat :=
  let digits := trim (line.takeWhile (· != 59))
  if digits.isEmpty then none
  else
    (digits.mapM fun b => Ascii.hexDigit? (Char.ofNat b.toNat)).map fun ds =>
      ds.foldl (fun n d => n * 16 + d) 0

/-- What the bytes behind a head are: the body and what follows it. -/
inductive BodyFront where
  /-- The beginning of a body. -/
  | incomplete
  /-- No body of the declared form. -/
  | malformed
  /-- A body. -/
  | body (contents rest : Bytes)

/-- Reads some number of chunks at most. -/
def chunks : Nat → Bytes → BodyFront
  | 0, _ => .malformed
  | fuel + 1, bs =>
    match line? bs with
    | none => .incomplete
    | some (line, bs) =>
      match chunkSize? line with
      | none => .malformed
      | some 0 =>
        match head? [] bs with
        | none => .incomplete
        | some (_, rest) => .body [] rest
      | some n =>
        if bs.length < n then .incomplete
        else
          match line? (bs.drop n) with
          | none => .incomplete
          | some ([], rest) =>
            match chunks fuel rest with
            | .body more rest => .body (bs.take n ++ more) rest
            | front => front
          | some _ => .malformed

/-- Reads the body that the fields of a request declare. -/
def readBody (h : Headers Bytes) (bs : Bytes) : BodyFront :=
  if lowered h "transfer-encoding" = some (Utf8.encode "chunked") then chunks (bs.length + 1) bs
  else
    match h.first? "content-length" with
    | none => .body [] bs
    | some digits =>
      match decimal? (digits.map fun b => Char.ofNat b.toNat) with
      | none => .malformed
      | some n => if bs.length < n then .incomplete else .body (bs.take n) (bs.drop n)

/-- Whether a client keeps a connection open, given what its version of the protocol does. -/
def isReusable (h : Headers Bytes) (byVersion : Bool) : Bool :=
  match lowered h "connection" with
  | some v =>
    if v = Utf8.encode "close" then false
    else byVersion || v = Utf8.encode "keep-alive"
  | none => byVersion

/-- Reads the first request of some bytes.  Empty lines in front of it are skipped. -/
def read (bs : Bytes) : Front :=
  match head? [] (bs.dropWhile fun b => b == 13 || b == 10) with
  | none => .incomplete
  | some ([], _) => .malformed
  | some (first :: lines, bs) =>
    match start? first, lines.mapM field? with
    | some (method, uri, byVersion), some fields =>
      let headers := fields.foldl (fun h f => h.append f.1 f.2) Headers.empty
      match readBody headers bs with
      | .incomplete => .incomplete
      | .malformed => .malformed
      | .body body rest =>
        .request ⟨⟨method, uri, headers, body⟩, isReusable headers byVersion, rest⟩
    | _, _ => .malformed

/-- Whether an answer to the method may have a body at this status. -/
def mayHaveBody (method : Method) (status : Nat) : Bool :=
  !(method.name == "HEAD" || method = Method.connect && status / 100 = 2 || status / 100 = 1 ||
    status = 204 || status = 304)

/-- Whether an answer to the method tells the length of its body at this status. -/
def tellsLength (method : Method) (status : Nat) : Bool :=
  !(method = Method.connect && status / 100 = 2 || status / 100 = 1 || status = 204)

/-- The header section of a response as it is written: with the length of the body, and with the
date. -/
def writtenHeaders (s : Stamp) (method : Method) (r : Response) : Headers Bytes :=
  let h := r.headers.map (·.stamped s)
  let h :=
    if tellsLength method r.status && !h.contains "content-length" then
      h.insert "content-length" (Utf8.encode (toString r.body.length))
    else h
  if h.contains "date" then h else h.insert "date" (Utf8.encode s.date)

/-- A line with its end. -/
def withEnd (line : Bytes) : Bytes := line ++ [13, 10]

/-- The bytes of the response to a request with the method. -/
def write (s : Stamp) (method : Method) (r : Response) : Bytes :=
  withEnd (Utf8.encode ("HTTP/1.1 " ++ statusText r.status)) ++
  (writtenHeaders s method r).toList.flatMap
    (fun f => withEnd (Utf8.encode (f.1 ++ ": ") ++ f.2)) ++
  withEnd [] ++
  (if mayHaveBody method r.status then r.body else [])

/-- Whether a connection goes on behind the response to a request. -/
def staysOpen (a : Arrival) (r : Response) : Bool :=
  a.reusable && r.headers.first? "connection" != some (.ofText "close")

end CloudStub.Http.Wire
