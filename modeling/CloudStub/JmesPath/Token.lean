import CloudStub.Json.Outline
import CloudStub.Text.Cut

/-!
# Tokens of path expressions

A path expression is cut into tokens from left to right.  Blanks separate tokens and are dropped.
The content of quoted names and of literals is decoded here, so a token carries its value.

## Main Definitions

- `JmesPath.Token`: a token with its value
- `JmesPath.Token.power`: how strongly a token binds what stands on its left
- `JmesPath.PathError`: why a text is not a path expression
- `JmesPath.Token.scan`: the tokens of a text

## Design Notes

Numbers are only used as positions in arrays, so they must fit 32 bits.  A number that does not fit
is an error of its own.
-/

namespace CloudStub.JmesPath

/-- Why a text is not a path expression. -/
inductive PathError where
  /-- The text is blank. -/
  | empty
  /-- The text does not follow the grammar. -/
  | malformed
  /-- A number does not fit 32 bits. -/
  | numberOutOfRange
  deriving DecidableEq, Repr

/-- The comparisons. -/
inductive Comparison where
  /-- Equal. -/
  | eq
  /-- Not equal. -/
  | ne
  /-- Less. -/
  | lt
  /-- Less or equal. -/
  | le
  /-- Greater. -/
  | gt
  /-- Greater or equal. -/
  | ge
  deriving DecidableEq, Repr

/-- A token with its value. -/
inductive Token where
  /-- A name without quotes. -/
  | name (s : String)
  /-- A name in double quotes. -/
  | quotedName (s : String)
  /-- A number. -/
  | number (i : Int)
  /-- A literal value. -/
  | literal (v : Json)
  /-- The dot. -/
  | dot
  /-- The asterisk. -/
  | star
  /-- An empty pair of brackets. -/
  | flatten
  /-- The double ampersand. -/
  | and
  /-- The double bar. -/
  | or
  /-- The single bar. -/
  | pipe
  /-- A bracket with a question mark. -/
  | filter
  /-- The opening bracket. -/
  | openBracket
  /-- The closing bracket. -/
  | closeBracket
  /-- The comma. -/
  | comma
  /-- The colon. -/
  | colon
  /-- The exclamation mark. -/
  | not
  /-- A comparison. -/
  | compare (c : Comparison)
  /-- The at sign. -/
  | current
  /-- The single ampersand. -/
  | ampersand
  /-- The opening parenthesis. -/
  | openParen
  /-- The closing parenthesis. -/
  | closeParen
  /-- The opening brace. -/
  | openBrace
  /-- The closing brace. -/
  | closeBrace
  deriving BEq

namespace Token

/-- How strongly a token binds what stands on its left; zero when it cannot follow an
expression. -/
def power : Token → Nat
  | .pipe => 1
  | .or => 2
  | .and => 3
  | .compare _ => 5
  | .flatten => 9
  | .star => 20
  | .filter => 21
  | .dot => 40
  | .not => 45
  | .openBrace => 50
  | .openBracket => 55
  | .openParen => 60
  | _ => 0

/-- The characters that may begin a name. -/
def isNameStart (c : Char) : Bool := Unicode.isAsciiLetter c || c == '_'

/-- The characters that may follow in a name. -/
def isNameChar (c : Char) : Bool := isNameStart c || Unicode.isAsciiDigit c

/-- The blanks between tokens. -/
def isBlank (c : Char) : Bool := c == ' ' || c == '\n' || c == '\t' || c == '\r'

/-- The largest number. -/
def numberLimit : Nat := Nat.pow 2 31 - 1

/-- The number that digits spell. -/
def numberOf (negative : Bool) (digits : List Char) : Except PathError Token :=
  let n := Ascii.decimalValue digits
  if n ≤ numberLimit then .ok (.number (if negative then -n else n))
  else .error .numberOutOfRange

/-- The text up to a closing quote, and what follows it.  A character behind a backslash never
closes; the backslash stays in the text. -/
def quoted (quote : Char) : List Char → Option (List Char × List Char)
  | [] => none
  | '\\' :: c :: rest => (quoted quote rest).map fun p => ('\\' :: c :: p.1, p.2)
  | c :: rest =>
    if c = quote then some ([], rest) else (quoted quote rest).map fun p => (c :: p.1, p.2)

theorem length_quoted_lt {quote : Char} {cs : List Char} {p : List Char × List Char}
    (h : quoted quote cs = some p) : p.2.length < cs.length := by
  fun_induction quoted quote cs generalizing p with
  | case1 => simp at h
  | case2 c rest ih =>
    obtain ⟨q, hq, rfl⟩ := Option.map_eq_some_iff.1 h
    have := ih hq
    simp
    omega
  | case3 rest =>
    simp only [Option.some.injEq] at h
    subst h
    simp
  | case4 c rest _ _ ih =>
    obtain ⟨q, hq, rfl⟩ := Option.map_eq_some_iff.1 h
    have := ih hq
    simp
    omega

/-- The name between double quotes, which is spelled like a JSON string. -/
def quotedNameOf (content : List Char) : Except PathError Token :=
  match Json.parse? (String.ofList ('"' :: content ++ ['"'])) with
  | some (.str s) => .ok (.quotedName s)
  | _ => .error .malformed

/-- The text between single quotes, in which a backslash keeps a quote from closing. -/
def rawText (content : List Char) : Token :=
  .literal (.str (Cut.replaceAll "\\\x27" "\x27" (String.ofList content)))

/-- The literal between grave accents, which is JSON. -/
def literalOf (content : List Char) : Except PathError Token :=
  match Json.parse? (Cut.replaceAll "\\\x60" "\x60" (String.ofList content)) with
  | some v => .ok (.literal v)
  | none => .error .malformed

/-- The token at the front of a text, when one or two characters make it up. -/
def mark? : List Char → Option (Token × List Char)
  | '[' :: ']' :: rest => some (.flatten, rest)
  | '[' :: '?' :: rest => some (.filter, rest)
  | '[' :: rest => some (.openBracket, rest)
  | '|' :: '|' :: rest => some (.or, rest)
  | '|' :: rest => some (.pipe, rest)
  | '&' :: '&' :: rest => some (.and, rest)
  | '&' :: rest => some (.ampersand, rest)
  | '>' :: '=' :: rest => some (.compare .ge, rest)
  | '>' :: rest => some (.compare .gt, rest)
  | '<' :: '=' :: rest => some (.compare .le, rest)
  | '<' :: rest => some (.compare .lt, rest)
  | '!' :: '=' :: rest => some (.compare .ne, rest)
  | '!' :: rest => some (.not, rest)
  | '=' :: '=' :: rest => some (.compare .eq, rest)
  | '.' :: rest => some (.dot, rest)
  | '*' :: rest => some (.star, rest)
  | '@' :: rest => some (.current, rest)
  | ']' :: rest => some (.closeBracket, rest)
  | '{' :: rest => some (.openBrace, rest)
  | '}' :: rest => some (.closeBrace, rest)
  | '(' :: rest => some (.openParen, rest)
  | ')' :: rest => some (.closeParen, rest)
  | ',' :: rest => some (.comma, rest)
  | ':' :: rest => some (.colon, rest)
  | _ => none

/-- What the front of a text holds. -/
inductive Front where
  /-- A token, and what follows it. -/
  | token (t : Token) (rest : List Char)
  /-- A blank. -/
  | blank (rest : List Char)
  /-- Something that is not a token. -/
  | fault (e : PathError)

/-- A token that may be faulty, and what follows it. -/
def Front.ofResult (t : Except PathError Token) (rest : List Char) : Front :=
  match t with
  | .ok t => .token t rest
  | .error e => .fault e

/-- A quoted token, decoded from its content. -/
def Front.ofQuoted (quote : Char) (decode : List Char → Except PathError Token)
    (cs : List Char) : Front :=
  match quoted quote cs with
  | some (content, rest) => .ofResult (decode content) rest
  | none => .fault .malformed

/-- The negative number behind a minus sign: its first digit is not zero. -/
def negative (cs : List Char) : Front :=
  match cs with
  | [] => .fault .malformed
  | c :: rest =>
    if c == '0' || !Unicode.isNumeric c then .fault .malformed
    else if !Unicode.isAsciiDigit c then .fault .numberOutOfRange
    else .ofResult (numberOf true (c :: rest.takeWhile Unicode.isAsciiDigit))
      (rest.dropWhile Unicode.isAsciiDigit)

/-- What the front of a nonempty text holds. -/
def front (c : Char) (rest : List Char) : Front :=
  if isBlank c then .blank rest
  else if isNameStart c then
    .token (.name (String.ofList (c :: rest.takeWhile isNameChar))) (rest.dropWhile isNameChar)
  else if Unicode.isAsciiDigit c then
    .ofResult (numberOf false (c :: rest.takeWhile Unicode.isAsciiDigit))
      (rest.dropWhile Unicode.isAsciiDigit)
  else if c == '-' then negative rest
  else if c == '"' then .ofQuoted '"' quotedNameOf rest
  else if c == '\x27' then .ofQuoted '\x27' (fun content => .ok (rawText content)) rest
  else if c == '\x60' then .ofQuoted '\x60' literalOf rest
  else
    match mark? (c :: rest) with
    | some (t, rest) => .token t rest
    | none => .fault .malformed

/-- What the front of a text leaves. -/
def Front.rest? : Front → Option (List Char)
  | .token _ rest => some rest
  | .blank rest => some rest
  | .fault _ => none

theorem length_dropWhile_le (p : Char → Bool) (cs : List Char) :
    (cs.dropWhile p).length ≤ cs.length := (List.dropWhile_suffix p).length_le

theorem length_mark_lt {cs : List Char} {p : Token × List Char} (h : mark? cs = some p) :
    p.2.length < cs.length := by
  unfold mark? at h
  split at h <;> simp only [Option.some.injEq, reduceCtorEq] at h <;> subst h <;>
    simp only [List.length_cons] <;> omega

theorem rest_ofResult {t : Except PathError Token} {cs rest : List Char}
    (h : (Front.ofResult t cs).rest? = some rest) : rest = cs := by
  unfold Front.ofResult at h
  split at h <;> simp_all [Front.rest?]

theorem length_ofQuoted_lt {quote : Char} {decode : List Char → Except PathError Token}
    {cs rest : List Char} (h : (Front.ofQuoted quote decode cs).rest? = some rest) :
    rest.length < cs.length := by
  unfold Front.ofQuoted at h
  split at h
  · rename_i content r hq
    rw [rest_ofResult h]
    exact length_quoted_lt hq
  · simp [Front.rest?] at h

theorem length_negative_le {cs rest : List Char} (h : (negative cs).rest? = some rest) :
    rest.length ≤ cs.length := by
  unfold negative at h
  split at h
  · simp [Front.rest?] at h
  · rename_i c r
    split at h
    · simp [Front.rest?] at h
    · split at h
      · simp [Front.rest?] at h
      · rw [rest_ofResult h]
        exact Nat.le_succ_of_le (length_dropWhile_le _ r)

theorem length_front_lt {c : Char} {cs rest : List Char} (h : (front c cs).rest? = some rest) :
    rest.length < (c :: cs).length := by
  rw [List.length_cons, Nat.lt_succ_iff]
  unfold front at h
  split at h
  · simp only [Front.rest?, Option.some.injEq] at h
    exact Nat.le_of_eq (congrArg List.length h.symm)
  · split at h
    · simp only [Front.rest?, Option.some.injEq] at h
      rw [← h]
      exact length_dropWhile_le _ cs
    · split at h
      · rw [rest_ofResult h]
        exact length_dropWhile_le _ cs
      · split at h
        · exact length_negative_le h
        · split at h
          · exact Nat.le_of_lt (length_ofQuoted_lt h)
          · split at h
            · exact Nat.le_of_lt (length_ofQuoted_lt h)
            · split at h
              · exact Nat.le_of_lt (length_ofQuoted_lt h)
              · split at h
                · rename_i t r hm
                  simp only [Front.rest?, Option.some.injEq] at h
                  have := length_mark_lt hm
                  simp only [List.length_cons] at this
                  rw [← h]
                  omega
                · simp [Front.rest?] at h

/-- The tokens of a text. -/
def scan : List Char → Except PathError (List Token)
  | [] => .ok []
  | c :: cs =>
    match _h : front c cs with
    | .token t rest => do
      let more ← scan rest
      .ok (t :: more)
    | .blank rest => scan rest
    | .fault e => .error e
termination_by cs => cs.length
decreasing_by
  · exact length_front_lt (by rw [_h]; rfl)
  · exact length_front_lt (by rw [_h]; rfl)

end Token

end CloudStub.JmesPath
