import CloudStub.Data.Moment
import CloudStub.Text.Ascii
import CloudStub.Text.Cut

/-!
# Logging

The program logs what it does.  A filter says which lines are shown: a list of directives, each of
which sets the most detailed level for a group of targets.

## Main Definitions

- `Level`, `LogLine`: a line of the log
- `Directive`: one directive
- `LogFilter`: several directives
- `LogFilter.ofText?`, `LogFilter.ofValidParts`: reading a filter strictly, or without its
  malformed directives
- `LogFilter.shows`: whether a line is shown

## Design Notes

A directive for targets counts for every target that begins with its text, and of several such
directives the longest counts.  Directives about spans are read and have no effect here.
-/

namespace CloudStub.CommandLine

/-- The level of a line. -/
inductive Level where
  /-- A failure. -/
  | error
  /-- Something that may be wrong. -/
  | warn
  /-- What the program does. -/
  | info
  deriving DecidableEq, Repr

/-- How much detail a level stands for. -/
def Level.detail : Level → Nat
  | error => 1
  | warn => 2
  | info => 3

/-- The name of a level. -/
def Level.name : Level → String
  | error => "ERROR"
  | warn => "WARN"
  | info => "INFO"

/-- A line of the log. -/
structure LogLine where
  /-- The level. -/
  level : Level
  /-- The text. -/
  message : String
  deriving DecidableEq, Repr

/-- The line behind its level. -/
def LogLine.text (l : LogLine) : String := l.level.name ++ " " ++ l.message

/-- The level in a field of five characters. -/
def Level.padded (l : Level) : String :=
  String.ofList (List.replicate (5 - l.name.length) ' ') ++ l.name

/-- The target of the program's lines. -/
def target : String := "cloudmock"

/-- The line as it is written at a moment and some microseconds. -/
def LogLine.written (l : LogLine) (m : Moment) (micros : Nat) : String :=
  m.dayText ++ "T" ++ m.clockText ++ "." ++ Moment.padded 6 micros ++ "Z " ++ l.level.padded ++
    " " ++ target ++ ": " ++ l.message

/-- A directive. -/
structure Directive where
  /-- The beginning of the targets that it is about. -/
  target : String
  /-- The most detail that is shown, or none for a directive about spans. -/
  detail : Option Nat
  deriving DecidableEq, Repr

namespace Directive

/-- The names of levels, from no detail to most. -/
def names : List String := ["off", "error", "warn", "info", "debug", "trace"]

/-- The most detail that there is. -/
def most : Nat := 5

/-- The number that digits spell, which may have a plus sign. -/
def number? (cs : List Char) : Option Nat :=
  let digits :=
    match cs with
    | '+' :: rest => rest
    | cs => cs
  if digits.isEmpty || !digits.all Char.isDigit then none else some (Ascii.decimalValue digits)

/-- The detail that a name or number of a level stands for. -/
def detail? (cs : List Char) : Option Nat :=
  match number? cs with
  | some n => if n ≤ most then some n else none
  | none => names.findIdx? fun name => Ascii.eqIgnoreCase name (String.ofList cs)

/-- Whether a directive may begin with a character. -/
def isStart (c : Char) : Bool := c == '-' || c == ':' || c == '_' || Unicode.isAlphanumeric c

/-- Reads a directive: a level, a target, or a target and a level. -/
def ofText? (text : List Char) : Option Directive :=
  let cs := Cut.trim text
  match cs with
  | [] => none
  | c :: _ =>
    if c = '[' then (if cs.contains ']' then some ⟨"", none⟩ else none)
    else if !isStart c then none
    else
      let front := cs.takeWhile fun c => c != '=' && c != '['
      match cs.dropWhile fun c => c != '=' && c != '[' with
      | [] =>
        match detail? cs with
        | some n => some ⟨"", some n⟩
        | none => some ⟨String.ofList cs, some most⟩
      | '=' :: [] => some ⟨String.ofList front, some most⟩
      | '=' :: level => (detail? level).map fun n => ⟨String.ofList front, some n⟩
      | rest => if rest.contains ']' then some ⟨String.ofList front, none⟩ else none

end Directive

/-- Directives, of which the later ones count where two are about the same targets. -/
structure LogFilter where
  /-- The directives in order. -/
  directives : List Directive
  deriving DecidableEq, Repr

namespace LogFilter

/-- The texts of the directives in a filter. -/
def parts (text : String) : List (List Char) :=
  (Cut.fields ',' text.toList).filter fun part => !part.isEmpty

/-- The filter of some directives.  Without directives only failures are shown. -/
def ofDirectives (ds : List Directive) : LogFilter := if ds.isEmpty then ⟨[⟨"", some 1⟩]⟩ else ⟨ds⟩

/-- Reads a filter, if all its directives can be read. -/
def ofText? (text : String) : Option LogFilter :=
  ((parts text).mapM Directive.ofText?).map ofDirectives

/-- Reads a filter and leaves out the directives that cannot be read. -/
def ofValidParts (text : String) : LogFilter :=
  ofDirectives ((parts text).filterMap Directive.ofText?)

/-- The longer target's detail; of two directives about the same targets the later one. -/
def prefer (best : Option (Nat × Nat)) (d : Directive) : Option (Nat × Nat) :=
  match d.detail with
  | none => best
  | some n =>
    if d.target.toList.isPrefixOf target.toList &&
        best.all fun b => b.1 ≤ d.target.length then
      some (d.target.length, n)
    else best

/-- The most detail that is shown of the program's lines. -/
def detail (f : LogFilter) : Nat :=
  match f.directives.foldl prefer none with
  | some best => best.2
  | none => 0

/-- Whether a line is shown. -/
def shows (f : LogFilter) (l : LogLine) : Bool := l.level.detail ≤ f.detail

end LogFilter

end CloudStub.CommandLine
