/-!
# Arguments

The arguments of the program: options with a long name, some with a letter too.  A value stands
behind an equals sign or in the next argument; an argument that begins with a dash is never taken
for a value.

## Main Definitions

- `Flag`: the options
- `UsageError`: what can be wrong with arguments
- `Arguments`: the chosen values
- `Arguments.parse`: reading

## Design Notes

An option whose value may be in the next argument stays pending until another option begins or
the arguments end, and only then is its value checked.  An unknown argument is reported before a
pending option is checked.
-/

namespace CloudStub.CommandLine

/-- An option. -/
inductive Flag where
  /-- The rule file. -/
  | rules
  /-- The address to listen on. -/
  | host
  /-- The port to listen on. -/
  | port
  /-- Detailed logging and traffic dumps. -/
  | debug
  /-- The level of logging. -/
  | logLevel
  /-- The directory of log files. -/
  | logDirectory
  /-- Unmatched requests do not fail the session. -/
  | allowUnmatched
  /-- Where the root certificate is written. -/
  | exportCertificate
  /-- Show the usage. -/
  | help
  /-- Show the version. -/
  | version
  deriving DecidableEq, Inhabited, Repr

/-- How many values an option takes. -/
inductive Arity where
  /-- None. -/
  | zero
  /-- One. -/
  | one
  /-- At most one. -/
  | atMostOne
  deriving DecidableEq, Repr

namespace Flag

/-- The options in the order of the usage text. -/
def all : List Flag :=
  [rules, host, port, debug, logLevel, logDirectory, allowUnmatched, exportCertificate, help,
   version]

/-- The long name. -/
def long : Flag → String
  | rules => "rules"
  | host => "host"
  | port => "port"
  | debug => "debug"
  | logLevel => "log-level"
  | logDirectory => "log-dir"
  | allowUnmatched => "allow-unmatched"
  | exportCertificate => "export-ca"
  | help => "help"
  | version => "version"

/-- The letter. -/
def letter? : Flag → Option Char
  | rules => some 'r'
  | port => some 'p'
  | help => some 'h'
  | version => some 'V'
  | _ => none

/-- How many values the option takes. -/
def arity : Flag → Arity
  | debug | allowUnmatched | help | version => .zero
  | logDirectory => .atMostOne
  | _ => .one

/-- The name of the value in messages. -/
def valueName : Flag → String
  | rules => "RULES"
  | host => "HOST"
  | port => "PORT"
  | logLevel => "LOG_LEVEL"
  | logDirectory => "LOG_DIR"
  | exportCertificate => "PATH"
  | _ => ""

/-- The option as messages show it. -/
def shown (f : Flag) : String :=
  match f.arity with
  | .zero => "--" ++ f.long
  | .one => "--" ++ f.long ++ " <" ++ f.valueName ++ ">"
  | .atMostOne => "--" ++ f.long ++ " [<" ++ f.valueName ++ ">]"

/-- The option with a long name. -/
def ofLong? (name : String) : Option Flag := all.find? fun f => f.long == name

/-- The option with a letter. -/
def ofLetter? (c : Char) : Option Flag := all.find? fun f => f.letter? == some c

end Flag

/-- What can be wrong with arguments. -/
inductive UsageError where
  /-- No option and no value is expected here. -/
  | unexpected (argument : String)
  /-- An option lacks its value. -/
  | missingValue (f : Flag)
  /-- An option has a value that it does not take. -/
  | surplusValue (value : String) (f : Flag)
  /-- A value cannot be used, for a reason. -/
  | badValue (value : String) (f : Flag) (reason : String)
  /-- An option occurs twice. -/
  | repeated (f : Flag)
  deriving DecidableEq, Repr

/-- The wording of an error. -/
def UsageError.message : UsageError → String
  | unexpected argument => "unexpected argument \x27" ++ argument ++ "\x27 found"
  | missingValue f => "a value is required for \x27" ++ f.shown ++ "\x27 but none was supplied"
  | surplusValue value f =>
    "unexpected value \x27" ++ value ++ "\x27 for \x27" ++ f.shown ++
      "\x27 found; no more were expected"
  | badValue value f reason =>
    "invalid value \x27" ++ value ++ "\x27 for \x27" ++ f.shown ++ "\x27: " ++ reason
  | repeated f => "the argument \x27" ++ f.shown ++ "\x27 cannot be used multiple times"

/-- Why the program does not run. -/
inductive Refusal where
  /-- The arguments are wrong. -/
  | usage (e : UsageError)
  /-- The usage was asked for. -/
  | help
  /-- The version was asked for. -/
  | version
  deriving DecidableEq, Repr

/-- The chosen values. -/
structure Arguments where
  /-- The rule file. -/
  rules : Option String
  /-- The address to listen on. -/
  host : String
  /-- The port to listen on. -/
  port : Nat
  /-- Whether logging is detailed and traffic is dumped. -/
  debug : Bool
  /-- The level of logging. -/
  logLevel : String
  /-- Whether there are log files, and their directory if it was chosen. -/
  logDirectory : Option (Option String)
  /-- Whether unmatched requests are allowed. -/
  allowUnmatched : Bool
  /-- Where the root certificate is written. -/
  exportPath : Option String
  deriving DecidableEq, Repr

instance : Inhabited Arguments := ⟨⟨none, "127.0.0.1", 0, false, "info", none, false, none⟩⟩

/-- Why a text is not an integer of 64 bits. -/
inductive IntegerError where
  /-- There are no digits. -/
  | empty
  /-- A character is no digit. -/
  | badDigit
  /-- The number is too large. -/
  | tooLarge
  /-- The number is too small. -/
  | tooSmall
  deriving DecidableEq, Repr

/-- The wording of an error. -/
def IntegerError.message : IntegerError → String
  | empty => "cannot parse integer from empty string"
  | badDigit => "invalid digit found in string"
  | tooLarge => "number too large to fit in target type"
  | tooSmall => "number too small to fit in target type"

/-- Reads digits behind those of `n`, which must stay within a bound; the first fault counts. -/
def readDigits (bound : Nat) (beyond : IntegerError) : Nat → List Char → Except IntegerError Nat
  | n, [] => .ok n
  | n, c :: rest =>
    if !c.isDigit then .error .badDigit
    else
      let next := n * 10 + (c.toNat - 48)
      if next > bound then .error beyond else readDigits bound beyond next rest

/-- Reads an integer of 64 bits, which may have a sign. -/
def readInteger : List Char → Except IntegerError Int
  | [] => .error .empty
  | ['+'] => .error .badDigit
  | ['-'] => .error .badDigit
  | '+' :: digits => (readDigits (Nat.pow 2 63 - 1) .tooLarge 0 digits).map fun n => (n : Int)
  | '-' :: digits => (readDigits (Nat.pow 2 63) .tooSmall 0 digits).map fun n => -(n : Int)
  | digits => (readDigits (Nat.pow 2 63 - 1) .tooLarge 0 digits).map fun n => (n : Int)

/-- Reads the value of the port. -/
def readPort (value : String) : Except UsageError Nat :=
  match readInteger value.toList with
  | .error e => .error (.badValue value .port e.message)
  | .ok i =>
    if 0 ≤ i && i ≤ 65535 then .ok i.toNat
    else .error (.badValue value .port (toString i ++ " is not in 0..=65535"))

namespace Arguments

/-- A path, which must not be empty. -/
def path (f : Flag) (value : String) : Except UsageError String :=
  if value.isEmpty then .error (.missingValue f) else .ok value

/-- The arguments with one option chosen. -/
def set (a : Arguments) (f : Flag) (value : Option String) : Except UsageError Arguments :=
  match f, value with
  | .debug, _ => .ok { a with debug := true }
  | .allowUnmatched, _ => .ok { a with allowUnmatched := true }
  | .logDirectory, none => .ok { a with logDirectory := some none }
  | .logDirectory, some v => do
    let v ← path f v
    .ok { a with logDirectory := some (some v) }
  | .rules, some v => do
    let v ← path f v
    .ok { a with rules := some v }
  | .exportCertificate, some v => do
    let v ← path f v
    .ok { a with exportPath := some v }
  | .host, some v => .ok { a with host := v }
  | .logLevel, some v => .ok { a with logLevel := v }
  | .port, some v => do
    let n ← readPort v
    .ok { a with port := n }
  | _, _ => .ok a

/-- Where reading stands. -/
structure Progress where
  /-- The values chosen so far. -/
  chosen : Arguments
  /-- The options that occurred. -/
  seen : List Flag
  /-- The option that is not checked yet, with its value so far. -/
  pending : Option (Flag × Option String)
  /-- Whether the mark that ends the options was passed. -/
  ended : Bool
  deriving Inhabited

namespace Progress

/-- Checks an option and chooses it. -/
def choose (p : Progress) (f : Flag) (value : Option String) : Except Refusal Progress :=
  if f.arity = .one && value.isNone then .error (.usage (.missingValue f))
  else if f = .help then .error .help
  else if f = .version then .error .version
  else if p.seen.contains f then .error (.usage (.repeated f))
  else
    match p.chosen.set f value with
    | .ok chosen => .ok { p with chosen, seen := f :: p.seen }
    | .error e => .error (.usage e)

/-- Checks the pending option. -/
def settle (p : Progress) : Except Refusal Progress :=
  match p.pending with
  | some (f, value) => { p with pending := none }.choose f value
  | none => .ok p

/-- Begins an option, with the value that is attached to it. -/
def start (p : Progress) (f : Flag) (attached : Option String) : Except Refusal Progress :=
  match f.arity, attached with
  | .zero, some value => .error (.usage (.surplusValue value f))
  | .zero, none => do (← p.settle).choose f none
  | _, some value => do (← p.settle).choose f (some value)
  | _, none => do .ok { ← p.settle with pending := some (f, none) }

/-- The name of a long option and the value behind its equals sign. -/
def splitValue (cs : List Char) : String × Option String :=
  match cs.dropWhile (· != '=') with
  | _ :: value => (String.ofList (cs.takeWhile (· != '=')), some (String.ofList value))
  | [] => (String.ofList cs, none)

/-- Reads a long option behind its dashes. -/
def long (p : Progress) (cs : List Char) : Except Refusal Progress :=
  let (name, value) := splitValue cs
  match Flag.ofLong? name with
  | some f => p.start f value
  | none => .error (.usage (.unexpected ("--" ++ name)))

/-- Reads letters behind a dash.  The rest behind a letter that takes a value is its value. -/
def letters (p : Progress) : List Char → Except Refusal Progress
  | [] => .ok p
  | c :: rest =>
    match Flag.ofLetter? c with
    | none => .error (.usage (.unexpected ("-" ++ c.toString)))
    | some f =>
      match f.arity, rest with
      | .zero, rest => do letters (← p.start f none) rest
      | _, [] => p.start f none
      | _, '=' :: value => p.start f (some (String.ofList value))
      | _, value => p.start f (some (String.ofList value))

/-- Reads one argument. -/
def step (p : Progress) (argument : String) : Except Refusal Progress :=
  if p.ended then .error (.usage (.unexpected argument))
  else
    match argument.toList, p.pending with
    | ['-', '-'], _ => .ok { p with ended := true }
    | '-' :: '-' :: rest, _ => p.long rest
    | '-' :: c :: rest, _ => p.letters (c :: rest)
    | _, some (f, none) => .ok { p with pending := some (f, some argument) }
    | _, _ => .error (.usage (.unexpected argument))

end Progress

/-- Reads the arguments of the program. -/
def parse (arguments : List String) : Except Refusal Arguments := do
  let p ← arguments.foldlM Progress.step default
  return (← p.settle).chosen

end Arguments

/-- What the program is for, in one line. -/
def purpose : String := "cloudmock - intercepting proxy that serves mocked cloud API responses"

/-- The name of the program and its version. -/
def versionText : String := "cloudmock 0.3.0"

/-- The usage text. -/
def usageText : String :=
  "\n".intercalate
    [purpose,
     "",
     "Usage: cloudmock [OPTIONS]",
     "",
     "Options:",
     "  -r, --rules <RULES>          JSON rule file; without one every request is unmatched",
     "      --host <HOST>            Address to listen on [default: 127.0.0.1]",
     "  -p, --port <PORT>            Port to listen on (0 picks a free port) [default: 0]",
     "      --debug                  Enable debug logging and dump every request/response",
     "      --log-level <LOG_LEVEL>  " ++
       "Set log level (error, warn, info, debug, trace) [default: info]",
     "      --log-dir [<LOG_DIR>]    " ++
       "Also log to daily files; the directory defaults to the user data dir",
     "      --allow-unmatched        Keep the session green when a request matches no rule",
     "      --export-ca <PATH>       Write the root certificate (PEM) to this path",
     "  -h, --help                   Print help",
     "  -V, --version                Print version"]

end CloudStub.CommandLine
