import CloudStub.CommandLine.Arguments
import CloudStub.CommandLine.Files
import CloudStub.CommandLine.Log
import CloudStub.Proxy.Basic
import CloudStub.RuleFile.Load

/-!
# Runs of the program

A run reads the arguments, sets up logging, loads the rules, exports the root certificate, and
starts a proxy.  It ends early with an error, or it listens until it is interrupted.

## Main Definitions

- `Surroundings`: what a run depends on besides its arguments and files
- `RunError`: why a run ends early
- `Ending`: how far a run comes
- `Report`: a run as seen from outside
- `run`: a run up to its end or up to the time when it listens
- `interrupt`: the end of a run that listened
-/

namespace CloudStub.CommandLine

/-- What a run depends on besides its arguments and files. -/
structure Surroundings where
  /-- The environment variables. -/
  environment : Dict String
  /-- The current day, as it stands in the names of log files. -/
  day : String
  /-- The port that is taken for a free one. -/
  freePort : Nat
  /-- Whether a proxy can listen on an address. -/
  canListen : Http.IpAddress → Bool
  /-- The serial number that was given out last. -/
  counter : Nat

/-- Why a run ends early. -/
inductive RunError where
  /-- The rule file cannot be read. -/
  | unreadableRules (path : String) (e : LoadError)
  /-- A rule of the rule file is wrong. -/
  | badRule (path : String) (e : LoadError)
  /-- There is no root. -/
  | noAuthority (e : RootError)
  /-- The root certificate cannot be written. -/
  | exportFailed (path : String)
  /-- The address is malformed. -/
  | badAddress (host : String)
  /-- The proxy cannot listen. -/
  | cannotListen

/-- The wording of an error. -/
def RunError.message : RunError → String
  | unreadableRules path _ => "Failed to load rules from " ++ path
  | badRule path _ => "Invalid rule in " ++ path
  | noAuthority _ => "Failed to set up certificate authority"
  | exportFailed path => "Failed to write root certificate to " ++ path
  | badAddress host => "Invalid listen address " ++ host
  | cannotListen => "Failed to start proxy"

/-- How far a run comes. -/
inductive Ending where
  /-- The arguments keep it from running. -/
  | refused (r : Refusal)
  /-- It ends early. -/
  | failed (e : RunError)
  /-- A number in a payload path does not fit, and the run breaks off. -/
  | overrun
  /-- It listens. -/
  | listening (p : Proxy)

/-- A run as seen from outside. -/
structure Report where
  /-- The lines of the log, as far as they are shown. -/
  log : List LogLine
  /-- How far the run comes. -/
  ending : Ending

namespace Ending

/-- The text on standard output. -/
def output : Ending → String
  | refused .help => usageText
  | refused .version => versionText
  | listening p => p.url
  | _ => ""

/-- The error that is reported at the end, if there is one. -/
def errorText : Ending → Option String
  | refused (.usage e) => some ("error: " ++ e.message)
  | failed e => some ("Error: " ++ e.message)
  | _ => none

/-- The exit code; a run that listened without unmatched requests succeeds. -/
def exitCode : Ending → Nat
  | refused (.usage _) => 2
  | refused _ => 0
  | failed _ => 1
  | overrun => 101
  | listening p => if p.session.monitor.failed then 1 else 0

end Ending

/-- The level that the arguments ask for. -/
def Arguments.level (a : Arguments) : String := if a.debug then "debug" else a.logLevel

/-- The filter of the log: that of the environment if it can be read, else that of the
arguments. -/
def logFilter (a : Arguments) (s : Surroundings) : LogFilter :=
  let own := "cloudmock=" ++ a.level ++ ",cloudmock_core=" ++ a.level ++ ",cloudmock_proxy=" ++
    a.level ++ ",warn"
  ((s.environment.get? "RUST_LOG").bind LogFilter.ofText?).getD (.ofValidParts own)

/-- The directory of log files where none was chosen. -/
def defaultLogDirectory (s : Surroundings) : Option String :=
  let isAbsolute := fun (path : String) => path.toList.head? == some '/'
  let data :=
    match (s.environment.get? "XDG_DATA_HOME").filter isAbsolute with
    | some path => some path
    | none => (s.environment.get? "HOME").map (· ++ "/.local/share")
  data.map (· ++ "/cloudmock/logs")

/-- The directory of log files, if there are any. -/
def Arguments.logDirectory? (a : Arguments) (s : Surroundings) : Option String :=
  match a.logDirectory with
  | some (some path) => some path
  | some none => defaultLogDirectory s
  | none => none

/-- The log file of the day in a directory. -/
def logFile (s : Surroundings) (directory : String) : String :=
  directory ++ "/cloudmock." ++ s.day ++ ".log"

/-- The mode in which traffic is dumped. -/
def Arguments.mode (a : Arguments) : DebugMode := if a.debug then .enabled else .environment

/-- The setting of dumps at the start of a run. -/
def debugSetting (s : Surroundings) : DebugSetting :=
  .initial ((s.environment.get? DebugSetting.variableName).map Utf8.encode)

section

variable {m : Type → Type} [Monad m] [Files m]

/-- Makes the log file of the day, and says so. -/
def startLog (a : Arguments) (s : Surroundings) : m (List LogLine) :=
  match a.logDirectory? s with
  | none => pure []
  | some path => do
    let there ← do
      if ← Files.makeDirectory path then Files.openLog (logFile s path) else pure false
    if there then pure [⟨.info, "Logging to " ++ Quoted.quote path⟩]
    else pure [⟨.warn, "File logging unavailable in " ++ Quoted.quote path ++
      ", using console only"⟩]

/-- Loads the rules, and says whether an unmatched request fails the session.  Without a rule file
there are no rules. -/
def loadRules (a : Arguments) : ExceptT RunError m (List Rule × Bool) :=
  match a.rules with
  | none => pure ([], !a.allowUnmatched)
  | some path => do
    match RuleFile.ofContents (← ExceptT.lift (Files.read path)) with
    | .error e => throw (.unreadableRules path e)
    | .ok file =>
      match file.toRules with
      | .error e => throw (.badRule path e)
      | .ok rules => pure (rules, !a.allowUnmatched && file.failsOnUnmatched)

/-- The root that is embedded in the program. -/
def embeddedRoot : ExceptT RunError m Root :=
  match Root.embedded with
  | .ok root => pure root
  | .error e => throw (.noAuthority e)

/-- Writes the root certificate, and says so. -/
def exportRoot (root : Root) (a : Arguments) : ExceptT RunError m (List LogLine) :=
  match a.exportPath with
  | none => pure []
  | some path => do
    if ← ExceptT.lift (Files.write path (Utf8.encode root.pem)) then
      pure [⟨.info, "Root certificate written to " ++ path⟩]
    else throw (.exportFailed path)

/-- The proxy that the arguments ask for. -/
def startProxy (a : Arguments) (s : Surroundings) (root : Root) (rules : List Rule)
    (fails : Bool) : Except RunError Proxy :=
  match Http.IpAddress.ofText? a.host with
  | none => .error (.badAddress a.host)
  | some ip =>
    if !s.canListen ip then .error .cannotListen
    else
      let port := if a.port = 0 then s.freePort else a.port
      let authority := Authority.new root
      .ok (.start ⟨⟨ip, 0, a.port⟩, some authority, a.mode, fails⟩ port authority s.counter rules
        (debugSetting s))

/-- The line about the loaded rules. -/
def loadedLine (rules : List Rule) (fails : Bool) : LogLine :=
  ⟨.info, "Loaded mock rules rules=" ++ toString rules.length ++ " fail_on_unmatched=" ++
    (if fails then "true" else "false")⟩

/-- How far a run comes once the rules are loaded, with the lines that it logs. -/
def afterLoading (a : Arguments) (s : Surroundings) (rules : List Rule) (fails : Bool) :
    m (List LogLine × Ending) := do
  let line := loadedLine rules fails
  match ← (do let root ← embeddedRoot; pure (root, ← exportRoot root a) :
      ExceptT RunError m (Root × List LogLine)).run with
  | .error e => pure ([line], .failed e)
  | .ok (root, exported) =>
    match startProxy a s root rules fails with
    | .error e => pure (line :: exported, .failed e)
    | .ok p => pure (line :: exported, .listening p)

/-- The ending of a run whose rules could not be loaded. -/
def Ending.ofLoading : RunError → Ending
  | .badRule _ (.path .numberOutOfRange) => .overrun
  | e => .failed e

/-- A run with some arguments. -/
def runWith (a : Arguments) (s : Surroundings) : m Report := do
  let started ← startLog a s
  let (lines, ending) ←
    match ← (loadRules a).run with
    | .error e => pure ([], Ending.ofLoading e)
    | .ok (rules, fails) => afterLoading a s rules fails
  pure ⟨(started ++ lines).filter (logFilter a s).shows, ending⟩

/-- A run up to its end or up to the time when it listens. -/
def run (arguments : List String) (s : Surroundings) : m Report :=
  match Arguments.parse arguments with
  | .error r => pure ⟨[], .refused r⟩
  | .ok a => runWith a s

end

/-- The lines that a run logs when it is interrupted: the unmatched requests. -/
def interrupt (f : LogFilter) (p : Proxy) : List LogLine :=
  (p.session.monitor.unmatched.map fun text => ⟨.warn, "Unmatched request: " ++ text⟩).filter
    f.shows

end CloudStub.CommandLine
