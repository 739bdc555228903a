import JavaHome.Command.Invocation
import JavaHome.Command.Output
import JavaHome.Installation.Discovery
import JavaHome.Properties.Load

/-!
# Running the program

What a command line comes to on a machine: an exit code, what is written, and the failure that ends
the program, if it is none that is reported.
-/

namespace JavaHome.Command

/-- What ends the program without a report: a failure of discovery, or a fault in markup. -/
inductive Escape where
  | failure (failure : Failure)
  | markup (error : Terminal.Markup.Error)
  deriving Repr, DecidableEq

/-- What a run comes to. -/
structure Report where
  exit : Nat
  stdout : String
  stderr : String
  escape : Option Escape
  deriving Repr, DecidableEq

/-- The version of the program. -/
def version : String := "0.1.0"

/-- What an action finds in a context. -/
def Action.find (c : Context) (m : Machine) : Action → Traced Finding
  | current => do
    let installation ← c.current m
    let java ← installation.executable c m "java"
    return .installation (← .ofExcept (installation.summarize c m java))
  | home path => do
    let installation ← c.forHome m (some path)
    let java ← installation.executable c m "java"
    return .installation (← .ofExcept (installation.summarize c m java))
  | exec tool directory => do
    let installation ← c.resolve m directory
    return .executable (← installation.executable c m tool)
  | env => do
    let installation ← c.current m
    return .environment (installation.vendor.inheritable m.environment)

/-- What an invocation finds on a machine. -/
def Invocation.find (i : Invocation) (m : Machine) : Traced Finding := do
  let c ← Context.ofMachine m i.propertiesFile
  i.action.find c m

/-- The exit code for a finding: that of an executable which is known by its name only tells so. -/
def Finding.exit : Finding → Nat
  | executable e => if e.isResolved then 0 else 1
  | _ => 0

/-- What is told about events: warnings, or all of them on request. On request each is told with its
time and its level and wrapped, all of which is left out. -/
def eventText (verbose : Bool) (events : List Event) : String :=
  let told := events.filter fun e => verbose || e.level = .warning
  String.join (told.map fun e => e.message ++ "\n")

/-- What is written for a failure that is reported. -/
def failureText (format : Format) (failure : Failure) : String :=
  match format with
  | .json => (Json.object [("error", .string failure.message)]).line ++ "\n"
  | .text => String.ofList (Terminal.dropSequences ("Error: " ++ failure.message).toList) ++ "\n"

/-- What is written for a finding. As text nothing is, on a console without columns. -/
def findingText (format : Format) (m : Machine) (finding : Finding) :
    Except Terminal.Markup.Error String :=
  match format with
  | .json => .ok (finding.toJson.block ++ "\n")
  | .text =>
    if m.columns = 0 then .ok "" else (finding.text m.columns).map (finding.painted m)

/-- The report of an invocation. -/
def Invocation.run (i : Invocation) (m : Machine) : Report :=
  let found := i.find m
  let stderr := eventText i.verbose found.events
  match found.result with
  | .error failure =>
    if failure.isReported then ⟨2, failureText i.format failure, stderr, none⟩
    else ⟨1, "", stderr, some (.failure failure)⟩
  | .ok finding =>
    match findingText i.format m finding with
    | .ok text => ⟨finding.exit, text, stderr, none⟩
    | .error error => ⟨1, "", stderr, some (.markup error)⟩

/-- What is told about a fault in a command line. -/
def faultText (scope : Scope) (fault : Fault) : String :=
  let usage :=
    if fault.tellsUsage then
      scope.usageLine ++ "\nTry '" ++ scope.name ++ " " ++ Switch.help.name ++ "' for help.\n\n"
    else ""
  usage ++ String.ofList (Terminal.dropSequences ("Error: " ++ fault.message).toList) ++ "\n"

/-- The report of a command line that ends before anything is done. -/
def Stop.report : Stop → Report
  | version => ⟨0, programName ++ ", version " ++ Command.version ++ "\n", "", none⟩
  | help scope => ⟨0, scope.usageLine ++ "\n", "", none⟩
  | fault scope f => ⟨2, "", faultText scope f, none⟩
  | failure f => ⟨1, "", "", some (.failure f)⟩

/-- The report of a command line on a machine whose console is set up. -/
def run (m : Machine) (words : List String) : Report :=
  match Invocation.ofWords m words with
  | .ok invocation => invocation.run m
  | .error stop => stop.report

/-- The report of a command line on a machine. The console is set up first of all, which fails if
its size cannot be read. -/
def start (m : Machine) (words : List String) : Report :=
  match Console.ofEnvironment m.environment with
  | .ok console => run { m with console := console } words
  | .error failure => ⟨1, "", "", some (.failure failure)⟩

end JavaHome.Command
