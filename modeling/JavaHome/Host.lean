import JavaHome.Machine
import JavaHome.Text.LowerCase

/-!
# The host

What discovery has to know of the operating system: how an executable file is named, and where
commands are searched for.
-/

namespace JavaHome

/-- The operating systems that are told apart. -/
inductive OperatingSystem where
  | windows
  | macos
  | linux
  deriving Repr, DecidableEq

namespace OperatingSystem

/-- The system that goes by a name, in any letter case; every other one counts as Linux. -/
def ofName (name : String) : OperatingSystem :=
  let lowered := Text.lower name
  if lowered = "darwin" then .macos else if lowered = "windows" then .windows else .linux

/-- The word for a system. -/
def word : OperatingSystem → String
  | windows => "windows"
  | macos => "macos"
  | linux => "linux"

end OperatingSystem

/-- An operating system and the search path to use; without one, the search path of the environment
counts. -/
structure Host where
  system : OperatingSystem
  searchPath : Option String
  deriving Repr, DecidableEq

namespace Host

/-- Whether the system is Windows. -/
def isWindows (h : Host) : Bool :=
  h.system = .windows

/-- The host that a machine is. -/
def ofMachine (m : Machine) : Host :=
  ⟨.ofName m.systemName, none⟩

/-- The suffix of executable files on Windows. -/
def executableSuffix : String := ".exe"

/-- The path of an executable file: on Windows the last name gets the suffix `.exe` unless it has it
in some letter case. -/
def executableName (h : Host) (p : Path) : Except Failure Path :=
  if h.isWindows ∧ Text.lower p.suffix ≠ executableSuffix then
    if p.name = "" then .error (.nameless p) else .ok (p.withName (p.name ++ executableSuffix))
  else .ok p

/-- The directories that are searched when the environment names none. -/
def defaultSearchPath : String := "/bin:/usr/bin"

/-- The entries of the search path in force; an empty search path has none. -/
def searchEntries (h : Host) (m : Machine) : List String :=
  let searchPath := h.searchPath.getD ((m.lookupVariable "PATH").getD defaultSearchPath)
  if searchPath = "" then [] else Text.fields ':' searchPath

/-- The path of a command in a directory of the search path. The empty entry is the current
directory. -/
def commandIn (entry command : String) : String :=
  if entry = "" then command
  else if entry.toList.getLast? = some '/' then entry ++ command
  else entry ++ "/" ++ command

/-- The path under which a command is found in the first of some entries of a search path. Entries
that come again after they were tried are passed over. -/
def findAmong (m : Machine) (command : String) (tried : List String) :
    List String → Option String
  | [] => none
  | entry :: rest =>
    if entry ∈ tried then findAmong m command tried rest
    else if m.isCommand (commandIn entry command) then some (commandIn entry command)
    else findAmong m command (entry :: tried) rest

/-- The path, as written, under which a command is found: a command with a slash in it is tried as
it stands, others in each entry of the search path. -/
def findCommand (h : Host) (m : Machine) (command : String) : Option String :=
  if '/' ∈ command.toList then
    if m.isCommand command then some command else none
  else findAmong m command [] (h.searchEntries m)

/-- The absolute path of a command on the search path. -/
def findInPath (h : Host) (m : Machine) (command : String) : Option Path :=
  (h.findCommand m command).map fun found => (Path.ofString found).absolute m.cwd

end Host

end JavaHome
