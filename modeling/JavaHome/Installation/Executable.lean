import JavaHome.Event
import JavaHome.Installation.Basic

/-!
# Executables of an installation

A tool is looked for in the home directory of an installation. A supplied installation must have it
there; for others the search path is tried, and at last the bare name is left to whoever starts the
tool.
-/

namespace JavaHome

/-- Where an executable was found. -/
inductive Source where
  | home
  | path
  | unresolved
  deriving Repr, DecidableEq

/-- The word for a source. -/
def Source.word : Source → String
  | home => "home"
  | path => "path"
  | unresolved => "unresolved"

/-- How a source is marked on a terminal with colours. -/
def Source.style : Source → String
  | home => "bold green"
  | path => "yellow"
  | unresolved => "bold red"

/-- An executable that was looked up: the tool asked for, its path, and where it was found. -/
structure Executable where
  tool : String
  path : Path
  source : Source
  deriving Repr, DecidableEq

/-- Whether an executable was found at all. -/
def Executable.isResolved (e : Executable) : Bool :=
  e.source ≠ .unresolved

namespace Installation

/-- The path of a tool in the home directory, named as the host names executables. -/
def toolPath (c : Context) (m : Machine) (i : Installation) (tool : String) : Except Failure Path :=
  (c.host.executableName ((i.home.child "bin").join (.ofString tool))).map (·.absolute m.cwd)

/-- The executable for a tool. -/
def executable (c : Context) (m : Machine) (i : Installation) (tool : String) :
    Traced Executable := do
  let candidate ← .ofExcept (i.toolPath c m tool)
  if ← .ofExcept (m.isFile candidate) then
    return ⟨tool, candidate, .home⟩
  if i.userSupplied then
    .fail (.missingTool tool candidate)
  else
    match c.host.findInPath m tool with
    | some found =>
      .tell (.foundOnPath tool i.home found)
      return ⟨tool, found, .path⟩
    | none =>
      .tell (.notFound tool i.home)
      return ⟨tool, ← .ofExcept (c.host.executableName (.ofString tool)), .unresolved⟩

end Installation

end JavaHome
