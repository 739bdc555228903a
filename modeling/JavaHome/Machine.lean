import JavaHome.Console
import JavaHome.FileTree.Canonical
import JavaHome.Json.Basic
import JavaHome.Yaml.Value

/-!
# The machine that is searched

A computer as discovery sees it: its file tree, the current directory, the environment variables,
the name of its operating system, the console and the reader of properties files; and the questions
that discovery puts to it.
-/

namespace JavaHome

/-- A computer as discovery sees it. Where text has styles, `paint` puts them into the text that
tells a report. -/
structure Machine where
  tree : FileTree
  cwd : Location
  environment : Environment
  systemName : String
  console : Console := .unset
  yaml : Yaml.Manner := .plain
  paint : Json → String → String := fun _ text => text

namespace Machine

/-- The value of an environment variable. -/
def lookupVariable (m : Machine) (name : String) : Option String :=
  m.environment.lookup name

/-- The columns of the console. -/
def columns (m : Machine) : Nat :=
  m.console.columns m.environment

/-- The node that a path leads to, if any. A path that is too long to be looked up is a failure. -/
def node? (m : Machine) (p : Path) : Except Failure (Option Node) :=
  match m.tree.stat m.cwd p.text with
  | .ok node => .ok (some node)
  | .error .nameTooLong => .error (.nameTooLong p.text)
  | .error _ => .ok none

/-- Whether a path leads anywhere. -/
def pathExists (m : Machine) (p : Path) : Except Failure Bool :=
  (m.node? p).map Option.isSome

/-- Whether a path leads to a regular file. -/
def isFile (m : Machine) (p : Path) : Except Failure Bool :=
  (m.node? p).map fun node => (node.map Node.isFile).getD false

/-- Whether a path leads to a directory. -/
def isDirectory (m : Machine) (p : Path) : Except Failure Bool :=
  (m.node? p).map fun node => (node.map Node.isDirectory).getD false

/-- Whether a path, as written, leads to something that can be run. -/
def isCommand (m : Machine) (path : String) : Bool :=
  match m.tree.stat m.cwd path with
  | .ok node => node.isExecutable && !node.isDirectory
  | .error _ => false

/-- The canonical form of a path. A loop is a failure only if the path still runs into it at the
end. -/
def canonicalize (m : Machine) (p : Path) : Except Failure Path :=
  match m.tree.settled m.cwd p with
  | .ok q => finish (q.absolute m.cwd).lexical
  | .error (.loop q) => finish (q.absolute m.cwd).lexical
  | .error .embeddedNull => .error .embeddedNull
  | .error .tooDeep => .error .linksTooDeep
where
  finish (q : Path) : Except Failure Path :=
    match m.tree.stat m.cwd q.text with
    | .error .tooManyLinks => .error (.linkLoop q)
    | .error .embeddedNull => .error .embeddedNull
    | _ => .ok q

end Machine

end JavaHome
