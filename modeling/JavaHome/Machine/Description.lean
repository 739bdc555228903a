import JavaHome.Machine

/-!
# Descriptions of machines

A machine written down in lines of a word and what it is about: `cwd /work`, `system Linux`, `set
PATH=/bin`, `dir /opt`, `file /opt/a.jar`, `exec /opt/bin/java`, `link /java -> opt`. A line that
begins with a tab is a line of the text of the last file. Later lines win over earlier ones.
-/

namespace JavaHome.Machine

/-- A line of a description. -/
inductive Entry where
  | cwd (path : String)
  | system (name : String)
  | set (name value : String)
  | directory (path : String)
  | file (path : String) (executable : Bool)
  | link (path target : String)
  | content (line : String)
  deriving Repr, DecidableEq

namespace Entry

/-- The parts of a text before and after the first occurrence of a separator. -/
def cut? (separator : List Char) : List Char → Option (List Char × List Char)
  | [] => none
  | c :: rest =>
    if separator.isPrefixOf (c :: rest) then some ([], (c :: rest).drop separator.length)
    else (cut? separator rest).map fun (before, after) => (c :: before, after)

/-- The parts of a text as strings. -/
def cutString? (separator : String) (s : List Char) : Option (String × String) :=
  (cut? separator.toList s).map fun (before, after) => (String.ofList before, String.ofList after)

/-- The entry that a line spells. -/
def ofLine? (line : String) : Option Entry :=
  match line.toList with
  | '\t' :: rest => some (content (String.ofList rest))
  | chars =>
    match cut? [' '] chars with
    | none => none
    | some (word, rest) =>
      match String.ofList word with
      | "cwd" => some (cwd (String.ofList rest))
      | "system" => some (system (String.ofList rest))
      | "set" => (cutString? "=" rest).map fun (name, value) => set name value
      | "dir" => some (directory (String.ofList rest))
      | "file" => some (file (String.ofList rest) false)
      | "exec" => some (file (String.ofList rest) true)
      | "link" => (cutString? " -> " rest).map fun (path, target) => link path target
      | _ => none

end Entry

/-- The location that a path names in a description. -/
def locationOf (path : String) : Location :=
  (Path.ofString path).parts

/-- A machine that holds nothing. -/
def bare : Machine where
  tree := .empty
  cwd := []
  environment := []
  systemName := "Linux"

/-- A machine being described, and where its last file is. -/
structure Draft where
  machine : Machine
  lastFile : Option Location

/-- The tree with a line added to the file at a location. -/
def addLine (tree : FileTree) (here : Location) (line : String) : FileTree :=
  match tree.node? here with
  | some (.file bytes executable) =>
    tree.put here (.file (bytes ++ (line ++ "\n").toUTF8.toList) executable)
  | _ => tree

/-- A draft with another tree. -/
def Draft.withTree (d : Draft) (tree : FileTree) : Draft :=
  { d with machine := { d.machine with tree := tree } }

/-- A draft after one more entry. -/
def Draft.add (d : Draft) : Entry → Draft
  | .cwd path =>
    let here := locationOf path
    { d with machine := { d.machine with cwd := here, tree := d.machine.tree.putDirectory here } }
  | .system name => { d with machine := { d.machine with systemName := name } }
  | .set name value =>
    let others := d.machine.environment.filter (·.1 ≠ name)
    { d with machine := { d.machine with environment := others ++ [(name, value)] } }
  | .directory path => d.withTree (d.machine.tree.putDirectory (locationOf path))
  | .file path executable =>
    { d.withTree (d.machine.tree.put (locationOf path) (.file [] executable)) with
      lastFile := some (locationOf path) }
  | .link path target => d.withTree (d.machine.tree.put (locationOf path) (.link target))
  | .content line =>
    match d.lastFile with
    | some here => d.withTree (addLine d.machine.tree here line)
    | none => d

/-- The machine that entries describe. -/
def ofEntries (entries : List Entry) : Machine :=
  (entries.foldl Draft.add ⟨bare, none⟩).machine

/-- The machine that lines describe, or the first line that is no entry. Empty lines do not count.
-/
def ofLines (lines : List String) : Except String Machine := do
  let entries ← (lines.filter (· ≠ "")).mapM fun line =>
    match Entry.ofLine? line with
    | some entry => .ok entry
    | none => .error line
  return ofEntries entries

end JavaHome.Machine
