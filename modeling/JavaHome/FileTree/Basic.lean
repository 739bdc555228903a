import JavaHome.Path.Basic

/-!
# File trees

The part of a file system that discovery asks about: directories, files with their bytes and their
execute permission, and symbolic links with their target as written. A place in the tree is named by
the names that lead to it from the root. Every directory may be searched and every file may be read.
-/

namespace JavaHome

/-- What stands under a name. Directories have no permissions: every one may be searched. -/
inductive Node where
  | directory (entries : List (String × Node))
  | file (bytes : List UInt8) (executable : Bool)
  | link (target : String)

/-- The names that lead from the root to a node. -/
abbrev Location := List String

/-- A file system, by the entries of its root. -/
structure FileTree where
  entries : List (String × Node)

namespace Node

/-- The entries of a directory; other nodes have none. -/
def entries : Node → List (String × Node)
  | directory entries => entries
  | file _ _ => []
  | link _ => []

/-- Whether a node is a directory. -/
def isDirectory : Node → Bool
  | directory _ => true
  | _ => false

/-- Whether a node is a regular file. -/
def isFile : Node → Bool
  | file _ _ => true
  | _ => false

/-- Whether the execute permission of a node is set; directories have it. -/
def isExecutable : Node → Bool
  | directory _ => true
  | file _ executable => executable
  | link _ => false

/-- The node that a list of names leads to. -/
def at? : Node → Location → Option Node
  | node, [] => some node
  | directory entries, name :: rest => (entries.lookup name).bind (·.at? rest)
  | _, _ :: _ => none

end Node

namespace FileTree

/-- The root directory. -/
def root (t : FileTree) : Node :=
  .directory t.entries

/-- The node at a location. -/
def node? (t : FileTree) (here : Location) : Option Node :=
  t.root.at? here

/-- The tree that holds nothing but its root. -/
def empty : FileTree :=
  ⟨[]⟩

end FileTree

/-! ## Building a tree -/

/-- Entries with another node under one name; a new name comes last. -/
def putEntry (name : String) (node : Node) : List (String × Node) → List (String × Node)
  | [] => [(name, node)]
  | entry :: rest =>
    if entry.1 = name then (name, node) :: rest else entry :: putEntry name node rest

/-- The entries of the directory under a name, if there is one. -/
def subentries (entries : List (String × Node)) (name : String) : List (String × Node) :=
  ((entries.lookup name).map Node.entries).getD []

/-- Entries after `make` gave a node to a location below them, from the node that was there. Missing
directories on the way are made, and other nodes on the way give way to directories. -/
def putBelow (make : Option Node → Node) : Location → List (String × Node) → List (String × Node)
  | [], entries => entries
  | [name], entries => putEntry name (make (entries.lookup name)) entries
  | name :: rest, entries =>
    putEntry name (.directory (putBelow make rest (subentries entries name))) entries

/-- Entries without the node at a location and all below it. -/
def dropBelow : Location → List (String × Node) → List (String × Node)
  | [], _ => []
  | [name], entries => entries.filter (·.1 ≠ name)
  | name :: rest, entries =>
    match entries.lookup name with
    | some (.directory below) => putEntry name (.directory (dropBelow rest below)) entries
    | _ => entries

namespace FileTree

/-- The tree with a node put at a location, in place of what was there. -/
def put (t : FileTree) (here : Location) (node : Node) : FileTree :=
  ⟨putBelow (fun _ => node) here t.entries⟩

/-- The tree with a directory at a location; one that is there already keeps its entries. -/
def putDirectory (t : FileTree) (here : Location) : FileTree :=
  ⟨putBelow (fun old => .directory ((old.map Node.entries).getD [])) here t.entries⟩

/-- The tree without the node at a location. -/
def remove (t : FileTree) (here : Location) : FileTree :=
  ⟨dropBelow here t.entries⟩

end FileTree

end JavaHome
