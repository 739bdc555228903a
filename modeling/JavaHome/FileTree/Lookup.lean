import JavaHome.FileTree.Basic

/-!
# Looking up paths

A path is looked up name by name from the root or from the current directory. `..` leads to the
directory that really holds the one reached so far, and the target of a link is followed from the
directory that holds the link, at most `linkLimit` times in one lookup.
-/

namespace JavaHome

/-- Why a lookup reaches nothing. It is never for want of a permission, since every directory may be
searched. -/
inductive LookupError where
  | missing
  | notDirectory
  | tooManyLinks
  | nameTooLong
  | embeddedNull
  deriving Repr, DecidableEq

/-- The node that a lookup reaches, and where it stands. -/
structure Place where
  location : Location
  node : Node

namespace FileTree

/-- The number of links that one lookup follows. -/
def linkLimit : Nat := 40

/-- The number of bytes from which on a whole path is too long. -/
def pathLimit : Nat := 4096

/-- The largest number of bytes in one name. -/
def nameLimit : Nat := 255

/-- Where the fields of a path are followed from: the root if a slash comes first, else `here`. -/
def startOf (here : Location) (path : String) : Location :=
  if path.toList.head? = some '/' then [] else here

/-- Follow fields of a path as long as they lead through no link. Where a link has to be followed,
`expand` gets the place to start from and the fields of the target with what comes after. A link in
the last field is followed only if `followLast` is set. -/
def stroll (t : FileTree) (followLast : Bool)
    (expand : Location → List String → Except LookupError Place)
    (here : Location) : List String → Except LookupError Place
  | [] =>
    match t.node? here with
    | some node => .ok ⟨here, node⟩
    | none => .error .missing
  | field :: rest =>
    match t.node? here with
    | none => .error .missing
    | some (.file _ _) => .error .notDirectory
    | some (.link _) => .error .notDirectory
    | some (.directory entries) =>
      if field = "" ∨ field = "." then stroll t followLast expand here rest
      else if field = ".." then stroll t followLast expand here.dropLast rest
      else if nameLimit < Text.byteLength field then .error .nameTooLong
      else
        match entries.lookup field with
        | none => .error .missing
        | some (.link target) =>
          if rest = [] ∧ ¬followLast then .ok ⟨here ++ [field], .link target⟩
          else expand (startOf here target) (Text.fields '/' target ++ rest)
        | some _ => stroll t followLast expand (here ++ [field]) rest

/-- Follow fields of a path through at most `links` links. -/
def walk (t : FileTree) (followLast : Bool) :
    Nat → Location → List String → Except LookupError Place
  | 0 => stroll t followLast fun _ _ => .error .tooManyLinks
  | links + 1 => stroll t followLast (walk t followLast links)

/-- Look up a path as written, relative ones from `cwd`. -/
def lookup (t : FileTree) (cwd : Location) (followLast : Bool) (path : String) :
    Except LookupError Place :=
  if '\x00' ∈ path.toList then .error .embeddedNull
  else if pathLimit ≤ Text.byteLength path then .error .nameTooLong
  else if path = "" then .error .missing
  else walk t followLast linkLimit (startOf cwd path) (Text.fields '/' path)

/-- The node that a path leads to, links followed to the end. -/
def stat (t : FileTree) (cwd : Location) (path : String) : Except LookupError Node :=
  (t.lookup cwd true path).map Place.node

/-- The target of the link that a path names, if it names one. -/
def readLink? (t : FileTree) (cwd : Location) (path : String) :
    Except LookupError (Option String) :=
  match t.lookup cwd false path with
  | .error e => .error e
  | .ok ⟨_, .link target⟩ => .ok (some target)
  | .ok _ => .ok none

end FileTree

end JavaHome
