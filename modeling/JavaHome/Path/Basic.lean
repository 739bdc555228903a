import JavaHome.Text.Fields

/-!
# Paths

A path is a starting point and a list of names. Reading a path from text drops what carries no
meaning: repeated slashes, `.` names and a slash at the end. It keeps `..` names, whose meaning
depends on links. Exactly two slashes in front are a starting point of their own.
-/

namespace JavaHome

/-- Where a path starts: at the current directory, at the root, or at the root written with two
slashes. -/
inductive Anchor where
  | relative
  | root
  | doubleRoot
  deriving Repr, DecidableEq

/-- The slashes that a starting point is written with. -/
def Anchor.text : Anchor → String
  | .relative => ""
  | .root => "/"
  | .doubleRoot => "//"

/-- The starting point that a number of slashes in front of a path stands for. -/
def Anchor.ofSlashes : Nat → Anchor
  | 0 => .relative
  | 2 => .doubleRoot
  | _ => .root

/-- A path: names to follow from a starting point. -/
structure Path where
  anchor : Anchor
  parts : List String
  deriving Repr, DecidableEq

namespace Path

/-- Whether a field between slashes is a name to follow; empty fields and `.` are not. -/
def isStep (field : String) : Bool :=
  field ≠ "" && field ≠ "."

/-- The path that a text denotes. -/
def ofString (s : String) : Path where
  anchor := .ofSlashes (s.toList.takeWhile (· == '/')).length
  parts := (Text.fields '/' s).filter isStep

/-- The text of a path; the path without names that starts at the current directory is written `.`.
-/
def text (p : Path) : String :=
  if p.anchor = .relative ∧ p.parts = [] then "."
  else p.anchor.text ++ "/".intercalate p.parts

/-- Whether a path does not start at the current directory. -/
def isAbsolute (p : Path) : Bool :=
  p.anchor ≠ .relative

/-- The second path, taken from where the first one leads. -/
def join (p q : Path) : Path :=
  if q.isAbsolute then q else { p with parts := p.parts ++ q.parts }

/-- A path followed by one more name. -/
def child (p : Path) (name : String) : Path :=
  { p with parts := p.parts ++ [name] }

/-- The last name of a path, or the empty text if it has none. -/
def name (p : Path) : String :=
  p.parts.getLast?.getD ""

/-- A path without its last name. -/
def parent (p : Path) : Path :=
  { p with parts := p.parts.dropLast }

/-- A path with another last name. -/
def withName (p : Path) (name : String) : Path :=
  p.parent.child name

/-- The characters from the last dot of a name on, provided that some stand before the dot and some
after. -/
def suffixOf (name : List Char) : List Char :=
  let backwards := name.reverse
  let tail := backwards.takeWhile (· ≠ '.')
  match backwards.dropWhile (· ≠ '.') with
  | _ :: _ :: _ => if tail = [] then [] else '.' :: tail.reverse
  | _ => []

/-- The suffix of the last name, its dot included. -/
def suffix (p : Path) : String :=
  String.ofList (suffixOf p.name.toList)

/-- The directory with the given names under the root. -/
def ofLocation (names : List String) : Path :=
  ⟨.root, names⟩

/-- A path from the root, with the current directory put in front where needed. -/
def absolute (cwd : List String) (p : Path) : Path :=
  (ofLocation cwd).join p

/-- One name of a path taken by the text alone: `..` takes back the name before it. -/
def lexicalStep (taken : List String) (part : String) : List String :=
  if part = ".." then taken.dropLast else taken ++ [part]

/-- A path without `..`, each of which takes back the name before it, whatever a link there may say.
-/
def lexical (p : Path) : Path :=
  { p with parts := p.parts.foldl lexicalStep [] }

@[simp] theorem parent_child (p : Path) (name : String) : (p.child name).parent = p := by
  simp [parent, child]

@[simp] theorem name_child (p : Path) (name : String) : (p.child name).name = name := by
  simp [Path.name, child]

@[simp] theorem withName_child (p : Path) (old new : String) :
    (p.child old).withName new = p.child new := by
  simp [withName]

end Path

end JavaHome
