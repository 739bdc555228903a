import JavaHome.FileTree.Lookup

/-!
# Canonical paths

A path is made canonical by its text: names are taken one after the other, a name that is a link is
replaced by the canonical form of its target, and `..` takes back the name before it. Names that
cannot be looked up stay as they are, so that a path need not exist. A link that leads back to
itself ends this: it and the rest of the path stay as written, apart from `..`.
-/

namespace JavaHome

/-- Why a path has no canonical form: it goes through a link inside its own target, with the path
through that link as far as it is known; or a null character stands in it; or links nest too deeply.
-/
inductive Obstacle where
  | loop (path : Path)
  | embeddedNull
  | tooDeep
  deriving Repr, DecidableEq

namespace Path

/-- A path one directory up, by its text: a leading `..` has nothing to take back. -/
def up (p : Path) : Path :=
  match p.anchor, p.parts.getLast? with
  | .relative, none => p.child ".."
  | _, none => p
  | _, some last => if last = ".." then p.child ".." else p.parent

/-- The path that fields between slashes spell. -/
def ofFields (fields : List String) : Path :=
  ofString ("/".intercalate fields)

end Path

/-- What is said of a loop met before the rest of a path was taken. -/
def Obstacle.before (rest : List String) : Obstacle → Obstacle
  | .loop p => .loop (p.join (Path.ofFields rest))
  | .embeddedNull => .embeddedNull
  | .tooDeep => .tooDeep

namespace FileTree

/-- How deeply links may stand inside the targets of links. Each of them takes a frame of the
interpreter, which has a thousand of them, and its caller is taken to use the others. -/
def nestingLimit : Nat := 960

/-- Where the target of a link is taken from: the root if a slash comes first, else the directory of
the link. -/
def targetStart (here : Path) (target : String) : Path :=
  if target.toList.head? = some '/' then ⟨.root, []⟩ else here

/-- The target of the link at a path; a path that cannot be looked up is no link. -/
def linkAt (t : FileTree) (cwd : Location) (p : Path) : Except Obstacle (Option String) :=
  match t.readLink? cwd p.text with
  | .ok target => .ok target
  | .error .embeddedNull => .error .embeddedNull
  | .error _ => .ok none

/-- Take fields one after the other. The target of a link is left to `expand`, which gets the link,
the directory that holds it, and its target. -/
def settleFrom (t : FileTree) (cwd : Location)
    (expand : Path → Path → String → Except Obstacle Path)
    (here : Path) : List String → Except Obstacle Path
  | [] => .ok here
  | field :: rest =>
    if field = "" ∨ field = "." then settleFrom t cwd expand here rest
    else if field = ".." then settleFrom t cwd expand here.up rest
    else
      match t.linkAt cwd (here.child field) with
      | .error e => .error e
      | .ok none => settleFrom t cwd expand (here.child field) rest
      | .ok (some target) =>
        match expand (here.child field) here target with
        | .error e => .error (e.before rest)
        | .ok there => settleFrom t cwd expand there rest

/-- Take fields one after the other, with links nested at most `depth` deep. The links whose targets
are being taken are `opened`. -/
def settle (t : FileTree) (cwd : Location) :
    Nat → List Path → Path → List String → Except Obstacle Path
  | 0, _ => settleFrom t cwd fun _ _ _ => .error .tooDeep
  | depth + 1, opened => settleFrom t cwd fun link here target =>
      if link ∈ opened then .error (.loop link)
      else settle t cwd depth (link :: opened) (targetStart here target) (Text.fields '/' target)

/-- The path with its links replaced by their targets. -/
def settled (t : FileTree) (cwd : Location) (p : Path) : Except Obstacle Path :=
  settle t cwd nestingLimit [] ⟨if p.isAbsolute then .root else .relative, []⟩ p.parts

end FileTree

end JavaHome
