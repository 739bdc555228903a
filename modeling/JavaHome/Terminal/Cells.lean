import JavaHome.Terminal.CellTable

/-!
# Cells

How many cells of a terminal a text takes, and how texts are cut by cells. Most characters take one
cell. Marks join the character before them, a zero width joiner joins the characters on both sides,
and an emoji selector widens a narrow character.
-/

namespace JavaHome.Terminal

/-- The zero width joiner. -/
def joiner : Char := '\u200d'

/-- The emoji selector. -/
def emojiSelector : Char := '\ufe0f'

/-- The cells that a character takes by itself. -/
def cellWidth (c : Char) : Nat :=
  if zeroWidth.has c.toNat then 0 else if doubleWidth.has c.toNat then 2 else 1

/-- Whether an emoji selector widens a character. -/
def isWidened (c : Char) : Bool :=
  widened.has c.toNat

/-- The cells that a text takes, given the last character that an emoji selector may widen. -/
def cellsFrom (last : Option Char) : List Char → Nat
  | [] => 0
  | [c] =>
    if c = joiner then 0
    else if c = emojiSelector then if last.any isWidened then 1 else 0
    else cellWidth c
  | c :: next :: rest =>
    if c = joiner then cellsFrom last rest
    else if c = emojiSelector then
      (if last.any isWidened then 1 else 0) + cellsFrom none (next :: rest)
    else cellWidth c + cellsFrom (if cellWidth c = 0 then last else some c) (next :: rest)

/-- The cells that a text takes. -/
def cells (s : List Char) : Nat :=
  cellsFrom none s

/-- Characters that are not cut apart, and the cells they take together. -/
structure Cluster where
  chars : List Char
  width : Nat
  deriving Repr, DecidableEq

/-- The clusters of a text, given those before it, the last first, and the last character that an
emoji selector may widen. -/
def clustersFrom (last : Option Char) (before : List Cluster) : List Char → List Cluster
  | [] => before.reverse
  | [c] => (if c = joiner ∨ c = emojiSelector then attach c [] before else place c before).reverse
  | c :: next :: rest =>
    if c = joiner then
      match before with
      | [] => clustersFrom last [⟨[c], 0⟩] (next :: rest)
      | _ => clustersFrom last (attach c [next] before) rest
    else if c = emojiSelector then
      match before with
      | [] => clustersFrom last [⟨[c], 0⟩] (next :: rest)
      | _ =>
        clustersFrom (if last.any isWidened then none else last) (attach c [] before) (next :: rest)
    else clustersFrom (if cellWidth c = 0 then last else some c) (place c before) (next :: rest)
where
  /-- A joiner or selector, and the character it joins, go to the last cluster. -/
  attach (c : Char) (joined : List Char) : List Cluster → List Cluster
    | [] => [⟨[c], 0⟩]
    | cluster :: others =>
      let wider := if c = emojiSelector ∧ last.any isWidened then 1 else 0
      ⟨cluster.chars ++ c :: joined, cluster.width + wider⟩ :: others
  /-- A character without width goes to the last cluster, others begin one. -/
  place (c : Char) : List Cluster → List Cluster
    | cluster :: others =>
      if cellWidth c = 0 then ⟨cluster.chars ++ [c], cluster.width⟩ :: others
      else ⟨[c], cellWidth c⟩ :: cluster :: others
    | [] => [⟨[c], cellWidth c⟩]

/-- The clusters of a text. -/
def clusters (s : List Char) : List Cluster :=
  clustersFrom none [] s

/-- The first clusters that take a number of cells together; where a cluster would be cut, blanks
stand for its part. -/
def takeCells : Nat → List Cluster → List Char
  | _, [] => []
  | 0, cluster :: rest => if cluster.width = 0 then cluster.chars ++ takeCells 0 rest else []
  | n + 1, cluster :: rest =>
    if cluster.width ≤ n + 1 then cluster.chars ++ takeCells (n + 1 - cluster.width) rest
    else [' ']

/-- A text cut or filled up with blanks to a number of cells. -/
def fitCells (total : Nat) (s : List Char) : List Char :=
  let size := cells s
  if size ≤ total then s ++ List.replicate (total - size) ' '
  else if total = 0 then []
  else takeCells total (clusters s)

/-- Clusters cut into pieces of at most `width` cells, given what the current piece holds and the
cells it takes. What takes no cells is left out at the end. -/
def chopFrom (width : Nat) (piece : List Char) (taken : Nat) : List Cluster → List (List Char)
  | [] => if taken = 0 then [] else [piece]
  | cluster :: rest =>
    if width < taken + cluster.width then
      piece :: chopFrom width cluster.chars cluster.width rest
    else chopFrom width (piece ++ cluster.chars) (taken + cluster.width) rest

/-- A text cut into pieces of at most `width` cells. -/
def chop (width : Nat) (s : List Char) : List (List Char) :=
  chopFrom width [] 0 (clusters s)

end JavaHome.Terminal
