import JavaHome.Terminal.Cells
import JavaHome.Text.Blank
import JavaHome.Text.Fields

/-!
# Wrapping text

Lines are broken between words so that they fit a number of cells. A word that is too long is
folded, or cut at the end of its line, where three dots stand for the rest.
-/

namespace JavaHome.Terminal

open Text (isBlank trimEnd)

/-- What becomes of a word that is longer than a line. -/
inductive Overflow where
  | fold
  | ellipsis
  deriving Repr, DecidableEq

/-- Where text stands in its line: at the left as it is, at the left with blanks after it, or in the
middle. -/
inductive Justify where
  | ragged
  | left
  | center
  deriving Repr, DecidableEq

/-- The distance of tab stops. -/
def tabSize : Nat := 8

/-- Fields between tabs with blanks up to the next tab stop after all but the last one, from a
column on. -/
def expandFields (column : Nat) : List (List Char) → List Char
  | [] => []
  | [field] => field
  | field :: rest =>
    let column := column + cells field + 1
    let fill := if column % tabSize = 0 then 0 else tabSize - column % tabSize
    field ++ List.replicate (1 + fill) ' ' ++ expandFields (column + fill) rest

/-- A line with its tabs replaced by blanks. -/
def expandTabs (line : List Char) : List Char :=
  expandFields 0 (Text.fieldsOf '\t' line)

/-- The words of a line, at most `fuel` of them, each with the blanks after it, the first one also
with those before it. -/
def wordsFrom : Nat → List Char → List (List Char)
  | 0, _ => []
  | fuel + 1, s =>
    let lead := s.takeWhile isBlank
    let rest := s.drop lead.length
    let body := rest.takeWhile (!isBlank ·)
    if body = [] then []
    else
      let rest := rest.drop body.length
      let tail := rest.takeWhile isBlank
      (lead ++ body ++ tail) :: wordsFrom fuel (rest.drop tail.length)

/-- The words of a line. -/
def wordsOf (s : List Char) : List (List Char) :=
  wordsFrom s.length s

/-- A break before a position, unless that is the start of the line. -/
def breakAt (start : Nat) : List Nat :=
  if start = 0 then [] else [start]

/-- The breaks before the pieces of a folded word that starts at a position. -/
def foldBreaks (start : Nat) : List (List Char) → List Nat
  | [] => []
  | piece :: rest => breakAt start ++ foldBreaks (start + piece.length) rest

/-- The breaks of a line before the words that do not fit, given the position of the first word and
the cells taken on its line. -/
def breaksFrom (overflow : Overflow) (width start taken : Nat) : List (List Char) → List Nat
  | [] => []
  | word :: rest =>
    let next := start + word.length
    let size := cells (trimEnd word)
    if taken + size ≤ width then breaksFrom overflow width next (taken + cells word) rest
    else if size ≤ width then breakAt start ++ breaksFrom overflow width next (cells word) rest
    else
      match overflow with
      | .ellipsis => breakAt start ++ breaksFrom overflow width next (cells word) rest
      | .fold =>
        let pieces := chop width word
        foldBreaks start pieces ++
          breaksFrom overflow width next ((pieces.getLast?.map cells).getD taken) rest

/-- A line cut at positions. -/
def cutAt (start : Nat) (s : List Char) : List Nat → List (List Char)
  | [] => [s]
  | position :: rest => s.take (position - start) :: cutAt position (s.drop (position - start)) rest

/-- A line broken into lines of at most a number of cells. -/
def breakLine (overflow : Overflow) (width : Nat) (line : List Char) : List (List Char) :=
  cutAt 0 line (breaksFrom overflow width 0 0 (wordsOf line))

/-- A line without those blanks at its end that go beyond a width. -/
def dropOverhang (width : Nat) (line : List Char) : List Char :=
  let blanks := (line.reverse.takeWhile isBlank).length
  line.take (line.length - min blanks (line.length - width))

/-- A line cut to a width. -/
def truncate (overflow : Overflow) (width : Nat) (line : List Char) : List Char :=
  if cells line ≤ width then line
  else
    match overflow with
    | .fold => fitCells width line
    | .ellipsis => fitCells (width - 1) line ++ ['…']

/-- A line in its place within a width. -/
def justifyLine (justify : Justify) (overflow : Overflow) (width : Nat) (line : List Char) :
    List Char :=
  match justify with
  | .ragged => truncate overflow width line
  | .left =>
    let line := truncate overflow width line
    line ++ List.replicate (width - cells line) ' '
  | .center =>
    let line := truncate overflow width (trimEnd line)
    let line := List.replicate ((width - cells line) / 2) ' ' ++ line
    line ++ List.replicate (width - cells line) ' '

/-- A text wrapped to a width. -/
def wrap (justify : Justify) (overflow : Overflow) (width : Nat) (s : List Char) :
    List (List Char) :=
  (Text.fieldsOf '\n' s).flatMap fun line =>
    (breakLine overflow width (expandTabs line)).map fun part =>
      justifyLine justify overflow width (dropOverhang width part)

/-- The lines of a text that is not wrapped. Only tabs are replaced. -/
def unwrapped (s : List Char) : List (List Char) :=
  (Text.fieldsOf '\n' s).map expandTabs

/-- Lines as output. -/
def printLines (lines : List (List Char)) : List Char :=
  lines.flatMap (· ++ ['\n'])

end JavaHome.Terminal
