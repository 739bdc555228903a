import JavaHome.Terminal.Control
import JavaHome.Terminal.Wrap

/-!
# Tables

A table of two columns in a frame, with a title above it. Each column is as wide as its widest cell.
Where the table does not fit, the wider column gives way until both are equally wide, and then both
give way evenly. Texts wrap at words within their cells; a word that does not fit is cut.
-/

namespace JavaHome.Terminal

/-- A title and rows of two cells. -/
structure Table where
  title : List Char
  rows : List (List Char × List Char)
  deriving Repr, DecidableEq

namespace Table

/-- The cells of a line that the frame takes: one before, between and after the columns. -/
def frameWidth : Nat := 3

/-- The blanks around the text of a cell. -/
def paddingWidth : Nat := 2

/-- Whether a table in a terminal of some width has room for the text of a cell. -/
def hasRoom (width : Nat) : Bool :=
  frameWidth + paddingWidth < width

/-- Whether a character begins a new line where texts are measured. -/
def isLineBreak (c : Char) : Bool :=
  let code := c.toNat
  code == 0x0A || (0x1C ≤ code && code ≤ 0x1E) || code == 0x85 || code == 0x2028 || code == 0x2029

/-- The width of the widest line of a text. -/
def textWidth (s : List Char) : Nat :=
  ((Text.fieldsOf '\n' (s.map fun c => if isLineBreak c then '\n' else c)).map cells).foldl max 0

/-- The width that a column of texts asks for within a limit. A column is never without any width.
-/
def columnWidth (limit : Nat) (column : List (List Char)) : Nat :=
  max 1 (min limit ((column.map textWidth).foldl max 0 + paddingWidth))

/-- Half of a number; of the two numbers beside a half of an odd one, the even one. -/
def evenHalf (n : Nat) : Nat :=
  if n % 2 = 0 then n / 2 else n / 2 + n / 2 % 2

/-- Two widths made to fit a limit together. The wider one gives way until both are equal, then each
gives half of the rest. -/
def shrink (limit left right : Nat) : Nat × Nat :=
  if left + right ≤ limit then (left, right)
  else if 2 * right ≤ limit then (limit - right, right)
  else if 2 * left ≤ limit then (left, limit - left)
  else
    let even := min left right
    let left := even - evenHalf (2 * even - limit)
    (left, limit - left)

/-- Widths that fit stay as they are. -/
theorem shrink_of_le {limit left right : Nat} (h : left + right ≤ limit) :
    shrink limit left right = (left, right) := by
  simp [shrink, h]

/-- The widths of the two columns of a table in a terminal of some width, blanks around the texts
included. -/
def columnWidths (t : Table) (width : Nat) : Nat × Nat :=
  let limit := width - frameWidth
  shrink limit (columnWidth limit (t.rows.map Prod.fst)) (columnWidth limit (t.rows.map Prod.snd))

/-- The lines of a cell, blanks around its text included. -/
def cellLines (width : Nat) (s : List Char) : List (List Char) :=
  if width ≤ paddingWidth then []
  else (wrap .left .ellipsis (width - paddingWidth) s).map fun line => ' ' :: line ++ [' ']

/-- Lines filled up to a number with empty lines of a width. -/
def fillLines (height width : Nat) (lines : List (List Char)) : List (List Char) :=
  lines ++ List.replicate (height - lines.length) (List.replicate width ' ')

/-- The lines of a row with columns of two widths. -/
def rowLines (widths : Nat × Nat) (row : List Char × List Char) : List (List Char) :=
  let left := cellLines widths.1 row.1
  let right := cellLines widths.2 row.2
  let height := max 1 (max left.length right.length)
  (fillLines height widths.1 left).zipWith (fun a b => '│' :: a ++ '│' :: b ++ ['│'])
    (fillLines height widths.2 right)

/-- A line of the frame, between two corners and with a joint. -/
def ruleLine (widths : Nat × Nat) (first joint last : Char) : List Char :=
  first :: List.replicate widths.1 '─' ++ joint :: List.replicate widths.2 '─' ++ [last]

/-- The lines of a title, in the middle over a table of some width. -/
def titleLines (width : Nat) (title : List Char) : List (List Char) :=
  wrap .center .fold width title

/-- The lines of a table with columns of two widths. -/
def linesFor (t : Table) (widths : Nat × Nat) : List (List Char) :=
  titleLines (widths.1 + widths.2 + frameWidth) t.title ++
    ruleLine widths '┌' '┬' '┐' :: t.rows.flatMap (rowLines widths) ++ [ruleLine widths '└' '┴' '┘']

/-- A line cut to the width of a terminal. -/
def cropLine (width : Nat) (line : List Char) : List Char :=
  if cells line ≤ width then line else fitCells width line

/-- The lines of a table in a terminal of some width. -/
def lines (t : Table) (width : Nat) : List (List Char) :=
  (t.linesFor (t.columnWidths width)).map (cropLine width)

end Table

end JavaHome.Terminal
