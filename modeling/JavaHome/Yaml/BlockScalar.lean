import JavaHome.Yaml.Cursor

/-!
# Block scalars

After `|` the lines of a scalar stand for themselves, after `>` a single line break between two
lines that start with text counts as a blank. The indentation is that of the first line with text,
or it is given by a digit. A minus drops the line breaks at the end, a plus keeps all of them, else
one is kept.
-/

namespace JavaHome.Yaml.BlockScalar

/-- Which line breaks at the end of a block scalar are kept. -/
inductive Chomping where
  | strip
  | clip
  | keep
  deriving Repr, DecidableEq

/-- How a block scalar is to be read: its chomping and, if given, its indentation. -/
structure Header where
  chomping : Chomping
  increment : Option Nat

/-- The sign for a chomping at a position, and the position after it. -/
def chomping? (c : Cursor) : Option (Chomping × Cursor) :=
  match c.peek? with
  | some '+' => some (.keep, c.next)
  | some '-' => some (.strip, c.next)
  | _ => none

/-- The digit for an indentation at a position, and the position after it. Zero is none. -/
def increment? (c : Cursor) : Except Fault (Option Nat × Cursor) :=
  match c.peek? with
  | some ch =>
    if ch = '0' then .error .malformed
    else if ch.isDigit then .ok (some (ch.toNat - '0'.toNat), c.next)
    else .ok (none, c)
  | none => .ok (none, c)

/-- The signs after the first one, in either order, and the position at the start of the next line.
-/
def header (c : Cursor) : Except Fault (Header × Cursor) := do
  let (header, c) ←
    match chomping? c with
    | some (chomping, c) => do
      let (increment, c) ← increment? c
      pure (⟨chomping, increment⟩, c)
    | none => do
      let (increment, c) ← increment? c
      match increment, chomping? c with
      | some n, some (chomping, c) => pure (⟨chomping, some n⟩, c)
      | _, _ => pure (⟨.clip, increment⟩, c)
  if atSpaceOrBreak c.rest then
    return (header, ← c.endLine)
  else
    throw .malformed

/-- The line breaks before the first line with text, the largest column on the way, and the position
of that text. -/
def leading : Nat → Cursor → Nat → List Char × Nat × Cursor
  | 0, c, widest => ([], widest, c)
  | fuel + 1, c, widest =>
    if c.isAt ' ' then leading fuel c.next (max widest c.next.column)
    else
      match c.lineBreak? with
      | none => ([], widest, c)
      | some (b, after) =>
        let (more, widest, c) := leading fuel after widest
        (b :: more, widest, c)

/-- The position after spaces, but not past a column. -/
def indentTo (indent : Nat) (c : Cursor) : Cursor :=
  c.advance ((c.rest.take (indent - c.column)).takeWhile (· == ' ')).length

/-- The line breaks of lines without text, and the position at the indentation of the line after
them. -/
def breaks (indent : Nat) : Nat → Cursor → List Char × Cursor
  | 0, c => ([], c)
  | fuel + 1, c =>
    let c := indentTo indent c
    match c.lineBreak? with
    | none => ([], c)
    | some (b, after) =>
      let (more, c) := breaks indent fuel after
      (b :: more, c)

/-- Whether a line at a position starts with text and not with a blank. -/
def atText (c : Cursor) : Bool :=
  match c.rest with
  | [] => true
  | ch :: _ => !isSpace ch

/-- What stands between two lines, given the line break and the further ones. -/
def joint (folded : Bool) (lineBreak further : List Char) (textBefore textAfter : Bool) :
    List Char :=
  if folded ∧ lineBreak = ['\n'] ∧ textBefore ∧ textAfter then
    if further = [] then [' '] else []
  else lineBreak

/-- The lines of a block scalar, at most `fuel` of them; what the last line ends with, the line
breaks after that, and the position after them. -/
def lines (folded : Bool) (indent : Nat) :
    Nat → Cursor → List Char → List Char × List Char × List Char × Cursor
  | 0, c, before => ([], [], before, c)
  | fuel + 1, c, before =>
    let textBefore := atText c
    let (line, c) := c.span (!isBreak ·)
    let (lineBreak, c) :=
      match c.lineBreak? with
      | some (b, after) => ([b], after)
      | none => ([], c)
    let (further, c) := breaks indent (c.rest.length + 1) c
    if c.column = indent ∧ c.rest ≠ [] then
      let (more, lastBreak, atEnd, last) := lines folded indent fuel c further
      (before ++ line ++ joint folded lineBreak further textBefore (atText c) ++ more,
        lastBreak, atEnd, last)
    else (before ++ line, lineBreak, further, c)

/-- The block scalar at a position, and the position after it. `minimum` is the least column of its
lines. -/
def scan (folded : Bool) (minimum : Nat) (c : Cursor) : Except Fault (List Char × Cursor) := do
  let (header, c) ← header c.next
  let (before, indent, c) :=
    match header.increment with
    | none =>
      let (before, widest, c) := leading c.rest.length c 0
      (before, max minimum widest, c)
    | some n =>
      let indent := minimum + n - 1
      let (before, c) := breaks indent (c.rest.length + 1) c
      (before, indent, c)
  let (text, lastBreak, atEnd, c) :=
    if c.column = indent ∧ c.rest ≠ [] then lines folded indent (c.rest.length + 1) c before
    else ([], [], before, c)
  match header.chomping with
  | .strip => return (text, c)
  | .clip => return (text ++ lastBreak, c)
  | .keep => return (text ++ lastBreak ++ atEnd, c)

end JavaHome.Yaml.BlockScalar
