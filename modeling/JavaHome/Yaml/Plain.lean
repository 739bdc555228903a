import JavaHome.Yaml.Cursor

/-!
# Plain scalars

A scalar without quotes goes on until a colon before a gap, a comment, a line that is indented too
little, or, within brackets, a sign of them. A line break in it counts as a blank, and further ones
count as themselves.
-/

namespace JavaHome.Yaml.Plain

/-- Whether a colon before these characters ends a plain scalar. -/
def endsKey (inFlow : Bool) : List Char → Bool
  | [] => true
  | c :: _ => isGap c || (inFlow && c ∈ [',', '[', ']', '{', '}'])

/-- Whether a character before some others ends the part of a plain scalar on one line. -/
def stops (inFlow : Bool) (c : Char) (rest : List Char) : Bool :=
  isGap c || (c == ':' && endsKey inFlow rest) || (inFlow && c ∈ [',', '?', '[', ']', '{', '}'])

/-- The next part of a plain scalar without blanks. -/
def run (inFlow : Bool) : List Char → List Char
  | [] => []
  | c :: rest => if stops inFlow c rest then [] else c :: run inFlow rest

/-- Line breaks and the spaces between them, at most `fuel` characters of them; none if a document
mark follows one of the line breaks. -/
def breaks : Nat → Cursor → Option (List Char) × Cursor
  | 0, c => (some [], c)
  | fuel + 1, c =>
    if c.isAt ' ' then breaks fuel c.next
    else
      match c.lineBreak? with
      | none => (some [], c)
      | some (b, after) =>
        if after.atDocumentMark then (none, after)
        else
          let (more, c) := breaks fuel after
          (more.map (b :: ·), c)

/-- What the first line break of several counts as. -/
def fold (first : Char) (others : List Char) : List Char :=
  if first ≠ '\n' then first :: others
  else if others = [] then [' ']
  else others

/-- What comes between two parts of a plain scalar, the position after it, and whether a line ended
in it. Before a document mark nothing comes. -/
def gap (c : Cursor) : List Char × Cursor × Bool :=
  let (spaces, c) := c.span (· == ' ')
  match c.lineBreak? with
  | none => (spaces, c, false)
  | some (b, after) =>
    if after.atDocumentMark then ([], after, true)
    else
      match breaks after.rest.length after with
      | (none, c) => ([], c, true)
      | (some others, c) => (fold b others, c, true)

/-- Parts of a plain scalar, at most `fuel` of them, given what came between the last part and here.
The flag tells whether a line ended last. -/
def parts (inFlow : Bool) (indent : Nat) :
    Nat → Cursor → List Char → Bool → List Char × Cursor × Bool
  | 0, c, _, lineEnded => ([], c, lineEnded)
  | fuel + 1, c, between, lineEnded =>
    let part := run inFlow c.rest
    if c.isAt '#' ∨ part = [] then ([], c, lineEnded)
    else
      let (spaces, after, ended) := gap (c.advance part.length)
      if spaces = [] ∨ after.isAt '#' ∨ (¬inFlow ∧ after.column < indent) then
        (between ++ part, after, ended)
      else
        let (more, last, ended) := parts inFlow indent fuel after spaces ended
        (between ++ part ++ more, last, ended)

/-- The plain scalar at a position, the position after it, and whether a line ended last. Its lines
after the first one are indented at least by `indent`. -/
def scan (inFlow : Bool) (indent : Nat) (c : Cursor) : List Char × Cursor × Bool :=
  parts inFlow indent c.rest.length c [] false

/-- Whether a plain scalar starts with a character before some others. -/
def starts (inFlow : Bool) (c : Char) (rest : List Char) : Bool :=
  if c = '-' then !atGap rest
  else if c = '?' ∨ c = ':' then !inFlow && !atGap rest
  else !isGap c && !(c ∈ ",[]{}#&*!|>'\"%@\x60".toList)

end JavaHome.Yaml.Plain
