/-!
# Characters and positions of a YAML text

The character classes of YAML 1.1, and a reader's position in a text. Lines end with a line feed or
one of three rarer line breaks; a carriage return is no part of a text, whose lines are read before.
-/

namespace JavaHome.Yaml

/-- Why a text is no YAML document: it breaks a rule of the language, an escape in it names a number
that is no code point, or a version in it has too many digits to be read as a number. -/
inductive Fault where
  | malformed
  | codePoint (code : Nat)
  | tooManyDigits (count : Nat)
  deriving Repr, DecidableEq

/-- The characters that end a line. -/
def isBreak (c : Char) : Bool :=
  c == '\n' || c == '\x85' || c == '\u2028' || c == '\u2029'

/-- The blanks within a line. -/
def isSpace (c : Char) : Bool :=
  c == ' ' || c == '\t'

/-- The characters that end a word. -/
def isGap (c : Char) : Bool :=
  isSpace c || isBreak c

/-- The characters that YAML admits in a text. -/
def isAllowed (c : Char) : Bool :=
  let code := c.toNat
  code == 0x09 || code == 0x0A || code == 0x0D || (0x20 ≤ code && code ≤ 0x7E) || code == 0x85
    || (0xA0 ≤ code && code ≤ 0xD7FF) || (0xE000 ≤ code && code ≤ 0xFFFD) || 0x10000 ≤ code

/-- The characters of anchors, tag handles and directive names. -/
def isWordChar (c : Char) : Bool :=
  c.isAlphanum || c == '-' || c == '_'

/-- The characters of a tag's address. -/
def isAddressChar (c : Char) : Bool :=
  c.isAlphanum || c ∈ "-;/?:@&=+$,_.!~*'()[]%".toList

/-- Whether a text is at its end or at a blank or line break. -/
def atGap : List Char → Bool
  | [] => true
  | c :: _ => isGap c

/-- Whether a text is at its end, at a space or at a line break. -/
def atSpaceOrBreak : List Char → Bool
  | [] => true
  | c :: _ => c == ' ' || isBreak c

/-- A position in a text: the characters to come, and the characters, lines and columns passed. -/
structure Cursor where
  rest : List Char
  index : Nat
  line : Nat
  column : Nat
  deriving Repr, DecidableEq

namespace Cursor

/-- The start of a text. -/
def start (text : List Char) : Cursor :=
  ⟨text, 0, 0, 0⟩

/-- The position after the next character. A byte order mark takes no column. -/
def next (c : Cursor) : Cursor :=
  match c.rest with
  | [] => c
  | ch :: rest =>
    if isBreak ch then ⟨rest, c.index + 1, c.line + 1, 0⟩
    else if ch = '\uFEFF' then ⟨rest, c.index + 1, c.line, c.column⟩
    else ⟨rest, c.index + 1, c.line, c.column + 1⟩

/-- The position after some characters. -/
def advance : Nat → Cursor → Cursor
  | 0, c => c
  | n + 1, c => advance n c.next

/-- The next character. -/
def peek? (c : Cursor) : Option Char :=
  c.rest.head?

/-- Whether a character comes next. -/
def isAt (c : Cursor) (ch : Char) : Bool :=
  c.rest.head? == some ch

/-- The longest run of characters of a class, and the position after it. -/
def span (c : Cursor) (p : Char → Bool) : List Char × Cursor :=
  let run := c.rest.takeWhile p
  (run, c.advance run.length)

/-- The position after the longest run of characters of a class. -/
def skip (c : Cursor) (p : Char → Bool) : Cursor :=
  (c.span p).2

/-- The line break that comes next, in the form in which it counts, and the position after it. -/
def lineBreak? (c : Cursor) : Option (Char × Cursor) :=
  match c.rest with
  | [] => none
  | ch :: _ =>
    if isBreak ch then some (if ch = '\x85' then '\n' else ch, c.next) else none

/-- Whether three equal characters and a gap come next. -/
def atMark (c : Cursor) (ch : Char) : Bool :=
  match c.rest with
  | x :: y :: z :: rest => x == ch && y == ch && z == ch && atGap rest
  | _ => false

/-- Whether a mark comes next that starts or ends a document. -/
def atDocumentMark (c : Cursor) : Bool :=
  c.atMark '-' || c.atMark '.'

/-- The position after blanks, a comment if one comes next, and all the rest of the comment's line.
-/
def skipComment (c : Cursor) : Cursor :=
  let c := c.skip (· == ' ')
  if c.isAt '#' then c.skip (!isBreak ·) else c

/-- The position at the start of the next line, if nothing but blanks and a comment comes before it.
-/
def endLine (c : Cursor) : Except Fault Cursor :=
  let c := c.skipComment
  match c.lineBreak? with
  | some (_, after) => .ok after
  | none => if c.rest = [] then .ok c else .error .malformed

end Cursor

end JavaHome.Yaml
