import JavaHome.Text.Hex
import JavaHome.Yaml.Cursor

/-!
# Quoted scalars

Between single quotes a quote is written twice and all else stands for itself; between double quotes
a backslash begins an escape. In both a line break counts as a blank, and further ones count as
themselves.
-/

namespace JavaHome.Yaml.QuotedScalar

/-- The character that an escape of one letter stands for. -/
def simpleEscape? : Char → Option Char
  | '0' => some '\x00'
  | 'a' => some '\x07'
  | 'b' => some '\x08'
  | 't' => some '\t'
  | '\t' => some '\t'
  | 'n' => some '\n'
  | 'v' => some '\x0B'
  | 'f' => some '\x0C'
  | 'r' => some '\r'
  | 'e' => some '\x1B'
  | ' ' => some ' '
  | '"' => some '"'
  | '\\' => some '\\'
  | '/' => some '/'
  | 'N' => some '\x85'
  | '_' => some '\xA0'
  | 'L' => some '\u2028'
  | 'P' => some '\u2029'
  | _ => none

/-- How many hexadecimal digits follow the letter of an escape by number. -/
def codeWidth? : Char → Option Nat
  | 'x' => some 2
  | 'u' => some 4
  | 'U' => some 8
  | _ => none

/-- The character that a number stands for. -/
def ofCode (code : Nat) : Except Fault Char :=
  if code ≤ 0x10FFFF then
    .ok (if h : code.isValidChar then Char.ofNatAux code h else '\uFFFD')
  else .error (.codePoint code)

/-- Line breaks, each with the blanks after it, at most `fuel` of them; none of them may have a
document mark after it. -/
def breaks : Nat → Cursor → Except Fault (List Char × Cursor)
  | 0, c => .ok ([], c)
  | fuel + 1, c =>
    if c.atDocumentMark then .error .malformed
    else
      let c := c.skip isSpace
      match c.lineBreak? with
      | none => .ok ([], c)
      | some (b, after) => do
        let (more, c) ← breaks fuel after
        return (b :: more, c)

/-- What blanks or line breaks within quotes count as, and the position after them. -/
def gap (c : Cursor) : Except Fault (List Char × Cursor) :=
  let (spaces, c) := c.span isSpace
  match c.lineBreak? with
  | none => if c.rest = [] then .error .malformed else .ok (spaces, c)
  | some (b, after) => do
    let (others, c) ← breaks (after.rest.length + 1) after
    if b ≠ '\n' then return (b :: others, c)
    else if others = [] then return ([' '], c)
    else return (others, c)

/-- What the escape after a backslash stands for, and the position after it. -/
def escape (c : Cursor) : Except Fault (List Char × Cursor) :=
  match c.peek? with
  | none => .error .malformed
  | some letter =>
    match simpleEscape? letter, codeWidth? letter with
    | some ch, _ => .ok ([ch], c.next)
    | none, some width =>
      let digits := c.next.rest.take width
      match Text.hexNumber? digits with
      | some code =>
        if digits.length = width then do
          return ([← ofCode code], c.next.advance width)
        else .error .malformed
      | none => .error .malformed
    | none, none =>
      match c.lineBreak? with
      | some (_, after) => breaks (after.rest.length + 1) after
      | none => .error .malformed

/-- The rest of a quoted scalar up to and with its last quote, at most `fuel` characters and gaps.
-/
def content (double : Bool) : Nat → Cursor → Except Fault (List Char × Cursor)
  | 0, _ => .error .malformed
  | fuel + 1, c =>
    match c.rest with
    | [] => .error .malformed
    | ch :: rest =>
      if double ∧ ch = '"' then .ok ([], c.next)
      else if ¬double ∧ ch = '\x27' then
        if rest.head? = some '\x27' then do
          let (more, last) ← content double fuel c.next.next
          return ('\x27' :: more, last)
        else .ok ([], c.next)
      else if double ∧ ch = '\\' then do
        let (part, after) ← escape c.next
        let (more, last) ← content double fuel after
        return (part ++ more, last)
      else if isGap ch then do
        let (part, after) ← gap c
        let (more, last) ← content double fuel after
        return (part ++ more, last)
      else do
        let (more, last) ← content double fuel c.next
        return (ch :: more, last)

/-- The quoted scalar at a position, and the position after it. -/
def scan (double : Bool) (c : Cursor) : Except Fault (List Char × Cursor) :=
  content double (c.rest.length + 1) c.next

end JavaHome.Yaml.QuotedScalar
