import JavaHome.Text.Digit
import JavaHome.Text.Utf8
import JavaHome.Yaml.QuotedScalar

/-!
# Tokens

The words of a YAML text, and how those that stand before a node or a document are read: anchors and
aliases, tags, and directives.
-/

namespace JavaHome.Yaml

/-- What a directive says: the major version of the language, that a tag handle is defined, or
something that does not matter. -/
inductive Directive where
  | version (major : Nat)
  | tagHandle (handle : List Char)
  | other
  deriving Repr, DecidableEq

/-- The words of a YAML text. Of a tag only the handle counts, which has to be defined. -/
inductive Token where
  | streamEnd
  | directive (d : Directive)
  | documentStart
  | documentEnd
  | blockSequenceStart
  | blockMappingStart
  | blockEnd
  | flowSequenceStart
  | flowMappingStart
  | flowSequenceEnd
  | flowMappingEnd
  | blockEntry
  | flowEntry
  | key
  | value
  | reference (name : List Char)
  | anchor (name : List Char)
  | tag (handle : Option (List Char))
  | scalar (text : List Char)
  deriving Repr, DecidableEq

namespace Token

/-- Whether a collection opens at a word. A sequence that is not indented opens at its entries. -/
def opensCollection : Token → Bool
  | blockSequenceStart => true
  | blockMappingStart => true
  | flowSequenceStart => true
  | flowMappingStart => true
  | blockEntry => true
  | _ => false

/-- Whether an anchor's name may end before some characters. -/
def endsAnchor : List Char → Bool
  | [] => true
  | c :: _ => isGap c || c ∈ ['?', ':', ',', ']', '\x7d', '%', '@', '\x60']

/-- The name after the sign of an anchor or an alias, and the position after it. -/
def anchorName (c : Cursor) : Except Fault (List Char × Cursor) :=
  let (name, after) := c.next.span isWordChar
  if name = [] ∨ ¬endsAnchor after.rest then .error .malformed else .ok (name, after)

/-- The bytes that escapes in an address write, and the position after them. -/
def escapedBytes : Nat → Cursor → Except Fault (List UInt8 × Cursor)
  | 0, c => .ok ([], c)
  | fuel + 1, c =>
    if c.isAt '%' then
      match c.next.rest.take 2, Text.hexNumber? (c.next.rest.take 2) with
      | [_, _], some byte => do
        let (more, last) ← escapedBytes fuel (c.next.advance 2)
        return (UInt8.ofNat byte :: more, last)
      | _, _ => .error .malformed
    else .ok ([], c)

/-- The position after the address of a tag; escapes in it must be UTF-8. -/
def addressEnd : Nat → Cursor → Except Fault Cursor
  | 0, c => .ok c
  | fuel + 1, c =>
    match c.rest with
    | [] => .ok c
    | ch :: _ =>
      if ch = '%' then do
        let (bytes, after) ← escapedBytes c.rest.length c
        match Text.Utf8.decode bytes with
        | .ok _ => addressEnd fuel after
        | .error _ => .error .malformed
      else if isAddressChar ch then addressEnd fuel c.next
      else .ok c

/-- The position after an address that is not empty. -/
def address (c : Cursor) : Except Fault Cursor := do
  let after ← addressEnd c.rest.length c
  if after.index = c.index then throw .malformed else return after

/-- The handle of a tag: an exclamation mark, or a word between two of them. -/
def tagHandle (c : Cursor) : Except Fault (List Char × Cursor) :=
  if ¬c.isAt '!' then .error .malformed
  else if c.next.isAt ' ' then .ok (['!'], c.next)
  else
    let (word, after) := c.next.span isWordChar
    if after.isAt '!' then .ok ('!' :: word ++ ['!'], after.next) else .error .malformed

/-- The handle of the tag at a position, if it has one, and the position after the tag. -/
def tagAt (c : Cursor) : Except Fault (Option (List Char) × Cursor) := do
  let (handle, after) ←
    if c.next.isAt '<' then do
      let after ← address (c.advance 2)
      if after.isAt '>' then pure (none, after.next) else throw .malformed
    else if atGap c.next.rest then pure (none, c.next)
    else do
      let word := c.next.rest.takeWhile fun ch => !(ch == ' ' || isBreak ch)
      let (handle, after) ← if '!' ∈ word then tagHandle c else pure (['!'], c.next)
      pure (some handle, ← address after)
  if atSpaceOrBreak after.rest then return (handle, after) else throw .malformed

/-- The number at a position. -/
def versionNumber (c : Cursor) : Except Fault (Nat × Cursor) :=
  let (digits, after) := c.span Char.isDigit
  if digits = [] then .error .malformed
  else if Text.numeralLimit < digits.length then .error (.tooManyDigits digits.length)
  else .ok (Text.numeralValue digits, after)

/-- The directive at a position, and the position after its line. -/
def directiveAt (c : Cursor) : Except Fault (Directive × Cursor) := do
  let (name, after) := c.next.span isWordChar
  if name = [] ∨ ¬atSpaceOrBreak after.rest then throw .malformed
  let (found, after) ←
    if name = "YAML".toList then do
      let (major, after) ← versionNumber (after.skip (· == ' '))
      if ¬after.isAt '.' then throw .malformed
      let (_, after) ← versionNumber after.next
      if ¬atSpaceOrBreak after.rest then throw .malformed
      pure (Directive.version major, after)
    else if name = "TAG".toList then do
      let (handle, after) ← tagHandle (after.skip (· == ' '))
      if ¬after.isAt ' ' then throw .malformed
      let after ← address (after.skip (· == ' '))
      if ¬atSpaceOrBreak after.rest then throw .malformed
      pure (Directive.tagHandle handle, after)
    else pure (Directive.other, after.skip (!isBreak ·))
  return (found, ← after.endLine)

end Token

end JavaHome.Yaml
