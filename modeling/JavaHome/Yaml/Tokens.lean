import JavaHome.Yaml.BlockScalar
import JavaHome.Yaml.Plain
import JavaHome.Yaml.Token

/-!
# Tokens of a text

A text is read token by token. Indentation opens and closes block collections, and a token that
turns out to be followed by a colon becomes a key afterwards: for each level of brackets the reader
remembers the last place where such a key may have begun. Tokens are given out as they are asked
for, so a fault in the text stops the reader only after the tokens in front of it; but a token that
may still become a key is held back, and so are those after it.
-/

namespace JavaHome.Yaml

/-- A place where a key may have begun: how many tokens came before it, where it stands, and whether
a colon must follow, as it must for the first word of a line within a block collection. -/
structure KeyMark where
  tokens : Nat
  required : Bool
  index : Nat
  line : Nat
  column : Nat
  deriving Repr, DecidableEq

/-- What is given out of a text: all tokens, or those in front of a fault. -/
structure Stream where
  tokens : List Token
  fault : Option Fault
  deriving Repr, DecidableEq

/-- A reader's state: the position, the tokens read, the columns of the open block collections, the
innermost first, the place where a key may have begun and those of the enclosing brackets, and
whether a key may begin here. -/
structure Reader where
  cursor : Cursor
  tokens : List Token
  indents : List Nat
  mark : Option KeyMark
  outerMarks : List (Option KeyMark)
  keyAllowed : Bool

namespace Reader

/-- The longest key, in characters. -/
def keyLimit : Nat := 1024

/-- The state before the first character. -/
def start (text : List Char) : Reader :=
  ⟨.start text, [], [], none, [], true⟩

/-- Whether the position is within brackets. -/
def inFlow (r : Reader) : Bool :=
  !r.outerMarks.isEmpty

/-- Whether a column is right of the innermost block collection. -/
def isDeeper (r : Reader) (column : Nat) : Bool :=
  match r.indents with
  | [] => true
  | indent :: _ => indent < column

/-- The least column of what belongs to the innermost block collection. -/
def innerColumn (r : Reader) : Nat :=
  match r.indents with
  | [] => 0
  | indent :: _ => indent + 1

/-- The state after one more token. -/
def emit (r : Reader) (token : Token) : Reader :=
  { r with tokens := r.tokens ++ [token] }

/-- The state at another position. -/
def moveTo (r : Reader) (c : Cursor) : Reader :=
  { r with cursor := c }

/-- Forget the place where a key may have begun. It is a fault if a colon had to follow. -/
def forgetMark (r : Reader) : Except Fault Reader :=
  match r.mark with
  | some mark => if mark.required then .error .malformed else .ok { r with mark := none }
  | none => .ok r

/-- Remember that a key may begin here. -/
def setMark (r : Reader) : Except Fault Reader :=
  if r.keyAllowed then do
    let r ← r.forgetMark
    let required := !r.inFlow && r.indents.head? == some r.cursor.column
    return { r with
      mark := some ⟨r.tokens.length, required, r.cursor.index, r.cursor.line, r.cursor.column⟩ }
  else return r

/-- Whether a key that began at a place is still going on at a position: keys stand on one line and
are not too long. -/
def isFresh (c : Cursor) (mark : KeyMark) : Bool :=
  mark.line == c.line && c.index - mark.index ≤ keyLimit

/-- A place where a key may have begun, unless the key cannot have gone on to this position. It is a
fault if a colon had to follow. -/
def refresh (c : Cursor) : Option KeyMark → Except Fault (Option KeyMark)
  | none => .ok none
  | some mark =>
    if isFresh c mark then .ok (some mark)
    else if mark.required then .error .malformed
    else .ok none

/-- Forget all places whose keys cannot have gone on to the position. -/
def refreshMarks (r : Reader) : Except Fault Reader := do
  let mark ← refresh r.cursor r.mark
  let outerMarks ← r.outerMarks.mapM (refresh r.cursor)
  return { r with mark := mark, outerMarks := outerMarks }

/-- Close the block collections right of a column. -/
def unwind (r : Reader) (column : Nat) : Reader :=
  if r.inFlow then r
  else
    let closed := r.indents.takeWhile (column < ·)
    { r with
      tokens := r.tokens ++ closed.map fun _ => .blockEnd
      indents := r.indents.drop closed.length }

/-- Close all block collections. -/
def unwindAll (r : Reader) : Reader :=
  if r.inFlow then r
  else { r with tokens := r.tokens ++ r.indents.map fun _ => .blockEnd, indents := [] }

/-- The position after blank lines and comments, and whether a line ended on the way. -/
def skipLines : Nat → Cursor → Cursor × Bool
  | 0, c => (c, false)
  | fuel + 1, c =>
    let c := c.skipComment
    match c.lineBreak? with
    | none => (c, false)
    | some (_, after) => ((skipLines fuel after).1, true)

/-- The state at the next token: what ends by the way there is ended. -/
def toNextToken (r : Reader) : Except Fault Reader := do
  let c := if r.cursor.index = 0 ∧ r.cursor.isAt '\uFEFF' then r.cursor.next else r.cursor
  let (c, lineEnded) := skipLines (c.rest.length + 1) c
  let r := { r with cursor := c, keyAllowed := r.keyAllowed || (lineEnded && !r.inFlow) }
  let r ← r.refreshMarks
  return r.unwind c.column

/-- Open a block collection at a column, unless one is open there. -/
def openBlock (r : Reader) (column : Nat) (token : Token) : Reader :=
  if r.isDeeper column then { r.emit token with indents := column :: r.indents } else r

/-- Read a token of some characters that closes all block collections. -/
def readMark (r : Reader) (token : Token) : Except Fault Reader := do
  let r ← r.unwindAll.forgetMark
  return { r.emit token with cursor := r.cursor.advance 3, keyAllowed := false }

/-- Read a directive. -/
def readDirective (r : Reader) : Except Fault Reader := do
  let r ← r.unwindAll.forgetMark
  let (directive, c) ← Token.directiveAt r.cursor
  return { r.emit (.directive directive) with cursor := c, keyAllowed := false }

/-- Read an opening bracket. -/
def readOpening (r : Reader) (token : Token) : Except Fault Reader := do
  let r ← r.setMark
  return { r.emit token with
    cursor := r.cursor.next
    keyAllowed := true
    mark := none
    outerMarks := r.mark :: r.outerMarks }

/-- Read a closing bracket. -/
def readClosing (r : Reader) (token : Token) : Except Fault Reader := do
  let r ← r.forgetMark
  match r.outerMarks with
  | [] => throw .malformed
  | mark :: outerMarks =>
    return { r.emit token with
      cursor := r.cursor.next, keyAllowed := false, mark := mark, outerMarks := outerMarks }

/-- Read a comma within brackets. -/
def readFlowEntry (r : Reader) : Except Fault Reader := do
  let r ← r.forgetMark
  return { r.emit .flowEntry with cursor := r.cursor.next, keyAllowed := true }

/-- Open a block collection for a sign at the position, where it is allowed. -/
def openAtSign (r : Reader) (token : Token) : Except Fault Reader :=
  if r.inFlow then .ok r
  else if r.keyAllowed then .ok (r.openBlock r.cursor.column token)
  else .error .malformed

/-- Read the dash of an entry. -/
def readBlockEntry (r : Reader) : Except Fault Reader := do
  let r ← r.openAtSign .blockSequenceStart
  let r ← r.forgetMark
  return { r.emit .blockEntry with cursor := r.cursor.next, keyAllowed := true }

/-- Read the question mark of a key. -/
def readKey (r : Reader) : Except Fault Reader := do
  let r ← r.openAtSign .blockMappingStart
  let r ← r.forgetMark
  return { r.emit .key with cursor := r.cursor.next, keyAllowed := !r.inFlow }

/-- The tokens with a key where one began, and a block mapping before it if none is open there. -/
def insertKey (r : Reader) (mark : KeyMark) : Reader :=
  let before := r.tokens.take mark.tokens
  let after := r.tokens.drop mark.tokens
  if !r.inFlow && r.isDeeper mark.column then
    { r with
      tokens := before ++ .blockMappingStart :: .key :: after
      indents := mark.column :: r.indents }
  else { r with tokens := before ++ .key :: after }

/-- Read the colon of a value. If a key may have begun, one did. -/
def readValue (r : Reader) : Except Fault Reader :=
  match r.mark with
  | some mark =>
    let r := { r.insertKey mark with mark := none }
    return { r.emit .value with cursor := r.cursor.next, keyAllowed := false }
  | none => do
    let r ← r.openAtSign .blockMappingStart
    return { r.emit .value with cursor := r.cursor.next, keyAllowed := !r.inFlow }

/-- Read a token that may begin a key. -/
def readWord (r : Reader) (scan : Cursor → Except Fault (Token × Cursor)) :
    Except Fault Reader := do
  let r ← r.setMark
  let (token, c) ← scan r.cursor
  return { r.emit token with cursor := c, keyAllowed := false }

/-- Read a plain scalar. After one that ends with a line a key may begin. -/
def readPlain (r : Reader) : Except Fault Reader := do
  let r ← r.setMark
  let (text, c, lineEnded) := Plain.scan r.inFlow r.innerColumn r.cursor
  return { r.emit (.scalar text) with cursor := c, keyAllowed := lineEnded }

/-- Read a block scalar. -/
def readBlockScalar (r : Reader) (folded : Bool) : Except Fault Reader := do
  let r ← r.forgetMark
  let (text, c) ← BlockScalar.scan folded (max 1 r.innerColumn) r.cursor
  return { r.emit (.scalar text) with cursor := c, keyAllowed := true }

/-- Read the token that starts with a character, given what comes after it. -/
def readToken (r : Reader) (ch : Char) (after : List Char) : Except Fault Reader :=
  if ch = '%' ∧ r.cursor.column = 0 then r.readDirective
  else if ch = '-' ∧ r.cursor.column = 0 ∧ r.cursor.atMark '-' then r.readMark .documentStart
  else if ch = '.' ∧ r.cursor.column = 0 ∧ r.cursor.atMark '.' then r.readMark .documentEnd
  else if ch = '[' then r.readOpening .flowSequenceStart
  else if ch = '\x7b' then r.readOpening .flowMappingStart
  else if ch = ']' then r.readClosing .flowSequenceEnd
  else if ch = '\x7d' then r.readClosing .flowMappingEnd
  else if ch = ',' then r.readFlowEntry
  else if ch = '-' ∧ atGap after then r.readBlockEntry
  else if ch = '?' ∧ (r.inFlow ∨ atGap after) then r.readKey
  else if ch = ':' ∧ (r.inFlow ∨ atGap after) then r.readValue
  else if ch = '*' then
    r.readWord fun c => (Token.anchorName c).map fun (name, c) => (.reference name, c)
  else if ch = '&' then
    r.readWord fun c => (Token.anchorName c).map fun (name, c) => (.anchor name, c)
  else if ch = '!' then r.readWord fun c => (Token.tagAt c).map fun (handle, c) => (.tag handle, c)
  else if ch = '|' ∧ ¬r.inFlow then r.readBlockScalar false
  else if ch = '>' ∧ ¬r.inFlow then r.readBlockScalar true
  else if ch = '\x27' then
    r.readWord fun c => (QuotedScalar.scan false c).map fun (text, c) => (.scalar text, c)
  else if ch = '"' then
    r.readWord fun c => (QuotedScalar.scan true c).map fun (text, c) => (.scalar text, c)
  else if Plain.starts r.inFlow ch after then r.readPlain
  else .error .malformed

/-- How many tokens are given out so far: those in front of the first one that may still become a
key. -/
def settled (r : Reader) : Nat :=
  let marks := ((r.mark :: r.outerMarks).filterMap id).filter (isFresh r.cursor)
  marks.foldl (fun n mark => min n mark.tokens) r.tokens.length

/-- What is given out if a fault comes next. -/
def stopAt (r : Reader) (fault : Fault) : Stream :=
  ⟨r.tokens.take r.settled, some fault⟩

/-- The state after the next token, or all tokens at the end of the text. -/
def readNext (r : Reader) : Except Fault (Reader ⊕ List Token) := do
  let r ← r.toNextToken
  match r.cursor.rest with
  | [] =>
    let r ← r.unwindAll.forgetMark
    return .inr (r.tokens ++ [.streamEnd])
  | ch :: after => return .inl (← r.readToken ch after)

/-- What is given out of a text of at most `fuel` words. -/
def readAll : Nat → Reader → Stream
  | 0, r => r.stopAt .malformed
  | fuel + 1, r =>
    match r.readNext with
    | .ok (.inl next) => readAll fuel next
    | .ok (.inr tokens) => ⟨tokens, none⟩
    | .error fault => r.stopAt fault

end Reader

namespace Stream

/-- What is given out of a text. A character that YAML does not admit is found before all else. -/
def ofText (text : List Char) : Stream :=
  if text.all isAllowed then Reader.readAll (text.length + 1) (.start text)
  else ⟨[], some .malformed⟩

/-- A stream with one more token in front. -/
def cons (token : Token) (s : Stream) : Stream :=
  { s with tokens := token :: s.tokens }

/-- What shows that a node begins after its anchor: a tag, if it has one, and one more token. -/
def nodeStart? : List Token → Option (List Token)
  | [] => none
  | [.tag _] => none
  | .tag handle :: token :: _ => some [.tag handle, token]
  | token :: _ => some [token]

/-- Some tokens and the fault after them, given the names of the anchors before them, up to an alias
of another name or to the beginning of a node whose anchor has one of these names. -/
def known (fault : Option Fault) (names : List (List Char)) : List Token → Stream
  | [] => ⟨[], fault⟩
  | .reference name :: rest =>
    if name ∈ names then (known fault names rest).cons (.reference name)
    else ⟨[], some .malformed⟩
  | .anchor name :: rest =>
    if name ∈ names then
      match nodeStart? rest with
      | some tokens => ⟨.anchor name :: tokens, some .malformed⟩
      | none => ⟨.anchor name :: rest, fault⟩
    else (known fault (name :: names) rest).cons (.anchor name)
  | token :: rest => (known fault names rest).cons token

/-- A stream in which the misuse of an anchor's name is a fault. -/
def checked (s : Stream) : Stream :=
  known s.fault [] s.tokens

end Stream

end JavaHome.Yaml
