import JavaHome.Terminal.Control
import JavaHome.Terminal.Emoji
import JavaHome.Terminal.Style

/-!
# Console markup

Styles are written into a text as tags between square brackets. A tag opens a style, or closes the
last one open, or closes one by name. A backslash before a tag makes it plain text. On a terminal
without styles the tags vanish, but tags that close nothing are faults. A tag that begins with an at
sign names a handler, whose arguments are evaluated when it is closed. They are not read here, nor
are the faults that they may have.
-/

namespace JavaHome.Terminal.Markup

/-- A closing tag that closes nothing: the tag as written, and its position in characters. -/
inductive Error where
  | unmatched (tag : String) (position : Nat)
  | nothingToClose (position : Nat)
  deriving Repr, DecidableEq

/-- The wording of a fault. -/
def Error.message : Error → String
  | unmatched tag position =>
    s!"closing tag '[{tag}]' at position {position} doesn't match any open tag"
  | nothingToClose position => s!"closing tag '[/]' at position {position} has nothing to close"

/-- A part of a text: plain text, or the content of a tag and its position. -/
inductive Piece where
  | plain (text : List Char)
  | tag (content : List Char) (position : Nat)
  deriving Repr, DecidableEq

/-- Whether a tag may begin with a character. -/
def startsTag (c : Char) : Bool :=
  ('a' ≤ c && c ≤ 'z') || c == '#' || c == '/' || c == '@'

/-- The content of the tag after an opening bracket, if there is one. -/
def tagContent? (s : List Char) : Option (List Char) :=
  match s with
  | [] => none
  | c :: _ =>
    let content := s.takeWhile fun c => c ≠ ']' && c ≠ '['
    if startsTag c && (s.drop content.length).head? == some ']' then some content else none

/-- Plain text as a piece, unless it is empty. -/
def plainPiece (text : List Char) : List Piece :=
  if text = [] then [] else [.plain text]

/-- The pieces that a tag makes with the text before it, whose characters are given backwards. Of
the backslashes directly before the tag, each two are one backslash of the text, and an odd one
escapes the tag. -/
def tagPieces (before : List Char) (content : List Char) (position : Nat) : List Piece :=
  let slashes := (before.takeWhile (· == '\\')).length
  let text := (before.drop slashes).reverse
  plainPiece text ++ plainPiece (List.replicate (slashes / 2) '\\') ++
    if slashes % 2 = 1 then [.plain ('[' :: content ++ [']'])]
    else [.tag content position]

/-- The pieces of a text of at most `fuel` characters, given the text before it since the last tag,
backwards, and the position. -/
def piecesFrom : Nat → List Char → Nat → List Char → List Piece
  | 0, before, _, _ => plainPiece before.reverse
  | _, before, _, [] => plainPiece before.reverse
  | fuel + 1, before, position, c :: rest =>
    if c = '[' then
      match tagContent? rest with
      | some content =>
        tagPieces before content position ++
          piecesFrom fuel [] (position + content.length + 2) (rest.drop (content.length + 1))
      | none => piecesFrom fuel ('[' :: before) (position + 1) rest
    else piecesFrom fuel (c :: before) (position + 1) rest

/-- The pieces of a text. -/
def pieces (s : List Char) : List Piece :=
  piecesFrom s.length [] 0 s

/-- A text in which a backslash before an opening bracket is dropped. -/
def unescape : List Char → List Char
  | [] => []
  | '\\' :: '[' :: rest => '[' :: unescape rest
  | c :: rest => c :: unescape rest

/-- The name of a tag: all before an equals sign. -/
def tagName (content : List Char) : List Char :=
  content.takeWhile (· ≠ '=')

/-- The open styles without the last one of a name. -/
def close? (name : String) : List String → Option (List String)
  | [] => none
  | style :: rest => if style = name then some rest else (close? name rest).map (style :: ·)

/-- The styles that are open after a tag, the last first. -/
def applyTag (opened : List String) (content : List Char) (position : Nat) :
    Except Error (List String) :=
  match tagName content with
  | '/' :: name =>
    if Style.trim name = [] then
      match opened with
      | [] => .error (.nothingToClose position)
      | _ :: rest => .ok rest
    else
      match close? (Style.normalize (Style.trim name)) opened with
      | some rest => .ok rest
      | none => .error (.unmatched (String.ofList content) position)
  | name => .ok (Style.normalize name :: opened)

/-- The plain text of pieces, given the open styles. -/
def plainFrom (opened : List String) : List Piece → Except Error (List Char)
  | [] => .ok []
  | .plain text :: rest => (plainFrom opened rest).map (Emoji.replace (unescape text) ++ ·)
  | .tag content position :: rest => do plainFrom (← applyTag opened content position) rest

/-- The plain text of a text with markup. -/
def plain (s : List Char) : Except Error (List Char) :=
  (plainFrom [] (pieces s)).map dropControls

end JavaHome.Terminal.Markup
