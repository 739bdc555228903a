import JavaHome.Json.Basic
import JavaHome.Text.Hex

/-!
# Writing JSON

A value on one line, or with one member a line, two blanks deeper than its object. All output is
ASCII: other characters are written by their UTF-16 units.
-/

namespace JavaHome.Json

/-- A UTF-16 unit in a string. -/
def unitEscape (unit : Nat) : List Char :=
  '\\' :: 'u' :: Text.hexDigits 4 unit

/-- One character in a string. -/
def encodeChar (c : Char) : List Char :=
  if c = '"' then ['\\', '"']
  else if c = '\\' then ['\\', '\\']
  else if c = '\n' then ['\\', 'n']
  else if c = '\r' then ['\\', 'r']
  else if c = '\t' then ['\\', 't']
  else if c = '\x0c' then ['\\', 'f']
  else if c = '\x08' then ['\\', 'b']
  else if 0x20 ≤ c.toNat ∧ c.toNat < 0x7F then [c]
  else if c.toNat < 0x10000 then unitEscape c.toNat
  else
    unitEscape (0xD800 + (c.toNat - 0x10000) / 0x400) ++
      unitEscape (0xDC00 + (c.toNat - 0x10000) % 0x400)

/-- A string between quotes. -/
def encodeString (s : String) : List Char :=
  '"' :: s.toList.flatMap encodeChar ++ ['"']

/-- How the members of an object are set apart: what comes before the first, between two, and after
the last, given how deep the object stands. -/
structure Layout where
  opening : Nat → List Char
  between : Nat → List Char
  closing : Nat → List Char

/-- The end of a line, and the blanks before a member at some depth. -/
def newline (depth : Nat) : List Char :=
  '\n' :: List.replicate (2 * depth) ' '

/-- Everything on one line. -/
def Layout.line : Layout where
  opening _ := []
  between _ := [',', ' ']
  closing _ := []

/-- One member a line. -/
def Layout.block : Layout where
  opening depth := newline (depth + 1)
  between depth := ',' :: newline (depth + 1)
  closing depth := newline depth

mutual

/-- A value at some depth. -/
def encodeAt (layout : Layout) (depth : Nat) : Json → List Char
  | null => "null".toList
  | bool true => "true".toList
  | bool false => "false".toList
  | string s => encodeString s
  | object [] => ['{', '}']
  | object ((name, value) :: rest) =>
    '{' :: layout.opening depth ++ encodeString name ++ [':', ' '] ++
      encodeAt layout (depth + 1) value ++ encodeRest layout depth rest ++
      layout.closing depth ++ ['}']

/-- The members after the first one. -/
def encodeRest (layout : Layout) (depth : Nat) : List (String × Json) → List Char
  | [] => []
  | (name, value) :: rest =>
    layout.between depth ++ encodeString name ++ [':', ' '] ++ encodeAt layout (depth + 1) value
      ++ encodeRest layout depth rest

end

/-- A value on one line. -/
def line (v : Json) : String :=
  String.ofList (encodeAt .line 0 v)

/-- A value with one member a line. -/
def block (v : Json) : String :=
  String.ofList (encodeAt .block 0 v)

end JavaHome.Json
