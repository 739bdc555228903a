import JavaHome.Text.Hex
import JavaHome.Text.Printable

/-!
# Quoted text

A text between quotes, on one line, with every character visible: the quote, the backslash and the
three common controls are written with a backslash, other unprintable characters by their code
point. The quote is single, unless the text holds single quotes and no double ones.
-/

namespace JavaHome.Text.Quoted

/-- The quote that a text is written with. -/
def quoteFor (s : List Char) : Char :=
  if '\'' ∈ s ∧ '"' ∉ s then '"' else '\''

/-- The code point of an unprintable character, in the shortest of three widths. -/
def codeEscape (c : Char) : List Char :=
  if c.toNat < 0x100 then '\\' :: 'x' :: hexDigits 2 c.toNat
  else if c.toNat < 0x10000 then '\\' :: 'u' :: hexDigits 4 c.toNat
  else '\\' :: 'U' :: hexDigits 8 c.toNat

/-- One character of a quoted text. -/
def encodeChar (quote c : Char) : List Char :=
  if c = quote ∨ c = '\\' then ['\\', c]
  else if c = '\n' then ['\\', 'n']
  else if c = '\r' then ['\\', 'r']
  else if c = '\t' then ['\\', 't']
  else if isPrintable c then [c]
  else codeEscape c

/-- A text between quotes. -/
def encode (s : List Char) : List Char :=
  let quote := quoteFor s
  quote :: s.flatMap (encodeChar quote) ++ [quote]

end JavaHome.Text.Quoted

namespace JavaHome.Text

/-- A string between quotes. -/
def quoted (s : String) : String :=
  String.ofList (Quoted.encode s.toList)

end JavaHome.Text
