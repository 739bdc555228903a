import JavaHome.Terminal.Emoji.NamesAb
import JavaHome.Terminal.Emoji.NamesC
import JavaHome.Terminal.Emoji.NamesDe
import JavaHome.Terminal.Emoji.NamesF
import JavaHome.Terminal.Emoji.NamesGh
import JavaHome.Terminal.Emoji.NamesIToL
import JavaHome.Terminal.Emoji.NamesM
import JavaHome.Terminal.Emoji.NamesNToO
import JavaHome.Terminal.Emoji.NamesPToQ
import JavaHome.Terminal.Emoji.NamesR
import JavaHome.Terminal.Emoji.NamesS
import JavaHome.Terminal.Emoji.NamesTToV
import JavaHome.Terminal.Emoji.NamesWToZ
import JavaHome.Text.Blank
import JavaHome.Text.LowerCase

/-!
# Emoji codes

A name between colons stands for an emoji, in any letter case. The name may end in `-emoji` or
`-text`, which selects a form. Other words between colons stay as they are.
-/

namespace JavaHome.Terminal.Emoji

/-- All names, in groups. -/
def names : List (List (String × String)) :=
  [namesAb, namesC, namesDe, namesF, namesGh, namesIToL, namesM, namesNToO, namesPToQ, namesR,
    namesS, namesTToV, namesWToZ]

/-- The emoji with a name. -/
def find? (name : List Char) : Option (List Char) :=
  let lowered := String.ofList (Text.lowerCase name)
  (names.findSome? (·.lookup lowered)).map String.toList

/-- A text without another one at its end. -/
def dropSuffix? (suffix s : List Char) : Option (List Char) :=
  if suffix.isSuffixOf s then some (s.take (s.length - suffix.length)) else none

/-- The name in a code and the selector for the form it asks for. -/
def splitForm (code : List Char) : List Char × List Char :=
  match dropSuffix? "-emoji".toList code, dropSuffix? "-text".toList code with
  | some name, _ => (name, ['\ufe0f'])
  | none, some name => (name, ['\ufe0e'])
  | none, none => (code, [])

/-- What a code between colons stands for. -/
def expand? (code : List Char) : Option (List Char) :=
  let (name, form) := splitForm code
  (find? name).map (· ++ form)

/-- The word of a code: all up to a colon or a blank. -/
def codeWord (s : List Char) : List Char :=
  s.takeWhile fun c => c ≠ ':' && !Text.isBlank c

/-- A text of at most `fuel` characters with its codes replaced. -/
def replaceFrom : Nat → List Char → List Char
  | 0, s => s
  | _, [] => []
  | fuel + 1, c :: rest =>
    if c = ':' then
      let word := codeWord rest
      match rest.drop word.length with
      | ':' :: after => (expand? word).getD (':' :: word ++ [':']) ++ replaceFrom fuel after
      | _ => ':' :: replaceFrom fuel rest
    else c :: replaceFrom fuel rest

/-- A text with its codes replaced. -/
def replace (s : List Char) : List Char :=
  replaceFrom s.length s

end JavaHome.Terminal.Emoji
