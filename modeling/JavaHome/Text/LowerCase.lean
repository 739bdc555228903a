import JavaHome.Text.CaseTable

/-!
# Lower case

The full lower-case form of a text. Every capital has a form of its own; a dotted capital I becomes
two characters, and a capital sigma takes its final form at the end of a word.
-/

namespace JavaHome.Text

/-- The first character that letter case does not skip has case. -/
def meetsCased : List Char → Bool
  | [] => false
  | c :: rest =>
    if caseIgnorables.has c.toNat then meetsCased rest else casedLetters.has c.toNat

/-- The lower-case form of one character outside any context. -/
def lowerChar (c : Char) : Char :=
  match caseRuns.find? (·.has c.toNat) with
  | some run => Char.ofNat (c.toNat + run.shift).toNat
  | none => c

/-- Lower case of a text, given the characters before it, the nearest first. A sigma is final where
a letter comes before it and none after. -/
def lowerCaseFrom (before : List Char) : List Char → List Char
  | [] => []
  | c :: rest =>
    let form :=
      if c = 'Σ' then (if meetsCased before && !meetsCased rest then ['ς'] else ['σ'])
      else if c = 'İ' then ['i', '\u0307']
      else [lowerChar c]
    form ++ lowerCaseFrom (c :: before) rest

/-- The lower-case form of a text. -/
def lowerCase (s : List Char) : List Char :=
  lowerCaseFrom [] s

/-- The lower-case form of a string. -/
def lower (s : String) : String :=
  String.ofList (lowerCase s.toList)

end JavaHome.Text
