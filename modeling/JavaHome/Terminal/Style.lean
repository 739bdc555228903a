import JavaHome.Text.Blank
import JavaHome.Text.Digit
import JavaHome.Text.Fields
import JavaHome.Text.LowerCase

/-!
# Style definitions

A style is written as words: attributes, `not` before an attribute, a color, `on` before a
background color, and `link` before an address. Definitions that mean the same have the same normal
form: attributes in a fixed order, then the color, the background and the link. A part of a mixed
color that is no number makes the word no color here; that it is a fault of its own is left out.
-/

namespace JavaHome.Terminal

/-- The colors that have names. -/
def colorNames : List String :=
  ["black", "red", "green", "yellow", "blue", "magenta", "cyan", "white", "bright_black",
   "bright_red", "bright_green", "bright_yellow", "bright_blue", "bright_magenta", "bright_cyan",
   "bright_white", "grey0", "gray0", "navy_blue", "dark_blue", "blue3", "blue1", "dark_green",
   "deep_sky_blue4", "dodger_blue3", "dodger_blue2", "green4", "spring_green4", "turquoise4",
   "deep_sky_blue3", "dodger_blue1", "green3", "spring_green3", "dark_cyan", "light_sea_green",
   "deep_sky_blue2", "deep_sky_blue1", "spring_green2", "cyan3", "dark_turquoise", "turquoise2",
   "green1", "spring_green1", "medium_spring_green", "cyan2", "cyan1", "dark_red", "deep_pink4",
   "purple4", "purple3", "blue_violet", "orange4", "grey37", "gray37", "medium_purple4",
   "slate_blue3", "royal_blue1", "chartreuse4", "dark_sea_green4", "pale_turquoise4", "steel_blue",
   "steel_blue3", "cornflower_blue", "chartreuse3", "cadet_blue", "sky_blue3", "steel_blue1",
   "pale_green3", "sea_green3", "aquamarine3", "medium_turquoise", "chartreuse2", "sea_green2",
   "sea_green1", "aquamarine1", "dark_slate_gray2", "dark_magenta", "dark_violet", "purple",
   "light_pink4", "plum4", "medium_purple3", "slate_blue1", "yellow4", "wheat4", "grey53", "gray53",
   "light_slate_grey", "light_slate_gray", "medium_purple", "light_slate_blue", "dark_olive_green3",
   "dark_sea_green", "light_sky_blue3", "sky_blue2", "dark_sea_green3", "dark_slate_gray3",
   "sky_blue1", "chartreuse1", "light_green", "pale_green1", "dark_slate_gray1", "red3",
   "medium_violet_red", "magenta3", "dark_orange3", "indian_red", "hot_pink3", "medium_orchid3",
   "medium_orchid", "medium_purple2", "dark_goldenrod", "light_salmon3", "rosy_brown", "grey63",
   "gray63", "medium_purple1", "gold3", "dark_khaki", "navajo_white3", "grey69", "gray69",
   "light_steel_blue3", "light_steel_blue", "yellow3", "dark_sea_green2", "light_cyan3",
   "light_sky_blue1", "green_yellow", "dark_olive_green2", "dark_sea_green1", "pale_turquoise1",
   "deep_pink3", "magenta2", "hot_pink2", "orchid", "medium_orchid1", "orange3", "light_pink3",
   "pink3", "plum3", "violet", "light_goldenrod3", "tan", "misty_rose3", "thistle3", "plum2",
   "khaki3", "light_goldenrod2", "light_yellow3", "grey84", "gray84", "light_steel_blue1",
   "yellow2", "dark_olive_green1", "honeydew2", "light_cyan1", "red1", "deep_pink2", "deep_pink1",
   "magenta1", "orange_red1", "indian_red1", "hot_pink", "dark_orange", "salmon1", "light_coral",
   "pale_violet_red1", "orchid2", "orchid1", "orange1", "sandy_brown", "light_salmon1",
   "light_pink1", "pink1", "plum1", "gold1", "navajo_white1", "misty_rose1", "thistle1", "yellow1",
   "light_goldenrod1", "khaki1", "wheat1", "cornsilk1", "grey100", "gray100", "grey3", "gray3",
   "grey7", "gray7", "grey11", "gray11", "grey15", "gray15", "grey19", "gray19", "grey23", "gray23",
   "grey27", "gray27", "grey30", "gray30", "grey35", "gray35", "grey39", "gray39", "grey42",
   "gray42", "grey46", "gray46", "grey50", "gray50", "grey54", "gray54", "grey58", "gray58",
   "grey62", "gray62", "grey66", "gray66", "grey70", "gray70", "grey74", "gray74", "grey78",
   "gray78", "grey82", "gray82", "grey85", "gray85", "grey89", "gray89", "grey93", "gray93"]

/-- The attributes of a style, each with the words for it, in the order in which the normal form has
them. -/
def attributeWords : List (String × List String) :=
  [("bold", ["bold", "b"]), ("dim", ["dim", "d"]), ("italic", ["italic", "i"]),
    ("underline", ["underline", "u"]), ("blink", ["blink"]), ("blink2", ["blink2"]),
    ("reverse", ["reverse", "r"]), ("conceal", ["conceal", "c"]), ("strike", ["strike", "s"]),
    ("underline2", ["underline2", "uu"]), ("frame", ["frame"]), ("encircle", ["encircle"]),
    ("overline", ["overline", "o"])]

/-- A style as its definition says it. -/
structure Style where
  attributes : List (String × Bool)
  color : Option String
  background : Option String
  link : Option String
  deriving Repr, DecidableEq

namespace Style

/-- The style of which nothing is said. -/
def plain : Style := ⟨[], none, none, none⟩

/-- The attribute for a word. -/
def attribute? (word : String) : Option String :=
  (attributeWords.find? fun entry => word ∈ entry.2).map Prod.fst

/-- What stands between an opening text and a closing bracket. -/
def between? (opening : String) (word : List Char) : Option (List Char) :=
  if opening.toList.isPrefixOf word && word.getLast? == some ')' then
    some ((word.drop opening.toList.length).dropLast)
  else none

/-- Whether a text is a color by number, `color(7)`. -/
def isNumberedColor (word : List Char) : Bool :=
  match between? "color(" word with
  | some digits =>
    digits.all Char.isDigit && 1 ≤ digits.length && digits.length ≤ 3 &&
      Text.numeralValue digits ≤ 255
  | none => false

/-- Whether a text is a color by its parts, `rgb(1,2,3)`. -/
def isMixedColor (word : List Char) : Bool :=
  match between? "rgb(" word with
  | some parts =>
    let parts := Text.fieldsOf ',' parts
    parts.length == 3 && parts.all fun part => Text.isNumeral part && Text.numeralValue part ≤ 255
  | none => false

/-- Whether a text is a color by hexadecimal digits, `#00ff00`. -/
def isHexColor (word : List Char) : Bool :=
  match word with
  | '#' :: digits => digits.length == 6 && digits.all fun c => c.isDigit || ('a' ≤ c && c ≤ 'f')
  | _ => false

/-- Whether a word in lower case is a color. -/
def isColor (word : String) : Bool :=
  word == "default" || colorNames.contains word || isHexColor word.toList ||
    isNumberedColor word.toList || isMixedColor word.toList

/-- A style with an attribute set or unset; the last word on it counts. -/
def set (s : Style) (trait : String) (value : Bool) : Style :=
  { s with attributes := (trait, value) :: s.attributes }

/-- A style with the meaning of more words, if they have one. -/
def addWords (s : Style) : List String → Option Style
  | [] => some s
  | word :: rest =>
    let lowered := Text.lower word
    if lowered = "on" then
      match rest with
      | [] => none
      | color :: rest =>
        if isColor (Text.lower color) then
          addWords { s with background := some (Text.lower color) } rest
        else none
    else if lowered = "not" then
      match rest with
      | [] => none
      | word :: rest =>
        match attribute? word with
        | some trait => addWords (s.set trait false) rest
        | none => none
    else if lowered = "link" then
      match rest with
      | [] => none
      | address :: rest => addWords { s with link := some address } rest
    else
      match attribute? lowered with
      | some trait => addWords (s.set trait true) rest
      | none => if isColor lowered then addWords { s with color := some lowered } rest else none

/-- The words of a text. -/
def words (s : List Char) : List String :=
  let fields := Text.fieldsOf ' ' (s.map fun c => if Text.isBlank c then ' ' else c)
  (fields.filter (· ≠ [])).map String.ofList

/-- The normal form of a style. -/
def text (s : Style) : String :=
  let attributes := attributeWords.filterMap fun entry =>
    (s.attributes.lookup entry.1).map fun value => if value then entry.1 else "not " ++ entry.1
  let color := s.color.toList
  let background := (s.background.map ("on " ++ ·)).toList
  let link := (s.link.map ("link " ++ ·)).toList
  let all := attributes ++ color ++ background ++ link
  if all = [] then "none" else " ".intercalate all

/-- A text without the white space around it. -/
def trim (s : List Char) : List Char :=
  Text.trimEnd (s.dropWhile Text.isBlank)

/-- The normal form of a style definition; of a text that is none, its lower case. -/
def normalize (definition : List Char) : String :=
  if trim definition = "none".toList then "none"
  else
    match addWords plain (words definition) with
    | some style => style.text
    | none => String.ofList (Text.lowerCase (trim definition))

end Style

end JavaHome.Terminal
