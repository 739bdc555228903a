import Mathlib.Tactic.Lemma
import JavaHome.Json.Printer
import JavaHome.Proofs.Text.Hex

/-!
# Reading JSON

A reader for the values of which reports are made. It takes every text that JSON allows for them:
white space before every token, characters of a string as they are or escaped, and of those beyond
the first plane both UTF-16 units. Arrays, numbers and halves of such a character are refused.

A string is read as it was written (`readString_encodeString`), whichever of its characters were
escaped.
-/

namespace JavaHome.Json

/-! ## The reader -/

/-- The white space of JSON. -/
def isSpace (c : Char) : Bool :=
  c == ' ' || c == '\n' || c == '\r' || c == '\t'

/-- A text from its first token on. -/
def skipSpace (s : List Char) : List Char :=
  s.dropWhile isSpace

/-- The UTF-16 unit that four hexadecimal digits write, and what follows them. -/
def readUnit : List Char → Option (Nat × List Char)
  | a :: b :: c :: d :: rest => (Text.hexNumber? [a, b, c, d]).map (·, rest)
  | _ => none

/-- The character of a UTF-16 unit, which may need a second one, and what follows it. -/
def readUnits (s : List Char) : Option (Char × List Char) := do
  let (unit, rest) ← readUnit s
  if unit < 0xD800 ∨ 0xE000 ≤ unit then return (Char.ofNat unit, rest)
  else if 0xDC00 ≤ unit then none
  else
    match rest with
    | '\\' :: 'u' :: rest =>
      let (second, rest) ← readUnit rest
      if 0xDC00 ≤ second ∧ second < 0xE000 then
        return (Char.ofNat (0x10000 + (unit - 0xD800) * 0x400 + (second - 0xDC00)), rest)
      else none
    | _ => none

/-- The character that a letter after a backslash stands for. -/
def simpleEscape? : Char → Option Char
  | '"' => some '"'
  | '\\' => some '\\'
  | '/' => some '/'
  | 'b' => some '\x08'
  | 'f' => some '\x0c'
  | 'n' => some '\n'
  | 'r' => some '\r'
  | 't' => some '\t'
  | _ => none

/-- The character that is escaped after a backslash, and what follows it. -/
def readEscape : List Char → Option (Char × List Char)
  | [] => none
  | letter :: rest =>
    if letter = 'u' then readUnits rest else (simpleEscape? letter).map (·, rest)

/-- The first character of a string, and what follows it. -/
def readChar : List Char → Option (Char × List Char)
  | [] => none
  | c :: rest =>
    if c = '\\' then readEscape rest else if c.toNat < 0x20 then none else some (c, rest)

/-- The characters of a string up to its closing quote, at most `fuel` of them, and what follows. -/
def readChars : Nat → List Char → Option (List Char × List Char)
  | _, '"' :: rest => some ([], rest)
  | 0, _ => none
  | fuel + 1, s => do
    let (c, rest) ← readChar s
    let (more, rest) ← readChars fuel rest
    return (c :: more, rest)

/-- The string between quotes at the head of a text, and what follows it. -/
def readString : List Char → Option (String × List Char)
  | '"' :: rest => (readChars rest.length rest).map fun (chars, rest) => (String.ofList chars, rest)
  | _ => none

/-- What follows a sign, with white space before it. -/
def readSign (sign : Char) (s : List Char) : Option (List Char) :=
  match skipSpace s with
  | c :: rest => if c = sign then some rest else none
  | [] => none

mutual

/-- The value at the head of a text, of at most `fuel` tokens, and what follows it. -/
def readValue : Nat → List Char → Option (Json × List Char)
  | 0, _ => none
  | fuel + 1, s =>
    match skipSpace s with
    | 'n' :: 'u' :: 'l' :: 'l' :: rest => some (null, rest)
    | 't' :: 'r' :: 'u' :: 'e' :: rest => some (bool true, rest)
    | 'f' :: 'a' :: 'l' :: 's' :: 'e' :: rest => some (bool false, rest)
    | '{' :: rest =>
      match readSign '}' rest with
      | some rest => some (object [], rest)
      | none => (readMembers fuel rest).map fun (members, rest) => (object members, rest)
    | text => (readString text).map fun (s, rest) => (string s, rest)

/-- The members of an object up to its closing brace, and what follows. -/
def readMembers : Nat → List Char → Option (List (String × Json) × List Char)
  | 0, _ => none
  | fuel + 1, s => do
    let (name, rest) ← readString (skipSpace s)
    let (value, rest) ← readValue fuel (← readSign ':' rest)
    match readSign ',' rest with
    | some rest =>
      let (more, rest) ← readMembers fuel rest
      return ((name, value) :: more, rest)
    | none => return ([(name, value)], ← readSign '}' rest)

end

/-- The value that a text spells. -/
def decode (s : List Char) : Option Json := do
  let (value, rest) ← readValue s.length s
  if skipSpace rest = [] then return value else none

variable {fuel : Nat} {rest : List Char}

/-! ## Strings -/

lemma readUnit_hexDigits {n : Nat} (h : n < 0x10000) :
    readUnit (Text.hexDigits 4 n ++ rest) = some (n, rest) := by
  have hnumber := Text.hexNumber?_hexDigits h
  simp only [Text.hexDigits, List.nil_append, List.cons_append] at hnumber ⊢
  rw [readUnit, hnumber]
  rfl

/-- No character is a half of one beyond the first plane. -/
private lemma not_surrogate (c : Char) :
    c.toNat < 0xD800 ∨ 0xE000 ≤ c.toNat ∧ c.toNat < 0x110000 := by
  have hvalid : c.toNat.isValidChar := c.valid
  unfold Nat.isValidChar at hvalid
  omega

/-- A character of the first plane is read from its unit. -/
lemma readUnits_unit {c : Char} (h : c.toNat < 0x10000) :
    readUnits (Text.hexDigits 4 c.toNat ++ rest) = some (c, rest) := by
  have hwhole : c.toNat < 0xD800 ∨ 0xE000 ≤ c.toNat := (not_surrogate c).imp_right And.left
  rw [readUnits, readUnit_hexDigits h]
  simp only [Option.bind_eq_bind, Option.bind_some, if_pos hwhole, Char.ofNat_toNat,
    Option.pure_def]

/-- A character beyond the first plane is read from its two units. -/
lemma readUnits_units {high low : Nat} (hhigh : high < 0x400) (hlow : low < 0x400) :
    readUnits (Text.hexDigits 4 (0xD800 + high) ++ (unitEscape (0xDC00 + low) ++ rest)) =
      some (Char.ofNat (0x10000 + high * 0x400 + low), rest) := by
  have hfirst : ¬(0xD800 + high < 0xD800 ∨ 0xE000 ≤ 0xD800 + high) := by omega
  have hhalf : ¬0xDC00 ≤ 0xD800 + high := by omega
  have hsecond : 0xDC00 ≤ 0xDC00 + low ∧ 0xDC00 + low < 0xE000 := by omega
  rw [readUnits, readUnit_hexDigits (by omega)]
  simp only [Option.bind_eq_bind, Option.bind_some, if_neg hfirst, if_neg hhalf, unitEscape,
    List.cons_append]
  rw [readUnit_hexDigits (by omega)]
  simp only [Option.bind_some, if_pos hsecond, Nat.add_sub_cancel_left, Option.pure_def]

/-- How a character is written: by a letter after a backslash, as it is, by its unit, or by its two
units. -/
inductive IsWritten (c : Char) : List Char → Prop where
  | letter {letter : Char} :
    simpleEscape? letter = some c →
    letter ≠ 'u' →
    letter.toNat < 0x80 →
    IsWritten c ['\\', letter]
  | plain :
    c ≠ '"' →
    c ≠ '\\' →
    0x20 ≤ c.toNat →
    c.toNat < 0x80 →
    IsWritten c [c]
  | unit :
    c.toNat < 0x10000 →
    IsWritten c (unitEscape c.toNat)
  | units :
    0x10000 ≤ c.toNat →
    IsWritten c (unitEscape (0xD800 + (c.toNat - 0x10000) / 0x400) ++
      unitEscape (0xDC00 + (c.toNat - 0x10000) % 0x400))

lemma isWritten_encodeChar (c : Char) : IsWritten c (encodeChar c) := by
  have hletter : ∀ d letter : Char, simpleEscape? letter = some d → letter ≠ 'u' →
      letter.toNat < 0x80 → c = d → IsWritten c ['\\', letter] := by
    rintro d letter h hu hascii rfl
    exact .letter h hu hascii
  rw [encodeChar]
  by_cases hquote : c = '"'
  · rw [if_pos hquote]
    exact hletter '"' '"' rfl (by decide) (by decide) hquote
  rw [if_neg hquote]
  by_cases hbackslash : c = '\\'
  · rw [if_pos hbackslash]
    exact hletter '\\' '\\' rfl (by decide) (by decide) hbackslash
  rw [if_neg hbackslash]
  by_cases hn : c = '\n'
  · rw [if_pos hn]
    exact hletter '\n' 'n' rfl (by decide) (by decide) hn
  rw [if_neg hn]
  by_cases hr : c = '\r'
  · rw [if_pos hr]
    exact hletter '\r' 'r' rfl (by decide) (by decide) hr
  rw [if_neg hr]
  by_cases ht : c = '\t'
  · rw [if_pos ht]
    exact hletter '\t' 't' rfl (by decide) (by decide) ht
  rw [if_neg ht]
  by_cases hf : c = '\x0c'
  · rw [if_pos hf]
    exact hletter '\x0c' 'f' rfl (by decide) (by decide) hf
  rw [if_neg hf]
  by_cases hb : c = '\x08'
  · rw [if_pos hb]
    exact hletter '\x08' 'b' rfl (by decide) (by decide) hb
  rw [if_neg hb]
  by_cases hplain : 0x20 ≤ c.toNat ∧ c.toNat < 0x7F
  · rw [if_pos hplain]
    exact .plain hquote hbackslash hplain.1 (Nat.lt_trans hplain.2 (by decide))
  rw [if_neg hplain]
  by_cases hplane : c.toNat < 0x10000
  · rw [if_pos hplane]
    exact .unit hplane
  · rw [if_neg hplane]
    exact .units (Nat.not_lt.1 hplane)

/-- A character is read as it was written. -/
lemma readChar_encodeChar (c : Char) (rest : List Char) :
    readChar (encodeChar c ++ rest) = some (c, rest) := by
  have hwritten := isWritten_encodeChar c
  generalize encodeChar c = written at hwritten
  cases hwritten with
  | @letter letter hescape hunit _ =>
    change readEscape (letter :: rest) = _
    rw [readEscape, if_neg hunit, hescape, Option.map_some]
  | plain _ hbackslash hcontrol _ =>
    rw [List.singleton_append, readChar, if_neg hbackslash, if_neg (Nat.not_lt.2 hcontrol)]
  | unit hplane => exact readUnits_unit hplane
  | units hplane =>
    have hback : 0x10000 + (c.toNat - 0x10000) / 0x400 * 0x400 + (c.toNat - 0x10000) % 0x400 =
        c.toNat := by
      omega
    have hlast : (c.toNat - 0x10000) / 0x400 < 0x400 := by
      rcases not_surrogate c with h | h
      · omega
      · omega
    rw [List.append_assoc]
    refine (readUnits_units hlast (Nat.mod_lt (c.toNat - 0x10000) (by decide))).trans ?_
    rw [hback, Char.ofNat_toNat]

/-- What is written for a character begins with something else than a quote. -/
private lemma encodeChar_eq_cons (c : Char) :
    ∃ first more, encodeChar c = first :: more ∧ first ≠ '"' := by
  have hwritten := isWritten_encodeChar c
  generalize encodeChar c = written at hwritten
  cases hwritten with
  | letter _ _ _ => exact ⟨'\\', _, rfl, by decide⟩
  | plain hquote _ _ _ => exact ⟨c, [], rfl, hquote⟩
  | unit _ => exact ⟨'\\', _, rfl, by decide⟩
  | units _ => exact ⟨'\\', _, rfl, by decide⟩

/-- The characters of a string are read up to the quote after them. -/
lemma readChars_flatMap (chars : List Char) (h : chars.length ≤ fuel) :
    readChars fuel (chars.flatMap encodeChar ++ '"' :: rest) = some (chars, rest) := by
  induction chars generalizing fuel with
  | nil => cases fuel <;> rfl
  | cons c chars ih =>
    obtain ⟨first, more, hfirst, hquote⟩ := encodeChar_eq_cons c
    cases fuel with
    | zero => simp at h
    | succ fuel =>
      have hchar := readChar_encodeChar c (chars.flatMap encodeChar ++ '"' :: rest)
      rw [List.flatMap_cons, List.append_assoc]
      rw [hfirst, List.cons_append] at hchar ⊢
      rw [readChars, hchar]
      · simp only [Option.bind_eq_bind, Option.bind_some, ih (Nat.le_of_succ_le_succ h)]
        rfl
      · rintro other ⟨⟩
        exact hquote rfl

private lemma length_le_flatMap (chars : List Char) :
    chars.length ≤ (chars.flatMap encodeChar).length := by
  induction chars with
  | nil => exact Nat.le_refl 0
  | cons c chars ih =>
    obtain ⟨first, more, hfirst, -⟩ := encodeChar_eq_cons c
    rw [List.flatMap_cons, List.length_append, hfirst, List.length_cons, List.length_cons]
    omega

/-- A string is read as it was written. -/
lemma readString_encodeString (text : String) (rest : List Char) :
    readString (encodeString text ++ rest) = some (text, rest) := by
  have hlength := length_le_flatMap text.toList
  rw [encodeString, List.cons_append, List.cons_append, List.append_assoc, List.singleton_append,
    readString, readChars_flatMap text.toList]
  · simp only [Option.map_some, String.ofList_toList]
  · rw [List.length_append]
    omega

end JavaHome.Json
