import JavaHome.Text.Hex

/-!
# Reading UTF-8

Bytes are read one at a time by a machine that is either between characters or inside one. A fault
names the bytes of the character that it spoils, counted from 0: a byte that starts no character, a
character broken off by a byte that does not continue it, or one broken off by the end.
-/

namespace JavaHome.Text.Utf8

/-- Why bytes are not UTF-8. -/
inductive Reason where
  | badStart
  | badContinuation
  | brokenOff
  deriving Repr, DecidableEq

/-- The bytes from position `first` to position `last` spell no character; `byte` is the first of
them. -/
structure Fault where
  first : Nat
  last : Nat
  byte : UInt8
  reason : Reason
  deriving Repr, DecidableEq

/-- A character of which some bytes are read: where it starts and with which byte, its code so far,
how many bytes are due, and between which bounds the next one must lie. -/
structure Pending where
  start : Nat
  lead : UInt8
  code : Nat
  due : Nat
  low : UInt8
  high : UInt8
  deriving Repr, DecidableEq

/-- What a byte between characters announces: a whole character, a longer one, or nothing. The
bounds on the second byte exclude overlong forms, surrogates and codes past the last code point. -/
inductive Lead where
  | whole (c : Char)
  | longer (code due : Nat) (low high : UInt8)
  | none

/-- The first byte of a character. -/
def Lead.ofByte (b : UInt8) : Lead :=
  if b < 0x80 then .whole (Char.ofNat b.toNat)
  else if b < 0xC2 then .none
  else if b < 0xE0 then .longer (b.toNat - 0xC0) 1 0x80 0xBF
  else if b < 0xF0 then
    .longer (b.toNat - 0xE0) 2 (if b = 0xE0 then 0xA0 else 0x80) (if b = 0xED then 0x9F else 0xBF)
  else if b < 0xF5 then
    .longer (b.toNat - 0xF0) 3 (if b = 0xF0 then 0x90 else 0x80) (if b = 0xF4 then 0x8F else 0xBF)
  else .none

/-- Read bytes from a position on, in the midst of a character or between two. -/
def decodeFrom (position : Nat) : Option Pending → List UInt8 → Except Fault (List Char)
  | none, [] => .ok []
  | some p, [] => .error ⟨p.start, position - 1, p.lead, .brokenOff⟩
  | none, b :: rest =>
    match Lead.ofByte b with
    | .whole c => (decodeFrom (position + 1) none rest).map (c :: ·)
    | .longer code due low high =>
      decodeFrom (position + 1) (some ⟨position, b, code, due, low, high⟩) rest
    | .none => .error ⟨position, position, b, .badStart⟩
  | some p, b :: rest =>
    if p.low ≤ b ∧ b ≤ p.high then
      let code := p.code * 64 + (b.toNat - 0x80)
      if p.due ≤ 1 then (decodeFrom (position + 1) none rest).map (Char.ofNat code :: ·)
      else
        decodeFrom (position + 1)
          (some { p with code := code, due := p.due - 1, low := 0x80, high := 0xBF }) rest
    else .error ⟨p.start, position - 1, p.lead, .badContinuation⟩

/-- The characters that bytes spell. -/
def decode (bytes : List UInt8) : Except Fault (List Char) :=
  decodeFrom 0 none bytes

/-- Why the bytes were refused, in words. -/
def Reason.message : Reason → String
  | .badStart => "invalid start byte"
  | .badContinuation => "invalid continuation byte"
  | .brokenOff => "unexpected end of data"

/-- Which bytes were refused, and why. -/
def Fault.message (f : Fault) : String :=
  if f.first = f.last then
    "'utf-8' codec can't decode byte 0x" ++ String.ofList (hexDigits 2 f.byte.toNat)
      ++ s!" in position {f.first}: " ++ f.reason.message
  else
    s!"'utf-8' codec can't decode bytes in position {f.first}-{f.last}: " ++ f.reason.message

end JavaHome.Text.Utf8
