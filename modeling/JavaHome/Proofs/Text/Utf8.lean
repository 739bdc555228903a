import Mathlib.Tactic.Lemma
import JavaHome.Result
import JavaHome.Text.Utf8

/-!
# Texts and their bytes

A character is written by one to four bytes (`Group`). The reader takes one group after the other
and stops at anything else, and every character is written by one group. So bytes are read as a text
if and only if they are the UTF-8 form of the text (`decode_eq_ok_iff`).
-/

namespace JavaHome.Text.Utf8

variable {position code : Nat} {bytes group rest : List UInt8} {text : List Char}

/-- A byte that continues a character. -/
def IsTail (b : UInt8) : Prop :=
  0x80 ≤ b.toNat ∧ b.toNat ≤ 0xBF

/-- The bytes of one character, and its code. The second byte excludes forms that are too long,
surrogates, and codes past the last code point. -/
inductive Group : List UInt8 → Nat → Prop where
  | one {b} :
    b.toNat < 0x80 →
    Group [b] b.toNat
  | two {b b₁} :
    0xC2 ≤ b.toNat →
    b.toNat < 0xE0 →
    IsTail b₁ →
    Group [b, b₁] ((b.toNat - 0xC0) * 64 + (b₁.toNat - 0x80))
  | three {b b₁ b₂} :
    0xE0 ≤ b.toNat →
    b.toNat < 0xF0 →
    IsTail b₁ →
    (b.toNat = 0xE0 → 0xA0 ≤ b₁.toNat) →
    (b.toNat = 0xED → b₁.toNat ≤ 0x9F) →
    IsTail b₂ →
    Group [b, b₁, b₂] (((b.toNat - 0xE0) * 64 + (b₁.toNat - 0x80)) * 64 + (b₂.toNat - 0x80))
  | four {b b₁ b₂ b₃} :
    0xF0 ≤ b.toNat →
    b.toNat < 0xF5 →
    IsTail b₁ →
    (b.toNat = 0xF0 → 0x90 ≤ b₁.toNat) →
    (b.toNat = 0xF4 → b₁.toNat ≤ 0x8F) →
    IsTail b₂ →
    IsTail b₃ →
    Group [b, b₁, b₂, b₃]
      ((((b.toNat - 0xF0) * 64 + (b₁.toNat - 0x80)) * 64 + (b₂.toNat - 0x80)) * 64 +
        (b₃.toNat - 0x80))

/-! ## Groups and characters -/

lemma ofNat_eq {n : Nat} {b : UInt8} (h : n = b.toNat) : UInt8.ofNat n = b := by
  rw [h, UInt8.ofNat_toNat]

/-- The code of a group is that of a character. -/
lemma Group.isValidChar (h : Group group code) : code.isValidChar := by
  cases h with
  | one hb => exact .inl (by omega)
  | two _ hb h₁ => exact .inl (by have := h₁.2; omega)
  | @three b b₁ b₂ _ hb h₁ _ hsurrogate h₂ =>
    obtain ⟨h₁, h₁'⟩ := h₁
    obtain ⟨h₂, h₂'⟩ := h₂
    by_cases hed : b.toNat = 0xED
    · have hlast := hsurrogate hed
      exact .inl (by omega)
    · rcases Nat.lt_or_gt_of_ne hed with hlt | hgt
      · exact .inl (by omega)
      · exact .inr ⟨by omega, by omega⟩
  | @four b b₁ b₂ b₃ hb hb' h₁ hlow hhigh h₂ h₃ =>
    obtain ⟨h₁, h₁'⟩ := h₁
    obtain ⟨h₂, h₂'⟩ := h₂
    obtain ⟨h₃, h₃'⟩ := h₃
    refine .inr ⟨by omega, ?_⟩
    by_cases hlast : b.toNat = 0xF4
    · have hhigh := hhigh hlast
      omega
    · omega

lemma toNat_ofNat (h : code.isValidChar) : (Char.ofNat code).toNat = code := by
  rw [Char.ofNat, dif_pos h]
  rfl

/-- A group is what its character is written by. -/
lemma Group.utf8EncodeChar (h : Group group code) :
    String.utf8EncodeChar (Char.ofNat code) = group := by
  have hcode : (Char.ofNat code).val.toNat = code := toNat_ofNat h.isValidChar
  unfold String.utf8EncodeChar
  rw [hcode]
  cases h with
  | one hb =>
    rw [if_pos (by omega), ofNat_eq rfl]
  | @two b b₁ hb hb' h₁ =>
    obtain ⟨h₁, h₁'⟩ := h₁
    rw [if_neg (by omega), if_pos (by omega), ofNat_eq (show _ = b.toNat by omega),
      ofNat_eq (show _ = b₁.toNat by omega)]
  | @three b b₁ b₂ hb hb' h₁ hlow _ h₂ =>
    obtain ⟨h₁, h₁'⟩ := h₁
    obtain ⟨h₂, h₂'⟩ := h₂
    have hlong : 0x7FF < ((b.toNat - 0xE0) * 64 + (b₁.toNat - 0x80)) * 64 + (b₂.toNat - 0x80) := by
      by_cases hfirst : b.toNat = 0xE0
      · have hlow := hlow hfirst
        omega
      · omega
    rw [if_neg (by omega), if_neg (by omega), if_pos (by omega),
      ofNat_eq (show _ = b.toNat by omega), ofNat_eq (show _ = b₁.toNat by omega),
      ofNat_eq (show _ = b₂.toNat by omega)]
  | @four b b₁ b₂ b₃ hb hb' h₁ hlow _ h₂ h₃ =>
    obtain ⟨h₁, h₁'⟩ := h₁
    obtain ⟨h₂, h₂'⟩ := h₂
    obtain ⟨h₃, h₃'⟩ := h₃
    have hlong : 0xFFFF < (((b.toNat - 0xF0) * 64 + (b₁.toNat - 0x80)) * 64 +
        (b₂.toNat - 0x80)) * 64 + (b₃.toNat - 0x80) := by
      by_cases hfirst : b.toNat = 0xF0
      · have hlow := hlow hfirst
        omega
      · omega
    rw [if_neg (by omega), if_neg (by omega), if_neg (by omega),
      ofNat_eq (show _ = b.toNat by omega), ofNat_eq (show _ = b₁.toNat by omega),
      ofNat_eq (show _ = b₂.toNat by omega), ofNat_eq (show _ = b₃.toNat by omega)]

/-- Every character is written by a group. -/
lemma group_utf8EncodeChar (c : Char) : Group (String.utf8EncodeChar c) c.toNat := by
  have hvalid : c.val.toNat.isValidChar := c.valid
  have hbyte : ∀ {n : Nat}, n < 256 → (UInt8.ofNat n).toNat = n := fun h =>
    UInt8.toNat_ofNat_of_lt' h
  have htail : ∀ {n : Nat}, (UInt8.ofNat (n % 64 + 128)).toNat = n % 64 + 128 ∧
      IsTail (UInt8.ofNat (n % 64 + 128)) := by
    intro n
    have hn := hbyte (n := n % 64 + 128) (by omega)
    exact ⟨hn, by rw [IsTail, hn]; omega⟩
  unfold String.utf8EncodeChar
  change Group _ c.val.toNat
  generalize c.val.toNat = n at hvalid
  by_cases hone : n ≤ 127
  · rw [if_pos hone]
    have hn := hbyte (n := n) (by omega)
    have hgroup := Group.one (b := UInt8.ofNat n) (by omega)
    rwa [hn] at hgroup
  rw [if_neg hone]
  by_cases htwo : n ≤ 2047
  · rw [if_pos htwo]
    have hlead := hbyte (n := n / 64 % 32 + 192) (by omega)
    obtain ⟨h₁, h₁'⟩ := htail (n := n)
    have hgroup := Group.two (b := UInt8.ofNat (n / 64 % 32 + 192)) (by omega) (by omega) h₁'
    have hcode : n = (n / 64 % 32 + 192 - 192) * 64 + (n % 64 + 128 - 128) := by omega
    rwa [hlead, h₁, ← hcode] at hgroup
  rw [if_neg htwo]
  by_cases hthree : n ≤ 65535
  · rw [if_pos hthree]
    have hlead := hbyte (n := n / 4096 % 16 + 224) (by omega)
    obtain ⟨h₁, h₁'⟩ := htail (n := n / 64)
    obtain ⟨h₂, h₂'⟩ := htail (n := n)
    have hsurrogate : n < 0xD800 ∨ 0xDFFF < n := by
      rcases hvalid with h | h
      · exact .inl h
      · exact .inr h.1
    have hgroup := Group.three (b := UInt8.ofNat (n / 4096 % 16 + 224)) (by omega) (by omega) h₁'
      (by omega) (by omega) h₂'
    have hcode : n = ((n / 4096 % 16 + 224 - 224) * 64 + (n / 64 % 64 + 128 - 128)) * 64 +
        (n % 64 + 128 - 128) := by
      omega
    rwa [hlead, h₁, h₂, ← hcode] at hgroup
  · rw [if_neg hthree]
    have hlast : n < 0x110000 := by
      rcases hvalid with h | h
      · omega
      · exact h.2
    have hlead := hbyte (n := n / 262144 % 8 + 240) (by omega)
    obtain ⟨h₁, h₁'⟩ := htail (n := n / 4096)
    obtain ⟨h₂, h₂'⟩ := htail (n := n / 64)
    obtain ⟨h₃, h₃'⟩ := htail (n := n)
    have hgroup := Group.four (b := UInt8.ofNat (n / 262144 % 8 + 240)) (by omega) (by omega) h₁'
      (by omega) (by omega) h₂' h₃'
    have hcode : n = (((n / 262144 % 8 + 240 - 240) * 64 + (n / 4096 % 64 + 128 - 128)) * 64 +
        (n / 64 % 64 + 128 - 128)) * 64 + (n % 64 + 128 - 128) := by
      omega
    rwa [hlead, h₁, h₂, h₃, ← hcode] at hgroup

/-! ## Reading groups -/

/-- What a byte between characters announces, by its value. -/
inductive Announces (b : UInt8) : Lead → Prop where
  | whole :
    b.toNat < 0x80 →
    Announces b (.whole (Char.ofNat b.toNat))
  | two :
    0xC2 ≤ b.toNat →
    b.toNat < 0xE0 →
    Announces b (.longer (b.toNat - 0xC0) 1 0x80 0xBF)
  | three :
    0xE0 ≤ b.toNat →
    b.toNat < 0xF0 →
    Announces b (.longer (b.toNat - 0xE0) 2 (if b = 0xE0 then 0xA0 else 0x80)
      (if b = 0xED then 0x9F else 0xBF))
  | four :
    0xF0 ≤ b.toNat →
    b.toNat < 0xF5 →
    Announces b (.longer (b.toNat - 0xF0) 3 (if b = 0xF0 then 0x90 else 0x80)
      (if b = 0xF4 then 0x8F else 0xBF))
  | none :
    0x80 ≤ b.toNat →
    b.toNat < 0xC2 ∨ 0xF5 ≤ b.toNat →
    Announces b .none

lemma announces (b : UInt8) : Announces b (Lead.ofByte b) := by
  have hlt : ∀ {n : UInt8}, b < n ↔ b.toNat < n.toNat := UInt8.lt_iff_toNat_lt
  have hge : ∀ {n : UInt8}, ¬b < n → n.toNat ≤ b.toNat := fun h => Nat.not_lt.1 (mt hlt.2 h)
  unfold Lead.ofByte
  by_cases h80 : b < 0x80
  · rw [if_pos h80]
    exact .whole (hlt.1 h80)
  rw [if_neg h80]
  by_cases hC2 : b < 0xC2
  · rw [if_pos hC2]
    exact .none (hge h80) (.inl (hlt.1 hC2))
  rw [if_neg hC2]
  by_cases hE0 : b < 0xE0
  · rw [if_pos hE0]
    exact .two (hge hC2) (hlt.1 hE0)
  rw [if_neg hE0]
  by_cases hF0 : b < 0xF0
  · rw [if_pos hF0]
    exact .three (hge hE0) (hlt.1 hF0)
  rw [if_neg hF0]
  by_cases hF5 : b < 0xF5
  · rw [if_pos hF5]
    exact .four (hge hF0) (hlt.1 hF5)
  · rw [if_neg hF5]
    exact .none (hge h80) (.inr (hge hF5))

/-- A byte announces one thing only, since its values are told apart. -/
lemma Announces.ofByte_eq {b : UInt8} {lead : Lead} (h : Announces b lead) :
    Lead.ofByte b = lead := by
  have hlead := announces b
  generalize Lead.ofByte b = other at hlead
  cases h <;> cases hlead <;> first | omega | rfl

/-- A lower bound that is higher after one first byte. -/
lemma lowBound_iff {b b₁ special low : UInt8} (h : 0x80 ≤ low.toNat) :
    (if b = special then low else 0x80) ≤ b₁ ↔
      0x80 ≤ b₁.toNat ∧ (b.toNat = special.toNat → low.toNat ≤ b₁.toNat) := by
  rw [UInt8.le_iff_toNat_le, UInt8.toNat_inj]
  by_cases hspecial : b = special
  · rw [if_pos hspecial]
    exact ⟨fun hle => ⟨Nat.le_trans h hle, fun _ => hle⟩, fun hle => hle.2 hspecial⟩
  · rw [if_neg hspecial]
    exact ⟨fun hle => ⟨hle, fun heq => absurd heq hspecial⟩, fun hle => hle.1⟩

/-- An upper bound that is lower after one first byte. -/
lemma highBound_iff {b b₁ special high : UInt8} (h : high.toNat ≤ 0xBF) :
    b₁ ≤ (if b = special then high else 0xBF) ↔
      b₁.toNat ≤ 0xBF ∧ (b.toNat = special.toNat → b₁.toNat ≤ high.toNat) := by
  rw [UInt8.le_iff_toNat_le, UInt8.toNat_inj]
  by_cases hspecial : b = special
  · rw [if_pos hspecial]
    exact ⟨fun hle => ⟨Nat.le_trans hle h, fun _ => hle⟩, fun hle => hle.2 hspecial⟩
  · rw [if_neg hspecial]
    exact ⟨fun hle => ⟨hle, fun heq => absurd heq hspecial⟩, fun hle => hle.1⟩

/-- What is read after a byte that continues a character. -/
def decodeTail (position : Nat) (p : Pending) (b : UInt8) (rest : List UInt8) :
    Except Fault (List Char) :=
  let code := p.code * 64 + (b.toNat - 0x80)
  if p.due ≤ 1 then (decodeFrom (position + 1) none rest).map (Char.ofNat code :: ·)
  else
    decodeFrom (position + 1)
      (some { p with code := code, due := p.due - 1, low := 0x80, high := 0xBF }) rest

lemma decodeFrom_tail {p : Pending} {b : UInt8} (hlow : p.low ≤ b) (hhigh : b ≤ p.high) :
    decodeFrom position (some p) (b :: rest) = decodeTail position p b rest := by
  rw [decodeFrom, if_pos ⟨hlow, hhigh⟩]
  rfl

/-- Within a character a byte within the bounds has to come next. -/
lemma exists_tail {p : Pending} (h : decodeFrom position (some p) bytes = .ok text) :
    ∃ b rest, bytes = b :: rest ∧ p.low ≤ b ∧ b ≤ p.high ∧
      decodeTail position p b rest = .ok text := by
  cases bytes with
  | nil => cases h
  | cons b rest =>
    rw [decodeFrom] at h
    by_cases hbounds : p.low ≤ b ∧ b ≤ p.high
    · rw [if_pos hbounds] at h
      exact ⟨b, rest, rfl, hbounds.1, hbounds.2, h⟩
    · rw [if_neg hbounds] at h
      cases h

private lemma isTail_iff {b : UInt8} : IsTail b ↔ 0x80 ≤ b ∧ b ≤ 0xBF := by
  rw [UInt8.le_iff_toNat_le, UInt8.le_iff_toNat_le]
  rfl

/-- Between the usual bounds every byte that continues a character is read. -/
lemma IsTail.decodeFrom {p : Pending} {b : UInt8} (h : IsTail b) (hlow : p.low = 0x80)
    (hhigh : p.high = 0xBF) :
    Utf8.decodeFrom position (some p) (b :: rest) = decodeTail position p b rest := by
  rw [isTail_iff] at h
  exact decodeFrom_tail (hlow ▸ h.1) (hhigh ▸ h.2)

/-- A group is read as its character. -/
lemma Group.decodeFrom (h : Group group code) (rest : List UInt8) :
    Utf8.decodeFrom position none (group ++ rest) =
      (Utf8.decodeFrom (position + group.length) none rest).map (Char.ofNat code :: ·) := by
  cases h with
  | @one b hb =>
    rw [List.singleton_append, Utf8.decodeFrom, (Announces.whole hb).ofByte_eq]
    rfl
  | @two b b₁ hb hb' h₁ =>
    rw [List.cons_append, Utf8.decodeFrom, (Announces.two hb hb').ofByte_eq]
    dsimp only
    rw [List.singleton_append, h₁.decodeFrom rfl rfl]
    rfl
  | @three b b₁ b₂ hb hb' h₁ hlow hhigh h₂ =>
    rw [List.cons_append, Utf8.decodeFrom, (Announces.three hb hb').ofByte_eq]
    dsimp only
    rw [List.cons_append, decodeFrom_tail ((lowBound_iff (by decide)).2 ⟨h₁.1, hlow⟩)
      ((highBound_iff (by decide)).2 ⟨h₁.2, hhigh⟩), decodeTail, if_neg (show ¬2 ≤ 1 by decide)]
    rw [List.singleton_append, h₂.decodeFrom rfl rfl]
    rfl
  | @four b b₁ b₂ b₃ hb hb' h₁ hlow hhigh h₂ h₃ =>
    rw [List.cons_append, Utf8.decodeFrom, (Announces.four hb hb').ofByte_eq]
    dsimp only
    rw [List.cons_append, decodeFrom_tail ((lowBound_iff (by decide)).2 ⟨h₁.1, hlow⟩)
      ((highBound_iff (by decide)).2 ⟨h₁.2, hhigh⟩), decodeTail, if_neg (show ¬3 ≤ 1 by decide)]
    rw [List.cons_append, h₂.decodeFrom rfl rfl, decodeTail, if_neg (show ¬3 - 1 ≤ 1 by decide)]
    rw [List.singleton_append, h₃.decodeFrom rfl rfl]
    rfl

/-- What is read as a text begins with a group, unless it is empty. -/
lemma exists_group (h : decodeFrom position none bytes = .ok text) :
    bytes = [] ∧ text = [] ∨
      ∃ group code rest more next, Group group code ∧ bytes = group ++ rest ∧
        text = Char.ofNat code :: more ∧ decodeFrom next none rest = .ok more := by
  cases bytes with
  | nil =>
    cases h
    exact .inl ⟨rfl, rfl⟩
  | cons b rest =>
    right
    rw [decodeFrom] at h
    have hlead := announces b
    generalize Lead.ofByte b = lead at h hlead
    cases hlead with
    | none => cases h
    | whole hb =>
      obtain ⟨more, hmore, rfl⟩ := map_eq_ok_iff.1 h
      exact ⟨[b], _, rest, more, _, .one hb, rfl, rfl, hmore⟩
    | two hb hb' =>
      obtain ⟨b₁, rest, rfl, hlow, hhigh, h⟩ := exists_tail h
      obtain ⟨more, hmore, rfl⟩ := map_eq_ok_iff.1 h
      exact ⟨[b, b₁], _, rest, more, _, .two hb hb' (isTail_iff.2 ⟨hlow, hhigh⟩), rfl, rfl, hmore⟩
    | three hb hb' =>
      obtain ⟨b₁, rest, rfl, hlow, hhigh, h⟩ := exists_tail h
      obtain ⟨hlow, hspecial⟩ := (lowBound_iff (by decide)).1 hlow
      obtain ⟨hhigh, hspecial'⟩ := (highBound_iff (by decide)).1 hhigh
      obtain ⟨b₂, rest, rfl, hlow₂, hhigh₂, h⟩ := exists_tail h
      obtain ⟨more, hmore, rfl⟩ := map_eq_ok_iff.1 h
      exact ⟨[b, b₁, b₂], _, rest, more, _, .three hb hb' ⟨hlow, hhigh⟩ hspecial hspecial'
        (isTail_iff.2 ⟨hlow₂, hhigh₂⟩), rfl, rfl, hmore⟩
    | four hb hb' =>
      obtain ⟨b₁, rest, rfl, hlow, hhigh, h⟩ := exists_tail h
      obtain ⟨hlow, hspecial⟩ := (lowBound_iff (by decide)).1 hlow
      obtain ⟨hhigh, hspecial'⟩ := (highBound_iff (by decide)).1 hhigh
      obtain ⟨b₂, rest, rfl, hlow₂, hhigh₂, h⟩ := exists_tail h
      obtain ⟨b₃, rest, rfl, hlow₃, hhigh₃, h⟩ := exists_tail h
      obtain ⟨more, hmore, rfl⟩ := map_eq_ok_iff.1 h
      exact ⟨[b, b₁, b₂, b₃], _, rest, more, _, .four hb hb' ⟨hlow, hhigh⟩ hspecial hspecial'
        (isTail_iff.2 ⟨hlow₂, hhigh₂⟩) (isTail_iff.2 ⟨hlow₃, hhigh₃⟩), rfl, rfl, hmore⟩

/-- The UTF-8 form of a text is read as the text. -/
lemma decodeFrom_flatMap (text : List Char) :
    decodeFrom position none (text.flatMap String.utf8EncodeChar) = .ok text := by
  induction text generalizing position with
  | nil => rfl
  | cons c text ih =>
    rw [List.flatMap_cons, (group_utf8EncodeChar c).decodeFrom, ih, Char.ofNat_toNat]
    rfl

/-- What is read as a text is the UTF-8 form of it. -/
lemma eq_flatMap_of_decodeFrom (h : decodeFrom position none bytes = .ok text) :
    bytes = text.flatMap String.utf8EncodeChar := by
  induction text generalizing position bytes with
  | nil =>
    rcases exists_group h with ⟨rfl, -⟩ | ⟨_, _, _, _, _, -, -, htext, -⟩
    · rfl
    · cases htext
  | cons c text ih =>
    rcases exists_group h with ⟨-, htext⟩ | ⟨group, code, rest, more, _, hgroup, rfl, htext, h⟩
    · cases htext
    · cases htext
      rw [List.flatMap_cons, hgroup.utf8EncodeChar, ih h]

/-- Bytes are read as a text if and only if they are its UTF-8 form. -/
theorem decode_eq_ok_iff :
    decode bytes = .ok text ↔ bytes = text.flatMap String.utf8EncodeChar := by
  constructor
  · exact eq_flatMap_of_decodeFrom
  · rintro rfl
    exact decodeFrom_flatMap text

end JavaHome.Text.Utf8
