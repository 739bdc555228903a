import Mathlib.Tactic.Lemma
import JavaHome.Text.LowerCase

/-!
# Lower case and the letters of ASCII

Lower case may lengthen a text, goes by context, and takes one letter from beyond ASCII into it. A
text of plain characters, which excludes the one letter that comes from elsewhere too, is met in the
lower-case form of another text only where that text spells it, but for the case of the letters of
ASCII (`lowerCaseFrom_eq_append_iff`). So it is a prefix of the lower-case form, or the whole of it,
exactly if it is spelled at the start of the text (`isPrefixOf_lowerCase_iff`), or by the whole of
it (`lower_eq_iff`).
-/

namespace JavaHome.Text

variable {c d : Char} {s t rest before : List Char}

/-- Two texts are the same but for the case of the letters of ASCII. -/
def SameLetters (s t : List Char) : Prop :=
  s.map Char.toLower = t.map Char.toLower

instance : Decidable (SameLetters s t) :=
  inferInstanceAs (Decidable (s.map Char.toLower = t.map Char.toLower))

/-- Whether a character of ASCII is no capital and the lower-case form of nothing beyond ASCII, as
`k` is that of the Kelvin sign. The null character stands for what is no character at all. -/
def isPlain (c : Char) : Bool :=
  0 < c.toNat && c.toNat < 128 && c.toLower == c && c != 'k'

lemma isPlain_iff : isPlain c = true ↔
    (0 < c.toNat ∧ c.toNat < 128) ∧ c.toLower = c ∧ c ≠ 'k' := by
  simp only [isPlain, Bool.and_eq_true, decide_eq_true_eq, beq_iff_eq, bne_iff_ne, and_assoc]

/-- Only ASCII has letters with a case here. -/
lemma toLower_of_le (h : 128 ≤ c.toNat) : c.toLower = c := by
  have hnot : ¬(c.val ≥ 'A'.val ∧ c.val ≤ 'Z'.val) := by
    rintro ⟨-, hle⟩
    have hval : c.toNat ≤ 'Z'.val.toNat := UInt32.le_iff_toNat_le.1 hle
    have hbound : 'Z'.val.toNat < 128 := by decide
    omega
  exact dif_neg hnot

lemma map_toLower_of_isPlain (h : ∀ c ∈ t, isPlain c = true) : t.map Char.toLower = t := by
  rw [List.map_congr_left fun c hmem => (isPlain_iff.1 (h c hmem)).2.1, List.map_id']

/-! ## One character -/

/-- In ASCII, the two lower-case forms are the same. -/
lemma lowerChar_of_lt (h : c.toNat < 128) : lowerChar c = c.toLower := by
  have hall : ∀ n < 128, lowerChar (Char.ofNat n) = (Char.ofNat n).toLower := by decide +kernel
  have hc := hall c.toNat h
  rwa [Char.ofNat_toNat] at hc

/-- A number is the code of its character, or of none. -/
lemma toNat_ofNat_cases (n : Nat) : (Char.ofNat n).toNat = n ∨ (Char.ofNat n).toNat = 0 := by
  by_cases h : n.isValidChar
  · rw [Char.ofNat, dif_pos h]
    exact .inl rfl
  · rw [Char.ofNat, dif_neg h]
    exact .inr rfl

/-- Beyond ASCII, only the Kelvin sign has a lower-case form in ASCII. -/
lemma not_isPlain_lowerChar (h : 128 ≤ c.toNat) : isPlain (lowerChar c) = false := by
  have htable : ∀ run ∈ caseRuns, run.last < 128 ∨ run = ⟨0x212A, 0x212A, 1, -8383⟩ ∨
      (128 : Int) ≤ run.first + run.shift := by decide +kernel
  rw [← Bool.not_eq_true, isPlain_iff]
  rintro ⟨⟨hpos, hlt⟩, -, hk⟩
  cases hfind : caseRuns.find? (·.has c.toNat) with
  | none =>
    rw [lowerChar, hfind] at hlt
    exact Nat.not_lt_of_le h hlt
  | some run =>
    have hlower : lowerChar c = Char.ofNat (c.toNat + run.shift).toNat := by rw [lowerChar, hfind]
    have hhas := List.find?_some hfind
    simp only [CaseRun.has, Bool.and_eq_true, decide_eq_true_eq] at hhas
    obtain ⟨⟨hfirst, hlast⟩, -⟩ := hhas
    rcases htable run (List.mem_of_find?_eq_some hfind) with hascii | rfl | hle
    · omega
    · dsimp only at hfirst hlast
      have hcode : c.toNat = 0x212A := Nat.le_antisymm hlast hfirst
      rw [hcode] at hlower
      exact hk (hlower.trans (by decide))
    · rw [hlower] at hpos hlt
      rcases toNat_ofNat_cases (c.toNat + run.shift).toNat with hcode | hcode
      · omega
      · omega

/-- A plain character is the lower-case form of itself and its capital only. -/
lemma lowerChar_eq_iff (hd : isPlain d = true) : lowerChar c = d ↔ c.toLower = d := by
  by_cases hc : c.toNat < 128
  · rw [lowerChar_of_lt hc]
  · have hle : 128 ≤ c.toNat := Nat.le_of_not_lt hc
    refine iff_of_false ?_ ?_
    · rintro rfl
      exact absurd (hd.symm.trans (not_isPlain_lowerChar hle)) (by decide)
    · rw [toLower_of_le hle]
      rintro rfl
      exact hc (isPlain_iff.1 hd).1.2

/-! ## Texts -/

lemma lowerCaseFrom_sigma (before rest : List Char) : ∃ form, isPlain form = false ∧
    lowerCaseFrom before ('Σ' :: rest) = form :: lowerCaseFrom ('Σ' :: before) rest := by
  rw [lowerCaseFrom, if_pos rfl]
  split
  · exact ⟨'ς', by decide, rfl⟩
  · exact ⟨'σ', by decide, rfl⟩

lemma lowerCaseFrom_dottedI (before rest : List Char) :
    lowerCaseFrom before ('İ' :: rest) = 'i' :: '\u0307' :: lowerCaseFrom ('İ' :: before) rest := by
  rw [lowerCaseFrom, if_neg (by decide), if_pos rfl]
  rfl

lemma lowerCaseFrom_cons (hsigma : c ≠ 'Σ') (hdotted : c ≠ 'İ') (before rest : List Char) :
    lowerCaseFrom before (c :: rest) = lowerChar c :: lowerCaseFrom (c :: before) rest := by
  rw [lowerCaseFrom, if_neg hsigma, if_neg hdotted]
  rfl

lemma lowerCaseFrom_eq_nil_iff : lowerCaseFrom before s = [] ↔ s = [] := by
  constructor
  · intro h
    cases s with
    | nil => rfl
    | cons c rest =>
      by_cases hsigma : c = 'Σ'
      · obtain ⟨form, -, hform⟩ := lowerCaseFrom_sigma before rest
        rw [hsigma, hform] at h
        cases h
      · by_cases hdotted : c = 'İ'
        · rw [hdotted, lowerCaseFrom_dottedI] at h
          cases h
        · rw [lowerCaseFrom_cons hsigma hdotted] at h
          cases h
  · rintro rfl
    rfl

/-- A character whose lower-case form may begin with a plain one is no sigma and, where the plain
text goes on, no dotted capital I. -/
lemma lowerCaseFrom_cons_eq_iff {tail r : List Char} (hd : isPlain d = true)
    (htail : ∀ c ∈ tail, isPlain c = true) (hi : tail = [] → d ≠ 'i') :
    lowerCaseFrom before (c :: rest) = d :: (tail ++ r) ↔
      c.toLower = d ∧ lowerCaseFrom (c :: before) rest = tail ++ r := by
  have hbeyond (hc : 128 ≤ c.toNat) : c.toLower ≠ d := by
    rw [toLower_of_le hc]
    rintro rfl
    have hlt := (isPlain_iff.1 hd).1.2
    omega
  by_cases hsigma : c = 'Σ'
  · obtain ⟨form, hform, hcons⟩ := lowerCaseFrom_sigma before rest
    refine iff_of_false ?_ fun h => hbeyond (by rw [hsigma]; decide) h.1
    rw [hsigma, hcons]
    intro h
    rw [(List.cons.inj h).1] at hform
    cases hd.symm.trans hform
  · by_cases hdotted : c = 'İ'
    · refine iff_of_false ?_ fun h => hbeyond (by rw [hdotted]; decide) h.1
      rw [hdotted, lowerCaseFrom_dottedI]
      intro h
      obtain ⟨hsmall, h⟩ := List.cons.inj h
      -- The dot above comes after the small letter, so the plain text cannot go on.
      cases tail with
      | nil => exact hi rfl hsmall.symm
      | cons e tail =>
        have hdot := htail e (List.mem_cons_self ..)
        rw [← (List.cons.inj h).1] at hdot
        cases hdot
    · rw [lowerCaseFrom_cons hsigma hdotted, List.cons.injEq, lowerChar_eq_iff hd]

/-- A plain text, other than one that ends in `i`, is met in a lower-case form where the text spells
it, but for the case of the letters of ASCII. -/
theorem lowerCaseFrom_eq_append_iff {r : List Char} (ht : ∀ c ∈ t, isPlain c = true)
    (hi : t.getLast? ≠ some 'i') :
    lowerCaseFrom before s = t ++ r ↔ (s.take t.length).map Char.toLower = t ∧
      lowerCaseFrom ((s.take t.length).reverse ++ before) (s.drop t.length) = r := by
  induction t generalizing before s with
  | nil => exact (and_iff_right rfl).symm
  | cons d tail ih =>
    obtain ⟨hd, htail⟩ := List.forall_mem_cons.1 ht
    cases s with
    | nil =>
      refine iff_of_false ?_ fun h => ?_
      · intro h
        cases h
      · cases h.1
    | cons c rest =>
      have hend : tail = [] → d ≠ 'i' := by
        rintro rfl rfl
        exact hi rfl
      have hlast : tail.getLast? ≠ some 'i' := by
        cases tail with
        | nil => exact nofun
        | cons e others => rwa [List.getLast?_cons_cons] at hi
      rw [List.cons_append, lowerCaseFrom_cons_eq_iff hd htail hend, ih htail hlast]
      simp only [List.length_cons, List.take_succ_cons, List.drop_succ_cons, List.map_cons,
        List.reverse_cons, List.append_assoc, List.singleton_append, List.cons.injEq, and_assoc]

/-- A plain text begins a lower-case form if it is spelled at the start of the text. -/
theorem isPrefixOf_lowerCase_iff (ht : t.all isPlain = true) (hi : t.getLast? ≠ some 'i') :
    t.isPrefixOf (lowerCase s) = true ↔ SameLetters (s.take t.length) t := by
  rw [List.all_eq_true] at ht
  rw [SameLetters, map_toLower_of_isPlain ht, List.isPrefixOf_iff_prefix]
  constructor
  · rintro ⟨r, h⟩
    exact ((lowerCaseFrom_eq_append_iff ht hi).1 h.symm).1
  · intro h
    exact ⟨_, ((lowerCaseFrom_eq_append_iff ht hi).2 ⟨h, rfl⟩).symm⟩

/-- A plain text is a lower-case form if the whole text spells it. -/
theorem lower_eq_iff {s t : String} (ht : t.toList.all isPlain = true)
    (hi : t.toList.getLast? ≠ some 'i') : lower s = t ↔ SameLetters s.toList t.toList := by
  rw [List.all_eq_true] at ht
  have hwhole : lowerCaseFrom [] s.toList = t.toList ++ [] ↔ _ :=
    lowerCaseFrom_eq_append_iff ht hi
  rw [List.append_nil, lowerCaseFrom_eq_nil_iff, List.drop_eq_nil_iff] at hwhole
  rw [SameLetters, map_toLower_of_isPlain ht, lower, ← String.toList_inj, String.toList_ofList,
    lowerCase, hwhole]
  constructor
  · rintro ⟨h, hlength⟩
    rwa [List.take_of_length_le hlength] at h
  · intro h
    have hlength : s.toList.length = t.toList.length := by
      rw [← h, List.length_map]
    have hle := Nat.le_of_eq hlength
    exact ⟨by rwa [List.take_of_length_le hle], hle⟩

end JavaHome.Text
