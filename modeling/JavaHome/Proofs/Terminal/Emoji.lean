import Mathlib.Tactic.Lemma
import JavaHome.Proofs.Text.Fields
import JavaHome.Terminal.Emoji

/-!
# Laws of emoji codes

Marks are the characters that tags, escapes and emoji codes are written with. No emoji has a mark in
it, so a text has fewer marks after the replacement of its codes, unless nothing was replaced
(`replace_eq_self_of_countP_le`). Nothing is replaced exactly in a text that has no codes
(`replace_eq_self_iff`). The cases of each argument are the ways in which a text may begin
(`begins`).
-/

namespace JavaHome.Terminal

/-- The opening bracket of a tag, the backslash before it, and the colon around a code. -/
def isMark (c : Char) : Bool :=
  c == '[' || c == '\\' || c == ':'

namespace Emoji

variable {s word rest after : List Char} {fuel : Nat}

/-! ## Emoji have no marks -/

/-- Whether a byte of a text is a mark. -/
def isMarkByte (b : UInt8) : Bool :=
  b.toNat == 91 || b.toNat == 92 || b.toNat == 58

/-- Marks are single bytes. -/
lemma countP_isMark_of_bytes {s : String}
    (h : s.toByteArray.data.toList.all (!isMarkByte ·) = true) : s.toList.countP isMark = 0 := by
  rw [← String.utf8Encode_toList, List.utf8Encode, List.toList_data_toByteArray,
    List.all_flatMap, List.all_eq_true] at h
  rw [List.countP_eq_zero]
  intro c hmem hmark
  have hbytes := h c hmem
  simp only [isMark, Bool.or_eq_true, beq_iff_eq] at hmark
  rcases hmark with (rfl | rfl) | rfl
  · exact absurd hbytes (by decide)
  · exact absurd hbytes (by decide)
  · exact absurd hbytes (by decide)

lemma bytes_of_mem_names : ∀ group ∈ names, ∀ entry ∈ group,
    entry.2.toByteArray.data.toList.all (!isMarkByte ·) = true := by
  decide +kernel

/-- No emoji has a mark in it. -/
lemma countP_of_find? {emoji : List Char} (h : find? word = some emoji) :
    emoji.countP isMark = 0 := by
  obtain ⟨text, hfound, rfl⟩ := Option.map_eq_some_iff.1 h
  obtain ⟨group, hgroup, hlookup⟩ := List.exists_of_findSome?_eq_some hfound
  obtain ⟨before, after, hentries, -⟩ := List.lookup_eq_some_iff.1 hlookup
  have hentry : (String.ofList (Text.lowerCase word), text) ∈ group := by
    rw [hentries]
    simp
  exact countP_isMark_of_bytes (bytes_of_mem_names group hgroup _ hentry)

/-- Neither has one that a form was selected for. -/
lemma countP_of_expand? {emoji : List Char} (h : expand? word = some emoji) :
    emoji.countP isMark = 0 := by
  have hsplit : expand? word = (find? (splitForm word).1).map (· ++ (splitForm word).2) := rfl
  rw [hsplit, Option.map_eq_some_iff] at h
  obtain ⟨found, hfound, rfl⟩ := h
  have hform : (splitForm word).2.countP isMark = 0 := by
    unfold splitForm
    split <;> rfl
  rw [List.countP_append, countP_of_find? hfound, hform]

/-! ## How texts begin -/

/-- The word of a code: no colon and no blank is in it. -/
def IsWord (word : List Char) : Prop :=
  ∀ c ∈ word, c ≠ ':' ∧ Text.isBlank c = false

/-- No code begins at a colon before a text: a blank comes before the next colon, if there is one.
-/
def HasNoWord (rest : List Char) : Prop :=
  ∀ before after, rest = before ++ ':' :: after → ∃ c ∈ before, Text.isBlank c = true

/-- How a text begins: with a character that is no colon, with a word between two colons, or with a
colon at which no code begins. -/
inductive Begins : List Char → Prop where
  | nil :
    Begins []
  | char {c tail} :
    c ≠ ':' →
    Begins (c :: tail)
  | code {name tail} :
    IsWord name →
    Begins (':' :: (name ++ ':' :: tail))
  | colon {tail} :
    HasNoWord tail →
    Begins (':' :: tail)

lemma isWord_codeWord (rest : List Char) : IsWord (codeWord rest) := by
  intro c hmem
  simpa using List.all_eq_true.1 List.all_takeWhile c hmem

lemma codeWord_append (hword : IsWord word) : codeWord (word ++ ':' :: after) = word := by
  have hall : ∀ c ∈ word, (decide (c ≠ ':') && !Text.isBlank c) = true := by
    intro c hmem
    simp [hword c hmem]
  rw [codeWord, List.takeWhile_append_of_pos hall, List.takeWhile_cons_of_neg (by simp),
    List.append_nil]

/-- What comes after the word of a code. -/
lemma eq_codeWord_append (h : rest.drop (codeWord rest).length = ':' :: after) :
    rest = codeWord rest ++ ':' :: after := by
  rw [← h, codeWord, Text.drop_length_takeWhile, List.takeWhile_append_dropWhile]

/-- If no blank comes before some colon, a code may end at the first one. -/
lemma exists_after_of_not_blank (hword : ∀ c ∈ word, Text.isBlank c = false) :
    ∃ rest, (word ++ ':' :: after).drop (codeWord (word ++ ':' :: after)).length = ':' :: rest := by
  rw [codeWord, Text.drop_length_takeWhile]
  induction word with
  | nil => exact ⟨after, List.dropWhile_cons_of_neg (by simp)⟩
  | cons c word ih =>
    by_cases hc : c = ':'
    · subst hc
      exact ⟨word ++ ':' :: after, List.dropWhile_cons_of_neg (by simp)⟩
    · have hblank := hword c (List.mem_cons_self ..)
      rw [List.cons_append, List.dropWhile_cons_of_pos (by simp [hc, hblank])]
      exact ih fun d hmem => hword d (List.mem_cons_of_mem _ hmem)

lemma begins (s : List Char) : Begins s := by
  cases s with
  | nil => exact .nil
  | cons c rest =>
    by_cases hc : c = ':'
    · subst hc
      by_cases hcode : ∃ after, rest.drop (codeWord rest).length = ':' :: after
      · obtain ⟨after, hafter⟩ := hcode
        rw [eq_codeWord_append hafter]
        exact .code (isWord_codeWord rest)
      · refine .colon ?_
        rintro before after rfl
        refine Decidable.byContradiction fun hnone => hcode (exists_after_of_not_blank ?_)
        simpa using hnone
    · exact .char hc

/-! ## Codes are replaced -/

lemma replaceFrom_char {c : Char} (h : c ≠ ':') :
    replaceFrom (fuel + 1) (c :: rest) = c :: replaceFrom fuel rest := by
  rw [replaceFrom, if_neg h]

/-- A code is taken up to its second colon. -/
lemma replaceFrom_code (hword : IsWord word) :
    replaceFrom (fuel + 1) (':' :: (word ++ ':' :: after)) =
      (expand? word).getD (':' :: word ++ [':']) ++ replaceFrom fuel after := by
  rw [replaceFrom, if_pos rfl]
  simp only [codeWord_append hword, List.drop_left]

/-- A colon at which no code begins stays. -/
lemma replaceFrom_colon (h : HasNoWord rest) :
    replaceFrom (fuel + 1) (':' :: rest) = ':' :: replaceFrom fuel rest := by
  rw [replaceFrom, if_pos rfl]
  dsimp only
  split
  · rename_i after hafter
    obtain ⟨c, hmem, hblank⟩ := h _ _ (eq_codeWord_append hafter)
    cases (isWord_codeWord rest c hmem).2.symm.trans hblank
  · rfl

/-- A code and what follows it. -/
lemma code_append (word after : List Char) :
    ':' :: (word ++ ':' :: after) = (':' :: word ++ [':']) ++ after := by
  simp

/-- The two colons of a code are marks. -/
lemma countP_code_pos (word : List Char) : 0 < (':' :: word ++ [':']).countP isMark := by
  simp [isMark]

/-- Replacing codes adds no marks, and keeps them only where it changes nothing. -/
lemma countP_replaceFrom (fuel : Nat) (s : List Char) :
    (replaceFrom fuel s).countP isMark ≤ s.countP isMark ∧
      (s.countP isMark ≤ (replaceFrom fuel s).countP isMark → replaceFrom fuel s = s) := by
  induction fuel generalizing s with
  | zero => exact ⟨Nat.le_refl _, fun _ => rfl⟩
  | succ fuel ih =>
    cases begins s with
    | nil => exact ⟨Nat.le_refl _, fun _ => rfl⟩
    | @char c rest hc =>
      obtain ⟨hle, heq⟩ := ih rest
      rw [replaceFrom_char hc, List.countP_cons, List.countP_cons]
      exact ⟨by omega, fun h => by rw [heq (by omega)]⟩
    | @code word after hword =>
      obtain ⟨hle, heq⟩ := ih after
      rw [replaceFrom_code hword, code_append, List.countP_append, List.countP_append]
      cases hexpand : expand? word with
      | some emoji =>
        -- The two colons are gone, so the marks cannot all be there.
        have hmarks := countP_code_pos word
        rw [Option.getD_some, countP_of_expand? hexpand]
        exact ⟨by omega, fun h => by omega⟩
      | none =>
        rw [Option.getD_none]
        exact ⟨by omega, fun h => by rw [heq (by omega)]⟩
    | @colon rest hnone =>
      obtain ⟨hle, heq⟩ := ih rest
      rw [replaceFrom_colon hnone, List.countP_cons, List.countP_cons]
      exact ⟨by omega, fun h => by rw [heq (by omega)]⟩

lemma countP_replace_le (s : List Char) : (replace s).countP isMark ≤ s.countP isMark :=
  (countP_replaceFrom s.length s).1

/-- A text that keeps its marks stays as it is. -/
lemma replace_eq_self_of_countP_le (h : s.countP isMark ≤ (replace s).countP isMark) :
    replace s = s :=
  (countP_replaceFrom s.length s).2 h

/-! ## Texts without codes -/

/-- A text in which nothing is replaced. Read from the left, a colon begins no code if a blank comes
before the next colon. A word between two colons may name no emoji; the second colon then begins no
code either. -/
inductive CodeFree : List Char → Prop where
  | nil :
    CodeFree []
  | char {c tail} :
    c ≠ ':' →
    CodeFree tail →
    CodeFree (c :: tail)
  | colon {tail} :
    (∀ before after, tail = before ++ ':' :: after → ∃ c ∈ before, Text.isBlank c = true) →
    CodeFree tail →
    CodeFree (':' :: tail)
  | unknown {name tail} :
    (∀ c ∈ name, c ≠ ':' ∧ Text.isBlank c = false) →
    expand? name = none →
    CodeFree tail →
    CodeFree (':' :: (name ++ ':' :: tail))

/-- Where no code is, nothing is replaced. -/
lemma CodeFree.replaceFrom_eq (h : CodeFree s) (fuel : Nat) : replaceFrom fuel s = s := by
  induction h generalizing fuel with
  | nil => cases fuel <;> rfl
  | char hc _ ih =>
    cases fuel with
    | zero => rfl
    | succ fuel => rw [replaceFrom_char hc, ih]
  | colon hnone _ ih =>
    cases fuel with
    | zero => rfl
    | succ fuel => rw [replaceFrom_colon hnone, ih]
  | unknown hname hexpand _ ih =>
    cases fuel with
    | zero => rfl
    | succ fuel => rw [replaceFrom_code hname, hexpand, ih, code_append, Option.getD_none]

/-- A text in which nothing was replaced has no codes. -/
lemma codeFree_of_replaceFrom_eq {fuel : Nat} (hfuel : s.length ≤ fuel)
    (h : replaceFrom fuel s = s) : CodeFree s := by
  induction fuel generalizing s with
  | zero =>
    cases List.length_eq_zero_iff.1 (Nat.le_zero.1 hfuel)
    exact .nil
  | succ fuel ih =>
    cases begins s with
    | nil => exact .nil
    | char hc =>
      rw [replaceFrom_char hc] at h
      exact .char hc (ih (Nat.le_of_succ_le_succ hfuel) (List.cons.inj h).2)
    | @code word after hword =>
      rw [replaceFrom_code hword] at h
      cases hexpand : expand? word with
      | some emoji =>
        -- The emoji has none of the two marks of its code.
        have hmarks := congrArg (List.countP isMark) h
        rw [hexpand, Option.getD_some, code_append, List.countP_append, List.countP_append,
          countP_of_expand? hexpand] at hmarks
        have hcolons := countP_code_pos word
        have hle := (countP_replaceFrom fuel after).1
        omega
      | none =>
        rw [hexpand, Option.getD_none, code_append] at h
        simp only [List.length_cons, List.length_append] at hfuel
        exact .unknown hword hexpand (ih (by omega) (List.append_cancel_left h))
    | colon hnone =>
      rw [replaceFrom_colon hnone] at h
      exact .colon hnone (ih (Nat.le_of_succ_le_succ hfuel) (List.cons.inj h).2)

/-- A text stays as it is exactly if it has no codes. -/
theorem replace_eq_self_iff : replace s = s ↔ CodeFree s :=
  ⟨codeFree_of_replaceFrom_eq (Nat.le_refl _), fun h => h.replaceFrom_eq _⟩

/-- There is no code without a second colon. -/
lemma codeFree_of_count_le_one (h : s.count ':' ≤ 1) : CodeFree s := by
  induction s with
  | nil => exact .nil
  | cons c rest ih =>
    by_cases hc : c = ':'
    · subst hc
      rw [List.count_cons_self] at h
      have hnone : ':' ∉ rest := List.count_eq_zero.1 (by omega)
      refine .colon ?_ (ih (by omega))
      rintro before after rfl
      exact absurd (List.mem_append_right before (List.mem_cons_self ..)) hnone
    · rw [List.count_cons_of_ne hc] at h
      exact .char hc (ih h)

end Emoji

end JavaHome.Terminal
