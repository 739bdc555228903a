import Mathlib.Data.List.TakeWhile
import Mathlib.Tactic.Lemma
import JavaHome.Proofs.Terminal.Cells
import JavaHome.Proofs.Text.Fields
import JavaHome.Terminal.Wrap

/-!
# Laws of wrapping

A text without line ends and tabs that fits its line stays in one line (`wrap_of_cells_le`): its
words take together no more cells than the text (`totalCells_wordsOf_le`). Whatever the width,
wrapping adds nothing but blanks and dots (`countP_wrap_le`).
-/

namespace JavaHome.Terminal

open Text (isBlank trimEnd drop_length_takeWhile)

variable {s : List Char} {width : Nat}

/-! ## Words -/

lemma trimEnd_prefix_self (s : List Char) : trimEnd s <+: s := by
  have h := List.dropWhile_suffix (l := s.reverse) isBlank
  rwa [← List.reverse_prefix, List.reverse_reverse] at h

/-- Blanks at the end do not count for what is trimmed. -/
lemma trimEnd_append_of_isBlank (s : List Char) {tail : List Char}
    (h : ∀ c ∈ tail, isBlank c = true) : trimEnd (s ++ tail) = trimEnd s := by
  unfold trimEnd
  rw [List.reverse_append, List.dropWhile_append_of_pos fun c hmem => h c (List.mem_reverse.1 hmem)]

/-- What is trimmed off a text is blank. -/
lemma exists_trimEnd_append (s : List Char) :
    ∃ tail, s = trimEnd s ++ tail ∧ tail.length = (s.reverse.takeWhile isBlank).length ∧
      ∀ c ∈ tail, isBlank c = true := by
  refine ⟨(s.reverse.takeWhile isBlank).reverse, ?_, List.length_reverse, ?_⟩
  · have h := congrArg List.reverse
      (List.takeWhile_append_dropWhile (p := isBlank) (l := s.reverse))
    rw [List.reverse_append, List.reverse_reverse] at h
    exact h.symm
  · intro c hmem
    exact List.all_eq_true.1 List.all_takeWhile c (List.mem_reverse.1 hmem)

/-- What is not blank is not trimmed off. -/
lemma filter_trimEnd {p : Char → Bool} (hp : ∀ c, isBlank c = true → p c = false)
    (s : List Char) : (trimEnd s).filter p = s.filter p := by
  obtain ⟨tail, hs, -, hblank⟩ := exists_trimEnd_append s
  have htail : tail.filter p = [] := by
    rw [List.filter_eq_nil_iff]
    intro c hmem
    simp [hp c (hblank c hmem)]
  calc (trimEnd s).filter p
      = (trimEnd s ++ tail).filter p := by rw [List.filter_append, htail, List.append_nil]
    _ = s.filter p := by rw [← hs]

lemma countP_trimEnd {p : Char → Bool} (hp : ∀ c, isBlank c = true → p c = false)
    (s : List Char) : (trimEnd s).countP p = s.countP p := by
  rw [List.countP_eq_length_filter, filter_trimEnd hp, ← List.countP_eq_length_filter]

lemma cells_trimEnd_le (s : List Char) : cells (trimEnd s) ≤ cells s := by
  obtain ⟨rest, h⟩ := trimEnd_prefix_self s
  have hle := cells_le_append (trimEnd s) rest
  rwa [h] at hle

/-- A word is followed by blanks unless it is the last one, so it does not end in a joiner. -/
lemma getLast?_takeWhile_isBlank {before rest : List Char}
    (hbefore : before.dropWhile isBlank = rest) (hhead : ∀ c ∈ before.head?, isBlank c = true)
    (hrest : rest ≠ []) (front : List Char) :
    (front ++ before.takeWhile isBlank).getLast? ≠ some joiner := by
  have htail : before.takeWhile isBlank ≠ [] := by
    cases before with
    | nil => exact absurd hbefore.symm hrest
    | cons c others => simp [hhead c rfl]
  intro hlast
  rw [List.getLast?_append, List.getLast?_eq_some_getLast htail, Option.some_or] at hlast
  have hmem := List.mem_of_getLast? (List.getLast?_eq_some_getLast htail |>.trans hlast)
  have hblank := List.all_eq_true.1 (List.all_takeWhile (p := isBlank) (l := before)) _ hmem
  exact absurd hblank (by decide)

/-- The words of a text are its first word and the words after that, unless it is blank. -/
lemma wordsFrom_succ (fuel : Nat) (s : List Char) :
    (wordsFrom (fuel + 1) s = [] ∧ ∀ c ∈ s, isBlank c = true) ∨
      ∃ word rest, s = word ++ rest ∧ wordsFrom (fuel + 1) s = word :: wordsFrom fuel rest ∧
        word ≠ [] ∧ (rest ≠ [] → word.getLast? ≠ some joiner) := by
  simp only [wordsFrom, drop_length_takeWhile]
  split
  · rename_i hbody
    refine .inl ⟨rfl, List.dropWhile_eq_nil_iff.1 ?_⟩
    -- What follows the blanks in front would begin a word.
    cases hrest : s.dropWhile isBlank with
    | nil => rfl
    | cons c rest =>
      have hhead := List.head?_dropWhile_not isBlank s
      rw [hrest] at hbody hhead
      rw [List.takeWhile_cons_of_pos (by simpa using hhead)] at hbody
      cases hbody
  · rename_i hbody
    refine .inr ⟨_, _, ?_, rfl, fun hnil => hbody ?_, fun hrest => ?_⟩
    · simp only [List.append_assoc, List.takeWhile_append_dropWhile]
    · exact (List.append_eq_nil_iff.1 (List.append_eq_nil_iff.1 hnil).1).2
    · refine getLast?_takeWhile_isBlank rfl ?_ hrest _
      intro c hc
      have h := List.head?_dropWhile_not (!isBlank ·) (s.dropWhile isBlank)
      rw [Option.mem_def.1 hc] at h
      simpa using h

/-- The cells that words take together. -/
def totalCells : List (List Char) → Nat
  | [] => 0
  | word :: rest => cells word + totalCells rest

/-- Words take together no more cells than their text. -/
lemma totalCells_wordsFrom_le (fuel : Nat) (s : List Char) :
    totalCells (wordsFrom fuel s) ≤ cells s := by
  induction fuel generalizing s with
  | zero => exact Nat.zero_le _
  | succ fuel ih =>
    rcases wordsFrom_succ fuel s with ⟨hnil, -⟩ | ⟨word, rest, rfl, hwords, -, hlast⟩
    · rw [hnil]
      exact Nat.zero_le _
    · rw [hwords, totalCells]
      -- The last word may end in a joiner, but nothing comes after it.
      by_cases hrest : rest = []
      · rw [hrest, List.append_nil]
        have hnone := ih []
        exact Nat.add_le_add_left hnone (cells word)
      · calc cells word + totalCells (wordsFrom fuel rest)
            ≤ cells word + cells rest := Nat.add_le_add_left (ih rest) _
          _ ≤ cells (word ++ rest) := cells_add_cells_le_append (hlast hrest)

lemma totalCells_wordsOf_le (s : List Char) : totalCells (wordsOf s) ≤ cells s :=
  totalCells_wordsFrom_le s.length s

/-- A text is its words, and blanks after them if it is blank. -/
lemma exists_wordsFrom_append {fuel : Nat} (h : s.length ≤ fuel) :
    ∃ tail, s = (wordsFrom fuel s).flatten ++ tail ∧ ∀ c ∈ tail, isBlank c = true := by
  induction fuel generalizing s with
  | zero =>
    rw [List.length_eq_zero_iff.1 (Nat.le_zero.1 h)]
    exact ⟨[], rfl, nofun⟩
  | succ fuel ih =>
    rcases wordsFrom_succ fuel s with ⟨hnil, hblank⟩ | ⟨word, rest, rfl, hwords, hne, -⟩
    · rw [hnil]
      exact ⟨s, rfl, hblank⟩
    · have hlength := List.length_pos_iff.2 hne
      rw [List.length_append] at h
      obtain ⟨tail, hrest, htail⟩ := ih (s := rest) (by omega)
      refine ⟨tail, ?_, htail⟩
      rw [hwords, List.flatten_cons, List.append_assoc, ← hrest]

lemma exists_wordsOf_append (s : List Char) :
    ∃ tail, s = (wordsOf s).flatten ++ tail ∧ ∀ c ∈ tail, isBlank c = true :=
  exists_wordsFrom_append (Nat.le_refl _)

/-! ## Lines that fit -/

/-- No break stands before words that fit together. -/
lemma breaksFrom_eq_nil (overflow : Overflow) {start taken : Nat} {words : List (List Char)}
    (h : taken + totalCells words ≤ width) :
    breaksFrom overflow width start taken words = [] := by
  induction words generalizing start taken with
  | nil => rfl
  | cons word rest ih =>
    rw [totalCells] at h
    have hword := cells_trimEnd_le word
    unfold breaksFrom
    simp only
    rw [if_pos (by omega)]
    exact ih (by omega)

lemma breakLine_of_cells_le (overflow : Overflow) (h : cells s ≤ width) :
    breakLine overflow width s = [s] := by
  have htotal := totalCells_wordsOf_le s
  rw [breakLine, breaksFrom_eq_nil overflow (by omega), cutAt]

lemma expandTabs_of_notMem (h : '\t' ∉ s) : expandTabs s = s := by
  rw [expandTabs, Text.fieldsOf_of_notMem h, expandFields]

/-- A text that fits its line stays in one line. -/
lemma wrap_of_cells_le (justify : Justify) (overflow : Overflow) (hline : '\n' ∉ s)
    (htab : '\t' ∉ s) (h : cells s ≤ width) : wrap justify overflow width s =
      [justifyLine justify overflow width (dropOverhang width s)] := by
  rw [wrap, Text.fieldsOf_of_notMem hline, List.flatMap_singleton, expandTabs_of_notMem htab,
    breakLine_of_cells_le overflow h, List.map_singleton]

/-- A text of one line without tabs is that line when it is not wrapped. -/
lemma unwrapped_of_notMem (hline : '\n' ∉ s) (htab : '\t' ∉ s) : unwrapped s = [s] := by
  rw [unwrapped, Text.fieldsOf_of_notMem hline, List.map_singleton, expandTabs_of_notMem htab]

/-- Only blanks hang over. -/
lemma trimEnd_dropOverhang (width : Nat) (s : List Char) :
    trimEnd (dropOverhang width s) = trimEnd s := by
  obtain ⟨tail, hs, hlength, hblank⟩ := exists_trimEnd_append s
  have htotal := congrArg List.length hs
  rw [List.length_append, hlength] at htotal
  simp only [dropOverhang]
  have hkept : (trimEnd s).length ≤
      s.length - min (s.reverse.takeWhile isBlank).length (s.length - width) := by omega
  -- What is kept reaches into the blanks at the end, but not beyond them.
  generalize s.length - min (s.reverse.takeWhile isBlank).length (s.length - width) = kept at *
  have htake : s.take kept = trimEnd s ++ tail.take (kept - (trimEnd s).length) :=
    calc s.take kept
        = (trimEnd s ++ tail).take kept := by rw [← hs]
      _ = _ := by rw [List.take_append, List.take_of_length_le hkept]
  calc trimEnd (s.take kept)
      = trimEnd (trimEnd s) := by
        rw [htake, trimEnd_append_of_isBlank _ fun c h => hblank c (List.mem_of_mem_take h)]
    _ = trimEnd (trimEnd s ++ tail) := (trimEnd_append_of_isBlank _ hblank).symm
    _ = trimEnd s := by rw [← hs]

/-- A line that fits is not cut. -/
lemma truncate_of_cells_le (overflow : Overflow) (h : cells s ≤ width) :
    truncate overflow width s = s :=
  if_pos h

/-- Lines are the fields of what is printed of them, before an empty one. -/
lemma fieldsOf_printLines {lines : List (List Char)} (h : ∀ line ∈ lines, '\n' ∉ line) :
    Text.fieldsOf '\n' (printLines lines) = lines ++ [[]] := by
  induction lines with
  | nil => rfl
  | cons line rest ih =>
    obtain ⟨hline, hrest⟩ := List.forall_mem_cons.1 h
    rw [printLines, List.flatMap_cons, ← printLines, List.append_assoc, List.singleton_append,
      Text.fieldsOf_append_cons, Text.fieldsOf_of_notMem hline, ih hrest]
    rfl

/-- Every line is printed, if only its end. -/
lemma printLines_ne_nil {lines : List (List Char)} (h : lines ≠ []) : printLines lines ≠ [] := by
  obtain ⟨line, rest, rfl⟩ := List.exists_cons_of_ne_nil h
  simp [printLines]

/-- Only line ends are printed besides the lines. -/
lemma filter_printLines {p : Char → Bool} (hend : p '\n' = false) (lines : List (List Char)) :
    (printLines lines).filter p = lines.flatten.filter p := by
  induction lines with
  | nil => rfl
  | cons line rest ih =>
    have hnone : ['\n'].filter p = [] := List.filter_cons_of_neg (by simp [hend])
    rw [printLines, List.flatMap_cons, ← printLines, List.filter_append, List.filter_append, ih,
      hnone, List.append_nil, List.flatten_cons, List.filter_append]

lemma countP_printLines {p : Char → Bool} (hend : p '\n' = false) (lines : List (List Char)) :
    (printLines lines).countP p = lines.flatten.countP p := by
  rw [List.countP_eq_length_filter, filter_printLines hend, ← List.countP_eq_length_filter]

/-! ## What wrapping adds

Characters of a kind to which neither the blank nor the three dots belong do not become more. -/

variable {p : Char → Bool}

lemma countP_expandFields (hblank : p ' ' = false) (column : Nat) (fields : List (List Char)) :
    (expandFields column fields).countP p = fields.flatten.countP p := by
  fun_induction expandFields column fields with
  | case1 => rfl
  | case2 => simp
  | case3 column field rest _ _ _ ih =>
    rw [List.countP_append, List.countP_append, List.countP_replicate, hblank, ih]
    simp

lemma countP_expandTabs_le (hblank : p ' ' = false) (line : List Char) :
    (expandTabs line).countP p ≤ line.countP p := by
  rw [expandTabs, countP_expandFields hblank]
  exact (Text.sublist_fieldsOf '\t' line).countP_le

/-- Cutting a line loses nothing. -/
lemma flatten_cutAt (start : Nat) (s : List Char) (breaks : List Nat) :
    (cutAt start s breaks).flatten = s := by
  induction breaks generalizing start s with
  | nil => simp [cutAt]
  | cons position rest ih => rw [cutAt, List.flatten_cons, ih, List.take_append_drop]

lemma flatten_breakLine (overflow : Overflow) (line : List Char) :
    (breakLine overflow width line).flatten = line :=
  flatten_cutAt _ _ _

lemma countP_truncate_le (hblank : p ' ' = false) (hdots : p '…' = false) (overflow : Overflow)
    (width : Nat) (line : List Char) : (truncate overflow width line).countP p ≤ line.countP p := by
  unfold truncate
  split
  · exact Nat.le_refl _
  · cases overflow with
    | fold => exact countP_fitCells_le hblank width line
    | ellipsis =>
      have h := countP_fitCells_le hblank (width - 1) line
      simpa [hdots] using h

lemma countP_justifyLine_le (hblank : p ' ' = false) (hdots : p '…' = false) (justify : Justify)
    (overflow : Overflow) (line : List Char) :
    (justifyLine justify overflow width line).countP p ≤ line.countP p := by
  cases justify with
  | ragged => exact countP_truncate_le hblank hdots overflow width line
  | left =>
    have h := countP_truncate_le hblank hdots overflow width line
    simpa [justifyLine, List.countP_replicate, hblank] using h
  | center =>
    have h := countP_truncate_le hblank hdots overflow width (trimEnd line)
    have htrim := (trimEnd_prefix_self line).sublist.countP_le (p := p)
    simpa [justifyLine, List.countP_replicate, hblank] using Nat.le_trans h htrim

/-- What becomes of texts holds no more than they do, if that is so for each of them. -/
lemma countP_flatMap_le {f : List Char → List (List Char)}
    (h : ∀ part, (f part).flatten.countP p ≤ part.countP p) (parts : List (List Char)) :
    (parts.flatMap f).flatten.countP p ≤ parts.flatten.countP p := by
  induction parts with
  | nil => exact Nat.le_refl _
  | cons part rest ih =>
    rw [List.flatMap_cons, List.flatten_append, List.countP_append, List.flatten_cons,
      List.countP_append]
    exact Nat.add_le_add (h part) ih

/-- Wrapping adds blanks and dots only. -/
lemma countP_wrap_le (hblank : p ' ' = false) (hdots : p '…' = false) (justify : Justify)
    (overflow : Overflow) (width : Nat) (s : List Char) :
    (wrap justify overflow width s).flatten.countP p ≤ s.countP p := by
  have hpart (part : List Char) :
      [justifyLine justify overflow width (dropOverhang width part)].flatten.countP p ≤
        part.countP p := by
    rw [List.flatten_singleton]
    exact Nat.le_trans (countP_justifyLine_le hblank hdots justify overflow _)
      (List.take_sublist _ part).countP_le
  have hline (line : List Char) :
      ((breakLine overflow width (expandTabs line)).map fun part =>
        justifyLine justify overflow width (dropOverhang width part)).flatten.countP p ≤
          line.countP p := by
    have h := countP_flatMap_le hpart (breakLine overflow width (expandTabs line))
    rw [flatten_breakLine] at h
    rw [List.map_eq_flatMap]
    exact Nat.le_trans h (countP_expandTabs_le hblank line)
  exact Nat.le_trans (countP_flatMap_le hline _) (Text.sublist_fieldsOf '\n' s).countP_le

/-- What is not wrapped adds nothing either. -/
lemma countP_unwrapped_le (hblank : p ' ' = false) (s : List Char) :
    (unwrapped s).flatten.countP p ≤ s.countP p := by
  have hline (line : List Char) : [expandTabs line].flatten.countP p ≤ line.countP p := by
    rw [List.flatten_singleton]
    exact countP_expandTabs_le hblank line
  rw [unwrapped, List.map_eq_flatMap]
  exact Nat.le_trans (countP_flatMap_le hline _) (Text.sublist_fieldsOf '\n' s).countP_le

end JavaHome.Terminal
