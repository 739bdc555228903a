import Mathlib.Tactic.Lemma
import JavaHome.Proofs.Terminal.Wrap

/-!
# Folding

Printable ASCII that is folded at a width, which is not zero, loses nothing but blanks
(`filter_wrap_fold`), and none of its lines is longer than the width
(`length_le_of_mem_wrap_fold`). The second holds since the breaks between words keep an invariant:
what stands on a line before its next word fits, the blanks at its end apart
(`length_trimEnd_le_of_mem_cutAt`).
-/

namespace JavaHome.Terminal

open Text (isBlank trimEnd)

variable {c : Char} {s cur line : List Char} {width start : Nat}

/-! ## Pieces of a word -/

/-- A character that takes a cell of its own. -/
def cellOf (c : Char) : Cluster :=
  ⟨[c], 1⟩

lemma place_of_isAscii (h : isAscii c = true) (before : List Cluster) :
    clustersFrom.place c before = cellOf c :: before := by
  have hwidth := cellWidth_of_isAscii h
  cases before with
  | nil => rw [clustersFrom.place, hwidth, cellOf]
  | cons cluster others => rw [clustersFrom.place, hwidth, if_neg Nat.one_ne_zero, cellOf]

/-- The characters of an ASCII text are its clusters. -/
lemma clusters_of_isAscii (h : ∀ c ∈ s, isAscii c = true) : clusters s = s.map cellOf := by
  have hfrom (last : Option Char) (before : List Cluster) (s : List Char)
      (h : ∀ c ∈ s, isAscii c = true) :
      clustersFrom last before s = before.reverse ++ s.map cellOf := by
    induction s generalizing last before with
    | nil => exact (List.append_nil _).symm
    | cons c rest ih =>
      obtain ⟨hc, hrest⟩ := List.forall_mem_cons.1 h
      have hj := ne_joiner_of_isAscii hc
      have he := ne_emojiSelector_of_isAscii hc
      cases rest with
      | nil =>
        rw [clustersFrom, if_neg (not_or.2 ⟨hj, he⟩), place_of_isAscii hc, List.reverse_cons,
          List.map_singleton]
      | cons next rest =>
        unfold clustersFrom
        rw [if_neg hj, if_neg he, place_of_isAscii hc, ih _ _ hrest, List.reverse_cons,
          List.append_assoc, List.singleton_append, ← List.map_cons]
  exact hfrom none [] s h

/-- Cutting on loses no character. -/
lemma flatten_chopFrom (width : Nat) (piece s : List Char) :
    (chopFrom width piece piece.length (s.map cellOf)).flatten = piece ++ s := by
  induction s generalizing piece with
  | nil =>
    rw [List.map_nil, chopFrom, List.append_nil]
    split
    · rename_i hlength
      rw [List.length_eq_zero_iff.1 hlength, List.flatten_nil]
    · exact List.flatten_singleton
  | cons c rest ih =>
    rw [List.map_cons, chopFrom]
    split
    · exact congrArg (piece ++ ·) (ih [c])
    · have hpiece := ih (piece ++ [c])
      rw [List.length_append, List.append_assoc, List.singleton_append] at hpiece
      exact hpiece

/-- No piece is longer than the width, if the first one is not. -/
lemma length_le_of_mem_chopFrom (hwidth : 1 ≤ width) (piece : List Char)
    (hpiece : piece.length ≤ width)
    (h : line ∈ chopFrom width piece piece.length (s.map cellOf)) : line.length ≤ width := by
  induction s generalizing piece with
  | nil =>
    rw [List.map_nil, chopFrom] at h
    split at h
    · cases h
    · rwa [List.mem_singleton.1 h]
  | cons c rest ih =>
    rw [List.map_cons, chopFrom] at h
    split at h
    · rcases List.mem_cons.1 h with rfl | h
      · exact hpiece
      · exact ih [c] hwidth h
    · rename_i hfits
      refine ih (piece ++ [c]) ?_ ?_
      · rw [List.length_append]
        exact Nat.le_of_not_lt hfits
      · rwa [List.length_append]

/-- A word is the pieces that it is cut into, of which there is a last one, and no piece is longer
than the width. -/
lemma exists_chop (hwidth : 1 ≤ width) (h : ∀ c ∈ s, isAscii c = true) (hne : s ≠ []) :
    ∃ pieces last, chop width s = pieces ++ [last] ∧ s = pieces.flatten ++ last ∧
      (∀ piece ∈ pieces, piece.length ≤ width) ∧ last.length ≤ width := by
  have hflatten : (chop width s).flatten = s := by
    rw [chop, clusters_of_isAscii h]
    exact flatten_chopFrom width [] s
  have hlengths : ∀ piece ∈ chop width s, piece.length ≤ width := by
    rw [chop, clusters_of_isAscii h]
    exact fun piece => length_le_of_mem_chopFrom hwidth [] (Nat.zero_le _)
  rcases List.eq_nil_or_concat (chop width s) with hnil | ⟨pieces, last, hpieces⟩
  · rw [hnil] at hflatten
    exact absurd hflatten.symm hne
  · rw [List.concat_eq_append] at hpieces
    rw [hpieces, List.flatten_append, List.flatten_singleton] at hflatten
    rw [hpieces, List.forall_mem_append, List.forall_mem_singleton] at hlengths
    exact ⟨pieces, last, hpieces, hflatten.symm, hlengths⟩

/-! ## Breaks and lines -/

/-- A break after what stands on a line ends that line. -/
lemma mem_cutAt_breakAt {more : List Nat}
    (h : line ∈ cutAt start (cur ++ s) (breakAt (start + cur.length) ++ more)) :
    line = cur ∨ line ∈ cutAt (start + cur.length) s more := by
  unfold breakAt at h
  split at h
  · rename_i hzero
    -- There is no break where the first line begins, and nothing stands on it yet.
    have hcur : cur = [] := List.length_eq_zero_iff.1 (by omega)
    rw [hcur] at h ⊢
    exact .inr h
  · rw [List.singleton_append, cutAt, Nat.add_sub_cancel_left, List.take_left, List.drop_left] at h
    exact List.mem_cons.1 h

/-- The breaks of a folded word leave its last piece on a line that goes on. -/
lemma mem_cutAt_foldBreaks {pieces : List (List Char)} {last : List Char} {more : List Nat}
    (h : line ∈ cutAt start (cur ++ (pieces.flatten ++ last ++ s))
      (foldBreaks (start + cur.length) (pieces ++ [last]) ++ more)) :
    line = cur ∨ line ∈ pieces ∨
      line ∈ cutAt (start + cur.length + pieces.flatten.length) (last ++ s) more := by
  induction pieces generalizing start cur with
  | nil =>
    rw [List.nil_append, foldBreaks, foldBreaks, List.append_nil] at h
    exact (mem_cutAt_breakAt h).imp_right .inr
  | cons piece rest ih =>
    rw [List.cons_append, foldBreaks, List.append_assoc, List.flatten_cons, List.append_assoc,
      List.append_assoc, ← List.append_assoc rest.flatten] at h
    rcases mem_cutAt_breakAt h with hcur | hrest
    · exact .inl hcur
    · rcases ih hrest with rfl | hmem | hmem
      · exact .inr (.inl (List.mem_cons_self ..))
      · exact .inr (.inl (List.mem_cons_of_mem _ hmem))
      · rw [List.flatten_cons, List.length_append, ← Nat.add_assoc]
        exact .inr (.inr hmem)

/-- What is trimmed off a text is trimmed off at its end. -/
lemma length_trimEnd_append_le (s t : List Char) :
    (trimEnd (s ++ t)).length ≤ s.length + (trimEnd t).length := by
  obtain ⟨tail, ht, -, hblank⟩ := exists_trimEnd_append t
  have htrim : trimEnd (s ++ t) = trimEnd (s ++ trimEnd t) := by
    rw [← trimEnd_append_of_isBlank (s ++ trimEnd t) hblank, List.append_assoc, ← ht]
  rw [htrim, ← List.length_append]
  exact (trimEnd_prefix_self _).length_le

/-- The lines between the breaks fit, the blanks at their ends apart, if that holds of what stands
on the line before its next word. -/
lemma length_trimEnd_le_of_mem_cutAt (hwidth : 1 ≤ width) {words : List (List Char)}
    {tail : List Char} (hcur : (trimEnd cur).length ≤ width)
    (hwords : ∀ word ∈ words, ∀ c ∈ word, isAscii c = true)
    (htail : ∀ c ∈ tail, isBlank c = true)
    (h : line ∈ cutAt start (cur ++ (words.flatten ++ tail))
      (breaksFrom .fold width (start + cur.length) cur.length words)) :
    (trimEnd line).length ≤ width := by
  induction words generalizing start cur with
  | nil =>
    rw [breaksFrom, cutAt, List.mem_singleton, List.flatten_nil, List.nil_append] at h
    rwa [h, trimEnd_append_of_isBlank _ htail]
  | cons word rest ih =>
    obtain ⟨hword, hrest⟩ := List.forall_mem_cons.1 hwords
    have hsize : cells (trimEnd word) = (trimEnd word).length :=
      cells_of_isAscii fun c hmem => hword c ((trimEnd_prefix_self word).subset hmem)
    rw [List.flatten_cons, List.append_assoc] at h
    simp only [breaksFrom, hsize, cells_of_isAscii hword] at h
    split at h
    · -- The word goes on the line.
      rename_i hfits
      rw [Nat.add_assoc, ← List.length_append, ← List.append_assoc] at h
      exact ih (Nat.le_trans (length_trimEnd_append_le cur word) hfits) hrest h
    · split at h
      · -- The word goes on a line of its own.
        rename_i hfits
        rcases mem_cutAt_breakAt h with rfl | h
        · exact hcur
        · exact ih hfits hrest h
      · -- The word is folded, and its last piece is on a line that goes on.
        rename_i hlong
        have hne : word ≠ [] := by
          rintro rfl
          exact hlong (Nat.zero_le width)
        obtain ⟨pieces, last, hchop, rfl, hlengths, hlast⟩ := exists_chop hwidth hword hne
        have hcells : cells last = last.length :=
          cells_of_isAscii fun c hmem => hword c (List.mem_append_right _ hmem)
        rw [hchop, List.getLast?_concat, Option.map_some, Option.getD_some, hcells] at h
        rcases mem_cutAt_foldBreaks h with rfl | hmem | hmem
        · exact hcur
        · exact Nat.le_trans (trimEnd_prefix_self line).length_le (hlengths line hmem)
        · rw [List.length_append, ← Nat.add_assoc] at hmem
          exact ih (Nat.le_trans (trimEnd_prefix_self last).length_le hlast) hrest hmem

/-! ## Folded texts -/

lemma length_dropOverhang_le (h : (trimEnd line).length ≤ width) :
    (dropOverhang width line).length ≤ width := by
  obtain ⟨tail, hline, hlength, -⟩ := exists_trimEnd_append line
  have htotal := congrArg List.length hline
  rw [List.length_append, hlength] at htotal
  simp only [dropOverhang, List.length_take]
  omega

lemma filter_dropOverhang (width : Nat) (line : List Char) :
    (dropOverhang width line).filter (!isBlank ·) = line.filter (!isBlank ·) := by
  have hblank : ∀ c, isBlank c = true → (!isBlank c) = false := fun c h => by rw [h, Bool.not_true]
  rw [← filter_trimEnd hblank, trimEnd_dropOverhang, filter_trimEnd hblank]

/-- The lines between the breaks of an ASCII text fit without the blanks that hang over. -/
lemma length_le_of_mem_breakLine (hwidth : 1 ≤ width) (h : ∀ c ∈ s, isAscii c = true)
    (hline : line ∈ breakLine .fold width s) : (dropOverhang width line).length ≤ width := by
  obtain ⟨tail, hs, htail⟩ := exists_wordsOf_append s
  have hwords : ∀ word ∈ wordsOf s, ∀ c ∈ word, isAscii c = true := by
    intro word hmem c hc
    refine h c ?_
    rw [hs]
    exact List.mem_append_left _ (List.mem_flatten_of_mem hmem hc)
  have hbreak : breakLine .fold width s = cutAt 0 ([] ++ ((wordsOf s).flatten ++ tail))
      (breaksFrom .fold width 0 0 (wordsOf s)) := by
    rw [breakLine, List.nil_append, ← hs]
  rw [hbreak] at hline
  have hnothing : (trimEnd []).length ≤ width := Nat.zero_le _
  exact length_dropOverhang_le
    (length_trimEnd_le_of_mem_cutAt hwidth hnothing hwords htail hline)

/-- No line between the breaks has other characters than the text. -/
lemma mem_of_mem_breakLine {part : List Char} (hpart : part ∈ breakLine .fold width s)
    (hc : c ∈ dropOverhang width part) : c ∈ s := by
  have hflatten : (breakLine .fold width s).flatten = s := flatten_breakLine .fold s
  rw [← hflatten]
  exact List.mem_flatten_of_mem hpart (List.mem_of_mem_take hc)

/-- The lines of ASCII that is folded are those between its breaks, without the blanks that hang
over. -/
lemma wrap_fold (hwidth : 1 ≤ width) (h : ∀ c ∈ s, isAscii c = true) :
    wrap .ragged .fold width s = (breakLine .fold width s).map (dropOverhang width) := by
  have hline : '\n' ∉ s := fun hmem => nomatch h _ hmem
  have htab : '\t' ∉ s := fun hmem => nomatch h _ hmem
  rw [wrap, Text.fieldsOf_of_notMem hline, List.flatMap_singleton, expandTabs_of_notMem htab]
  refine List.map_congr_left fun part hmem => ?_
  refine truncate_of_cells_le .fold ?_
  rw [cells_of_isAscii fun c hc => h c (mem_of_mem_breakLine hmem hc)]
  exact length_le_of_mem_breakLine hwidth h hmem

/-- ASCII that is folded has no line that is longer than the width. -/
theorem length_le_of_mem_wrap_fold (hwidth : 1 ≤ width) (h : ∀ c ∈ s, isAscii c = true)
    (hline : line ∈ wrap .ragged .fold width s) : line.length ≤ width := by
  rw [wrap_fold hwidth h] at hline
  obtain ⟨part, hmem, rfl⟩ := List.mem_map.1 hline
  exact length_le_of_mem_breakLine hwidth h hmem

/-- ASCII that is folded stays ASCII. -/
lemma isAscii_of_mem_wrap_fold (hwidth : 1 ≤ width) (h : ∀ c ∈ s, isAscii c = true)
    (hline : line ∈ wrap .ragged .fold width s) : ∀ c ∈ line, isAscii c = true := by
  rw [wrap_fold hwidth h] at hline
  obtain ⟨part, hmem, rfl⟩ := List.mem_map.1 hline
  exact fun c hc => h c (mem_of_mem_breakLine hmem hc)

/-- ASCII that is folded loses nothing but blanks. -/
theorem filter_wrap_fold (hwidth : 1 ≤ width) (h : ∀ c ∈ s, isAscii c = true) :
    (wrap .ragged .fold width s).flatten.filter (!isBlank ·) = s.filter (!isBlank ·) := by
  have hparts (parts : List (List Char)) :
      (parts.map (dropOverhang width)).flatten.filter (!isBlank ·) =
        parts.flatten.filter (!isBlank ·) := by
    rw [List.filter_flatten, List.filter_flatten, List.map_map]
    exact congrArg List.flatten (List.map_congr_left fun part _ => filter_dropOverhang width part)
  rw [wrap_fold hwidth h, hparts, flatten_breakLine]

end JavaHome.Terminal
