import Mathlib.Tactic.Lemma
import JavaHome.Terminal.Cells

/-!
# Laws of cells

A text takes at least the cells of its beginning (`cellsFrom_le_append`). Two texts take together at
least the cells that they take apart, unless the first one ends in a joiner
(`cells_add_cells_le_append`), and at most these, if the second one begins with an ordinary
character (`cells_append_le`). No character is lost in clusters (`flatMap_chars_clusters`).
-/

namespace JavaHome.Terminal

variable {last : Option Char} {c : Char} {s t : List Char}

/-! ## Counting from a character on -/

/-- A joiner takes no cell, and neither does the character after it. -/
lemma cellsFrom_joiner : cellsFrom last (joiner :: s) = cellsFrom last s.tail := by
  cases s with
  | nil => rfl
  | cons next rest => rw [cellsFrom, if_pos rfl, List.tail_cons]

/-- An emoji selector takes a cell after a character that it widens. -/
lemma cellsFrom_emojiSelector : cellsFrom last (emojiSelector :: s) =
    (if last.any isWidened then 1 else 0) + cellsFrom none s := by
  have hne : emojiSelector ≠ joiner := by decide
  cases s with
  | nil => simp [cellsFrom, hne]
  | cons next rest => rw [cellsFrom, if_neg hne, if_pos rfl]

/-- Every other character takes its own cells. -/
lemma cellsFrom_cons (hj : c ≠ joiner) (he : c ≠ emojiSelector) : cellsFrom last (c :: s) =
    cellWidth c + cellsFrom (if cellWidth c = 0 then last else some c) s := by
  cases s with
  | nil => simp [cellsFrom, hj, he]
  | cons next rest => rw [cellsFrom, if_neg hj, if_neg he]

/-- Texts are counted from their first character on, and from the third one on after a joiner. -/
lemma cells_induction {motive : Option Char → List Char → Prop}
    (nil : ∀ last, motive last [])
    (joined : ∀ last s, motive last s.tail → motive last (joiner :: s))
    (selector : ∀ last s, motive none s → motive last (emojiSelector :: s))
    (ordinary : ∀ last c s, c ≠ joiner → c ≠ emojiSelector →
      motive (if cellWidth c = 0 then last else some c) s → motive last (c :: s))
    (last : Option Char) (s : List Char) : motive last s := by
  induction last, s using cellsFrom.induct with
  | case1 last => exact nil last
  | case2 last => exact joined last [] (nil last)
  | case3 last => exact selector last [] (nil none)
  | case4 last => exact selector last [] (nil none)
  | case5 last c hj he => exact ordinary last c [] hj he (nil _)
  | case6 last next rest ih => exact joined last (next :: rest) ih
  | case7 last next rest _ ih => exact selector last (next :: rest) ih
  | case8 last c next rest hj he ih => exact ordinary last c (next :: rest) hj he ih

/-- A character before a text counts for one cell at most, and only if an emoji selector widens it.
-/
lemma cellsFrom_cases (last : Option Char) (s : List Char) : cellsFrom last s = cells s ∨
    last.any isWidened = true ∧ cellsFrom last s = cells s + 1 := by
  unfold cells
  induction last, s using cells_induction with
  | nil last => exact .inl rfl
  | joined last s ih =>
    rw [cellsFrom_joiner, cellsFrom_joiner]
    exact ih
  | selector last s _ =>
    rw [cellsFrom_emojiSelector, cellsFrom_emojiSelector]
    cases hwidened : last.any isWidened with
    | false => exact .inl rfl
    | true =>
      refine .inr ⟨rfl, ?_⟩
      simp only [if_true, Option.any_none, Bool.false_eq_true, if_false]
      omega
  | ordinary last c s hj he ih =>
    rw [cellsFrom_cons hj he, cellsFrom_cons hj he]
    by_cases hzero : cellWidth c = 0
    · simp only [hzero, if_true, Nat.zero_add] at ih ⊢
      exact ih
    · rw [if_neg hzero, if_neg hzero]
      exact .inl rfl

lemma cells_le_cellsFrom (last : Option Char) (s : List Char) : cells s ≤ cellsFrom last s := by
  rcases cellsFrom_cases last s with h | ⟨-, h⟩ <;> omega

lemma cellsFrom_le_succ (last : Option Char) (s : List Char) : cellsFrom last s ≤ cells s + 1 := by
  rcases cellsFrom_cases last s with h | ⟨-, h⟩ <;> omega

/-! ## Texts one after the other -/

/-- What comes after a text takes no cell from it. -/
lemma cellsFrom_le_append (last : Option Char) (s t : List Char) :
    cellsFrom last s ≤ cellsFrom last (s ++ t) := by
  induction last, s using cells_induction with
  | nil last => exact Nat.zero_le _
  | joined last s ih =>
    cases s with
    | nil =>
      rw [cellsFrom_joiner]
      exact Nat.zero_le _
    | cons next rest =>
      rw [List.cons_append, cellsFrom_joiner, cellsFrom_joiner]
      exact ih
  | selector last s ih =>
    rw [List.cons_append, cellsFrom_emojiSelector, cellsFrom_emojiSelector]
    omega
  | ordinary last c s hj he ih =>
    rw [List.cons_append, cellsFrom_cons hj he, cellsFrom_cons hj he]
    omega

lemma cells_le_append (s t : List Char) : cells s ≤ cells (s ++ t) :=
  cellsFrom_le_append none s t

/-- A text after a character does not end otherwise than with it. -/
lemma getLast?_ne_of_cons {d : Char} (h : (c :: s).getLast? ≠ some d) : s.getLast? ≠ some d := by
  cases s with
  | nil => exact nofun
  | cons next rest => rwa [List.getLast?_cons_cons] at h

/-- Texts take together what they take apart, or more, if no joiner stands between them. -/
lemma cellsFrom_add_cells_le_append (last : Option Char) (h : s.getLast? ≠ some joiner) :
    cellsFrom last s + cells t ≤ cellsFrom last (s ++ t) := by
  induction last, s using cells_induction with
  | nil last =>
    rw [List.nil_append, cellsFrom, Nat.zero_add]
    exact cells_le_cellsFrom last t
  | joined last s ih =>
    match s with
    | [] => exact absurd rfl h
    | [next] => exact ih (by simp)
    | next :: after :: rest =>
      rw [List.cons_append, cellsFrom_joiner, cellsFrom_joiner]
      exact ih (getLast?_ne_of_cons (getLast?_ne_of_cons h))
  | selector last s ih =>
    rw [List.cons_append, cellsFrom_emojiSelector, cellsFrom_emojiSelector]
    have hle := ih (getLast?_ne_of_cons h)
    omega
  | ordinary last c s hj he ih =>
    rw [List.cons_append, cellsFrom_cons hj he, cellsFrom_cons hj he]
    have hle := ih (getLast?_ne_of_cons h)
    omega

lemma cells_add_cells_le_append (h : s.getLast? ≠ some joiner) :
    cells s + cells t ≤ cells (s ++ t) :=
  cellsFrom_add_cells_le_append none h

/-- An ordinary character takes one cell, whatever stands beside it. -/
structure IsOrdinary (c : Char) : Prop where
  notJoiner : c ≠ joiner
  notSelector : c ≠ emojiSelector
  width : cellWidth c = 1
  notWidened : isWidened c = false

/-- An ordinary character starts the count anew. -/
lemma cellsFrom_ordinary (h : IsOrdinary c) :
    cellsFrom last (c :: s) = 1 + cellsFrom (some c) s := by
  rw [cellsFrom_cons h.notJoiner h.notSelector, h.width, if_neg Nat.one_ne_zero]

/-- Texts take together at most what they take apart, if the second begins with an ordinary
character. -/
lemma cellsFrom_append_le (last : Option Char) (s : List Char) (h : IsOrdinary c) :
    cellsFrom last (s ++ c :: t) ≤ cellsFrom last s + cells (c :: t) := by
  unfold cells
  induction last, s using cells_induction with
  | nil last =>
    rw [List.nil_append, cellsFrom_ordinary h, cellsFrom_ordinary h, cellsFrom]
    omega
  | joined last s ih =>
    cases s with
    | nil =>
      rw [List.cons_append, List.nil_append, cellsFrom_joiner, List.tail_cons, cellsFrom_ordinary h]
      have h1 := cellsFrom_le_succ last t
      have h2 := cells_le_cellsFrom (some c) t
      omega
    | cons next rest =>
      rw [List.cons_append, cellsFrom_joiner, cellsFrom_joiner]
      exact ih
  | selector last s ih =>
    rw [List.cons_append, cellsFrom_emojiSelector, cellsFrom_emojiSelector]
    omega
  | ordinary last d s hj he ih =>
    rw [List.cons_append, cellsFrom_cons hj he, cellsFrom_cons hj he]
    omega

lemma cells_append_le (s : List Char) (h : IsOrdinary c) :
    cells (s ++ c :: t) ≤ cells s + cells (c :: t) :=
  cellsFrom_append_le none s h

/-- An ordinary character does not count for what follows. -/
lemma cellsFrom_some (h : IsOrdinary c) (s : List Char) : cellsFrom (some c) s = cells s := by
  rcases cellsFrom_cases (some c) s with hsame | ⟨hwidened, -⟩
  · exact hsame
  · exact absurd (h.notWidened.symm.trans hwidened) (by decide)

/-- An ordinary character adds one cell. -/
lemma cells_cons (h : IsOrdinary c) (s : List Char) : cells (c :: s) = 1 + cells s := by
  rw [← cellsFrom_some h s]
  exact cellsFrom_ordinary h

/-- Ordinary characters before a text take a cell each. -/
lemma cells_append_of_ordinary (h : ∀ c ∈ s, IsOrdinary c) (t : List Char) :
    cells (s ++ t) = s.length + cells t := by
  induction s with
  | nil => exact (Nat.zero_add _).symm
  | cons c rest ih =>
    rw [List.cons_append, cells_cons (h c (List.mem_cons_self ..)),
      ih fun d hmem => h d (List.mem_cons_of_mem _ hmem), List.length_cons]
    omega

lemma cells_of_ordinary (h : ∀ c ∈ s, IsOrdinary c) : cells s = s.length := by
  have happend := cells_append_of_ordinary h []
  rwa [List.append_nil] at happend

/-- Ordinary characters after a text take at most a cell each. -/
lemma cells_append_le_of_ordinary (s : List Char) (h : ∀ c ∈ t, IsOrdinary c) :
    cells (s ++ t) ≤ cells s + t.length := by
  cases t with
  | nil =>
    rw [List.append_nil]
    exact Nat.le_refl _
  | cons c rest =>
    rw [← cells_of_ordinary h]
    exact cells_append_le s (h c (List.mem_cons_self ..))

/-- The blank is ordinary. -/
lemma isOrdinary_blank : IsOrdinary ' ' :=
  ⟨by decide, by decide, by decide +kernel, by decide +kernel⟩

/-! ## Printable ASCII -/

/-- Whether a character is the blank or a graphic one of ASCII. -/
def isAscii (c : Char) : Bool :=
  0x20 ≤ c.toNat && c.toNat < 0x7F

lemma has_eq_false_of_isAscii {ranges : Text.CodePoints}
    (hranges : ∀ range ∈ ranges, range.2 < 0x20 ∨ 0x7F ≤ range.1) (h : isAscii c = true) :
    ranges.has c.toNat = false := by
  cases hhas : ranges.has c.toNat with
  | false => rfl
  | true =>
    obtain ⟨low, high, hmem, hlow, hhigh⟩ := Text.CodePoints.mem_of_has hhas
    have hrange := hranges _ hmem
    simp only [isAscii, Bool.and_eq_true, decide_eq_true_eq] at h hrange
    omega

lemma cellWidth_of_isAscii (h : isAscii c = true) : cellWidth c = 1 := by
  unfold cellWidth
  rw [has_eq_false_of_isAscii (by decide +kernel) h, has_eq_false_of_isAscii (by decide +kernel) h]
  rfl

lemma ne_joiner_of_isAscii (h : isAscii c = true) : c ≠ joiner := by
  rintro rfl
  cases h

lemma ne_emojiSelector_of_isAscii (h : isAscii c = true) : c ≠ emojiSelector := by
  rintro rfl
  cases h

/-- The characters of an ASCII text take a cell each. -/
lemma cells_of_isAscii (h : ∀ c ∈ s, isAscii c = true) : cells s = s.length := by
  have hfrom (last : Option Char) (s : List Char) (h : ∀ c ∈ s, isAscii c = true) :
      cellsFrom last s = s.length := by
    induction s generalizing last with
    | nil => rfl
    | cons c rest ih =>
      obtain ⟨hc, hrest⟩ := List.forall_mem_cons.1 h
      rw [cellsFrom_cons (ne_joiner_of_isAscii hc) (ne_emojiSelector_of_isAscii hc),
        cellWidth_of_isAscii hc, ih _ hrest, List.length_cons, Nat.add_comm]
  exact hfrom none s h

/-! ## Clusters -/

/-- The characters of clusters that are given backwards. -/
def charsBefore (before : List Cluster) : List Char :=
  before.reverse.flatMap Cluster.chars

/-- What is attached comes behind all that is before. -/
lemma charsBefore_attach {before : List Cluster} {joined : List Char}
    (h : before = [] → joined = []) :
    charsBefore (clustersFrom.attach last c joined before) = charsBefore before ++ c :: joined := by
  cases before with
  | nil =>
    rw [h rfl]
    rfl
  | cons cluster others => simp [clustersFrom.attach, charsBefore]

/-- So does a character that is placed. -/
lemma charsBefore_place (before : List Cluster) :
    charsBefore (clustersFrom.place c before) = charsBefore before ++ [c] := by
  cases before with
  | nil => rfl
  | cons cluster others =>
    rw [clustersFrom.place]
    split <;> simp [charsBefore]

lemma flatMap_chars_clustersFrom (last : Option Char) (before : List Cluster) (s : List Char) :
    (clustersFrom last before s).flatMap Cluster.chars = charsBefore before ++ s := by
  fun_induction clustersFrom last before s with
  | case1 last before => simp [charsBefore]
  | case2 last before c =>
    split
    · exact charsBefore_attach fun _ => rfl
    · exact charsBefore_place before
  | case3 last next rest ih => exact ih
  | case4 last before next rest hbefore ih =>
    rw [ih, charsBefore_attach fun h => absurd h hbefore]
    simp
  | case5 last next rest _ ih => exact ih
  | case6 last before next rest hbefore _ ih =>
    rw [ih, charsBefore_attach fun _ => rfl]
    simp
  | case7 last before c next rest _ _ ih =>
    rw [ih, charsBefore_place]
    simp

/-- No character is lost in clusters. -/
lemma flatMap_chars_clusters (s : List Char) : (clusters s).flatMap Cluster.chars = s :=
  flatMap_chars_clustersFrom none [] s

/-! ## Cutting

Characters of a kind to which the blank does not belong do not become more when a text is cut. -/

variable {p : Char → Bool}

lemma countP_takeCells_le (hblank : p ' ' = false) (n : Nat) (parts : List Cluster) :
    (takeCells n parts).countP p ≤ (parts.flatMap Cluster.chars).countP p := by
  fun_induction takeCells n parts with
  | case1 => exact Nat.le_refl _
  | case2 cluster rest _ ih =>
    rw [List.flatMap_cons, List.countP_append, List.countP_append]
    exact Nat.add_le_add_left ih _
  | case3 => exact Nat.zero_le _
  | case4 n cluster rest _ ih =>
    rw [List.flatMap_cons, List.countP_append, List.countP_append]
    exact Nat.add_le_add_left ih _
  | case5 =>
    rw [List.countP_singleton, hblank]
    exact Nat.zero_le _

lemma countP_fitCells_le (hblank : p ' ' = false) (total : Nat) (s : List Char) :
    (fitCells total s).countP p ≤ s.countP p := by
  simp only [fitCells]
  split
  · simp [List.countP_replicate, hblank]
  · split
    · exact Nat.zero_le _
    · have h := countP_takeCells_le hblank total (clusters s)
      rwa [flatMap_chars_clusters] at h

end JavaHome.Terminal
