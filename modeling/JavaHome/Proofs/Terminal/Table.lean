import Mathlib.Tactic.Lemma
import JavaHome.Proofs.Terminal.Wrap
import JavaHome.Terminal.Table

/-!
# Laws of tables

A table for which a terminal is wide enough stands there in its frame, each row in one line
(`Table.lines_of_fits`). Whatever the width, the lines of a table hold nothing but its texts,
blanks, dots and the frame (`Table.countP_lines_le`), and in its frame a table holds its texts as a
whole (`Table.countP_framed`).
-/

namespace JavaHome.Terminal.Table

open Text (isBlank trimEnd)

variable {t : Table} {s : List Char} {width : Nat}

/-! ## Tables in their frame -/

/-- The width that a column of texts asks for, blanks around the texts included. -/
def naturalWidth (column : List (List Char)) : Nat :=
  (column.map textWidth).foldl max 0 + paddingWidth

/-- The widths that the two columns of a table ask for. -/
def naturalWidths (t : Table) : Nat × Nat :=
  (naturalWidth (t.rows.map Prod.fst), naturalWidth (t.rows.map Prod.snd))

/-- The width of the table between and with its frame. -/
def totalWidth (widths : Nat × Nat) : Nat :=
  widths.1 + widths.2 + frameWidth

/-- A text in its cell, in one line. -/
def framedCell (width : Nat) (s : List Char) : List Char :=
  ' ' :: s ++ List.replicate (width - paddingWidth - cells s) ' ' ++ [' ']

/-- A row in its frame, in one line. -/
def framedRow (widths : Nat × Nat) (row : List Char × List Char) : List Char :=
  '│' :: framedCell widths.1 row.1 ++ '│' :: framedCell widths.2 row.2 ++ ['│']

/-- A title without the blanks at its end, in the middle of a line. -/
def centered (width : Nat) (title : List Char) : List Char :=
  let line := List.replicate ((width - cells (trimEnd title)) / 2) ' ' ++ trimEnd title
  line ++ List.replicate (width - cells line) ' '

/-- A table in its frame, each row in one line. -/
def framed (t : Table) : List (List Char) :=
  centered (totalWidth t.naturalWidths) t.title :: ruleLine t.naturalWidths '┌' '┬' '┐' ::
    t.rows.map (framedRow t.naturalWidths) ++ [ruleLine t.naturalWidths '└' '┴' '┘']

/-- A cell of some width shows a text in one line, and nothing is cut off at its end. -/
structure FitsCell (width : Nat) (s : List Char) : Prop where
  hasRoom : paddingWidth < width
  cells_le : cells s + paddingWidth ≤ width
  uncut : dropOverhang (width - paddingWidth) s = s

/-- A terminal of some width is wide enough for a table: the columns fit it, and the texts fit their
column and the title the table. -/
structure Fits (t : Table) (width : Nat) : Prop where
  columns : totalWidth t.naturalWidths ≤ width
  title : cells t.title ≤ totalWidth t.naturalWidths
  rows : ∀ row ∈ t.rows, FitsCell t.naturalWidths.1 row.1 ∧ FitsCell t.naturalWidths.2 row.2

/-- The title and the texts of the rows. -/
def texts (t : Table) : List (List Char) :=
  t.title :: t.rows.flatMap fun row => [row.1, row.2]

lemma title_mem_texts (t : Table) : t.title ∈ t.texts :=
  List.mem_cons_self ..

lemma mem_texts_of_mem_rows {row : List Char × List Char} (h : row ∈ t.rows) :
    row.1 ∈ t.texts ∧ row.2 ∈ t.texts := by
  constructor
  · exact List.mem_cons_of_mem _ (List.mem_flatMap.2 ⟨row, h, by simp⟩)
  · exact List.mem_cons_of_mem _ (List.mem_flatMap.2 ⟨row, h, by simp⟩)

/-! ## Tables that fit -/

lemma columnWidths_of_fits (h : totalWidth t.naturalWidths ≤ width) :
    t.columnWidths width = t.naturalWidths := by
  have hcolumn (column : List (List Char)) (hle : naturalWidth column ≤ width - frameWidth) :
      columnWidth (width - frameWidth) column = naturalWidth column := by
    unfold columnWidth
    unfold naturalWidth paddingWidth at *
    omega
  unfold totalWidth frameWidth at h
  unfold columnWidths
  simp only [naturalWidths] at h ⊢
  rw [hcolumn _ (by unfold frameWidth; omega), hcolumn _ (by unfold frameWidth; omega),
    shrink_of_le (by unfold frameWidth; omega)]

lemma cellLines_of_fits (h : FitsCell width s) (hline : '\n' ∉ s) (htab : '\t' ∉ s) :
    cellLines width s = [framedCell width s] := by
  have hcells : cells s ≤ width - paddingWidth := Nat.le_sub_of_add_le h.cells_le
  rw [cellLines, if_neg (Nat.not_le_of_lt h.hasRoom), wrap_of_cells_le _ _ hline htab hcells,
    h.uncut, justifyLine]
  simp only [truncate_of_cells_le _ hcells]
  rfl

lemma rowLines_of_fits {widths : Nat × Nat} {row : List Char × List Char}
    (h : FitsCell widths.1 row.1 ∧ FitsCell widths.2 row.2)
    (h1 : '\n' ∉ row.1 ∧ '\t' ∉ row.1) (h2 : '\n' ∉ row.2 ∧ '\t' ∉ row.2) :
    rowLines widths row = [framedRow widths row] := by
  rw [rowLines, cellLines_of_fits h.1 h1.1 h1.2, cellLines_of_fits h.2 h2.1 h2.2]
  rfl

lemma titleLines_of_fits (h : cells s ≤ width) (hline : '\n' ∉ s) (htab : '\t' ∉ s) :
    titleLines width s = [centered width s] := by
  have htrim := Nat.le_trans (cells_trimEnd_le s) h
  rw [titleLines, wrap_of_cells_le _ _ hline htab h, justifyLine]
  simp only [trimEnd_dropOverhang, truncate_of_cells_le _ htrim]
  rfl

lemma linesFor_of_fits (h : t.Fits width) (hplain : ∀ text ∈ t.texts, '\n' ∉ text ∧ '\t' ∉ text) :
    t.linesFor t.naturalWidths = t.framed := by
  have htitle := hplain _ t.title_mem_texts
  have hrows : t.rows.flatMap (rowLines t.naturalWidths) =
      t.rows.map (framedRow t.naturalWidths) := by
    rw [List.map_eq_flatMap, List.flatMap_def, List.flatMap_def]
    refine congrArg List.flatten (List.map_congr_left fun row hmem => ?_)
    obtain ⟨h1, h2⟩ := mem_texts_of_mem_rows hmem
    exact rowLines_of_fits (h.rows row hmem) (hplain _ h1) (hplain _ h2)
  rw [linesFor, hrows, framed]
  rw [← totalWidth, titleLines_of_fits h.title htitle.1 htitle.2]
  rfl

/-- The characters of the frame. -/
def frameChars : List Char :=
  ['│', '─', '┌', '┬', '┐', '└', '┴', '┘']

lemma isOrdinary_of_mem_frameChars {c : Char} (h : c ∈ frameChars) : IsOrdinary c := by
  have hall : frameChars.all (fun c => c ≠ joiner ∧ c ≠ emojiSelector ∧ cellWidth c = 1 ∧
      isWidened c = false) = true := by decide +kernel
  obtain ⟨h1, h2, h3, h4⟩ := of_decide_eq_true (List.all_eq_true.1 hall c h)
  exact ⟨h1, h2, h3, h4⟩

lemma cells_framedCell_le (h : FitsCell width s) : cells (framedCell width s) ≤ width := by
  have hfill : ∀ c ∈ List.replicate (width - paddingWidth - cells s) ' ' ++ [' '],
      IsOrdinary c := by
    intro c hmem
    rw [← List.replicate_succ'] at hmem
    exact List.eq_of_mem_replicate hmem ▸ isOrdinary_blank
  have hle := cells_append_le_of_ordinary s hfill
  have hcells := h.cells_le
  rw [List.length_append, List.length_replicate, List.length_singleton] at hle
  rw [framedCell, List.append_assoc, List.cons_append, cells_cons isOrdinary_blank]
  unfold paddingWidth at *
  omega

lemma cells_framedRow_le {widths : Nat × Nat} {row : List Char × List Char}
    (h : FitsCell widths.1 row.1 ∧ FitsCell widths.2 row.2) :
    cells (framedRow widths row) ≤ totalWidth widths := by
  have hbar : IsOrdinary '│' := isOrdinary_of_mem_frameChars (by decide)
  have hleft := cells_framedCell_le h.1
  have hright := cells_framedCell_le h.2
  have h1 := cells_append_le (t := framedCell widths.2 row.2 ++ ['│'])
    (framedCell widths.1 row.1) hbar
  have h2 := cells_append_le (t := []) (framedCell widths.2 row.2) hbar
  rw [cells_cons hbar] at h1 h2
  have hrow : framedRow widths row =
      '│' :: (framedCell widths.1 row.1 ++ '│' :: (framedCell widths.2 row.2 ++ ['│'])) := by
    simp [framedRow]
  rw [hrow, cells_cons hbar]
  have hnil : cells [] = 0 := rfl
  unfold totalWidth frameWidth
  omega

lemma cells_ruleLine {first joint last : Char} (widths : Nat × Nat) (h1 : first ∈ frameChars)
    (h2 : joint ∈ frameChars) (h3 : last ∈ frameChars) :
    cells (ruleLine widths first joint last) = totalWidth widths := by
  have hmem : ∀ c ∈ ruleLine widths first joint last, c ∈ frameChars := by
    intro c hc
    simp only [ruleLine, List.cons_append, List.mem_cons, List.mem_append, List.mem_replicate,
      List.not_mem_nil, or_false] at hc
    rcases hc with rfl | (⟨-, rfl⟩ | rfl | ⟨-, rfl⟩) | rfl
    · exact h1
    · decide
    · exact h2
    · decide
    · exact h3
  rw [cells_of_ordinary fun c hc => isOrdinary_of_mem_frameChars (hmem c hc)]
  simp [ruleLine, totalWidth, frameWidth]
  omega

lemma cells_centered_le (h : cells s ≤ width) : cells (centered width s) ≤ width := by
  have htrim := Nat.le_trans (cells_trimEnd_le s) h
  have hblank (n : Nat) : ∀ c ∈ List.replicate n ' ', IsOrdinary c := by
    intro c hc
    exact (List.eq_of_mem_replicate hc) ▸ isOrdinary_blank
  have hline := cells_append_of_ordinary (hblank ((width - cells (trimEnd s)) / 2)) (trimEnd s)
  rw [List.length_replicate] at hline
  simp only [centered]
  generalize List.replicate ((width - cells (trimEnd s)) / 2) ' ' ++ trimEnd s = line at *
  have hle := cells_append_le_of_ordinary line (hblank (width - cells line))
  rw [List.length_replicate] at hle
  omega

lemma cropLine_of_cells_le (h : cells s ≤ width) : cropLine width s = s :=
  if_pos h

/-- A table that fits its terminal stands there in its frame. -/
theorem lines_of_fits (h : t.Fits width) (hplain : ∀ text ∈ t.texts, '\n' ∉ text ∧ '\t' ∉ text) :
    t.lines width = t.framed := by
  rw [lines, columnWidths_of_fits h.columns, linesFor_of_fits h hplain]
  refine (List.map_congr_left fun line hmem => ?_).trans (List.map_id _)
  refine cropLine_of_cells_le (Nat.le_trans ?_ h.columns)
  simp only [framed, List.cons_append, List.mem_cons, List.mem_append, List.mem_map,
    List.not_mem_nil, or_false] at hmem
  rcases hmem with rfl | rfl | ⟨row, hrow, rfl⟩ | rfl
  · exact cells_centered_le h.title
  · exact Nat.le_of_eq (cells_ruleLine _ (by decide) (by decide) (by decide))
  · exact cells_framedRow_le (h.rows row hrow)
  · exact Nat.le_of_eq (cells_ruleLine _ (by decide) (by decide) (by decide))

/-! ## When a table fits

A text without line breaks fits its column, unless it ends in blanks. So it is the sum of the
columns that decides about the width of the terminal. -/

lemma textWidth_of_not_isLineBreak (h : ∀ c ∈ s, isLineBreak c = false) :
    textWidth s = cells s := by
  have hmap : (s.map fun c => if isLineBreak c then '\n' else c) = s := by
    refine (List.map_congr_left fun c hmem => ?_).trans (List.map_id _)
    rw [h c hmem]
    rfl
  have hline : '\n' ∉ s := fun hmem => by cases h _ hmem
  rw [textWidth, hmap, Text.fieldsOf_of_notMem hline]
  simp

lemma le_foldl_max (widths : List Nat) (start : Nat) :
    start ≤ widths.foldl max start ∧ ∀ w ∈ widths, w ≤ widths.foldl max start := by
  induction widths generalizing start with
  | nil => exact ⟨Nat.le_refl _, nofun⟩
  | cons first rest ih =>
    obtain ⟨hstart, hrest⟩ := ih (max start first)
    rw [List.foldl_cons]
    refine ⟨by omega, List.forall_mem_cons.2 ⟨by omega, hrest⟩⟩

lemma dropOverhang_of_trimEnd (h : trimEnd s = s) : dropOverhang width s = s := by
  obtain ⟨tail, hs, hlength, -⟩ := exists_trimEnd_append s
  have htail : tail.length = 0 := by
    have htotal := congrArg List.length hs
    rw [List.length_append, h] at htotal
    omega
  simp only [dropOverhang, ← hlength, htail]
  simp

/-- A text fits the column that it stands in. -/
lemma fitsCell_naturalWidth {column : List (List Char)} (hmem : s ∈ column)
    (hbreak : ∀ c ∈ s, isLineBreak c = false) (htrim : trimEnd s = s) (hpos : 0 < cells s) :
    FitsCell (naturalWidth column) s := by
  have hle := (le_foldl_max (column.map textWidth) 0).2 _ (List.mem_map_of_mem hmem)
  rw [textWidth_of_not_isLineBreak hbreak] at hle
  unfold naturalWidth
  exact ⟨by omega, by omega, dropOverhang_of_trimEnd htrim⟩

lemma isLineBreak_of_isAscii {c : Char} (h : isAscii c = true) : isLineBreak c = false := by
  simp only [isAscii, Bool.and_eq_true, decide_eq_true_eq] at h
  simp only [isLineBreak, Bool.or_eq_false_iff, Bool.and_eq_false_iff, beq_eq_false_iff_ne,
    decide_eq_false_iff_not]
  omega

/-- The width of a column of ASCII texts is their greatest length and the blanks around it. -/
lemma naturalWidth_of_isAscii {column : List (List Char)}
    (h : ∀ s ∈ column, ∀ c ∈ s, isAscii c = true) :
    naturalWidth column = (column.map List.length).foldl max 0 + paddingWidth := by
  have hmap : column.map textWidth = column.map List.length :=
    List.map_congr_left fun s hmem => by
      rw [textWidth_of_not_isLineBreak fun c hc => isLineBreak_of_isAscii (h s hmem c hc),
        cells_of_isAscii (h s hmem)]
  rw [naturalWidth, hmap]

lemma naturalWidths_of_isAscii (h : ∀ text ∈ t.texts, ∀ c ∈ text, isAscii c = true) :
    t.naturalWidths = (((t.rows.map Prod.fst).map List.length).foldl max 0 + paddingWidth,
      ((t.rows.map Prod.snd).map List.length).foldl max 0 + paddingWidth) := by
  have hleft : ∀ text ∈ t.rows.map Prod.fst, ∀ c ∈ text, isAscii c = true :=
    List.forall_mem_map.2 fun row hrow => h _ (mem_texts_of_mem_rows hrow).1
  have hright : ∀ text ∈ t.rows.map Prod.snd, ∀ c ∈ text, isAscii c = true :=
    List.forall_mem_map.2 fun row hrow => h _ (mem_texts_of_mem_rows hrow).2
  rw [naturalWidths, naturalWidth_of_isAscii hleft, naturalWidth_of_isAscii hright]

/-- A table of ASCII texts without blanks at their end fits a terminal that has room for the longest
texts of its columns, if its title is no longer than the table. -/
lemma fits_of_isAscii (hascii : ∀ text ∈ t.texts, ∀ c ∈ text, isAscii c = true)
    (htrim : ∀ text ∈ t.texts, text ≠ [] ∧ trimEnd text = text)
    (hwidth : totalWidth t.naturalWidths ≤ width)
    (htitle : t.title.length ≤ totalWidth t.naturalWidths) : t.Fits width where
  columns := hwidth
  title := by
    rw [cells_of_isAscii (hascii _ t.title_mem_texts)]
    exact htitle
  rows := by
    have hcell (text : List Char) (column : List (List Char)) (hmem : text ∈ column)
        (htext : text ∈ t.texts) : FitsCell (naturalWidth column) text := by
      obtain ⟨hne, htrim⟩ := htrim text htext
      refine fitsCell_naturalWidth hmem
        (fun c hc => isLineBreak_of_isAscii (hascii text htext c hc)) htrim ?_
      rw [cells_of_isAscii (hascii text htext)]
      exact List.length_pos_iff.2 hne
    intro row hrow
    obtain ⟨h1, h2⟩ := mem_texts_of_mem_rows hrow
    exact ⟨hcell _ _ (List.mem_map_of_mem hrow) h1, hcell _ _ (List.mem_map_of_mem hrow) h2⟩

/-! ## What the lines hold

Of the characters of a kind to which neither blanks nor dots nor the frame belong, the lines of a
table have at most those of its texts. In its frame a table has all of them. -/

/-- A kind of characters to which nothing belongs that a table is laid out with. -/
structure IsContent (p : Char → Bool) : Prop where
  blank : ∀ c, isBlank c = true → p c = false
  dots : p '…' = false
  frame : ∀ c ∈ frameChars, p c = false

variable {p : Char → Bool}

lemma countP_cellLines_le (hp : IsContent p) (width : Nat) (s : List Char) :
    (cellLines width s).flatten.countP p ≤ s.countP p := by
  unfold cellLines
  split
  · exact Nat.zero_le _
  · have hblank := hp.blank ' ' rfl
    rw [List.map_eq_flatMap]
    refine Nat.le_trans (countP_flatMap_le (fun part => ?_) _)
      (countP_wrap_le hblank hp.dots .left .ellipsis (width - paddingWidth) s)
    simp [hblank]

lemma countP_fillLines (hp : IsContent p) (height width : Nat) (lines : List (List Char)) :
    (fillLines height width lines).flatten.countP p = lines.flatten.countP p := by
  have hblank := hp.blank ' ' rfl
  simp [fillLines, List.countP_flatten, List.countP_replicate, hblank]

lemma countP_zipWith_le {f : List Char → List Char → List Char}
    (h : ∀ a b, (f a b).countP p ≤ a.countP p + b.countP p) (left right : List (List Char)) :
    (left.zipWith f right).flatten.countP p ≤ left.flatten.countP p + right.flatten.countP p := by
  induction left generalizing right with
  | nil => simp
  | cons a left ih =>
    cases right with
    | nil => simp
    | cons b right =>
      rw [List.zipWith_cons_cons, List.flatten_cons, List.countP_append, List.flatten_cons,
        List.countP_append, List.flatten_cons, List.countP_append]
      have h1 := h a b
      have h2 := ih right
      omega

lemma countP_rowLines_le (hp : IsContent p) (widths : Nat × Nat) (row : List Char × List Char) :
    (rowLines widths row).flatten.countP p ≤ row.1.countP p + row.2.countP p := by
  have hbar := hp.frame '│' (by decide)
  simp only [rowLines]
  refine Nat.le_trans (countP_zipWith_le (fun a b => ?_) _ _) ?_
  · simp [hbar]
  · rw [countP_fillLines hp, countP_fillLines hp]
    exact Nat.add_le_add (countP_cellLines_le hp _ _) (countP_cellLines_le hp _ _)

lemma countP_ruleLine (hp : IsContent p) (widths : Nat × Nat) {first joint last : Char}
    (h1 : first ∈ frameChars) (h2 : joint ∈ frameChars) (h3 : last ∈ frameChars) :
    (ruleLine widths first joint last).countP p = 0 := by
  have hbar := hp.frame '─' (by decide)
  simp [ruleLine, List.countP_replicate, hbar, hp.frame _ h1, hp.frame _ h2, hp.frame _ h3]

lemma countP_cropLine_le (hp : IsContent p) (width : Nat) (line : List Char) :
    (cropLine width line).countP p ≤ line.countP p := by
  unfold cropLine
  split
  · exact Nat.le_refl _
  · exact countP_fitCells_le (hp.blank ' ' rfl) width line

/-- The lines of a table hold nothing else than its texts, blanks, dots and the frame. -/
theorem countP_lines_le (hp : IsContent p) (t : Table) (width : Nat) :
    (t.lines width).flatten.countP p ≤ t.texts.flatten.countP p := by
  have hrows (widths : Nat × Nat) (rows : List (List Char × List Char)) :
      (rows.flatMap (rowLines widths)).flatten.countP p ≤
        (rows.flatMap fun row => [row.1, row.2]).flatten.countP p := by
    induction rows with
    | nil => exact Nat.le_refl _
    | cons row rest ih =>
      have hrow := countP_rowLines_le hp widths row
      simp only [List.flatMap_cons, List.flatten_append, List.countP_append, List.flatten_cons,
        List.flatten_nil, List.countP_nil, Nat.add_zero]
      omega
  have hall (widths : Nat × Nat) :
      (t.linesFor widths).flatten.countP p ≤ t.texts.flatten.countP p := by
    have htitle := countP_wrap_le (hp.blank ' ' rfl) hp.dots .center .fold
      (widths.1 + widths.2 + frameWidth) t.title
    have hrest := hrows widths t.rows
    have htop : (ruleLine widths '┌' '┬' '┐').countP p = 0 :=
      countP_ruleLine hp widths (by decide) (by decide) (by decide)
    have hbottom : (ruleLine widths '└' '┴' '┘').countP p = 0 :=
      countP_ruleLine hp widths (by decide) (by decide) (by decide)
    simp only [linesFor, titleLines, texts, List.flatten_append, List.flatten_cons,
      List.countP_append, List.flatten_nil, List.countP_nil]
    omega
  rw [lines, List.map_eq_flatMap]
  refine Nat.le_trans (countP_flatMap_le (fun line => ?_) _) (hall _)
  rw [List.flatten_singleton]
  exact countP_cropLine_le hp width line

lemma countP_framedRow (hp : IsContent p) (widths : Nat × Nat) (row : List Char × List Char) :
    (framedRow widths row).countP p = row.1.countP p + row.2.countP p := by
  have hblank := hp.blank ' ' rfl
  have hbar := hp.frame '│' (by decide)
  simp [framedRow, framedCell, List.countP_replicate, hblank, hbar]

/-- In its frame a table holds its texts as a whole. -/
theorem countP_framed (hp : IsContent p) (t : Table) :
    t.framed.flatten.countP p = t.texts.flatten.countP p := by
  have htitle : (centered (totalWidth t.naturalWidths) t.title).countP p = t.title.countP p := by
    simp [centered, List.countP_replicate, hp.blank ' ' rfl, countP_trimEnd hp.blank]
  have hrows (rows : List (List Char × List Char)) :
      (rows.map (framedRow t.naturalWidths)).flatten.countP p =
        (rows.flatMap fun row => [row.1, row.2]).flatten.countP p := by
    induction rows with
    | nil => rfl
    | cons row rest ih =>
      have hrow := countP_framedRow hp t.naturalWidths row
      simp only [List.map_cons, List.flatten_cons, List.countP_append, List.flatMap_cons,
        List.flatten_append, List.flatten_nil, List.countP_nil, Nat.add_zero]
      omega
  have htop : (ruleLine t.naturalWidths '┌' '┬' '┐').countP p = 0 :=
    countP_ruleLine hp _ (by decide) (by decide) (by decide)
  have hbottom : (ruleLine t.naturalWidths '└' '┴' '┘').countP p = 0 :=
    countP_ruleLine hp _ (by decide) (by decide) (by decide)
  simp only [framed, texts, List.flatten_append, List.flatten_cons, List.countP_append,
    List.flatten_nil, List.countP_nil, htitle, hrows]
  omega

end JavaHome.Terminal.Table
