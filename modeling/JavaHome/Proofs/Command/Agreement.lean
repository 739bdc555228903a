import Mathlib.Tactic.Lemma
import JavaHome.Command.Run
import JavaHome.Proofs.Terminal.Markup
import JavaHome.Proofs.Terminal.Table

/-!
# Tables and reports

The table that says what a report says is `reportTable`. Rows are read as markup on their way to the
terminal, so they can fail (`exists_rows_iff`), and they lose marks unless their texts are plain
(`isPlain_of_rows`). The text for an installation therefore is the table of its report if and only
if the texts of the report are plain (`text_eq_reportTable_iff`).
-/

namespace JavaHome.Command

open Terminal (Table isMark printLines)
open Terminal.Markup (IsPlain)

variable {width : Nat} {s : Summary}

/-! ## The table of a report -/

/-- The value under a key of a report; without one, null. -/
def valueAt (key : String) (report : Json) : Json :=
  (report.get? key).getD .null

/-- How a value of a report stands in a table. -/
def valueText : Json → String
  | .string text => text
  | .bool b => if b then "yes" else "no"
  | .null => absent
  | .object _ => ""

/-- The text of a value of a report. -/
def textAt (key : String) (report : Json) : String :=
  valueText (valueAt key report)

/-- The table that says what the report on an installation says. -/
def reportTable (report : Json) : Table where
  title := (textAt "description" report).toList
  rows :=
    let java := valueAt "java_executable" report
    [("Base", textAt "base" report), ("Home", textAt "home" report),
      ("Vendor", textAt "vendor" report), ("User supplied", textAt "user_supplied" report),
      ("java", textAt "path" java ++ " (" ++ textAt "source" java ++ ")"),
      ("tools.jar", textAt "tools_jar" report),
      ("Runtime jar", textAt "runtime_jar" report)].map fun row => (row.1.toList, row.2.toList)

/-- The keys of a report whose values are texts of cells. -/
def cellKeys : List String :=
  ["base", "home", "vendor", "tools_jar", "runtime_jar"]

/-- The keys of a report whose values are the title and texts of cells. -/
def textKeys : List String :=
  "description" :: cellKeys

/-- The text of a cell, before anything is read from it. -/
def Cell.text : Cell → String
  | markup text => text
  | literal text => text

/-- A row as it stands, before anything is read from it. -/
def unreadRow (row : String × Cell) : List Char × List Char :=
  (row.1.toList, row.2.text.toList)

/-- The table of a report has the texts of the rows for the summary. -/
lemma reportTable_toJson (s : Summary) :
    reportTable s.toJson = ⟨s.description.toList, (summaryRows s).map unreadRow⟩ := by
  have hpath (path : Option Path) :
      (valueText (.ofOption (path.map Path.text))).toList = (Cell.ofPath? path).text.toList := by
    cases path <;> rfl
  simp [reportTable, textAt, valueAt, Json.get?, Summary.toJson, Executable.toJson,
    List.lookup_cons, summaryRows, unreadRow, Cell.text, valueText]
  exact ⟨hpath s.toolsArchive, hpath s.runtimeArchive⟩

/-- What holds of plain texts holds of the texts that are read as markup in the rows for a summary,
if and only if it holds of the texts of its report. -/
lemma forall_markup_iff {P : String → Prop} (h : ∀ text, IsPlain text.toList → P text)
    (s : Summary) : (∀ row ∈ summaryRows s, ∀ source, row.2 = .markup source → P source) ↔
      ∀ key ∈ cellKeys, P (textAt key s.toJson) := by
  have hvendor : P s.vendor.word := by
    refine h _ (Terminal.Markup.isPlain_of_count_le_one ?_ ?_) <;> cases s.vendor <;> decide
  have hsupplied : P (if s.userSupplied then "yes" else "no") := by
    refine h _ (Terminal.Markup.isPlain_of_count_le_one ?_ ?_) <;> cases s.userSupplied <;> decide
  have habsent : P absent :=
    h _ (Terminal.Markup.isPlain_of_count_le_one (by decide) (by decide))
  have hpath (path : Option Path) : (∀ source, Cell.ofPath? path = .markup source → P source) ↔
      P (valueText (.ofOption (path.map Path.text))) := by
    cases path with
    | none => exact ⟨fun _ => habsent, fun _ => nofun⟩
    | some path => simp [Cell.ofPath?, valueText, Json.ofOption]
  simp [summaryRows, cellKeys, textAt, valueAt, Json.get?, Summary.toJson, List.lookup_cons,
    List.lookup_nil, valueText, hvendor, hsupplied, hpath]

/-! ## Reading rows -/

variable {rows : List (String × Cell)} {shown : List (List Char × List Char)}

/-- The marks in rows. -/
def marksIn (rows : List (List Char × List Char)) : Nat :=
  (rows.flatMap fun row => [row.1, row.2]).flatten.countP isMark

lemma marksIn_cons (row : List Char × List Char) (rows : List (List Char × List Char)) :
    marksIn (row :: rows) = row.1.countP isMark + row.2.countP isMark + marksIn rows := by
  simp [marksIn, Nat.add_assoc]

/-- What a cell is read as: nothing without room. -/
def readCell (hasRoom : Bool) (cell : Cell) : Except Terminal.Markup.Error (List Char) :=
  if hasRoom then cell.chars else .ok []

lemma tableRow_eq_ok_iff {hasRoom : Bool} {row : String × Cell} {read : List Char × List Char} :
    tableRow hasRoom row = .ok read ↔
      ∃ text, readCell hasRoom row.2 = .ok text ∧ (row.1.toList, text) = read := by
  have hmap : tableRow hasRoom row =
      (readCell hasRoom row.2).map fun text => (row.1.toList, text) := by
    cases hasRoom with
    | false => rfl
    | true => cases h : row.2.chars <;> simp [tableRow, readCell, h] <;> rfl
  rw [hmap, map_eq_ok_iff]

lemma mapM_cons_eq_ok_iff {hasRoom : Bool} {row : String × Cell} :
    (row :: rows).mapM (tableRow hasRoom) = .ok shown ↔
      ∃ read rest, tableRow hasRoom row = .ok read ∧ rows.mapM (tableRow hasRoom) = .ok rest ∧
        read :: rest = shown := by
  rw [List.mapM_cons, bind_eq_ok_iff]
  constructor
  · rintro ⟨read, hread, h⟩
    obtain ⟨rest, hrest, h⟩ := bind_eq_ok_iff.1 h
    cases h
    exact ⟨read, rest, hread, hrest, rfl⟩
  · rintro ⟨read, rest, hread, hrest, rfl⟩
    exact ⟨read, hread, bind_eq_ok_iff.2 ⟨rest, hrest, rfl⟩⟩

/-- Rows can be read if and only if their cells can be, or have no room. -/
lemma exists_rows_iff (rows : List (String × Cell)) (hasRoom : Bool) :
    (∃ shown, rows.mapM (tableRow hasRoom) = .ok shown) ↔
      (hasRoom = true → ∀ row ∈ rows, ∃ text, row.2.chars = .ok text) := by
  induction rows with
  | nil => exact ⟨fun _ _ => nofun, fun _ => ⟨[], rfl⟩⟩
  | cons row rest ih =>
    constructor
    · rintro ⟨shown, hshown⟩ hroom
      obtain ⟨read, others, hread, hothers, -⟩ := mapM_cons_eq_ok_iff.1 hshown
      obtain ⟨text, htext, -⟩ := tableRow_eq_ok_iff.1 hread
      rw [readCell, if_pos hroom] at htext
      exact List.forall_mem_cons.2 ⟨⟨text, htext⟩, ih.1 ⟨others, hothers⟩ hroom⟩
    · intro h
      obtain ⟨others, hothers⟩ := ih.2 fun hroom => (List.forall_mem_cons.1 (h hroom)).2
      have hcell : ∃ text, readCell hasRoom row.2 = .ok text := by
        cases hasRoom with
        | false => exact ⟨[], rfl⟩
        | true => exact (List.forall_mem_cons.1 (h rfl)).1
      obtain ⟨text, htext⟩ := hcell
      exact ⟨_, mapM_cons_eq_ok_iff.2
        ⟨_, others, tableRow_eq_ok_iff.2 ⟨text, htext, rfl⟩, hothers, rfl⟩⟩

/-- A cell has no more marks when it is read, and loses some unless it is plain. -/
lemma countP_chars {cell : Cell} {text : List Char} (h : cell.chars = .ok text) :
    text.countP isMark ≤ cell.text.toList.countP isMark ∧
      (cell.text.toList.countP isMark ≤ text.countP isMark →
        ∀ source, cell = .markup source → IsPlain source.toList) := by
  cases cell with
  | markup source =>
    refine ⟨Terminal.Markup.countP_plain_le h, fun hle other hother => ?_⟩
    cases hother
    exact Terminal.Markup.isPlain_of_countP_le h hle
  | literal source =>
    cases h
    exact ⟨Nat.le_of_eq (Terminal.Markup.countP_dropControls _), fun _ => nofun⟩

/-- Rows have no more marks when they are read, and lose some unless their cells are plain. -/
lemma marksIn_rows (h : rows.mapM (tableRow true) = .ok shown) :
    marksIn shown ≤ marksIn (rows.map unreadRow) ∧
      (marksIn (rows.map unreadRow) ≤ marksIn shown →
        ∀ row ∈ rows, ∀ source, row.2 = .markup source → IsPlain source.toList) := by
  induction rows generalizing shown with
  | nil =>
    cases h
    exact ⟨Nat.le_refl _, fun _ => nofun⟩
  | cons row rest ih =>
    obtain ⟨read, others, hread, hothers, rfl⟩ := mapM_cons_eq_ok_iff.1 h
    obtain ⟨text, htext, rfl⟩ := tableRow_eq_ok_iff.1 hread
    have hcell := countP_chars htext
    have hrest := ih hothers
    rw [List.map_cons, marksIn_cons, marksIn_cons]
    simp only [unreadRow]
    refine ⟨by omega, fun hle => List.forall_mem_cons.2 ⟨hcell.2 (by omega), hrest.2 (by omega)⟩⟩

/-- Rows whose cells are plain are read as they stand. -/
lemma mapM_tableRow_of_isPlain
    (hplain : ∀ row ∈ rows, ∀ source, row.2 = .markup source → IsPlain source.toList)
    (hcontrols : ∀ row ∈ rows, ∀ c ∈ row.2.text.toList, Terminal.isDropped c = false) :
    rows.mapM (tableRow true) = .ok (rows.map unreadRow) := by
  induction rows with
  | nil => rfl
  | cons row rest ih =>
    obtain ⟨hfirst, hrest⟩ := List.forall_mem_cons.1 hplain
    obtain ⟨hfirstControls, hrestControls⟩ := List.forall_mem_cons.1 hcontrols
    have hchars : row.2.chars = .ok row.2.text.toList := by
      cases hcell : row.2 with
      | markup source =>
        rw [hcell] at hfirstControls
        exact (Terminal.Markup.plain_eq_self_iff hfirstControls).2 (hfirst source hcell)
      | literal source =>
        rw [hcell] at hfirstControls
        exact congrArg Except.ok (Terminal.dropControls_eq_self hfirstControls)
    refine mapM_cons_eq_ok_iff.2 ⟨unreadRow row, _, ?_, ih hrest hrestControls, rfl⟩
    exact tableRow_eq_ok_iff.2 ⟨_, hchars, rfl⟩

/-! ## Tables for summaries -/

lemma summaryTable_eq_ok_iff {t : Table} : summaryTable width s = .ok t ↔
    ∃ title shown, Terminal.Markup.plain s.description.toList = .ok title ∧
      (summaryRows s).mapM (tableRow (Table.hasRoom width)) = .ok shown ∧ ⟨title, shown⟩ = t := by
  unfold summaryTable
  rw [bind_eq_ok_iff]
  constructor
  · rintro ⟨shown, hshown, h⟩
    obtain ⟨title, htitle, h⟩ := bind_eq_ok_iff.1 h
    cases h
    exact ⟨title, shown, htitle, hshown, rfl⟩
  · rintro ⟨title, shown, htitle, hshown, rfl⟩
    exact ⟨shown, hshown, bind_eq_ok_iff.2 ⟨title, htitle, rfl⟩⟩

/-- A text whose markup has no faults. -/
def IsReadable (text : String) : Prop :=
  ∃ shown, Terminal.Markup.plain text.toList = .ok shown

lemma isReadable_of_isPlain {text : String} (h : IsPlain text.toList) : IsReadable text :=
  ⟨_, h.plain_eq⟩

/-- A summary has a table if and only if the markup that is read for it has no faults. -/
lemma exists_summaryTable_iff : (∃ t, summaryTable width s = .ok t) ↔
    IsReadable (textAt "description" s.toJson) ∧
      (Table.hasRoom width = true → ∀ key ∈ cellKeys, IsReadable (textAt key s.toJson)) := by
  have hrows := exists_rows_iff (summaryRows s) (Table.hasRoom width)
  have hcells : (∀ row ∈ summaryRows s, ∃ text, row.2.chars = .ok text) ↔
      ∀ key ∈ cellKeys, IsReadable (textAt key s.toJson) := by
    rw [← forall_markup_iff fun _ => isReadable_of_isPlain]
    constructor
    · intro h row hmem source hsource
      obtain ⟨text, htext⟩ := h row hmem
      rw [hsource] at htext
      exact ⟨text, htext⟩
    · intro h row hmem
      cases hcell : row.2 with
      | markup source => exact h row hmem source hcell
      | literal source => exact ⟨_, rfl⟩
  rw [hcells] at hrows
  rw [← hrows]
  simp only [summaryTable_eq_ok_iff]
  constructor
  · rintro ⟨t, title, shown, htitle, hshown, -⟩
    exact ⟨⟨title, htitle⟩, shown, hshown⟩
  · rintro ⟨⟨title, htitle⟩, shown, hshown⟩
    exact ⟨_, title, shown, htitle, hshown, rfl⟩

/-- Whether a character is a control character. -/
def isControl (c : Char) : Bool :=
  c.toNat < 0x20 || (0x7F ≤ c.toNat && c.toNat < 0xA0)

lemma isDropped_of_not_isControl {c : Char} (h : isControl c = false) :
    Terminal.isDropped c = false := by
  cases hdropped : Terminal.isDropped c with
  | false => rfl
  | true =>
    simp only [Terminal.isDropped, Bool.or_eq_true, beq_iff_eq] at hdropped
    rcases hdropped with (((rfl | rfl) | rfl) | rfl) | rfl <;> cases h

lemma not_isControl_of_isAscii {c : Char} (h : Terminal.isAscii c = true) :
    isControl c = false := by
  simp only [Terminal.isAscii, Bool.and_eq_true, decide_eq_true_eq] at h
  simp only [isControl, Bool.or_eq_false_iff, Bool.and_eq_false_iff, decide_eq_false_iff_not]
  omega

/-- The table of a summary whose texts are plain says what the report says. -/
lemma summaryTable_of_isPlain (hroom : Table.hasRoom width = true)
    (hcontrols : ∀ text ∈ (reportTable s.toJson).texts, ∀ c ∈ text, isControl c = false)
    (hplain : ∀ key ∈ textKeys, IsPlain (textAt key s.toJson).toList) :
    summaryTable width s = .ok (reportTable s.toJson) := by
  obtain ⟨htitle, hcells⟩ := List.forall_mem_cons.1 hplain
  rw [reportTable_toJson] at hcontrols ⊢
  refine summaryTable_eq_ok_iff.2 ⟨_, _, ?_, ?_, rfl⟩
  · refine (Terminal.Markup.plain_eq_self_iff fun c hmem => ?_).2 htitle
    exact isDropped_of_not_isControl (hcontrols _ (Table.title_mem_texts _) c hmem)
  · rw [hroom]
    refine mapM_tableRow_of_isPlain ((forall_markup_iff (fun _ h => h) s).2 hcells) ?_
    intro row hmem c hc
    have hrow := Table.mem_texts_of_mem_rows (t := ⟨s.description.toList, _⟩)
      (List.mem_map_of_mem (f := unreadRow) hmem)
    exact isDropped_of_not_isControl (hcontrols _ hrow.2 c hc)

/-! ## Tables in the terminal -/

lemma isContent_isMark : Table.IsContent isMark where
  blank := by
    intro c hblank
    cases hmark : isMark c with
    | false => rfl
    | true =>
      simp only [isMark, Bool.or_eq_true, beq_iff_eq] at hmark
      rcases hmark with (rfl | rfl) | rfl <;> cases hblank
  dots := rfl
  frame := by
    have hall : Table.frameChars.all (!isMark ·) = true := by decide
    intro c hmem
    simpa using List.all_eq_true.1 hall c hmem

/-- A table that is printed like that of the report has all of its marks. -/
lemma isPlain_of_printLines {t : Table} (hroom : Table.hasRoom width = true)
    (htable : summaryTable width s = .ok t)
    (hprint : printLines (t.lines width) = printLines (reportTable s.toJson).framed) :
    ∀ key ∈ textKeys, IsPlain (textAt key s.toJson).toList := by
  obtain ⟨title, shown, htitle, hshown, rfl⟩ := summaryTable_eq_ok_iff.1 htable
  rw [hroom] at hshown
  have hmarks := congrArg (List.countP isMark) hprint
  rw [Terminal.countP_printLines rfl, Terminal.countP_printLines rfl,
    Table.countP_framed isContent_isMark, reportTable_toJson] at hmarks
  have hlines := Table.countP_lines_le isContent_isMark ⟨title, shown⟩ width
  have hrows := marksIn_rows hshown
  have hdescription := Terminal.Markup.countP_plain_le htitle
  have htexts (title : List Char) (rows : List (List Char × List Char)) :
      (Table.texts ⟨title, rows⟩).flatten.countP isMark = title.countP isMark + marksIn rows := by
    rw [Table.texts, List.flatten_cons, List.countP_append, marksIn]
  -- Title and rows lose no marks together, so neither does.
  rw [htexts] at hmarks hlines
  refine List.forall_mem_cons.2 ⟨?_, ?_⟩
  · have hle : s.description.toList.countP isMark ≤ title.countP isMark := by omega
    exact Terminal.Markup.isPlain_of_countP_le htitle hle
  · exact (forall_markup_iff (fun _ h => h) s).1 (hrows.2 (by omega))

lemma hasRoom_of_fits (h : (reportTable s.toJson).Fits width) : Table.hasRoom width = true := by
  have hcells := h.rows _ (List.mem_cons_self ..)
  have hleft := hcells.1.hasRoom
  have hright := hcells.2.hasRoom
  have hcolumns := h.columns
  unfold Table.totalWidth at hcolumns
  unfold Table.hasRoom
  rw [decide_eq_true_eq]
  unfold Table.frameWidth Table.paddingWidth at *
  omega

lemma text_installation : (Finding.installation s).text width =
    (summaryTable width s).map fun t => String.ofList (printLines (t.lines width)) := by
  cases h : summaryTable width s <;> simp [Finding.text, Finding.lines, h, Except.map]

/-- In a terminal that is wide enough, the text for an installation is the table of its report if
and only if the texts of the report are plain. -/
lemma text_eq_reportTable_iff
    (hcontrols : ∀ text ∈ (reportTable s.toJson).texts, ∀ c ∈ text, isControl c = false)
    (hfits : (reportTable s.toJson).Fits width) :
    (Finding.installation s).text width =
        .ok (String.ofList (printLines (reportTable s.toJson).framed)) ↔
      ∀ key ∈ textKeys, IsPlain (textAt key s.toJson).toList := by
  have hroom := hasRoom_of_fits hfits
  have hlined : ∀ text ∈ (reportTable s.toJson).texts, '\n' ∉ text ∧ '\t' ∉ text := by
    intro text hmem
    refine ⟨fun hc => ?_, fun hc => ?_⟩
    · cases hcontrols text hmem _ hc
    · cases hcontrols text hmem _ hc
  rw [text_installation]
  cases htable : summaryTable width s with
  | error e =>
    constructor
    · intro h
      cases h
    · intro hplain
      cases htable.symm.trans (summaryTable_of_isPlain hroom hcontrols hplain)
  | ok t =>
    constructor
    · intro h
      refine isPlain_of_printLines hroom htable ?_
      exact String.ofList_injective (Except.ok.inj h)
    · intro hplain
      cases htable.symm.trans (summaryTable_of_isPlain hroom hcontrols hplain)
      rw [← Table.lines_of_fits hfits hlined]
      rfl

end JavaHome.Command
