import Mathlib.Tactic.Lemma
import JavaHome.Proofs.Command.Agreement
import JavaHome.Proofs.Command.Run

/-!
# Text and JSON

A run that describes an installation comes to the same in both formats when it finds nothing. When
it finds an installation, the JSON run succeeds with the report. The text run does so as well if and
only if the markup in the texts of the report has no faults or is not read, and prints the table of
the report if and only if these texts are plain (`Invocation.text_agrees_iff`).
-/

namespace JavaHome.Command

open Terminal (Table printLines)
open Terminal.Markup (CallFree IsPlain)

namespace Invocation

variable {i : Invocation} {m : Machine}

/-- An invocation with another format. -/
def inFormat (i : Invocation) (format : Format) : Invocation :=
  { i with format := format }

/-- An invocation that asks for the description of an installation. -/
def Describes (i : Invocation) : Prop :=
  i.action = .current ∨ ∃ path, i.action = .home path

/-- What is described is an installation. -/
lemma exists_summary_of_find (h : i.Describes) {finding : Finding}
    (hfind : (i.find m).result = .ok finding) : ∃ s, finding = .installation s := by
  obtain ⟨c, -, hfinds⟩ := exists_finds_of_find hfind
  unfold Describes at h
  generalize i.action = action at h hfinds
  cases hfinds with
  | installation => exact ⟨_, rfl⟩
  | executable => rcases h with h | ⟨path, h⟩ <;> cases h
  | environment => rcases h with h | ⟨path, h⟩ <;> cases h

/-- The run in JSON succeeds with the report of what is found. -/
lemma run_json {s : Summary} (h : (i.find m).result = .ok (.installation s)) :
    (i.inFormat .json).run m =
      ⟨0, s.toJson.block ++ "\n", eventText i.verbose (i.find m).events, none⟩ :=
  run_of_ok (i := i.inFormat .json) h

/-- Without columns the run in text prints nothing. -/
lemma run_text_of_columns_eq_zero {finding : Finding} (h : (i.find m).result = .ok finding)
    (hzero : m.columns = 0) : (i.inFormat .text).run m =
      ⟨finding.exit, "", eventText i.verbose (i.find m).events, none⟩ :=
  run_of_findingText (i := i.inFormat .text) h (findingText_of_columns_eq_zero hzero)

/-- The run in text prints the text for what is found, unless that has faults. -/
lemma run_text {s : Summary} (h : (i.find m).result = .ok (.installation s))
    (hcolumns : m.columns ≠ 0) : (i.inFormat .text).run m =
      match (Finding.installation s).text m.columns with
      | .ok text => ⟨0, (Finding.installation s).painted m text,
          eventText i.verbose (i.find m).events, none⟩
      | .error e => ⟨1, "", eventText i.verbose (i.find m).events, some (.markup e)⟩ := by
  have hrun := run_of_ok (i := i.inFormat .text) h
  rw [inFormat, findingText_text hcolumns] at hrun
  rw [inFormat, hrun]
  cases (Finding.installation s).text m.columns with
  | error e => rfl
  | ok text => rfl

/-- The run in text ends well if and only if the markup has no faults, or is not read. -/
lemma exit_text_iff {s : Summary} (h : (i.find m).result = .ok (.installation s)) :
    ((i.inFormat .text).run m).exit = 0 ∧ ((i.inFormat .text).run m).escape = none ↔
      (m.columns ≠ 0 → IsReadable (textAt "description" s.toJson) ∧
        (Table.hasRoom m.columns = true →
          ∀ key ∈ cellKeys, IsReadable (textAt key s.toJson))) := by
  by_cases hcolumns : m.columns = 0
  · rw [run_text_of_columns_eq_zero h hcolumns]
    exact iff_of_true ⟨rfl, rfl⟩ fun hne => absurd hcolumns hne
  · rw [← exists_summaryTable_iff, run_text h hcolumns, text_installation]
    cases summaryTable m.columns s with
    | error e => simp [Except.map, hcolumns]
    | ok t => simp [Except.map]

/-- The run in text prints the table of the report if and only if the texts of the report are plain,
where the console is wide enough and does not pass for a terminal. -/
lemma stdout_text_iff {s : Summary} (h : (i.find m).result = .ok (.installation s))
    (hcontrols : ∀ shown ∈ (reportTable s.toJson).texts, ∀ c ∈ shown, isControl c = false)
    (hfits : (reportTable s.toJson).Fits m.columns) (hplain : Console.Unforced m.environment) :
    ((i.inFormat .text).run m).exit = 0 ∧ ((i.inFormat .text).run m).escape = none ∧
        ((i.inFormat .text).run m).stdout =
          String.ofList (printLines (reportTable s.toJson).framed) ↔
      ∀ key ∈ textKeys, IsPlain (textAt key s.toJson).toList := by
  have hcolumns : m.columns ≠ 0 := by
    have hroom := hfits.columns
    unfold Table.totalWidth Table.frameWidth at hroom
    omega
  rw [← text_eq_reportTable_iff hcontrols hfits, run_text h hcolumns]
  cases (Finding.installation s).text m.columns with
  | error e => simp
  | ok text => simp [painted_of_unforced hplain]

/-- The two formats agree on an installation exactly where the texts of its report are no markup.
Where they are, the runs end alike as long as the markup has no faults, or is not read for want of
columns. -/
theorem text_agrees_iff (h : i.Describes) (hstart : m.IsStarted) :
    (∀ failure, (i.find m).result = .error failure →
      ((i.inFormat .text).run m).exit = ((i.inFormat .json).run m).exit ∧
        ((i.inFormat .text).run m).escape = ((i.inFormat .json).run m).escape) ∧
    ∀ finding, (i.find m).result = .ok finding →
      let report := finding.toJson
      let text := (i.inFormat .text).run m
      let json := (i.inFormat .json).run m
      json.exit = 0 ∧ json.escape = none ∧ json.stdout = report.block ++ "\n" ∧
      (m.columns = 0 → Console.GivesWidth m.environment 0) ∧
      ((∀ key ∈ textKeys, CallFree (textAt key report).toList) →
        (text.exit = json.exit ∧ text.escape = json.escape ↔
          (m.columns ≠ 0 → IsReadable (textAt "description" report) ∧
            (Table.hasRoom m.columns = true →
              ∀ key ∈ cellKeys, IsReadable (textAt key report))))) ∧
      ((∀ shown ∈ (reportTable report).texts, ∀ c ∈ shown, isControl c = false) →
        (reportTable report).Fits m.columns → Console.Unforced m.environment →
        (text.exit = json.exit ∧ text.escape = json.escape ∧
            text.stdout = String.ofList (printLines (reportTable report).framed) ↔
          ∀ key ∈ textKeys, IsPlain (textAt key report).toList)) := by
  constructor
  · intro failure hfailure
    rw [run_of_error (i := i.inFormat .text) hfailure,
      run_of_error (i := i.inFormat .json) hfailure]
    split <;> exact ⟨rfl, rfl⟩
  · intro finding hfind
    obtain ⟨s, rfl⟩ := exists_summary_of_find h hfind
    have hreport : (Finding.installation s).toJson = s.toJson := by rw [Finding.toJson]
    simp only [run_json hfind, hreport]
    exact ⟨trivial, trivial, trivial, Machine.givesWidth_zero hstart,
      fun _ => exit_text_iff hfind,
      fun hcontrols hfits hplain => stdout_text_iff hfind hcontrols hfits hplain⟩

end Invocation

/-- A machine with a kit whose path is no markup. -/
def plainKit : Machine where
  tree := ⟨[("kit", .directory [("bin", .directory [("java", .file [] true)])])]⟩
  cwd := []
  environment := [("JAVA_HOME", "/"), ("COLUMNS", "100")]
  systemName := "Linux"
  console := ⟨some 100, none⟩

/-- What is found about the kit. -/
def plainSummary : Summary where
  description := "User-supplied java: /kit"
  base := .ofLocation ["kit"]
  home := .ofLocation ["kit"]
  vendor := .generic
  userSupplied := true
  java := ⟨"java", .ofLocation ["kit", "bin", "java"], .home⟩
  toolsArchive := none
  runtimeArchive := none
  supportsAppleScript := false

theorem Invocation.text_agrees_iff_plainKit :
    ((Invocation.mk none false .text (.home "/kit")).run plainKit).exit =
        ((Invocation.mk none false .json (.home "/kit")).run plainKit).exit ∧
      ((Invocation.mk none false .text (.home "/kit")).run plainKit).stdout =
        String.ofList (printLines (reportTable plainSummary.toJson).framed) := by
  have hfind : ((Invocation.mk none false .text (.home "/kit")).find plainKit).result =
      .ok (.installation plainSummary) :=
    eq_ok_of_toOption (by decide +kernel)
  have hstart : plainKit.IsStarted := by
    unfold Machine.IsStarted
    exact eq_ok_of_toOption (by decide +kernel)
  have hwidth : plainKit.columns = 100 := by decide +kernel
  have h := (text_agrees_iff (i := ⟨none, false, .text, .home "/kit"⟩) (.inr ⟨_, rfl⟩)
    hstart).2 _ hfind
  have hplain : ∀ key ∈ textKeys, IsPlain (textAt key plainSummary.toJson).toList := by
    have hcounts : ∀ key ∈ textKeys, '[' ∉ (textAt key plainSummary.toJson).toList ∧
        (textAt key plainSummary.toJson).toList.count ':' ≤ 1 := by
      decide +kernel
    intro key hmem
    obtain ⟨hbracket, hcolon⟩ := hcounts key hmem
    exact Terminal.Markup.isPlain_of_count_le_one hbracket hcolon
  have hall : (reportTable plainSummary.toJson).texts.all (·.all Terminal.isAscii) = true := by
    decide +kernel
  have hascii : ∀ shown ∈ (reportTable plainSummary.toJson).texts, ∀ c ∈ shown,
      Terminal.isAscii c = true :=
    fun shown hmem => List.all_eq_true.1 (List.all_eq_true.1 hall shown hmem)
  have hwidths : (reportTable plainSummary.toJson).naturalWidths = (15, 22) := by
    rw [Table.naturalWidths_of_isAscii hascii]
    decide +kernel
  have hfits : (reportTable plainSummary.toJson).Fits 100 :=
    Table.fits_of_isAscii hascii (by decide +kernel) (by rw [hwidths]; decide)
      (by rw [hwidths]; decide +kernel)
  obtain ⟨hexit, -, hstdout⟩ := (h.2.2.2.2.2 (fun shown hmem c hc =>
    not_isControl_of_isAscii (hascii shown hmem c hc)) (hwidth ▸ hfits)
    ⟨by decide +kernel, by decide +kernel⟩).2 hplain
  exact ⟨hexit, hstdout⟩

/-- A machine with a kit whose path is a tag that closes nothing. -/
def bracketedKit : Machine where
  tree := ⟨[("[", .directory [("b]", .directory [("bin", .directory [("java", .file [] true)])])])]⟩
  cwd := []
  environment := [("JAVA_HOME", "/"), ("COLUMNS", "100")]
  systemName := "Linux"

theorem exit_bracketedKit :
    (start bracketedKit ["home", "/[/b]", "--format", "json"]).exit = 0 ∧
      (start bracketedKit ["home", "/[/b]", "--format", "text"]).exit = 1 ∧
      (start bracketedKit ["home", "/[/b]", "--format", "text"]).escape =
        some (.markup (.unmatched "/b" 1)) := by
  decide +kernel

end JavaHome.Command
