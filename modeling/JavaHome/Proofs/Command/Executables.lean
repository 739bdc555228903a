import Mathlib.Tactic.Lemma
import JavaHome.Proofs.Command.Formats
import JavaHome.Proofs.Command.Lossless
import JavaHome.Proofs.Command.Words
import JavaHome.Proofs.Installation.Outcome
import JavaHome.Proofs.Terminal.Fold

/-!
# Executables in text

A lookup that has an answer is told in one text, which is folded in the terminal but never read as
markup. Where this text is printable ASCII, the run in text therefore prints all of it but blanks at
any width, on lines that fit, and ends like the run in JSON (`stdout_executable`). On a console that
is made to pass for a dumb terminal the given width does not count, so a line can be too long
(`stdout_dumbTerminal`).
-/

namespace JavaHome

open Console (GivesWidth Unforced)
open Terminal (isAscii printLines)
open Text (isBlank)

/-- An executable is told by the tool that was asked for. -/
lemma Installation.tool_of_executable {c : Context} {m : Machine} {i : Installation}
    {tool : String} {e : Executable} (h : (i.executable c m tool).result = .ok e) :
    e.tool = tool := by
  rcases outcome_or_breaksOff c m i tool with ⟨candidate, -, -, houtcome⟩ | ⟨failure, hfailure, -⟩
  · rw [h] at houtcome
    cases houtcome <;> rfl
  · cases h.symm.trans hfailure

namespace Command

variable {m : Machine} {i : Invocation} {e : Executable} {tool : String} {directory : Option String}
  {width : Nat}

/-- The text for an executable has no other characters than ASCII if tool and path have not. -/
lemma isAscii_executableText (htool : ∀ c ∈ e.tool.toList, isAscii c = true)
    (hpath : ∀ c ∈ e.path.text.toList, isAscii c = true) :
    ∀ c ∈ (executableText e).toList, isAscii c = true := by
  have hcolon : ∀ c ∈ ": ".toList, isAscii c = true := List.all_eq_true.1 (by decide)
  have hgap : ∀ c ∈ "  ".toList, isAscii c = true := List.all_eq_true.1 (by decide)
  have hsource : ∀ c ∈ e.source.word.toList, isAscii c = true := by
    rw [← List.all_eq_true]
    cases e.source <;> decide
  simp only [executableText, String.toList_append, List.forall_mem_append]
  exact ⟨⟨⟨⟨htool, hcolon⟩, hpath⟩, hgap⟩, hsource⟩

/-- An executable is printed in folded lines. -/
lemma text_executable (h : ∀ c ∈ (executableText e).toList, isAscii c = true) :
    (Finding.executable e).text width = .ok (String.ofList
      (printLines (Terminal.wrap .ragged .fold width (executableText e).toList))) := by
  have hcontrols : Terminal.dropControls (executableText e).toList = (executableText e).toList :=
    Terminal.dropControls_eq_self fun c hmem =>
      isDropped_of_not_isControl (not_isControl_of_isAscii (h c hmem))
  rw [Finding.text, Finding.lines, hcontrols]
  rfl

namespace Invocation

/-- What is found for a tool is an executable. -/
lemma exists_executable_of_find (haction : i.action = .exec tool directory) {finding : Finding}
    (hfind : (i.find m).result = .ok finding) : ∃ e, finding = .executable e ∧ e.tool = tool := by
  obtain ⟨c, -, hfinds⟩ := exists_finds_of_find hfind
  rw [haction] at hfinds
  cases hfinds with
  | installation hdescribes => cases hdescribes
  | executable _ hexecutable => exact ⟨_, rfl, Installation.tool_of_executable hexecutable⟩

/-- A run in JSON that ends with exit code 0 or 1 and does not escape has found something. -/
lemma exists_finding_of_exit (hescape : ((i.inFormat .json).run m).escape = none)
    (hexit : ((i.inFormat .json).run m).exit = 0 ∨ ((i.inFormat .json).run m).exit = 1) :
    ∃ finding, (i.find m).result = .ok finding := by
  cases hfind : (i.find m).result with
  | ok finding => exact ⟨finding, rfl⟩
  | error failure =>
    rw [run_of_error (i := i.inFormat .json) hfind] at hescape hexit
    cases hreported : failure.isReported with
    | true =>
      rw [hreported] at hexit
      rcases hexit with hexit | hexit <;> cases hexit
    | false =>
      rw [hreported] at hescape
      cases hescape

/-- The run in text prints the folded text for an executable. -/
lemma run_executable_text (hfind : (i.find m).result = .ok (.executable e))
    (hcolumns : m.columns ≠ 0) (hplain : Unforced m.environment)
    (h : ∀ c ∈ (executableText e).toList, isAscii c = true) : (i.inFormat .text).run m =
      ⟨(Finding.executable e).exit,
        String.ofList (printLines
          (Terminal.wrap .ragged .fold m.columns (executableText e).toList)),
        eventText i.verbose (i.find m).events, none⟩ := by
  refine run_of_findingText (i := i.inFormat .text) hfind ?_
  change findingText .text m (.executable e) = _
  rw [findingText_text hcolumns, text_executable h, Except.map, painted_of_unforced hplain]

end Invocation

/-- Command lines that look for a tool, one for each format: if the run in JSON ends with exit code
0 or 1 and does not escape, it reports an executable. If tool and path are printable ASCII, the run
in text then ends with the same exit code and does not escape, its lines fit the width that the
environment gives, and it prints the tool, the path and the source as they are, blanks apart.
Nothing may make the console pass for a terminal. -/
theorem stdout_executable {words : Format → List String}
    (hwords : ∀ format, Invocation.ofWords m (words format) = .ok (i.inFormat format))
    (haction : i.action = .exec tool directory) (hstart : m.IsStarted)
    (hplain : Unforced m.environment) (hwidth : GivesWidth m.environment width)
    (hpositive : 1 ≤ width)
    (hescape : (run m (words .json)).escape = none)
    (hexit : (run m (words .json)).exit = 0 ∨ (run m (words .json)).exit = 1) :
    ∃ e : Executable, e.tool = tool ∧ Writes (run m (words .json)).stdout e.toJson ∧
      ((∀ c ∈ tool.toList, isAscii c = true) → (∀ c ∈ e.path.text.toList, isAscii c = true) →
        let text := run m (words .text)
        text.exit = (run m (words .json)).exit ∧ text.escape = none ∧
        (∀ line ∈ Text.fieldsOf '\n' text.stdout.toList, line.length ≤ width) ∧
        text.stdout.toList.filter (!isBlank ·) =
          (tool ++ ": " ++ e.path.text ++ "  " ++ e.source.word).toList.filter (!isBlank ·)) := by
  rw [run_of_words (hwords .json)] at hescape hexit ⊢
  rw [run_of_words (hwords .text)]
  obtain ⟨finding, hfind⟩ := Invocation.exists_finding_of_exit hescape hexit
  obtain ⟨e, rfl, htool⟩ := Invocation.exists_executable_of_find haction hfind
  rw [Invocation.run_of_ok_json (i := i.inFormat .json) rfl hfind]
  refine ⟨e, htool, writes_encodeAt Json.Layout.spaced_block _, fun hname hpath => ?_⟩
  rw [← htool] at hname
  have hascii := isAscii_executableText hname hpath
  have hcolumns : m.columns = width := Machine.columns_of_givesWidth hstart hplain hwidth
  rw [Invocation.run_executable_text hfind (by omega) hplain hascii, hcolumns, ← htool]
  refine ⟨rfl, rfl, ?_, ?_⟩
  · intro line hline
    have hends : ∀ line ∈ Terminal.wrap .ragged .fold width (executableText e).toList,
        '\n' ∉ line :=
      fun line hmem hend => nomatch Terminal.isAscii_of_mem_wrap_fold hpositive hascii hmem _ hend
    rw [String.toList_ofList, Terminal.fieldsOf_printLines hends] at hline
    rcases List.mem_append.1 hline with hmem | hmem
    · exact Terminal.length_le_of_mem_wrap_fold hpositive hascii hmem
    · rw [List.mem_singleton.1 hmem]
      exact Nat.zero_le width
  · rw [String.toList_ofList, Terminal.filter_printLines rfl,
      Terminal.filter_wrap_fold hpositive hascii]
    rfl

/-- A machine with a narrow terminal, and with a kit whose path has a tag that closes nothing, an
emoji code and a backslash. -/
def foldedKit : Machine where
  tree := ⟨[("[", .directory [("b] :x:\\", .directory [("bin", .directory
    [("java", .file [] true)])])])]⟩
  cwd := []
  environment := [("JAVA_HOME", "/"), ("COLUMNS", "7")]
  systemName := "Linux"
  console := ⟨some 7, none⟩

/-- The command line that looks for `java` in the kit. -/
def foldedKitWords (format : Format) : List String :=
  ["exec", "java", "--home", "/[/b] :x:\\", "--format", format.word]

theorem stdout_executable_foldedKit :
    (run foldedKit (foldedKitWords .text)).exit = 0 ∧
      (∀ line ∈ Text.fieldsOf '\n' (run foldedKit (foldedKitWords .text)).stdout.toList,
        line.length ≤ 7) ∧
      (run foldedKit (foldedKitWords .text)).stdout.toList.filter (!isBlank ·) =
        "java:/[/b]:x:\\/bin/javahome".toList := by
  have hwords (format : Format) : Invocation.ofWords foldedKit (foldedKitWords format) =
      .ok ⟨none, false, format, .exec "java" "/[/b] :x:\\"⟩ := by
    have hpath : checkPath foldedKit "/[/b] :x:\\" = .ok () :=
      eq_ok_of_toOption (by decide +kernel)
    rw [foldedKitWords, ofWords_exec_home format (by decide), hpath]
    rfl
  have hstart : foldedKit.IsStarted := by
    unfold Machine.IsStarted
    exact eq_ok_of_toOption (by decide +kernel)
  have hplain : Unforced foldedKit.environment := ⟨by decide +kernel, by decide +kernel⟩
  have hwidth : GivesWidth foldedKit.environment 7 := by
    unfold GivesWidth
    exact eq_ok_of_toOption (by decide +kernel)
  have hescape : (run foldedKit (foldedKitWords .json)).escape = none := by decide +kernel
  have hexit : (run foldedKit (foldedKitWords .json)).exit = 0 := by decide +kernel
  obtain ⟨e, -, ⟨-, -, -, -, hdecode⟩, htext⟩ := stdout_executable
    (i := ⟨none, false, .text, .exec "java" "/[/b] :x:\\"⟩) hwords rfl hstart hplain hwidth
    (by decide) hescape (.inl hexit)
  -- Tool, path and source are read from the report.
  have hpath : (Json.decode (run foldedKit (foldedKitWords .json)).stdout.toList).map
      (textAt "path") = some "/[/b] :x:\\/bin/java" := by
    decide +kernel
  have hsource : (Json.decode (run foldedKit (foldedKitWords .json)).stdout.toList).map
      (textAt "source") = some "home" := by
    decide +kernel
  rw [hdecode] at hpath hsource
  have hpath : e.path.text = "/[/b] :x:\\/bin/java" := Option.some.inj hpath
  have hsource : e.source.word = "home" := Option.some.inj hsource
  rw [hpath, hsource] at htext
  obtain ⟨hsame, -, hfits, hkept⟩ :=
    htext (List.all_eq_true.1 (by decide)) (List.all_eq_true.1 (by decide))
  exact ⟨hsame.trans hexit, hfits, hkept.trans (by decide)⟩

/-- A machine with a narrow console that is made to pass for a dumb terminal, and with a kit. -/
def dumbTerminal : Machine where
  tree := ⟨[("kit", .directory [("bin", .directory [("java", .file [] true)])])]⟩
  cwd := []
  environment := [("JAVA_HOME", "/"), ("COLUMNS", "10"), ("FORCE_COLOR", "1"), ("TERM", "dumb")]
  systemName := "Linux"

/-- The width that the environment gives does not count, and the text stays on one line. -/
theorem stdout_dumbTerminal :
    GivesWidth dumbTerminal.environment 10 ∧
      (start dumbTerminal ["exec", "java", "--home", "/kit", "--format", "json"]).exit = 0 ∧
      (start dumbTerminal ["exec", "java", "--home", "/kit", "--format", "json"]).escape = none ∧
      (start dumbTerminal ["exec", "java", "--home", "/kit"]).stdout =
        "java: /kit/bin/java  home\n" ∧
      ∃ line ∈ Text.fieldsOf '\n'
          (start dumbTerminal ["exec", "java", "--home", "/kit"]).stdout.toList,
        10 < line.length := by
  have hwidth : GivesWidth dumbTerminal.environment 10 := by
    unfold GivesWidth
    exact eq_ok_of_toOption (by decide +kernel)
  have hstdout : (start dumbTerminal ["exec", "java", "--home", "/kit"]).stdout =
      "java: /kit/bin/java  home\n" := by
    decide +kernel
  refine ⟨hwidth, by decide +kernel, by decide +kernel, hstdout, ?_⟩
  rw [hstdout]
  exact ⟨"java: /kit/bin/java  home".toList, by decide, by decide⟩

end Command

end JavaHome
