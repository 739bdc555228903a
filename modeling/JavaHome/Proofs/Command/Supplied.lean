import Mathlib.Tactic.Lemma
import JavaHome.Proofs.Command.Run
import JavaHome.Proofs.Command.Words
import JavaHome.Proofs.Installation.Outcome
import JavaHome.Proofs.Installation.Summary
import JavaHome.Proofs.Installation.Supplied

/-!
# Runs about a supplied home

A home that somebody supplies is judged if that can be told (`judgement_or_tellsNothing`): it is
refused, it lacks the tool, or it is accepted. The first two are reported with exit code 2, an
accepted home ends in exit code 0, and only what cannot be told escapes (`supplied_escapes_iff`).
-/

namespace JavaHome.Command

open Machine (longName)

variable {c : Context} {m : Machine} {i : Installation} {directory tool : String} {e : Failure}

/-- The directory that is supplied to an action, and the tool that must be in it. -/
def Action.supplied? : Action → Option (String × String)
  | .home directory => some (directory, "java")
  | .exec tool (some directory) => some (directory, tool)
  | _ => none

/-- What an action makes of the tool that was found in the supplied directory. -/
def Action.conclude (c : Context) (m : Machine) (i : Installation) (found : Executable) :
    Action → Except Failure Finding
  | .home _ => (i.summarize c m found).map .installation
  | _ => .ok (.executable found)

/-- An action with a supplied directory looks for the tool in it. -/
lemma find_supplied {action : Action} (h : action.supplied? = some (directory, tool)) :
    (action.find c m).result = c.supplied m directory >>= fun i =>
      (i.executable c m tool).result >>= fun found => action.conclude c m i found := by
  cases action with
  | current => cases h
  | env => cases h
  | home path =>
    cases h
    simp only [Action.find, Context.forHome, Traced.result_bind, Traced.result_ofExcept,
      Traced.result_pure]
    rw [bind_assoc]
    congr
    funext i
    rw [bind_assoc]
    -- The first lookup only checks that the tool is there; the second one has the same answer.
    cases hjava : (i.executable c m "java").result with
    | error e => rfl
    | ok java =>
      change (i.executable c m "java").result >>= _ = _
      rw [hjava]
      unfold Action.conclude
      cases i.summarize c m java <;> rfl
  | exec other path =>
    cases path with
    | none => cases h
    | some path =>
      cases h
      simp only [Action.find, Context.resolve, Traced.result_bind, Traced.result_ofExcept,
        Traced.result_pure]
      congr

/-- What can be told of a supplied directory: that it is blank or no directory, that it lacks the
tool, or that it has the tool and, where it is described, its archives. None of the paths asked for
on the way is too long. -/
def Tellable (c : Context) (m : Machine) (action : Action) (directory tool : String) : Prop :=
  Text.isBlankText directory = true ∨
    ¬m.Overlong (.ofString directory) ∧ (m.HoldsDirectory (.ofString directory) →
      ∃ candidate, (c.suppliedAt directory).toolPath c m tool = .ok candidate ∧
        ¬m.Overlong candidate ∧ (action = .home directory → m.HoldsFile candidate →
          (∀ p, ¬m.Stumbles ((c.kits (.ofString directory)).map Context.archiveOf) p) ∧
            ¬m.Overlong (c.suppliedAt directory).runtimeArchivePath))

/-- Why something cannot be told: a path is too long or, on Windows, the tool is an absolute path
without a name. -/
def TellsNothing (c : Context) (m : Machine) (tool : String) (e : Failure) : Prop :=
  m.TellsOverlong e ∨
    c.host.isWindows = true ∧ (Path.ofString tool).isAbsolute = true ∧
      (Path.ofString tool).name = "" ∧ e = .nameless (.ofString tool)

/-- What an action makes of a directory that is supplied to it, if that can be told. -/
inductive Judgement (c : Context) (m : Machine) (action : Action) (directory tool : String) :
    Except Failure Finding → Prop where
  | refused :
    Text.isBlankText directory = true ∨ ¬m.HoldsDirectory (.ofString directory) →
    Judgement c m action directory tool (.error (.invalidHome (some directory)))
  | missing {candidate : Path} :
    (c.suppliedAt directory).toolPath c m tool = .ok candidate →
    ¬m.HoldsFile candidate →
    Judgement c m action directory tool (.error (.missingTool tool candidate))
  | accepted {candidate : Path} {finding : Finding} :
    Text.isBlankText directory = false →
    m.HoldsDirectory (.ofString directory) →
    (c.suppliedAt directory).toolPath c m tool = .ok candidate →
    m.HoldsFile candidate →
    action.conclude c m (c.suppliedAt directory) ⟨tool, candidate, .home⟩ = .ok finding →
    Judgement c m action directory tool (.ok finding)

/-- Only the description of an installation can fail after its tool was found. -/
lemma exists_conclusion_iff {action : Action} {found : Executable}
    (h : action.supplied? = some (directory, tool)) :
    (∃ finding, action.conclude c m (c.suppliedAt directory) found = .ok finding) ↔
      (action = .home directory →
        (∀ p, ¬m.Stumbles ((c.kits (.ofString directory)).map Context.archiveOf) p) ∧
          ¬m.Overlong (c.suppliedAt directory).runtimeArchivePath) := by
  cases action with
  | current => cases h
  | env => cases h
  | home path =>
    cases h
    have hsummary := Installation.exists_summary_iff (c := c) (m := m)
      (i := c.suppliedAt directory) found
    simp only [forall_const]
    refine Iff.trans ?_ hsummary
    exact exists_map_eq_ok_iff
  | exec other path => simp [Action.conclude]

/-- A description that fails comes to a path that is too long. -/
lemma tellsOverlong_of_conclude {action : Action} {found : Executable}
    (h : action.conclude c m i found = .error e) : m.TellsOverlong e := by
  cases action with
  | home path =>
    exact Installation.tellsOverlong_of_summarize (map_eq_error_iff.1 h)
  | current => cases h
  | env => cases h
  | exec other path => cases h

/-- The lookup of a tool in a supplied installation breaks off only where nothing can be told. -/
lemma tellsNothing_of_breaksOff
    (h : Installation.BreaksOff c m (c.suppliedAt directory) tool e) : TellsNothing c m tool e := by
  cases h with
  | absolute hwindows habs hname => exact .inr ⟨hwindows, habs, hname, rfl⟩
  | overlong _ hlong => exact .inl ⟨_, hlong, rfl⟩
  | bare _ _ hsupplied => cases hsupplied

/-- Where the lookup of the tool breaks off, nothing can be told of a directory. -/
lemma not_tellable_of_breaksOff {action : Action} (hblank : Text.isBlankText directory = false)
    (hdir : m.HoldsDirectory (.ofString directory))
    (h : Installation.BreaksOff c m (c.suppliedAt directory) tool e) :
    ¬Tellable c m action directory tool := by
  rintro (hblank' | ⟨-, hneeds⟩)
  · cases hblank.symm.trans hblank'
  · obtain ⟨candidate, htool, hshort, -⟩ := hneeds hdir
    cases h with
    | absolute hwindows habs hname =>
      cases htool.symm.trans (Installation.toolPath_eq_error_iff.2 ⟨hwindows, habs, hname, rfl⟩)
    | overlong hother hlong =>
      cases htool.symm.trans hother
      exact hshort hlong
    | bare _ _ hsupplied => cases hsupplied

/-- A tool that is in a supplied directory is judged by what the action makes of it. -/
lemma judgement_or_tellsNothing_of_file {action : Action} {candidate : Path}
    (h : action.supplied? = some (directory, tool)) (hblank : Text.isBlankText directory = false)
    (hdir : m.HoldsDirectory (.ofString directory))
    (htool : (c.suppliedAt directory).toolPath c m tool = .ok candidate)
    (hfile : m.HoldsFile candidate) :
    Tellable c m action directory tool ∧
        Judgement c m action directory tool
          (action.conclude c m (c.suppliedAt directory) ⟨tool, candidate, .home⟩) ∨
      ¬Tellable c m action directory tool ∧
        ∃ e, action.conclude c m (c.suppliedAt directory) ⟨tool, candidate, .home⟩ = .error e ∧
          TellsNothing c m tool e := by
  cases hend : action.conclude c m (c.suppliedAt directory) ⟨tool, candidate, .home⟩ with
  | ok finding =>
    refine .inl ⟨.inr ⟨hdir.not_overlong, fun _ => ?_⟩, .accepted hblank hdir htool hfile hend⟩
    exact ⟨candidate, htool, (Machine.holdsFile_iff.1 hfile).not_overlong,
      fun haction _ => (exists_conclusion_iff h).1 ⟨finding, hend⟩ haction⟩
  | error e =>
    refine .inr ⟨?_, e, rfl, .inl (tellsOverlong_of_conclude hend)⟩
    rintro (hblank' | ⟨-, hneeds⟩)
    · cases hblank.symm.trans hblank'
    · obtain ⟨other, hother, -, harchives⟩ := hneeds hdir
      cases htool.symm.trans hother
      obtain ⟨finding, hfinding⟩ :=
        (exists_conclusion_iff h).2 fun haction => harchives haction hfile
      cases hend.symm.trans hfinding

/-- A supplied directory is judged if it can be told about, and otherwise nothing is told. -/
theorem judgement_or_tellsNothing {action : Action}
    (h : action.supplied? = some (directory, tool)) :
    Tellable c m action directory tool ∧
        Judgement c m action directory tool (action.find c m).result ∨
      ¬Tellable c m action directory tool ∧
        ∃ e, (action.find c m).result = .error e ∧ TellsNothing c m tool e := by
  rw [find_supplied h]
  have hsupplies := c.supplies m directory
  generalize c.supplied m directory = supplied at hsupplies
  cases hsupplies with
  | refused hwhy =>
    refine .inl ⟨?_, .refused (hwhy.imp_right And.right)⟩
    exact hwhy.imp_right fun ⟨hshort, hnone⟩ => ⟨hshort, fun hdir => absurd hdir hnone⟩
  | overlong hblank hlong =>
    refine .inr ⟨?_, _, rfl, .inl ⟨_, hlong, rfl⟩⟩
    rintro (hblank' | ⟨hshort, -⟩)
    · cases hblank.symm.trans hblank'
    · exact hshort hlong
  | accepted hblank hdir =>
    simp only [bind, Except.bind]
    rcases Installation.outcome_or_breaksOff c m (c.suppliedAt directory) tool with
      ⟨candidate, htool, hshort, houtcome⟩ | ⟨e, hresult, hbreak⟩
    · generalize ((c.suppliedAt directory).executable c m tool).result = result at houtcome
      -- A supplied home rules out the lookups that go on to `PATH`.
      cases houtcome with
      | home hfile => exact judgement_or_tellsNothing_of_file h hblank hdir htool hfile
      | missing hmissing =>
        refine .inl ⟨.inr ⟨hdir.not_overlong, fun _ => ?_⟩, .missing htool hmissing⟩
        exact ⟨candidate, htool, hshort, fun _ hfile => absurd hfile hmissing⟩
      | onPath _ hsupplied => cases hsupplied
      | unresolved _ hsupplied => cases hsupplied
    · rw [hresult]
      exact .inr ⟨not_tellable_of_breaksOff hblank hdir hbreak, e, rfl,
        tellsNothing_of_breaksOff hbreak⟩

/-- What is made of a tool that was found in the home directory has the exit code 0 and a text, in
JSON if it is a description. -/
lemma findingText_of_conclude {action : Action} {format : Format} {found : Executable}
    {finding : Finding} (h : action.supplied? = some (directory, tool))
    (hformat : action = .home directory → format = .json) (hhome : found.source = .home)
    (hend : action.conclude c m i found = .ok finding) :
    finding.exit = 0 ∧ ∃ text, findingText format m finding = .ok text := by
  cases action with
  | current => cases h
  | env => cases h
  | home path =>
    cases h
    obtain ⟨s, -, rfl⟩ := map_eq_ok_iff.1 hend
    rw [hformat rfl]
    exact ⟨rfl, _, rfl⟩
  | exec other path =>
    cases hend
    constructor
    · simp [Finding.exit, Executable.isResolved, hhome]
    · cases format with
      | json => exact ⟨_, rfl⟩
      | text =>
        by_cases hcolumns : m.columns = 0
        · exact ⟨_, findingText_of_columns_eq_zero hcolumns⟩
        · rw [findingText_text hcolumns]
          exact ⟨_, rfl⟩

/-- A command line with a supplied home, once the context is loaded, escapes exactly where nothing
can be told of the home: its path, that of the tool in it or, for a description, that of an archive
is too long, or Windows has no name for the tool. Otherwise the home is accepted with exit code 0,
or refused or found to lack the tool with exit code 2 and a report. -/
theorem supplied_escapes_iff {words : List String} {i : Invocation}
    (hwords : Invocation.ofWords m words = .ok i)
    (hsupplied : i.action.supplied? = some (directory, tool))
    (hformat : i.action = .home directory → i.format = .json)
    (hload : (Context.ofMachine m i.propertiesFile).result = .ok c) :
    ((run m words).escape = none ↔ Tellable c m i.action directory tool) ∧
    ((run m words).escape = none →
      ((run m words).exit = 0 ∧ Text.isBlankText directory = false ∧
          m.HoldsDirectory (.ofString directory) ∧
          ∃ candidate, (c.suppliedAt directory).toolPath c m tool = .ok candidate ∧
            m.HoldsFile candidate) ∨
        ((run m words).exit = 2 ∧
          (run m words).stdout = failureText i.format (.invalidHome (some directory)) ∧
          (Text.isBlankText directory = true ∨ ¬m.HoldsDirectory (.ofString directory))) ∨
        ((run m words).exit = 2 ∧
          ∃ candidate, (c.suppliedAt directory).toolPath c m tool = .ok candidate ∧
            ¬m.HoldsFile candidate ∧
            (run m words).stdout = failureText i.format (.missingTool tool candidate))) ∧
    ((run m words).escape ≠ none →
      (run m words).exit = 1 ∧ ∃ e, (run m words).escape = some (.failure e) ∧
        TellsNothing c m tool e) := by
  have hfind := Invocation.find_result hload
  rw [run_of_words hwords]
  rcases judgement_or_tellsNothing (c := c) (m := m) hsupplied with
    ⟨htellable, hjudgement⟩ | ⟨huntold, e, hresult, hwhy⟩
  · generalize hresult : (i.action.find c m).result = result at hjudgement
    have hfound := hfind.trans hresult
    cases hjudgement with
    | refused hwhy =>
      rw [Invocation.run_of_error hfound]
      exact ⟨iff_of_true rfl htellable, fun _ => .inr (.inl ⟨rfl, rfl, hwhy⟩),
        fun h => absurd rfl h⟩
    | missing htool hmissing =>
      rw [Invocation.run_of_error hfound]
      exact ⟨iff_of_true rfl htellable, fun _ => .inr (.inr ⟨rfl, _, htool, hmissing, rfl⟩),
        fun h => absurd rfl h⟩
    | accepted hblank hdir htool hfile hend =>
      obtain ⟨hexit, text, htext⟩ := findingText_of_conclude hsupplied hformat rfl hend
      rw [Invocation.run_of_ok hfound, htext]
      exact ⟨iff_of_true rfl htellable, fun _ => .inl ⟨hexit, hblank, hdir, _, htool, hfile⟩,
        fun h => absurd rfl h⟩
  · have hunreported : e.isReported = false := by
      rcases hwhy with hlong | ⟨-, -, -, rfl⟩
      · exact hlong.not_isReported
      · rfl
    rw [Invocation.run_of_unreported (hfind.trans hresult) hunreported]
    exact ⟨iff_of_false nofun huntold, nofun, fun _ => ⟨rfl, e, rfl, hwhy⟩⟩

/-- A machine with a kit under the current directory, and a link to its tools. -/
def localKit : Machine where
  tree := ⟨[("work", .directory [("kit", .directory [("bin", .link "tools"),
    ("tools", .directory [("java", .file [] false)])])])]⟩
  cwd := ["work"]
  environment := [("JAVA_HOME", "/nowhere")]
  systemName := "Linux"

theorem supplied_escapes_iff_localKit :
    (run localKit ["home", ".//kit/", "--format", "json"]).escape = none ∧
      (run localKit ["home", ".//kit/", "--format", "json"]).exit = 0 := by
  have hwords : Invocation.ofWords localKit ["home", ".//kit/", "--format", "json"] =
      .ok ⟨none, false, .json, .home ".//kit/"⟩ :=
    eq_ok_of_toOption (by decide +kernel)
  have hload : (Context.ofMachine localKit none).result =
      .ok ⟨⟨.linux, none⟩, ⟨"/nowhere", "", "", ""⟩⟩ :=
    eq_ok_of_toOption (by decide +kernel)
  have hdir : localKit.HoldsDirectory (.ofString ".//kit/") :=
    Machine.answer_eq_true_iff.1 (eq_ok_of_toOption (by decide +kernel))
  have hfile : localKit.HoldsFile (.ofLocation ["work", "kit", "bin", "java"]) :=
    Machine.holdsFile_iff.2 (Machine.answer_eq_true_iff.1 (eq_ok_of_toOption (by decide +kernel)))
  have htool : (Context.suppliedAt ⟨⟨.linux, none⟩, ⟨"/nowhere", "", "", ""⟩⟩ ".//kit/").toolPath
      ⟨⟨.linux, none⟩, ⟨"/nowhere", "", "", ""⟩⟩ localKit "java" =
      .ok (.ofLocation ["work", "kit", "bin", "java"]) :=
    eq_ok_of_toOption (by decide +kernel)
  have hruntime : ¬localKit.Overlong (.library (.ofString ".//kit/") "rt.jar") :=
    (Machine.answer_eq_false_iff.1
      (eq_ok_of_toOption (x := localKit.isFile _) (by decide +kernel))).2
  have hkits : ∀ p, ¬localKit.Stumbles
      (((Context.kits ⟨⟨.linux, none⟩, ⟨"/nowhere", "", "", ""⟩⟩ (.ofString ".//kit/"))).map
        Context.archiveOf) p :=
    Machine.exists_firstExisting_iff.1 ⟨none, eq_ok_of_toOption (by decide +kernel)⟩
  obtain ⟨hescapes, hends, -⟩ := supplied_escapes_iff hwords rfl (fun _ => rfl) hload
  have hescape := hescapes.2 (.inr ⟨hdir.not_overlong, fun _ =>
    ⟨_, htool, (Machine.holdsFile_iff.1 hfile).not_overlong, fun _ _ => ⟨hkits, hruntime⟩⟩⟩)
  refine ⟨hescape, ?_⟩
  rcases hends hescape with ⟨hexit, -⟩ | ⟨-, -, hblank | hnone⟩ | ⟨-, candidate, hother, hnone, -⟩
  · exact hexit
  · exact absurd hblank (by decide +kernel)
  · exact absurd hdir hnone
  · cases htool.symm.trans hother
    exact absurd hfile hnone

/-- A machine with nothing on it. -/
def emptyMachine (systemName : String) : Machine where
  tree := .empty
  cwd := []
  environment := [("JAVA_HOME", "/")]
  systemName := systemName

theorem escape_longHome :
    (Context.ofMachine (emptyMachine "Linux") none).result.toOption.isSome = true ∧
      (run (emptyMachine "Linux") ["home", "/" ++ longName, "--format", "json"]).exit = 1 ∧
      (run (emptyMachine "Linux") ["home", "/" ++ longName, "--format", "json"]).escape =
        some (.failure (.nameTooLong ("/" ++ longName))) ∧
      (run (emptyMachine "Windows") ["exec", "/", "--home", "/"]).exit = 1 ∧
      (run (emptyMachine "Windows") ["exec", "/", "--home", "/"]).escape =
        some (.failure (.nameless (.ofString "/"))) := by
  have hproper : (Path.ofLocation [longName]).Proper := by
    intro part hmem
    rw [List.mem_singleton.1 hmem]
    exact ⟨Machine.isStep_longName, Machine.notMem_longName (by decide)⟩
  have htext : (Path.ofLocation [longName]).text = "/" ++ longName := by
    simp [Path.text, Path.ofLocation, Anchor.text]
  have hpath : Path.ofString ("/" ++ longName) = .ofLocation [longName] := by
    rw [← htext, hproper.ofString_text]
  have hlong : (emptyMachine "Linux").Overlong (.ofLocation ([] ++ [longName])) :=
    Machine.overlong_longName Named.nil (by simp) (FileTree.isDirectoryAt_root _)
  have hstat := Machine.stat_eq_nameTooLong_iff.2 hlong
  rw [List.nil_append] at hlong hstat
  have hwords : Invocation.ofWords (emptyMachine "Linux")
      ["home", "/" ++ longName, "--format", "json"] =
      .ok ⟨none, false, .json, .home ("/" ++ longName)⟩ := by
    apply ofWords_home
    · simp
    · rw [← htext, hstat]
      simp
  have hload : (Context.ofMachine (emptyMachine "Linux") none).result =
      .ok ⟨⟨.linux, none⟩, ⟨"/", "", "", ""⟩⟩ :=
    eq_ok_of_toOption (by decide +kernel)
  have hfind : ((Invocation.mk none false .json (.home ("/" ++ longName))).find
      (emptyMachine "Linux")).result = .error (.nameTooLong ("/" ++ longName)) := by
    have hblank : Text.isBlankText ("/" ++ longName) = false := by
      have hslash : Text.isBlank '/' = false := by decide
      rw [Text.isBlankText, String.toList_append, List.all_append, show "/".toList = ['/'] from rfl,
        List.all_cons, hslash, Bool.false_and, Bool.false_and]
    have hdir : (emptyMachine "Linux").isDirectory (.ofLocation [longName]) =
        .error (.nameTooLong ("/" ++ longName)) :=
      Machine.answer_eq_error_iff.2 ⟨hlong, by rw [htext]⟩
    rw [Invocation.find_result hload, find_supplied rfl, Context.supplied_eq, hblank, hpath, hdir]
    rfl
  rw [hload, run_of_words hwords, Invocation.run_of_unreported hfind rfl]
  exact ⟨rfl, rfl, rfl, by decide +kernel⟩

end JavaHome.Command
