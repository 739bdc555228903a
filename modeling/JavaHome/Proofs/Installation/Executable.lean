import Mathlib.Tactic.Lemma
import JavaHome.Proofs.Installation.Outcome

/-!
# Executables that are looked up

What the answer to a lookup says about the file tree: where a tool is said to be, it is, and where
it is said to be nowhere, no entry of the search path has it (`executable_sound_complete`).
-/

namespace JavaHome.Installation

variable {c : Context} {m : Machine} {i : Installation} {tool : String}

/-- A lookup that does not end in an unexpected failure has asked for the tool in the home
directory. -/
lemma exists_outcome
    (h : ∀ e, (i.executable c m tool).result = .error e → e.isReported = true) :
    ∃ named, c.host.executableName ((i.home.child "bin").join (.ofString tool)) = .ok named ∧
      Outcome c m i tool (named.absolute m.cwd) (i.executable c m tool).result := by
  rcases outcome_or_breaksOff c m i tool with ⟨candidate, htool, -, houtcome⟩ | ⟨e, he, hbreak⟩
  · obtain ⟨named, hnamed, rfl⟩ := toolPath_eq_ok_iff.1 htool
    exact ⟨named, hnamed, houtcome⟩
  · cases hbreak.not_isReported.symm.trans (h e he)

/-- Executables are where the lookup says that they are. The home directory comes first, a supplied
installation must have the tool there, and otherwise the search path decides. -/
theorem executable_sound_complete (hcwd : m.tree.IsWorkingDirectory m.cwd)
    (hexpected : ∀ e, (i.executable c m tool).result = .error e → e.isReported = true) :
    ∃ named, c.host.executableName ((i.home.child "bin").join (.ofString tool)) = .ok named ∧
      ((∃ e, (i.executable c m tool).result = .ok e ∧ e.source = .home) ↔
        m.HoldsFile (named.absolute m.cwd)) ∧
      (∀ e, (i.executable c m tool).result = .ok e → e.source = .home →
        e.path = named.absolute m.cwd) ∧
      (¬m.HoldsFile (named.absolute m.cwd) → i.userSupplied = true →
        (i.executable c m tool).result = .error (.missingTool tool (named.absolute m.cwd))) ∧
      (¬m.HoldsFile (named.absolute m.cwd) → i.userSupplied = false →
        ((∃ e, (i.executable c m tool).result = .ok e ∧ e.source = .path) ↔
          ∃ path, c.host.findInPath m tool = some path)) ∧
      (∀ e, (i.executable c m tool).result = .ok e → e.source = .path →
        c.host.findInPath m tool = some e.path ∧ e.path.isAbsolute = true ∧
          ∃ written place, c.host.Finds m tool written ∧ m.RunsAt written place ∧
            (Text.byteLength e.path.text < FileTree.pathLimit → m.RunsAt e.path.text place)) ∧
      (∀ e, (i.executable c m tool).result = .ok e → e.source = .unresolved →
        ¬m.HoldsFile (named.absolute m.cwd) ∧ i.userSupplied = false ∧
          c.host.FindsNowhere m tool ∧ c.host.executableName (.ofString tool) = .ok e.path) := by
  obtain ⟨named, hnamed, houtcome⟩ := exists_outcome hexpected
  refine ⟨named, hnamed, ?_⟩
  generalize (i.executable c m tool).result = result at houtcome
  cases houtcome with
  | home hfile =>
    exact ⟨by simp [hfile], by simp, fun hno => absurd hfile hno, fun hno => absurd hfile hno,
      by simp, by simp⟩
  | missing hfile hsupplied =>
    exact ⟨by simp [hfile], by simp, fun _ _ => rfl, by simp [hsupplied], by simp, by simp⟩
  | onPath hfile hsupplied hpath =>
    refine ⟨by simp [hfile], by simp, by simp [hsupplied], by simp [hpath], ?_, by simp⟩
    intro e he _
    cases he
    obtain ⟨written, hfinds, rfl⟩ := Host.findInPath_eq_some_iff.1 hpath
    obtain ⟨place, hruns⟩ := hfinds.exists_place
    exact ⟨hpath, Path.isAbsolute_absolute _ _, written, place, hfinds, hruns,
      Host.runsAt_absolute hcwd hruns⟩
  | unresolved hfile hsupplied hpath hbare =>
    refine ⟨by simp [hfile], by simp, by simp [hsupplied], by simp [hpath], by simp, ?_⟩
    intro e he _
    cases he
    exact ⟨hfile, hsupplied, Host.findInPath_eq_none_iff.1 hpath, hbare⟩

/-- A machine on which a link leads from the current directory to a tool. -/
def linkedTool : Machine where
  tree := ⟨[("work", .directory [("bin", .link ".././tools")]),
    ("tools", .directory [("javac", .file [] true)]), ("jre", .directory [])]⟩
  cwd := ["work"]
  environment := []
  systemName := "Linux"

lemma linkedTool_isWorkingDirectory : linkedTool.tree.IsWorkingDirectory linkedTool.cwd where
  named := by decide
  noNull := by decide
  isDirectory := ⟨_, rfl⟩

/-- A run-time environment that was found, and has no tools. -/
def bareRuntime : Installation :=
  ⟨.ofLocation ["jre"], .ofLocation ["jre"], .generic, false⟩

/-- A context with a search path that is followed from the current directory. -/
def relativeContext : Context :=
  ⟨⟨.linux, some "nowhere:.//bin/"⟩, ⟨"", "", "", ""⟩⟩

theorem executable_sound_complete_linkedTool :
    ∃ written place,
      (bareRuntime.executable relativeContext linkedTool "javac").result =
        .ok ⟨"javac", .ofLocation ["work", "bin", "javac"], .path⟩ ∧
      relativeContext.host.Finds linkedTool "javac" written ∧ linkedTool.RunsAt written place ∧
      linkedTool.RunsAt "/work/bin/javac" place := by
  have hresult : (bareRuntime.executable relativeContext linkedTool "javac").result =
      .ok ⟨"javac", .ofLocation ["work", "bin", "javac"], .path⟩ :=
    eq_ok_of_toOption (by decide +kernel)
  have hexpected : ∀ e, (bareRuntime.executable relativeContext linkedTool "javac").result =
      .error e → e.isReported = true := by
    rw [hresult]
    intro e he
    cases he
  obtain ⟨named, -, -, -, -, -, hpath, -⟩ :=
    executable_sound_complete linkedTool_isWorkingDirectory hexpected
  obtain ⟨-, -, written, place, hfinds, hruns, habsolute⟩ := hpath _ hresult rfl
  exact ⟨written, place, hresult, hfinds, hruns, habsolute (by decide +kernel)⟩

end JavaHome.Installation
