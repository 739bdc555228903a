import Mathlib.Tactic.Lemma
import JavaHome.Proofs.Command.Run
import JavaHome.Proofs.Installation.Fallback
import JavaHome.Proofs.Installation.Summary

/-!
# Runs about the reported installation

Descriptions of the reported installation and of its environment succeed once the context is loaded,
unless the reported home has no canonical form or the search comes to a path that is too long. Then
the failure escapes (`reported_succeeds_iff`).
-/

namespace JavaHome.Command

variable {c : Context} {m : Machine} {e : Failure}

/-- An action about the reported installation and nothing else. -/
def Action.IsReported (action : Action) : Prop :=
  action = .current ∨ action = .env

/-- What an action about the reported installation asks for can be had: the reported home has a
canonical form, the search for the home behind it does not stumble and, for a description, neither
the path of `java` nor that of the runtime archive is too long. -/
def Reportable (c : Context) (m : Machine) (action : Action) : Prop :=
  ∃ base, m.canonicalize (.ofString c.properties.home) = .ok base ∧
    (∀ p, ¬m.Stumbles (c.evidence base) p) ∧
    (action = .current → ∀ installation, (c.current m).result = .ok installation →
      (∃ candidate, installation.toolPath c m "java" = .ok candidate ∧ ¬m.Overlong candidate) ∧
        ¬m.Overlong installation.runtimeArchivePath)

/-- The environment is found if and only if an installation is reported. -/
lemma exists_find_env_iff :
    (∃ finding, (Action.env.find c m).result = .ok finding) ↔
      ∃ installation, (c.current m).result = .ok installation := by
  constructor
  · rintro ⟨finding, hfinding⟩
    cases Action.find_eq_ok_iff.1 hfinding with
    | installation hdescribes => cases hdescribes
    | environment hcurrent => exact ⟨_, hcurrent⟩
  · rintro ⟨installation, hcurrent⟩
    exact ⟨_, Action.find_eq_ok_iff.2 (.environment hcurrent)⟩

/-- The description of the reported installation is found if and only if there is one whose `java`
and runtime archive can be asked for. -/
lemma exists_find_current_iff :
    (∃ finding, (Action.current.find c m).result = .ok finding) ↔
      ∃ installation, (c.current m).result = .ok installation ∧
        (∃ candidate, installation.toolPath c m "java" = .ok candidate ∧ ¬m.Overlong candidate) ∧
          ¬m.Overlong installation.runtimeArchivePath := by
  constructor
  · rintro ⟨finding, hfinding⟩
    obtain ⟨installation, java, s, hcurrent, hjava, hs, -⟩ := Action.describe_eq_ok_iff.1 hfinding
    have hanswer := (Installation.exists_executable_iff_answerable
      (Installation.userSupplied_of_current hcurrent)).1 ⟨java, hjava⟩
    exact ⟨installation, hcurrent, (Installation.answerable_iff_of_name (by decide)).1 hanswer,
      (Installation.exists_summary_iff_of_current hcurrent java).1 ⟨s, hs⟩⟩
  · rintro ⟨installation, hcurrent, htool, hruntime⟩
    obtain ⟨java, hjava⟩ := (Installation.exists_executable_iff_answerable
      (Installation.userSupplied_of_current hcurrent)).2
      ((Installation.answerable_iff_of_name (by decide)).2 htool)
    obtain ⟨s, hs⟩ :=
      (Installation.exists_summary_iff_of_current hcurrent java).2 hruntime
    exact ⟨_, Action.find_eq_ok_iff.2 (.installation rfl hcurrent hjava hs)⟩

/-- Why nothing is found about the reported installation: its home has no canonical form, or a path
is too long. -/
lemma find_eq_error {action : Action} (h : action.IsReported)
    (he : (action.find c m).result = .error e) :
    m.LacksForm (.ofString c.properties.home) e ∨ m.TellsOverlong e := by
  rcases h with rfl | rfl
  · rcases Traced.result_bind_eq_error_iff.1 he with he | ⟨installation, hcurrent, he⟩
    · exact Context.current_eq_error he
    · rcases Traced.result_bind_eq_error_iff.1 he with he | ⟨java, -, he⟩
      · exact .inr ((Installation.breaksOff_of_error
          (Installation.userSupplied_of_current hcurrent) he).tellsOverlong (by decide))
      · rcases Traced.result_bind_eq_error_iff.1 he with he | ⟨s, -, he⟩
        · exact .inr (Installation.tellsOverlong_of_summarize he)
        · cases he
  · rcases Traced.result_bind_eq_error_iff.1 he with he | ⟨installation, -, he⟩
    · exact Context.current_eq_error he
    · cases he

/-- What is found about the reported installation has the exit code 0. -/
lemma exit_of_isReported {action : Action} {finding : Finding} (h : action.IsReported)
    (hfinding : (action.find c m).result = .ok finding) : finding.exit = 0 := by
  cases Action.find_eq_ok_iff.1 hfinding with
  | installation => rfl
  | executable => rcases h with h | h <;> cases h
  | environment => rfl

/-- What an action about the reported installation needs, once the context is loaded. -/
lemma exists_find_iff {action : Action} (h : action.IsReported) :
    (∃ finding, (action.find c m).result = .ok finding) ↔ Reportable c m action := by
  have hexists := Context.exists_current_iff (c := c) (m := m)
  rcases h with rfl | rfl
  · rw [exists_find_current_iff]
    constructor
    · rintro ⟨installation, hcurrent, hneeds⟩
      obtain ⟨base, hbase, hstumble⟩ := hexists.1 ⟨installation, hcurrent⟩
      refine ⟨base, hbase, hstumble, ?_⟩
      rintro - other hother
      cases hcurrent.symm.trans hother
      exact hneeds
    · rintro ⟨base, hbase, hstumble, hneeds⟩
      obtain ⟨installation, hcurrent⟩ := hexists.2 ⟨base, hbase, hstumble⟩
      exact ⟨installation, hcurrent, hneeds rfl installation hcurrent⟩
  · rw [exists_find_env_iff, hexists]
    unfold Reportable
    simp

/-- A command line about the reported installation succeeds, once the context is loaded, exactly
where the reported home has a canonical form and no path is too long: none that the search for the
home comes to and, for a description, neither that of `java` nor that of the runtime archive.
Otherwise the failure escapes with exit code 1. -/
theorem reported_succeeds_iff {words : List String} {i : Invocation}
    (hwords : Invocation.ofWords m words = .ok i) (haction : i.action.IsReported)
    (hformat : i.format = .json)
    (hload : (Context.ofMachine m i.propertiesFile).result = .ok c) :
    ((run m words).exit = 0 ∧ (run m words).escape = none ↔ Reportable c m i.action) ∧
    (¬((run m words).exit = 0 ∧ (run m words).escape = none) →
      (run m words).exit = 1 ∧ ∃ e, (run m words).escape = some (.failure e) ∧
        (m.LacksForm (.ofString c.properties.home) e ∨ m.TellsOverlong e)) := by
  have hfind := Invocation.find_result hload
  rw [run_of_words hwords, ← exists_find_iff haction]
  cases hresult : (i.action.find c m).result with
  | ok finding =>
    rw [Invocation.run_of_ok_json hformat (hfind.trans hresult)]
    have hexit := exit_of_isReported haction hresult
    exact ⟨⟨fun _ => ⟨finding, rfl⟩, fun _ => ⟨hexit, rfl⟩⟩, fun h => absurd ⟨hexit, rfl⟩ h⟩
  | error e =>
    have hcause := find_eq_error haction hresult
    have hunreported : e.isReported = false :=
      hcause.elim Machine.LacksForm.not_isReported Machine.TellsOverlong.not_isReported
    rw [Invocation.run_of_unreported (hfind.trans hresult) hunreported]
    refine ⟨⟨?_, ?_⟩, fun _ => ⟨rfl, e, rfl, hcause⟩⟩
    · rintro ⟨hexit, -⟩
      cases hexit
    · rintro ⟨finding, hfinding⟩
      cases hfinding

/-- A machine on which the reported home is a link that leads nowhere. -/
def danglingHome : Machine where
  tree := ⟨[("java", .link "../opt/./jdk"), ("opt", .file [] false)]⟩
  cwd := []
  environment := [("JAVA_HOME", "/java/jre"), ("PATH", "")]
  systemName := "Windows"

theorem reported_succeeds_iff_danglingHome :
    (run danglingHome ["current", "--format", "json"]).exit = 0 ∧
      (run danglingHome ["current", "--format", "json"]).escape = none := by
  have hwords : Invocation.ofWords danglingHome ["current", "--format", "json"] =
      .ok ⟨none, false, .json, .current⟩ :=
    eq_ok_of_toOption (by decide +kernel)
  have hload : (Context.ofMachine danglingHome none).result =
      .ok ⟨⟨.windows, none⟩, ⟨"/java/jre", "", "", ""⟩⟩ :=
    eq_ok_of_toOption (by decide +kernel)
  have hcurrent : (Context.current ⟨⟨.windows, none⟩, ⟨"/java/jre", "", "", ""⟩⟩
      danglingHome).result =
      .ok ⟨.ofLocation ["opt", "jdk", "jre"], .ofLocation ["opt", "jdk", "jre"], .generic, false⟩ :=
    eq_ok_of_toOption (by decide +kernel)
  have hshort : ∀ p, (danglingHome.isFile p).toOption = some false → ¬danglingHome.Overlong p :=
    fun p h => (Machine.answer_eq_false_iff.1 (eq_ok_of_toOption h)).2
  obtain ⟨base, hbase, hstumble⟩ := Context.exists_current_iff.1 ⟨_, hcurrent⟩
  apply (reported_succeeds_iff hwords (.inl rfl) rfl hload).1.2
  refine ⟨base, hbase, hstumble, ?_⟩
  rintro - installation hinstallation
  cases hcurrent.symm.trans hinstallation
  refine ⟨⟨.ofLocation ["opt", "jdk", "jre", "bin", "java.exe"], ?_, hshort _ (by decide +kernel)⟩,
    hshort _ (by decide +kernel)⟩
  exact eq_ok_of_toOption (by decide +kernel)

/-- A machine on which the reported home is a link to itself. -/
def loopedHome : Machine where
  tree := ⟨[("loop", .link "loop")]⟩
  cwd := []
  environment := [("JAVA_HOME", "/loop")]
  systemName := "Linux"

theorem escape_loopedHome :
    (Context.ofMachine loopedHome none).result.toOption.isSome = true ∧
      (run loopedHome ["env", "--format", "json"]).exit = 1 ∧
      (run loopedHome ["env", "--format", "json"]).escape =
        some (.failure (.linkLoop (.ofLocation ["loop"]))) ∧
      (run loopedHome ["current", "--format", "json"]).exit = 1 ∧
      (run loopedHome ["current", "--format", "json"]).escape =
        some (.failure (.linkLoop (.ofLocation ["loop"]))) := by
  decide +kernel

end JavaHome.Command
