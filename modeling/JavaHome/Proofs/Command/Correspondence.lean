import Mathlib.Tactic.Lemma
import JavaHome.Proofs.Command.Lossless
import JavaHome.Proofs.Command.Supplied

/-!
# Descriptions and lookups

A description of an installation and a lookup of its `java` start from the same installation. So
what they find corresponds: both fail alike, or the description contains what the lookup finds
(`Corresponds`). Only the archives of the description can fail on top of that. This is carried from
findings to reports (`Corresponds.run`), and from there to command lines (`descriptions_agree`).
-/

namespace JavaHome.Command

variable {c : Context} {m : Machine} {i j : Invocation} {P : Executable → Prop}
  {directory tool : String}

/-- What a description and a lookup find: an installation and its `java`, the same failure, or a
failure of the description alone, which is not reported. -/
inductive Corresponds (P : Executable → Prop) :
    Except Failure Finding → Except Failure Finding → Prop where
  | described {s : Summary} :
    P s.java →
    Corresponds P (.ok (.installation s)) (.ok (.executable s.java))
  | undescribed {e : Failure} {java : Executable} :
    e.isReported = false →
    Corresponds P (.error e) (.ok (.executable java))
  | failed {e : Failure} :
    Corresponds P (.error e) (.error e)

/-- A description of an installation corresponds to a lookup of its `java`. -/
lemma corresponds_of_installation {found : Except Failure Installation}
    (hjava : ∀ installation java, found = .ok installation →
      (installation.executable c m "java").result = .ok java → P java) :
    Corresponds P
      (found >>= fun i => (i.executable c m "java").result >>= fun java =>
        (i.summarize c m java).map .installation)
      (found >>= fun i => (i.executable c m "java").result >>= fun java =>
        .ok (.executable java)) := by
  cases found with
  | error e => exact .failed
  | ok installation =>
    simp only [bind, Except.bind]
    cases hexecutable : (installation.executable c m "java").result with
    | error e => exact .failed
    | ok java =>
      dsimp only
      cases hsummary : installation.summarize c m java with
      | error e =>
        exact .undescribed (Installation.tellsOverlong_of_summarize hsummary).not_isReported
      | ok s =>
        obtain ⟨toolsArchive, runtimeArchive, -, -, rfl⟩ :=
          Installation.summarize_eq_ok_iff.1 hsummary
        exact .described (hjava installation java rfl hexecutable)

/-- The `java` of a supplied installation is in its home directory. -/
lemma source_of_supplied {installation : Installation} {java : Executable}
    (hsupplied : c.supplied m directory = .ok installation)
    (hjava : (installation.executable c m tool).result = .ok java) : java.source = .home := by
  have hsupplies := c.supplies m directory
  rw [hsupplied] at hsupplies
  cases hsupplies with
  | accepted _ _ =>
    rcases Installation.outcome_or_breaksOff c m (c.suppliedAt directory) tool with
      ⟨candidate, -, -, houtcome⟩ | ⟨e, herror, -⟩
    · rw [hjava] at houtcome
      cases houtcome with
      | home _ => rfl
      | onPath _ hreported => cases hreported
      | unresolved _ hreported => cases hreported
    · cases hjava.symm.trans herror

/-- A description of a supplied directory corresponds to a lookup of `java` in it. -/
lemma corresponds_home : Corresponds (·.source = .home)
    ((Action.home directory).find c m).result
    ((Action.exec "java" (some directory)).find c m).result := by
  rw [find_supplied rfl, find_supplied rfl]
  exact corresponds_of_installation fun _ _ => source_of_supplied

/-- A description of the reported installation corresponds to a lookup of `java` in it. -/
lemma corresponds_current : Corresponds (fun _ => True)
    (Action.current.find c m).result ((Action.exec "java" none).find c m).result := by
  have hcurrent : (Action.current.find c m).result = (c.current m).result >>= fun i =>
      (i.executable c m "java").result >>= fun java =>
        (i.summarize c m java).map .installation := by
    simp only [Action.find, Traced.result_bind, Traced.result_ofExcept, Traced.result_pure]
    rfl
  have hexec : ((Action.exec "java" none).find c m).result = (c.current m).result >>= fun i =>
      (i.executable c m "java").result >>= fun java => .ok (.executable java) := by
    simp only [Action.find, Context.resolve, Traced.result_bind, Traced.result_pure]
  rw [hcurrent, hexec]
  exact corresponds_of_installation fun _ _ _ _ => trivial

/-- Invocations correspond whose actions do so in the context that both load. -/
lemma Invocation.find_corresponds (hfile : j.propertiesFile = i.propertiesFile)
    (h : ∀ c, Corresponds P (i.action.find c m).result (j.action.find c m).result) :
    Corresponds P (i.find m).result (j.find m).result := by
  unfold find
  rw [Traced.result_bind, Traced.result_bind, hfile]
  cases (Context.ofMachine m i.propertiesFile).result with
  | error e => exact .failed
  | ok c => exact h c

/-- A description and a lookup agree: both report the same failure or neither reports any, and what
is described contains what is looked up, whose exit code says if it was found. -/
structure Agree (P : Executable → Prop) (described found : Report) : Prop where
  exit : described.exit = 2 ↔ found.exit = 2
  failure : described.exit = 2 → found.stdout = described.stdout
  described : described.exit = 0 → ∃ s : Summary, P s.java ∧
    Writes described.stdout s.toJson ∧ Writes found.stdout s.java.toJson ∧
      found.exit = if s.java.isResolved then 0 else 1

/-- Runs in JSON agree if what they find corresponds. -/
lemma Corresponds.run (h : Corresponds P (i.find m).result (j.find m).result)
    (hi : i.format = .json) (hj : j.format = .json) : Agree P (i.run m) (j.run m) := by
  have hexit : ∀ java, (Finding.executable java).exit ≠ 2 := by
    intro java
    change (if java.isResolved then 0 else 1) ≠ 2
    cases java.isResolved <;> decide
  generalize hdescribed : (i.find m).result = described at h
  generalize hfound : (j.find m).result = found at h
  cases h with
  | @described s hjava =>
    rw [Invocation.run_of_ok_json hi hdescribed, Invocation.run_of_ok_json hj hfound]
    refine ⟨iff_of_false nofun (hexit _), nofun, fun _ => ⟨s, hjava, ?_, ?_, rfl⟩⟩
    · exact writes_encodeAt Json.Layout.spaced_block _
    · exact writes_encodeAt Json.Layout.spaced_block _
  | undescribed hunreported =>
    rw [Invocation.run_of_unreported hdescribed hunreported, Invocation.run_of_ok_json hj hfound]
    exact ⟨iff_of_false nofun (hexit _), nofun, nofun⟩
  | @failed e =>
    rw [Invocation.run_of_error hdescribed, Invocation.run_of_error hfound, hi, hj]
    cases e.isReported with
    | true => exact ⟨Iff.rfl, fun _ => rfl, nofun⟩
    | false => exact ⟨Iff.rfl, fun _ => rfl, nofun⟩

/-- Command lines about a directory agree, also where its path cannot be looked up. -/
lemma agree_home (hdash : directory.toList.head? ≠ some '-') : Agree (·.source = .home)
    (run m ["home", directory, "--format", "json"])
    (run m ["exec", "java", "--home", directory, "--format", "json"]) := by
  have hexec : Invocation.ofWords m ["exec", "java", "--home", directory, "--format", "json"] =
      (checkPath m directory).map fun _ => ⟨none, false, .json, .exec "java" directory⟩ :=
    ofWords_exec_home .json (by decide)
  unfold run
  rw [ofWords_home_eq hdash, hexec]
  cases hpath : checkPath m directory with
  | error stop =>
    rw [checkPath_eq_error hpath]
    exact ⟨Iff.rfl, fun _ => rfl, nofun⟩
  | ok =>
    exact Corresponds.run (i := ⟨none, false, .json, .home directory⟩)
      (j := ⟨none, false, .json, .exec "java" directory⟩)
      (Invocation.find_corresponds rfl fun _ => corresponds_home) rfl rfl

/-- Command lines about the reported installation agree. -/
lemma agree_current : Agree (fun _ => True) (run m ["current", "--format", "json"])
    (run m ["exec", "java", "--format", "json"]) := by
  have hexec : Invocation.ofWords m ["exec", "java", "--format", "json"] =
      .ok ⟨none, false, .json, .exec "java" none⟩ :=
    ofWords_exec .json (by decide)
  rw [run_of_words ofWords_current, run_of_words hexec]
  exact Corresponds.run (Invocation.find_corresponds rfl fun _ => corresponds_current) rfl rfl

/-- Descriptions agree with lookups of `java`. For a supplied directory both report the same failure
or neither reports any, and what is described contains what is looked up, which is in the home
directory. For the reported installation, what is described contains what is looked up, and the
exit code of the lookup says if it was found. -/
theorem descriptions_agree (m : Machine) :
    (∀ directory : String, directory.toList.head? ≠ some '-' →
      ((run m ["home", directory, "--format", "json"]).exit = 2 ↔
        (run m ["exec", "java", "--home", directory, "--format", "json"]).exit = 2) ∧
      ((run m ["home", directory, "--format", "json"]).exit = 2 →
        (run m ["exec", "java", "--home", directory, "--format", "json"]).stdout =
          (run m ["home", directory, "--format", "json"]).stdout) ∧
      ((run m ["home", directory, "--format", "json"]).exit = 0 →
        (run m ["exec", "java", "--home", directory, "--format", "json"]).exit = 0 ∧
        ∃ report executable,
          Writes (run m ["home", directory, "--format", "json"]).stdout report ∧
          Writes (run m ["exec", "java", "--home", directory, "--format", "json"]).stdout
            executable ∧
          report.get? "java_executable" = some executable ∧
          executable.get? "source" = some (.string "home"))) ∧
    ((run m ["current", "--format", "json"]).exit = 0 →
      ∃ report executable resolved,
        Writes (run m ["current", "--format", "json"]).stdout report ∧
        Writes (run m ["exec", "java", "--format", "json"]).stdout executable ∧
        report.get? "java_executable" = some executable ∧
        executable.get? "resolved" = some (.bool resolved) ∧
        (run m ["exec", "java", "--format", "json"]).exit = if resolved then 0 else 1) := by
  constructor
  · intro directory hdash
    obtain ⟨hexit, hfailure, hdescribed⟩ := agree_home (m := m) hdash
    refine ⟨hexit, hfailure, fun hzero => ?_⟩
    obtain ⟨s, hsource, hreport, hexecutable, hfound⟩ := hdescribed hzero
    have hresolved : s.java.isResolved = true := by
      rw [Executable.isResolved, hsource]
      rfl
    have hword : s.java.toJson.get? "source" = some (.string s.java.source.word) := rfl
    rw [hsource] at hword
    rw [hfound, hresolved]
    exact ⟨rfl, s.toJson, s.java.toJson, hreport, hexecutable, rfl, hword⟩
  · intro hzero
    obtain ⟨s, -, hreport, hexecutable, hfound⟩ := (agree_current (m := m)).described hzero
    exact ⟨s.toJson, s.java.toJson, s.java.isResolved, hreport, hexecutable, rfl, rfl, hfound⟩

theorem descriptions_agree_localKit :
    (run localKit ["home", ".//kit/", "--format", "json"]).exit = 0 ∧
      (run localKit ["exec", "java", "--home", ".//kit/", "--format", "json"]).exit = 0 ∧
      (run localKit ["home", "", "--format", "json"]).exit = 2 ∧
      (run localKit ["exec", "java", "--home", "", "--format", "json"]).stdout =
        (run localKit ["home", "", "--format", "json"]).stdout ∧
      (run localKit ["current", "--format", "json"]).exit = 0 ∧
      ∃ executable, Writes (run localKit ["exec", "java", "--format", "json"]).stdout executable ∧
        executable.get? "resolved" = some (.bool false) := by
  obtain ⟨hhome, hcurrent⟩ := descriptions_agree localKit
  have hlocal : (run localKit ["home", ".//kit/", "--format", "json"]).exit = 0 := by
    decide +kernel
  have hblank : (run localKit ["home", "", "--format", "json"]).exit = 2 := by decide +kernel
  have hreported : (run localKit ["current", "--format", "json"]).exit = 0 := by decide +kernel
  have hexec : (run localKit ["exec", "java", "--format", "json"]).exit = 1 := by decide +kernel
  obtain ⟨-, executable, resolved, -, hexecutable, -, hresolved, hcode⟩ := hcurrent hreported
  refine ⟨hlocal, ((hhome ".//kit/" (by decide)).2.2 hlocal).1, hblank,
    (hhome "" (by decide)).2.1 hblank, hreported, executable, hexecutable, ?_⟩
  cases resolved with
  | false => exact hresolved
  | true => cases hexec.symm.trans hcode

end JavaHome.Command
