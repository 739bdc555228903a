import Mathlib.Tactic.Lemma
import JavaHome.Proofs.Installation.Outcome
import JavaHome.Proofs.Installation.Spelling

/-!
# Executables of a reported installation

A reported installation need not have the tool that is looked up: there is the search path, and at
last the bare name. So the lookup has an answer, found or not, unless the path in the home directory
is too long or, on Windows, the tool has no name and its directory is no file
(`exists_executable_iff`).
-/

namespace JavaHome.Installation

open Machine (longName)

variable {c : Context} {m : Machine} {i : Installation}

/-- Nobody supplied a reported installation. -/
lemma userSupplied_of_current (h : (c.current m).result = .ok i) : i.userSupplied = false := by
  obtain ⟨base, home, -, -, rfl⟩ := Context.current_eq_ok_iff.1 h
  rfl

/-- The lookup of a tool in a reported installation has an answer exactly where the path in the home
directory is not too long and, on Windows, a tool without a name has a file there. Its failures are
these two, and none is reported. -/
theorem exists_executable_iff (h : (c.current m).result = .ok i) (tool : String) :
    ((∃ found, (i.executable c m tool).result = .ok found) ↔ Answerable c m i tool) ∧
    ∀ e, (i.executable c m tool).result = .error e →
      e.isReported = false ∧
        ((∃ candidate, i.toolPath c m tool = .ok candidate ∧ m.Overlong candidate ∧
            e = .nameTooLong candidate.text) ∨
          c.host.isWindows = true ∧ (Path.ofString tool).name = "" ∧
            e = .nameless (.ofString tool)) := by
  have hreported := userSupplied_of_current h
  refine ⟨exists_executable_iff_answerable hreported, ?_⟩
  intro e he
  have hbreak := breaksOff_of_error hreported he
  exact ⟨hbreak.not_isReported, hbreak.cause⟩

/-- A machine with a kit whose directory of tools has an odd neighbour. -/
def binaryKit : Machine where
  tree := ⟨[("kit", .directory [("bin", .directory []), ("bin.exe", .file [] false)])]⟩
  cwd := []
  environment := []
  systemName := "Windows"

/-- A context in which the kit is reported. -/
def kitContext (system : OperatingSystem) : Context :=
  ⟨⟨system, some "/bin"⟩, ⟨"/kit", "", "", ""⟩⟩

/-- The kit as it is reported. -/
def kit : Installation :=
  ⟨.ofLocation ["kit"], .ofLocation ["kit"], .generic, false⟩

theorem exists_executable_iff_binaryKit :
    ((kitContext .windows).current binaryKit).result = .ok kit ∧
      ∃ found, (kit.executable (kitContext .windows) binaryKit "./").result = .ok found := by
  have hcurrent : ((kitContext .windows).current binaryKit).result = .ok kit :=
    eq_ok_of_toOption (by decide)
  have htool : kit.toolPath (kitContext .windows) binaryKit "./" =
      .ok (.ofLocation ["kit", "bin.exe"]) :=
    eq_ok_of_toOption (by decide)
  have hfile : binaryKit.HoldsFile (.ofLocation ["kit", "bin.exe"]) :=
    Machine.holdsFile_iff.2 (Machine.answer_eq_true_iff.1 (eq_ok_of_toOption (by decide)))
  refine ⟨hcurrent, (exists_executable_iff hcurrent "./").1.2 ⟨_, htool, ?_, fun _ _ => hfile⟩⟩
  exact (Machine.holdsFile_iff.1 hfile).not_overlong

theorem executable_longName :
    ((kitContext .linux).current binaryKit).result = .ok kit ∧
      (kit.executable (kitContext .linux) binaryKit longName).result =
        .error (.nameTooLong (Path.ofLocation ["kit", "bin", longName]).text) ∧
      ((kitContext .windows).current binaryKit).result = .ok kit ∧
      (kit.executable (kitContext .windows) binaryKit "/").result =
        .error (.nameless (.ofString "/")) := by
  have htool : kit.toolPath (kitContext .linux) binaryKit longName =
      .ok (.ofLocation ["kit", "bin", longName]) := by
    rw [toolPath, Path.ofString_name Machine.isStep_longName (Machine.notMem_longName (by decide))]
    rfl
  have hn : Named ["kit", "bin"] := by decide
  have hlong : binaryKit.Overlong (.ofLocation (["kit", "bin"] ++ [longName])) :=
    Machine.overlong_longName hn (by decide) ⟨_, rfl⟩
  exact ⟨eq_ok_of_toOption (by decide), executable_of_overlong htool hlong,
    eq_ok_of_toOption (by decide), rfl⟩

end JavaHome.Installation
