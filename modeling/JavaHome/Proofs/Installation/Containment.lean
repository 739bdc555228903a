import Mathlib.Tactic.Lemma
import JavaHome.Proofs.Installation.Outcome
import JavaHome.Proofs.Path.Below

/-!
# Executables in the home directory

The path of a tool in the home directory is spelled by the tool, which may be any text. A tool that
goes up, has no name or is an absolute path may so be found outside `bin` and still count as one
from the home directory. `isBelow_toolDirectory_iff` says which tools are found below `bin` when
they are found in the home directory: relative ones that have a name and do not go up before it, and
absolute ones that spell a place below `bin`.
-/

namespace JavaHome.Installation

variable {c : Context} {m : Machine} {i : Installation} {tool last : String}
  {p directory written named : Path} {e : Executable}

/-- The directory in which an installation has its executables, as an absolute path. -/
def toolDirectory (m : Machine) (i : Installation) : Path :=
  (i.home.child "bin").absolute m.cwd

/-- A tool that is found in the home directory is a file, under the name of its executable. -/
lemma exists_named_of_home (h : (i.executable c m tool).result = .ok e)
    (hhome : e.source = .home) :
    ∃ named, c.host.executableName ((i.home.child "bin").join (.ofString tool)) = .ok named ∧
      e.path = named.absolute m.cwd ∧ m.HoldsFile e.path := by
  rcases outcome_or_breaksOff c m i tool with
    ⟨candidate, htool, -, houtcome⟩ | ⟨failure, hfailure, -⟩
  · obtain ⟨named, hnamed, rfl⟩ := toolPath_eq_ok_iff.1 htool
    rw [h] at houtcome
    cases houtcome with
    | home hfile => exact ⟨named, hnamed, rfl, hfile⟩
    | onPath => cases hhome
    | unresolved => cases hhome
  · cases h.symm.trans hfailure

/-- A file that goes by the name of an executable is below a directory if and only if the path
before that name stays within the directory. -/
lemma isBelow_named_iff (hne : last ≠ "")
    (hnamed : c.host.executableName (p.child last) = .ok named)
    (hfile : m.HoldsFile (named.absolute m.cwd)) :
    (named.absolute m.cwd).IsBelow directory ↔ (p.absolute m.cwd).IsWithin directory := by
  obtain ⟨name, hchild⟩ := c.host.exists_executableName_child p hne
  cases hchild.symm.trans hnamed
  rw [Path.child_absolute] at hfile ⊢
  rw [Path.isBelow_child_iff]
  exact and_iff_left hfile.ne_up

lemma toolDirectory_eq_child : i.toolDirectory m = (i.home.absolute m.cwd).child "bin" :=
  Path.child_absolute ..

/-- A tool with a name is found below `bin` if and only if the path before the name stays within
`bin`. -/
lemma isBelow_iff_of_named (hproper : written.Proper) (hparts : written.parts ≠ [])
    (hnamed : c.host.executableName ((i.home.child "bin").join written) = .ok named)
    (hfile : m.HoldsFile (named.absolute m.cwd)) :
    (named.absolute m.cwd).IsBelow (i.toolDirectory m) ↔
      ((i.toolDirectory m).join written.parent).IsWithin (i.toolDirectory m) := by
  obtain ⟨last, hlast, hmem⟩ := Path.exists_child_of_parts_ne_nil hparts
  rw [hlast, Path.join_child] at hnamed
  rw [isBelow_named_iff (hproper.ne_empty hmem) hnamed hfile, Path.join_absolute]
  rfl

/-- A tool without a name is not found below `bin`. -/
lemma not_isBelow_of_nameless (hparts : written.parts = [])
    (hnamed : c.host.executableName ((i.home.child "bin").join written) = .ok named)
    (hfile : m.HoldsFile (named.absolute m.cwd)) :
    ¬(named.absolute m.cwd).IsBelow (i.toolDirectory m) := by
  cases habs : written.isAbsolute with
  | false =>
    -- The directory itself is asked for, or the name that the host makes of it.
    rw [Path.join_of_relative habs, hparts, List.append_nil] at hnamed
    rw [isBelow_named_iff (by decide) hnamed hfile, toolDirectory_eq_child]
    exact Path.not_isWithin_child _ _
  | true =>
    have hname : written.name = "" := by
      rw [Path.name, hparts]
      rfl
    rw [Path.join_of_isAbsolute habs] at hnamed
    have hsame : named = written := by
      cases hwindows : c.host.isWindows with
      | false =>
        rw [Host.executableName_of_not_isWindows hwindows] at hnamed
        exact (Except.ok.inj hnamed).symm
      | true =>
        cases hnamed.symm.trans (Host.executableName_eq_error_iff.2 ⟨hwindows, hname, rfl⟩)
    have habsolute : written.absolute m.cwd = written := Path.join_of_isAbsolute habs
    rw [hsame, habsolute, toolDirectory_eq_child]
    exact fun h => h.isWithin.parts_ne_nil hparts

/-- A tool that is found in the home directory is below `bin` if and only if it is a relative path
that has a name and does not go up before it, or an absolute path with a name within `bin`. -/
theorem isBelow_toolDirectory_iff (h : (i.executable c m tool).result = .ok e)
    (hhome : e.source = .home) :
    ((Path.ofString tool).isAbsolute = false →
      (e.path.IsBelow (i.toolDirectory m) ↔
        (Path.ofString tool).parts ≠ [] ∧ ".." ∉ (Path.ofString tool).parent.parts)) ∧
    ((Path.ofString tool).isAbsolute = true →
      (e.path.IsBelow (i.toolDirectory m) ↔
        (Path.ofString tool).parent.IsWithin (i.toolDirectory m))) := by
  obtain ⟨named, hnamed, hpath, hfile⟩ := exists_named_of_home h hhome
  have hproper := Path.proper_ofString tool
  rw [hpath] at hfile ⊢
  by_cases hparts : (Path.ofString tool).parts = []
  · have hnot := not_isBelow_of_nameless hparts hnamed hfile
    refine ⟨fun _ => iff_of_false hnot fun hboth => hboth.1 hparts, fun _ => ?_⟩
    refine iff_of_false hnot fun hwithin => ?_
    rw [toolDirectory_eq_child] at hwithin
    exact hwithin.parts_ne_nil (by rw [Path.parent, hparts]; rfl)
  · rw [isBelow_iff_of_named hproper hparts hnamed hfile]
    constructor
    · intro hrel
      rw [Path.join_of_relative (q := (Path.ofString tool).parent) hrel]
      exact Path.isWithin_join_iff.trans (and_iff_right hparts).symm
    · intro habs
      rw [Path.join_of_isAbsolute (q := (Path.ofString tool).parent) habs]

/-- A machine with a kit and, outside it, a shell. -/
def shellMachine : Machine where
  tree := ⟨[("kit", .directory [("bin", .directory [("java", .file [] true)])]),
    ("bin", .directory [("sh", .file [] true)])]⟩
  cwd := []
  environment := []
  systemName := "Linux"

/-- The kit, as it was found or as somebody supplied it. -/
def shellKit (userSupplied : Bool) : Installation :=
  ⟨.ofLocation ["kit"], .ofLocation ["kit"], .generic, userSupplied⟩

/-- A context that reports the kit, with nothing on the search path. -/
def shellContext : Context :=
  ⟨⟨.linux, some ""⟩, ⟨"/kit", "", "", ""⟩⟩

theorem isBelow_toolDirectory_iff_shellKit :
    ((shellKit true).executable shellContext shellMachine "..//bin/java").result =
        .ok ⟨"..//bin/java", .ofLocation ["kit", "bin", "..", "bin", "java"], .home⟩ ∧
      ((shellKit true).executable shellContext shellMachine "/kit/bin/./java").result =
        .ok ⟨"/kit/bin/./java", .ofLocation ["kit", "bin", "java"], .home⟩ ∧
      ¬(Path.ofLocation ["kit", "bin", "..", "bin", "java"]).IsBelow
        ((shellKit true).toolDirectory shellMachine) ∧
      (Path.ofLocation ["kit", "bin", "java"]).IsBelow
        ((shellKit true).toolDirectory shellMachine) := by
  have hup : ((shellKit true).executable shellContext shellMachine "..//bin/java").result =
      .ok ⟨"..//bin/java", .ofLocation ["kit", "bin", "..", "bin", "java"], .home⟩ :=
    eq_ok_of_toOption (by decide)
  have habs : ((shellKit true).executable shellContext shellMachine "/kit/bin/./java").result =
      .ok ⟨"/kit/bin/./java", .ofLocation ["kit", "bin", "java"], .home⟩ :=
    eq_ok_of_toOption (by decide)
  refine ⟨hup, habs, fun h => ?_, ?_⟩
  · obtain ⟨-, hnone⟩ := ((isBelow_toolDirectory_iff hup rfl).1 (by decide)).1 h
    exact hnone (by decide)
  · have hbelow := (isBelow_toolDirectory_iff habs rfl).2 (by decide)
    exact hbelow.2 ⟨[], nofun, by decide⟩

theorem executable_outside_shellKit :
    ((shellKit false).executable shellContext shellMachine "/bin/sh").result.toOption =
        some ⟨"/bin/sh", .ofLocation ["bin", "sh"], .home⟩ ∧
      ((shellKit true).executable shellContext shellMachine "/bin/sh").result.toOption =
        some ⟨"/bin/sh", .ofLocation ["bin", "sh"], .home⟩ ∧
      ¬(Path.ofLocation ["bin", "sh"]).IsBelow ((shellKit true).toolDirectory shellMachine) ∧
      ¬(Path.ofLocation ["bin", "sh"]).IsBelow ((shellKit false).toolDirectory shellMachine) := by
  have houtside (supplied : Bool) : ¬(Path.ofLocation ["bin", "sh"]).IsBelow
      ((shellKit supplied).toolDirectory shellMachine) := by
    rintro ⟨names, -, -, h⟩
    have hhead : some "bin" = some "kit" := congrArg (fun p : Path => p.parts.head?) h
    exact absurd hhead (by decide)
  exact ⟨by decide, by decide, houtside true, houtside false⟩

end JavaHome.Installation
