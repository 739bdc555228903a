import Mathlib.Tactic.Lemma
import JavaHome.Installation.Executable
import JavaHome.Proofs.Machine

/-!
# How the lookup of an executable ends

A lookup asks for the tool in the home directory and then has one of four outcomes. It breaks off
where it cannot ask: the path in the home directory is too long, or Windows has no name to give a
suffix to. There is no other way (`outcome_or_breaksOff`).
-/

namespace JavaHome.Installation

variable {c : Context} {m : Machine} {i : Installation} {tool : String} {candidate : Path}
  {e : Failure}

/-- The path in the home directory is the absolute path of what the host calls the executable. -/
lemma toolPath_eq_ok_iff : i.toolPath c m tool = .ok candidate ↔
    ∃ named, c.host.executableName ((i.home.child "bin").join (.ofString tool)) = .ok named ∧
      named.absolute m.cwd = candidate :=
  map_eq_ok_iff

/-- A tool has no path in the home directory if and only if it is an absolute path without a name,
on Windows. -/
lemma toolPath_eq_error_iff : i.toolPath c m tool = .error e ↔
    c.host.isWindows = true ∧ (Path.ofString tool).isAbsolute = true ∧
      (Path.ofString tool).name = "" ∧ e = .nameless (.ofString tool) := by
  have hbin : (i.home.child "bin").name ≠ "" := by
    rw [Path.name_child]
    decide
  rw [toolPath, map_eq_error_iff, Host.executableName_eq_error_iff,
    Path.name_join_ofString_eq_empty_iff hbin, and_assoc]
  constructor
  · rintro ⟨hwindows, habs, hname, rfl⟩
    rw [Path.join, if_pos habs]
    exact ⟨hwindows, habs, hname, rfl⟩
  · rintro ⟨hwindows, habs, hname, rfl⟩
    rw [Path.join, if_pos habs]
    exact ⟨hwindows, habs, hname, rfl⟩

/-- The lookup of a tool, by whether the home directory has it. -/
lemma executable_result {found : Bool} (hcandidate : i.toolPath c m tool = .ok candidate)
    (hfile : m.isFile candidate = .ok found) :
    (i.executable c m tool).result =
      if found then .ok ⟨tool, candidate, .home⟩
      else if i.userSupplied then .error (.missingTool tool candidate)
      else
        match c.host.findInPath m tool with
        | some path => .ok ⟨tool, path, .path⟩
        | none => (c.host.executableName (.ofString tool)).map (⟨tool, ·, .unresolved⟩) := by
  unfold executable
  rw [Traced.ofExcept_bind_ok _ hcandidate, Traced.ofExcept_bind_ok _ hfile]
  cases found with
  | true => rfl
  | false =>
    cases hsupplied : i.userSupplied with
    | true => rfl
    | false =>
      simp only [Bool.false_eq_true, if_false]
      cases c.host.findInPath m tool with
      | some path => rfl
      | none => cases hname : c.host.executableName (.ofString tool) <;> simp <;> rfl

/-- The lookup of a tool whose path in the home directory is too long. -/
lemma executable_of_overlong (hcandidate : i.toolPath c m tool = .ok candidate)
    (hlong : m.Overlong candidate) :
    (i.executable c m tool).result = .error (.nameTooLong candidate.text) := by
  have hfile : m.isFile candidate = .error (.nameTooLong candidate.text) :=
    Machine.answer_eq_error_iff.2 ⟨hlong, rfl⟩
  unfold executable
  rw [Traced.ofExcept_bind_ok _ hcandidate, Traced.result_bind, Traced.result_ofExcept, hfile]
  rfl

/-- How a lookup can end, given the path of the tool in the home directory. -/
inductive Outcome (c : Context) (m : Machine) (i : Installation) (tool : String)
    (candidate : Path) : Except Failure Executable → Prop where
  | home :
    m.HoldsFile candidate →
    Outcome c m i tool candidate (.ok ⟨tool, candidate, .home⟩)
  | missing :
    ¬m.HoldsFile candidate →
    i.userSupplied = true →
    Outcome c m i tool candidate (.error (.missingTool tool candidate))
  | onPath {path : Path} :
    ¬m.HoldsFile candidate →
    i.userSupplied = false →
    c.host.findInPath m tool = some path →
    Outcome c m i tool candidate (.ok ⟨tool, path, .path⟩)
  | unresolved {path : Path} :
    ¬m.HoldsFile candidate →
    i.userSupplied = false →
    c.host.findInPath m tool = none →
    c.host.executableName (.ofString tool) = .ok path →
    Outcome c m i tool candidate (.ok ⟨tool, path, .unresolved⟩)

/-- How a lookup can break off: on Windows the tool has no name, as an absolute path or after it was
found nowhere; or its path in the home directory is too long. -/
inductive BreaksOff (c : Context) (m : Machine) (i : Installation) (tool : String) :
    Failure → Prop where
  | absolute :
    c.host.isWindows = true →
    (Path.ofString tool).isAbsolute = true →
    (Path.ofString tool).name = "" →
    BreaksOff c m i tool (.nameless (.ofString tool))
  | overlong {candidate : Path} :
    i.toolPath c m tool = .ok candidate →
    m.Overlong candidate →
    BreaksOff c m i tool (.nameTooLong candidate.text)
  | bare {candidate : Path} :
    i.toolPath c m tool = .ok candidate →
    ¬m.HoldsFile candidate →
    i.userSupplied = false →
    c.host.isWindows = true →
    (Path.ofString tool).name = "" →
    BreaksOff c m i tool (.nameless (.ofString tool))

/-- No lookup breaks off with a failure that is reported. -/
lemma BreaksOff.not_isReported (h : BreaksOff c m i tool e) : e.isReported = false := by
  cases h <;> rfl

/-- A lookup that did not find the tool in the home directory has an outcome, or breaks off because
the tool has no name. -/
lemma outcome_or_breaksOff_of_not_file (hcandidate : i.toolPath c m tool = .ok candidate)
    (hfile : m.isFile candidate = .ok false) (hmissing : ¬m.HoldsFile candidate) :
    Outcome c m i tool candidate (i.executable c m tool).result ∨
      ∃ e, (i.executable c m tool).result = .error e ∧ BreaksOff c m i tool e := by
  rw [executable_result hcandidate hfile]
  cases hsupplied : i.userSupplied with
  | true => exact .inl (.missing hmissing hsupplied)
  | false =>
    cases hpath : c.host.findInPath m tool with
    | some path => exact .inl (.onPath hmissing hsupplied hpath)
    | none =>
      cases hbare : c.host.executableName (.ofString tool) with
      | ok path => exact .inl (.unresolved hmissing hsupplied hpath hbare)
      | error e =>
        obtain ⟨hwindows, hname, rfl⟩ := Host.executableName_eq_error_iff.1 hbare
        exact .inr ⟨_, rfl, .bare hcandidate hmissing hsupplied hwindows hname⟩

/-- Every lookup has one of the outcomes or breaks off. -/
theorem outcome_or_breaksOff (c : Context) (m : Machine) (i : Installation) (tool : String) :
    (∃ candidate, i.toolPath c m tool = .ok candidate ∧ ¬m.Overlong candidate ∧
        Outcome c m i tool candidate (i.executable c m tool).result) ∨
      ∃ e, (i.executable c m tool).result = .error e ∧ BreaksOff c m i tool e := by
  cases hcandidate : i.toolPath c m tool with
  | error e =>
    have hresult : (i.executable c m tool).result = .error e := by
      unfold executable
      rw [Traced.result_bind, Traced.result_ofExcept, hcandidate]
      rfl
    obtain ⟨hwindows, habs, hname, rfl⟩ := toolPath_eq_error_iff.1 hcandidate
    exact .inr ⟨_, hresult, .absolute hwindows habs hname⟩
  | ok candidate =>
    have hquestion := Machine.isFile_eq_answer (m := m) candidate
    rcases Machine.answer_cases m Node.isFile candidate with
      ⟨hanswer, hholds⟩ | ⟨hanswer, hholds, hshort⟩ | ⟨hanswer, hlong⟩
    · have hresult := executable_result hcandidate (hquestion.trans hanswer)
      refine .inl ⟨candidate, rfl, hholds.not_overlong, ?_⟩
      rw [hresult]
      exact .home (Machine.holdsFile_iff.2 hholds)
    · have hmissing : ¬m.HoldsFile candidate := fun h => hholds (Machine.holdsFile_iff.1 h)
      rcases outcome_or_breaksOff_of_not_file hcandidate (hquestion.trans hanswer) hmissing with
        houtcome | hbreak
      · exact .inl ⟨candidate, rfl, hshort, houtcome⟩
      · exact .inr hbreak
    · exact .inr ⟨_, executable_of_overlong hcandidate hlong, .overlong hcandidate hlong⟩

/-! ## Lookups that have an answer -/

/-- An answer about a tool without a name, on Windows, is a file in the home directory. -/
lemma Outcome.holdsFile {found : Executable} (h : Outcome c m i tool candidate (.ok found))
    (hwindows : c.host.isWindows = true) (hname : (Path.ofString tool).name = "") :
    m.HoldsFile candidate := by
  cases h with
  | home hfile => exact hfile
  | onPath _ _ hpath =>
    obtain ⟨written, hfinds, -⟩ := Host.findInPath_eq_some_iff.1 hpath
    exact absurd hfinds (Host.not_finds_of_nameless hname)
  | unresolved _ _ _ hbare =>
    cases hbare.symm.trans (Host.executableName_eq_error_iff.2 ⟨hwindows, hname, rfl⟩)

/-- The path in the home directory can be asked for, and is a file where Windows has no name for the
tool. -/
def Answerable (c : Context) (m : Machine) (i : Installation) (tool : String) : Prop :=
  ∃ candidate, i.toolPath c m tool = .ok candidate ∧ ¬m.Overlong candidate ∧
    (c.host.isWindows = true → (Path.ofString tool).name = "" → m.HoldsFile candidate)

/-- A lookup that breaks off could not have had an answer. -/
lemma BreaksOff.not_answerable (h : BreaksOff c m i tool e) : ¬Answerable c m i tool := by
  rintro ⟨candidate, htool, hshort, hfile⟩
  cases h with
  | absolute hwindows habs hname =>
    cases htool.symm.trans (toolPath_eq_error_iff.2 ⟨hwindows, habs, hname, rfl⟩)
  | overlong hother hlong =>
    cases htool.symm.trans hother
    exact hshort hlong
  | bare hother hmissing _ hwindows hname =>
    cases htool.symm.trans hother
    exact hmissing (hfile hwindows hname)

/-- A lookup breaks off for a path that is too long or for a tool without a name. -/
lemma BreaksOff.cause (h : BreaksOff c m i tool e) :
    (∃ candidate, i.toolPath c m tool = .ok candidate ∧ m.Overlong candidate ∧
        e = .nameTooLong candidate.text) ∨
      c.host.isWindows = true ∧ (Path.ofString tool).name = "" ∧
        e = .nameless (.ofString tool) := by
  cases h with
  | absolute hwindows _ hname => exact .inr ⟨hwindows, hname, rfl⟩
  | overlong htool hlong => exact .inl ⟨_, htool, hlong, rfl⟩
  | bare _ _ _ hwindows hname => exact .inr ⟨hwindows, hname, rfl⟩

/-- Of a tool with a name only the path in the home directory can be a hindrance. -/
lemma answerable_iff_of_name (hname : (Path.ofString tool).name ≠ "") :
    Answerable c m i tool ↔
      ∃ candidate, i.toolPath c m tool = .ok candidate ∧ ¬m.Overlong candidate := by
  unfold Answerable
  simp [hname]

/-- The lookup of a tool with a name breaks off for a path that is too long. -/
lemma BreaksOff.tellsOverlong (h : BreaksOff c m i tool e)
    (hname : (Path.ofString tool).name ≠ "") : m.TellsOverlong e := by
  rcases h.cause with ⟨candidate, -, hlong, he⟩ | ⟨-, hnone, -⟩
  · exact ⟨candidate, hlong, he⟩
  · exact absurd hnone hname

/-- The lookup of a tool in an installation that nobody supplied has an answer if and only if it
could have one. -/
lemma exists_executable_iff_answerable (hreported : i.userSupplied = false) :
    (∃ found, (i.executable c m tool).result = .ok found) ↔ Answerable c m i tool := by
  rcases outcome_or_breaksOff c m i tool with
    ⟨candidate, htool, hshort, houtcome⟩ | ⟨e, hresult, hbreak⟩
  · cases hresult : (i.executable c m tool).result with
    | ok found =>
      rw [hresult] at houtcome
      exact ⟨fun _ => ⟨candidate, htool, hshort, houtcome.holdsFile⟩, fun _ => ⟨found, rfl⟩⟩
    | error e =>
      rw [hresult] at houtcome
      cases houtcome with
      | missing _ hsupplied => cases hreported.symm.trans hsupplied
  · constructor
    · rintro ⟨found, hfound⟩
      cases hresult.symm.trans hfound
    · intro hanswer
      exact absurd hanswer hbreak.not_answerable

/-- The lookup of a tool in an installation that nobody supplied fails only by breaking off. -/
lemma breaksOff_of_error (hreported : i.userSupplied = false)
    (h : (i.executable c m tool).result = .error e) : BreaksOff c m i tool e := by
  rcases outcome_or_breaksOff c m i tool with ⟨candidate, -, -, houtcome⟩ | ⟨other, hother, hbreak⟩
  · rw [h] at houtcome
    cases houtcome with
    | missing _ hsupplied => cases hreported.symm.trans hsupplied
  · cases h.symm.trans hother
    exact hbreak

end JavaHome.Installation
