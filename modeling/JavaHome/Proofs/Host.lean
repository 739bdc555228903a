import Mathlib.Tactic.Lemma
import JavaHome.Host
import JavaHome.Proofs.FileTree.Lookup
import JavaHome.Proofs.Path.Below

/-!
# Commands on the search path

A text runs at a place if it leads there and what stands there can be run. The search finds the
first spelling of a command that runs somewhere (`findCommand_eq_some_iff`), and nothing if and only
if none does (`findCommand_eq_none_iff`). The absolute path that it answers with runs at the same
place as the spelling that was found (`runsAt_absolute`).
-/

namespace JavaHome

variable {m : Machine} {h : Host} {command path written : String}

/-- A text, as written, leads to something that can be run and is no directory. -/
structure Machine.RunsAt (m : Machine) (path : String) (place : Place) : Prop where
  leads : m.tree.lookup m.cwd true path = .ok place
  isExecutable : place.node.isExecutable = true
  notDirectory : place.node.isDirectory = false

/-- Something stands at a path, and it is a regular file. -/
def Machine.HoldsFile (m : Machine) (p : Path) : Prop :=
  ∃ bytes executable, m.tree.stat m.cwd p.text = .ok (.file bytes executable)

/-- No file is where a way up leads. -/
lemma Machine.HoldsFile.ne_up {p : Path} {name : String} (h : m.HoldsFile (p.child name)) :
    name ≠ ".." := by
  rintro rfl
  obtain ⟨bytes, executable, hstat⟩ := h
  obtain ⟨here, hlookup⟩ := FileTree.stat_eq_ok_iff.1 hstat
  have hslash : '/' ∉ "..".toList := by decide
  have hlast := Path.getLast?_fields_text_child p hslash
  cases FileTree.isDirectory_of_getLast? hlast (fun h => h.notUp rfl) hlookup

lemma Machine.isCommand_iff : m.isCommand path = true ↔ ∃ place, m.RunsAt path place := by
  unfold Machine.isCommand FileTree.stat
  cases hlookup : m.tree.lookup m.cwd true path with
  | error e =>
    constructor
    · intro hfalse
      cases hfalse
    · rintro ⟨place, hruns⟩
      cases hlookup.symm.trans hruns.leads
  | ok place =>
    simp only [Except.map, Bool.and_eq_true, Bool.not_eq_true']
    constructor
    · rintro ⟨hexec, hdir⟩
      exact ⟨place, hlookup, hexec, hdir⟩
    · rintro ⟨other, hruns⟩
      cases hlookup.symm.trans hruns.leads
      exact ⟨hruns.isExecutable, hruns.notDirectory⟩

namespace Host

/-- How the search comes to a spelling of a command: a command with a slash in it is its own
spelling; for others it is that in the first entry of the search path where the command runs. -/
inductive Finds (h : Host) (m : Machine) (command : String) : String → Prop where
  | asWritten {place : Place} :
    '/' ∈ command.toList →
    m.RunsAt command place →
    Finds h m command command
  | inEntry {before after : List String} {entry : String} {place : Place} :
    '/' ∉ command.toList →
    h.searchEntries m = before ++ entry :: after →
    (∀ other ∈ before, ∀ elsewhere, ¬m.RunsAt (commandIn other command) elsewhere) →
    m.RunsAt (commandIn entry command) place →
    Finds h m command (commandIn entry command)

/-- No spelling that the search tries runs anywhere. -/
def FindsNowhere (h : Host) (m : Machine) (command : String) : Prop :=
  if '/' ∈ command.toList then ∀ place, ¬m.RunsAt command place
  else ∀ entry ∈ h.searchEntries m, ∀ place, ¬m.RunsAt (commandIn entry command) place

/-- What is found runs. -/
lemma Finds.exists_place (hfind : h.Finds m command written) :
    ∃ place, m.RunsAt written place := by
  cases hfind with
  | asWritten _ hruns => exact ⟨_, hruns⟩
  | inEntry _ _ _ hruns => exact ⟨_, hruns⟩

lemma not_isCommand_iff : m.isCommand path = false ↔ ∀ place, ¬m.RunsAt path place := by
  rw [← Bool.not_eq_true, Machine.isCommand_iff, not_exists]

/-- Passing over entries that were tried without success changes nothing. -/
lemma findAmong_eq_find? {tried entries : List String}
    (htried : ∀ entry ∈ tried, m.isCommand (commandIn entry command) = false) :
    findAmong m command tried entries =
      (entries.map (commandIn · command)).find? m.isCommand := by
  -- What carries the induction is that all entries that were tried have failed.
  induction entries generalizing tried with
  | nil => rfl
  | cons entry rest ih =>
    rw [findAmong, List.map_cons]
    split
    · rename_i hmem
      rw [ih htried, List.find?_cons_of_neg (by simp [htried entry hmem])]
    · split
      · rename_i hcommand
        rw [List.find?_cons_of_pos hcommand]
      · rename_i hcommand
        rw [List.find?_cons_of_neg hcommand]
        apply ih
        rw [List.forall_mem_cons]
        exact ⟨by simpa using hcommand, htried⟩

/-- A command without a slash is found in the first entry of the search path in which it runs. -/
lemma findCommand_eq (h : Host) (m : Machine) (command : String) :
    h.findCommand m command =
      if '/' ∈ command.toList then if m.isCommand command then some command else none
      else ((h.searchEntries m).map (commandIn · command)).find? m.isCommand := by
  rw [findCommand, findAmong_eq_find? fun _ hmem => absurd hmem List.not_mem_nil]

/-- The search answers with the first spelling that runs. -/
theorem findCommand_eq_some_iff : h.findCommand m command = some written ↔
    h.Finds m command written := by
  rw [findCommand_eq]
  by_cases hslash : '/' ∈ command.toList
  · rw [if_pos hslash]
    constructor
    · intro hfound
      split at hfound
      · rename_i hcommand
        cases hfound
        obtain ⟨place, hruns⟩ := Machine.isCommand_iff.1 hcommand
        exact .asWritten hslash hruns
      · cases hfound
    · intro hfind
      cases hfind with
      | asWritten _ hruns => rw [if_pos (Machine.isCommand_iff.2 ⟨_, hruns⟩)]
      | inEntry hnone => exact absurd hslash hnone
  · rw [if_neg hslash, List.find?_map, Option.map_eq_some_iff]
    constructor
    · rintro ⟨entry, hfound, rfl⟩
      obtain ⟨hcommand, before, after, hentries, hbefore⟩ := List.find?_eq_some_iff_append.1 hfound
      obtain ⟨place, hruns⟩ := Machine.isCommand_iff.1 hcommand
      refine .inEntry hslash hentries (fun other hmem => not_isCommand_iff.1 ?_) hruns
      simpa using hbefore other hmem
    · intro hfind
      cases hfind with
      | asWritten hslash2 => exact absurd hslash2 hslash
      | @inEntry before after entry place _ hentries hbefore hruns =>
        refine ⟨entry, List.find?_eq_some_iff_append.2 ⟨?_, before, after, hentries, ?_⟩, rfl⟩
        · exact Machine.isCommand_iff.2 ⟨place, hruns⟩
        · intro other hmem
          simpa using not_isCommand_iff.2 (hbefore other hmem)

/-- The search answers nothing if and only if no spelling that it tries runs. -/
theorem findCommand_eq_none_iff : h.findCommand m command = none ↔ h.FindsNowhere m command := by
  rw [findCommand_eq, FindsNowhere]
  split
  · cases e : m.isCommand command with
    | true => simpa using Machine.isCommand_iff.1 e
    | false => simpa using not_isCommand_iff.1 e
  · rw [List.find?_map, Option.map_eq_none_iff, List.find?_eq_none]
    constructor
    · intro hnone entry hmem
      exact not_isCommand_iff.1 (by simpa using hnone entry hmem)
    · intro hnone entry hmem
      simpa using not_isCommand_iff.2 (hnone entry hmem)

/-- The path that is found on the search path is the absolute form of the spelling found. -/
lemma findInPath_eq_some_iff {p : Path} : h.findInPath m command = some p ↔
    ∃ written, h.Finds m command written ∧ (Path.ofString written).absolute m.cwd = p := by
  unfold findInPath
  simp only [Option.map_eq_some_iff, findCommand_eq_some_iff]

/-- No path is found if and only if the command runs nowhere. -/
lemma findInPath_eq_none_iff : h.findInPath m command = none ↔ h.FindsNowhere m command := by
  unfold findInPath
  rw [Option.map_eq_none_iff, findCommand_eq_none_iff]

/-- A text whose last field is no step runs nowhere: what it leads to is a directory. -/
lemma not_runsAt_of_getLast? {last : String} {place : Place}
    (hlast : (Text.fields '/' path).getLast? = some last) (hstep : Path.isStep last = false) :
    ¬m.RunsAt path place := by
  intro hruns
  have hname : ¬IsName last := fun h => Bool.false_ne_true (hstep.symm.trans h.step)
  have hdir := FileTree.isDirectory_of_getLast? hlast hname hruns.leads
  cases hdir.symm.trans hruns.notDirectory

/-- A text that comes from an entry of the search path ends in the command. -/
lemma getLast?_fields_commandIn (entry : String) (hslash : '/' ∉ command.toList) :
    (Text.fields '/' (commandIn entry command)).getLast? = some command := by
  unfold commandIn
  split
  · simp [Text.fields, Text.fieldsOf_of_notMem hslash]
  · split
    · rename_i hend
      obtain ⟨front, hfront⟩ := List.getLast?_eq_some_iff.1 hend
      have hentry : entry = String.ofList front ++ String.singleton '/' :=
        String.toList_injective (by simp [hfront])
      rw [hentry]
      exact Text.getLast?_fields_append _ hslash
    · exact Text.getLast?_fields_append entry hslash

/-- A command without a name is not found. -/
lemma not_finds_of_nameless (hname : (Path.ofString command).name = "") :
    ¬h.Finds m command written := by
  have hsteps := Path.name_ofString_eq_empty_iff.1 hname
  intro hfind
  cases hfind with
  | asWritten _ hruns =>
    cases hlast : (Text.fields '/' command).getLast? with
    | none =>
      have hnil := List.getLast?_eq_none_iff.1 hlast
      exact Text.fieldsOf_ne_nil '/' command.toList (List.map_eq_nil_iff.1 hnil)
    | some last =>
      exact not_runsAt_of_getLast? hlast (hsteps last (List.mem_of_getLast? hlast)) hruns
  | inEntry hslash _ _ hruns =>
    have hcommand : command ∈ Text.fields '/' command := by
      simp [Text.fields, Text.fieldsOf_of_notMem hslash]
    exact not_runsAt_of_getLast? (getLast?_fields_commandIn _ hslash) (hsteps command hcommand)
      hruns

/-- Off Windows executables go by the names that they have. -/
lemma executableName_of_not_isWindows {p : Path} (hwindows : h.isWindows = false) :
    h.executableName p = .ok p := by
  rw [executableName, hwindows]
  rfl

/-- A name of an executable is replaced by another name in the same directory. -/
lemma exists_executableName_child (h : Host) (p : Path) {last : String} (hne : last ≠ "") :
    ∃ named, h.executableName (p.child last) = .ok (p.child named) := by
  unfold executableName
  rw [Path.name_child, if_neg hne, Path.withName_child]
  split
  · exact ⟨_, rfl⟩
  · exact ⟨_, rfl⟩

/-- A path cannot be named as an executable if and only if the host is Windows and the path has no
name. -/
lemma executableName_eq_error_iff {p : Path} {e : Failure} :
    h.executableName p = .error e ↔ h.isWindows = true ∧ p.name = "" ∧ e = .nameless p := by
  have hsuffix : p.name = "" → Text.lower p.suffix ≠ executableSuffix := by
    intro hname
    rw [Path.suffix, hname]
    decide
  unfold executableName
  by_cases hname : p.name = ""
  · cases hwindows : h.isWindows with
    | false => simp
    | true => simp [hname, hsuffix hname, eq_comm]
  · simp only [hname, if_false, false_and, and_false, iff_false]
    split <;> exact nofun

/-- A spelling and the absolute path that is read from it run at the same place. -/
lemma runsAt_absolute {place : Place} (hcwd : m.tree.IsWorkingDirectory m.cwd)
    (hruns : m.RunsAt written place)
    (hshort : Text.byteLength ((Path.ofString written).absolute m.cwd).text < FileTree.pathLimit) :
    m.RunsAt ((Path.ofString written).absolute m.cwd).text place where
  leads := FileTree.lookup_absolute hcwd hruns.leads hshort
  isExecutable := hruns.isExecutable
  notDirectory := hruns.notDirectory

end Host

/-- An absolute form is absolute. -/
lemma Path.isAbsolute_absolute (cwd : List String) (p : Path) :
    (p.absolute cwd).isAbsolute = true := by
  unfold Path.absolute Path.join
  split
  · assumption
  · rfl

end JavaHome
