import JavaHome.Proofs.FileTree.Below
import JavaHome.Proofs.Installation.Enclosing
import JavaHome.Proofs.Installation.Outcome
import JavaHome.Proofs.Installation.Supplied

/-!
# Directories that must hold `java`

A directory that is asserted to be a home is refused if it is blank or not there, found wanting if
no `java` is below it, and taken as it is otherwise. Both questions are about the text as somebody
wrote it, although a path that was read from it is looked up for the one and an absolute path for
the other (`forHome_result_iff`). Where the paths are short, the answer is left open only for a link
to a name that is too long, as a machine with such a link shows (`forHome_farLink`).
-/

namespace JavaHome

open FileTree (LeadsInto HoldsFileBelow IsShort HasLongTarget IsWorkingDirectory)

variable {c : Context} {m : Machine} {s : String} {p : Path}

/-- What the host calls the file of `java`. -/
def Host.javaName (h : Host) : String :=
  if h.isWindows then "java.exe" else "java"

lemma Host.executableName_java (h : Host) (p : Path) :
    h.executableName (p.child "java") = .ok (p.child h.javaName) := by
  have hsuffix : (p.child "java").suffix = "" := by
    rw [Path.suffix, Path.name_child]
    decide
  unfold executableName javaName
  rw [hsuffix]
  cases h.isWindows with
  | false => simp
  | true =>
    have hlower : Text.lower "" ≠ executableSuffix := by decide
    rw [if_pos ⟨rfl, hlower⟩, Path.name_child, if_neg (by decide), Path.withName_child]
    rfl

lemma Host.isName_javaName (h : Host) : IsName h.javaName := by
  unfold javaName
  split <;> constructor <;> decide

namespace Context

/-- The path of `java` below a directory that is asserted to be a home. -/
def javaBelow (c : Context) (s : String) : Path :=
  ((Path.ofString s).child "bin").child c.host.javaName

/-- The absolute path at which `java` must be. -/
def javaPath (c : Context) (m : Machine) (s : String) : Path :=
  (c.javaBelow s).absolute m.cwd

lemma toolPath_suppliedAt (c : Context) (m : Machine) (s : String) :
    (c.suppliedAt s).toolPath c m "java" = .ok (c.javaPath m s) := by
  have hjoin : ((Path.ofString s).child "bin").join (.ofString "java") =
      ((Path.ofString s).child "bin").child "java" := rfl
  rw [Installation.toolPath_eq_ok_iff]
  exact ⟨_, (congrArg _ hjoin).trans (Host.executableName_java ..), rfl⟩

/-- The paths that are looked up for a directory that is asserted to be a home. -/
inductive LooksUp (c : Context) (m : Machine) (s : String) : Path → Prop where
  | directory :
    Text.isBlankText s = false →
    LooksUp c m s (.ofString s)
  | java :
    Text.isBlankText s = false →
    m.HoldsDirectory (.ofString s) →
    LooksUp c m s (c.javaPath m s)

/-- How a directory that is asserted to be a home is judged, by what the text leads to. -/
inductive Judges (c : Context) (m : Machine) (s : String) :
    Except Failure Installation → Prop where
  | refused :
    Text.isBlankText s = true ∨
      (∀ here, ¬m.tree.LeadsInto m.cwd s here) ∧ ¬m.Overlong (.ofString s) →
    Judges c m s (.error (.invalidHome (some s)))
  | missing {here : Location} :
    Text.isBlankText s = false →
    m.tree.LeadsInto m.cwd s here →
    ¬m.tree.HoldsFileBelow m.cwd s ["bin", c.host.javaName] →
    ¬m.Overlong (c.javaPath m s) →
    Judges c m s (.error (.missingTool "java" (c.javaPath m s)))
  | accepted {here : Location} :
    Text.isBlankText s = false →
    m.tree.LeadsInto m.cwd s here →
    m.tree.HoldsFileBelow m.cwd s ["bin", c.host.javaName] →
    Judges c m s (.ok (c.suppliedAt s))
  | overlong {p : Path} :
    c.LooksUp m s p →
    m.Overlong p →
    Judges c m s (.error (.nameTooLong p.text))

/-! ## What the text leads to -/

lemma ne_empty_of_not_blank (h : Text.isBlankText s = false) : s ≠ "" := by
  rintro rfl
  cases h

/-- The path that is read from a short text is a directory if the text leads into one. -/
lemma holdsDirectory_iff (hne : s ≠ "") (hs : IsShort s) (htext : IsShort (Path.ofString s).text) :
    m.HoldsDirectory (.ofString s) ↔ ∃ here, m.tree.LeadsInto m.cwd s here := by
  have hlead : ∀ here, m.tree.LeadsInto m.cwd (Path.ofString s).text here ↔
      m.tree.LeadsInto m.cwd s here :=
    fun _ => FileTree.leadsInto_ofString_iff hne hs.whole htext.whole
  simp only [← hlead]
  constructor
  · rintro ⟨node, hstat, hdir⟩
    cases node with
    | directory entries =>
      obtain ⟨here, hlookup⟩ := FileTree.stat_eq_ok_iff.1 hstat
      exact ⟨here, entries, hlookup⟩
    | file bytes executable => cases hdir
    | link target => cases hdir
  · rintro ⟨here, entries, hlookup⟩
    exact ⟨_, FileTree.stat_eq_ok_of_lookup hlookup, rfl⟩

lemma proper_javaBelow (c : Context) (s : String) : (c.javaBelow s).Proper :=
  ((Path.proper_ofString s).child (by decide) (by decide)).child
    c.host.isName_javaName.step c.host.isName_javaName.noSlash

lemma noNull_javaBelow (c : Context) (h : '\x00' ∉ s.toList) :
    '\x00' ∉ (c.javaBelow s).text.toList := by
  have hname : '\x00' ∉ c.host.javaName.toList := by
    unfold Host.javaName
    split <;> decide
  have hparts : (c.javaBelow s).parts = (Path.ofString s).parts ++ ["bin", c.host.javaName] := by
    simp [javaBelow, Path.child]
  intro hmem
  rcases Path.mem_text hmem with hc | hc | ⟨part, hpart, hc⟩
  · cases hc
  · cases hc
  · rw [hparts] at hpart
    simp only [List.mem_append, List.mem_cons, List.not_mem_nil, or_false] at hpart
    rcases hpart with hpart | rfl | rfl
    · exact h (Text.mem_of_mem_fields (List.mem_filter.1 hpart).1 hc)
    · exact absurd hc (by decide)
    · exact hname hc

/-- The file of `java` is at its absolute path if it is below what the text leads to. -/
lemma holdsFile_javaPath_iff (hcwd : m.tree.IsWorkingDirectory m.cwd) (hnull : '\x00' ∉ s.toList)
    (hjava : IsShort (c.javaPath m s).text) :
    m.HoldsFile (c.javaPath m s) ↔ m.tree.HoldsFileBelow m.cwd s ["bin", c.host.javaName] := by
  have hproper := proper_javaBelow c s
  have husable : FileTree.Usable (c.javaBelow s).text :=
    ⟨noNull_javaBelow c hnull,
      Nat.lt_of_le_of_lt (FileTree.byteLength_text_le_absolute m.cwd _) hjava.whole⟩
  unfold Machine.HoldsFile
  rw [javaPath, FileTree.stat_absolute hcwd hproper hjava.whole]
  exact FileTree.stat_eq_file_iff_below hcwd.isDirectory hproper rfl
    (by simp [javaBelow, Path.child]) husable

/-! ## Judgements -/

/-- Every directory that is asserted to be a home is judged by what its text leads to. -/
lemma judges (hcwd : m.tree.IsWorkingDirectory m.cwd) (hs : IsShort s)
    (hshort : ∀ p, c.LooksUp m s p → IsShort p.text) :
    c.Judges m s (c.forHome m (some s)).result := by
  have hresult : (c.forHome m (some s)).result = c.supplied m s >>= fun i =>
      (i.executable c m "java").result >>= fun _ => .ok i := by
    simp [forHome]
  rw [hresult]
  have hsupplies := c.supplies m s
  generalize c.supplied m s = answer at hsupplies
  cases hsupplies with
  | refused hwhy =>
    rcases hwhy with hblank | ⟨hnone, hdir⟩
    · exact .refused (.inl hblank)
    · cases hblank : Text.isBlankText s with
      | true => exact .refused (.inl hblank)
      | false =>
        refine .refused (.inr ⟨fun here hlead => ?_, hnone⟩)
        exact hdir ((holdsDirectory_iff (ne_empty_of_not_blank hblank) hs
          (hshort _ (.directory hblank))).2 ⟨here, hlead⟩)
  | overlong hblank hlong => exact .overlong (.directory hblank) hlong
  | accepted hblank hdir =>
    have hne := ne_empty_of_not_blank hblank
    obtain ⟨here, hlead⟩ :=
      (holdsDirectory_iff hne hs (hshort _ (.directory hblank))).1 hdir
    have hnull : '\x00' ∉ s.toList := (FileTree.leadsInto_iff.1 hlead).1.noNull
    have hfile := holdsFile_javaPath_iff hcwd hnull (hshort _ (.java hblank hdir))
    have htool := toolPath_suppliedAt c m s
    change c.Judges m s (((c.suppliedAt s).executable c m "java").result >>= _)
    rcases Machine.answer_cases m Node.isFile (c.javaPath m s) with
      ⟨hanswer, hholds⟩ | ⟨hanswer, hholds, hjava⟩ | ⟨-, hlong⟩
    · rw [Installation.executable_result htool hanswer]
      exact .accepted hblank hlead (hfile.1 (Machine.holdsFile_iff.2 hholds))
    · rw [Installation.executable_result htool hanswer]
      refine .missing hblank hlead (fun hbelow => ?_) hjava
      exact hholds (Machine.holdsFile_iff.1 (hfile.2 hbelow))
    · rw [Installation.executable_of_overlong htool hlong]
      exact .overlong (.java hblank hdir) hlong

/-- A path that is looked up and too long, with what the text leads to then: the path of the
directory leads nowhere, and the path of `java` is that of a directory without it. -/
inductive RunsOver (c : Context) (m : Machine) (s : String) : Path → Prop where
  | directory :
    Text.isBlankText s = false →
    (∀ here, ¬m.tree.LeadsInto m.cwd s here) →
    m.Overlong (.ofString s) →
    RunsOver c m s (.ofString s)
  | java {here : Location} :
    Text.isBlankText s = false →
    m.tree.LeadsInto m.cwd s here →
    ¬m.tree.HoldsFileBelow m.cwd s ["bin", c.host.javaName] →
    m.Overlong (c.javaPath m s) →
    RunsOver c m s (c.javaPath m s)

/-- A path that is looked up and too long answers its question. -/
lemma LooksUp.runsOver (hcwd : m.tree.IsWorkingDirectory m.cwd) (hs : IsShort s)
    (hshort : ∀ p, c.LooksUp m s p → IsShort p.text) (h : c.LooksUp m s p) (hlong : m.Overlong p) :
    c.RunsOver m s p := by
  cases h with
  | directory hblank =>
    refine .directory hblank (fun here hlead => ?_) hlong
    have hdir := (holdsDirectory_iff (ne_empty_of_not_blank hblank) hs
      (hshort _ (.directory hblank))).2 ⟨here, hlead⟩
    exact hdir.not_overlong hlong
  | java hblank hdir =>
    obtain ⟨here, hlead⟩ := (holdsDirectory_iff (ne_empty_of_not_blank hblank) hs
      (hshort _ (.directory hblank))).1 hdir
    refine .java hblank hlead (fun hbelow => ?_) hlong
    have hfile := (holdsFile_javaPath_iff hcwd (FileTree.leadsInto_iff.1 hlead).1.noNull
      (hshort _ (.java hblank hdir))).2 hbelow
    exact (Machine.holdsFile_iff.1 hfile).not_overlong hlong

namespace RunsOver

variable {here : Location}

/-- In a directory that is there, only the path of `java` can be too long, and no file is there. -/
lemma of_leadsInto (h : c.RunsOver m s p) (hlead : m.tree.LeadsInto m.cwd s here) :
    m.Overlong (c.javaPath m s) ∧ ¬m.tree.HoldsFileBelow m.cwd s ["bin", c.host.javaName] := by
  cases h with
  | directory _ hnone => exact absurd hlead (hnone here)
  | java _ _ hbelow hlong => exact ⟨hlong, hbelow⟩

/-- No path is looked up and too long for a directory that is refused. -/
lemma not_refused (h : c.RunsOver m s p) :
    ¬(Text.isBlankText s = true ∨
      (∀ here, ¬m.tree.LeadsInto m.cwd s here) ∧ ¬m.Overlong (.ofString s)) := by
  rintro (hblank | ⟨hnone, hshort⟩)
  · cases h with
    | directory hfull => cases hblank.symm.trans hfull
    | java hfull => cases hblank.symm.trans hfull
  · cases h with
    | directory _ _ hlong => exact hshort hlong
    | java _ hlead => exact hnone _ hlead

/-- Only one path is looked up and too long. -/
lemma unique {q : Path} (h : c.RunsOver m s p) (h' : c.RunsOver m s q) : p = q := by
  cases h with
  | directory _ hnone =>
    cases h' with
    | directory => rfl
    | java _ hlead => exact absurd hlead (hnone _)
  | java _ hlead =>
    cases h' with
    | directory _ hnone => exact absurd hlead (hnone _)
    | java => rfl

end RunsOver

/-- A directory that is there is not refused. -/
lemma not_leadsInto_of_refused {here : Location}
    (h : Text.isBlankText s = true ∨
      (∀ here, ¬m.tree.LeadsInto m.cwd s here) ∧ ¬m.Overlong (.ofString s))
    (hfull : Text.isBlankText s = false) : ¬m.tree.LeadsInto m.cwd s here := by
  rcases h with hblank | ⟨hnone, -⟩
  · cases hblank.symm.trans hfull
  · exact hnone here

/-- A directory is judged in one way only. -/
lemma Judges.unique {r1 r2 : Except Failure Installation}
    (hcwd : m.tree.IsWorkingDirectory m.cwd) (hs : IsShort s)
    (hshort : ∀ p, c.LooksUp m s p → IsShort p.text)
    (h1 : c.Judges m s r1) (h2 : c.Judges m s r2) : r1 = r2 := by
  have hover {p : Path} (hlooks : c.LooksUp m s p) (hlong : m.Overlong p) : c.RunsOver m s p :=
    hlooks.runsOver hcwd hs hshort hlong
  cases h1 with
  | refused hwhy =>
    cases h2 with
    | refused => rfl
    | missing hfull hlead => exact absurd hlead (not_leadsInto_of_refused hwhy hfull)
    | accepted hfull hlead => exact absurd hlead (not_leadsInto_of_refused hwhy hfull)
    | overlong hlooks hlong => exact absurd hwhy (hover hlooks hlong).not_refused
  | missing hfull hlead hbelow hjava =>
    cases h2 with
    | refused hwhy => exact absurd hlead (not_leadsInto_of_refused hwhy hfull)
    | missing => rfl
    | accepted _ _ hholds => exact absurd hholds hbelow
    | overlong hlooks hlong => exact absurd ((hover hlooks hlong).of_leadsInto hlead).1 hjava
  | accepted hfull hlead hholds =>
    cases h2 with
    | refused hwhy => exact absurd hlead (not_leadsInto_of_refused hwhy hfull)
    | missing _ _ hbelow => exact absurd hholds hbelow
    | accepted => rfl
    | overlong hlooks hlong => exact absurd hholds ((hover hlooks hlong).of_leadsInto hlead).2
  | overlong hlooks hlong =>
    have hpath := hover hlooks hlong
    cases h2 with
    | refused hwhy => exact absurd hwhy hpath.not_refused
    | missing _ hlead _ hjava => exact absurd (hpath.of_leadsInto hlead).1 hjava
    | accepted _ hlead hholds => exact absurd hholds (hpath.of_leadsInto hlead).2
    | overlong hlooks' hlong' => rw [hpath.unique (hover hlooks' hlong')]

lemma forHome_result_iff_judges {result : Except Failure Installation}
    (hcwd : m.tree.IsWorkingDirectory m.cwd) (hs : IsShort s)
    (hshort : ∀ p, c.LooksUp m s p → IsShort p.text) :
    (c.forHome m (some s)).result = result ↔ c.Judges m s result := by
  have hjudges := judges hcwd hs hshort
  constructor
  · rintro rfl
    exact hjudges
  · exact hjudges.unique hcwd hs hshort

/-- Where `java` is below a home, the lookup finds it there. -/
lemma executable_java (hcwd : m.tree.IsWorkingDirectory m.cwd) (hnull : '\x00' ∉ s.toList)
    (hjava : IsShort (c.javaPath m s).text)
    (hbelow : m.tree.HoldsFileBelow m.cwd s ["bin", c.host.javaName]) :
    ((c.suppliedAt s).executable c m "java").result = .ok ⟨"java", c.javaPath m s, .home⟩ := by
  have hfile := Machine.holdsFile_iff.1 ((holdsFile_javaPath_iff hcwd hnull hjava).2 hbelow)
  rw [Installation.executable_result (toolPath_suppliedAt c m s)
    (Machine.answer_eq_true_iff.2 hfile)]
  rfl

/-- A directory is accepted as a home if and only if its text leads into a directory with `java`
below it. It is refused as it was written, or found wanting, if and only if the one or the other is
not so; nothing else happens unless a path that is looked up is too long, for the sake of a link. -/
theorem forHome_result_iff (hcwd : m.tree.IsWorkingDirectory m.cwd) (hs : IsShort s)
    (hshort : ∀ p, c.LooksUp m s p → IsShort p.text) :
    ((c.forHome m (some s)).result = .error (.invalidHome (some s)) ↔
      Text.isBlankText s = true ∨
        (∀ here, ¬m.tree.LeadsInto m.cwd s here) ∧ ¬m.Overlong (.ofString s)) ∧
    ((c.forHome m (some s)).result = .error (.missingTool "java" (c.javaPath m s)) ↔
      Text.isBlankText s = false ∧ (∃ here, m.tree.LeadsInto m.cwd s here) ∧
        ¬m.tree.HoldsFileBelow m.cwd s ["bin", c.host.javaName] ∧ ¬m.Overlong (c.javaPath m s)) ∧
    ((∃ i, (c.forHome m (some s)).result = .ok i) ↔
      Text.isBlankText s = false ∧ (∃ here, m.tree.LeadsInto m.cwd s here) ∧
        m.tree.HoldsFileBelow m.cwd s ["bin", c.host.javaName]) ∧
    (∀ i, (c.forHome m (some s)).result = .ok i →
      i = c.suppliedAt s ∧
        (∀ here, m.tree.LeadsInto m.cwd i.base.text here ↔ m.tree.LeadsInto m.cwd s here) ∧
        (i.executable c m "java").result = .ok ⟨"java", c.javaPath m s, .home⟩) ∧
    (∀ e, (c.forHome m (some s)).result = .error e →
      e = .invalidHome (some s) ∨ e = .missingTool "java" (c.javaPath m s) ∨
        ∃ p, c.LooksUp m s p ∧ m.Overlong p ∧ e = .nameTooLong p.text) ∧
    (∀ p, c.LooksUp m s p → m.Overlong p →
      (c.forHome m (some s)).result = .error (.nameTooLong p.text) ∧ m.tree.HasLongTarget) := by
  simp only [forHome_result_iff_judges hcwd hs hshort]
  refine ⟨⟨?_, .refused⟩, ⟨?_, ?_⟩, ⟨?_, ?_⟩, ?_, ?_, ?_⟩
  · rintro (hwhy | _)
    exact hwhy
  · rintro (_ | ⟨hblank, hlead, hbelow, hjava⟩)
    exact ⟨hblank, ⟨_, hlead⟩, hbelow, hjava⟩
  · rintro ⟨hblank, ⟨here, hlead⟩, hbelow, hjava⟩
    exact .missing hblank hlead hbelow hjava
  · rintro ⟨i, _ | _ | ⟨hblank, hlead, hbelow⟩⟩
    exact ⟨hblank, ⟨_, hlead⟩, hbelow⟩
  · rintro ⟨hblank, ⟨here, hlead⟩, hbelow⟩
    exact ⟨_, .accepted hblank hlead hbelow⟩
  · rintro i (_ | _ | @⟨here, hblank, hlead, hbelow⟩)
    have hne := ne_empty_of_not_blank hblank
    have htext := hshort _ (.directory hblank)
    have hdir := (holdsDirectory_iff hne hs htext).2 ⟨here, hlead⟩
    exact ⟨rfl, fun _ => FileTree.leadsInto_ofString_iff hne hs.whole htext.whole,
      executable_java hcwd (FileTree.leadsInto_iff.1 hlead).1.noNull
        (hshort _ (.java hblank hdir)) hbelow⟩
  · rintro e (_ | _ | _ | ⟨hlooks, hlong⟩)
    · exact .inl rfl
    · exact .inr (.inl rfl)
    · exact .inr (.inr ⟨_, hlooks, hlong, rfl⟩)
  · intro p hlooks hlong
    exact ⟨.overlong hlooks hlong, hlong.hasLongTarget (hshort p hlooks)⟩

/-- A machine on which a link leads to a kit beside others. -/
def detouredKit : Machine where
  tree := ⟨[("work", .directory [("jdk", .link "../opt/kit")]),
    ("opt", .directory [("kit", .directory []), ("jdk", .directory [("bin", .directory
      [("java.exe", .file [] false)])])])]⟩
  cwd := ["work"]
  environment := []
  systemName := "Windows"

lemma detouredKit_isWorkingDirectory : detouredKit.tree.IsWorkingDirectory detouredKit.cwd where
  named := by decide
  noNull := by decide
  isDirectory := ⟨_, rfl⟩

theorem forHome_result_iff_detouredKit :
    ((systemContext .windows).forHome detouredKit (some ".//jdk/../jdk/")).result =
        .ok ((systemContext .windows).suppliedAt ".//jdk/../jdk/") ∧
      (((systemContext .windows).suppliedAt ".//jdk/../jdk/").executable (systemContext .windows)
        detouredKit "java").result =
        .ok ⟨"java", .ofLocation ["work", "jdk", "..", "jdk", "bin", "java.exe"], .home⟩ ∧
      detouredKit.tree.LeadsInto detouredKit.cwd "jdk/../jdk" ["opt", "jdk"] := by
  have hs : IsShort ".//jdk/../jdk/" := ⟨by decide, by decide⟩
  have hdirectory : IsShort (Path.ofString ".//jdk/../jdk/").text :=
    ⟨by decide, by decide⟩
  have hjava : IsShort ((systemContext .windows).javaPath detouredKit ".//jdk/../jdk/").text :=
    ⟨by decide, by decide⟩
  have hshort : ∀ p, (systemContext .windows).LooksUp detouredKit ".//jdk/../jdk/" p →
      IsShort p.text := by
    rintro p (_ | _)
    · exact hdirectory
    · exact hjava
  have hlead : detouredKit.tree.LeadsInto detouredKit.cwd ".//jdk/../jdk/" ["opt", "jdk"] :=
    ⟨_, FileTree.lookup_of_location (by decide +kernel) rfl⟩
  have hbelow : detouredKit.tree.HoldsFileBelow detouredKit.cwd ".//jdk/../jdk/"
      ["bin", (systemContext .windows).host.javaName] :=
    (holdsFile_javaPath_iff detouredKit_isWorkingDirectory (by decide) hjava).1
      (Machine.holdsFile_iff.2 (Machine.answer_eq_true_iff.1 (eq_ok_of_toOption
        (by decide +kernel))))
  obtain ⟨-, -, haccepts, honly, -⟩ :=
    forHome_result_iff detouredKit_isWorkingDirectory hs hshort
  obtain ⟨i, hresult⟩ := haccepts.2 ⟨by decide, ⟨_, hlead⟩, hbelow⟩
  obtain ⟨rfl, hsame, hfound⟩ := honly i hresult
  exact ⟨hresult, hfound, (hsame _).2 hlead⟩

/-- A machine with a link to a name that is too long. -/
def farLink : Machine where
  tree := ⟨[("link", .link Machine.longName)]⟩
  cwd := []
  environment := []
  systemName := "Linux"

theorem forHome_farLink :
    farLink.tree.IsWorkingDirectory farLink.cwd ∧ IsShort "/link" ∧
      (∀ p, (systemContext .linux).LooksUp farLink "/link" p → IsShort p.text) ∧
      Text.isBlankText "/link" = false ∧
      (∀ here, ¬farLink.tree.LeadsInto farLink.cwd "/link" here) ∧
      ((systemContext .linux).forHome farLink (some "/link")).result =
        .error (.nameTooLong "/link") := by
  have hcwd : farLink.tree.IsWorkingDirectory farLink.cwd :=
    ⟨Named.nil, nofun, FileTree.isDirectoryAt_root _⟩
  have hs : IsShort "/link" := ⟨by decide, by decide⟩
  have htext : (Path.ofString "/link").text = "/link" := by decide
  have hfields : Text.fields '/' Machine.longName = [Machine.longName] := by
    have hslash : '/' ∉ Machine.longName.toList := Machine.notMem_longName (by decide)
    rw [Text.fields, Text.fieldsOf_of_notMem hslash, List.map_singleton, String.ofList_toList]
  have hlink : farLink.tree.Holds [] "link" (.link Machine.longName) :=
    ⟨⟨by decide, by decide, by decide, by decide⟩, _, rfl, rfl⟩
  have hover : farLink.tree.Overruns [] (Text.fields '/' "/link") (0 + 1 + 0) := by
    refine .beyond (.stay (FileTree.isDirectoryAt_root _) rfl (.nil rfl)) (.within hlink ?_)
    rw [hfields]
    exact .long (FileTree.isDirectoryAt_startOf (FileTree.isDirectoryAt_root _) _)
      Machine.nameLimit_lt_longName
  have hlong : farLink.tree.Overlong farLink.cwd "/link" :=
    ⟨by decide, .inr ⟨_, by decide, hover⟩⟩
  have hdir : farLink.Overlong (.ofString "/link") := by
    unfold Machine.Overlong
    rwa [htext]
  have hshort : ∀ p, (systemContext .linux).LooksUp farLink "/link" p → IsShort p.text := by
    rintro p (_ | ⟨-, hholds⟩)
    · rwa [htext]
    · exact absurd hdir hholds.not_overlong
  refine ⟨hcwd, hs, hshort, by decide, ?_, ?_⟩
  · rintro here ⟨entries, hlookup⟩
    cases hlookup.symm.trans (FileTree.lookup_eq_nameTooLong_iff.2 hlong)
  · rw [forHome_result_iff_judges hcwd hs hshort, ← htext]
    exact .overlong (.directory (by decide)) hdir

end Context
end JavaHome
