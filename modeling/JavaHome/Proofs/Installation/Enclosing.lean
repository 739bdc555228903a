import Mathlib.Tactic.Lemma
import JavaHome.Proofs.Installation.Home

/-!
# Homes around a run-time environment

A base named `jre` may give way to the directory around it, or to a kit beside that. The home that
is found stays where it is (`findHome_findHome`), unless it is itself a run-time environment in one.
A base without an archive gives way whenever the directory around it has a `java` executable, save
that Windows is asked for `java` without the suffix of its executables (`givesWay_iff_of_hasJava`).
-/

namespace JavaHome.Context

variable {c : Context} {m : Machine} {base home p : Path}

/-! ## The home of a home -/

/-- A directory that has a development archive is its own home. -/
lemma findHome_of_archive (h : m.pathExists (archiveOf base) = .ok true) :
    (c.findHome m base).result = .ok base := by
  rw [findHome_eq_firstExisting, evidence, kits, List.map_cons, List.cons_append,
    Machine.firstExisting_cons_of_exists h]
  simp [Except.map, homeFrom, archiveOf, Path.library]

/-- A directory that is no run-time environment is its own home if no archive is found from it. -/
lemma findHome_of_not_isJre (hjre : base.isJre = false)
    (h : c.developmentArchive m base = .ok none) : (c.findHome m base).result = .ok base := by
  rw [developmentArchive_eq_firstExisting] at h
  rw [findHome_eq_firstExisting, evidence, hjre, if_neg (by decide), List.append_nil, h]
  rfl

/-- The search from the directory around a run-time environment goes to no other kits. -/
lemma kits_parent_subset (hjre : base.isJre = true) (hparent : base.parent.isJre = false) :
    c.kits base.parent ⊆ c.kits base := by
  rw [kits, hparent, kits, hjre]
  exact List.subset_cons_self ..

/-- The home of a home is that home, unless a run-time environment lies in another one. -/
theorem findHome_findHome (hnames : ¬(base.isJre = true ∧ base.parent.isJre = true))
    (h : (c.findHome m base).result = .ok home) : (c.findHome m home).result = .ok home := by
  rcases findHome_inv h with hfound | ⟨hnone, ⟨hjre, rfl⟩ | rfl⟩
  · obtain ⟨kit, -, hkit, hexists⟩ := exists_kit_of_developmentArchive hfound
    rw [← hkit] at hexists
    exact findHome_of_archive hexists
  · have hparent : base.parent.isJre = false := by simpa [hjre] using hnames
    refine findHome_of_not_isJre hparent (developmentArchive_eq_none_iff.2 fun kit hmem => ?_)
    exact developmentArchive_eq_none_iff.1 hnone kit (kits_parent_subset hjre hparent hmem)
  · exact h

/-- A machine in whose current directory a kit has a run-time environment, and a file for `java`
that goes by the given name. -/
def enclosingKit (java : String) : Machine where
  tree := ⟨[("kit", .directory [("bin", .directory [(java, .file [] true)]),
    ("Jre", .directory [])])]⟩
  cwd := ["kit"]
  environment := []
  systemName := "Linux"

/-- A context that knows its system only. -/
def systemContext (system : OperatingSystem) : Context :=
  ⟨⟨system, none⟩, ⟨"", "", "", ""⟩⟩

theorem findHome_findHome_enclosingKit :
    ((systemContext .macos).findHome (enclosingKit "java") (.ofString "Jre")).result =
        .ok (.ofString ".") ∧
      ((systemContext .macos).findHome (enclosingKit "java") (.ofString ".")).result =
        .ok (.ofString ".") := by
  have h : ((systemContext .macos).findHome (enclosingKit "java") (.ofString "Jre")).result =
      .ok (.ofString ".") :=
    eq_ok_of_toOption (by decide +kernel)
  exact ⟨h, findHome_findHome (by decide +kernel) h⟩

/-! ## Run-time environments that give way -/

/-- The file by which the host runs `java` is in a directory. -/
def HasJava (c : Context) (m : Machine) (directory : Path) : Prop :=
  ∃ named, c.host.executableName ((directory.child "bin").child "java") = .ok named ∧
    m.HoldsFile named

/-- What a run-time environment gives way to: the directory around it, or a kit beside that
directory whose development archive is there. -/
inductive GivesWay (c : Context) (m : Machine) (base : Path) : Path → Prop where
  | around :
    GivesWay c m base base.parent
  | beside {kit} :
    kit ∈ c.siblingKits base.parent →
    m.HoldsAnything (archiveOf kit) →
    GivesWay c m base kit

/-- Around a run-time environment there is another directory. -/
lemma parent_ne_of_isJre (hjre : base.isJre = true) : base.parent ≠ base := by
  have hparts : base.parts ≠ [] := by
    intro hparts
    rw [Path.isJre, Path.name, hparts] at hjre
    exact absurd hjre (by decide)
  intro h
  have hlength := congrArg (fun p : Path => p.parts.length) h
  have hpos := List.length_pos_iff.2 hparts
  simp only [Path.parent, List.length_dropLast] at hlength
  omega

/-- What speaks for a home of a run-time environment, its own archive apart, makes it give way. -/
lemma givesWay_of_mem_evidence (hjre : base.isJre = true)
    (hnone : ¬m.HoldsAnything (archiveOf base)) (hmem : p ∈ c.evidence base)
    (hholds : m.HoldsAnything p) :
    p.parent.parent ≠ base ∧ c.GivesWay m base p.parent.parent := by
  have hkit : ∀ kit, (archiveOf kit).parent.parent = kit := by
    intro kit
    simp [archiveOf, Path.library]
  rw [evidence, kits, if_pos hjre, if_pos hjre, List.mem_append, List.mem_singleton] at hmem
  rcases hmem with hmem | rfl
  · obtain ⟨kit, hkits, rfl⟩ := List.mem_map.1 hmem
    rw [hkit]
    have hne : kit ≠ base := by
      rintro rfl
      exact hnone hholds
    rcases List.mem_cons.1 hkits with rfl | hkits
    · exact absurd rfl hne
    · rcases List.mem_cons.1 hkits with rfl | hkits
      · exact ⟨hne, .around⟩
      · exact ⟨hne, .beside hkits hholds⟩
  · rw [Path.parent_child, Path.parent_child]
    exact ⟨parent_ne_of_isJre hjre, .around⟩

/-- Off Windows the executable that the host runs as `java` is the one that speaks for a home. -/
lemma exists_evidence_of_hasJava (hjre : base.isJre = true) (hjava : c.HasJava m base.parent)
    (hwindows : c.host.isWindows = false) : ∃ p ∈ c.evidence base, m.HoldsAnything p := by
  obtain ⟨named, hnamed, hfile⟩ := hjava
  rw [Host.executableName_of_not_isWindows hwindows] at hnamed
  cases hnamed
  obtain ⟨bytes, executable, hstat⟩ := hfile
  refine ⟨_, ?_, _, hstat, rfl⟩
  rw [evidence, if_pos hjre]
  exact List.mem_append_right _ (List.mem_singleton_self _)

/-- A run-time environment without an archive of its own, in a directory that has a `java`
executable, gives way exactly where the search comes to no path that is too long and, on Windows,
anything speaks for a home: an archive of the kits around it, or a `java` without a suffix. If
nothing does, it is its own home. -/
theorem givesWay_iff_of_hasJava (hjre : base.isJre = true)
    (hnone : ¬m.HoldsAnything (archiveOf base)) (hjava : c.HasJava m base.parent) :
    ((∃ home, (c.findHome m base).result = .ok home ∧ home ≠ base ∧ c.GivesWay m base home) ↔
      (∀ p, ¬m.Stumbles (c.evidence base) p) ∧
        (c.host.isWindows = true → ∃ p ∈ c.evidence base, m.HoldsAnything p)) ∧
    ((∀ p, ¬m.Stumbles (c.evidence base) p) → (∀ p ∈ c.evidence base, ¬m.HoldsAnything p) →
      (c.findHome m base).result = .ok base) := by
  rw [findHome_eq_firstExisting]
  cases hfound : m.firstExisting (c.evidence base) with
  | error e =>
    obtain ⟨p, hstumble, -⟩ := Machine.firstExisting_eq_error_iff.1 hfound
    refine ⟨iff_of_false ?_ fun h => h.1 p hstumble, fun h => absurd hstumble (h p)⟩
    rintro ⟨home, hhome, -⟩
    cases hhome
  | ok found =>
    have hgo := Machine.exists_firstExisting_iff.1 ⟨found, hfound⟩
    cases found with
    | none =>
      have hall : ∀ p ∈ c.evidence base, ¬m.HoldsAnything p :=
        fun _ hmem => Machine.not_holdsAnything_of_firstExisting hfound hmem
      refine ⟨iff_of_false ?_ ?_, fun _ _ => rfl⟩
      · rintro ⟨home, hhome, hne, -⟩
        cases hhome
        exact hne rfl
      · rintro ⟨-, hwindows⟩
        have hsome : ∃ p ∈ c.evidence base, m.HoldsAnything p := by
          cases h : c.host.isWindows with
          | true => exact hwindows h
          | false => exact exists_evidence_of_hasJava hjre hjava h
        obtain ⟨p, hmem, hholds⟩ := hsome
        exact hall p hmem hholds
    | some p =>
      obtain ⟨hmem, hholds⟩ := Machine.holdsAnything_of_firstExisting hfound
      obtain ⟨hne, hway⟩ := givesWay_of_mem_evidence hjre hnone hmem hholds
      exact ⟨iff_of_true ⟨_, rfl, hne, hway⟩ ⟨hgo, fun _ => ⟨p, hmem, hholds⟩⟩,
        fun _ hall => absurd hholds (hall p hmem)⟩

/-- The run-time environment in the kit. -/
def enclosedRuntime : Path :=
  .ofLocation ["kit", "Jre"]

lemma not_holdsAnything_enclosedRuntime (java : String) :
    ¬(enclosingKit java).HoldsAnything (archiveOf enclosedRuntime) := by
  have hnone : (enclosingKit java).tree.stat ["kit"] (archiveOf enclosedRuntime).text =
      .error .missing := by
    rfl
  rintro ⟨node, hstat, -⟩
  cases hnone.symm.trans hstat

theorem givesWay_iff_of_hasJava_enclosingKit :
    enclosedRuntime.isJre = true ∧
      ¬(enclosingKit "java").HoldsAnything (archiveOf enclosedRuntime) ∧
      (systemContext .linux).HasJava (enclosingKit "java") enclosedRuntime.parent ∧
      ∃ home, ((systemContext .linux).findHome (enclosingKit "java") enclosedRuntime).result =
          .ok home ∧
        home ≠ enclosedRuntime ∧
        (systemContext .linux).GivesWay (enclosingKit "java") enclosedRuntime home := by
  have hjre : enclosedRuntime.isJre = true := by decide +kernel
  have hnone := not_holdsAnything_enclosedRuntime "java"
  have hjava : (systemContext .linux).HasJava (enclosingKit "java") enclosedRuntime.parent :=
    ⟨_, rfl, [], true, rfl⟩
  have hhome : ((systemContext .linux).findHome (enclosingKit "java") enclosedRuntime).result =
      .ok (.ofLocation ["kit"]) :=
    eq_ok_of_toOption (by decide +kernel)
  refine ⟨hjre, hnone, hjava, (givesWay_iff_of_hasJava hjre hnone hjava).1.2 ⟨?_, nofun⟩⟩
  exact exists_home_iff.1 ⟨_, hhome⟩

theorem findHome_suffixedJava :
    enclosedRuntime.isJre = true ∧
      ¬(enclosingKit "java.exe").HoldsAnything (archiveOf enclosedRuntime) ∧
      (systemContext .windows).HasJava (enclosingKit "java.exe") enclosedRuntime.parent ∧
      ((systemContext .windows).findHome (enclosingKit "java.exe") enclosedRuntime).result =
        .ok enclosedRuntime := by
  have hnamed : (systemContext .windows).host.executableName
      (.ofLocation ["kit", "bin", "java"]) = .ok (.ofLocation ["kit", "bin", "java.exe"]) :=
    eq_ok_of_toOption (by decide +kernel)
  refine ⟨by decide +kernel, not_holdsAnything_enclosedRuntime "java.exe", ⟨_, hnamed, ?_⟩, ?_⟩
  · exact ⟨[], true, rfl⟩
  · exact eq_ok_of_toOption (by decide +kernel)

end JavaHome.Context
