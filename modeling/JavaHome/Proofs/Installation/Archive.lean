import Mathlib.Tactic.Lemma
import JavaHome.Proofs.Installation.Spelling

/-!
# Where the development archive is

The search for the development archive goes through a list of directories, the kits of a base, and
takes the first of them that holds the archive (`developmentArchive_eq_firstExisting`). The home
directory is that kit. So the archive of a reported installation, though searched for from the base,
is the one in its home (`toolsArchive_eq_home_library`).
-/

namespace JavaHome

variable {c : Context} {m : Machine} {base p : Path} {paths : List Path}

/-- The first of some paths at which something is. -/
def Machine.firstExisting (m : Machine) : List Path → Except Failure (Option Path)
  | [] => .ok none
  | p :: rest => do
    if ← m.pathExists p then return some p else m.firstExisting rest

namespace Machine

lemma firstExisting_cons_of_exists {rest : List Path} (h : m.pathExists p = .ok true) :
    m.firstExisting (p :: rest) = .ok (some p) := by
  rw [firstExisting, h]
  rfl

lemma firstExisting_cons_of_not_exists {rest : List Path} (h : m.pathExists p = .ok false) :
    m.firstExisting (p :: rest) = m.firstExisting rest := by
  rw [firstExisting, h]
  rfl

lemma firstExisting_cons_of_error {rest : List Path} {e : Failure}
    (h : m.pathExists p = .error e) : m.firstExisting (p :: rest) = .error e := by
  rw [firstExisting, h]
  rfl

/-- What a search comes to: something is at the first path, or the answer is that of the others. -/
lemma firstExisting_cons_eq_ok_iff {rest : List Path} {found : Option Path} :
    m.firstExisting (p :: rest) = .ok found ↔
      m.pathExists p = .ok true ∧ some p = found ∨
        m.pathExists p = .ok false ∧ m.firstExisting rest = .ok found := by
  rw [firstExisting, bind_eq_ok_iff, Bool.exists_bool]
  simp [pure, Except.pure, or_comm]

/-- Nothing is found if and only if nothing is at any of the paths. -/
lemma firstExisting_eq_none_iff :
    m.firstExisting paths = .ok none ↔ ∀ p ∈ paths, m.pathExists p = .ok false := by
  induction paths with
  | nil => simp [firstExisting]
  | cons p rest ih =>
    rw [List.forall_mem_cons, firstExisting_cons_eq_ok_iff, ih]
    simp

/-- What is found is one of the paths, and something is there. -/
lemma mem_of_firstExisting (h : m.firstExisting paths = .ok (some p)) :
    p ∈ paths ∧ m.pathExists p = .ok true := by
  induction paths with
  | nil => cases h
  | cons q rest ih =>
    rcases firstExisting_cons_eq_ok_iff.1 h with ⟨hq, hfound⟩ | ⟨-, h⟩
    · cases hfound
      exact ⟨List.mem_cons_self .., hq⟩
    · exact ⟨List.mem_cons_of_mem _ (ih h).1, (ih h).2⟩

/-- The first path is tried first. -/
lemma firstExisting_cons (p : Path) (rest : List Path) :
    m.firstExisting (p :: rest) =
      m.existing? p >>= fun
        | some q => .ok (some q)
        | none => m.firstExisting rest := by
  unfold existing?
  cases h : m.pathExists p with
  | error e => exact firstExisting_cons_of_error h
  | ok found =>
    cases found with
    | true => exact firstExisting_cons_of_exists h
    | false => exact firstExisting_cons_of_not_exists h

lemma firstExisting_singleton (p : Path) : m.firstExisting [p] = m.existing? p := by
  rw [firstExisting_cons]
  rcases m.existing? p with e | (_ | q) <;> rfl

end Machine

namespace Context

/-- The kits that Windows may put beside a numbered run-time environment. -/
def siblingKits (c : Context) (directory : Path) : List Path :=
  if c.host.isWindows ∧ Vendor.isNumbered "jre" directory.name then
    [directory.parent.join (.ofString ("jdk" ++ c.properties.version))]
  else []

/-- The name of a kit beside a directory begins with no slash, whatever the version says. -/
lemma head?_sibling (c : Context) : ("jdk" ++ c.properties.version).toList.head? ≠ some '/' := by
  simp

/-- The directories whose library directory may hold the development archive for a base. -/
def kits (c : Context) (base : Path) : List Path :=
  base ::
    if base.isJre then base.parent :: c.siblingKits base.parent else c.siblingKits base

/-- The development archive of a kit. -/
def archiveOf (kit : Path) : Path :=
  kit.library "tools.jar"

lemma siblingArchive_eq_firstExisting (directory : Path) :
    c.siblingArchive m directory = m.firstExisting ((c.siblingKits directory).map archiveOf) := by
  unfold siblingArchive siblingKits
  split
  · exact (Machine.firstExisting_singleton _).symm
  · rfl

/-- The development archive is the one of the first kit that has one. -/
theorem developmentArchive_eq_firstExisting (base : Path) :
    c.developmentArchive m base = m.firstExisting ((c.kits base).map archiveOf) := by
  unfold developmentArchive kits
  rw [List.map_cons, Machine.firstExisting_cons, archiveOf]
  rcases m.existing? (base.library "tools.jar") with e | (_ | archive)
  · rfl
  · dsimp only [bind, Except.bind]
    split
    · rw [List.map_cons, Machine.firstExisting_cons, ← siblingArchive_eq_firstExisting, archiveOf]
      rcases m.existing? (base.parent.library "tools.jar") with e | (_ | archive) <;> rfl
    · exact siblingArchive_eq_firstExisting base
  · rfl

/-- An archive that is found is that of a kit. -/
lemma exists_kit_of_developmentArchive {archive : Path}
    (h : c.developmentArchive m base = .ok (some archive)) :
    ∃ kit ∈ c.kits base, archive = archiveOf kit ∧ m.pathExists (archiveOf kit) = .ok true := by
  rw [developmentArchive_eq_firstExisting] at h
  obtain ⟨hmem, hexists⟩ := Machine.mem_of_firstExisting h
  obtain ⟨kit, hkit, rfl⟩ := List.mem_map.1 hmem
  exact ⟨kit, hkit, rfl, hexists⟩

/-- No archive is found if and only if no kit has one. -/
lemma developmentArchive_eq_none_iff :
    c.developmentArchive m base = .ok none ↔
      ∀ kit ∈ c.kits base, m.pathExists (archiveOf kit) = .ok false := by
  rw [developmentArchive_eq_firstExisting, Machine.firstExisting_eq_none_iff, List.forall_mem_map]

lemma base_mem_kits : base ∈ c.kits base :=
  List.mem_cons_self ..

lemma parent_mem_kits (h : base.isJre = true) : base.parent ∈ c.kits base := by
  rw [kits, if_pos h]
  exact List.mem_cons_of_mem _ (List.mem_cons_self ..)

/-- How a base comes to its home: the kit whose archive was found, or, where there is none, the
directory around a run-time environment or the base itself. -/
lemma findHome_inv {home : Path} (h : (c.findHome m base).result = .ok home) :
    c.developmentArchive m base = .ok (some (archiveOf home)) ∨
      c.developmentArchive m base = .ok none ∧
        (base.isJre = true ∧ home = base.parent ∨ home = base) := by
  obtain ⟨found, hfound, h⟩ := Traced.result_bind_eq_ok_iff.1 h
  rw [Traced.result_ofExcept] at hfound
  cases found with
  | some archive =>
    obtain ⟨kit, -, rfl, -⟩ := exists_kit_of_developmentArchive hfound
    obtain ⟨-, -, h⟩ := Traced.result_bind_eq_ok_iff.1 h
    cases h
    exact .inl (by simpa [archiveOf, Path.library] using hfound)
  | none =>
    refine .inr ⟨hfound, ?_⟩
    dsimp only at h
    split at h
    · rename_i hjre
      obtain ⟨runs, -, h⟩ := Traced.result_bind_eq_ok_iff.1 h
      cases runs with
      | true =>
        obtain ⟨-, -, h⟩ := Traced.result_bind_eq_ok_iff.1 h
        cases h
        exact .inl ⟨hjre, rfl⟩
      | false =>
        cases h
        exact .inr rfl
    · cases h
      exact .inr rfl

/-- The home of a base holds the development archive that is found from the base, if one is found.
-/
lemma exists_found_of_findHome {home : Path} (h : (c.findHome m base).result = .ok home) :
    ∃ found, m.pathExists (archiveOf home) = .ok found ∧
      c.developmentArchive m base = .ok (if found then some (archiveOf home) else none) := by
  rcases findHome_inv h with hfound | ⟨hnone, hhome⟩
  · obtain ⟨kit, -, hkit, hexists⟩ := exists_kit_of_developmentArchive hfound
    rw [← hkit] at hexists
    exact ⟨true, hexists, hfound⟩
  · have hkits := developmentArchive_eq_none_iff.1 hnone
    rcases hhome with ⟨hjre, rfl⟩ | rfl
    · exact ⟨false, hkits _ (parent_mem_kits hjre), hnone⟩
    · exact ⟨false, hkits _ base_mem_kits, hnone⟩

end Context

/-- The development archive of a reported installation is the one in its home directory, whichever
way the home was found. Only Apple's runtime archive stands in for one that is not there. -/
theorem Installation.toolsArchive_eq_home_library {i : Installation}
    (h : (c.current m).result = .ok i) :
    ∃ found, m.pathExists (i.home.library "tools.jar") = .ok found ∧
      (i.vendor ≠ .apple →
        i.toolsArchive c m = .ok (if found then some (i.home.library "tools.jar") else none)) ∧
      (i.vendor = .apple →
        i.toolsArchive c m =
          if found then .ok (some (i.home.library "tools.jar")) else i.runtimeArchive m) := by
  obtain ⟨base, home, -, hhome, rfl⟩ := Context.current_eq_ok_iff.1 h
  obtain ⟨found, hexists, harchive⟩ := Context.exists_found_of_findHome hhome
  refine ⟨found, hexists, ?_, ?_⟩
  · intro hvendor
    unfold toolsArchive
    rw [harchive]
    cases found with
    | true => rfl
    | false =>
      cases e : c.vendor with
      | generic => rfl
      | apple => exact absurd e hvendor
      | ibm => rfl
  · intro hvendor
    change c.vendor = .apple at hvendor
    unfold toolsArchive
    rw [harchive, hvendor]
    cases found <;> rfl

/-- A run-time environment and the kit that Windows puts beside it. -/
def siblingKit : Machine where
  tree := ⟨[("Java", .directory [
    ("jre6", .directory []),
    ("jdk1.6.0", .directory [("lib", .directory [("tools.jar", .file [] false)])])])]⟩
  cwd := []
  environment := []
  systemName := "Windows"

/-- The context of a machine whose run-time environment is the one beside the kit. -/
def siblingContext : Context :=
  ⟨⟨.windows, none⟩, ⟨"/Java/jre6", "Oracle Corporation", "1.6.0", ""⟩⟩

theorem Installation.toolsArchive_eq_home_library_sibling :
    ∃ i found, (siblingContext.current siblingKit).result = .ok i ∧
      i.home = .ofLocation ["Java", "jdk1.6.0"] ∧
      siblingKit.pathExists (i.home.library "tools.jar") = .ok found ∧
      i.toolsArchive siblingContext siblingKit =
        .ok (if found then some (i.home.library "tools.jar") else none) := by
  have h : (siblingContext.current siblingKit).result.toOption =
      some ⟨.ofLocation ["Java", "jre6"], .ofLocation ["Java", "jdk1.6.0"], .generic, false⟩ := by
    decide +kernel
  obtain ⟨found, hexists, harchive, -⟩ := toolsArchive_eq_home_library (eq_ok_of_toOption h)
  exact ⟨_, found, eq_ok_of_toOption h, rfl, hexists, harchive (by decide)⟩

end JavaHome
