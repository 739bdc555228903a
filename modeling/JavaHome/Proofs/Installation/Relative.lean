import Mathlib.Data.List.Forall2
import Mathlib.Tactic.Lemma
import JavaHome.Proofs.Installation.Summary
import JavaHome.Proofs.Installation.Supplied
import JavaHome.Proofs.Path.Below

/-!
# Directories supplied by a relative path

The archives of an installation are searched for by the last names of the supplied directory. A
relative path may spell fewer names than the search goes by (`Context.namesRead`), as `.` does. If
it spells enough of them, the search finds the same files as from the absolute form of the path
(`archives_of_relative`), and otherwise it may miss some: from `.` Apple's archive is looked for in
the directory itself and not beside it (`archives_of_dot`).
-/

namespace JavaHome

variable {c : Context} {m : Machine} {cwd : Location} {p q : Path} {found : Option Path}

/-! ## Paths -/

namespace Path

/-- A relative path is made absolute by its names. -/
lemma absolute_eq (hrel : p.anchor = .relative) :
    p.absolute cwd = .ofLocation (cwd ++ p.parts) := by
  have hfalse : p.isAbsolute = false := by
    rw [isAbsolute, hrel]
    rfl
  rw [absolute, join, hfalse]
  rfl

lemma anchor_eq_relative (s : String) (h : s.toList.head? ≠ some '/') :
    (ofString s).anchor = .relative := by
  rw [Ne, ← isAbsolute_ofString] at h
  simpa [isAbsolute] using h

lemma name_absolute (hrel : p.anchor = .relative) (hparts : p.parts ≠ []) :
    (p.absolute cwd).name = p.name := by
  rw [absolute_eq hrel]
  change (cwd ++ p.parts).getLast?.getD "" = _
  rw [List.getLast?_append_of_ne_nil _ hparts]
  rfl

lemma parent_absolute (hrel : p.anchor = .relative) (hparts : p.parts ≠ []) :
    (p.absolute cwd).parent = p.parent.absolute cwd := by
  rw [absolute_eq hrel, absolute_eq (p := p.parent) hrel]
  change Path.mk .root (cwd ++ p.parts).dropLast = _
  rw [List.dropLast_append_of_ne_nil hparts]
  rfl

lemma Proper.parent (hp : p.Proper) : p.parent.Proper :=
  fun part hmem => hp part (List.dropLast_subset _ hmem)

end Path

/-! ## Matching paths -/

namespace Machine

/-- Two answers to the question for a file come to the same: to no file, or to files at one place.
-/
inductive SameFile (m : Machine) : Option Path → Option Path → Prop where
  | none :
    SameFile m none none
  | some {p q place} :
    m.tree.lookup m.cwd true p.text = .ok place →
    m.tree.lookup m.cwd true q.text = .ok place →
    SameFile m (some p) (some q)

/-- A path is looked up as another one is, unless that is too long. -/
def Matches (m : Machine) (p q : Path) : Prop :=
  m.Overlong q ∨ m.tree.lookup m.cwd true p.text = m.tree.lookup m.cwd true q.text

/-- A relative path is looked up as its absolute form is. -/
lemma matches_absolute (hcwd : m.tree.IsWorkingDirectory m.cwd) (hp : p.Proper)
    (hrel : p.anchor = .relative) : m.Matches p (p.absolute m.cwd) := by
  by_cases hlong : m.Overlong (p.absolute m.cwd)
  · exact .inl hlong
  · refine .inr (FileTree.lookup_relative hcwd hp hrel ?_)
    intro hnull
    exact Nat.not_le.1 fun hle => hlong ⟨hnull, .inl hle⟩

/-- Where a path is looked up as another one is, the same is found. -/
lemma Matches.pathExists (h : m.Matches p q) {there : Bool} (hq : m.pathExists q = .ok there) :
    m.pathExists p = .ok there ∧ (there = true → m.SameFile (some p) (some q)) := by
  rw [pathExists_eq_answer] at hq ⊢
  have hshort : ¬m.Overlong q := by
    intro hlong
    cases hq.symm.trans (answer_eq_error_iff.2 ⟨hlong, rfl⟩)
  have hlookup := h.resolve_left hshort
  have hstat : m.tree.stat m.cwd p.text = m.tree.stat m.cwd q.text := by
    rw [FileTree.stat, hlookup, FileTree.stat]
  have hholds : m.Holds (fun _ => true) p ↔ m.Holds (fun _ => true) q := by
    unfold Holds
    rw [hstat]
  cases there with
  | true =>
    have hthere := answer_eq_true_iff.1 hq
    refine ⟨answer_eq_true_iff.2 (hholds.2 hthere), fun _ => ?_⟩
    obtain ⟨node, hnode, -⟩ := hthere
    obtain ⟨here, hplace⟩ := FileTree.stat_eq_ok_iff.1 hnode
    exact .some (hlookup.trans hplace) hplace
  | false =>
    refine ⟨answer_eq_false_iff.2 ⟨?_, ?_⟩, ?_⟩
    · rw [hholds]
      exact (answer_eq_false_iff.1 hq).1
    · rw [← stat_eq_nameTooLong_iff, hstat, stat_eq_nameTooLong_iff]
      exact hshort
    · intro hthere
      cases hthere

/-- What is found first among some paths is found first among paths that match them. -/
lemma firstExisting_of_matches {paths others : List Path}
    (h : List.Forall₂ m.Matches paths others) (hfound : m.firstExisting others = .ok found) :
    ∃ same, m.firstExisting paths = .ok same ∧ m.SameFile same found := by
  induction h with
  | nil =>
    cases hfound
    exact ⟨none, rfl, .none⟩
  | @cons p q paths others hpq _ ih =>
    rcases firstExisting_cons_eq_ok_iff.1 hfound with ⟨hq, rfl⟩ | ⟨hq, hothers⟩
    · obtain ⟨hp, hsame⟩ := hpq.pathExists hq
      exact ⟨some p, firstExisting_cons_of_exists hp, hsame rfl⟩
    · rw [firstExisting_cons_of_not_exists (hpq.pathExists hq).1]
      exact ih hothers

/-- What is found at a path is found at a path that matches it. -/
lemma existing?_of_matches (h : m.Matches p q) (hfound : m.existing? q = .ok found) :
    ∃ same, m.existing? p = .ok same ∧ m.SameFile same found := by
  rw [← firstExisting_singleton] at hfound ⊢
  exact firstExisting_of_matches (.cons h .nil) hfound

end Machine

/-! ## Kits -/

namespace Context

/-- Whether a directory has a name by which Windows puts a kit beside it. -/
def isNumbered (c : Context) (directory : Path) : Bool :=
  c.host.isWindows && Vendor.isNumbered "jre" directory.name

/-- How many of the last names of a base decide where its development archive is searched for: the
name `jre` leads to the directory around the base, and a numbered name to the kit beside it. -/
def namesRead (c : Context) (base : Path) : Nat :=
  if base.isJre then if c.isNumbered base.parent then 2 else 1
  else if c.isNumbered base then 1 else 0

lemma siblingKits_eq_nil {directory : Path} (h : c.isNumbered directory = false) :
    c.siblingKits directory = [] := by
  rw [siblingKits, if_neg]
  rintro ⟨hwindows, hnumbered⟩
  rw [isNumbered, hwindows, hnumbered] at h
  cases h

/-- A path without names has the empty text for its last name, which decides nothing. -/
lemma isNumbered_of_parts_eq_nil {directory : Path} (h : directory.parts = []) :
    directory.isJre = false ∧ c.isNumbered directory = false := by
  have hname : directory.name = "" := by
    rw [Path.name, h]
    rfl
  have hnumbered : Vendor.isNumbered "jre" "" = false := by decide
  rw [Path.isJre, isNumbered, hname, hnumbered, Bool.and_false]
  exact ⟨by decide, rfl⟩

/-- The kits beside a relative path are kits beside its absolute form, and all of them if the path
spells the name that they depend on. -/
lemma siblingKits_absolute (cwd : Location) (hrel : p.anchor = .relative) :
    ∃ more, c.siblingKits (p.absolute cwd) = (c.siblingKits p).map (Path.absolute cwd) ++ more ∧
      (p.parts ≠ [] ∨ c.isNumbered (p.absolute cwd) = false → more = []) := by
  by_cases hparts : p.parts = []
  · rw [siblingKits_eq_nil (isNumbered_of_parts_eq_nil hparts).2]
    refine ⟨_, rfl, fun h => ?_⟩
    exact siblingKits_eq_nil (h.resolve_left (absurd hparts))
  · refine ⟨[], ?_, fun _ => rfl⟩
    rw [List.append_nil, siblingKits, siblingKits, Path.name_absolute hrel hparts]
    by_cases hnumbered : c.host.isWindows = true ∧ Vendor.isNumbered "jre" p.name = true
    · rw [if_pos hnumbered, if_pos hnumbered, List.map_singleton,
        Path.parent_absolute hrel hparts, ← Path.join_absolute]
    · rw [if_neg hnumbered, if_neg hnumbered]
      rfl

/-- The kits of a relative path are kits of its absolute form, and all of them if the path spells
the names that they depend on. -/
lemma kits_absolute (cwd : Location) (hrel : p.anchor = .relative) :
    ∃ more, c.kits (p.absolute cwd) = (c.kits p).map (Path.absolute cwd) ++ more ∧
      (c.namesRead (p.absolute cwd) ≤ p.parts.length → more = []) := by
  by_cases hparts : p.parts = []
  · obtain ⟨hjre, hnumbered⟩ := isNumbered_of_parts_eq_nil (c := c) hparts
    rw [kits, kits, hjre, siblingKits_eq_nil hnumbered]
    refine ⟨_, rfl, fun hread => ?_⟩
    rw [hparts, List.length_nil, namesRead] at hread
    cases hjre' : (p.absolute cwd).isJre with
    | true =>
      rw [hjre', if_pos rfl] at hread
      split at hread <;> omega
    | false =>
      cases hnumbered' : c.isNumbered (p.absolute cwd) with
      | true =>
        rw [hjre', hnumbered'] at hread
        cases hread
      | false => exact siblingKits_eq_nil hnumbered'
  · have hjre : (p.absolute cwd).isJre = p.isJre := by
      rw [Path.isJre, Path.name_absolute hrel hparts, Path.isJre]
    cases hjre' : p.isJre with
    | false =>
      obtain ⟨more, hmore, hnone⟩ := siblingKits_absolute (c := c) cwd hrel
      rw [kits, kits, hjre, hjre', hmore]
      exact ⟨more, rfl, fun _ => hnone (.inl hparts)⟩
    | true =>
      obtain ⟨more, hmore, hnone⟩ := siblingKits_absolute (c := c) (p := p.parent) cwd hrel
      rw [namesRead, kits, kits, hjre, hjre', Path.parent_absolute hrel hparts, if_pos rfl,
        if_pos rfl, if_pos rfl, hmore]
      refine ⟨more, rfl, fun hread => hnone ?_⟩
      cases hnumbered : c.isNumbered (p.parent.absolute cwd) with
      | false => exact .inr rfl
      | true =>
        rw [hnumbered, if_pos rfl] at hread
        refine .inl fun hparent => ?_
        have hlength : p.parts.length - 1 = 0 := by
          rw [← List.length_dropLast]
          exact congrArg List.length hparent
        omega

/-- The kits of a proper relative path are proper relative paths. -/
lemma relative_of_mem_kits {kit : Path} (hp : p.Proper) (hrel : p.anchor = .relative)
    (h : kit ∈ c.kits p) : kit.Proper ∧ kit.anchor = .relative := by
  have hsiblings : ∀ {directory : Path}, directory.Proper → directory.anchor = .relative →
      kit ∈ c.siblingKits directory → kit.Proper ∧ kit.anchor = .relative := by
    intro directory hdirectory hanchor hmem
    unfold siblingKits at hmem
    split at hmem
    · cases List.mem_singleton.1 hmem
      refine ⟨hdirectory.parent.join (Path.proper_ofString _), ?_⟩
      unfold Path.join
      split
      · exact Path.anchor_eq_relative _ c.head?_sibling
      · exact hanchor
    · cases hmem
  rcases List.mem_cons.1 h with rfl | h
  · exact ⟨hp, hrel⟩
  · split at h
    · rcases List.mem_cons.1 h with rfl | h
      · exact ⟨hp.parent, hrel⟩
      · exact hsiblings hp.parent hrel h
    · exact hsiblings hp hrel h

end Context

/-- The path of an archive in the library directory matches its absolute form. -/
lemma Machine.matches_library (hcwd : m.tree.IsWorkingDirectory m.cwd) (hp : p.Proper)
    (hrel : p.anchor = .relative) (archive : String) (hstep : Path.isStep archive = true)
    (hslash : '/' ∉ archive.toList) :
    m.Matches (p.library archive) ((p.absolute m.cwd).library archive) := by
  have hlibrary : (p.absolute m.cwd).library archive = (p.library archive).absolute m.cwd := by
    rw [Path.library, Path.library, Path.child_absolute, Path.child_absolute]
  rw [hlibrary]
  exact matches_absolute hcwd ((hp.child (by decide) (by decide)).child hstep hslash) hrel

/-- The development archive that is found from a relative path is the one that is found from its
absolute form, if the path spells the names that the search goes by, and otherwise it is that one or
none. -/
lemma Context.developmentArchive_of_absolute (hcwd : m.tree.IsWorkingDirectory m.cwd)
    (hp : p.Proper) (hrel : p.anchor = .relative)
    (h : c.developmentArchive m (p.absolute m.cwd) = .ok found) :
    ∃ same, c.developmentArchive m p = .ok same ∧
      (m.SameFile same found ∨
        same = none ∧ ¬c.namesRead (p.absolute m.cwd) ≤ p.parts.length) := by
  obtain ⟨more, hkits, hmore⟩ := c.kits_absolute m.cwd hrel
  have hmatches : List.Forall₂ m.Matches ((c.kits p).map archiveOf)
      (((c.kits p).map (Path.absolute m.cwd)).map archiveOf) := by
    rw [List.forall₂_map_right_iff, List.forall₂_map_right_iff, List.forall₂_map_left_iff,
      List.forall₂_same]
    intro kit hmem
    obtain ⟨hproper, hanchor⟩ := relative_of_mem_kits hp hrel hmem
    exact Machine.matches_library hcwd hproper hanchor "tools.jar" (by decide) (by decide)
  rw [developmentArchive_eq_firstExisting, hkits, List.map_append,
    Machine.firstExisting_append] at h
  rw [developmentArchive_eq_firstExisting]
  obtain ⟨first, hfirst, h⟩ := bind_eq_ok_iff.1 h
  obtain ⟨same, hsame, hfile⟩ := Machine.firstExisting_of_matches hmatches hfirst
  refine ⟨same, hsame, ?_⟩
  cases hfile with
  | some hplace hplace' =>
    cases h
    exact .inl (.some hplace hplace')
  | none =>
    by_cases hread : c.namesRead (p.absolute m.cwd) ≤ p.parts.length
    · rw [hmore hread] at h
      cases h
      exact .inl .none
    · exact .inr ⟨rfl, hread⟩

/-- A relative path spells the names by which the archives of its absolute form are searched for.
Apple's runtime archive is searched for beside the last name. -/
def Context.Spelled (c : Context) (m : Machine) (p : Path) : Prop :=
  c.namesRead (p.absolute m.cwd) ≤ p.parts.length ∧ (c.vendor = .apple → p.parts ≠ [])

namespace Installation

variable {i j : Installation} {v : Vendor} {directory joined : String}

/-- The runtime archive that is found from the absolute form of a path is found from the path, if
there is a name that Apple's may stand beside. -/
lemma runtimeArchive_of_absolute (hcwd : m.tree.IsWorkingDirectory m.cwd) (hp : p.Proper)
    (hrel : p.anchor = .relative) (hparts : v = .apple → p.parts ≠ [])
    (h : runtimeArchive m ⟨p.absolute m.cwd, p.absolute m.cwd, v, true⟩ = .ok found) :
    ∃ same, runtimeArchive m ⟨p, p, v, true⟩ = .ok same ∧ m.SameFile same found := by
  have hlibrary := Machine.matches_library hcwd hp hrel "rt.jar" (by decide) (by decide)
  cases v with
  | generic => exact Machine.existing?_of_matches hlibrary h
  | ibm => exact Machine.existing?_of_matches hlibrary h
  | apple =>
    refine Machine.existing?_of_matches ?_ h
    have hbeside : ((p.absolute m.cwd).parent.child "Classes").child "classes.jar" =
        ((p.parent.child "Classes").child "classes.jar").absolute m.cwd := by
      rw [Path.parent_absolute hrel (hparts rfl), Path.child_absolute, Path.child_absolute]
    change m.Matches ((p.parent.child "Classes").child "classes.jar")
      (((p.absolute m.cwd).parent.child "Classes").child "classes.jar")
    rw [hbeside]
    exact Machine.matches_absolute hcwd
      ((hp.parent.child (by decide) (by decide)).child (by decide) (by decide)) hrel

/-- Only Apple's runtime archive stands in for a development archive. -/
lemma toolsArchive_eq_developmentArchive (hvendor : i.vendor ≠ .apple) :
    i.toolsArchive c m = c.developmentArchive m i.base := by
  unfold toolsArchive
  rcases c.developmentArchive m i.base with e | (_ | archive)
  · rfl
  · cases hother : i.vendor with
    | generic => rfl
    | ibm => rfl
    | apple => exact absurd hother hvendor
  · rfl

/-- The development archive that is found from the absolute form of a path is found from the path,
if it spells enough names. -/
lemma toolsArchive_of_absolute (hcwd : m.tree.IsWorkingDirectory m.cwd) (hp : p.Proper)
    (hrel : p.anchor = .relative) (hspelled : c.Spelled m p)
    (h : toolsArchive c m ⟨p.absolute m.cwd, p.absolute m.cwd, c.vendor, true⟩ = .ok found) :
    ∃ same, toolsArchive c m ⟨p, p, c.vendor, true⟩ = .ok same ∧ m.SameFile same found := by
  obtain ⟨first, hfirst, h⟩ := bind_eq_ok_iff.1 h
  obtain ⟨same, hsame, hfile | ⟨-, hunread⟩⟩ :=
    Context.developmentArchive_of_absolute hcwd hp hrel hfirst
  · unfold toolsArchive
    rw [hsame]
    cases hfile with
    | some hplace hplace' =>
      cases h
      exact ⟨_, rfl, .some hplace hplace'⟩
    | none =>
      cases hvendor : c.vendor with
      | apple =>
        rw [hvendor] at h
        exact runtimeArchive_of_absolute hcwd hp hrel (fun _ => hspelled.2 hvendor) h
      | generic =>
        rw [hvendor] at h
        cases h
        exact ⟨none, rfl, .none⟩
      | ibm =>
        rw [hvendor] at h
        cases h
        exact ⟨none, rfl, .none⟩
  · exact absurd hspelled.1 hunread

/-- The archives of a directory that is supplied by a relative path are the files that are found
when it is supplied by the absolute form of the path, if the relative one spells the names that the
search goes by. Otherwise a development archive may be missed, but only Apple's search finds another
one. The absolute form leaves an archive open only where a path is too long. -/
theorem archives_of_relative (hcwd : m.tree.IsWorkingDirectory m.cwd)
    (hrel : directory.toList.head? ≠ some '/')
    (hjoined : Path.ofString joined = (Path.ofString directory).absolute m.cwd)
    (hi : c.supplied m directory = .ok i) (hj : c.supplied m joined = .ok j) :
    (∀ found, j.toolsArchive c m = .ok found →
      (c.Spelled m i.base → ∃ same, i.toolsArchive c m = .ok same ∧ m.SameFile same found) ∧
      (c.vendor ≠ .apple →
        ∃ same, i.toolsArchive c m = .ok same ∧ (same = none ∨ m.SameFile same found))) ∧
    (∀ found, j.runtimeArchive m = .ok found → (c.vendor = .apple → i.base.parts ≠ []) →
      ∃ same, i.runtimeArchive m = .ok same ∧ m.SameFile same found) ∧
    ∀ e, j.toolsArchive c m = .error e ∨ j.runtimeArchive m = .error e → m.TellsOverlong e := by
  have hsuppliedAt : ∀ {s : String} {k : Installation}, c.supplied m s = .ok k →
      k = c.suppliedAt s := by
    intro s k hk
    have hsupplies := c.supplies m s
    rw [hk] at hsupplies
    cases hsupplies with
    | accepted => rfl
  have hproper := Path.proper_ofString directory
  have hanchor := Path.anchor_eq_relative directory hrel
  cases hsuppliedAt hi
  cases hsuppliedAt hj
  rw [Context.suppliedAt, Context.suppliedAt, hjoined]
  refine ⟨fun found hfound => ⟨fun hspelled => ?_, fun hvendor => ?_⟩, ?_, ?_⟩
  · exact toolsArchive_of_absolute hcwd hproper hanchor hspelled hfound
  · rw [toolsArchive_eq_developmentArchive (by exact hvendor)] at hfound ⊢
    obtain ⟨same, hsame, hfile⟩ :=
      Context.developmentArchive_of_absolute hcwd hproper hanchor hfound
    exact ⟨same, hsame, hfile.symm.imp_left And.left⟩
  · intro found hfound hparts
    exact runtimeArchive_of_absolute hcwd hproper hanchor hparts hfound
  · rintro e (he | he)
    · exact tellsOverlong_of_toolsArchive he
    · exact Machine.tellsOverlong_of_existing he

/-- A machine with an Apple kit, whose classes are beside the home. -/
def appleKit (cwd : Location) : Machine where
  tree := ⟨[("Kit", .directory [("Home", .directory []),
    ("Classes", .directory [("classes.jar", .file [] false)])])]⟩
  cwd := cwd
  environment := []
  systemName := "Darwin"

/-- A context in which all installations are Apple's. -/
def appleContext : Context :=
  ⟨⟨.macos, none⟩, ⟨"/Kit/Home", "Apple Inc.", "", ""⟩⟩

lemma appleKit_isWorkingDirectory :
    (appleKit ["Kit"]).tree.IsWorkingDirectory (appleKit ["Kit"]).cwd where
  named := by decide
  noNull := by decide
  isDirectory := ⟨_, rfl⟩

theorem archives_of_relative_appleKit :
    ∃ i j place archive,
      appleContext.supplied (appleKit ["Kit"]) "../Kit/./Home/" = .ok i ∧
      appleContext.supplied (appleKit ["Kit"]) "/Kit/../Kit/Home" = .ok j ∧
      i.runtimeArchive (appleKit ["Kit"]) = .ok (some archive) ∧
      (appleKit ["Kit"]).tree.lookup ["Kit"] true archive.text = .ok place ∧
      place.location = ["Kit", "Classes", "classes.jar"] := by
  have hi : appleContext.supplied (appleKit ["Kit"]) "../Kit/./Home/" =
      .ok (appleContext.suppliedAt "../Kit/./Home/") :=
    eq_ok_of_toOption (by decide +kernel)
  have hj : appleContext.supplied (appleKit ["Kit"]) "/Kit/../Kit/Home" =
      .ok (appleContext.suppliedAt "/Kit/../Kit/Home") :=
    eq_ok_of_toOption (by decide +kernel)
  have hfound : (appleContext.suppliedAt "/Kit/../Kit/Home").runtimeArchive (appleKit ["Kit"]) =
      .ok (some (.ofLocation ["Kit", "..", "Kit", "Classes", "classes.jar"])) :=
    eq_ok_of_toOption (by decide +kernel)
  obtain ⟨-, hruntime, -⟩ := archives_of_relative appleKit_isWorkingDirectory (by decide)
    (by decide +kernel) hi hj
  obtain ⟨same, hsame, hfile⟩ := hruntime _ hfound fun _ => by decide +kernel
  cases hfile with
  | @some archive _ place hplace hplace' =>
    refine ⟨_, _, place, archive, hi, hj, hsame, hplace, ?_⟩
    have hlocation : ((appleKit ["Kit"]).tree.lookup (appleKit ["Kit"]).cwd true
        (Path.ofLocation ["Kit", "..", "Kit", "Classes", "classes.jar"]).text).toOption.map
          Place.location = some ["Kit", "Classes", "classes.jar"] := by
      decide +kernel
    rw [hplace'] at hlocation
    exact Option.some.inj hlocation

theorem archives_of_dot :
    (appleContext.supplied (appleKit ["Kit", "Home"]) ".").toOption =
        some (appleContext.suppliedAt ".") ∧
      (appleContext.supplied (appleKit ["Kit", "Home"]) "/Kit/Home").toOption =
        some (appleContext.suppliedAt "/Kit/Home") ∧
      ((appleContext.suppliedAt ".").runtimeArchive (appleKit ["Kit", "Home"])).toOption =
        some none ∧
      ((appleContext.suppliedAt "/Kit/Home").runtimeArchive (appleKit ["Kit", "Home"])).toOption =
        some (some (.ofLocation ["Kit", "Classes", "classes.jar"])) ∧
      ((appleContext.suppliedAt ".").toolsArchive appleContext
        (appleKit ["Kit", "Home"])).toOption = some none ∧
      ((appleContext.suppliedAt "/Kit/Home").toolsArchive appleContext
        (appleKit ["Kit", "Home"])).toOption =
        some (some (.ofLocation ["Kit", "Classes", "classes.jar"])) := by
  decide +kernel

end Installation

end JavaHome
